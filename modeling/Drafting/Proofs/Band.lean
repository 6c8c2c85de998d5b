import Mathlib.Algebra.Field.Rat
import Mathlib.Algebra.Order.Ring.Rat
import Mathlib.LinearAlgebra.Matrix.Notation
import Drafting.Proofs.Elimination
import Drafting.Proofs.Result
import Drafting.Proofs.Storage
/-! Elimination within a band over an exact ordered field. What is stored is always a system with the same solutions:
a row is taken off those that the band lets it reach, and the others have nothing in its column. -/
namespace Drafting.Linear
open Matrix

section Systems
variable {K : Type} [Field K] {n : Nat} {A A₀ : Matrix (Fin n) (Fin n) K} {b b₀ : Fin n → K}

theorem rowTakenOff {i k : Fin n} (apart : i ≠ k) (f : K) (y : Fin n → K) :
    A.updateRow k (A k - f • A i) *ᵥ y = Function.update b k (b k - f * b i) ↔ A *ᵥ y = b := by
  have others (r : Fin n) (other : r ≠ k) :
      (A.updateRow k (A k - f • A i) *ᵥ y) r = Function.update b k (b k - f * b i) r ↔ (A *ᵥ y) r = b r := by
    rw [Function.update_of_ne other, mulVec, Matrix.updateRow_ne other]
    rfl
  have taken : (A.updateRow k (A k - f • A i) *ᵥ y) k = (A *ᵥ y) k - f * (A *ᵥ y) i := by
    rw [mulVec, Matrix.updateRow_self, sub_dotProduct, smul_dotProduct]
    rfl
  constructor
  · intro left
    have pivot := (others i apart).mp (congrFun left i)
    funext r
    by_cases here : r = k
    · subst here
      have left := congrFun left r
      rw [taken, Function.update_self, pivot] at left
      exact sub_left_injective left
    · exact (others r here).mp (congrFun left r)
  · intro whole
    funext r
    by_cases here : r = k
    · subst here
      rw [taken, Function.update_self, whole]
    · exact (others r here).mpr (congrFun whole r)

structure Eliminated (A₀ : Matrix (Fin n) (Fin n) K) (b₀ : Fin n → K) (i : Nat) (A : Matrix (Fin n) (Fin n) K)
    (b : Fin n → K) : Prop where
  below : ∀ r c : Fin n, c < i → c < r → A r c = 0
  pivots : ∀ r : Fin n, r < i → A r r ≠ 0
  same : ∀ y, A *ᵥ y = b ↔ A₀ *ᵥ y = b₀

theorem Eliminated.rowTaken {i k : Fin n} (done : Eliminated A₀ b₀ i A b) (later : i < k) (f : K) :
    Eliminated A₀ b₀ i (A.updateRow k (A k - f • A i)) (Function.update b k (b k - f * b i)) := by
  refine ⟨fun r c column row => ?_, fun r early => ?_, fun y => (rowTakenOff later.ne f y).trans (done.same y)⟩
  · by_cases here : r = k
    · subst here
      rw [Matrix.updateRow_self, Pi.sub_apply, Pi.smul_apply, done.below r c column row, done.below i c column column,
        smul_zero, sub_zero]
    · rw [Matrix.updateRow_ne here]
      exact done.below r c column row
  · rw [Matrix.updateRow_ne (Fin.ne_of_lt (lt_trans early later))]
    exact done.pivots r early

theorem Eliminated.next {i : Fin n} (done : Eliminated A₀ b₀ i A b) (usable : A i i ≠ 0)
    (clear : ∀ r, i < r → A r i = 0) : Eliminated A₀ b₀ (i + 1) A b := by
  refine ⟨fun r c column row => ?_, fun r early => ?_, done.same⟩
  · rcases Nat.lt_succ_iff_lt_or_eq.mp column with before | here
    · exact done.below r c before row
    · obtain rfl := Fin.ext here
      exact clear r row
  · rcases Nat.lt_succ_iff_lt_or_eq.mp early with before | here
    · exact done.pivots r before
    · obtain rfl := Fin.ext here
      exact usable

theorem fromOn (k : Fin n) (P : Fin n → Prop) :
    (∀ r : Fin n, (k : Nat) ≤ r → P r) ↔ P k ∧ ∀ r : Fin n, k + 1 ≤ (r : Nat) → P r := by
  constructor
  · exact fun all => ⟨all k le_rfl, fun r after => all r (Nat.le_of_succ_le after)⟩
  · rintro ⟨here, after⟩ r onward
    rcases Nat.eq_or_lt_of_le onward with same | beyond
    · exact Fin.ext same ▸ here
    · exact after r beyond

end Systems

namespace Banded
variable {K : Type} [Field K] [LinearOrder K] {n below above : Nat} {m m' : Banded K}
  {A A₀ : Matrix (Fin n) (Fin n) K} {b b₀ : Fin n → K}
attribute [local instance] Arith.exact

structure Stores (m : Banded K) (below above : Nat) (A : Matrix (Fin n) (Fin n) K) (b : Fin n → K) : Prop where
  shape : Shaped m n below above
  entry : ∀ i j : Fin n, m.get i j = A i j
  constant : ∀ i : Fin n, m.rhs.getD i 0.0 = b i

theorem keptExact (x : K) : kept x = x := by
  unfold kept
  split
  · rename_i zero
    exact (of_decide_eq_true zero).symm
  · rfl

theorem unstored {i j : Nat} (absent : ¬ m.fits i j) : m.get i j = 0 := by
  rw [get, if_neg absent]
  exact exactNothing

theorem storesDense (ok : ofDense? (rowsOf A) (List.ofFn b) below above = some m) : Stores m below above A b := by
  have widths (row : List K) (member : row ∈ rowsOf A) : row.length ≤ (List.ofFn b).length := by
    obtain ⟨i, rfl⟩ := List.mem_ofFn.mp member
    rw [List.length_ofFn, List.length_ofFn]
  obtain ⟨shape, given, rhs⟩ := ofDenseGives ok (by rw [rowsOf, List.length_ofFn, List.length_ofFn]) widths
  rw [List.length_ofFn] at shape
  refine ⟨shape, fun i j => ?_, fun i => ?_⟩
  · rw [given i (List.ofFn (A i)) (by simp [rowsOf]) j (A i j) (by simp), keptExact]
  · simp [rhs]

theorem blank {i : Fin n} {j : Nat} (stores : Stores m below above A b) (cleared : ∀ c < i, A i c = 0) (inside : j < n)
    (absent : j ∉ m.columns i i) : m.get i j = 0 := by
  rcases Nat.lt_or_ge j i with before | onward
  · exact (stores.entry i ⟨j, inside⟩).trans (cleared ⟨j, inside⟩ before)
  · exact unstored fun place => absent ((memColumns stores.shape le_rfl).mpr ⟨onward, inside, place⟩)

theorem rowReduced {i k : Fin n} (stores : Stores m below above A b) (later : i < k) (near : k ≤ (i : Nat) + below)
    (cleared : ∀ c < i, A i c = 0) (lead : K) :
    Stores (reduceRow i lead m k) below above (A.updateRow k (A k - (A k i / lead) • A i))
      (Function.update b k (b k - A k i / lead * b i)) := by
  have shape := stores.shape
  rw [← stores.entry k i]
  by_cases none : m.get k i / lead == 0.0
  · have same : reduceRow i lead m k = m := if_pos none
    have none : m.get k i / lead = 0 := (of_decide_eq_true none).trans exactNothing
    rw [same, none, zero_smul, sub_zero, zero_mul, sub_zero, Matrix.updateRow_eq_self, Function.update_eq_self]
    exact stores
  · have places (j : Nat) := columnsReached (j := j) shape later near
    obtain ⟨shape', rhs, gives⟩ := takeOffGives (i := i) shape k.isLt (m.get k i / lead) (columnsOnce shape le_rfl) places
    rw [reduceRowTakes shape later k.isLt near lead none]
    refine ⟨shape'.setRhs .., fun r c => ?_, fun r => ?_⟩
    · rw [getSetRhs, gives r c c.isLt]
      by_cases row : r = k
      · subst row
        rw [Matrix.updateRow_self, Pi.sub_apply, Pi.smul_apply, smul_eq_mul, stores.entry r c, stores.entry i c]
        split
        · rfl
        · rename_i untouched
          -- A column that is left out has nothing to take off.
          have nothing := blank stores cleared c.isLt fun member => untouched ⟨rfl, member⟩
          rw [← stores.entry i c, nothing, mul_zero, sub_zero]
      · rw [Matrix.updateRow_ne row, if_neg (fun taken => row (Fin.ext taken.1)), stores.entry r c]
    · have inside : (k : Nat) < (m.takeOff i k (m.get k i / lead) (m.columns i i)).rhs.size :=
        shape'.rhs.symm ▸ k.isLt
      refine (getDSet inside r _ _).trans ?_
      rw [rhs, stores.constant r, stores.constant k, stores.constant i, Function.update_apply]
      exact if_congr Fin.val_inj rfl rfl

/- The induction is on the rows that are left to reduce; a row later than the pivot's is one of them or has nothing
in its column. -/
theorem rowsReduced {i : Fin n} {lead : K} {rows : List Nat} (stores : Stores m below above A b)
    (done : Eliminated A₀ b₀ i A b) (pivot : A i i = lead) (usable : lead ≠ 0)
    (reached : ∀ k ∈ rows, i < k ∧ k < n ∧ k ≤ i + below) (due : ∀ r : Fin n, i < r → A r i = 0 ∨ (r : Nat) ∈ rows) :
    ∃ A' b', Stores (rows.foldl (reduceRow i lead) m) below above A' b' ∧ Eliminated A₀ b₀ (i + 1) A' b' := by
  induction rows generalizing m A b with
  | nil =>
    exact ⟨A, b, stores, done.next (pivot.symm ▸ usable) fun r row => (due r row).resolve_right List.not_mem_nil⟩
  | cons row rest ih =>
    obtain ⟨later, inside, near⟩ := reached row List.mem_cons_self
    obtain ⟨k, rfl⟩ : ∃ k : Fin n, (k : Nat) = row := ⟨⟨row, inside⟩, rfl⟩
    have later : i < k := later
    have cleared (c : Fin n) (before : c < i) : A i c = 0 := done.below i c before before
    refine ih (rowReduced stores later near cleared lead) (done.rowTaken later _) ?_
      (fun k member => reached k (.tail _ member)) fun r row => ?_
    · rw [Matrix.updateRow_ne later.ne]
      exact pivot
    · by_cases here : r = k
      · subst here
        left
        rw [Matrix.updateRow_self, Pi.sub_apply, Pi.smul_apply, pivot, smul_eq_mul, div_mul_cancel₀ _ usable, sub_self]
      · rw [Matrix.updateRow_ne here]
        exact (due r row).imp_right fun member =>
          (List.mem_cons.mp member).resolve_left fun same => here (Fin.ext same)

theorem columnEliminated [IsStrictOrderedRing K] {i : Fin n} (stores : Stores m below above A b)
    (done : Eliminated A₀ b₀ i A b) (ok : m.eliminate i = .ok m') :
    ∃ A' b', Stores m' below above A' b' ∧ Eliminated A₀ b₀ (i + 1) A' b' := by
  have shape := stores.shape
  unfold eliminate at ok
  dsimp only at ok
  split at ok
  · cases ok
  · rename_i enough
    cases ok
    refine rowsReduced stores done (stores.entry i i).symm ?_ ?_ fun r later => ?_
    · intro none
      refine enough ?_
      rw [none]
      change |(0 : K)| < pivotEpsilon
      rw [abs_zero]
      exact pivotPositive
    · intro k member
      rw [rowsBelow, List.mem_range'_1, shape.left, shape.size] at member
      omega
    · by_cases near : (r : Nat) ≤ i + below
      · right
        rw [rowsBelow, List.mem_range'_1, shape.left, shape.size]
        omega
      · left
        -- The pivot's column is not a full one: a pivot in those has at most one row after it, which is in reach.
        rw [← stores.entry r i]
        refine unstored fun place => ?_
        have place := shape.fitsIff.mp place
        have lower := shape.lower
        unfold tailWidth at place
        omega

theorem columnsEliminated [IsStrictOrderedRing K] {k : Nat} (enough : k ≤ n) (stores : Stores m below above A b)
    (ok : (List.range k).foldlM eliminate m = .ok m') :
    ∃ A' b', Stores m' below above A' b' ∧ Eliminated A b k A' b' := by
  induction k generalizing m' with
  | zero =>
    cases ok
    exact ⟨A, b, stores, fun _ _ before => absurd before (Nat.not_lt_zero _),
      fun _ before => absurd before (Nat.not_lt_zero _), fun _ => Iff.rfl⟩
  | succ k ih =>
    rw [List.range_succ, List.foldlM_append] at ok
    obtain ⟨half, first, last⟩ := Result.bindOk.mp ok
    rw [List.foldlM_cons] at last
    obtain ⟨whole, step, same⟩ := Result.bindOk.mp last
    cases same
    obtain ⟨A', b', stores', done⟩ := ih (Nat.le_of_succ_le enough) first
    exact columnEliminated (i := ⟨k, enough⟩) stores' done step

structure Solved (A : Matrix (Fin n) (Fin n) K) (b : Fin n → K) (k : Nat) (x : Array K) : Prop where
  size : x.size = n
  only : ∀ y, (∀ r : Fin n, k ≤ r → (A *ᵥ y) r = b r) ↔ ∀ r : Fin n, k ≤ r → y r = x.getD r 0.0

theorem rowEquation {k : Fin n} {x : Array K} {y : Fin n → K} (stores : Stores m below above A b)
    (cleared : ∀ c < k, A k c = 0) (known : ∀ r : Fin n, k < r → y r = x.getD r 0.0) :
    (A *ᵥ y) k = A k k * y k + ((m.columns k (k + 1)).map fun j => m.get k j * x.getD j 0.0).sum := by
  have shape := stores.shape
  let term (j : Nat) : K := m.get k j * if inside : j < n then y ⟨j, inside⟩ else 0
  have there (j : Fin n) : term j = A k j * y j := by
    simp only [term, j.isLt, dif_pos, stores.entry k j]
  have mem (j : Nat) := memColumns (i := k) (j := j) shape (Nat.le_succ k)
  have once : ((k : Nat) :: m.columns k (k + 1)).Nodup :=
    List.nodup_cons.mpr ⟨fun member => Nat.lt_irrefl _ ((mem k).mp member).1, columnsOnce shape (Nat.le_succ k)⟩
  calc
    (A *ᵥ y) k = ∑ j : Fin n, A k j * y j := rfl
    _ = ∑ j : Fin n, term j := Finset.sum_congr rfl fun j _ => (there j).symm
    _ = ∑ j ∈ Finset.range n, term j := (Finset.sum_range term).symm
    _ = ∑ j ∈ ((k : Nat) :: m.columns k (k + 1)).toFinset, term j := by
      refine (Finset.sum_subset (fun j member => ?_) fun j inside absent => ?_).symm
      · rcases List.mem_cons.mp (List.mem_toFinset.mp member) with rfl | later
        · exact Finset.mem_range.mpr k.isLt
        · exact Finset.mem_range.mpr ((mem j).mp later).2.1
      · have inside := Finset.mem_range.mp inside
        rw [List.mem_toFinset, List.mem_cons, not_or, mem] at absent
        have nothing := blank stores cleared inside fun member =>
          have ⟨onward, inside, place⟩ := (memColumns shape le_rfl).mp member
          absent.2 ⟨by omega, inside, place⟩
        simp only [term, nothing, zero_mul]
    _ = (((k : Nat) :: m.columns k (k + 1)).map term).sum := List.sum_toFinset term once
    _ = A k k * y k + ((m.columns k (k + 1)).map term).sum := by rw [List.map_cons, List.sum_cons, there]
    _ = _ := by
      refine congrArg (A k k * y k + ·.sum) (List.map_congr_left fun j member => ?_)
      obtain ⟨later, inside, -⟩ := (mem j).mp member
      simp only [term, inside, dif_pos, known ⟨j, inside⟩ later]

theorem unknownGives {k : Fin n} {x : Array K} (stores : Stores m below above A b) :
    m.unknown x k = x.setIfInBounds k
      ((b k - ((m.columns k (k + 1)).map fun j => m.get k j * x.getD j 0.0).sum) / A k k) := by
  rw [← takenOff, ← stores.constant k, ← stores.entry k k, columns, List.foldl_append]
  rfl

theorem unknownSolves {k : Fin n} {x : Array K} (stores : Stores m below above A b) (done : Eliminated A₀ b₀ n A b)
    (solved : Solved A b (k + 1) x) : Solved A b k (m.unknown x k) := by
  rw [unknownGives stores]
  have inside : (k : Nat) < x.size := solved.size.symm ▸ k.isLt
  refine ⟨Array.size_setIfInBounds.trans solved.size, fun y => ?_⟩
  rw [fromOn, fromOn, solved.only, getDSet inside, if_pos rfl]
  have others : (∀ r : Fin n, k + 1 ≤ (r : Nat) → y r = (x.setIfInBounds k
      ((b k - ((m.columns k (k + 1)).map fun j => m.get k j * x.getD j 0.0).sum) / A k k)).getD r 0.0) ↔
      ∀ r : Fin n, k + 1 ≤ (r : Nat) → y r = x.getD r 0.0 :=
    forall₂_congr fun r after => by rw [getDSet inside, if_neg (Nat.ne_of_gt after)]
  rw [others]
  refine and_congr_left fun known => ?_
  rw [rowEquation stores (fun c before => done.below k c c.isLt before) known]
  exact leadIff (done.pivots k k.isLt)

theorem unknownsSolve {k : Nat} {x : Array K} (enough : k ≤ n) (stores : Stores m below above A b)
    (done : Eliminated A₀ b₀ n A b) (solved : Solved A b k x) :
    Solved A b 0 ((List.range k).reverse.foldl m.unknown x) := by
  induction k generalizing x with
  | zero => exact solved
  | succ k ih =>
    rw [List.range_succ, List.reverse_append, List.foldl_append]
    exact ih (Nat.le_of_succ_le enough) (unknownSolves (k := ⟨k, enough⟩) stores done solved)

theorem solveGives [IsStrictOrderedRing K] {x : List K} (stores : Stores m below above A b) (ok : m.solve = .ok x) :
    OnlySolution A b x := by
  obtain ⟨last, steps, same⟩ := Result.bindOk.mp ok
  cases same
  rw [stores.shape.size] at steps
  obtain ⟨A', b', stores', done⟩ := columnsEliminated le_rfl stores steps
  have start : Solved A' b' n (Array.replicate n (0.0 : K)) :=
    ⟨Array.size_replicate, fun y => iff_of_true (fun r after => absurd r.isLt (Nat.not_lt.mpr after))
      fun r after => absurd r.isLt (Nat.not_lt.mpr after)⟩
  have solved := unknownsSolve le_rfl stores' done start
  rw [stores'.shape.size]
  generalize (List.range n).reverse.foldl last.unknown (Array.replicate n (0.0 : K)) = x at solved
  refine ⟨fun r => x.getD r 0.0, List.ext_getElem ?_ ?_, fun z => ?_⟩
  · simp [solved.size]
  · intro r before after
    rw [List.getElem_ofFn, Array.getElem_toList, Array.getD_eq_getD_getElem?, Array.getElem?_eq_getElem before,
      Option.getD_some]
  · rw [← done.same, funext_iff, funext_iff]
    simpa using solved.only z

end Banded

section Agreement
variable {K : Type} [Field K] [LinearOrder K] [IsStrictOrderedRing K]
attribute [local instance] Arith.exact

theorem solveOnly {n : Nat} {A : Matrix (Fin n) (Fin n) K} {b : Fin n → K} {left right : Nat} {x : List K}
    (ok : solve (rowsOf A) (List.ofFn b) left right = some x) : OnlySolution A b x := by
  unfold solve at ok
  split at ok
  · rename_i y found
    obtain ⟨m, stored, solved⟩ := Option.map_eq_some_iff.mp found
    split at ok
    · cases ok
      exact Banded.solveGives (Banded.storesDense stored) solved
    · exact denseSolves ok
  · exact denseSolves ok

theorem bandAgreesWithDense (n : Nat) (A : Matrix (Fin n) (Fin n) K) (b : Fin n → K) (left right : Nat) :
    (∀ m x, Banded.ofDense? (rowsOf A) (List.ofFn b) left right = some m → m.solve = .ok x →
      (∃ y, x = List.ofFn y ∧ A *ᵥ y = b) ∧ A.det ≠ 0 ∧
        ∀ y, denseSolve (rowsOf A) (List.ofFn b) = some y → y = x) ∧
    (∀ x, solve (rowsOf A) (List.ofFn b) left right = some x → ∃ y, x = List.ofFn y ∧ A *ᵥ y = b) ∧
    (A.det = 0 → solve (rowsOf A) (List.ofFn b) left right = none) := by
  refine ⟨fun m x stored solved => ?_, fun x ok => (solveOnly ok).solution, fun singular => ?_⟩
  · have only := Banded.solveGives (Banded.storesDense stored) solved
    exact ⟨only.solution, only.nonsingular, fun y dense => (denseSolves dense).unique only⟩
  · refine Option.eq_none_iff_forall_ne_some.mpr fun x ok => ?_
    exact (solveOnly ok).nonsingular singular

theorem tridiagonalSolved :
    let A : Matrix (Fin 4) (Fin 4) ℚ := !![2, -1, 0, 0; -1, 2, -1, 0; 0, -1, 2, -1; 0, 0, -1, 2]
    let b : Fin 4 → ℚ := ![1, 0, 0, 1]
    (Banded.ofDense? (rowsOf A) (List.ofFn b) 1 1).map Banded.solve = some (.ok [1, 1, 1, 1]) ∧
      (∃ y, [1, 1, 1, 1] = List.ofFn y ∧ A *ᵥ y = b) ∧ A.det ≠ 0 := by
  intro A b
  have found : (Banded.ofDense? (rowsOf A) (List.ofFn b) 1 1).map Banded.solve = some (.ok [1, 1, 1, 1]) := by
    decide +kernel
  obtain ⟨m, stored, solved⟩ := Option.map_eq_some_iff.mp found
  obtain ⟨solution, nonsingular, -⟩ := (bandAgreesWithDense 4 A b 1 1).1 m _ stored solved
  exact ⟨found, solution, nonsingular⟩

end Agreement
end Drafting.Linear
