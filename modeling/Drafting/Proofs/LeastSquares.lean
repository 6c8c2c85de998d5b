import Mathlib.LinearAlgebra.Matrix.DotProduct
import Drafting.Proofs.Band
import Drafting.Proofs.Exact
import Drafting.Proofs.Pivoting
import Drafting.Proofs.Solve
import Drafting.Solve.Newton
/-! A step of Newton's method over the real numbers. The matrix for the multipliers of the equations makes no unknowns
smaller than the regularization does, so elimination never gives it up, and the step that the multipliers give is the
one of least cost. -/
namespace Drafting

namespace Linear
open Matrix

section Solvable
variable {K : Type} [Field K] [LinearOrder K] [IsStrictOrderedRing K] {n : Nat} {A : Matrix (Fin n) (Fin n) K}
attribute [local instance] Arith.exact

theorem solveFound (keeps : ∀ y, n * (pivotEpsilon * pivotEpsilon) * (y ⬝ᵥ y) ≤ (A *ᵥ y) ⬝ᵥ (A *ᵥ y))
    (b : Fin n → K) (left right : Nat) :
    ∃ y, solve (rowsOf A) (List.ofFn b) left right = some (List.ofFn y) ∧ A *ᵥ y = b := by
  have dense : denseSolve (rowsOf A) (List.ofFn b) ≠ none := by
    intro stops
    obtain ⟨y, small⟩ := denseSolveShrinks stops
    exact absurd small (not_lt.mpr (keeps y))
  have found : solve (rowsOf A) (List.ofFn b) left right ≠ none := by
    unfold solve
    split
    · split
      · exact Option.some_ne_none _
      · exact dense
    · exact dense
  obtain ⟨x, ok⟩ := Option.ne_none_iff_exists'.mp found
  obtain ⟨y, rfl, solution⟩ := (solveOnly ok).solution
  exact ⟨y, ok, solution⟩

end Solvable

theorem realSolveFound {n : Nat} {A : Matrix (Fin n) (Fin n) ℝ}
    (keeps : ∀ y, n * (pivotEpsilon * pivotEpsilon) * (y ⬝ᵥ y) ≤ (A *ᵥ y) ⬝ᵥ (A *ᵥ y)) (b : Fin n → ℝ) (left right : Nat) :
    ∃ y, solve (rowsOf A) (List.ofFn b) left right = some (List.ofFn y) ∧ A *ᵥ y = b := by
  rw [realArith] at keeps ⊢
  exact solveFound keeps b left right

section Cost
variable {m n : Nat} {J : Matrix (Fin m) (Fin n) ℝ} {f : Fin m → ℝ} {r : ℝ}

theorem squareNonneg (v : Fin n → ℝ) : 0 ≤ v ⬝ᵥ v :=
  Finset.sum_nonneg fun i _ => mul_self_nonneg (v i)

/-- What is left of linearized equations, with a charge for the size of the step. -/
def cost (J : Matrix (Fin m) (Fin n) ℝ) (f : Fin m → ℝ) (r : ℝ) (v : Fin n → ℝ) : ℝ :=
  (J *ᵥ v - f) ⬝ᵥ (J *ᵥ v - f) + r * (v ⬝ᵥ v)

def gramOf (J : Matrix (Fin m) (Fin n) ℝ) (r : ℝ) : Matrix (Fin m) (Fin m) ℝ := J * Jᵀ + r • 1

theorem gramApplied (y : Fin m → ℝ) : gramOf J r *ᵥ y = J *ᵥ (Jᵀ *ᵥ y) + r • y := by
  rw [gramOf, add_mulVec, smul_mulVec, one_mulVec, mulVec_mulVec]

theorem acrossTranspose (y : Fin m → ℝ) (v : Fin n → ℝ) : y ⬝ᵥ (J *ᵥ v) = (Jᵀ *ᵥ y) ⬝ᵥ v := by
  rw [dotProduct_mulVec, mulVec_transpose]

theorem gramKeeps (positive : 0 ≤ r) (y : Fin m → ℝ) : r * r * (y ⬝ᵥ y) ≤ (gramOf J r *ᵥ y) ⬝ᵥ (gramOf J r *ᵥ y) := by
  have part : 0 ≤ (J *ᵥ (Jᵀ *ᵥ y)) ⬝ᵥ (J *ᵥ (Jᵀ *ᵥ y)) := squareNonneg _
  have mixed : 0 ≤ y ⬝ᵥ (J *ᵥ (Jᵀ *ᵥ y)) := acrossTranspose (J := J) y (Jᵀ *ᵥ y) ▸ squareNonneg _
  have swapped := dotProduct_comm (J *ᵥ (Jᵀ *ᵥ y)) y
  simp only [gramApplied, add_dotProduct, dotProduct_add, smul_dotProduct, dotProduct_smul, smul_eq_mul, swapped]
  nlinarith [mul_nonneg positive mixed]

theorem costAt {z : Fin m → ℝ} (solved : gramOf J r *ᵥ z = f) (v : Fin n → ℝ) :
    cost J f r v = cost J f r (Jᵀ *ᵥ z) +
      ((J *ᵥ (v - Jᵀ *ᵥ z)) ⬝ᵥ (J *ᵥ (v - Jᵀ *ᵥ z)) + r * ((v - Jᵀ *ᵥ z) ⬝ᵥ (v - Jᵀ *ᵥ z))) := by
  obtain ⟨d, rfl⟩ : ∃ d, v = Jᵀ *ᵥ z + d := ⟨v - Jᵀ *ᵥ z, (add_sub_cancel _ _).symm⟩
  have left : J *ᵥ (Jᵀ *ᵥ z) - f = -(r • z) := by
    rw [← solved, gramApplied, sub_add_cancel_left]
  have leftAfter : J *ᵥ (Jᵀ *ᵥ z + d) - f = J *ᵥ d - r • z := by
    rw [mulVec_add, add_sub_right_comm, left, neg_add_eq_sub]
  have across := acrossTranspose (J := J) z d
  simp only [cost, leftAfter, left, add_sub_cancel_left, sub_dotProduct, dotProduct_sub, add_dotProduct, dotProduct_add,
    neg_dotProduct, dotProduct_neg, smul_dotProduct, dotProduct_smul, smul_eq_mul, dotProduct_comm (J *ᵥ d) z, across,
    dotProduct_comm d (Jᵀ *ᵥ z)]
  ring

theorem costLeast {z : Fin m → ℝ} (positive : 0 < r) (solved : gramOf J r *ᵥ z = f) (v : Fin n → ℝ)
    (other : v ≠ Jᵀ *ᵥ z) : cost J f r (Jᵀ *ᵥ z) < cost J f r v := by
  have apart : 0 < (v - Jᵀ *ᵥ z) ⬝ᵥ (v - Jᵀ *ᵥ z) :=
    (squareNonneg _).lt_of_ne' (mt dotProduct_self_eq_zero.mp (sub_ne_zero.mpr other))
  rw [costAt solved v]
  exact lt_add_of_pos_right _ (add_pos_of_nonneg_of_pos (squareNonneg _) (mul_pos positive apart))

end Cost
end Linear

namespace System
open Linear Matrix

def weight (row : List (Nat × ℝ)) (column : Nat) : ℝ := ((row.filter (·.1 = column)).map Prod.snd).sum

def numeric (sparse : List (List (Nat × ℝ))) (n : Nat) : Matrix (Fin sparse.length) (Fin n) ℝ :=
  fun i j => weight sparse[i] j

theorem weightCons (c : Nat) (d : ℝ) (row : List (Nat × ℝ)) (column : Nat) :
    weight ((c, d) :: row) column = (if c = column then d else 0) + weight row column := by
  by_cases here : c = column
  · simp [weight, here]
  · simp [weight, here]

theorem weightScaled (row : List (Nat × ℝ)) (z : ℝ) (column : Nat) :
    weight (row.map fun (c, d) => (c, d * z)) column = weight row column * z := by
  induction row with
  | nil => simp [weight]
  | cons e row ih =>
    rw [List.map_cons, weightCons, weightCons, ih, add_mul, ite_mul, zero_mul]

theorem added {τ : Type} (term : τ → ℝ) (terms : List τ) (start : ℝ) :
    terms.foldl (fun sum t => sum + term t) start = start + (terms.map term).sum := by
  induction terms generalizing start with
  | nil => simp
  | cons t rest ih => rw [List.foldl_cons, ih, List.map_cons, List.sum_cons, add_assoc]

theorem scatterAt (row : Array ℝ) (entries : List (Nat × ℝ)) {k : Nat} (inside : k < row.size) :
    (scatter row entries)[k]?.getD 0 = row[k]?.getD 0 + weight entries k := by
  induction entries generalizing row with
  | nil => simp [scatter, weight]
  | cons e rest ih =>
    obtain ⟨c, d⟩ := e
    have more : k < (row.modify c (· + d)).size := Array.size_modify.symm ▸ inside
    rw [weightCons]
    refine (ih _ more).trans ?_
    rw [Array.getElem?_modify]
    by_cases here : c = k
    · simp [here, inside, add_assoc]
    · simp [here]

theorem denseAt (n : Nat) (entries : List (Nat × ℝ)) (k : Nat) :
    (scatter (Array.replicate n 0) entries)[k]?.getD 0 = if k < n then weight entries k else 0 := by
  by_cases inside : k < n
  · rw [scatterAt _ _ (by simpa using inside), if_pos inside]
    simp [inside]
  · rw [if_neg inside, Array.getElem?_eq_none (by simpa [scatterSize] using inside)]
    rfl

theorem weightedSum (n : Nat) (row : List (Nat × ℝ)) (g : Nat → ℝ) :
    (row.map fun e => e.2 * if e.1 < n then g e.1 else 0).sum = ∑ j : Fin n, weight row j * g j := by
  rw [Fin.sum_univ_eq_sum_range fun j => weight row j * g j]
  induction row with
  | nil => simp [weight]
  | cons e row ih =>
    have here : e.2 * (if e.1 < n then g e.1 else 0) =
        ∑ j ∈ Finset.range n, (if e.1 = j then e.2 else 0) * g j := by simp [ite_mul, mul_ite]
    rw [List.map_cons, List.sum_cons, ih, here, ← Finset.sum_add_distrib]
    exact Finset.sum_congr rfl fun j _ => by rw [weightCons, add_mul]

theorem sparseDotWeights (n : Nat) (row other : List (Nat × ℝ)) :
    sparseDot row (scatter (Array.replicate n 0) other) = ∑ j : Fin n, weight row j * weight other j := by
  rw [← weightedSum]
  refine (added (fun e : Nat × ℝ => e.2 * (scatter (Array.replicate n 0) other)[e.1]?.getD 0.0) row 0.0).trans ?_
  simp only [exactZero, zero_add, denseAt]

def entry (rows : List (List ℝ)) (i j : Nat) : ℝ := (rows.getD i []).getD j 0

theorem gramUpperCount (r : ℝ) (sparse : List (List (Nat × ℝ))) (dense : List (Array ℝ)) :
    (gramUpper r sparse dense).length = sparse.length := by
  induction sparse generalizing dense with
  | nil => rfl
  | cons row rows ih => exact congrArg (· + 1) (ih dense.tail)

theorem gramUpperEntry (r : ℝ) {sparse : List (List (Nat × ℝ))} {dense : List (Array ℝ)} {i k : Nat}
    (row : i < sparse.length) (column : i + k < dense.length) :
    entry (gramUpper r sparse dense) i k = sparseDot sparse[i] dense[i + k] + if k = 0 then r else 0 := by
  induction sparse generalizing dense i with
  | nil => exact absurd row (Nat.not_lt_zero i)
  | cons first rows ih =>
    obtain ⟨own, later, rfl⟩ := List.exists_cons_of_length_pos (Nat.zero_lt_of_lt column)
    cases i with
    | zero =>
      cases k with
      | zero => simp [entry, gramUpper, gramTail]
      | succ k =>
        have inside : k < later.length := by simpa using column
        simp [entry, gramUpper, gramTail, inside]
    | succ i =>
      have next : i + 1 + k = i + k + 1 := Nat.add_right_comm i 1 k
      have inside : i + k < later.length := by simpa [next] using column
      simp only [next, List.getElem_cons_succ]
      exact ih (Nat.lt_of_succ_lt_succ row) inside

/- The induction is on the rows of the upper half. The columns hold what the rows so far have at the later places, which
is what the later rows have to start with, the matrix being symmetric. -/
theorem fromUpperEntry {e : Nat → Nat → ℝ} (symmetric : ∀ i j, e i j = e j i) (start : Nat)
    (columns : List (List ℝ)) {upper : List (List ℝ)} (count : columns.length = start)
    (above : ∀ c < start, ∀ i < upper.length, entry columns c i = e (start + i) c)
    (onward : ∀ i k, i + k < upper.length → entry upper i k = e (start + i) (start + i + k))
    {i j : Nat} (row : i < upper.length) (column : j < start + upper.length) :
    entry (fromUpper columns upper) i j = e (start + i) j := by
  induction upper generalizing start columns i with
  | nil => exact absurd row (Nat.not_lt_zero i)
  | cons first rest ih =>
    have first' (k : Nat) (inside : k < (first :: rest).length) : first.getD k 0 = e start (start + k) :=
      onward 0 k (by omega)
    cases i with
    | zero =>
      by_cases early : j < start
      · rw [← above j early 0 row]
        simp [entry, fromUpper, count, early, List.getElem?_append_left, List.headD_eq_head?_getD,
          List.head?_eq_getElem?]
      · obtain ⟨k, rfl⟩ := Nat.exists_eq_add_of_le (Nat.not_lt.mp early)
        refine Eq.trans ?_ (first' k (by omega))
        simp [entry, fromUpper, count, List.getElem?_append_right]
    | succ i =>
      have shift (i : Nat) : start + 1 + i = start + (i + 1) := by omega
      have done := ih (start + 1) (columns.map List.tail ++ [first.tail]) (by simp [count]) ?_ ?_
        (Nat.lt_of_succ_lt_succ row) (by rw [shift]; exact column)
      · rw [shift] at done
        exact done
      · intro c early i later
        rw [shift]
        rcases Nat.lt_succ_iff_lt_or_eq.mp early with before | rfl
        · rw [← above c before (i + 1) (Nat.succ_lt_succ later)]
          simp [entry, count, before, List.getElem?_append_left]
        · rw [symmetric, ← first' (i + 1) (Nat.succ_lt_succ later)]
          simp [entry, ← count]
      · intro i k inside
        rw [shift]
        exact onward (i + 1) k (by rw [List.length_cons]; omega)

/-- Each row is one place shorter than the one before it, and the last one is a single place. -/
def Staircase : List (List ℝ) → Prop
  | [] => True
  | row :: rest => row.length = rest.length + 1 ∧ Staircase rest

theorem gramUpperStaircase (r : ℝ) (sparse : List (List (Nat × ℝ))) {dense : List (Array ℝ)}
    (same : sparse.length = dense.length) : Staircase (gramUpper r sparse dense) := by
  induction sparse generalizing dense with
  | nil => trivial
  | cons row rows ih =>
    obtain ⟨own, later, rfl⟩ := List.exists_cons_of_length_eq_add_one same.symm
    have less := Nat.succ.inj same
    refine ⟨?_, ih less⟩
    simp [gramTail, gramUpperCount, less]

theorem fromUpperShape (columns : List (List ℝ)) {upper : List (List ℝ)} (stairs : Staircase upper) :
    (fromUpper columns upper).length = upper.length ∧
      ∀ row ∈ fromUpper columns upper, row.length = columns.length + upper.length := by
  induction upper generalizing columns with
  | nil => simp [fromUpper]
  | cons first rest ih =>
    obtain ⟨count, widths⟩ := ih (columns.map List.tail ++ [first.tail]) stairs.2
    simp only [fromUpper, List.length_cons, count, List.forall_mem_cons, true_and]
    constructor
    · simp [stairs.1]
    · intro row member
      rw [widths row member]
      simp [Nat.add_right_comm, Nat.add_assoc]

theorem gramRows (sparse : List (List (Nat × ℝ))) (n : Nat) (r : ℝ) :
    fromUpper [] (gramUpper r sparse (sparse.map (scatter (Array.replicate n 0)))) =
      rowsOf (gramOf (numeric sparse n) r) := by
  let dense := sparse.map (scatter (Array.replicate n 0))
  let e (i j : Nat) : ℝ :=
    ∑ k : Fin n, weight (sparse.getD i []) k * weight (sparse.getD j []) k + if i = j then r else 0
  have symmetric (i j : Nat) : e i j = e j i := by simp only [e, mul_comm, eq_comm]
  have count : (gramUpper r sparse dense).length = sparse.length := gramUpperCount r sparse dense
  have upper (i k : Nat) (inside : i + k < (gramUpper r sparse dense).length) :
      entry (gramUpper r sparse dense) i k = e (0 + i) (0 + i + k) := by
    rw [count] at inside
    have row : i < sparse.length := by omega
    rw [gramUpperEntry r row (by simpa [dense] using inside)]
    simp [dense, e, sparseDotWeights, row, inside]
  have stairs : Staircase (gramUpper r sparse dense) := gramUpperStaircase r sparse (sparse.length_map _).symm
  obtain ⟨rows, widths⟩ := fromUpperShape [] stairs
  change fromUpper [] (gramUpper r sparse dense) = _
  refine List.ext_getElem (by rw [rows, count, rowsOf, List.length_ofFn]) fun i before _ => ?_
  have width := widths _ (List.getElem_mem before)
  rw [List.length_nil, Nat.zero_add, count] at width
  rw [rows, count] at before
  refine List.ext_getElem (by simp [rowsOf, width]) fun j column _ => ?_
  rw [width] at column
  have found := fromUpperEntry symmetric 0 [] rfl (by simp) upper (count.symm ▸ before) (j := j) (by omega)
  simp only [entry, List.getD_eq_getElem?_getD] at found
  simpa [rowsOf, e, gramOf, numeric, Matrix.mul_apply, Matrix.one_apply, before, column, width, rows, count] using found

theorem gatheredAt (pairs : List (List (Nat × ℝ) × ℝ)) (dx : Array ℝ) {k : Nat} (inside : k < dx.size) :
    (pairs.foldl (fun dx (row, zr) => scatter dx (row.map fun (column, d) => (column, d * zr))) dx)[k]?.getD 0 =
      dx[k]?.getD 0 + (pairs.map fun p => weight p.1 k * p.2).sum := by
  induction pairs generalizing dx with
  | nil => simp
  | cons p rest ih =>
    have more : k < (scatter dx (p.1.map fun (column, d) => (column, d * p.2))).size := by rwa [scatterSize]
    rw [List.foldl_cons, ih _ more, scatterAt _ _ inside, weightScaled, List.map_cons, List.sum_cons, add_assoc]

theorem gathered (sparse : List (List (Nat × ℝ))) (n : Nat) (z : Fin sparse.length → ℝ) :
    (sparse.zip (List.ofFn z)).foldl (fun dx (row, zr) => scatter dx (row.map fun (column, d) => (column, d * zr)))
      (Array.replicate n 0) = Array.ofFn ((numeric sparse n)ᵀ *ᵥ z) := by
  have pairs (k : Nat) : (sparse.zip (List.ofFn z)).map (fun p => weight p.1 k * p.2) =
      List.ofFn fun i => weight sparse[i] k * z i := List.ext_getElem (by simp) (by simp)
  refine Array.ext ?_ fun k before after => ?_
  · rw [foldlSize fun row p => scatterSize row _]
    simp
  · have inside : k < n := by simpa using after
    have whole := gatheredAt (sparse.zip (List.ofFn z)) (Array.replicate n 0) (k := k) (by simpa using inside)
    rw [Array.getElem?_eq_getElem before, Option.getD_some] at whole
    rw [whole, pairs, List.sum_ofFn, Array.getElem_ofFn]
    simp [inside, numeric, mulVec, dotProduct]

theorem stepMinimises (sys : System ℝ) (config : SolverConfig ℝ) (x : Array ℝ)
    (f : Fin (sys.jacobianAt x).length → ℝ) (positive : 0 < config.regularization)
    (enough : pivotEpsilon * √(sys.jacobianAt x).length ≤ config.regularization) :
    ∃ dx : Fin sys.unknowns.length → ℝ, sys.step config x (List.ofFn f) = some (Array.ofFn dx) ∧
      ∀ v, v ≠ dx → cost (numeric (sys.jacobianAt x) sys.unknowns.length) f config.regularization dx <
        cost (numeric (sys.jacobianAt x) sys.unknowns.length) f config.regularization v := by
  let J := numeric (sys.jacobianAt x) sys.unknowns.length
  let r := config.regularization
  have tiny : (0 : ℝ) ≤ pivotEpsilon := by norm_num [pivotEpsilon]
  have bound : (sys.jacobianAt x).length * ((pivotEpsilon : ℝ) * pivotEpsilon) ≤ r * r := by
    have both := mul_self_le_mul_self (mul_nonneg tiny (Real.sqrt_nonneg _)) enough
    rwa [mul_mul_mul_comm, Real.mul_self_sqrt (Nat.cast_nonneg _), mul_comm] at both
  have keeps (y : Fin (sys.jacobianAt x).length → ℝ) : (sys.jacobianAt x).length * (pivotEpsilon * pivotEpsilon) * (y ⬝ᵥ y) ≤
      (gramOf J r *ᵥ y) ⬝ᵥ (gramOf J r *ᵥ y) :=
    (mul_le_mul_of_nonneg_right bound (squareNonneg y)).trans (gramKeeps positive.le y)
  obtain ⟨z, solved, holds⟩ := realSolveFound keeps f config.bandLeft config.bandRight
  refine ⟨Jᵀ *ᵥ z, ?_, costLeast positive holds⟩
  unfold step denseRows
  simp only [exactZero]
  rw [gramRows, solved]
  exact congrArg some (gathered _ _ z)

noncomputable def torn : System ℝ where
  unknowns := [.request ⟨1⟩ 0]
  index := columns [.request ⟨1⟩ 0]
  equations := [⟨⟨.constraint ⟨1⟩, 0⟩, .param (.request ⟨1⟩ 0) - .const 1⟩,
    ⟨⟨.constraint ⟨2⟩, 0⟩, .param (.request ⟨1⟩ 0) - .const 3⟩]
  jacobian := [[(0, .const 1)], [(0, .const 1)]]

theorem tornStep :
    let config : SolverConfig ℝ := .standard
    0 < config.regularization ∧ pivotEpsilon * √(2 : Nat) ≤ config.regularization ∧
      ∃ dx : Fin 1 → ℝ, torn.step config #[0] [-1, -3] = some (Array.ofFn dx) ∧ ∀ v, v ≠ dx →
        cost (numeric [[(0, 1)], [(0, 1)]] 1) ![-1, -3] config.regularization dx <
          cost (numeric [[(0, 1)], [(0, 1)]] 1) ![-1, -3] config.regularization v := by
  intro config
  have positive : 0 < config.regularization := by norm_num [config, SolverConfig.standard]
  have root : √(2 : Nat) ≤ 2 := Real.sqrt_le_iff.mpr (by norm_num)
  have enough : pivotEpsilon * √(2 : Nat) ≤ config.regularization := by
    refine (mul_le_mul_of_nonneg_left root (by norm_num [pivotEpsilon])).trans ?_
    norm_num [config, SolverConfig.standard, pivotEpsilon]
  obtain ⟨dx, found, least⟩ := stepMinimises torn config #[0] ![-1, -3] positive enough
  exact ⟨positive, enough, dx, found, least⟩

end System
end Drafting
