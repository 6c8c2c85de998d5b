import Mathlib.Algebra.Field.Rat
import Mathlib.Algebra.Order.BigOperators.Group.List
import Mathlib.Algebra.Order.Ring.Rat
import Mathlib.LinearAlgebra.Matrix.Notation
import Drafting.Proofs.Elimination
/-! Partial pivoting over an exact ordered field. Elimination gives up just where all leading coefficients that are left
are too small. The steps before it do not shrink what a system makes of its unknowns, so there are some that the
whole system nearly takes to nothing. -/
namespace Drafting.Linear

section Squares
variable {K : Type} [Field K] {n : Nat}
open Matrix

def squares (x : List K) : K := (x.map fun a => a * a).sum

theorem squaresCons (a : K) (x : List K) : squares (a :: x) = a * a + squares x := rfl

theorem squaresPerm {x y : List K} (perm : x.Perm y) : squares x = squares y := (perm.map _).sum_eq

theorem squaresOfFn (y : Fin n → K) : squares (List.ofFn y) = y ⬝ᵥ y := by
  rw [squares, List.map_ofFn, List.sum_ofFn]
  rfl

theorem dotNothing (as : List K) (k : Nat) : dot as (List.replicate k 0) = 0 := by
  induction as generalizing k with
  | nil => simp [dot]
  | cons a as ih =>
    cases k with
    | zero => simp [dot]
    | succ k => rw [List.replicate_succ, dotCons, ih, mul_zero, add_zero]

end Squares

section Steps
variable {K : Type} [Field K] [LinearOrder K] {rows left others others' : List (Row K)} {p p' r : Row K} {n i : Nat}
attribute [local instance] Arith.exact

theorem Front.largest (front : Front rows p others) (member : r ∈ rows) : |r.lead| ≤ |p.lead| := by
  cases front with
  | stays largest =>
    rcases List.mem_cons.mp member with same | inside
    · rw [same]
    · exact largest r inside
  | trades smaller largest =>
    simp only [List.mem_cons, List.mem_append] at member smaller
    rcases member with same | inside | same | inside
    · exact (smaller r (.inl same)).le
    · exact (smaller r (.inr inside)).le
    · rw [same]
    · exact largest r inside

theorem Front.mem (front : Front rows p others) : p ∈ rows := front.perm.mem_iff.mp List.mem_cons_self

theorem Front.unique (front : Front rows p others) (front' : Front rows p' others') : p = p' ∧ others = others' := by
  have high := front'.largest front.mem
  have high' := front.largest front'.mem
  cases front with
  | stays =>
    cases front' with
    | stays => exact ⟨rfl, rfl⟩
    | trades smaller => exact absurd (smaller p List.mem_cons_self) (not_lt.mpr high')
  | @trades first before _ after smaller largest =>
    generalize whole : before ++ p :: after = rest at front'
    cases front' with
    | stays => exact absurd (smaller p' List.mem_cons_self) (not_lt.mpr high)
    | @trades _ before' _ after' smaller' largest' =>
      rcases List.append_eq_append_iff.mp whole with ⟨between, rfl, split⟩ | ⟨between, rfl, split⟩
      · cases between with
        | nil =>
          cases split
          simp
        | cons q between =>
          cases split
          exact absurd (smaller' p (by simp)) (not_lt.mpr high')
      · cases between with
        | nil =>
          cases split
          simp
        | cons q between =>
          cases split
          exact absurd (smaller p' (by simp)) (not_lt.mpr high)

/-- What is left of a system after some steps of the elimination, each with a pivot that is large enough. -/
inductive Reaches : Nat → List (Row K) → List (Row K) → Prop where
  | start (rows : List (Row K)) : Reaches 0 rows rows
  | step {i : Nat} {rows others left : List (Row K)} {p : Row K} (front : Front rows p others) (usable : pivotEpsilon ≤ |p.lead|)
      (next : Reaches i (others.map p.reduce) left) : Reaches (i + 1) rows left

def Stuck (rows : List (Row K)) : Prop := ∀ r ∈ rows, |r.lead| < pivotEpsilon

/- The induction is on the number of steps that are to be made. -/
theorem echelonStuck (square : Square n rows) : echelon n rows = none ↔
    ∃ i < n, ∃ left, Reaches i rows left ∧ Square (n - i) left ∧ Stuck left := by
  induction n generalizing rows with
  | zero => simp [echelon]
  | succ n ih =>
    obtain ⟨p, others, front, step⟩ := echelonCons n (List.ne_nil_of_length_eq_add_one square.count)
    rw [step]
    by_cases usable : pivotEpsilon ≤ |p.lead|
    · rw [if_pos usable, Option.map_eq_none_iff, ih (square.front front).reduced]
      constructor
      · intro stops
        obtain ⟨i, fewer, left, reached, again, stuck⟩ := stops
        exact ⟨i + 1, by omega, left, .step front usable reached, by rwa [Nat.add_sub_add_right], stuck⟩
      · intro stops
        obtain ⟨i, fewer, left, reached, again, stuck⟩ := stops
        cases reached with
        | start => exact absurd (stuck p front.mem) (not_lt.mpr usable)
        | @step i _ _ _ _ front' usable' next =>
          obtain ⟨rfl, rfl⟩ := front.unique front'
          exact ⟨i, by omega, left, next, by rwa [Nat.add_sub_add_right] at again, stuck⟩
    · rw [if_neg usable]
      have small : Stuck rows := fun r member => (front.largest member).trans_lt (not_le.mp usable)
      exact iff_of_true rfl ⟨0, by omega, rows, .start rows, square, small⟩

theorem reduceDot {x : K} {xs : List K} (lead : p.lead ≠ 0) (some : p.coeffs ≠ [])
    (same : r.coeffs.length = p.coeffs.length) (nothing : dot p.coeffs (x :: xs) = 0) :
    dot (p.reduce r).coeffs xs = dot r.coeffs (x :: xs) := by
  have holds := (reduceHolds (p := ⟨p.coeffs, 0⟩) (r := ⟨r.coeffs, dot r.coeffs (x :: xs)⟩) lead some same nothing).mpr rfl
  unfold Row.reduce Row.lead Row.Holds at holds
  unfold Row.reduce Row.lead
  dsimp only at holds ⊢
  split at holds
  · rename_i none
    rw [if_pos none]
    exact holds
  · rename_i usable
    rw [if_neg usable, holds, mul_zero, sub_zero]

variable [IsStrictOrderedRing K]

/- The induction is on the steps: each one leaves a first unknown to choose, and it is chosen so that the pivot row
comes to nothing. -/
theorem Reaches.unshrunk {w : List K} (square : Square n rows) (reached : Reaches i rows left) (full : w.length = n - i) :
    ∃ y : List K, y.length = n ∧ squares w ≤ squares y ∧
      squares (rows.map (dot ·.coeffs y)) = squares (left.map (dot ·.coeffs w)) := by
  induction reached generalizing n with
  | start => exact ⟨w, full, le_rfl, rfl⟩
  | @step i rows others left p front usable next ih =>
    have again := square.front front
    obtain ⟨n, rfl⟩ : ∃ k, n = k + 1 := ⟨others.length, again.count.symm⟩
    obtain ⟨y, count, larger, same⟩ := ih again.reduced (by omega)
    obtain ⟨a, as, shape⟩ := List.exists_cons_of_length_eq_add_one (again.widths p List.mem_cons_self)
    have lead := usableLead usable
    have front' : a ≠ 0 := Row.leadCons shape ▸ lead
    let x := -dot as y / a
    have nothing : dot p.coeffs (x :: y) = 0 := by
      rw [shape, dotCons, mul_div_cancel₀ _ front', neg_add_cancel]
    have others' : (others.map p.reduce).map (dot ·.coeffs y) = others.map (dot ·.coeffs (x :: y)) := by
      rw [List.map_map]
      refine List.map_congr_left fun r member => reduceDot lead (by simp [shape]) ?_ nothing
      exact (again.widths r (.tail _ member)).trans (again.widths p List.mem_cons_self).symm
    refine ⟨x :: y, congrArg (· + 1) count, ?_, ?_⟩
    · rw [squaresCons]
      exact larger.trans (le_add_of_nonneg_left (mul_self_nonneg x))
    · rw [← squaresPerm (front.perm.map _), List.map_cons, squaresCons, nothing, mul_zero, zero_add, ← others', same]

theorem squaresSmall {xs : List K} {e : K} (some : xs ≠ []) (small : ∀ x ∈ xs, |x| < e) :
    squares xs < xs.length * (e * e) := by
  have each (x : K) (member : x ∈ xs) : x * x < e * e := by
    rw [← abs_mul_abs_self x]
    exact mul_self_lt_mul_self (abs_nonneg x) (small x member)
  calc
    squares xs < (xs.map fun _ => e * e).sum := List.sum_lt_sum_of_ne_nil some _ _ each
    _ = xs.length * (e * e) := by rw [List.map_const', List.sum_replicate, nsmul_eq_mul]

theorem echelonShrinks (square : Square n rows) (stops : echelon n rows = none) : ∃ y : List K, y.length = n ∧
    squares (rows.map (dot ·.coeffs y)) < n * (pivotEpsilon * pivotEpsilon) * squares y := by
  obtain ⟨i, fewer, left, reached, again, stuck⟩ := (echelonStuck square).mp stops
  obtain ⟨k, count⟩ : ∃ k, n - i = k + 1 := ⟨n - i - 1, by omega⟩
  rw [count] at again
  let w : List K := 1 :: List.replicate k 0
  have unit : squares w = 1 := by simp [w, squares]
  have leads : left.map (dot ·.coeffs w) = left.map Row.lead := by
    refine List.map_congr_left fun r member => ?_
    obtain ⟨c, cs, shape⟩ := List.exists_cons_of_length_eq_add_one (again.widths r member)
    rw [shape, dotCons, Row.leadCons shape, dotNothing, mul_one, add_zero]
  have few : (left.length : K) ≤ n := by
    rw [again.count]
    exact_mod_cast (by omega : k + 1 ≤ n)
  obtain ⟨y, full, larger, same⟩ := reached.unshrunk square (w := w) (by simp [w, count])
  refine ⟨y, full, ?_⟩
  have tiny : (0 : K) ≤ pivotEpsilon * pivotEpsilon := mul_self_nonneg _
  calc
    squares (rows.map (dot ·.coeffs y)) = squares (left.map Row.lead) := by rw [same, leads]
    _ < left.length * (pivotEpsilon * pivotEpsilon) := by
      rw [← List.length_map (f := Row.lead)]
      refine squaresSmall ?_ (List.forall_mem_map.mpr stuck)
      exact mt List.map_eq_nil_iff.mp (List.ne_nil_of_length_eq_add_one again.count)
    _ ≤ n * (pivotEpsilon * pivotEpsilon) := mul_le_mul_of_nonneg_right few tiny
    _ = n * (pivotEpsilon * pivotEpsilon) * squares w := by rw [unit, mul_one]
    _ ≤ n * (pivotEpsilon * pivotEpsilon) * squares y :=
      mul_le_mul_of_nonneg_left larger (mul_nonneg n.cast_nonneg tiny)

end Steps

section Matrices
variable {K : Type} [Field K] [LinearOrder K] [IsStrictOrderedRing K] {n : Nat} {A : Matrix (Fin n) (Fin n) K}
  {b : Fin n → K}
attribute [local instance] Arith.exact
open Matrix

theorem denseSolveShrinks (stops : denseSolve (rowsOf A) (List.ofFn b) = none) :
    ∃ y : Fin n → K, (A *ᵥ y) ⬝ᵥ (A *ᵥ y) < n * (pivotEpsilon * pivotEpsilon) * (y ⬝ᵥ y) := by
  unfold denseSolve at stops
  rw [List.length_ofFn, Option.map_eq_none_iff] at stops
  obtain ⟨y, full, small⟩ := echelonShrinks squareOf stops
  obtain ⟨y, rfl⟩ : ∃ z : Fin n → K, y = List.ofFn z :=
    ⟨fun i => y[i], List.ext_getElem (by simp [full]) (by simp)⟩
  rw [systemRows, List.map_ofFn, squaresOfFn, squaresOfFn] at small
  refine ⟨y, lt_of_eq_of_lt ?_ small⟩
  congr 1 <;> exact funext fun i => (dotOfFn ..).symm

theorem denseSolveExact (n : Nat) (A : Matrix (Fin n) (Fin n) K) (b : Fin n → K) :
    (∀ x, denseSolve (rowsOf A) (List.ofFn b) = some x →
      (∃ y, x = List.ofFn y ∧ A *ᵥ y = b ∧ ∀ z, A *ᵥ z = b → z = y) ∧ A.det ≠ 0) ∧
    (denseSolve (rowsOf A) (List.ofFn b) = none ↔
      ∃ i < n, ∃ left, Reaches i (List.zipWith Row.mk (rowsOf A) (List.ofFn b)) left ∧ Square (n - i) left ∧
        Stuck left) ∧
    (A.det = 0 → denseSolve (rowsOf A) (List.ofFn b) = none) := by
  refine ⟨fun x ok => ?_, ?_, fun singular => ?_⟩
  · obtain ⟨y, same, solution⟩ := denseSolves ok
    exact ⟨⟨y, same, (solution y).mpr rfl, fun z => (solution z).mp⟩, (denseSolves ok).nonsingular⟩
  · rw [← echelonStuck squareOf, denseSolve, List.length_ofFn, Option.map_eq_none_iff]
  · exact Option.eq_none_iff_forall_ne_some.mpr fun x ok => (denseSolves ok).nonsingular singular

theorem tradedAndStuck :
    let A : Matrix (Fin 3) (Fin 3) ℚ := !![0, 2, 1; 1, 1, 0; 4, 0, 2]
    let S : Matrix (Fin 2) (Fin 2) ℚ := !![1, 2; 2, 4]
    denseSolve (rowsOf A) (List.ofFn ![3, 2, 6]) = some [1, 1, 1] ∧ A.det ≠ 0 ∧
      denseSolve (rowsOf S) (List.ofFn ![1, 2]) = none ∧
      ∃ i < 2, ∃ left, Reaches i (List.zipWith Row.mk (rowsOf S) (List.ofFn ![1, 2])) left ∧ Square (2 - i) left ∧
        Stuck left := by
  intro A S
  have solved : denseSolve (rowsOf A) (List.ofFn ![3, 2, 6]) = some [1, 1, 1] := by decide +kernel
  have stops : denseSolve (rowsOf S) (List.ofFn ![1, 2]) = none := by decide +kernel
  have whole := (denseSolveExact 3 A ![3, 2, 6]).1 _ solved
  exact ⟨solved, whole.2, stops, (denseSolveExact 2 S ![1, 2]).2.1.mp stops⟩

end Matrices
end Drafting.Linear
