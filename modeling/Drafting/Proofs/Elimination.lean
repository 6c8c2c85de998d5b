import Mathlib.Data.List.Perm.Basic
import Mathlib.LinearAlgebra.Matrix.ToLinearEquiv
import Mathlib.Tactic.LinearCombination
import Mathlib.Tactic.Ring
import Drafting.Linear.Dense
import Drafting.Scalar.Field
/-! Dense elimination over an exact ordered field. A step keeps the unknowns that satisfy all equations: it brings an
equation to the front and takes multiples of it off the others. What is solved from the last equation up is then the
one solution there is. -/
namespace Drafting.Linear

section Equations
variable {K : Type} [Field K]

def dot (coeffs x : List K) : K := (List.zipWith (· * ·) coeffs x).sum

def Row.Holds (r : Row K) (x : List K) : Prop := dot r.coeffs x = r.rhs

theorem dotCons (a : K) (as : List K) (x : K) (xs : List K) : dot (a :: as) (x :: xs) = a * x + dot as xs := by
  simp only [dot, List.zipWith_cons_cons, List.sum_cons]

theorem dotLess (f : K) {as bs : List K} (same : as.length = bs.length) (xs : List K) :
    dot (List.zipWith (fun a b => a - f * b) as bs) xs = dot as xs - f * dot bs xs := by
  induction as generalizing bs xs with
  | nil =>
    obtain rfl := List.length_eq_zero_iff.mp same.symm
    simp [dot]
  | cons a as ih =>
    obtain ⟨b, bs, rfl⟩ := List.exists_cons_of_length_eq_add_one same.symm
    cases xs with
    | nil => simp [dot]
    | cons x xs =>
      rw [List.zipWith_cons_cons, dotCons, dotCons, dotCons, ih (Nat.succ.inj same)]
      ring

theorem Row.holdsCons {r : Row K} {c : K} {cs : List K} (shape : r.coeffs = c :: cs) (x : K) (xs : List K) :
    r.Holds (x :: xs) ↔ c * x + dot cs xs = r.rhs := by rw [Holds, shape, dotCons]

theorem reducedIff {a c d e f x y z : K} (factor : f * a = c) (pivot : a * x + y = e) :
    z - f * y = d - f * e ↔ c * x + z = d := by
  constructor
  · intro left
    linear_combination left + f * pivot - x * factor
  · intro whole
    linear_combination whole - f * pivot + x * factor

theorem leadIff {a x y e : K} (lead : a ≠ 0) : a * x + y = e ↔ x = (e - y) / a := by
  rw [eq_div_iff lead]
  constructor
  · intro whole
    linear_combination whole
  · intro solved
    linear_combination solved

end Equations

section Exact
variable {K : Type} [Field K] [LinearOrder K]
attribute [local instance] Arith.exact

theorem exactNothing : (0.0 : K) = 0 := by
  change ((0 : Nat) : K) / 10 ^ 1 = 0
  rw [Nat.cast_zero, zero_div]

theorem pivotPositive [IsStrictOrderedRing K] : (0 : K) < pivotEpsilon := by
  change (0 : K) < ((1 : Nat) : K) / 10 ^ 12
  positivity

theorem Row.leadCons {r : Row K} {c : K} {cs : List K} (shape : r.coeffs = c :: cs) : r.lead = c := by
  rw [lead, shape]
  rfl

theorem reduceHolds {p r : Row K} {x : K} {xs : List K} (lead : p.lead ≠ 0) (some : p.coeffs ≠ [])
    (same : r.coeffs.length = p.coeffs.length) (pivot : p.Holds (x :: xs)) :
    (p.reduce r).Holds xs ↔ r.Holds (x :: xs) := by
  obtain ⟨a, as, first⟩ := List.exists_cons_of_ne_nil some
  rw [first, List.length_cons] at same
  obtain ⟨c, cs, second⟩ := List.exists_cons_of_length_eq_add_one same
  have tails : cs.length = as.length := by
    rw [second] at same
    exact Nat.succ.inj same
  rw [Row.leadCons first] at lead
  rw [Row.holdsCons first] at pivot
  rw [Row.holdsCons second, ← reducedIff (div_mul_cancel₀ c lead) pivot]
  unfold Row.reduce
  rw [Row.leadCons first, Row.leadCons second, first, second]
  dsimp only [List.tail_cons]
  split
  · rename_i none
    have none : c / a = 0 := (of_decide_eq_true none).trans exactNothing
    rw [none, zero_mul, zero_mul, sub_zero, sub_zero]
    exact Iff.rfl
  · rw [← dotLess _ tails]
    exact Iff.rfl

theorem reduceLength {p r : Row K} (same : r.coeffs.length = p.coeffs.length) :
    (p.reduce r).coeffs.length = r.coeffs.length - 1 := by
  unfold Row.reduce
  dsimp only
  split
  · exact List.length_tail
  · rw [List.length_zipWith, List.length_tail, List.length_tail, same, Nat.min_self]

inductive Front : List (Row K) → Row K → List (Row K) → Prop where
  | stays {p rest} (largest : ∀ r ∈ rest, |r.lead| ≤ |p.lead|) : Front (p :: rest) p rest
  | trades {first before p after} (smaller : ∀ r ∈ first :: before, |r.lead| < |p.lead|)
      (largest : ∀ r ∈ after, |r.lead| ≤ |p.lead|) :
      Front (first :: (before ++ p :: after)) p (before ++ first :: after)

theorem Front.perm {rows others : List (Row K)} {p : Row K} (front : Front rows p others) :
    (p :: others).Perm rows := by
  cases front with
  | stays => exact .refl _
  | @trades first before p after =>
    calc
      (p :: (before ++ first :: after)).Perm (p :: first :: (before ++ after)) := List.perm_middle.cons p
      _ |>.Perm (first :: p :: (before ++ after)) := .swap ..
      _ |>.Perm (first :: (before ++ p :: after)) := List.perm_middle.symm.cons first

theorem pivotCons (best : Nat × K) (place : Nat) (r : Row K) (rest : List (Row K)) :
    pivot best place (r :: rest) =
      pivot (if best.2 < |r.lead| then (place, |r.lead|) else best) (place + 1) rest := rfl

theorem pivotFirst (best : Nat × K) (place : Nat) (rest : List (Row K)) :
    (pivot best place rest = best ∧ ∀ r ∈ rest, |r.lead| ≤ best.2) ∨
      ∃ before p after, rest = before ++ p :: after ∧ pivot best place rest = (place + before.length, |p.lead|) ∧
        best.2 < |p.lead| ∧ (∀ r ∈ before, |r.lead| < |p.lead|) ∧ ∀ r ∈ after, |r.lead| ≤ |p.lead| := by
  induction rest generalizing best place with
  | nil => exact .inl ⟨rfl, by simp⟩
  | cons r rest ih =>
    rw [pivotCons]
    have later (k : Nat) : place + 1 + k = place + (k + 1) := by omega
    by_cases larger : best.2 < |r.lead|
    · rw [if_pos larger]
      rcases ih (place, |r.lead|) (place + 1) with ⟨same, bound⟩ | ⟨before, p, after, rfl, found, above, early, late⟩
      · exact .inr ⟨[], r, rest, rfl, same, larger, by simp, bound⟩
      · exact .inr ⟨r :: before, p, after, rfl, by rw [found, later, List.length_cons], larger.trans above,
          List.forall_mem_cons.mpr ⟨above, early⟩, late⟩
    · rw [if_neg larger]
      have within := not_lt.mp larger
      rcases ih best (place + 1) with ⟨same, bound⟩ | ⟨before, p, after, rfl, found, above, early, late⟩
      · exact .inl ⟨same, List.forall_mem_cons.mpr ⟨within, bound⟩⟩
      · exact .inr ⟨r :: before, p, after, rfl, by rw [found, later, List.length_cons], above,
          List.forall_mem_cons.mpr ⟨within.trans_lt above, early⟩, late⟩

omit [Field K] [LinearOrder K] in
theorem bringUpAt (first p : Row K) (before after : List (Row K)) :
    bringUp first (before ++ p :: after) (before.length + 1) = (p, before ++ first :: after) := by
  simp [bringUp, List.getD_eq_getElem?_getD]

theorem frontFound (first : Row K) (rest : List (Row K)) : ∃ k p others, Front (first :: rest) p others ∧
    pivot (0, Arith.abs first.lead) 1 rest = (k, |p.lead|) ∧ bringUp first rest k = (p, others) := by
  rcases pivotFirst (0, Arith.abs first.lead) 1 rest with ⟨same, bound⟩ | ⟨before, p, after, rfl, found, above, early, late⟩
  · exact ⟨0, first, rest, .stays bound, same, rfl⟩
  · rw [Nat.add_comm] at found
    exact ⟨_, p, _, .trades (List.forall_mem_cons.mpr ⟨above, early⟩) late, found, bringUpAt ..⟩

theorem echelonCons (n : Nat) {rows : List (Row K)} (some : rows ≠ []) : ∃ p others, Front rows p others ∧
    echelon (n + 1) rows =
      if pivotEpsilon ≤ |p.lead| then (echelon n (others.map p.reduce)).map (p :: ·) else none := by
  obtain ⟨first, rest, rfl⟩ := List.exists_cons_of_ne_nil some
  obtain ⟨k, p, others, front, size, brought⟩ := frontFound first rest
  refine ⟨p, others, front, ?_⟩
  rw [echelon, size]
  dsimp only
  rw [brought]

structure Square (n : Nat) (rows : List (Row K)) : Prop where
  count : rows.length = n
  widths : ∀ r ∈ rows, r.coeffs.length = n

theorem takenOff {ι : Type} (term : ι → K) (terms : List ι) (rhs : K) :
    terms.foldl (fun sum t => sum - term t) rhs = rhs - (terms.map term).sum := by
  induction terms generalizing rhs with
  | nil => rw [List.foldl_nil, List.map_nil, List.sum_nil, sub_zero]
  | cons t rest ih => rw [List.foldl_cons, ih, List.map_cons, List.sum_cons, sub_sub]

theorem substituted (coeffs known : List K) (rhs : K) :
    (List.zipWith Prod.mk coeffs known).foldl (fun sum (a, x) => sum - a * x) rhs = rhs - dot coeffs known := by
  refine (takenOff (fun (a, x) => a * x) _ rhs).trans ?_
  rw [List.map_zipWith]
  rfl

theorem Square.reduced {n : Nat} {p : Row K} {others : List (Row K)}
    (square : Square (n + 1) (p :: others)) : Square n (others.map p.reduce) := by
  have width := square.widths p List.mem_cons_self
  constructor
  · rw [List.length_map]
    exact Nat.succ.inj square.count
  · intro r member
    obtain ⟨q, there, rfl⟩ := List.mem_map.mp member
    have same := square.widths q (List.mem_cons_of_mem _ there)
    rw [reduceLength (same.trans width.symm), same, Nat.add_sub_cancel]

theorem Square.front {n : Nat} {rows others : List (Row K)} {p : Row K} (square : Square n rows)
    (front : Front rows p others) : Square n (p :: others) :=
  ⟨front.perm.length_eq.trans square.count, fun r member => square.widths r (front.perm.mem_iff.mp member)⟩

theorem echelonNext {n : Nat} {rows form : List (Row K)} (square : Square (n + 1) rows)
    (ok : echelon (n + 1) rows = some form) : ∃ p others lower, Front rows p others ∧ pivotEpsilon ≤ |p.lead| ∧
      echelon n (others.map p.reduce) = some lower ∧ form = p :: lower := by
  obtain ⟨p, others, front, step⟩ := echelonCons n (List.ne_nil_of_length_eq_add_one square.count)
  rw [step] at ok
  split at ok
  · rename_i usable
    obtain ⟨lower, below, same⟩ := Option.map_eq_some_iff.mp ok
    exact ⟨p, others, lower, front, usable, below, same.symm⟩
  · cases ok

theorem usableLead [IsStrictOrderedRing K] {p : Row K} (usable : pivotEpsilon ≤ |p.lead|) : p.lead ≠ 0 :=
  abs_pos.mp (pivotPositive.trans_le usable)

/- The induction is on the number of steps: each one trades a system for its front row and a smaller system, which
by induction has one solution, and the front row fixes the first unknown. -/
theorem echelonSolves [IsStrictOrderedRing K] {n : Nat} {rows form : List (Row K)} (square : Square n rows)
    (ok : echelon n rows = some form) {x : List K} (full : x.length = n) :
    (∀ r ∈ rows, r.Holds x) ↔ x = backSubstitute form := by
  induction n generalizing rows form x with
  | zero =>
    obtain rfl := List.length_eq_zero_iff.mp square.count
    obtain rfl := List.length_eq_zero_iff.mp full
    cases ok
    simp [backSubstitute]
  | succ n ih =>
    obtain ⟨y, ys, rfl⟩ := List.exists_cons_of_length_eq_add_one full
    obtain ⟨p, others, lower, front, usable, below, rfl⟩ := echelonNext square ok
    have again := square.front front
    have lead := usableLead usable
    obtain ⟨a, as, shape⟩ := List.exists_cons_of_length_eq_add_one (again.widths p List.mem_cons_self)
    have system : (∀ q ∈ rows, q.Holds (y :: ys)) ↔ p.Holds (y :: ys) ∧ ∀ q ∈ others, q.Holds (y :: ys) :=
      Iff.trans (forall_congr' fun q => imp_congr_left front.perm.symm.mem_iff) List.forall_mem_cons
    have smaller (holds : p.Holds (y :: ys)) : (∀ q ∈ others, q.Holds (y :: ys)) ↔ ys = backSubstitute lower := by
      rw [← ih again.reduced below (Nat.succ.inj full), List.forall_mem_map]
      refine forall₂_congr fun q member => (reduceHolds lead (by simp [shape]) ?_ holds).symm
      exact (again.widths q (List.mem_cons_of_mem _ member)).trans (again.widths p List.mem_cons_self).symm
    have first (rest : ys = backSubstitute lower) : p.Holds (y :: ys) ↔
        y = (List.zipWith Prod.mk p.coeffs.tail ys).foldl (fun sum (a, x) => sum - a * x) p.rhs / p.lead := by
      rw [Row.holdsCons shape, substituted, Row.leadCons shape, shape, List.tail_cons]
      rw [Row.leadCons shape] at lead
      exact leadIff lead
    rw [system, and_congr_right smaller, and_congr_left first, backSubstitute, List.cons.injEq]
    exact and_congr_left fun rest => by rw [rest]

theorem echelonCount {n : Nat} {rows form : List (Row K)} (square : Square n rows) (ok : echelon n rows = some form) :
    form.length = n := by
  induction n generalizing rows form with
  | zero =>
    cases ok
    rfl
  | succ n ih =>
    obtain ⟨p, others, lower, front, _, below, rfl⟩ := echelonNext square ok
    exact congrArg (· + 1) (ih (square.front front).reduced below)

theorem backSubstituteCount (form : List (Row K)) : (backSubstitute form).length = form.length := by
  induction form with
  | nil => rfl
  | cons r rest ih => exact congrArg (· + 1) ih

end Exact

section Matrices
variable {K : Type} [Field K] {n : Nat} {A : Matrix (Fin n) (Fin n) K} {b : Fin n → K}
open Matrix

def rowsOf (A : Matrix (Fin n) (Fin n) K) : List (List K) := List.ofFn fun i => List.ofFn (A i)

def OnlySolution (A : Matrix (Fin n) (Fin n) K) (b : Fin n → K) (x : List K) : Prop :=
  ∃ y, x = List.ofFn y ∧ ∀ z, A *ᵥ z = b ↔ z = y

theorem dotOfFn (u v : Fin n → K) : dot (List.ofFn u) (List.ofFn v) = u ⬝ᵥ v := by
  have products : List.zipWith (· * ·) (List.ofFn u) (List.ofFn v) = List.ofFn fun i => u i * v i :=
    List.ext_getElem (by simp) (by simp)
  rw [dot, products, List.sum_ofFn]
  rfl

omit [Field K] in
theorem systemRows (A : Matrix (Fin n) (Fin n) K) (b : Fin n → K) :
    List.zipWith Row.mk (rowsOf A) (List.ofFn b) = List.ofFn fun i => ⟨List.ofFn (A i), b i⟩ :=
  List.ext_getElem (by simp [rowsOf]) (by simp [rowsOf])

theorem equationsHold (y : Fin n → K) :
    (∀ r ∈ List.zipWith Row.mk (rowsOf A) (List.ofFn b), r.Holds (List.ofFn y)) ↔ A *ᵥ y = b := by
  rw [systemRows, List.forall_mem_ofFn_iff, funext_iff]
  exact forall_congr' fun i => by rw [Row.Holds, dotOfFn]; rfl

omit [Field K] in
theorem squareOf : Square n (List.zipWith Row.mk (rowsOf A) (List.ofFn b)) := by
  rw [systemRows]
  exact ⟨List.length_ofFn, List.forall_mem_ofFn_iff.mpr fun i => List.length_ofFn⟩

theorem OnlySolution.solution {x : List K} (h : OnlySolution A b x) : ∃ y, x = List.ofFn y ∧ A *ᵥ y = b := by
  obtain ⟨y, same, only⟩ := h
  exact ⟨y, same, (only y).mpr rfl⟩

theorem OnlySolution.unique {x x' : List K} (h : OnlySolution A b x) (h' : OnlySolution A b x') : x = x' := by
  obtain ⟨y, rfl, only⟩ := h
  obtain ⟨y', rfl, only'⟩ := h'
  exact congrArg List.ofFn ((only' y).mp ((only y).mpr rfl))

theorem OnlySolution.nonsingular {x : List K} (h : OnlySolution A b x) : A.det ≠ 0 := by
  obtain ⟨y, rfl, only⟩ := h
  intro singular
  obtain ⟨v, some, nothing⟩ := Matrix.exists_mulVec_eq_zero_iff.mpr singular
  have again : A *ᵥ (y + v) = b := by
    rw [Matrix.mulVec_add, nothing, add_zero]
    exact (only y).mpr rfl
  exact some (add_eq_left.mp ((only _).mp again))

variable [LinearOrder K] [IsStrictOrderedRing K]
attribute [local instance] Arith.exact

theorem denseSolves {x : List K} (ok : denseSolve (rowsOf A) (List.ofFn b) = some x) : OnlySolution A b x := by
  unfold denseSolve at ok
  rw [List.length_ofFn] at ok
  obtain ⟨form, found, rfl⟩ := Option.map_eq_some_iff.mp ok
  have count : (backSubstitute form).length = n := (backSubstituteCount form).trans (echelonCount squareOf found)
  have listed : backSubstitute form = List.ofFn fun i : Fin n => (backSubstitute form)[i] :=
    List.ext_getElem (by simp [count]) (by simp)
  refine ⟨_, listed, fun z => ?_⟩
  rw [← equationsHold, echelonSolves squareOf found List.length_ofFn]
  exact ⟨fun same => List.ofFn_injective (same.trans listed), fun same => same ▸ listed.symm⟩

end Matrices
end Drafting.Linear
