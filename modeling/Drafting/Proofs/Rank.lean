import Mathlib.Analysis.InnerProductSpace.PiL2
import Mathlib.LinearAlgebra.Matrix.Rank
import Drafting.Proofs.Exact
import Drafting.Solve.Rank
/-! What the rank of rows certifies over exact numbers. The rows that are counted leave orthonormal vectors that span
the same, so there are no more of them than the rank; a row that is not counted is about as near to their span as
the tolerance says. -/
namespace Drafting.Rank
open scoped RealInnerProductSpace

variable {n : Nat}

noncomputable def vector (n : Nat) (row : Array ℝ) : EuclideanSpace ℝ (Fin n) := .toLp _ fun i => row[i.val]?.getD 0

section Vectors
variable {a b : Array ℝ}

theorem vectorAt (row : Array ℝ) (i : Fin n) : vector n row i = row[i.val]?.getD 0 := rfl

theorem dotInner (ha : a.size = n) (hb : b.size = n) : dot a b = ⟪vector n a, vector n b⟫ := by
  have entries : (Array.zipWith (· * ·) a b).toList = List.ofFn fun i : Fin n => vector n a i * vector n b i := by
    refine List.ext_getElem (by simp [ha, hb]) fun i _ _ => ?_
    simp [vectorAt, ha, hb]
  rw [dot, ← Array.foldl_toList, entries, exactZero, ← List.sum_eq_foldl, List.sum_ofFn, PiLp.inner_apply]
  exact Finset.sum_congr rfl fun i _ => mul_comm _ _

theorem normNorm (ha : a.size = n) : norm a = ‖vector n a‖ := by
  rw [norm_eq_sqrt_real_inner, ← dotInner ha ha]
  rfl

theorem projectSize (ha : a.size = n) (hb : b.size = n) : (project a b).size = n := by simp [project, ha, hb]

theorem projectVector (ha : a.size = n) (hb : b.size = n) :
    vector n (project a b) = vector n a - ⟪vector n a, vector n b⟫ • vector n b := by
  ext i
  rw [← dotInner ha hb]
  simp [vectorAt, project, ha, hb]

theorem scaledVector (ha : a.size = n) (x : ℝ) : vector n (a.map (· / x)) = x⁻¹ • vector n a := by
  ext i
  simp [vectorAt, ha, div_eq_inv_mul]

end Vectors

def spanned (n : Nat) (rows : List (Array ℝ)) : Submodule ℝ (EuclideanSpace ℝ (Fin n)) :=
  Submodule.span ℝ {v | v ∈ rows.map (vector n)}

structure Square (n : Nat) (held : List (Array ℝ)) : Prop where
  size : ∀ b ∈ held, b.size = n
  unit : ∀ b ∈ held, ‖vector n b‖ = 1
  apart : held.Pairwise fun b c => ⟪vector n b, vector n c⟫ = 0

section Square
variable {a : Array ℝ} {held rows : List (Array ℝ)} {v c : EuclideanSpace ℝ (Fin n)}

theorem inSpanned (member : a ∈ rows) : vector n a ∈ spanned n rows :=
  Submodule.subset_span (List.mem_map_of_mem member)

theorem spannedLe {S : Submodule ℝ (EuclideanSpace ℝ (Fin n))} (all : ∀ a ∈ rows, vector n a ∈ S) : spanned n rows ≤ S := by
  refine Submodule.span_le.mpr fun v member => ?_
  obtain ⟨a, there, rfl⟩ := List.mem_map.mp member
  exact all a there

theorem apartFromSpanned (apart : ∀ a ∈ rows, ⟪vector n a, c⟫ = 0) (member : v ∈ spanned n rows) : ⟪v, c⟫ = 0 := by
  have within : spanned n rows ≤ (Submodule.span ℝ {c})ᗮ := spannedLe fun a there =>
    Submodule.mem_orthogonal_singleton_iff_inner_left.mpr (apart a there)
  exact Submodule.mem_orthogonal_singleton_iff_inner_left.mp (within member)

theorem Square.clears (h : Square n held) (size : a.size = n) : (held.foldl project a).size = n ∧
    vector n a - vector n (held.foldl project a) ∈ spanned n held ∧
      ∀ b ∈ held, ⟪vector n (held.foldl project a), vector n b⟫ = 0 := by
  obtain ⟨sizes, units, apart⟩ := h
  induction held generalizing a with
  | nil => simpa using size
  | cons b rest ih =>
    obtain ⟨here, sizes⟩ := List.forall_mem_cons.mp sizes
    obtain ⟨unit, units⟩ := List.forall_mem_cons.mp units
    obtain ⟨off, apart⟩ := List.pairwise_cons.mp apart
    obtain ⟨size', moved, clear⟩ := ih (projectSize size here) sizes units apart
    have first : vector n a - vector n (project a b) = ⟪vector n a, vector n b⟫ • vector n b := by
      rw [projectVector size here, sub_sub_cancel]
    have cleared : ⟪vector n (project a b), vector n b⟫ = 0 := by
      rw [projectVector size here, inner_sub_left, real_inner_smul_left, real_inner_self_eq_norm_sq, unit]
      ring
    have later : spanned n rest ≤ spanned n (b :: rest) := spannedLe fun c there => inSpanned (List.mem_cons_of_mem _ there)
    rw [List.foldl_cons]
    refine ⟨size', ?_, List.forall_mem_cons.mpr ⟨?_, clear⟩⟩
    · rw [← sub_add_sub_cancel, first]
      exact add_mem (Submodule.smul_mem _ _ (inSpanned List.mem_cons_self)) (later moved)
    · -- what is taken off along the others does not bring back a part along the first
      have kept := apartFromSpanned (fun c there => (real_inner_comm _ _).trans (off c there)) moved
      rw [inner_sub_left, cleared, zero_sub, neg_eq_zero] at kept
      exact kept

theorem Square.push (h : Square n held) (size : a.size = n) (long : ‖vector n a‖ ≠ 0)
    (clear : ∀ b ∈ held, ⟪vector n a, vector n b⟫ = 0) : Square n (held ++ [a.map (· / ‖vector n a‖)]) := by
  have scaled := scaledVector size ‖vector n a‖
  constructor
  case size => exact List.forall_mem_append.mpr ⟨h.size, List.forall_mem_singleton.mpr (Array.size_map.trans size)⟩
  case unit =>
    refine List.forall_mem_append.mpr ⟨h.unit, List.forall_mem_singleton.mpr ?_⟩
    rw [scaled, norm_smul, norm_inv, norm_norm, inv_mul_cancel₀ long]
  case apart =>
    refine List.pairwise_append.mpr ⟨h.apart, List.pairwise_singleton _ _, fun b there c only => ?_⟩
    obtain rfl := List.mem_singleton.mp only
    rw [scaled, real_inner_smul_right, real_inner_comm, clear b there, mul_zero]

theorem Square.count (h : Square n held) : Module.finrank ℝ (spanned n held) = held.length := by
  let family (i : Fin held.length) : EuclideanSpace ℝ (Fin n) := vector n held[i]
  have apart := List.pairwise_iff_getElem.mp h.apart
  have orthonormal : Orthonormal ℝ family := by
    refine ⟨fun i => h.unit _ (List.getElem_mem i.isLt), fun i j different => ?_⟩
    rcases Nat.lt_or_gt_of_ne (Fin.val_ne_of_ne different) with less | more
    · exact apart i j i.isLt j.isLt less
    · exact (real_inner_comm _ _).trans (apart j i j.isLt i.isLt more)
  have range : {v | v ∈ held.map (vector n)} = Set.range family := by
    ext v
    simp [family, List.mem_iff_getElem, Fin.exists_iff]
  rw [spanned, range, finrank_span_eq_card orthonormal.linearIndependent, Fintype.card_fin]

end Square

/-- What becomes of orthonormal rows with one more row: they stay as they are where it is zero or near to what they
span, or they take in a direction with which they span it too. -/
inductive Takes (n : Nat) (tolerance : ℝ) (held : Array (Array ℝ)) (row : Array ℝ) : Array (Array ℝ) → Prop
  | passed (near : vector n row = 0 ∨ ∃ w ∈ spanned n held.toList,
      dist (vector n row) w ≤ max (tolerance * ‖vector n row‖) 1e-14) : Takes n tolerance held row held
  | counted {b : Array ℝ} (square : Square n (held.toList ++ [b]))
      (spans : spanned n (held.toList ++ [b]) = spanned n (held.toList ++ [row])) : Takes n tolerance held row (held.push b)

section Loop
variable {held next : Array (Array ℝ)} {row : Array ℝ} {rows : List (Array ℝ)} {tolerance : ℝ} {k : Nat}

theorem spannedAppend (first second : List (Array ℝ)) : spanned n (first ++ second) = spanned n first ⊔ spanned n second := by
  rw [spanned, spanned, spanned, ← Submodule.span_union]
  congr 1
  ext v
  simp only [List.map_append, List.mem_append]
  rfl

theorem spannedOne (a : Array ℝ) : spanned n [a] = Submodule.span ℝ {vector n a} := by
  simp [spanned]

theorem supSpanCongr {S : Submodule ℝ (EuclideanSpace ℝ (Fin n))} {u v : EuclideanSpace ℝ (Fin n)} (near : u - v ∈ S) :
    S ⊔ Submodule.span ℝ {v} = S ⊔ Submodule.span ℝ {u} := by
  have within {x y : EuclideanSpace ℝ (Fin n)} (near : x - y ∈ S) : S ⊔ Submodule.span ℝ {x} ≤ S ⊔ Submodule.span ℝ {y} := by
    refine sup_le le_sup_left ((Submodule.span_singleton_le_iff_mem ..).mpr ?_)
    rw [← sub_add_cancel x y]
    exact add_mem (Submodule.mem_sup_left near) (Submodule.mem_sup_right (Submodule.mem_span_singleton_self y))
  refine le_antisymm (within ?_) (within near)
  rw [← neg_sub]
  exact neg_mem near

theorem extendTakes (tolerance : ℝ) (h : Square n held.toList) (size : row.size = n) : Takes n tolerance held row (extend tolerance held row) := by
  unfold extend
  dsimp only
  rw [normNorm size]
  split
  · rename_i zero
    refine .passed (.inl ?_)
    have none : ‖vector n row‖ = 0 := by simpa [Arith.isFinite] using zero
    exact norm_eq_zero.mp none
  · obtain ⟨size₁, moved₁, clear₁⟩ := h.clears size
    obtain ⟨size₂, moved₂, clear₂⟩ := h.clears size₁
    rw [← Array.foldl_toList, ← Array.foldl_toList, normNorm size₂]
    generalize held.toList.foldl project (held.toList.foldl project row) = v at size₂ moved₂ clear₂
    have moved : vector n row - vector n v ∈ spanned n held.toList := by
      rw [← sub_add_sub_cancel]
      exact add_mem moved₁ moved₂
    split
    · rename_i far
      obtain ⟨_, long⟩ := by simpa only [Bool.and_eq_true, decide_eq_true_eq] using far
      have long : ‖vector n v‖ ≠ 0 := (lt_trans (by norm_num) long).ne'
      refine .counted (h.push size₂ long clear₂) ?_
      rw [spannedAppend, spannedAppend, spannedOne, spannedOne, scaledVector size₂,
        Submodule.span_singleton_smul_eq (IsUnit.mk0 _ (inv_ne_zero long))]
      exact supSpanCongr moved
    · rename_i near
      refine .passed (.inr ⟨_, moved, ?_⟩)
      rw [dist_eq_norm, sub_sub_cancel, le_max_iff]
      simpa only [Bool.and_eq_true, decide_eq_true_eq, not_and_or, not_lt] using near

/-- A row is counted where the rows up to it have a greater rank than those before it. -/
def Counted (tolerance : ℝ) (rows : List (Array ℝ)) (k : Nat) : Prop := of tolerance (rows.take k) < of tolerance (rows.take (k + 1))

def countedBefore (n : Nat) (tolerance : ℝ) (rows : List (Array ℝ)) (k : Nat) : Set (EuclideanSpace ℝ (Fin n)) :=
  {v | ∃ j row, j < k ∧ rows[j]? = some row ∧ Counted tolerance rows j ∧ v = vector n row}

theorem basisNext (here : rows[k]? = some row) :
    basis tolerance (rows.take (k + 1)) = extend tolerance (basis tolerance (rows.take k)) row := by
  rw [List.take_add_one, here, basis, basis, List.foldl_append]
  rfl

theorem countedIff (tolerance : ℝ) (here : rows[k]? = some row) : Counted tolerance rows k ↔
    (basis tolerance (rows.take k)).size < (extend tolerance (basis tolerance (rows.take k)) row).size := by
  rw [Counted, of, of, basisNext here]

theorem countedNext (here : rows[k]? = some row) : countedBefore n tolerance rows (k + 1) =
    countedBefore n tolerance rows k ∪ {v | Counted tolerance rows k ∧ v = vector n row} := by
  ext v
  constructor
  · rintro ⟨j, r, early, place, counted, rfl⟩
    rcases Nat.lt_succ_iff_lt_or_eq.mp early with before | rfl
    · exact .inl ⟨j, r, before, place, counted, rfl⟩
    · obtain rfl := Option.some.inj (place.symm.trans here)
      exact .inr ⟨counted, rfl⟩
  · rintro (⟨j, r, early, place, counted, rfl⟩ | ⟨counted, rfl⟩)
    · exact ⟨j, r, Nat.lt_succ_of_lt early, place, counted, rfl⟩
    · exact ⟨k, row, Nat.lt_succ_self k, here, counted, rfl⟩

theorem basisSpans (tolerance : ℝ) (equal : ∀ row ∈ rows, row.size = n) (inside : k ≤ rows.length) :
    Square n (basis tolerance (rows.take k)).toList ∧
      spanned n (basis tolerance (rows.take k)).toList = Submodule.span ℝ (countedBefore n tolerance rows k) := by
  induction k with
  | zero =>
    have none : countedBefore n tolerance rows 0 = ∅ :=
      Set.eq_empty_iff_forall_notMem.mpr fun v ⟨_, _, early, _⟩ => Nat.not_lt_zero _ early
    rw [none, Submodule.span_empty]
    exact ⟨⟨nofun, nofun, .nil⟩, le_bot_iff.mp (spannedLe nofun)⟩
  | succ k ih =>
    obtain ⟨square, spans⟩ := ih (by omega)
    have here : rows[k]? = some rows[k] := List.getElem?_eq_getElem inside
    have size := equal rows[k] (List.getElem_mem inside)
    have step := extendTakes tolerance square size
    have counted := countedIff tolerance here
    rw [basisNext here, countedNext here, Submodule.span_union, ← spans]
    generalize extend tolerance _ rows[k] = next at step counted
    cases step with
    | passed =>
      have none : {v | Counted tolerance rows k ∧ v = vector n rows[k]} = ∅ := by simp [counted]
      rw [none, Submodule.span_empty, sup_bot_eq]
      exact ⟨square, rfl⟩
    | counted square' spans' =>
      have one : {v | Counted tolerance rows k ∧ v = vector n rows[k]} = {vector n rows[k]} := by
        ext v
        simp [counted]
      rw [one, Array.toList_push, spans', spannedAppend, spannedOne]
      exact ⟨square', rfl⟩

theorem uncountedNear (equal : ∀ row ∈ rows, row.size = n) (here : rows[k]? = some row) (uncounted : ¬ Counted tolerance rows k) :
    vector n row = 0 ∨ ∃ w ∈ Submodule.span ℝ (countedBefore n tolerance rows k),
      dist (vector n row) w ≤ max (tolerance * ‖vector n row‖) 1e-14 := by
  have inside : k < rows.length := (List.getElem?_eq_some_iff.mp here).1
  obtain ⟨square, spans⟩ := basisSpans tolerance equal inside.le
  have step := extendTakes tolerance square (equal row (List.mem_of_getElem? here))
  rw [countedIff tolerance here] at uncounted
  generalize extend tolerance _ row = next at step uncounted
  cases step with
  | passed near => rwa [spans] at near
  | counted => simp at uncounted

end Loop

def rowMatrix (n : Nat) (rows : List (Array ℝ)) : Matrix (Fin rows.length) (Fin n) ℝ := .of fun i j => rows[i][j.val]?.getD 0

theorem rowMatrixRank (rows : List (Array ℝ)) : (rowMatrix n rows).rank = Module.finrank ℝ (spanned n rows) := by
  let plain := WithLp.linearEquiv 2 ℝ (Fin n → ℝ)
  have image : (spanned n rows).map plain.toLinearMap = Submodule.span ℝ (Set.range (rowMatrix n rows).row) := by
    rw [spanned, Submodule.map_span]
    congr 1
    ext v
    simp [List.mem_iff_getElem, Fin.exists_iff]
    rfl
  rw [Matrix.rank_eq_finrank_span_row, ← image, LinearEquiv.finrank_map_eq]

theorem rankCertified {n : Nat} (rows : List (Array ℝ)) (equal : ∀ row ∈ rows, row.size = n) (tolerance : ℝ) :
    of tolerance rows = Module.finrank ℝ (Submodule.span ℝ (countedBefore n tolerance rows rows.length)) ∧
      of tolerance rows ≤ (rowMatrix n rows).rank ∧ of tolerance rows ≤ n ∧ of tolerance rows ≤ rows.length ∧
      ∀ k row, rows[k]? = some row → vector n row ≠ 0 → ¬ Counted tolerance rows k →
        ∃ w ∈ Submodule.span ℝ (countedBefore n tolerance rows k),
          dist (vector n row) w ≤ max (tolerance * ‖vector n row‖) 1e-14 := by
  have exact : of tolerance rows = Module.finrank ℝ (Submodule.span ℝ (countedBefore n tolerance rows rows.length)) := by
    obtain ⟨square, spans⟩ := basisSpans tolerance equal le_rfl
    rw [← spans, square.count, List.take_length]
    rfl
  have below : of tolerance rows ≤ (rowMatrix n rows).rank := by
    rw [exact, rowMatrixRank]
    refine Submodule.finrank_mono (Submodule.span_le.mpr ?_)
    rintro _ ⟨j, row, _, here, _, rfl⟩
    exact inSpanned (List.mem_of_getElem? here)
  refine ⟨exact, below, below.trans (Matrix.rank_le_width _), below.trans (Matrix.rank_le_height _), ?_⟩
  exact fun k row here some uncounted => (uncountedNear equal here uncounted).resolve_left some

def doubled : List (Array ℝ) := [#[1, 0], #[1 + 1, 0]]

theorem doubledUncounted : ¬ Counted 0 doubled 1 := by
  have lengths : norm (#[1, 0] : Array ℝ) = 1 ∧ norm (#[1 + 1, 0] : Array ℝ) = 2 ∧ norm (#[0, 0] : Array ℝ) = 0 := by
    have root {x y : ℝ} (positive : 0 ≤ y) (square : x = y * y) : Scalar.sqrt x = y := square ▸ Real.sqrt_mul_self positive
    exact ⟨root zero_le_one (by norm_num [dot]), root zero_le_two (by norm_num [dot]), root le_rfl (by norm_num [dot])⟩
  have first : extend 0 #[] (#[1, 0] : Array ℝ) = #[#[1, 0]] := by
    norm_num [extend, lengths, Arith.isFinite]
  have second : extend 0 #[#[1, 0]] (#[1 + 1, 0] : Array ℝ) = #[#[1, 0]] := by
    have none : project (#[1 + 1, 0] : Array ℝ) #[1, 0] = #[0, 0] := by
      norm_num [project, dot]
    have still : project (#[0, 0] : Array ℝ) #[1, 0] = #[0, 0] := by
      norm_num [project, dot]
    simp [extend, lengths, Arith.isFinite, none, still]
  rw [countedIff 0 (rfl : doubled[1]? = some #[1 + 1, 0])]
  change ¬ (extend 0 #[] (#[1, 0] : Array ℝ)).size < (extend 0 (extend 0 #[] #[1, 0]) #[1 + 1, 0]).size
  rw [first, second]
  exact Nat.lt_irrefl _

theorem doubledCertified : (∀ row ∈ doubled, row.size = 2) ∧ of 0 doubled ≤ (rowMatrix 2 doubled).rank ∧
    ∃ w ∈ Submodule.span ℝ (countedBefore 2 0 doubled 1), dist (vector 2 #[1 + 1, 0]) w ≤ 1e-14 := by
  have equal : ∀ row ∈ doubled, row.size = 2 := by simp [doubled]
  obtain ⟨_, below, _, _, near⟩ := rankCertified doubled equal 0
  have some : vector 2 #[1 + 1, 0] ≠ 0 := fun zero => by
    have first := congrFun (congrArg WithLp.ofLp zero) 0
    norm_num [vector] at first
  obtain ⟨w, member, close⟩ := near 1 #[1 + 1, 0] rfl some doubledUncounted
  refine ⟨equal, below, w, member, close.trans ?_⟩
  rw [zero_mul]
  exact max_le (by norm_num) le_rfl

end Drafting.Rank
