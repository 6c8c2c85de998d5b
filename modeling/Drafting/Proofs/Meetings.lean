import Mathlib
import Drafting.Curve.Intersection
import Drafting.Proofs.Planar
import Drafting.Proofs.Projection
/-! Where two curves meet. Each pair of neighbouring chords may lead to a point: the parameters of the search begin within
the curves and are kept there, and only a point at which the curves all but meet is taken. A point that is led to is
reported unless one was that is near it. -/
namespace Drafting

namespace Vec3
variable {a b : Vec3 ℝ}

theorem distanceSelf : a.distance a = 0 := lengthZero.mpr (subSelf.mpr rfl)

theorem middleDistance : ((a + b).unscale 2.0).distance a = a.distance b / 2.0 ∧
    ((a + b).unscale 2.0).distance b = a.distance b / 2.0 := by
  have half {m : Vec3 ℝ} (square : m.dot m = (a - b).dot (a - b) / 4) : m.length = (a - b).length / 2.0 := by
    rw [exactTwo]
    refine lengthOf (div_nonneg lengthNonneg two_pos.le) ?_
    rw [square, ← lengthSelf]
    ring
  rcases a with ⟨ax, ay, az⟩
  rcases b with ⟨bx, ty, bz⟩
  constructor <;> refine half ?_ <;> simp only [unscale, mkAdd, mkSub, dot, exactTwo] <;> ring

end Vec3

theorem clampUnit (x : ℝ) : Arith.clamp x 0.0 1.0 ∈ Set.Icc (0 : ℝ) 1 := by
  have between := clampBetween (definedReal (Arith.clamp x 0.0 1.0)) (show (0.0 : ℝ) ≤ 1.0 by norm_num)
  rwa [exactZero, exactOne] at between ⊢

namespace Chord
variable {c : Chord ℝ}

theorem closestWithin (p q : Chord ℝ) : p.closest q ∈ Set.Icc (0 : ℝ) 1 ×ˢ Set.Icc (0 : ℝ) 1 := by
  have none : (0.0 : ℝ) ∈ Set.Icc (0 : ℝ) 1 := by norm_num
  have whole : (1.0 : ℝ) ∈ Set.Icc (0 : ℝ) 1 := by norm_num
  unfold closest
  extract_lets tiny d1 d2 r a e f c b denom s t
  split
  · exact ⟨none, none⟩
  split
  · exact ⟨none, clampUnit _⟩
  split
  · exact ⟨clampUnit _, none⟩
  have inside : s ∈ Set.Icc (0 : ℝ) 1 := by
    unfold s
    split
    · exact clampUnit _
    · exact none
  split
  · exact ⟨clampUnit _, none⟩
  rename_i above
  split
  · exact ⟨clampUnit _, whole⟩
  rename_i below
  rw [exactZero] at above
  rw [exactOne] at below
  exact ⟨inside, not_lt.mp above, not_lt.mp below⟩

theorem betweenPlace {samples : List (Vec3 ℝ)} {first : ℕ} (member : c ∈ between first samples) :
    c.place + 1 < first + samples.length := by
  match samples with
  | [] | [_] => cases member
  | a :: b :: rest =>
    rw [between] at member
    rcases List.mem_cons.mp member with rfl | later
    · simp only [List.length_cons]
      omega
    · have place := betweenPlace later
      simp only [List.length_cons] at place ⊢
      omega

theorem parameterWithin {curve : Bezier ℝ} {s : ℝ} (member : c ∈ ofCurve curve) (within : s ∈ Set.Icc (0 : ℝ) 1) :
    c.parameter s ∈ Set.Icc (0 : ℝ) 1 := by
  have place := betweenPlace member
  rw [List.length_map, Bezier.parameters, List.length_map, List.length_range, Nat.zero_add] at place
  have few : (c.place : ℝ) + 1 ≤ Bezier.sampleCount := by exact_mod_cast Nat.lt_succ_iff.mp place
  have some : (0 : ℝ) < Bezier.sampleCount := Nat.cast_pos.mpr (by decide)
  change (c.place + s) / (Bezier.sampleCount : ℝ) ∈ _
  exact ⟨div_nonneg (add_nonneg (Nat.cast_nonneg _) within.1) some.le, (div_le_one some).mpr (by linarith [within.2])⟩

end Chord

namespace Bezier

theorem projectFromWithin (c : Bezier ℝ) (p : Vec3 ℝ) {t : ℝ} (within : t ∈ Set.Icc (0 : ℝ) 1) :
    c.projectFrom p t ∈ Set.Icc (0 : ℝ) 1 := by
  have approach := projectFromApproach (c := c) (p := p) (t := t) (exactZero ▸ within.1) (exactOne ▸ within.2)
    (definedReal _)
  exact ⟨exactZero ▸ approach.low, exactOne ▸ approach.high⟩

theorem approachWithin (a b : Bezier ℝ) (turns : ℕ) {s t : ℝ} (first : s ∈ Set.Icc (0 : ℝ) 1)
    (second : t ∈ Set.Icc (0 : ℝ) 1) : approach a b turns s t ∈ Set.Icc (0 : ℝ) 1 ×ˢ Set.Icc (0 : ℝ) 1 := by
  induction turns generalizing s t with
  | zero => exact ⟨first, second⟩
  | succ turns ih =>
    have next := a.projectFromWithin (b.pointAt t) first
    have next' := b.projectFromWithin (a.pointAt (a.projectFrom (b.pointAt t) s)) second
    unfold approach
    dsimp only
    split
    · exact ⟨next, next'⟩
    · exact ih next next'

def Meet (a b : Bezier ℝ) (p : Vec3 ℝ) : Prop :=
  ∃ s ∈ Set.Icc (0 : ℝ) 1, ∃ t ∈ Set.Icc (0 : ℝ) 1, (a.pointAt s).distance (b.pointAt t) < lengthEpsilon ∧
    p = (a.pointAt s + b.pointAt t).unscale 2.0 ∧ p.distance (a.pointAt s) < lengthEpsilon / 2.0 ∧
    p.distance (b.pointAt t) < lengthEpsilon / 2.0

theorem meetingMeets {a b : Bezier ℝ} {p : Vec3 ℝ} {s t : ℝ} (first : s ∈ Set.Icc (0 : ℝ) 1)
    (second : t ∈ Set.Icc (0 : ℝ) 1) (found : meeting? a b s t = some p) : a.Meet b p := by
  obtain ⟨within, within'⟩ := approachWithin a b 100 first second
  unfold meeting? at found
  dsimp only at found
  split at found
  · rename_i near
    cases found
    obtain ⟨half, half'⟩ := Vec3.middleDistance (a := a.pointAt (approach a b 100 s t).1)
      (b := b.pointAt (approach a b 100 s t).2)
    have two : (0 : ℝ) < 2.0 := by norm_num
    exact ⟨_, within, _, within', near, rfl, half ▸ div_lt_div_of_pos_right near two,
      half' ▸ div_lt_div_of_pos_right near two⟩
  · cases found

section Reports
variable [Scalar α]

def lead? (a b : Bezier α) (c d : Chord α) : Option (Vec3 α) :=
  if Arith.max (Arith.max c.length d.length) lengthEpsilon <
      (c.pointAt (c.closest d).1).distance (d.pointAt (c.closest d).2) then none
  else meeting? a b (c.parameter (c.closest d).1) (d.parameter (c.closest d).2)

def leads (a b : List (Bezier α)) : List (Vec3 α) :=
  a.flatMap fun p => b.flatMap fun q => (Chord.ofCurve p).flatMap fun c => (Chord.ofCurve q).filterMap (lead? p q c)

def report (found : List (Vec3 α)) (p : Vec3 α) : List (Vec3 α) :=
  if found.any fun q => decide (q.distance p < lengthEpsilon * 10.0) then found else found ++ [p]

theorem tryChordsLead (a b : Bezier α) (c : Chord α) (found : List (Vec3 α)) (d : Chord α) :
    tryChords a b c found d = match lead? a b c d with
      | some p => report found p
      | none => found := by
  unfold tryChords lead?
  dsimp only
  split <;> rfl

theorem meetPairReport (found : List (Vec3 α)) (a b : Bezier α) : meetPair found a b =
    ((Chord.ofCurve a).flatMap fun c => (Chord.ofCurve b).filterMap (lead? a b c)).foldl report found := by
  rw [meetPair, List.foldl_flatMap]
  congr 1
  funext found c
  rw [List.foldl_filterMap]
  congr 1
  funext found d
  rw [tryChordsLead]
  cases lead? a b c d <;> rfl

theorem intersectionsReport (a b : List (Bezier α)) : intersections a b = (leads a b).foldl report [] := by
  simp only [intersections, leads, List.foldl_flatMap, meetPairReport]

theorem leadsMember {a b : List (Bezier α)} {p : Vec3 α} (member : p ∈ leads a b) :
    ∃ c ∈ a, ∃ d ∈ b, ∃ x ∈ Chord.ofCurve c, ∃ y ∈ Chord.ofCurve d, lead? c d x y = some p := by
  obtain ⟨c, here, member⟩ := List.mem_flatMap.mp member
  obtain ⟨d, there, member⟩ := List.mem_flatMap.mp member
  obtain ⟨x, first, member⟩ := List.mem_flatMap.mp member
  obtain ⟨y, second, led⟩ := List.mem_filterMap.mp member
  exact ⟨c, here, d, there, x, first, y, second, led⟩

end Reports

theorem leadMeets {a b : Bezier ℝ} {c d : Chord ℝ} {p : Vec3 ℝ} (first : c ∈ Chord.ofCurve a)
    (second : d ∈ Chord.ofCurve b) (led : lead? a b c d = some p) : a.Meet b p := by
  obtain ⟨within, within'⟩ := c.closestWithin d
  unfold lead? at led
  split at led
  · cases led
  · exact meetingMeets (Chord.parameterWithin first within) (Chord.parameterWithin second within') led

/-- What has been reported of some points: nothing else, all of them apart, and each of the points or one near it. -/
structure Reported (points found : List (Vec3 ℝ)) : Prop where
  led : found ⊆ points
  apart : found.Pairwise fun p q => 10 * lengthEpsilon ≤ p.distance q
  near : ∀ p ∈ points, ∃ q ∈ found, q.distance p < 10 * lengthEpsilon

theorem reportNext {points found : List (Vec3 ℝ)} (h : Reported points found) (p : Vec3 ℝ) :
    Reported (points ++ [p]) (report found p) := by
  have small : (0 : ℝ) < 10 * lengthEpsilon := by
    change (0 : ℝ) < 10 * 1e-6
    norm_num
  have ten : (lengthEpsilon * 10.0 : ℝ) = 10 * lengthEpsilon := by
    rw [mul_comm]
    norm_num
  unfold report
  rw [ten]
  split
  · rename_i known
    obtain ⟨q, member, close⟩ := List.any_eq_true.mp known
    refine ⟨List.Subset.trans h.led (List.subset_append_left _ _), h.apart, fun r either => ?_⟩
    rcases List.mem_append.mp either with before | last
    · exact h.near r before
    · rw [List.mem_singleton.mp last]
      exact ⟨q, member, of_decide_eq_true close⟩
  · rename_i new
    refine ⟨?_, List.pairwise_append.mpr ⟨h.apart, List.pairwise_singleton _ _, fun q member r last => ?_⟩,
      fun r either => ?_⟩
    · exact List.append_subset.mpr ⟨List.Subset.trans h.led (List.subset_append_left _ _), List.subset_append_right _ _⟩
    · rw [List.mem_singleton.mp last]
      refine not_lt.mp fun close => new (List.any_eq_true.mpr ⟨q, member, decide_eq_true close⟩)
    · rcases List.mem_append.mp either with before | last
      · obtain ⟨q, member, close⟩ := h.near r before
        exact ⟨q, List.mem_append_left _ member, close⟩
      · rw [List.mem_singleton.mp last]
        exact ⟨p, List.mem_append_right _ (List.mem_singleton_self p), Vec3.distanceSelf.trans_lt small⟩

theorem reportAll (points : List (Vec3 ℝ)) : Reported points (points.foldl report []) := by
  induction points using List.reverseRecOn with
  | nil => exact ⟨List.Subset.refl _, .nil, fun p none => absurd none List.not_mem_nil⟩
  | append_singleton points p ih =>
    rw [List.foldl_append]
    exact reportNext ih p

/- Every reported point is in the middle between points of two pieces, one of each list, that all but meet, and no two are
near each other. No point that the search from a pair of chords found is left without one near it. -/
theorem meetingsDistinct (a b : List (Bezier ℝ)) :
    (∀ p ∈ intersections a b, ∃ c ∈ a, ∃ d ∈ b, c.Meet d p) ∧
    (intersections a b).Pairwise (fun p q => 10 * lengthEpsilon ≤ p.distance q) ∧
    ∀ p ∈ leads a b, ∃ q ∈ intersections a b, q.distance p < 10 * lengthEpsilon := by
  rw [intersectionsReport]
  obtain ⟨led, apart, near⟩ := reportAll (leads a b)
  refine ⟨fun p member => ?_, apart, near⟩
  obtain ⟨c, here, d, there, x, first, y, second, found⟩ := leadsMember (led member)
  exact ⟨c, here, d, there, leadMeets first second found⟩

end Bezier
end Drafting
