import Drafting.Proofs.Measured
import Drafting.Proofs.Quaternion
import Drafting.Proofs.Revolution
import Drafting.Proofs.SplitPoint
import Drafting.Sketch.Rounding
/-! Rounding the corner of two lines. A line is its own tangent, so from wherever a step begins it finds the corner where the
tangents meet, and it ends at the trim points of its own radius: the last step alone decides. Seen along the first line and
across it, the center is on the side to which the second line leaves. -/
namespace Drafting

theorem Quat.turnLevel {n v : Vec3 ℝ} (unit : n.dot n = 1) (level : v.dot n = 0) (angle : ℝ) :
    (ofAxisAngle n angle).rotate v = v.scale (Real.cos angle) + (n.cross v).scale (Real.sin angle) := by
  obtain ⟨half, rfl⟩ : ∃ half, angle = 2 * half := ⟨angle / 2, (mul_div_cancel₀ angle two_ne_zero).symm⟩
  have circle := Real.sin_sq_add_cos_sq half
  rw [halfAngle, mul_div_cancel_left₀ half two_ne_zero, Real.cos_two_mul, Real.sin_two_mul]
  generalize Real.sin half = s, Real.cos half = c at circle ⊢
  rcases n with ⟨nx, ny, nz⟩
  rcases v with ⟨x, y, z⟩
  simp only [rotate, Vec3.scale, Vec3.cross, Vec3.dot, Vec3.mkAdd, exactTwo, Vec3.mk.injEq] at unit level ⊢
  refine ⟨?_, ?_, ?_⟩
  · linear_combination 2 * nx * s ^ 2 * level - x * s ^ 2 * unit - x * circle
  · linear_combination 2 * ny * s ^ 2 * level - y * s ^ 2 * unit - y * circle
  · linear_combination 2 * nz * s ^ 2 * level - z * s ^ 2 * unit - z * circle

namespace Vec3
variable {n d e o u w : Vec3 ℝ} {x y z t s : ℝ}

theorem crossCross (a b c : Vec3 ℝ) : (a.cross b).cross c = b.scale (a.dot c) - a.scale (b.dot c) := by
  simp only [cross, scale, dot, mkSub, mk.injEq]
  refine ⟨?_, ?_, ?_⟩ <;> ring

theorem crossOver (a b c : Vec3 ℝ) : a.cross (b.cross c) = b.scale (a.dot c) - c.scale (a.dot b) := by
  simp only [cross, scale, dot, mkSub, mk.injEq]
  refine ⟨?_, ?_, ?_⟩ <;> ring

theorem crossDot (a b : Vec3 ℝ) : (a.cross b).dot a = 0 ∧ (a.cross b).dot b = 0 := by
  simp only [cross, dot]
  constructor <;> ring

theorem turnedBack (unit : n.dot n = 1) (level : e.dot n = 0) : (n.cross e).cross n = e := by
  rw [crossCross, unit, level]
  rcases e with ⟨x, y, z⟩
  simp only [scale, mkSub, mul_one, mul_zero, sub_zero]

def spanned (u w : Vec3 ℝ) (x y : ℝ) : Vec3 ℝ := u.scale x + w.scale y

theorem spannedSub : spanned u w x y - spanned u w z t = spanned u w (x - z) (y - t) := by
  simp only [spanned, scale, mkAdd, mkSub, mk.injEq]
  refine ⟨?_, ?_, ?_⟩ <;> ring

theorem spannedAdd : spanned u w x y + spanned u w z t = spanned u w (x + z) (y + t) := by
  simp only [spanned, scale, mkAdd, mk.injEq]
  refine ⟨?_, ?_, ?_⟩ <;> ring

theorem spannedScale : (spanned u w x y).scale s = spanned u w (x * s) (y * s) := by
  simp only [spanned, scale, mkAdd, mk.injEq]
  refine ⟨?_, ?_, ?_⟩ <;> ring

theorem spannedDot : (spanned u w x y).dot e = u.dot e * x + w.dot e * y := by
  rw [spanned, addDot, scaleDot, scaleDot]

namespace RightHanded
variable (h : RightHanded u w n)
include h

theorem along : u.dot (spanned u w x y) = x := by
  rw [dotComm, spannedDot, h.units.1, dotComm, h.across.1, one_mul, zero_mul, add_zero]

theorem aside : w.dot (spanned u w x y) = y := by
  rw [dotComm, spannedDot, h.units.2.1, h.across.1, one_mul, zero_mul, zero_add]

theorem dotSpanned : (spanned u w x y).dot (spanned u w z t) = z * x + t * y := by
  rw [spannedDot, h.along, h.aside]

theorem level : (spanned u w x y).dot n = 0 := by
  rw [spannedDot, dotComm, h.across.2.2, h.across.2.1, zero_mul, zero_mul, add_zero]

theorem turned : n.cross (spanned u w x y) = spanned u w (-y) x := by
  rw [← h.product, crossCross, h.along, h.aside]
  simp only [spanned, scale, mkAdd, mkSub, mk.injEq]
  refine ⟨?_, ?_, ?_⟩ <;> ring

theorem turnedOver : (spanned u w x y).cross n = spanned u w y (-x) := by
  rw [← h.product, crossOver, dotComm, h.aside, dotComm, h.along]
  simp only [spanned, scale, mkAdd, mkSub, mk.injEq]
  refine ⟨?_, ?_, ?_⟩ <;> ring

theorem spannedTurn (angle : ℝ) : (Quat.ofAxisAngle n angle).rotate (spanned u w x y) =
    spanned u w (x * Real.cos angle - y * Real.sin angle) (x * Real.sin angle + y * Real.cos angle) := by
  rw [Quat.turnLevel h.units.2.2 h.level, h.turned, spannedScale, spannedScale, spannedAdd]
  congr 1 <;> ring

theorem spans (flat : e.dot n = 0) : e = spanned u w (u.dot e) (w.dot e) := by
  have first : n.cross e = spanned u w (-(w.dot e)) (u.dot e) := by
    rw [← h.product, crossCross]
    simp only [spanned, scale, mkAdd, mkSub, mk.injEq]
    refine ⟨?_, ?_, ?_⟩ <;> ring
  calc e = (n.cross e).cross n := (turnedBack h.units.2.2 flat).symm
    _ = spanned u w (u.dot e) (w.dot e) := by rw [first, h.turnedOver, neg_neg]

theorem spannedLength {r : ℝ} (nonneg : 0 ≤ r) (square : x * x + y * y = r * r) : (spanned u w x y).length = r :=
  lengthOf nonneg (by rw [h.dotSpanned, square])

end RightHanded

theorem fromPlace (o d e : Vec3 ℝ) : o + d - (o + e) = d - e := by
  rcases o with ⟨ox, oy, oz⟩
  rcases d with ⟨dx, dy, dz⟩
  rcases e with ⟨ex, ey, ez⟩
  simp only [mkAdd, mkSub, add_sub_add_left_eq_sub]

theorem placeSub (o d e : Vec3 ℝ) : o + d - e = o + (d - e) := by
  rcases o with ⟨ox, oy, oz⟩
  rcases d with ⟨dx, dy, dz⟩
  rcases e with ⟨ex, ey, ez⟩
  simp only [mkAdd, mkSub, add_sub_assoc]

theorem fromOther (o d : Vec3 ℝ) : o - (o + d) = d.scale (-1) := by
  rcases o with ⟨ox, oy, oz⟩
  rcases d with ⟨dx, dy, dz⟩
  simp only [scale, mkAdd, mkSub, sub_add_cancel_left, mul_neg, mul_one]

noncomputable def angle (d e : Vec3 ℝ) : ℝ := Real.arccos (d.cosine e)

/-- Two directions at right angles to a unit normal that are not parallel. -/
structure Fork (n d e : Vec3 ℝ) : Prop where
  unit : n.dot n = 1
  first : d.dot n = 0
  second : e.dot n = 0
  apart : d.cross e ≠ zero

structure Seen (u w n d e : Vec3 ℝ) (side : ℝ) : Prop where
  axes : RightHanded u w n
  either : side = 1 ∨ side = -1
  first : d = spanned u w d.length 0
  second : e = spanned u w (e.length * Real.cos (d.angle e)) (e.length * (side * Real.sin (d.angle e)))

theorem crossNone (none : d = zero ∨ e = zero) : d.cross e = zero := by
  rcases none with rfl | rfl <;> simp [cross, zero]

theorem Fork.long (fork : Fork n d e) : 0 < d.length ∧ 0 < e.length :=
  ⟨lengthPositive fun none => fork.apart (crossNone (.inl none)),
    lengthPositive fun none => fork.apart (crossNone (.inr none))⟩

theorem Fork.area (fork : Fork n d e) : 0 < d.dot d * e.dot e - d.dot e * d.dot e := by
  rw [← crossSelf, ← lengthSelf]
  exact mul_pos (lengthPositive fork.apart) (lengthPositive fork.apart)

theorem cosineAngle : Real.cos (d.angle e) = d.cosine e :=
  Real.cos_arccos (abs_le.mp cosineBound).1 (abs_le.mp cosineBound).2

theorem Fork.turns (fork : Fork n d e) : 0 < d.angle e ∧ d.angle e < Real.pi := by
  obtain ⟨long, long'⟩ := fork.long
  have within : |d.cosine e| < 1 := by
    rw [cosine, abs_div, div_lt_one (abs_pos.mpr (mul_pos long long').ne'), ← sq_lt_sq, mul_pow, sq d.length,
      sq e.length, lengthSelf, lengthSelf]
    linarith [fork.area]
  exact ⟨Real.arccos_pos.mpr (abs_lt.mp within).2, Real.arccos_lt_pi.mpr (abs_lt.mp within).1⟩

theorem Fork.axes (fork : Fork n d e) : RightHanded (d.scale (1 / d.length)) (n.cross (d.scale (1 / d.length))) n := by
  obtain ⟨long, _⟩ := fork.long
  have unit : (d.scale (1 / d.length)).dot (d.scale (1 / d.length)) = 1 := by
    rw [scaleDot, dotComm, scaleDot, ← lengthSelf]
    field_simp
  have level : (d.scale (1 / d.length)).dot n = 0 := by rw [scaleDot, fork.first, zero_mul]
  generalize d.scale (1 / d.length) = u at unit level
  refine ⟨⟨unit, ?_, fork.unit⟩, ⟨?_, (crossDot n u).1, dotComm ▸ level⟩, ?_⟩
  · rw [crossSelf, fork.unit, unit, dotComm, level, one_mul, zero_mul, sub_zero]
  · rw [dotComm, (crossDot n u).2]
  · rw [crossOver, unit, level]
    rcases n with ⟨x, y, z⟩
    simp only [scale, mkSub, mul_one, mul_zero, sub_zero]

theorem Fork.seen (fork : Fork n d e) : ∃ u w side, Seen u w n d e side := by
  obtain ⟨long, long'⟩ := fork.long
  have axes := fork.axes
  have first : d = spanned (d.scale (1 / d.length)) (n.cross (d.scale (1 / d.length))) d.length 0 := by
    simp only [spanned, scale, mkAdd, mul_assoc, one_div_mul_cancel long.ne', mul_one, mul_zero, add_zero]
  have along : (d.scale (1 / d.length)).dot e = e.length * Real.cos (d.angle e) := by
    rw [cosineAngle, scaleDot, cosine]
    field_simp
  generalize d.scale (1 / d.length) = u at axes first along
  have parts := axes.spans fork.second
  have square : e.length * e.length = u.dot e * u.dot e + (n.cross u).dot e * (n.cross u).dot e := by
    rw [lengthSelf]
    nth_rewrite 1 [parts]
    rw [spannedDot]
  have circle := Real.sin_sq_add_cos_sq (d.angle e)
  have aside : ((n.cross u).dot e) ^ 2 = (e.length * Real.sin (d.angle e)) ^ 2 := by
    rw [along] at square
    linear_combination -e.length ^ 2 * circle - square
  rw [along] at parts
  rcases sq_eq_sq_iff_eq_or_eq_neg.mp aside with left | right
  · exact ⟨u, n.cross u, 1, axes, .inl rfl, first, by rwa [one_mul, ← left]⟩
  · exact ⟨u, n.cross u, -1, axes, .inr rfl, first, by rwa [neg_one_mul, mul_neg, ← right]⟩

theorem Fork.side (fork : Fork n d e) {side : ℝ} (either : side = 1 ∨ side = -1) :
    e.length * (side * Real.sin (d.angle e)) < 0 ↔ side = -1 := by
  have sine : 0 < Real.sin (d.angle e) := Real.sin_pos_of_pos_of_lt_pi fork.turns.1 fork.turns.2
  rcases either with rfl | rfl
  · have left := mul_pos fork.long.2 sine
    constructor <;> intro less <;> linarith
  · have right := mul_pos fork.long.2 sine
    exact iff_of_true (by linarith) rfl

namespace Seen
variable {side : ℝ} (seen : Seen u w n d e side)
include seen

theorem alongFirst (long : 0 < d.length) (x : ℝ) : d.scale (x / d.length) = spanned u w x 0 := by
  calc d.scale (x / d.length) = (spanned u w d.length 0).scale (x / d.length) :=
        congrArg (fun v : Vec3 ℝ => v.scale (x / d.length)) seen.first
    _ = spanned u w x 0 := by rw [spannedScale, mul_div_cancel₀ x long.ne', zero_mul]

theorem alongSecond (long : 0 < e.length) (x : ℝ) :
    e.scale (x / e.length) = spanned u w (x * Real.cos (d.angle e)) (x * (side * Real.sin (d.angle e))) := by
  calc e.scale (x / e.length) = (spanned u w (e.length * Real.cos (d.angle e))
        (e.length * (side * Real.sin (d.angle e)))).scale (x / e.length) :=
        congrArg (fun v : Vec3 ℝ => v.scale (x / e.length)) seen.second
    _ = _ := by
      rw [spannedScale]
      congr 1 <;> field_simp

theorem dotFirst : (spanned u w x y).dot d = d.length * x := by
  calc (spanned u w x y).dot d = (spanned u w x y).dot (spanned u w d.length 0) := congrArg _ seen.first
    _ = d.length * x := by rw [seen.axes.dotSpanned, zero_mul, add_zero]

theorem dotSecond : (spanned u w x y).dot e =
    e.length * (Real.cos (d.angle e) * x + side * Real.sin (d.angle e) * y) := by
  calc (spanned u w x y).dot e = (spanned u w x y).dot (spanned u w (e.length * Real.cos (d.angle e))
        (e.length * (side * Real.sin (d.angle e)))) := congrArg _ seen.second
    _ = _ := by
      rw [seen.axes.dotSpanned]
      ring

theorem turn (long : 0 < d.length) :
    e.dot (n.cross d).normalizeOrZero = e.length * (side * Real.sin (d.angle e)) := by
  have left : n.cross d = spanned u w 0 d.length := by
    calc n.cross d = n.cross (spanned u w d.length 0) := congrArg _ seen.first
      _ = spanned u w 0 d.length := by rw [seen.axes.turned, neg_zero]
  have across : (n.cross d).normalizeOrZero = spanned u w 0 1 := by
    have same : (spanned u w 0 d.length).length = d.length := seen.axes.spannedLength long.le (by ring)
    rw [left, normalizeOrZeroOf (same.symm ▸ long), same, spannedScale, zero_mul, mul_one_div_cancel long.ne']
  rw [across, dotComm, seen.dotSecond, mul_zero, mul_one, zero_add]

end Seen

theorem Fork.meets (fork : Fork n d e) (o : Vec3 ℝ) (s t : ℝ) : meet (o + d.scale s) d (o + e.scale t) e = o := by
  have area := fork.area.ne'
  unfold meet
  dsimp only
  have back : (d.dot e * e.dot (o + d.scale s - (o + e.scale t)) - e.dot e * d.dot (o + d.scale s - (o + e.scale t))) /
      (d.dot d * e.dot e - d.dot e * d.dot e) = -s := by
    have way : o + d.scale s - (o + e.scale t) = spanned d e s (-t) := by
      rcases o with ⟨ox, oy, oz⟩
      simp only [spanned, scale, mkAdd, mkSub, mk.injEq]
      refine ⟨?_, ?_, ?_⟩ <;> ring
    rw [way, dotComm (a := e) (b := spanned d e _ _), dotComm (a := d) (b := spanned d e _ _), spannedDot, spannedDot,
      dotComm (a := e) (b := d), div_eq_iff area]
    ring
  rw [back]
  rcases o with ⟨ox, oy, oz⟩
  simp only [scale, mkAdd, mk.injEq]
  refine ⟨?_, ?_, ?_⟩ <;> ring

theorem distanceComm : d.distance e = e.distance d := by
  have turned : d - e = -(e - d) := by
    rcases d with ⟨dx, dy, dz⟩
    rcases e with ⟨ex, ey, ez⟩
    change (⟨dx - ex, dy - ey, dz - ez⟩ : Vec3 ℝ) = ⟨-(ex - dx), -(ey - dy), -(ez - dz)⟩
    rw [neg_sub, neg_sub, neg_sub]
  rw [distance, turned, negLength]
  rfl

theorem resizedOf (long : 0 < d.length) (x : ℝ) : d.resized x = d.scale (x / d.length) := by
  rw [resized, normalizeOrZeroOf long]
  simp only [scale, mk.injEq]
  refine ⟨?_, ?_, ?_⟩ <;> ring

theorem Fork.unitCosine (fork : Fork n d e) : d.normalizeOrZero.dot e.normalizeOrZero = d.cosine e := by
  obtain ⟨long, long'⟩ := fork.long
  rw [normalizeOrZeroOf long, normalizeOrZeroOf long', scaleDot, dotComm, scaleDot, cosine, dotComm]
  field_simp

end Vec3

def RadiusPolicy.Positive : RadiusPolicy ℝ → Prop
  | fixed radius => 0 < radius
  | auto viewScale => 0 < viewScale

namespace TangentArc
open Vec3 Parametric
variable {config : RoundingConfig ℝ} {policy : RadiusPolicy ℝ} {o a b n d e : Vec3 ℝ} {fit : TangentArc ℝ}

theorem halfTangent {theta : ℝ} (turns : 0 < theta ∧ theta < Real.pi) : 0 < Real.tan (theta / 2) ∧
    Real.sin theta = Real.tan (theta / 2) * (1 + Real.cos theta) ∧
    1 - Real.cos theta = Real.tan (theta / 2) * Real.sin theta := by
  obtain ⟨half, rfl⟩ : ∃ half, theta = 2 * half := ⟨theta / 2, (mul_div_cancel₀ theta two_ne_zero).symm⟩
  have circle := Real.sin_sq_add_cos_sq half
  have positive : 0 < Real.cos half := Real.cos_pos_of_mem_Ioo ⟨by linarith, by linarith⟩
  rw [mul_div_cancel_left₀ half two_ne_zero]
  refine ⟨Real.tan_pos_of_pos_of_lt_pi_div_two (by linarith) (by linarith), ?_, ?_⟩
  all_goals
    rw [Real.tan_eq_sin_div_cos, Real.cos_two_mul, Real.sin_two_mul]
    field_simp
  · ring
  · linear_combination -2 * circle

theorem minPositive {x y : ℝ} (first : 0 < x) (last : 0 < y) : 0 < Arith.min x y := by
  unfold Arith.min
  split_ifs <;> assumption

theorem wantedPositive (positive : policy.Positive) (first : 0 < o.distance a) (last : 0 < o.distance b) {theta : ℝ}
    (tangent : 0 < Real.tan (theta / 2)) : 0 < wanted policy (.line o a) (.line o b) theta := by
  cases policy with
  | fixed radius => exact positive
  | auto viewScale =>
    have third {x : ℝ} (long : 0 < x) : 0 < x / 3.0 * Real.tan (theta / 2.0) := by
      rw [exactTwo]
      exact mul_pos (div_pos long (by norm_num)) tangent
    exact minPositive (minPositive (div_pos (by norm_num) positive) (third first)) (third last)

theorem advanceTo (long : 0 < d.length) (t x : ℝ) : advance t (o + d.scale t) d (o + d.resized x) = x / d.length := by
  have way : (o + d.scale (x / d.length) - (o + d.scale t)).dot d = (x / d.length - t) * d.lengthSquared := by
    rcases o with ⟨ox, oy, oz⟩
    simp only [lengthSquared, dot, scale, mkAdd, mkSub]
    ring
  have some : d.lengthSquared ≠ 0 := by
    rw [lengthSquared, ← lengthSelf]
    exact (mul_pos long long).ne'
  rw [advance, resizedOf long, way, mul_div_cancel_right₀ _ some, add_sub_cancel]

noncomputable def ramped (config : RoundingConfig ℝ) (full : ℝ) (i : ℕ) : ℝ :=
  if i < config.iterations then full * (0.1 + 0.9 * i / config.iterations) else full

theorem rampedPositive {full : ℝ} (positive : 0 < full) (i : ℕ) : 0 < ramped config full i := by
  unfold ramped
  split
  · have part : 0 ≤ 0.9 * (i : ℝ) / config.iterations := by positivity
    exact mul_pos positive (by linarith)
  · exact positive

noncomputable def touching (o a b n : Vec3 ℝ) (radius reach : ℝ) : TangentArc ℝ where
  first := reach / (a - o).length
  second := reach / (b - o).length
  radius := radius
  apex := o
  turn := (b - o).dot (n.cross (a - o)).normalizeOrZero

/- It does not matter where a step begins. -/
theorem improved (fork : Fork n (a - o) (b - o)) (fit : TangentArc ℝ) (i : ℕ) :
    let r := ramped config (wanted policy (.line o a) (.line o b) ((a - o).angle (b - o))) i
    improve config policy (.line o a) (.line o b) n fit i =
      touching o a b n r (r / Real.tan ((a - o).angle (b - o) / 2)) := by
  obtain ⟨long, long'⟩ := fork.long
  have enclosed : Scalar.acos (Arith.clamp ((a - o).normalizeOrZero.dot (b - o).normalizeOrZero) (-1.0) 1.0) =
      (a - o).angle (b - o) := by
    rw [fork.unitCosine, clampWithin cosineBound]
    rfl
  have straight (c : Vec3 ℝ) (t : ℝ) : tangentAt t (.line o c) = c - o ∧ pointAt t (.line o c) = o + (c - o).scale t :=
    ⟨rfl, rfl⟩
  unfold improve
  simp only [(straight _ _).1, (straight _ _).2, fork.meets, enclosed, advanceTo long, advanceTo long', exactTwo]
  rfl

theorem lastStep {α : Type} [Scalar α] {config : RoundingConfig α} {policy : RadiusPolicy α} {a b : Parametric α}
    {n : Vec3 α} {fit : TangentArc α} (some : 0 < config.iterations + config.polishIterations)
    (found : fit? config policy a b n = .some fit) : ∃ before i, fit = improve config policy a b n before i := by
  unfold fit? at found
  rw [← Nat.succ_pred_eq_of_pos some, List.range_succ, List.foldl_append] at found
  dsimp only [List.foldl_cons, List.foldl_nil] at found
  split at found
  · exact ⟨_, _, (Option.some.inj found).symm⟩
  · cases found

theorem fitTouches (fork : Fork n (a - o) (b - o)) (positive : policy.Positive)
    (some : 0 < config.iterations + config.polishIterations)
    (found : fit? config policy (.line o a) (.line o b) n = .some fit) :
    ∃ r > 0, fit = touching o a b n r (r / Real.tan ((a - o).angle (b - o) / 2)) := by
  obtain ⟨before, i, rfl⟩ := lastStep some found
  obtain ⟨long, long'⟩ := fork.long
  have first : 0 < o.distance a := distanceComm ▸ long
  have last : 0 < o.distance b := distanceComm ▸ long'
  exact ⟨_, rampedPositive (wantedPositive positive first last (halfTangent fork.turns).1) i, improved fork before i⟩

/- Two steps at the full radius agree, so the fit is found if the trim points are within the lines. -/
theorem fitSettles (fork : Fork n (a - o) (b - o)) (polished : 2 ≤ config.polishIterations) (patient : 0 ≤ config.convergence)
    {r : ℝ} (full : wanted policy (.line o a) (.line o b) ((a - o).angle (b - o)) = r)
    (here : touching o a b n r (r / Real.tan ((a - o).angle (b - o) / 2)) = fit)
    (first : fit.first ∈ Set.Icc config.minT config.maxT) (second : fit.second ∈ Set.Icc config.minT config.maxT) :
    fit? config policy (.line o a) (.line o b) n = .some fit := by
  obtain ⟨more, count⟩ := Nat.exists_eq_add_of_le polished
  have steps : config.iterations + config.polishIterations = config.iterations + more + 1 + 1 := by omega
  have last (before : TangentArc ℝ) {i : ℕ} (late : config.iterations ≤ i) :
      improve config policy (.line o a) (.line o b) n before i = fit := by
    rw [improved fork, ramped, if_neg (not_lt.mpr late), full, here]
  have still {t : ℝ} (within : t ∈ Set.Icc config.minT config.maxT) : settled config t t = true := by
    have none : Arith.abs (t - t) ≤ config.convergence := by
      rw [sub_self]
      exact abs_zero.trans_le patient
    rw [settled, decide_eq_true none, decide_eq_true within.1, decide_eq_true within.2]
    rfl
  unfold fit?
  rw [steps, List.range_succ, List.range_succ, List.foldl_append, List.foldl_append]
  dsimp only [List.foldl_cons, List.foldl_nil]
  rw [last _ (by omega), last _ (by omega), still first, still second]
  rfl

/-- An arc rounds the corner between two directions. It touches both lines, equally far from the corner, and goes
counter-clockwise about the normal by what the corner lacks of half a turn. -/
structure Rounds (n o d e p q center : Vec3 ℝ) (radius : ℝ) (ends : Vec3 ℝ × Vec3 ℝ) : Prop where
  positive : 0 < radius
  first : center.distance p = radius
  second : center.distance q = radius
  touches : (p - center).dot d = 0
  touches' : (q - center).dot e = 0
  ahead : ∃ s > 0, p = o + d.scale s
  ahead' : ∃ s > 0, q = o + e.scale s
  trimmed : o.distance p = o.distance q
  sweep : Real.pi - d.angle e ∈ Set.Ioo 0 Real.pi
  turns : (Quat.ofAxisAngle n (Real.pi - d.angle e)).rotate (ends.1 - center) = ends.2 - center

section Seen
variable {u w : Vec3 ℝ} {side r reach : ℝ}

theorem layOutSeen (fork : Fork n (a - o) (b - o)) (seen : Seen u w n (a - o) (b - o) side) (some : 0 < reach) :
    let fit := touching o a b n r reach
    let theta := (a - o).angle (b - o)
    let p := pointAt fit.first (.line o a)
    let q := pointAt fit.second (.line o b)
    p = o + spanned u w reach 0 ∧ q = o + spanned u w (reach * Real.cos theta) (reach * (side * Real.sin theta)) ∧
    (fit.layOut n p).1 = o + spanned u w reach (side * r) ∧
    (fit.layOut n p).2.ordered p q = if side = 1 then (q, p) else (p, q) := by
  intro fit theta p q
  obtain ⟨long, long'⟩ := fork.long
  have first : p = o + spanned u w reach 0 := congrArg (o + ·) (seen.alongFirst long reach)
  have second : q = o + spanned u w (reach * Real.cos theta) (reach * (side * Real.sin theta)) :=
    congrArg (o + ·) (seen.alongSecond long' reach)
  have toCenter : ((o - p).cross n).resized r = spanned u w 0 r := by
    have same : (spanned u w 0 reach).length = reach := seen.axes.spannedLength some.le (by ring)
    rw [first, fromOther, spannedScale, seen.axes.turnedOver, zero_mul, mul_neg_one, neg_neg, resizedOf (same.symm ▸ some),
      same, spannedScale, zero_mul, mul_div_cancel₀ r some.ne']
  refine ⟨first, second, ?_⟩
  have turn : fit.turn = (b - o).length * (side * Real.sin theta) := seen.turn long
  have right : fit.turn < 0.0 ↔ side = -1 := by rw [turn, exactZero, fork.side seen.either]
  rw [layOut, show fit.apex = o from rfl, show fit.radius = r from rfl, toCenter, first]
  rcases seen.either with rfl | rfl
  · rw [if_neg (right.not.mpr (by norm_num)), if_pos rfl, addAssoc, spannedAdd]
    exact ⟨by rw [add_zero, zero_add, one_mul], rfl⟩
  · rw [if_pos (right.mpr rfl), if_neg (by norm_num), placeSub, spannedSub]
    exact ⟨by rw [sub_zero, zero_sub, neg_one_mul], rfl⟩

theorem spokes (fork : Fork n d e) (grown : reach * Real.tan (d.angle e / 2) = r) {p q center : Vec3 ℝ}
    (first : p = o + spanned u w reach 0)
    (second : q = o + spanned u w (reach * Real.cos (d.angle e)) (reach * (side * Real.sin (d.angle e))))
    (middle : center = o + spanned u w reach (side * r)) : p - center = spanned u w 0 (-(side * r)) ∧
      q - center = spanned u w (-(r * Real.sin (d.angle e))) (side * (r * Real.cos (d.angle e))) := by
  obtain ⟨_, sine, cosine⟩ := halfTangent fork.turns
  constructor
  · rw [middle, first, fromPlace, spannedSub, sub_self, zero_sub]
  · rw [middle, second, fromPlace, spannedSub]
    congr 1
    · linear_combination -reach * cosine - Real.sin (d.angle e) * grown
    · linear_combination side * reach * sine + side * (1 + Real.cos (d.angle e)) * grown

theorem spokesTurn (axes : RightHanded u w n) (either : side = 1 ∨ side = -1) (theta : ℝ) {p q : Vec3 ℝ}
    (first : p = spanned u w 0 (-(side * r))) (second : q = spanned u w (-(r * Real.sin theta)) (side * (r * Real.cos theta))) :
    (Quat.ofAxisAngle n (Real.pi - theta)).rotate (if side = 1 then q else p) = if side = 1 then p else q := by
  have circle := Real.sin_sq_add_cos_sq theta
  -- To the left the arc begins on the second line, to the right on the first.
  rcases either with rfl | rfl
  · rw [if_pos rfl, if_pos rfl, first, second, axes.spannedTurn, Real.cos_pi_sub, Real.sin_pi_sub]
    congr 1
    · ring
    · linear_combination -r * circle
  · rw [if_neg (by norm_num), if_neg (by norm_num), first, second, axes.spannedTurn, Real.cos_pi_sub, Real.sin_pi_sub]
    congr 1 <;> ring

theorem seenRounds (fork : Fork n d e) (seen : Seen u w n d e side) (positive : 0 < r) (some : 0 < reach)
    (grown : reach * Real.tan (d.angle e / 2) = r) {p q center : Vec3 ℝ} (first : p = o + spanned u w reach 0)
    (second : q = o + spanned u w (reach * Real.cos (d.angle e)) (reach * (side * Real.sin (d.angle e))))
    (middle : center = o + spanned u w reach (side * r)) :
    Rounds n o d e p q center r (if side = 1 then (q, p) else (p, q)) := by
  obtain ⟨long, long'⟩ := fork.long
  obtain ⟨toFirst, toSecond⟩ := spokes fork grown first second middle
  have circle := Real.sin_sq_add_cos_sq (d.angle e)
  have once : side * side = 1 := by rcases seen.either with rfl | rfl <;> norm_num
  constructor
  case positive => exact positive
  case first =>
    rw [distanceComm, distance, toFirst]
    exact seen.axes.spannedLength positive.le (by linear_combination r ^ 2 * once)
  case second =>
    rw [distanceComm, distance, toSecond]
    exact seen.axes.spannedLength positive.le (by linear_combination (r * Real.cos (d.angle e)) ^ 2 * once + r ^ 2 * circle)
  case touches => rw [toFirst, seen.dotFirst, mul_zero]
  case touches' =>
    rw [toSecond, seen.dotSecond]
    linear_combination e.length * r * Real.sin (d.angle e) * Real.cos (d.angle e) * once
  case ahead => exact ⟨reach / d.length, div_pos some long, seen.alongFirst long reach ▸ first⟩
  case ahead' => exact ⟨reach / e.length, div_pos some long', seen.alongSecond long' reach ▸ second⟩
  case trimmed =>
    have far : o.distance p = reach := by
      rw [distance, first, fromOther, spannedScale]
      exact seen.axes.spannedLength some.le (by ring)
    have far' : o.distance q = reach := by
      rw [distance, second, fromOther, spannedScale]
      exact seen.axes.spannedLength some.le (by linear_combination (reach * Real.sin (d.angle e)) ^ 2 * once + reach ^ 2 * circle)
    rw [far, far']
  case sweep => exact ⟨sub_pos.mpr fork.turns.2, sub_lt_self _ fork.turns.1⟩
  case turns =>
    have turned := spokesTurn seen.axes seen.either (d.angle e) toFirst toSecond
    split at turned <;> rename_i left <;> simpa only [left, if_true, if_false] using turned

end Seen

theorem touchingRounds (fork : Fork n (a - o) (b - o)) {r : ℝ} (positive : 0 < r) :
    let fit := touching o a b n r (r / Real.tan ((a - o).angle (b - o) / 2))
    let p := pointAt fit.first (.line o a)
    let q := pointAt fit.second (.line o b)
    Rounds n o (a - o) (b - o) p q (fit.layOut n p).1 r ((fit.layOut n p).2.ordered p q) := by
  intro fit p q
  obtain ⟨u, w, side, seen⟩ := fork.seen
  obtain ⟨tangent, _⟩ := halfTangent fork.turns
  have some := div_pos positive tangent
  obtain ⟨first, second, center, order⟩ := layOutSeen fork seen some
  rw [order]
  exact seenRounds fork seen positive some (div_mul_cancel₀ r tangent.ne') first second center

/- An arc that is fitted between two lines that leave a corner rounds it, whatever radius the last step had. -/
theorem cornerRounded (fork : Fork n (a - o) (b - o)) (positive : policy.Positive)
    (some : 0 < config.iterations + config.polishIterations)
    (found : fit? config policy (.line o a) (.line o b) n = .some fit) :
    let p := pointAt fit.first (.line o a)
    let q := pointAt fit.second (.line o b)
    Rounds n o (a - o) (b - o) p q (fit.layOut n p).1 fit.radius ((fit.layOut n p).2.ordered p q) := by
  obtain ⟨r, large, rfl⟩ := fitTouches fork positive some found
  exact touchingRounds fork large

theorem squareFork : Fork .unitZ ((⟨10, 0, 0⟩ : Vec3 ℝ) - .zero) (⟨0, 10, 0⟩ - .zero) := by
  constructor <;> norm_num [unitZ, zero, dot, cross, mkSub]

theorem squareLengths : ((⟨10, 0, 0⟩ : Vec3 ℝ) - zero).length = 10 ∧ ((⟨0, 10, 0⟩ : Vec3 ℝ) - zero).length = 10 := by
  constructor <;> exact lengthOf (by norm_num) (by norm_num [dot, zero, mkSub])

theorem squareAngle : Real.tan (((⟨10, 0, 0⟩ : Vec3 ℝ) - .zero).angle (⟨0, 10, 0⟩ - .zero) / 2) = 1 := by
  rw [angle, cosine, show ((⟨10, 0, 0⟩ : Vec3 ℝ) - .zero).dot (⟨0, 10, 0⟩ - .zero) = 0 by simp [dot, zero, mkSub],
    zero_div, Real.arccos_zero, div_div, show (2 * 2 : ℝ) = 4 by norm_num, Real.tan_pi_div_four]

theorem squareCornerRounded : Fork .unitZ ((⟨10, 0, 0⟩ : Vec3 ℝ) - .zero) (⟨0, 10, 0⟩ - .zero) ∧
    (RadiusPolicy.fixed (2 : ℝ)).Positive ∧ 0 < (1000 : ℕ) + 20 ∧ ∃ fit : TangentArc ℝ,
      fit? .standard (.fixed 2) (.line .zero ⟨10, 0, 0⟩) (.line .zero ⟨0, 10, 0⟩) .unitZ = .some fit ∧
      let p := pointAt fit.first (.line .zero ⟨10, 0, 0⟩)
      let q := pointAt fit.second (.line .zero ⟨0, 10, 0⟩)
      Rounds .unitZ .zero (⟨10, 0, 0⟩ - .zero) (⟨0, 10, 0⟩ - .zero) p q (fit.layOut .unitZ p).1 2
        ((fit.layOut .unitZ p).2.ordered p q) := by
  have within : (2 / 1 / 10 : ℝ) ∈ Set.Icc (RoundingConfig.standard : RoundingConfig ℝ).minT RoundingConfig.standard.maxT := by
    norm_num [RoundingConfig.standard]
  have patient : 0 ≤ (RoundingConfig.standard : RoundingConfig ℝ).convergence := by norm_num [RoundingConfig.standard]
  have positive : (RadiusPolicy.fixed (2 : ℝ)).Positive := two_pos
  have found : fit? .standard (.fixed 2) (.line .zero ⟨10, 0, 0⟩) (.line .zero ⟨0, 10, 0⟩) .unitZ =
      .some (touching .zero ⟨10, 0, 0⟩ ⟨0, 10, 0⟩ .unitZ 2 (2 / 1)) := by
    refine fitSettles squareFork (by decide) patient rfl (congrArg (fun t : ℝ => touching _ _ _ _ 2 (2 / t)) squareAngle) ?_ ?_
    · rwa [touching, squareLengths.1]
    · rwa [touching, squareLengths.2]
  exact ⟨squareFork, positive, by decide, _, found, cornerRounded squareFork positive (by decide) found⟩

end TangentArc
end Drafting
