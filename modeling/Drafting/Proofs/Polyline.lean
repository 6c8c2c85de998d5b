import Drafting.Proofs.Arcs
import Drafting.Proofs.Measured
/-! How near a polyline stays to its curve. Between two parameters a curve is off its chord by at most an eighth of its
bending times the square of their distance. A cubic is off by a mixture of its second differences. A conic is off by a
multiple of its one second difference, measured from the place that the weights move along the chord. The number of chords
is what makes the bound the tolerance. -/
namespace Drafting

namespace Vec3
variable {a b d : Vec3 ℝ}

theorem distanceScaled {k : ℝ} (apart : a - b = d.scale k) : a.distance b = d.length * |k| := by
  refine lengthOf (mul_nonneg lengthNonneg (abs_nonneg k)) ?_
  rw [apart, scaleDot, dotComm, scaleDot, ← lengthSelf, mul_mul_mul_comm, abs_mul_abs_self]
  ring

theorem lerpLength {m most : ℝ} (within : m ∈ Set.Icc (0 : ℝ) 1) (first : a.length ≤ most) (last : b.length ≤ most) :
    (a.lerp b m).length ≤ most := by
  have back : 0 ≤ 1 - m := sub_nonneg.mpr within.2
  have mixed : 0 ≤ a.length * (1 - m) + b.length * m :=
    add_nonneg (mul_nonneg lengthNonneg back) (mul_nonneg lengthNonneg within.1)
  have square : (a.lerp b m).dot (a.lerp b m) ≤ (a.length * (1 - m) + b.length * m) ^ 2 := by
    have parts : (a.lerp b m).dot (a.lerp b m) =
        a.dot a * (1 - m) ^ 2 + 2 * (m * (1 - m)) * a.dot b + b.dot b * m ^ 2 := by
      simp only [lerp, dot, scale, mkAdd, exactOne]
      ring
    have product := mul_le_mul_of_nonneg_left ((le_abs_self _).trans (dotBound (a := a) (b := b)))
      (mul_nonneg within.1 back)
    rw [parts, ← lengthSelf, ← lengthSelf]
    linarith
  calc (a.lerp b m).length ≤ a.length * (1 - m) + b.length * m := (Real.sqrt_le_left mixed).mpr square
    _ ≤ most * (1 - m) + most * m :=
      add_le_add (mul_le_mul_of_nonneg_right first back) (mul_le_mul_of_nonneg_right last within.1)
    _ = most := by ring

end Vec3

theorem maxReal (x y : ℝ) : Arith.max x y = max x y := by
  unfold Arith.max
  rw [if_pos (exactSame.mpr rfl), max_def_lt]

namespace Bezier

noncomputable def bending (c : Bezier ℝ) : ℝ := ((c.degree * (c.degree - 1) : ℕ) : ℝ) *
  ((secondDifferences (c.controls.map Control.point)).map Vec3.length).foldl max 0 *
  c.controls.foldl (fun m k => max m (1 / k.weight)) 1

def Taut (c : Bezier ℝ) : Prop := ∀ a b t, 0 ≤ a → b ≤ 1 → a < b → t ∈ Set.Icc a b → ∃ s ∈ Set.Icc (0 : ℝ) 1,
  (c.pointAt t).distance ((c.pointAt a).lerp (c.pointAt b) s) ≤ c.bending / 8 * (b - a) ^ 2

theorem alongOf {a b t : ℝ} (less : a < b) (between : t ∈ Set.Icc a b) :
    ∃ s ∈ Set.Icc (0 : ℝ) 1, t = a + s * (b - a) := by
  have wide : 0 < b - a := sub_pos.mpr less
  refine ⟨(t - a) / (b - a), ⟨div_nonneg (sub_nonneg.mpr between.1) wide.le, (div_le_one wide).mpr ?_⟩, ?_⟩
  · linarith [between.2]
  · rw [div_mul_cancel₀ _ wide.ne', add_sub_cancel]

theorem quarter (s : ℝ) : s * (1 - s) ≤ 1 / 4 := by nlinarith only [sq_nonneg (s - 1 / 2)]

theorem linePoint (p q : Vec3 ℝ) (t : ℝ) : (line p q).pointAt t = p.lerp q t := by
  simp only [pointAt, line, List.map_cons, List.map_nil, Homogeneous.reduce, Homogeneous.mixRow, Homogeneous.mix,
    Homogeneous.ofControl, Homogeneous.toPoint, Vec3.scale, Vec3.unscale, Vec3.lerp, Vec3.mkAdd, exactOne, Vec3.mk.injEq]
  refine ⟨?_, ?_, ?_⟩ <;> ring

theorem lineTaut (p q : Vec3 ℝ) : (line p q).Taut := by
  intro a b t _ _ less between
  obtain ⟨s, within, rfl⟩ := alongOf less between
  have straight : (line p q).bending = 0 := by simp [bending, line, degree]
  have on : (line p q).pointAt (a + s * (b - a)) - ((line p q).pointAt a).lerp ((line p q).pointAt b) s = p.scale 0 := by
    rcases p with ⟨px, py, pz⟩
    rcases q with ⟨qx, qy, qz⟩
    simp only [linePoint, Vec3.lerp, Vec3.scale, Vec3.mkAdd, Vec3.mkSub, exactOne, Vec3.mk.injEq]
    refine ⟨?_, ?_, ?_⟩ <;> ring
  refine ⟨s, within, ?_⟩
  rw [Vec3.distanceScaled on, abs_zero, straight]
  simp

theorem cubicPoint (p q r o : Vec3 ℝ) (t : ℝ) : (cubic p q r o).pointAt t =
    p.scale ((1 - t) ^ 3) + q.scale (3 * t * (1 - t) ^ 2) + r.scale (3 * t ^ 2 * (1 - t)) + o.scale (t ^ 3) := by
  simp only [pointAt, cubic, List.map_cons, List.map_nil, Homogeneous.reduce, Homogeneous.mixRow, Homogeneous.mix,
    Homogeneous.ofControl, Homogeneous.toPoint, Vec3.scale, Vec3.unscale, Vec3.mkAdd, exactOne, Vec3.mk.injEq]
  refine ⟨?_, ?_, ?_⟩ <;> ring

theorem cubicBending (p q r o : Vec3 ℝ) : (cubic p q r o).bending =
    6 * max (p - q.scale 2 + r).length (q - r.scale 2 + o).length := by
  simp [bending, cubic, degree, controls, secondDifferences, Vec3.lengthNonneg]

theorem cubicAside (p q r o : Vec3 ℝ) (a b s : ℝ) : (cubic p q r o).pointAt (a + s * (b - a)) -
    ((cubic p q r o).pointAt a).lerp ((cubic p q r o).pointAt b) s =
    ((p - q.scale 2 + r).lerp (q - r.scale 2 + o) ((2 * a + b + s * (b - a)) / 3)).scale
      (-(3 * (s * (1 - s)) * (b - a) ^ 2)) := by
  rcases p with ⟨px, py, pz⟩
  rcases q with ⟨qx, qy, qz⟩
  rcases r with ⟨rx, ry, rz⟩
  rcases o with ⟨ox, oy, oz⟩
  simp only [cubicPoint, Vec3.lerp, Vec3.scale, Vec3.mkAdd, Vec3.mkSub, exactOne, Vec3.mk.injEq]
  refine ⟨?_, ?_, ?_⟩ <;> ring

theorem cubicTaut (p q r o : Vec3 ℝ) : (cubic p q r o).Taut := by
  intro a b t low high less between
  obtain ⟨s, within, rfl⟩ := alongOf less between
  have middle : (2 * a + b + s * (b - a)) / 3 ∈ Set.Icc (0 : ℝ) 1 := by
    have part := mul_nonneg within.1 (sub_pos.mpr less).le
    have rest := mul_nonneg (sub_nonneg.mpr within.2) (sub_pos.mpr less).le
    constructor <;> linarith
  have inner : 0 ≤ s * (1 - s) := mul_nonneg within.1 (sub_nonneg.mpr within.2)
  have wide := sq_nonneg (b - a)
  refine ⟨s, within, ?_⟩
  rw [Vec3.distanceScaled (cubicAside p q r o a b s), abs_neg,
    abs_of_nonneg (mul_nonneg (mul_nonneg three_pos.le inner) wide), cubicBending]
  generalize largest : max (p - q.scale 2 + r).length (q - r.scale 2 + o).length = most
  have long := Vec3.lerpLength middle (largest ▸ le_max_left _ _) (largest ▸ le_max_right _ _)
  calc _ ≤ most * (3 * (1 / 4) * (b - a) ^ 2) := mul_le_mul long
        (mul_le_mul_of_nonneg_right (mul_le_mul_of_nonneg_left (quarter s) three_pos.le) wide)
        (mul_nonneg (mul_nonneg three_pos.le inner) wide) (Vec3.lengthNonneg.trans long)
    _ = 6 * most / 8 * (b - a) ^ 2 := by ring

/-! Conics. A parameter of a conic is moved along the chord by the weights. -/

theorem quotientMixed {f g x y whole : ℝ} (before : 0 ≤ f) (after : 0 ≤ g) (first : 0 < x) (last : 0 < y)
    (some : 0 < whole) (sum : whole = f * x + g * y) : ∃ s ∈ Set.Icc (0 : ℝ) 1, ∀ {p q r rest : ℝ},
      r = f * p + g * q - rest → r / whole - (p / x * (1 - s) + q / y * s) = -(rest / whole) := by
  have share := mul_nonneg after last.le
  refine ⟨g * y / whole, ⟨div_nonneg share some.le, (div_le_one some).mpr ?_⟩, ?_⟩
  · linarith [mul_nonneg before first.le]
  · rintro p q r rest rfl
    have back : 1 - g * y / whole = f * x / whole := by
      rw [eq_div_iff some.ne', sub_mul, div_mul_cancel₀ _ some.ne']
      linarith
    rw [back]
    field_simp
    ring

def conicTop (w p q r t : ℝ) : ℝ := (p * (1 - t) + q * w * t) * (1 - t) + (q * w * (1 - t) + r * t) * t

def pull (w a b : ℝ) : ℝ := a * (1 - b) + (1 - a) * b + w * ((1 - a) * (1 - b) + a * b)

/- A coordinate is mixed from those at both ends, less a multiple of the second difference. All ones have no second
difference, so the weights are mixed without a rest. -/
theorem conicSecant (w p q r a b t : ℝ) : (b - a) * pull w a b * conicTop w p q r t =
    (b - t) * pull w t b * conicTop w p q r a + (t - a) * pull w a t * conicTop w p q r b -
      w * ((t - a) * (b - t)) * (b - a) * (p - q * 2 + r) := by
  unfold conicTop pull
  ring

theorem conicCoordinates (p q r : Vec3 ℝ) (w t : ℝ) : (conic p q w r).pointAt t =
    ⟨conicTop w p.x q.x r.x t / conicTop w 1 1 1 t, conicTop w p.y q.y r.y t / conicTop w 1 1 1 t,
      conicTop w p.z q.z r.z t / conicTop w 1 1 1 t⟩ := by
  rw [conicPoint]
  simp only [conicTop, Vec3.scale, Vec3.unscale, Vec3.mkAdd, Vec3.mk.injEq]
  refine ⟨?_, ?_, ?_⟩ <;> ring

section Weight
variable {w : ℝ} (most : w ≤ 1)
include most

theorem pullLeast {a b : ℝ} (first : a ∈ Set.Icc (0 : ℝ) 1) (last : b ∈ Set.Icc (0 : ℝ) 1) : w ≤ pull w a b := by
  have part := mul_nonneg (sub_nonneg.mpr most) (mul_nonneg first.1 (sub_nonneg.mpr last.2))
  have rest := mul_nonneg (sub_nonneg.mpr most) (mul_nonneg last.1 (sub_nonneg.mpr first.2))
  unfold pull
  linarith

theorem weightLeast (t : ℝ) : w ≤ conicTop w 1 1 1 t := by
  have flat := mul_le_mul_of_nonneg_left (quarter t) (sub_nonneg.mpr most)
  unfold conicTop
  linarith

variable (positive : 0 < w)
include positive

theorem conicBending (p q r : Vec3 ℝ) : (conic p q w r).bending = 2 * (p - q.scale 2 + r).length / w := by
  have whole : 1 ≤ w⁻¹ := (one_le_inv₀ positive).mpr most
  simp [bending, conic, degree, controls, secondDifferences, Vec3.lengthNonneg, whole, div_eq_mul_inv]

theorem conicAlong {a b t : ℝ} (first : a ∈ Set.Icc (0 : ℝ) 1) (last : b ∈ Set.Icc (0 : ℝ) 1) (less : a < b)
    (between : t ∈ Set.Icc a b) : ∃ s ∈ Set.Icc (0 : ℝ) 1, ∀ p q r : ℝ, conicTop w p q r t / conicTop w 1 1 1 t -
      (conicTop w p q r a / conicTop w 1 1 1 a * (1 - s) + conicTop w p q r b / conicTop w 1 1 1 b * s) =
      (p - q * 2 + r) * -(w * ((t - a) * (b - t)) / (pull w a b * conicTop w 1 1 1 t)) := by
  have inside : t ∈ Set.Icc (0 : ℝ) 1 := ⟨first.1.trans between.1, between.2.trans last.2⟩
  have heavy (x : ℝ) : 0 < conicTop w 1 1 1 x := positive.trans_le (weightLeast most x)
  have wide : 0 < (b - a) * pull w a b :=
    mul_pos (sub_pos.mpr less) (positive.trans_le (pullLeast most first last))
  have after := mul_nonneg (sub_nonneg.mpr between.1) (positive.le.trans (pullLeast most first inside))
  have before := mul_nonneg (sub_nonneg.mpr between.2) (positive.le.trans (pullLeast most inside last))
  obtain ⟨s, along, each⟩ := quotientMixed before after (heavy a) (heavy b) (mul_pos wide (heavy t))
    (by linarith [conicSecant w 1 1 1 a b t])
  refine ⟨s, along, fun p q r => ?_⟩
  have same : conicTop w p q r t / conicTop w 1 1 1 t =
      (b - a) * pull w a b * conicTop w p q r t / ((b - a) * pull w a b * conicTop w 1 1 1 t) :=
    (mul_div_mul_left _ _ wide.ne').symm
  have rest : w * ((t - a) * (b - t)) * (b - a) * (p - q * 2 + r) =
      (b - a) * ((p - q * 2 + r) * (w * ((t - a) * (b - t)))) := by ring
  rw [same, each (conicSecant w p q r a b t), rest, mul_assoc (b - a), mul_div_mul_left _ _ (sub_pos.mpr less).ne',
    mul_div_assoc, mul_neg]

theorem conicOff {a b : ℝ} (t : ℝ) (first : a ∈ Set.Icc (0 : ℝ) 1) (last : b ∈ Set.Icc (0 : ℝ) 1) :
    w * ((t - a) * (b - t)) / (pull w a b * conicTop w 1 1 1 t) ≤ (b - a) ^ 2 / (4 * w) := by
  have product : (t - a) * (b - t) ≤ (b - a) ^ 2 / 4 := by nlinarith only [sq_nonneg (t - a - (b - t))]
  have scale : w * w ≤ pull w a b * conicTop w 1 1 1 t := mul_le_mul (pullLeast most first last) (weightLeast most t)
    positive.le (positive.le.trans (pullLeast most first last))
  calc _ ≤ w * ((b - a) ^ 2 / 4) / (w * w) := div_le_div₀ (mul_nonneg positive.le (by positivity))
        (mul_le_mul_of_nonneg_left product positive.le) (mul_pos positive positive) scale
    _ = (b - a) ^ 2 / (4 * w) := by field_simp

theorem conicTaut (p q r : Vec3 ℝ) : (conic p q w r).Taut := by
  intro a b t low high less between
  have first : a ∈ Set.Icc (0 : ℝ) 1 := ⟨low, less.le.trans high⟩
  have last : b ∈ Set.Icc (0 : ℝ) 1 := ⟨low.trans less.le, high⟩
  obtain ⟨s, along, each⟩ := conicAlong most positive first last less between
  have aside : (conic p q w r).pointAt t - ((conic p q w r).pointAt a).lerp ((conic p q w r).pointAt b) s =
      (p - q.scale 2 + r).scale (-(w * ((t - a) * (b - t)) / (pull w a b * conicTop w 1 1 1 t))) := by
    simp only [conicCoordinates, Vec3.lerp, Vec3.scale, Vec3.mkAdd, Vec3.mkSub, exactOne, each]
    rfl
  have apart : 0 ≤ w * ((t - a) * (b - t)) / (pull w a b * conicTop w 1 1 1 t) := by
    refine div_nonneg (mul_nonneg positive.le ?_) (mul_nonneg ?_ ?_)
    · exact mul_nonneg (sub_nonneg.mpr between.1) (sub_nonneg.mpr between.2)
    · linarith [pullLeast most first last]
    · linarith [weightLeast most t]
  refine ⟨s, along, ?_⟩
  rw [Vec3.distanceScaled aside, conicBending most positive, abs_neg, abs_of_nonneg apart]
  calc _ ≤ (p - q.scale 2 + r).length * ((b - a) ^ 2 / (4 * w)) :=
        mul_le_mul_of_nonneg_left (conicOff most positive t first last) Vec3.lengthNonneg
    _ = 2 * (p - q.scale 2 + r).length / w / 8 * (b - a) ^ 2 := by
      field_simp
      ring

end Weight

/-- The curves that sketches are made of: lines, cubics and the pieces of arcs. -/
inductive Stroke : Bezier ℝ → Prop where
  | line (p q : Vec3 ℝ) : Stroke (line p q)
  | cubic (p q r o : Vec3 ℝ) : Stroke (cubic p q r o)
  | piece {center u v : Vec3 ℝ} {radius theta0 dtheta : ℝ} {c : Bezier ℝ}
    (member : c ∈ arc center u v radius theta0 dtheta) : Stroke c

def OnPolyline (samples : List (Vec3 ℝ)) (place : Vec3 ℝ) : Prop :=
  ∃ i a b, samples[i]? = some a ∧ samples[i + 1]? = some b ∧ ∃ s ∈ Set.Icc (0 : ℝ) 1, place = a.lerp b s

variable {c : Bezier ℝ}

theorem arcConic {center u v : Vec3 ℝ} {radius theta0 dtheta : ℝ} (member : c ∈ arc center u v radius theta0 dtheta) :
    ∃ p q w r, c = conic p q w r ∧ 0 < w ∧ w ≤ 1 := by
  obtain ⟨i, found⟩ := List.mem_iff_getElem?.mp member
  exact ⟨_, _, _, _, arcPiece found, eighthPositive.trans_le (cosineOfEighth halfWithinEighth), Real.cos_le_one _⟩

theorem Stroke.taut (stroke : Stroke c) : c.Taut := by
  cases stroke with
  | line p q => exact lineTaut p q
  | cubic p q r o => exact cubicTaut p q r o
  | piece member =>
    obtain ⟨p, q, w, r, rfl, positive, most⟩ := arcConic member
    exact conicTaut most positive p q r

theorem Stroke.ends (stroke : Stroke c) : c.pointAt 0 = c.start ∧ c.pointAt 1 = c.finish := by
  cases stroke with
  | line p q =>
    simp only [linePoint, Vec3.lerp, Vec3.scale, Vec3.mkAdd, exactOne, sub_zero, sub_self, mul_one, mul_zero, add_zero,
      zero_add]
    exact ⟨rfl, rfl⟩
  | cubic p q r o =>
    simp only [cubicPoint, Vec3.scale, Vec3.mkAdd]
    norm_num
    exact ⟨rfl, rfl⟩
  | piece member =>
    obtain ⟨p, q, w, r, rfl, _⟩ := arcConic member
    simp only [conicPoint, Vec3.scale, Vec3.unscale, Vec3.mkAdd]
    norm_num
    exact ⟨rfl, rfl⟩

theorem chordsByBending {tol : ℝ} (least : 1e-12 ≤ tol) :
    c.chordsNeeded tol = max ⌈Real.sqrt (c.bending / (8 * tol))⌉₊ 1 := by
  have larger : (Arith.max : ℝ → ℝ → ℝ) = max := funext₂ maxReal
  have eight : (8.0 : ℝ) = 8 := by norm_num
  simp only [chordsNeeded, bending, larger, max_eq_left least, exactZero, exactOne, eight]
  rfl

theorem chordsEnough {tol : ℝ} {most : ℕ} (least : 1e-12 ≤ tol) (enough : c.chordsNeeded tol ≤ most) :
    0 < c.segmentCount tol most ∧ c.bending / 8 * (1 / c.segmentCount tol most) ^ 2 ≤ tol := by
  have positive : 0 < tol := lt_of_lt_of_le (by norm_num) least
  have needed := chordsByBending (c := c) least
  by_cases straight : c.degree = 1
  · have flat : c.bending = 0 := by simp [bending, straight]
    rw [segmentCount, if_pos straight, flat]
    exact ⟨one_pos, by linarith⟩
  have count : c.segmentCount tol most = c.chordsNeeded tol := by
    rw [segmentCount, if_neg straight]
    exact min_eq_left (enough.trans (le_max_left _ _))
  rw [count]
  have some : 0 < c.chordsNeeded tol := needed ▸ lt_max_of_lt_right one_pos
  have many : (0 : ℝ) < c.chordsNeeded tol := Nat.cast_pos.mpr some
  -- The count is not below the root, so its square is what the bending is divided by.
  have root : Real.sqrt (c.bending / (8 * tol)) ≤ c.chordsNeeded tol :=
    (Nat.le_ceil _).trans (Nat.cast_le.mpr (needed ▸ le_max_left _ _))
  rw [Real.sqrt_le_left many.le, div_le_iff₀ (by positivity)] at root
  refine ⟨some, ?_⟩
  rw [one_div, inv_pow, ← div_eq_mul_inv, div_le_iff₀ (pow_pos many 2)]
  linarith

theorem cellOf {n : ℕ} {t : ℝ} (some : 0 < n) (within : t ∈ Set.Icc (0 : ℝ) 1) :
    ∃ i < n, t ∈ Set.Icc ((i : ℝ) / n) ((i + 1 : ℕ) / n) := by
  have many : (0 : ℝ) < n := Nat.cast_pos.mpr some
  have place : 0 ≤ t * n := mul_nonneg within.1 many.le
  refine ⟨min ⌊t * n⌋₊ (n - 1), by omega, ?_⟩
  rw [Set.mem_Icc, div_le_iff₀ many, le_div_iff₀ many]
  constructor
  · exact (Nat.cast_le.mpr (min_le_left _ _)).trans (Nat.floor_le place)
  · rcases le_total ⌊t * n⌋₊ (n - 1) with inner | last
    · rw [min_eq_left inner]
      exact_mod_cast (Nat.lt_floor_add_one (t * n)).le
    · rw [min_eq_right last, Nat.sub_add_cancel some]
      exact mul_le_of_le_one_left many.le within.2

theorem sampled (c : Bezier ℝ) (n : ℕ) {i : ℕ} (few : i ≤ n) :
    ((parameters n).map c.pointAt)[i]? = some (c.pointAt (i / n)) := by
  rw [parameters, List.getElem?_map, List.getElem?_map, List.getElem?_range (Nat.lt_succ_of_le few)]
  rfl

/- The polyline of a line, of a cubic or of a piece of an arc begins and ends with it, and no point of the curve is farther
from it than the tolerance, unless there may be fewer chords than are needed. -/
theorem polylineNear (stroke : Stroke c) {tol : ℝ} {most : ℕ} (least : 1e-12 ≤ tol) (enough : c.chordsNeeded tol ≤ most) :
    (c.polyline tol most).head? = some c.start ∧ (c.polyline tol most).getLast? = some c.finish ∧
    ∀ t ∈ Set.Icc (0 : ℝ) 1, ∃ place, OnPolyline (c.polyline tol most) place ∧ (c.pointAt t).distance place ≤ tol := by
  obtain ⟨some, bound⟩ := chordsEnough least enough
  obtain ⟨first, last⟩ := stroke.ends
  unfold polyline
  generalize c.segmentCount tol most = n at some bound ⊢
  have many : (0 : ℝ) < n := Nat.cast_pos.mpr some
  refine ⟨?_, ?_, fun t within => ?_⟩
  · rw [List.head?_eq_getElem?, sampled c n (Nat.zero_le n), Nat.cast_zero, zero_div, first]
  · rw [List.getLast?_eq_getElem?, List.length_map, parameters, List.length_map, List.length_range, ← parameters,
      Nat.add_sub_cancel, sampled c n le_rfl, div_self many.ne', last]
  · obtain ⟨i, few, between⟩ := cellOf some within
    have step : ((i + 1 : ℕ) : ℝ) / n - i / n = 1 / n := by
      rw [← sub_div]
      push_cast
      ring
    have forward : (0 : ℝ) < 1 / n := one_div_pos.mpr many
    obtain ⟨s, along, near⟩ := stroke.taut (i / n) ((i + 1 : ℕ) / n) t (div_nonneg (Nat.cast_nonneg i) many.le)
      ((div_le_one many).mpr (Nat.cast_le.mpr few)) (by linarith) between
    rw [step] at near
    exact ⟨_, ⟨i, _, _, sampled c n few.le, sampled c n few, s, along, rfl⟩, near.trans bound⟩

noncomputable def sprung : Bezier ℝ := cubic ⟨0.0, 0.0, 0.0⟩ ⟨1.0, 0.0, 0.0⟩ ⟨5.0, 4.0, 0.0⟩ ⟨9.0, 8.0, 0.0⟩

theorem sprungChords : sprung.chordsNeeded (15 / 64) = 4 := by
  have long : (Vec3.length ⟨3, 4, 0⟩ : ℝ) = 5 := Vec3.lengthOf (by norm_num) (by norm_num [Vec3.dot])
  have none : (Vec3.length ⟨0, 0, 0⟩ : ℝ) = 0 := Vec3.lengthZero.mpr (by norm_num [Vec3.dot])
  have bends : sprung.bending = 30 := by
    rw [sprung, cubicBending]
    norm_num [Vec3.scale, Vec3.mkAdd, Vec3.mkSub, long, none]
  have root : Real.sqrt (30 / (8 * (15 / 64))) = (4 : ℕ) := by
    rw [show (30 / (8 * (15 / 64)) : ℝ) = (4 : ℕ) * (4 : ℕ) by norm_num]
    exact Real.sqrt_mul_self (Nat.cast_nonneg 4)
  rw [chordsByBending (by norm_num), bends, root, Nat.ceil_natCast]
  rfl

theorem sprungNear : sprung.Stroke ∧ (1e-12 : ℝ) ≤ 15 / 64 ∧ sprung.chordsNeeded (15 / 64) ≤ 4 ∧
    (sprung.polyline (15 / 64) 4).getLast? = some ⟨9.0, 8.0, 0.0⟩ ∧
    ∃ place, OnPolyline (sprung.polyline (15 / 64) 4) place ∧ (sprung.pointAt (1 / 3)).distance place ≤ 15 / 64 := by
  have least : (1e-12 : ℝ) ≤ 15 / 64 := by norm_num
  have stroke : sprung.Stroke := .cubic ..
  obtain ⟨_, last, near⟩ := polylineNear stroke least sprungChords.le
  exact ⟨stroke, least, sprungChords.le, last, near (1 / 3) ⟨by norm_num, by norm_num⟩⟩

end Bezier
end Drafting
