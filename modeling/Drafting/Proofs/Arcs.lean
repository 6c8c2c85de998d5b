import Mathlib.Analysis.SpecialFunctions.Trigonometric.Inverse
import Mathlib.Tactic.FieldSimp
import Drafting.Curve.Bezier
import Drafting.Proofs.Exact
/-! Arcs in conic pieces. The middle control point of a piece lies where the tangents at its ends meet, and its weight is
the cosine of half the angle that the piece turns by. Seen from the middle of the piece, every point of it lags by an angle
that is at most that half, at the radius of the arc. -/
namespace Drafting

theorem angleAhead {x y : ℝ} (circle : x ^ 2 + y ^ 2 = 1) (ahead : 0 ≤ x) :
    ∃ lag, Real.cos lag = x ∧ Real.sin lag = y ∧ |lag| ≤ Real.pi / 2 := by
  have bound := abs_le.mp ((sq_le_one_iff_abs_le_one y).mp (by linarith [sq_nonneg x]))
  refine ⟨Real.arcsin y, ?_, Real.sin_arcsin bound.1 bound.2, abs_le.mpr ⟨Real.neg_pi_div_two_le_arcsin y,
    Real.arcsin_le_pi_div_two y⟩⟩
  rw [Real.cos_arcsin, ← circle, add_sub_cancel_right, Real.sqrt_sq ahead]

theorem anglesByCosine {h lag : ℝ} (most : |h| ≤ Real.pi) (most' : |lag| ≤ Real.pi) (ahead : Real.cos h ≤ Real.cos lag) :
    |lag| ≤ |h| := by
  rw [← Real.cos_abs h, ← Real.cos_abs lag] at ahead
  exact (Real.strictAntiOn_cos.le_iff_ge ⟨abs_nonneg h, most⟩ ⟨abs_nonneg lag, most'⟩).mp ahead

theorem cosineOfEighth {h : ℝ} (eighth : |h| ≤ Real.pi / 4) : Real.cos (Real.pi / 4) ≤ Real.cos h := by
  rw [← Real.cos_abs h]
  exact Real.cos_le_cos_of_nonneg_of_le_pi (abs_nonneg h) (by linarith [Real.pi_pos]) eighth

theorem eighthPositive : 0 < Real.cos (Real.pi / 4) :=
  Real.cos_pos_of_mem_Ioo ⟨by linarith [Real.pi_pos], by linarith [Real.pi_pos]⟩

theorem lagWithin {h t whole : ℝ} (eighth : |h| ≤ Real.pi / 4) (first : 0 ≤ t) (last : t ≤ 1)
    (sum : (1 - t) ^ 2 + 2 * t * (1 - t) * Real.cos h + t ^ 2 = whole) :
    0 < whole ∧ ∃ lag, |lag| ≤ |h| ∧ Real.cos lag * whole = ((1 - t) ^ 2 + t ^ 2) * Real.cos h + 2 * t * (1 - t) ∧
      Real.sin lag * whole = (t ^ 2 - (1 - t) ^ 2) * Real.sin h := by
  have pi := Real.pi_pos
  have circle := Real.sin_sq_add_cos_sq h
  have positive : 0 < Real.cos h := eighthPositive.trans_le (cosineOfEighth eighth)
  have inner : 0 ≤ 2 * t * (1 - t) := mul_nonneg (mul_nonneg two_pos.le first) (sub_nonneg.mpr last)
  have outer : 0 < (1 - t) ^ 2 + t ^ 2 := by nlinarith only [sq_nonneg (1 - 2 * t)]
  have some : 0 < whole := by linarith [mul_nonneg inner positive.le]
  refine ⟨some, ?_⟩
  -- The place along the middle and across it, and that it is on the unit circle.
  have round : ((((1 - t) ^ 2 + t ^ 2) * Real.cos h + 2 * t * (1 - t)) / whole) ^ 2 +
      ((t ^ 2 - (1 - t) ^ 2) * Real.sin h / whole) ^ 2 = 1 := by
    rw [div_pow, div_pow, ← add_div, div_eq_one_iff_eq (pow_pos some 2).ne', ← sum]
    linear_combination (t ^ 2 - (1 - t) ^ 2) ^ 2 * circle
  have ahead : Real.cos h ≤ (((1 - t) ^ 2 + t ^ 2) * Real.cos h + 2 * t * (1 - t)) / whole := by
    rw [le_div_iff₀ some, ← sum]
    nlinarith only [mul_nonneg inner (sq_nonneg (Real.sin h)), circle]
  obtain ⟨lag, along, across, quarter⟩ := angleAhead round (positive.le.trans ahead)
  refine ⟨lag, anglesByCosine (by linarith) (by linarith) (along ▸ ahead), ?_, ?_⟩
  · rw [along, div_mul_cancel₀ _ some.ne']
  · rw [across, div_mul_cancel₀ _ some.ne']

namespace Bezier
variable {center u v : Vec3 ℝ} {radius : ℝ}

noncomputable def onCircle (center u v : Vec3 ℝ) (radius angle : ℝ) : Vec3 ℝ :=
  center + (u.scale (Real.cos angle) + v.scale (Real.sin angle)).scale radius

theorem conicPoint (p q r : Vec3 ℝ) (w t : ℝ) : (conic p q w r).pointAt t =
    (p.scale ((1 - t) ^ 2) + q.scale (2 * t * (1 - t) * w) + r.scale (t ^ 2)).unscale
      ((1 - t) ^ 2 + 2 * t * (1 - t) * w + t ^ 2) := by
  simp only [pointAt, conic, List.map_cons, List.map_nil, Homogeneous.reduce, Homogeneous.mixRow, Homogeneous.mix,
    Homogeneous.ofControl, Homogeneous.toPoint, Vec3.scale, Vec3.unscale, Vec3.mkAdd, exactOne, Vec3.mk.injEq]
  refine ⟨?_, ?_, ?_⟩ <;> congr 1 <;> ring

theorem conicTraces {middle h t : ℝ} (eighth : |h| ≤ Real.pi / 4) (first : 0 ≤ t) (last : t ≤ 1) :
    ∃ lag, |lag| ≤ |h| ∧
      (conic (onCircle center u v radius (middle - h)) (onCircle center u v (radius / Real.cos h) middle) (Real.cos h)
        (onCircle center u v radius (middle + h))).pointAt t = onCircle center u v radius (middle + lag) := by
  have positive : 0 < Real.cos h := eighthPositive.trans_le (cosineOfEighth eighth)
  obtain ⟨some, lag, within, along, across⟩ := lagWithin eighth first last rfl
  refine ⟨lag, within, ?_⟩
  rw [conicPoint]
  generalize whole : (1 - t) ^ 2 + 2 * t * (1 - t) * Real.cos h + t ^ 2 = d at some along across ⊢
  have half : radius / Real.cos h * Real.cos h = radius := div_mul_cancel₀ radius positive.ne'
  generalize radius / Real.cos h = pulled at half ⊢
  rcases center with ⟨cx, cy, cz⟩
  rcases u with ⟨ux, uy, uz⟩
  rcases v with ⟨vx, vy, vz⟩
  simp only [onCircle, Vec3.scale, Vec3.unscale, Vec3.mkAdd, Vec3.mk.injEq, Real.cos_add, Real.cos_sub, Real.sin_add,
    Real.sin_sub, div_eq_iff some.ne']
  -- In each coordinate the weights sum up, the pull of the middle is taken back, and the lag is read off both axes.
  have coordinate (c u v : ℝ) : (c + (u * (Real.cos middle * Real.cos h + Real.sin middle * Real.sin h) +
      v * (Real.sin middle * Real.cos h - Real.cos middle * Real.sin h)) * radius) * (1 - t) ^ 2 +
      (c + (u * Real.cos middle + v * Real.sin middle) * pulled) * (2 * t * (1 - t) * Real.cos h) +
      (c + (u * (Real.cos middle * Real.cos h - Real.sin middle * Real.sin h) +
        v * (Real.sin middle * Real.cos h + Real.cos middle * Real.sin h)) * radius) * t ^ 2 =
      (c + (u * (Real.cos middle * Real.cos lag - Real.sin middle * Real.sin lag) +
        v * (Real.sin middle * Real.cos lag + Real.cos middle * Real.sin lag)) * radius) * d := by
    linear_combination c * whole + (u * Real.cos middle + v * Real.sin middle) * (2 * t * (1 - t)) * half -
      radius * (u * Real.cos middle + v * Real.sin middle) * along -
      radius * (v * Real.cos middle - u * Real.sin middle) * across
  exact ⟨coordinate cx ux vx, coordinate cy uy vy, coordinate cz uz vz⟩

noncomputable def pieceCount (dtheta : ℝ) : ℕ := max 1 ⌈|dtheta| / Scalar.halfPi⌉₊

noncomputable def pieceAngle (theta0 dtheta : ℝ) (i : ℕ) : ℝ := theta0 + dtheta * (i / pieceCount dtheta)

noncomputable def pieceHalf (dtheta : ℝ) : ℝ := dtheta / pieceCount dtheta / 2.0

noncomputable def piece (center u v : Vec3 ℝ) (radius middle h : ℝ) : Bezier ℝ :=
  conic (onCircle center u v radius (middle - h)) (onCircle center u v (radius / Real.cos h) middle) (Real.cos h)
    (onCircle center u v radius (middle + h))

section Pieces
variable {theta0 dtheta : ℝ}

theorem countQuarters : pieceCount dtheta = max 1 ⌈|dtheta| / (Real.pi / 2)⌉₊ := by
  unfold pieceCount Scalar.halfPi
  rw [exactTwo]
  rfl

theorem countPositive : (0 : ℝ) < pieceCount dtheta := Nat.cast_pos.mpr (lt_max_of_lt_left one_pos)

theorem halfWithinEighth : |pieceHalf dtheta| ≤ Real.pi / 4 := by
  have count : |dtheta| / (Real.pi / 2) ≤ pieceCount dtheta :=
    (Nat.le_ceil _).trans (Nat.cast_le.mpr (countQuarters ▸ le_max_right 1 _))
  rw [div_le_iff₀ (half_pos Real.pi_pos)] at count
  rw [pieceHalf, exactTwo, abs_div, abs_div, abs_two, Nat.abs_cast, div_le_iff₀ two_pos, div_le_iff₀ countPositive]
  linarith

theorem pieceAngleNext (i : ℕ) : pieceAngle theta0 dtheta (i + 1) = pieceAngle theta0 dtheta i + pieceHalf dtheta +
    pieceHalf dtheta := by
  rw [pieceAngle, pieceAngle, pieceHalf, exactTwo]
  push_cast
  ring

theorem pieceAngleFirst : pieceAngle theta0 dtheta 0 = theta0 := by
  rw [pieceAngle, Nat.cast_zero, zero_div, mul_zero, add_zero]

theorem pieceAngleLast : pieceAngle theta0 dtheta (pieceCount dtheta) = theta0 + dtheta := by
  rw [pieceAngle, div_self countPositive.ne', mul_one]

theorem lagBetween {a h lag : ℝ} (within : |lag| ≤ |h|) : a + h + lag ∈ Set.uIcc a (a + h + h) := by
  rw [Set.mem_uIcc]
  obtain ⟨low, high⟩ := abs_le.mp within
  rcases le_total 0 h with ahead | back
  · rw [abs_of_nonneg ahead] at low high
    exact .inl ⟨by linarith, by linarith⟩
  · rw [abs_of_nonpos back] at low high
    exact .inr ⟨by linarith, by linarith⟩

theorem arcPieces : arc center u v radius theta0 dtheta = (List.range (pieceCount dtheta)).map fun i =>
    piece center u v radius (pieceAngle theta0 dtheta i + pieceHalf dtheta) (pieceHalf dtheta) := by
  have count : Nat.max (Scalar.ceilNat (Arith.abs dtheta / Scalar.halfPi)) 1 = pieceCount dtheta := max_comm _ 1
  unfold arc
  dsimp only
  rw [count]
  refine List.map_congr_left fun i _ => ?_
  have begins : theta0 + dtheta / pieceCount dtheta * i = pieceAngle theta0 dtheta i := by
    rw [pieceAngle, div_mul_eq_mul_div, mul_div_assoc]
  have half : dtheta / pieceCount dtheta / 2.0 = pieceHalf dtheta := rfl
  have step : dtheta / pieceCount dtheta = pieceHalf dtheta + pieceHalf dtheta := by
    rw [pieceHalf, exactTwo, add_halves]
  change conic (onCircle center u v radius (theta0 + dtheta / pieceCount dtheta * i))
    (onCircle center u v (radius / Real.cos (dtheta / pieceCount dtheta / 2.0))
      (theta0 + dtheta / pieceCount dtheta * i + dtheta / pieceCount dtheta / 2.0))
    (Real.cos (dtheta / pieceCount dtheta / 2.0))
    (onCircle center u v radius (theta0 + dtheta / pieceCount dtheta * i + dtheta / pieceCount dtheta)) = _
  rw [begins, half, step, piece, add_sub_cancel_right, add_assoc]

theorem arcPiece {i : ℕ} {c : Bezier ℝ} (found : (arc center u v radius theta0 dtheta)[i]? = some c) :
    c = piece center u v radius (pieceAngle theta0 dtheta i + pieceHalf dtheta) (pieceHalf dtheta) := by
  rw [arcPieces, List.getElem?_map] at found
  obtain ⟨j, place, rfl⟩ := Option.map_eq_some_iff.mp found
  obtain ⟨_, rfl⟩ := List.getElem?_eq_some_iff.mp place
  rw [List.getElem_range]

theorem pieceStart {i : ℕ} : (piece center u v radius (pieceAngle theta0 dtheta i + pieceHalf dtheta)
    (pieceHalf dtheta)).start = onCircle center u v radius (pieceAngle theta0 dtheta i) :=
  congrArg (onCircle center u v radius) (add_sub_cancel_right _ _)

theorem pieceFinish {i : ℕ} : (piece center u v radius (pieceAngle theta0 dtheta i + pieceHalf dtheta)
    (pieceHalf dtheta)).finish = onCircle center u v radius (pieceAngle theta0 dtheta (i + 1)) :=
  congrArg (onCircle center u v radius) (pieceAngleNext i).symm

end Pieces

/- An arc is so many conics, none of them with a weight below the cosine of an eighth of a turn. They join up from the first
angle to the last, and no point of a piece is off the circle or outside the angles between which the piece is. The axes may
be any two vectors: the circle is what they make of it. -/
theorem arcTracesCircle (center u v : Vec3 ℝ) (radius theta0 dtheta : ℝ) :
    let pieces := arc center u v radius theta0 dtheta
    let place := onCircle center u v radius
    let angle := pieceAngle theta0 dtheta
    pieces.length = max 1 ⌈|dtheta| / (Real.pi / 2)⌉₊ ∧
    pieces.head?.map start = some (place theta0) ∧ pieces.getLast?.map finish = some (place (theta0 + dtheta)) ∧
    (∀ i c d, pieces[i]? = some c → pieces[i + 1]? = some d → c.finish = d.start) ∧
    ∀ i c, pieces[i]? = some c →
      (∃ p q w r, c = conic p q w r ∧ Real.cos (Real.pi / 4) ≤ w) ∧
      c.start = place (angle i) ∧ c.finish = place (angle (i + 1)) ∧
      ∀ t, 0 ≤ t → t ≤ 1 → ∃ phi ∈ Set.uIcc (angle i) (angle (i + 1)), c.pointAt t = place phi := by
  intro pieces place angle
  refine ⟨?_, ?_, ?_, fun i c d here next => ?_, fun i c found => ?_⟩
  · simp only [pieces, arcPieces, List.length_map, List.length_range, countQuarters]
  · simp only [pieces, arcPieces, List.head?_map, List.head?_range]
    rw [if_neg (Nat.cast_pos.mp countPositive).ne', Option.map_some, Option.map_some, pieceStart, pieceAngleFirst]
  · simp only [pieces, arcPieces, List.getLast?_map, List.getLast?_range]
    rw [if_neg (Nat.cast_pos.mp countPositive).ne', Option.map_some, Option.map_some, pieceFinish,
      Nat.sub_add_cancel (Nat.cast_pos.mp countPositive), pieceAngleLast]
  · rw [arcPiece here, arcPiece next, pieceFinish, pieceStart]
  · obtain rfl := arcPiece found
    refine ⟨⟨_, _, _, _, rfl, cosineOfEighth halfWithinEighth⟩, pieceStart, pieceFinish, fun t first last => ?_⟩
    obtain ⟨lag, within, traced⟩ := conicTraces halfWithinEighth first last
    refine ⟨_, ?_, traced⟩
    rw [show angle (i + 1) = _ from pieceAngleNext i]
    exact lagBetween within

theorem halfTurnBack : ∃ c : Bezier ℝ, (arc .zero .unitX .unitY 2 0 (-Real.pi))[1]? = some c ∧
    (0 : ℝ) ≤ 1 / 3 ∧ (1 / 3 : ℝ) ≤ 1 ∧ ∃ phi ∈ Set.uIcc (-(Real.pi / 2)) (-Real.pi),
      c.pointAt (1 / 3) = onCircle .zero .unitX .unitY 2 phi := by
  have turn : |-Real.pi| / (Real.pi / 2) = 2 := by
    rw [abs_neg, abs_of_pos Real.pi_pos]
    field_simp
  have two : pieceCount (-Real.pi) = 2 := by
    rw [countQuarters, turn]
    norm_num
  obtain ⟨count, _, _, _, each⟩ := arcTracesCircle .zero .unitX .unitY 2 0 (-Real.pi)
  have there : 1 < (arc .zero .unitX .unitY 2 0 (-Real.pi)).length := by
    rw [count, turn]
    norm_num
  have found := List.getElem?_eq_getElem there
  have first : (0 : ℝ) ≤ 1 / 3 := by norm_num
  have last : (1 / 3 : ℝ) ≤ 1 := by norm_num
  obtain ⟨_, _, _, traced⟩ := each 1 _ found
  obtain ⟨phi, between, same⟩ := traced (1 / 3) first last
  have middle : pieceAngle 0 (-Real.pi) 1 = -(Real.pi / 2) := by
    rw [pieceAngle, two]
    push_cast
    ring
  have finish : pieceAngle 0 (-Real.pi) (1 + 1) = -Real.pi := by
    rw [pieceAngle, two]
    push_cast
    ring
  rw [middle, finish] at between
  exact ⟨_, found, first, last, phi, between, same⟩

end Bezier
end Drafting
