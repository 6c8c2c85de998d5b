import Drafting.Proofs.Planar
/-! Motions over exact numbers. A copy is placed by expressions, a shell by numbers: a rotation built from an axis
that is first brought to unit length turns the same way in both, whether its angle is halved by division or by
multiplication, and turning about a center is turning about the origin with what the center moves by put back. -/
namespace Drafting

namespace Vec3
variable {a b : Vec3 ℝ} {v : ParamId → ℝ}

@[simp] theorem evalOfParams (p : Vec3 ParamId) : (ofParams p : Vec3 (Expr ℝ)).eval v = p.map v := rfl

@[simp] theorem evalToExpr (a : Vec3 ℝ) : a.toExpr.eval v = a := rfl

@[simp] theorem scaleOne (a : Vec3 ℝ) : a.scale 1 = a := by
  simp only [scale, mul_one]

theorem scaleMinusOne (a : Vec3 ℝ) : a.scale (-1) = -a := by
  simp only [scale, mul_neg, mul_one]
  rfl

@[simp] theorem addZero (a : Vec3 ℝ) : a + zero = a := by
  rcases a with ⟨x, y, z⟩
  simp only [zero, mkAdd, exactZero, add_zero]

theorem lengthPositive (some : a ≠ zero) : 0 < a.length := by
  refine lt_of_le_of_ne lengthNonneg fun none => some ?_
  obtain ⟨x, y, z⟩ := dotSelf.mp (lengthZero.mp none.symm)
  rcases a with ⟨ax, ay, az⟩
  simp only [zero, exactZero, mk.injEq]
  exact ⟨x, y, z⟩

theorem normalizeOrZeroOf (long : 0 < a.length) : a.normalizeOrZero = a.scale (1 / a.length) := by
  unfold normalizeOrZero
  dsimp only
  rw [exactOne, exactZero, if_pos]
  exact Bool.and_eq_true_iff.mpr ⟨rfl, decide_eq_true (one_div_pos.mpr long)⟩

theorem unitNormalized (unit : a.length = 1) : a.normalizeOrZero = a := by
  rw [normalizeOrZeroOf (unit ▸ one_pos), unit, div_one, scaleOne]

theorem normalizedLength (long : 0 < a.length) : a.normalizeOrZero.length = 1 := by
  have square : a.normalizeOrZero.dot a.normalizeOrZero = 1 := by
    rw [normalizeOrZeroOf long, scaleDot, dotComm, scaleDot, ← lengthSelf]
    field_simp
  exact (Real.sqrt_eq_one).mpr square

theorem evalWithMagnitude {a : Vec3 (Expr ℝ)} (long : 0 < (a.eval v).length) :
    (a.withMagnitude (.const 1.0)).eval v = (a.eval v).normalizeOrZero := by
  rw [withMagnitude, evalScale, Expr.evalDiv, Expr.evalConst, exactOne, evalMagnitude, normalizeOrZeroOf long]

end Vec3

namespace Quat
variable {q : Quat ℝ} {a b : Vec3 ℝ} {v : ParamId → ℝ}

@[simp] theorem evalAboutAxis {axis : Vec3 (Expr ℝ)} {angle : Expr ℝ} :
    (aboutAxis axis angle).eval v = ofAxisAngle (axis.eval v) (angle.eval v) := by
  simp only [aboutAxis, ofAxisAngle, eval, map, Vec3.eval, Vec3.map, Expr.evalMul, Expr.evalSin, Expr.evalCos,
    Expr.evalDiv, Expr.evalConst, exactTwo, exactHalf, mul_one_div]
  rfl

theorem rotateImages (q : Quat ℝ) (a : Vec3 ℝ) : q.rotate a =
    (q.rotate .unitX).scale a.x + (q.rotate .unitY).scale a.y + (q.rotate .unitZ).scale a.z := by
  simp only [rotate, Vec3.scale, Vec3.cross, Vec3.dot, Vec3.unitX, Vec3.unitY, Vec3.unitZ, Vec3.mkAdd, exactZero,
    exactOne, exactTwo, Vec3.mk.injEq]
  refine ⟨?_, ?_, ?_⟩ <;> ring

@[simp] theorem evalApply {q : Quat (Expr ℝ)} {p : Vec3 (Expr ℝ)} :
    (q.apply p).eval v = (q.eval v).rotate (p.eval v) := by
  rw [rotateImages, apply, Vec3.evalAdd, Vec3.evalAdd, Vec3.evalScale, Vec3.evalScale, Vec3.evalScale, evalImageU,
    evalImageV, evalImageN]
  rfl

theorem rotateAbout (q : Quat ℝ) (a c : Vec3 ℝ) : c + q.rotate (a - c) = q.rotate a + (c - q.rotate c) := by
  rcases a with ⟨x, y, z⟩
  rcases c with ⟨cx, cy, cz⟩
  simp only [rotate, Vec3.scale, Vec3.cross, Vec3.dot, Vec3.mkAdd, Vec3.mkSub, exactTwo, Vec3.mk.injEq]
  refine ⟨?_, ?_, ?_⟩ <;> ring

@[simp] theorem rotateIdentity (a : Vec3 ℝ) : identity.rotate a = a := by
  rcases a with ⟨x, y, z⟩
  simp only [identity, rotate, Vec3.scale, Vec3.cross, Vec3.dot, Vec3.mkAdd, exactZero, exactOne, exactTwo,
    Vec3.mk.injEq]
  refine ⟨?_, ?_, ?_⟩ <;> ring

theorem unitNormalized (unit : q.length = 1) : q.normalize = q := by
  simp only [normalize, unit, map, exactOne, div_one, mul_one]

theorem identityUnit : (identity : Quat ℝ).length = 1 := by
  refine unitSquares.mpr ?_
  simp only [identity, exactZero, exactOne]
  ring

theorem ofAxisAngleUnit (unit : a.length = 1) (angle : ℝ) : (ofAxisAngle a angle).length = 1 := by
  have square : a.dot a = 1 := by rw [← Vec3.lengthSelf, unit, one_mul]
  have circle := Real.sin_sq_add_cos_sq (angle * 0.5)
  refine unitSquares.mpr ?_
  change a.x * Real.sin (angle * 0.5) * (a.x * Real.sin (angle * 0.5)) +
    a.y * Real.sin (angle * 0.5) * (a.y * Real.sin (angle * 0.5)) +
    a.z * Real.sin (angle * 0.5) * (a.z * Real.sin (angle * 0.5)) +
    Real.cos (angle * 0.5) * Real.cos (angle * 0.5) = 1
  rw [Vec3.dot] at square
  linear_combination Real.sin (angle * 0.5) ^ 2 * square + circle

end Quat

namespace CopyTransform
variable {base : Vec3 ℝ} {v : ParamId → ℝ}

@[simp] theorem evalIdentity : (identity.point base).eval v = base := rfl

@[simp] theorem evalTranslate {delta : Vec3 ParamId} {times : ℝ} :
    ((translate delta times).point base).eval v = base + (delta.map v).scale times := by
  rw [point, Vec3.evalAdd, Vec3.evalScale]
  rfl

theorem evalRotate {center axis : Vec3 ParamId} {angle : ParamId} {times : ℝ} (long : axis.map v ≠ .zero) :
    let q := Quat.ofAxisAngle (axis.map v).normalizeOrZero (v angle * times)
    ((rotate center axis angle times).point base).eval v =
      q.rotate base + (center.map v - q.rotate (center.map v)) := by
  simp only [point, rotation?, Option.getD_some, Vec3.evalAdd, Quat.evalApply, Vec3.evalSub, Vec3.evalOfParams,
    Vec3.evalToExpr, Quat.evalAboutAxis, Expr.evalMul, Expr.evalParam, Expr.evalConst]
  rw [Vec3.evalWithMagnitude (a := Vec3.ofParams axis) (Vec3.lengthPositive long), Vec3.evalOfParams, Quat.rotateAbout]

theorem evalRevolve {origin axis : Vec3 ℝ} {angle : ParamId} (unit : axis.length = 1) :
    ((revolve origin axis angle).point base).eval v =
      origin + (Quat.ofAxisAngle axis (v angle)).rotate (base - origin) := by
  simp only [point, rotation?, Option.getD_some, Vec3.evalAdd, Quat.evalApply, Vec3.evalSub, Vec3.evalToExpr,
    Quat.evalAboutAxis, Expr.evalParam, Vec3.unitNormalized unit]

@[simp] theorem evalLinked {offset : Vec3 ParamId} {rotation : Quat ParamId} :
    ((linked offset rotation).point base).eval v = (rotation.map v).rotate base + offset.map v := by
  rw [point, Vec3.evalAdd, Quat.evalApply]
  rfl

end CopyTransform

end Drafting
