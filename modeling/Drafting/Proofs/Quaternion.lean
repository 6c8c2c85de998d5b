import Drafting.Proofs.Rotation
/-! Quaternions of expressions. A product turns as its factors do one after the other, the right one first. A
quaternion of any length takes products of vectors to their multiples by its squared length, so one of unit length
takes the axes of space to such axes, and the one about an axis leaves that axis where it is. -/
namespace Drafting

structure Vec3.RightHanded (u v n : Vec3 ℝ) : Prop where
  units : u.dot u = 1 ∧ v.dot v = 1 ∧ n.dot n = 1
  across : u.dot v = 0 ∧ v.dot n = 0 ∧ n.dot u = 0
  product : u.cross v = n

namespace Quat
variable {q : Quat ℝ} {a b : Vec3 ℝ} {v : ParamId → ℝ}

noncomputable def squares (q : Quat ℝ) : ℝ := q.x * q.x + q.y * q.y + q.z * q.z + q.w * q.w

theorem evalMagnitudeSquared {a : Quat (Expr ℝ)} : a.magnitudeSquared.eval v = (a.eval v).squares := by
  simp only [magnitudeSquared, squares, eval, map, Expr.evalAdd, Expr.evalSquare]
  ring

theorem unitIff : q.length = 1 ↔ q.squares = 1 := unitSquares

theorem evalTimesApply {a b : Quat (Expr ℝ)} {p : Vec3 (Expr ℝ)} :
    ((a.times b).apply p).eval v = (a.eval v).rotate ((b.eval v).rotate (p.eval v)) := by
  rw [evalApply]
  simp only [times, rotate, eval, map, Vec3.eval, Vec3.map, Vec3.scale, Vec3.cross, Vec3.dot, Vec3.mkAdd, Expr.evalAdd,
    Expr.evalSub, Expr.evalMul, exactTwo, Vec3.mk.injEq]
  refine ⟨?_, ?_, ?_⟩ <;> ring

theorem rotateProduct (q : Quat ℝ) (a b : Vec3 ℝ) : (q.rotate a).dot (q.rotate b) = q.squares ^ 2 * a.dot b := by
  simp only [squares, rotate, Vec3.scale, Vec3.cross, Vec3.dot, Vec3.mkAdd, exactTwo]
  ring

theorem rotateCross (q : Quat ℝ) (a b : Vec3 ℝ) :
    (q.rotate a).cross (q.rotate b) = (q.rotate (a.cross b)).scale q.squares := by
  simp only [squares, rotate, Vec3.scale, Vec3.cross, Vec3.dot, Vec3.mkAdd, exactTwo, Vec3.mk.injEq]
  refine ⟨?_, ?_, ?_⟩ <;> ring

theorem unitDot (unit : q.squares = 1) : (q.rotate a).dot (q.rotate b) = a.dot b := by
  rw [rotateProduct, unit, one_pow, one_mul]

theorem unitCross (unit : q.squares = 1) : (q.rotate a).cross (q.rotate b) = q.rotate (a.cross b) := by
  rw [rotateCross, unit, Vec3.scaleOne]

theorem axesRightHanded : Vec3.RightHanded .unitX .unitY .unitZ := by
  constructor <;> simp [Vec3.dot, Vec3.cross, Vec3.unitX, Vec3.unitY, Vec3.unitZ]

theorem turnedRightHanded {u w n : Vec3 ℝ} (h : Vec3.RightHanded u w n) (unit : q.squares = 1) :
    Vec3.RightHanded (q.rotate u) (q.rotate w) (q.rotate n) where
  units := by simpa only [unitDot unit] using h.units
  across := by simpa only [unitDot unit] using h.across
  product := by rw [unitCross unit, h.product]

theorem axisFixed (unit : a.length = 1) (angle : ℝ) : (ofAxisAngle a angle).rotate a = a := by
  have square : a.dot a = 1 := by rw [← Vec3.lengthSelf, unit, one_mul]
  have circle := Real.sin_sq_add_cos_sq (angle * 0.5)
  change (Quat.mk (a.x * Real.sin (angle * 0.5)) (a.y * Real.sin (angle * 0.5)) (a.z * Real.sin (angle * 0.5))
    (Real.cos (angle * 0.5))).rotate a = a
  generalize Real.sin (angle * 0.5) = s, Real.cos (angle * 0.5) = c at circle ⊢
  rcases a with ⟨x, y, z⟩
  simp only [rotate, Vec3.scale, Vec3.cross, Vec3.dot, Vec3.mkAdd, exactTwo, Vec3.mk.injEq] at square ⊢
  refine ⟨?_, ?_, ?_⟩
  · linear_combination x * s ^ 2 * square + x * circle
  · linear_combination y * s ^ 2 * square + y * circle
  · linear_combination z * s ^ 2 * square + z * circle

/- At any values of the parameters, the product of two quaternions of expressions turns as they do one after the other,
and turning scales lengths by the squared length of the quaternion. One of unit length takes the axes of space to axes
of unit length at right angles in the same order, and turns a vector of expressions as numbers are turned. The one about
a unit axis by any angle has unit length and leaves the axis. -/
theorem expressionsRotate (v : ParamId → ℝ) (a b : Quat (Expr ℝ)) (p : Vec3 (Expr ℝ)) :
    ((a.times b).apply p).eval v = (a.apply (b.apply p)).eval v ∧
    ((a.apply p).eval v).lengthSquared = a.magnitudeSquared.eval v ^ 2 * (p.eval v).lengthSquared ∧
    (a.magnitudeSquared.eval v = 1 →
      Vec3.RightHanded (a.imageU.eval v) (a.imageV.eval v) (a.imageN.eval v) ∧
      (a.apply p).eval v = (a.eval v).rotate (p.eval v)) ∧
    ∀ (axis : Vec3 (Expr ℝ)) (angle : Expr ℝ), (axis.eval v).length = 1 →
      (aboutAxis axis angle).magnitudeSquared.eval v = 1 ∧ ((aboutAxis axis angle).apply axis).eval v = axis.eval v := by
  refine ⟨?_, ?_, fun unit => ⟨?_, evalApply⟩, fun axis angle unit => ⟨?_, ?_⟩⟩
  · rw [evalTimesApply, evalApply, evalApply]
  · rw [evalApply, evalMagnitudeSquared]
    exact rotateProduct _ _ _
  · rw [evalMagnitudeSquared] at unit
    rw [evalImageU, evalImageV, evalImageN]
    exact turnedRightHanded axesRightHanded unit
  · rw [evalMagnitudeSquared, evalAboutAxis]
    exact unitIff.mp (ofAxisAngleUnit unit _)
  · rw [evalApply, evalAboutAxis]
    exact axisFixed unit _

theorem thirdTurns : ∃ (v : ParamId → ℝ) (a : Quat (Expr ℝ)) (p axis : Vec3 (Expr ℝ)) (angle : Expr ℝ),
    a.magnitudeSquared.eval v = 1 ∧ (axis.eval v).length = 1 ∧
    Vec3.RightHanded (a.imageU.eval v) (a.imageV.eval v) (a.imageN.eval v) ∧
    (a.apply p).eval v = (a.eval v).rotate (p.eval v) ∧
    (aboutAxis axis angle).magnitudeSquared.eval v = 1 ∧ ((aboutAxis axis angle).apply axis).eval v = axis.eval v := by
  let part (n : Nat) : ParamId := .request ⟨1⟩ n
  let v : ParamId → ℝ := fun _ => 1 / 2
  let a : Quat (Expr ℝ) := .ofParams ⟨part 1, part 2, part 3, part 0⟩
  let p : Vec3 (Expr ℝ) := .ofParams ⟨part 4, part 5, part 6⟩
  let axis : Vec3 (Expr ℝ) := Vec3.toExpr ⟨2 / 3, -1 / 3, 2 / 3⟩
  have unit : a.magnitudeSquared.eval v = 1 := by
    rw [evalMagnitudeSquared]
    change (1 / 2 * (1 / 2) + 1 / 2 * (1 / 2) + 1 / 2 * (1 / 2) + 1 / 2 * (1 / 2) : ℝ) = 1
    norm_num
  have long : (axis.eval v).length = 1 := by
    change Real.sqrt (2 / 3 * (2 / 3) + -1 / 3 * (-1 / 3) + 2 / 3 * (2 / 3)) = 1
    norm_num
  obtain ⟨_, _, turned, about⟩ := expressionsRotate v a a p
  exact ⟨v, a, p, axis, .param (part 7), unit, long, (turned unit).1, (turned unit).2, (about axis _ long).1,
    (about axis _ long).2⟩

end Quat
end Drafting
