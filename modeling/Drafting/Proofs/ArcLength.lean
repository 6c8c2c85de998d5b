import Mathlib.Analysis.SpecialFunctions.Complex.Arg
import Drafting.Proofs.Measured
import Drafting.Proofs.Mirror
import Drafting.Proofs.Placing
import Drafting.Proofs.Quaternion
/-! The length of an arc that is drawn in a workplane. The angle between its radii tells the sweep up to the side of the
half turn, and the side is the one that the angles of both ends in the workplane tell. -/
namespace Drafting
open Result

theorem tauExact : (Scalar.tau : ℝ) = 2 * Real.pi := by
  change 2.0 * Real.pi = _
  rw [exactTwo]

theorem turnRemainder (x : ℝ) : 0 ≤ Scalar.remEuclid x Scalar.tau ∧ Scalar.remEuclid x Scalar.tau < Scalar.tau ∧
    Real.cos (Scalar.remEuclid x Scalar.tau) = Real.cos x ∧ Real.sin (Scalar.remEuclid x Scalar.tau) = Real.sin x := by
  have remainder : Scalar.remEuclid x Scalar.tau = x - ⌊x / (2 * Real.pi)⌋ * (2 * Real.pi) := by
    change x - |(Scalar.tau : ℝ)| * ⌊x / |(Scalar.tau : ℝ)|⌋ = _
    rw [tauExact, abs_of_pos Real.two_pi_pos, mul_comm]
  have low := (le_div_iff₀ Real.two_pi_pos).mp (Int.floor_le (x / (2 * Real.pi)))
  have high := (div_lt_iff₀ Real.two_pi_pos).mp (Int.lt_floor_add_one (x / (2 * Real.pi)))
  rw [remainder, tauExact]
  exact ⟨by linarith, by linarith, Real.cos_sub_int_mul_two_pi x _, Real.sin_sub_int_mul_two_pi x _⟩

namespace Vec2
variable {a b : Vec2 ℝ} {angle : ℝ}

/-- Counter-clockwise from the direction of one vector to that of another, by less than a full turn. -/
structure TurnsBy (a b : Vec2 ℝ) (angle : ℝ) : Prop where
  nonneg : 0 ≤ angle
  less : angle < Scalar.tau
  turned : ∃ k, 0 < k ∧ b = scale ⟨a.x * Real.cos angle - a.y * Real.sin angle, a.x * Real.sin angle + a.y * Real.cos angle⟩ k

theorem polar (a : Vec2 ℝ) : ∃ r, 0 ≤ r ∧ r * r = a.dot a ∧ a.x = r * Real.cos (Scalar.atan2 a.y a.x) ∧
    a.y = r * Real.sin (Scalar.atan2 a.y a.x) := by
  have x := Complex.norm_mul_cos_arg ⟨a.x, a.y⟩
  have y := Complex.norm_mul_sin_arg ⟨a.x, a.y⟩
  refine ⟨‖(⟨a.x, a.y⟩ : ℂ)‖, norm_nonneg _, ?_, x.symm, y.symm⟩
  rw [← sq, Complex.sq_norm, Complex.normSq_mk]
  rfl

theorem turnsByRemainder (longA : 0 < a.dot a) (longB : 0 < b.dot b) :
    a.TurnsBy b (Scalar.remEuclid (Scalar.atan2 b.y b.x - Scalar.atan2 a.y a.x) Scalar.tau) := by
  obtain ⟨low, high, cosine, sine⟩ := turnRemainder (Scalar.atan2 b.y b.x - Scalar.atan2 a.y a.x)
  refine ⟨low, high, ?_⟩
  rw [cosine, sine]
  obtain ⟨r, some, square, ax, ay⟩ := a.polar
  obtain ⟨q, some', square', bx, ty⟩ := b.polar
  have long : 0 < r := some.lt_of_ne' fun none => longA.ne' (by rw [← square, none, mul_zero])
  have long' : 0 < q := some'.lt_of_ne' fun none => longB.ne' (by rw [← square', none, mul_zero])
  generalize Scalar.atan2 a.y a.x = alpha at ax ay ⊢
  generalize Scalar.atan2 b.y b.x = beta at bx ty ⊢
  refine ⟨q / r, div_pos long' long, ?_⟩
  have whole := Real.sin_sq_add_cos_sq alpha
  rcases b with ⟨x, y⟩
  simp only at bx ty
  rw [bx, ty, ax, ay, Real.cos_sub, Real.sin_sub, scale, mk.injEq]
  constructor
  · field_simp
    linear_combination -Real.cos beta * whole
  · field_simp
    linear_combination -Real.sin beta * whole

theorem TurnsBy.cosine (turns : a.TurnsBy b angle) (long : 0 < a.dot a) :
    a.dot b / (Real.sqrt (a.dot a) * Real.sqrt (b.dot b)) = Real.cos angle := by
  obtain ⟨k, positive, rfl⟩ := turns.turned
  have whole := Real.sin_sq_add_cos_sq angle
  have product : a.dot (scale ⟨a.x * Real.cos angle - a.y * Real.sin angle,
      a.x * Real.sin angle + a.y * Real.cos angle⟩ k) = a.dot a * Real.cos angle * k := by
    simp only [dot, scale]
    ring
  have square : (scale ⟨a.x * Real.cos angle - a.y * Real.sin angle,
      a.x * Real.sin angle + a.y * Real.cos angle⟩ k).dot (scale ⟨a.x * Real.cos angle - a.y * Real.sin angle,
      a.x * Real.sin angle + a.y * Real.cos angle⟩ k) = a.dot a * k ^ 2 := by
    simp only [dot, scale]
    linear_combination k ^ 2 * (a.x * a.x + a.y * a.y) * whole
  rw [product, square, Real.sqrt_mul long.le, Real.sqrt_sq positive.le, ← mul_assoc, Real.mul_self_sqrt long.le]
  field_simp

theorem apartPositive (apart : a ≠ b) : 0 < (a - b).dot (a - b) :=
  (add_nonneg (mul_self_nonneg _) (mul_self_nonneg _)).lt_of_ne' (apartSquare apart.symm)

end Vec2

noncomputable def sweepOf (angle : ℝ) : ℝ := if angle = 0 then Scalar.tau else angle

theorem sweepOfEnds {angle : ℝ} (clear : angle = 0 ∨ 1e-6 ≤ angle) :
    (if angle < 1e-6 then angle + Scalar.tau else angle) = sweepOf angle := by
  have small : (0 : ℝ) < 1e-6 := by norm_num
  unfold sweepOf
  rcases clear with rfl | far
  · rw [if_pos small, if_pos rfl, zero_add]
  · rw [if_neg far.not_gt, if_neg (small.trans_le far).ne']

theorem sweepOfCosine {angle : ℝ} (low : 0 ≤ angle) (high : angle < Scalar.tau) :
    (if Scalar.pi < sweepOf angle then Scalar.tau - Real.arccos (Real.cos angle) else Real.arccos (Real.cos angle)) =
      sweepOf angle := by
  have pi := Real.pi_pos
  change (if Real.pi < sweepOf angle then _ else _) = _
  unfold sweepOf
  rw [tauExact] at high ⊢
  by_cases none : angle = 0
  · rw [if_pos none, if_pos (by linarith), none, Real.cos_zero, Real.arccos_one, sub_zero]
  rw [if_neg none]
  rcases le_or_gt angle Real.pi with minor | major
  · rw [if_neg minor.not_gt, Real.arccos_cos low minor]
  · have back : Real.arccos (Real.cos angle) = 2 * Real.pi - angle := by
      rw [← Real.cos_two_pi_sub]
      exact Real.arccos_cos (by linarith) (by linarith)
    rw [if_pos major, back, sub_sub_cancel]

namespace Frame
variable {f : Frame ℝ}

theorem unprojectSub (p o : Vec2 ℝ) : f.unproject p - f.unproject o = f.u.scale (p - o).x + f.v.scale (p - o).y := by
  change f.origin + f.u.scale p.x + f.v.scale p.y - (f.origin + f.u.scale o.x + f.v.scale o.y) =
    f.u.scale (p.x - o.x) + f.v.scale (p.y - o.y)
  rcases f.origin with ⟨x, y, z⟩
  rcases f.u with ⟨ux, uy, uz⟩
  rcases f.v with ⟨vx, vy, vz⟩
  simp only [Vec3.scale, Vec3.mkAdd, Vec3.mkSub, Vec3.mk.injEq]
  refine ⟨?_, ?_, ?_⟩ <;> ring

section Unit
variable (unit : f.orientation.length = 1) (p q o : Vec2 ℝ)
include unit

theorem axesProducts : f.u.dot f.u = 1 ∧ f.v.dot f.v = 1 ∧ f.u.dot f.v = 0 ∧ f.v.dot f.u = 0 := by
  obtain ⟨⟨uu, vv, _⟩, ⟨uv, _, _⟩, _⟩ := Quat.turnedRightHanded Quat.axesRightHanded (Quat.unitIff.mp unit)
  exact ⟨uu, vv, uv, Vec3.dotComm.trans uv⟩

theorem projectAbout : (Frame.mk (f.unproject o) f.orientation).project (f.unproject p) = p - o := by
  obtain ⟨uu, vv, uv, vu⟩ := axesProducts unit
  change (⟨(f.unproject p - f.unproject o).dot f.u, (f.unproject p - f.unproject o).dot f.v⟩ : Vec2 ℝ) = _
  rw [unprojectSub, Vec3.addDot, Vec3.addDot, Vec3.scaleDot, Vec3.scaleDot, Vec3.scaleDot, Vec3.scaleDot, uu, vv, uv, vu,
    one_mul, one_mul, zero_mul, zero_mul, add_zero, zero_add]

theorem unprojectDot :
    (f.unproject p - f.unproject o).dot (f.unproject q - f.unproject o) = (p - o).dot (q - o) := by
  obtain ⟨uu, vv, uv, vu⟩ := axesProducts unit
  rw [unprojectSub, unprojectSub, Vec3.addDot, Vec3.scaleDot, Vec3.scaleDot, Vec3.dotComm (a := f.u),
    Vec3.dotComm (a := f.v), Vec3.addDot, Vec3.addDot, Vec3.scaleDot, Vec3.scaleDot, Vec3.scaleDot, Vec3.scaleDot, uu, vv,
    uv, vu, Vec2.dot]
  ring

theorem turnCosine {angle : ℝ} (turns : (p - o).TurnsBy (q - o) angle) (apart : p ≠ o) :
    (f.unproject p - f.unproject o).cosine (f.unproject q - f.unproject o) = Real.cos angle := by
  change Vec3.dot _ _ / (Real.sqrt (Vec3.dot _ _) * Real.sqrt (Vec3.dot _ _)) = _
  rw [unprojectDot unit, unprojectDot unit, unprojectDot unit]
  exact turns.cosine (Vec2.apartPositive apart)

end Unit
end Frame

namespace Sketch
variable {s : Sketch ℝ} {w arc id : EntityId} {plane : PlaneExpr ℝ} {p o a b : Vec2 ℝ}

def DrawnAt (s : Sketch ℝ) (w id : EntityId) (p : Vec2 ℝ) : Prop :=
  ∃ e spot, s.entities.get? id = some e ∧ e.kind = .pointIn2d spot ∧ e.workplane = some w ∧
    p = ⟨s.valueOf spot.x, s.valueOf spot.y⟩

def ArcDrawn (s : Sketch ℝ) (w arc : EntityId) (o a b : Vec2 ℝ) : Prop :=
  ∃ e center start finish normal n, s.entities.get? arc = some e ∧ e.kind = .arc center start finish normal ∧
    s.entities.get? normal = some n ∧ n.kind = .normalIn2d ∧ n.workplane = some w ∧
    s.DrawnAt w center o ∧ s.DrawnAt w start a ∧ s.DrawnAt w finish b

theorem arcOfRequest {q : Request} (arc : q.kind = .arc) (lies : q.workplane = some w)
    (present : ∀ e ∈ q.entities, s.entities.get? e.id = some e) :
    s.ArcDrawn w q.entity ⟨s.valueOf (q.param 0), s.valueOf (q.param 1)⟩ ⟨s.valueOf (q.param 2), s.valueOf (q.param 3)⟩
      ⟨s.valueOf (q.param 4), s.valueOf (q.param 5)⟩ := by
  have normal : q.part q.normal .normalIn2d ∈ q.entities (α := ℝ) := by
    simp [Request.entities, arc, Request.normalPart, lies]
  have whole : q.part q.entity (.arc (q.point 0) (q.point 1) (q.point 2) q.normal) ∈ q.entities (α := ℝ) := by
    simp [Request.entities, arc]
  have drawn (n : Nat) (few : n < 3) :
      s.DrawnAt w (q.point n) ⟨s.valueOf (q.param (n * 2)), s.valueOf (q.param (n * 2 + 1))⟩ := by
    have counted : n < q.kind.pointCount := by rwa [arc]
    exact ⟨_, _, present _ (planarPoint q lies counted), rfl, lies, rfl⟩
  exact ⟨_, _, _, _, _, _, present _ whole, rfl, present _ normal, rfl, lies, drawn 0 (by decide), drawn 1 (by decide),
    drawn 2 (by decide)⟩

theorem DrawnAt.placed (drawn : s.DrawnAt w id p) (placed : s.planeExpr w = .ok plane) :
    ∃ x, s.pointExpr id = .ok x ∧ x.eval s.valueOf = (plane.frame s.valueOf).unproject p := by
  obtain ⟨e, spot, found, kind, lies, rfl⟩ := drawn
  refine ⟨_, drawnOk found kind lies placed, ?_⟩
  rw [PlaneExpr.evalDrawn]
  rfl

theorem normalOk {n : Entity ℝ} (found : s.entities.get? id = some n) (kind : n.kind = .normalIn2d)
    (lies : n.workplane = some w) (placed : s.planeExpr w = .ok plane) : s.normalExpr id = .ok plane.orientation := by
  refine bindOk.mpr ⟨n, entityFound.mpr found, ?_⟩
  rw [kind, lies]
  exact bindOk.mpr ⟨w, rfl, bindOk.mpr ⟨plane, placed, rfl⟩⟩

section Measures
variable {e : Entity ℝ} {center start finish normal : EntityId} {x y z : Vec3 (Expr ℝ)}
  (found : s.entities.get? arc = some e) (kind : e.kind = .arc center start finish normal)
  (middle : s.pointExpr center = .ok x) (begins : s.pointExpr start = .ok y)
include found kind middle begins

theorem radiusOk : s.radius arc = .ok (y.eval s.valueOf - x.eval s.valueOf).length := by
  have radial : s.radiusExpr arc = .ok (y - x).magnitude := by
    refine bindOk.mpr ⟨e, entityFound.mpr found, ?_⟩
    rw [kind]
    exact bindOk.mpr ⟨y, begins, bindOk.mpr ⟨x, middle, rfl⟩⟩
  refine bindOk.mpr ⟨_, radial, congrArg Except.ok ?_⟩
  rw [Vec3.evalMagnitude, Vec3.evalSub]

variable (ends : s.pointExpr finish = .ok z)
include ends

theorem arcAnglesOk {q : Quat (Expr ℝ)} {a b : Vec2 ℝ} (level : s.normalExpr normal = .ok q)
    (first : (Frame.mk (x.eval s.valueOf) (q.eval s.valueOf).normalize).project (y.eval s.valueOf) = a)
    (second : (Frame.mk (x.eval s.valueOf) (q.eval s.valueOf).normalize).project (z.eval s.valueOf) = b) :
    let turn := Scalar.remEuclid (Scalar.atan2 b.y b.x - Scalar.atan2 a.y a.x) Scalar.tau
    s.arcAngles arc = .ok ⟨Scalar.atan2 a.y a.x, Scalar.atan2 b.y b.x, if turn < 1e-6 then turn + Scalar.tau else turn⟩ := by
  subst first second
  have position {id : EntityId} {p : Vec3 (Expr ℝ)} (placed : s.pointExpr id = .ok p) :
      s.position id = .ok (p.eval s.valueOf) := bindOk.mpr ⟨p, placed, rfl⟩
  refine bindOk.mpr ⟨e, entityFound.mpr found, ?_⟩
  rw [kind]
  exact bindOk.mpr ⟨_, position middle, bindOk.mpr ⟨_, bindOk.mpr ⟨q, level, rfl⟩,
    bindOk.mpr ⟨_, position begins, bindOk.mpr ⟨_, position ends, rfl⟩⟩⟩⟩

end Measures

theorem arcLengthOk {c : Setting ℝ} {e : Entity ℝ} {center start finish normal : EntityId} {x y z : Vec3 (Expr ℝ)}
    {angles : ArcAngles ℝ} (found : c.sketch.entities.get? arc = some e) (kind : e.kind = .arc center start finish normal)
    (middle : c.sketch.pointExpr center = .ok x) (begins : c.sketch.pointExpr start = .ok y)
    (ends : c.sketch.pointExpr finish = .ok z) (turn : c.sketch.arcAngles arc = .ok angles) :
    ∃ length, c.arcLength arc = .ok length ∧ ∀ v, length.eval v = (y.eval v - x.eval v).length *
      let theta := Real.arccos ((y.eval v - x.eval v).cosine (z.eval v - x.eval v))
      if Scalar.pi < angles.sweep then Scalar.tau - theta else theta := by
  let theta := ((y - x).dot (z - x) / ((y - x).magnitude * (z - x).magnitude)).acos
  refine ⟨(y - x).magnitude * if Scalar.pi < angles.sweep then .const Scalar.tau - theta else theta, ?_, fun v => ?_⟩
  · refine bindOk.mpr ⟨e, Setting.liftedOk (entityFound.mpr found), ?_⟩
    rw [kind]
    exact bindOk.mpr ⟨x, Setting.liftedOk middle, bindOk.mpr ⟨y, Setting.liftedOk begins,
      bindOk.mpr ⟨z, Setting.liftedOk ends, bindOk.mpr ⟨angles, Setting.liftedOk turn, rfl⟩⟩⟩⟩
  · have cosine : theta.eval v = Real.arccos ((y.eval v - x.eval v).cosine (z.eval v - x.eval v)) := by
      rw [Expr.evalAcos, ← Vec3.evalSub, ← Vec3.evalSub]
      exact congrArg Real.arccos Vec3.evalCosine
    rw [Expr.evalMul, Vec3.evalMagnitude, Vec3.evalSub]
    dsimp only
    split
    · rw [Expr.evalSub, Expr.evalConst, cosine]
    · rw [cosine]

/- The length of an arc that is drawn in a workplane of unit orientation is its radius times its sweep. Its ends are off the
center, and the turn from the first to the second is none or not too small. The sweep is that turn, and a full turn where
both ends lie in one direction. -/
theorem lengthIsRadiusTimesSweep (c : Setting ℝ) (drawn : c.sketch.ArcDrawn w arc o a b)
    (placed : c.sketch.planeExpr w = .ok plane) (unit : (plane.orientation.eval c.sketch.valueOf).length = 1)
    (first : a ≠ o) (second : b ≠ o)
    (clear : ∀ angle, (a - o).TurnsBy (b - o) angle → angle = 0 ∨ 1e-6 ≤ angle) :
    ∃ length radius angles angle, c.arcLength arc = .ok length ∧ c.sketch.radius arc = .ok radius ∧
      c.sketch.arcAngles arc = .ok angles ∧ length.eval c.sketch.valueOf = radius * angles.sweep ∧
      (a - o).TurnsBy (b - o) angle ∧ angles.sweep = sweepOf angle := by
  obtain ⟨e, center, start, finish, normal, n, found, kind, foundN, kindN, lies, middle, begins, ends⟩ := drawn
  obtain ⟨x, placeO, worthO⟩ := middle.placed placed
  obtain ⟨y, placeA, worthA⟩ := begins.placed placed
  obtain ⟨z, placeB, worthB⟩ := ends.placed placed
  have turns := Vec2.turnsByRemainder (Vec2.apartPositive first) (Vec2.apartPositive second)
  have radius := radiusOk found kind placeO placeA
  have project {p : Vec2 ℝ} {place : Vec3 (Expr ℝ)}
      (worth : place.eval c.sketch.valueOf = (plane.frame c.sketch.valueOf).unproject p) :
      (Frame.mk (x.eval c.sketch.valueOf) (plane.orientation.eval c.sketch.valueOf).normalize).project
        (place.eval c.sketch.valueOf) = p - o := by
    rw [Quat.unitNormalized unit, worthO, worth]
    exact Frame.projectAbout (f := plane.frame c.sketch.valueOf) unit p o
  have angles := arcAnglesOk found kind placeO placeA placeB (normalOk foundN kindN lies placed) (project worthA)
    (project worthB)
  dsimp only at angles
  rw [sweepOfEnds (clear _ turns)] at angles
  obtain ⟨length, written, worth⟩ := arcLengthOk found kind placeO placeA placeB angles
  refine ⟨length, _, _, _, written, radius, angles, ?_, turns, rfl⟩
  rw [worth, worthO, worthA, worthB, Frame.turnCosine (f := plane.frame c.sketch.valueOf) unit _ _ _ turns first]
  exact congrArg _ (sweepOfCosine turns.nonneg turns.less)

/-! An arc of three quarters of a turn. -/

def crescent : Request := { id := ⟨4⟩, group := ⟨1⟩, kind := .arc, workplane := some (.request ⟨3⟩ 0) }

noncomputable def moonParts : List (Entity ℝ) := [numbered 1 (.pointCopy ⟨0, 0, 0⟩ .identity),
  numbered 2 (.normalCopy .identity .identity), numbered 3 (.workplane (.request ⟨1⟩ 0) (.request ⟨2⟩ 0))] ++ crescent.entities

noncomputable def moonParams : List (Param ℝ) := [⟨crescent.param 0, ⟨1⟩, 0⟩, ⟨crescent.param 1, ⟨1⟩, 0⟩,
  ⟨crescent.param 2, ⟨1⟩, 1⟩, ⟨crescent.param 3, ⟨1⟩, 0⟩, ⟨crescent.param 4, ⟨1⟩, 0⟩, ⟨crescent.param 5, ⟨1⟩, -1⟩]

noncomputable def moon : Sketch ℝ where
  entities := moonParts.foldl Registry.add {}
  params := moonParams.foldl Registry.add {}

theorem moonThere {e : Entity ℝ} (member : e ∈ moonParts) : moon.entities.get? e.id = some e :=
  (Registry.getFilled (by decide)).mpr ⟨member, rfl⟩

theorem moonValue {x : Param ℝ} (member : x ∈ moonParams) : moon.valueOf x.id = x.value := by
  have found : moon.params.get? x.id = some x := (Registry.getFilled (by decide)).mpr ⟨member, rfl⟩
  rw [valueOf, found]
  rfl

theorem moonPlaced : moon.planeExpr (.request ⟨3⟩ 0) = .ok floorPlane := by
  have part (n : Nat) (kind : EntityKind ℝ) (member : numbered n kind ∈ moonParts) :
      moon.entities.get? (.request ⟨n⟩ 0) = some (numbered n kind) := moonThere member
  exact planeOfCopies (part 3 _ (by simp [moonParts])) rfl (part 1 _ (by simp [moonParts])) rfl
    (part 2 _ (by simp [moonParts])) rfl

theorem moonDrawn : moon.ArcDrawn (.request ⟨3⟩ 0) crescent.entity ⟨0, 0⟩ ⟨1, 0⟩ ⟨0, -1⟩ := by
  have drawn := arcOfRequest (s := moon) (q := crescent) rfl rfl fun e member => moonThere (List.mem_append_right _ member)
  have value {n : Nat} {x : ℝ} (member : (⟨crescent.param n, ⟨1⟩, x⟩ : Param ℝ) ∈ moonParams) :
      moon.valueOf (crescent.param n) = x := moonValue member
  have all : moon.valueOf (crescent.param 0) = 0 ∧ moon.valueOf (crescent.param 1) = 0 ∧
      moon.valueOf (crescent.param 2) = 1 ∧ moon.valueOf (crescent.param 3) = 0 ∧
      moon.valueOf (crescent.param 4) = 0 ∧ moon.valueOf (crescent.param 5) = -1 := by
    refine ⟨value ?_, value ?_, value ?_, value ?_, value ?_, value ?_⟩ <;> simp [moonParams]
  obtain ⟨p0, p1, p2, p3, p4, p5⟩ := all
  rwa [p0, p1, p2, p3, p4, p5] at drawn

theorem turnsDown {angle : ℝ} (turns : ((⟨1, 0⟩ : Vec2 ℝ) - ⟨0, 0⟩).TurnsBy (⟨0, -1⟩ - ⟨0, 0⟩) angle) : Real.pi < angle := by
  obtain ⟨k, positive, along⟩ := turns.turned
  have y : (-1 - 0 : ℝ) = ((1 - 0) * Real.sin angle + (0 - 0) * Real.cos angle) * k := congrArg Vec2.y along
  have down : Real.sin angle < 0 := by nlinarith
  by_contra half
  exact down.not_ge (Real.sin_nonneg_of_nonneg_of_le_pi turns.nonneg (not_lt.mp half))

theorem longWayMeasured : ∃ length radius angles,
    ({ sketch := moon, constraint := ⟨1⟩, name := "arc", basis := none } : Setting ℝ).arcLength crescent.entity = .ok length ∧
    moon.radius crescent.entity = .ok radius ∧ moon.arcAngles crescent.entity = .ok angles ∧
    length.eval moon.valueOf = radius * angles.sweep ∧ Real.pi < angles.sweep := by
  have unit : (floorPlane.orientation.eval moon.valueOf).length = 1 := Quat.identityUnit
  have around : (1e-6 : ℝ) ≤ Real.pi := by linarith [Real.two_le_pi]
  obtain ⟨length, radius, angles, angle, written, round, swept, same, turns, sweep⟩ := lengthIsRadiusTimesSweep
    { sketch := moon, constraint := ⟨1⟩, name := "arc", basis := none } moonDrawn moonPlaced unit
    (fun same => one_ne_zero (congrArg Vec2.x same)) (fun same => neg_ne_zero.mpr one_ne_zero (congrArg Vec2.y same))
    fun angle turns => .inr (around.trans (turnsDown turns).le)
  have wide := turnsDown turns
  refine ⟨length, radius, angles, written, round, swept, same, ?_⟩
  rw [sweep, sweepOf, if_neg (Real.pi_pos.trans wide).ne']
  exact wide

end Sketch
end Drafting
