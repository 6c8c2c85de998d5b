import Drafting.Sketch.Basic
/-! Positions and orientations of entities, as expressions over parameters and as numbers. A point or
a normal in a workplane is placed by that workplane, whose own parts may lie in a further one; the
number of entities bounds how deep this goes. -/
namespace Drafting

structure PlaneExpr (α : Type) where
  origin : Vec3 (Expr α)
  orientation : Quat (Expr α)

structure ArcAngles (α : Type) where
  start : α
  finish : α
  /-- Counter-clockwise from start to finish, above zero and at most a full turn. -/
  sweep : α

namespace Sketch
variable [Scalar α]

def pointFrom (s : Sketch α) (plane : EntityId → Except SketchError (PlaneExpr α)) (id : EntityId) :
    Except SketchError (Vec3 (Expr α)) := do
  let e ← s.entity id
  match e.kind with
  | .pointIn3d p => return .ofParams p
  | .pointIn2d p =>
    let plane ← plane (← found (.missingWorkplane id) e.workplane)
    return plane.origin + plane.orientation.imageU.scale (.param p.x) +
      plane.orientation.imageV.scale (.param p.y)
  | .pointCopy base transform => return transform.point base
  | _ => throw (.wrongKind id .point)

def normalFrom (s : Sketch α) (plane : EntityId → Except SketchError (PlaneExpr α)) (id : EntityId) :
    Except SketchError (Quat (Expr α)) := do
  let e ← s.entity id
  match e.kind with
  | .normalIn3d q => return .ofParams q
  | .normalIn2d => return (← plane (← found (.missingWorkplane id) e.workplane)).orientation
  | .normalCopy base transform => return transform.normal base
  | _ => throw (.wrongKind id .normal)

/-- A workplane that is reached through fewer than a number of others. -/
def planeWithin (s : Sketch α) : Nat → EntityId → Except SketchError (PlaneExpr α)
  | 0, id => throw (.missingWorkplane id)
  | depth + 1, id => do
    match (← s.entity id).kind with
    | .workplane origin normal =>
      return ⟨← s.pointFrom (s.planeWithin depth) origin, ← s.normalFrom (s.planeWithin depth) normal⟩
    | _ => throw (.wrongKind id .workplane)

def planeExpr (s : Sketch α) (id : EntityId) : Except SketchError (PlaneExpr α) :=
  s.planeWithin (s.entities.size + 1) id

def pointExpr (s : Sketch α) (id : EntityId) : Except SketchError (Vec3 (Expr α)) :=
  s.pointFrom s.planeExpr id

def normalExpr (s : Sketch α) (id : EntityId) : Except SketchError (Quat (Expr α)) :=
  s.normalFrom s.planeExpr id

def distanceExpr (s : Sketch α) (id : EntityId) : Except SketchError (Expr α) := do
  match (← s.entity id).kind with
  | .distance p => return .param p
  | .distanceCopy x => return .const x
  | _ => throw (.wrongKind id .distance)

def planeNormalExpr (s : Sketch α) (id : EntityId) : Except SketchError (Vec3 (Expr α)) := do
  match (← s.entity id).kind with
  | .workplane _ normal | .face _ (.normal normal) => return (← s.normalExpr normal).imageN
  | .face _ (.sweep source target direction) =>
    let along := (← s.pointExpr target) - (← s.pointExpr source)
    return (along.cross (.ofParams direction)).withMagnitude (.const 1.0)
  | _ => throw (.wrongKind id .plane)

def planePointExpr (s : Sketch α) (id : EntityId) : Except SketchError (Vec3 (Expr α)) := do
  match (← s.entity id).kind with
  | .workplane origin _ => s.pointExpr origin
  | .face point _ => s.pointExpr point
  | _ => throw (.wrongKind id .plane)

def radiusExpr (s : Sketch α) (id : EntityId) : Except SketchError (Expr α) := do
  match (← s.entity id).kind with
  | .circle _ _ radius => s.distanceExpr radius
  | .arc center start .. => return ((← s.pointExpr start) - (← s.pointExpr center)).magnitude
  | _ => throw (.wrongKind id .round)

def centerOf (s : Sketch α) (id : EntityId) : Except SketchError EntityId := do
  match (← s.entity id).kind with
  | .circle center .. | .arc center .. => return center
  | _ => throw (.wrongKind id .round)

def normalOf (s : Sketch α) (id : EntityId) : Except SketchError EntityId := do
  match (← s.entity id).kind with
  | .circle _ normal _ | .arc _ _ _ normal => return normal
  | _ => throw (.wrongKind id .round)

def position (s : Sketch α) (id : EntityId) : Except SketchError (Vec3 α) :=
  return (← s.pointExpr id).eval s.valueOf

def orientation (s : Sketch α) (id : EntityId) : Except SketchError (Quat α) :=
  return ((← s.normalExpr id).eval s.valueOf).normalize

def distance (s : Sketch α) (id : EntityId) : Except SketchError α :=
  return (← s.distanceExpr id).eval s.valueOf

def radius (s : Sketch α) (id : EntityId) : Except SketchError α :=
  return (← s.radiusExpr id).eval s.valueOf

def frame (s : Sketch α) (id : EntityId) : Except SketchError (Frame α) := do
  let plane ← s.planeExpr id
  return ⟨plane.origin.eval s.valueOf, (plane.orientation.eval s.valueOf).normalize⟩

/-- Angles of an arc in the frame of its center and normal; ends at one place make a full turn. -/
def arcAngles (s : Sketch α) (id : EntityId) : Except SketchError (ArcAngles α) := do
  match (← s.entity id).kind with
  | .arc center start finish normal =>
    let frame : Frame α := ⟨← s.position center, ← s.orientation normal⟩
    let a := frame.project (← s.position start)
    let b := frame.project (← s.position finish)
    let theta0 := Scalar.atan2 a.y a.x
    let theta1 := Scalar.atan2 b.y b.x
    let turn := Scalar.remEuclid (theta1 - theta0) Scalar.tau
    return ⟨theta0, theta1, if turn < 1e-6 then turn + Scalar.tau else turn⟩
  | _ => throw (.wrongKind id .arc)

/-- A normal has unit length, and both ends of an arc are equally far from its center. -/
def entityResidual? (s : Sketch α) (e : Entity α) : Except SketchError (Option (Expr α)) := do
  match e.kind with
  | .normalIn3d q => return some ((Quat.ofParams q).magnitudeSquared - .const 1.0)
  | .arc center start finish _ =>
    let c ← s.pointExpr center
    let a := ((← s.pointExpr start) - c).magnitude
    let b := ((← s.pointExpr finish) - c).magnitude
    return some (a - b)
  | _ => return none

def entityEquations (s : Sketch α) (group : GroupId) : Except SketchError (List (Equation α)) := do
  let drawn := s.entities.toList.filter fun e => e.group == group && e.id.isFromRequest
  let equations ← drawn.mapM fun e => do
    return (← s.entityResidual? e).map fun r => (⟨.entity e.id 0, r⟩ : Equation α)
  return equations.filterMap id

end Sketch
end Drafting
