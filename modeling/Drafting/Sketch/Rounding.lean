import Drafting.Curve.TangentArc
import Drafting.Sketch.Curves
import Drafting.Sketch.Edit
/-! Rounding a corner: an arc tangent to both curves that meet at a point. The curves are trimmed, or
kept for construction beside trimmed copies. -/
namespace Drafting

inductive RoundingMode where
  | modify
  | duplicate
  deriving DecidableEq, Repr

structure RoundingOptions (α : Type) where
  mode : RoundingMode := .modify
  radius : RadiusPolicy α
  config : RoundingConfig α

structure Corner where
  request : RequestId
  entity : EntityId
  atFinish : Bool

def ArcEnd.other : ArcEnd → ArcEnd
  | start => finish
  | finish => start

def ArcEnd.ordered (tip : ArcEnd) (p q : β) : β × β :=
  match tip with
  | start => (p, q)
  | finish => (q, p)

def TangentArc.layOut [Scalar α] (fit : TangentArc α) (normal p : Vec3 α) : Vec3 α × ArcEnd :=
  let toCenter := ((fit.apex - p).cross normal).resized fit.radius
  if fit.turn < 0.0 then (p - toCenter, .start) else (p + toCenter, .finish)

namespace Sketch
variable [Scalar α]

def corner? (s : Sketch α) (place : Vec3 α) (r : Request) : Except SketchError (Option Corner) := do
  match (← s.entity r.entity).kind.ends? with
  | none => return none
  | some (start, finish) =>
    let atStart := decide ((← s.position start).distance place < Bezier.lengthEpsilon)
    let atFinish := decide ((← s.position finish).distance place < Bezier.lengthEpsilon)
    return if atStart || atFinish then some ⟨r.id, r.entity, atFinish⟩ else none

def corners (s : Sketch α) (group : GroupId) (workplane : EntityId) (place : Vec3 α) :
    Except SketchError (List Corner) := do
  let candidates := s.requests.toList.filter fun r => r.group == group && r.workplane == some workplane &&
    !r.construction && (r.kind == .line || r.kind == .arc)
  return (← candidates.mapM (s.corner? place)).filterMap id

def addTrimmed (group : GroupId) (workplane : Option EntityId) (source : EntityId) (curve : Parametric α)
    (t : α) : Edit α CurveError EntityId := do
  if workplane.isNone then
    throw (.notInWorkplane source)
  let near := curve.pointAt t
  let far := curve.pointAt 1.0
  match curve with
  | .line .. =>
    let r ← Edit.lower (addShape group .line workplane [near, far])
    [0, 1].forM fun n => do
      let _ ← Edit.lower (joinIfCoincident (r.point n))
    let _ ← Edit.lower (addConstraint group workplane (.pointOnLine (r.point 0) source))
    return r.entity
  | .arc center _ _ dtheta _ _ =>
    let places := if 0.0 < dtheta then [center, near, far] else [center, far, near]
    let r ← Edit.lower (addShape group .arc workplane places)
    [0, 1, 2].forM fun n => do
      let _ ← Edit.lower (joinIfCoincident (r.point n))
    return r.entity

def trim (mode : RoundingMode) (corner : Corner) (curve : Parametric α) (t : α) (arc : EntityId)
    (tip : ArcEnd) : Edit α CurveError Unit := do
  let e ← Edit.read (·.entity corner.entity)
  let (start, finish) ← Edit.found (.notSplittable corner.entity) e.kind.ends?
  let target ← match mode with
    | .modify => do
      let moved := if corner.atFinish then finish else start
      Edit.lower (forcePoint moved (curve.pointAt t))
      let _ ← Edit.lower (joinIfCoincident moved)
      pure corner.entity
    | .duplicate => addTrimmed e.group e.workplane corner.entity curve t
  let tangency : ConstraintKind α := match curve with
    | .line .. => .arcLineTangent arc target tip
    | .arc _ _ _ dtheta _ _ =>
      .curveCurveTangent arc target ⟨tip, if dtheta < 0.0 then .finish else .start⟩
  let _ ← Edit.lower (addConstraint e.group e.workplane tangency)

def holdsAt (s : Sketch α) (group : GroupId) (workplane : EntityId) (place : Vec3 α)
    (c : Constraint α) : Bool :=
  c.group == group && c.workplane == some workplane && match c.kind with
    | .pointsCoincident a _ => match s.position a with
      | .ok p => decide (p.distance place < Bezier.lengthEpsilon)
      | .error _ => false
    | _ => false

/-- Rounds the corner of two lines or arcs at a point; gives the arc. Nothing changes on failure. -/
def roundCorner (point : EntityId) (options : RoundingOptions α) : Edit α CurveError EntityId := do
  let e ← Edit.read (·.entity point)
  let workplane ← Edit.found (.notInWorkplane point) e.workplane
  let place ← Edit.read (·.position point)
  match ← Edit.read (·.corners e.group workplane place) with
  | [first, second] =>
    let normal := (← Edit.read (·.frame workplane)).normal
    let a ← Edit.read (·.parametric first.entity first.atFinish)
    let b ← Edit.read (·.parametric second.entity second.atFinish)
    let fit ← Edit.found .noFit (TangentArc.fit? options.config options.radius a b normal)
    let p := a.pointAt fit.first
    let q := b.pointAt fit.second
    let (center, tip) := fit.layOut normal p
    Edit.orUndo do
      match options.mode with
      | .modify =>
        let s ← get
        let doomed := s.constraints.toList.filter (s.holdsAt e.group workplane place)
        doomed.forM fun c => Edit.lower (deleteConstraint c.id)
      | .duplicate =>
        Edit.lower (setConstruction first.request true)
        Edit.lower (setConstruction second.request true)
      let (start, finish) := tip.ordered p q
      let r ← Edit.lower (addShape e.group .arc (some workplane) [center, start, finish])
      trim options.mode first a fit.first r.entity tip
      trim options.mode second b fit.second r.entity tip.other
      return r.entity
  | found => throw (.noCorner point found.length)

end Sketch
end Drafting
