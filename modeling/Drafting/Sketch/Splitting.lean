import Drafting.Curve.Intersection
import Drafting.Sketch.Curves
import Drafting.Sketch.Edit
/-! Splitting curves: two of them where they cross, or one at a point that lies on it. The pieces take
over the constraints on the ends, and stay joined where they were cut. -/
namespace Drafting

inductive SplitSelection where
  | atPoint (entity point : EntityId)
  | pair (a b : EntityId)
  deriving DecidableEq, Repr

def Vec3.isOnSegment [Scalar α] (p p0 p1 : Vec3 α) : Bool :=
  let d := p1 - p0
  let length := d.length
  let t := (p - p0).dot d / (length * length)
  let off := (p0 + d.scale t).distance p
  !decide (length < Bezier.lengthEpsilon) && decide (off < Bezier.lengthEpsilon) &&
    decide (-Bezier.lengthEpsilon < t * length) && decide (-Bezier.lengthEpsilon < (1.0 - t) * length)

def Vec3.nearest? [Scalar α] (hint : Vec3 α) : List (Vec3 α) → Option (Vec3 α)
  | [] => none
  | p :: rest => some (rest.foldl (fun best q =>
      if Scalar.totalLt (q.distance hint) (best.distance hint) then q else best) p)

namespace Sketch
variable [Scalar α]

def onCurveTolerance : α := 1e-4

def join (a b : EntityId) : Edit α CurveError Unit := do
  let e ← Edit.read (·.entity a)
  let _ ← Edit.lower (addConstraint e.group e.workplane (.pointsCoincident a b))

def onCurve? (c : Constraint α) : Option (EntityId × EntityId) :=
  match c.kind with
  | .pointOnLine p line => some (p, line)
  | .pointOnCircle p circle => some (p, circle)
  | _ => none

/-- The first of some constraints that keeps a point on a curve, within its ends if it has any given. -/
def holdOn (s : Sketch α) (entity point : EntityId) (segment : Option (Vec3 α × Vec3 α)) :
    List (Constraint α) → Except CurveError (Vec3 α × ConstraintId)
  | [] => throw (.pointNotOnEntity point entity)
  | c :: rest =>
    match onCurve? c with
    | none => s.holdOn entity point segment rest
    | some (p, curve) =>
      if p.request? != point.request? || curve.request? != entity.request? then
        s.holdOn entity point segment rest
      else match s.position p with
        | .error e => throw (.sketch e)
        | .ok place =>
          if segment.all fun (p0, p1) => place.isOnSegment p0 p1 then return (place, c.id)
          else s.holdOn entity point segment rest

def placeOn (entity point : EntityId) : Edit α CurveError (Vec3 α × ConstraintId) := do
  let segment ← match (← Edit.read (·.entity entity)).kind with
    | .line a b => do pure (some (← Edit.read (·.position a), ← Edit.read (·.position b)))
    | _ => pure none
  Edit.read fun s => s.holdOn entity point segment s.constraints.toList

def crossing (a b : EntityId) (hint : Vec3 α) : Edit α CurveError (Vec3 α) := do
  let first ← Edit.read (·.pieces a)
  let second ← Edit.read (·.pieces b)
  Edit.found .noIntersection (Vec3.nearest? hint (Bezier.intersections first second))

def redirect (old new : EntityId) : Edit α CurveError Unit := modify fun s => (s.replacePoint old new).2

def cutLine (group : GroupId) (workplane : Option EntityId) (start finish : EntityId) (place : Vec3 α) :
    Edit α CurveError EntityId := do
  let p0 ← Edit.read (·.position start)
  let p1 ← Edit.read (·.position finish)
  let first ← Edit.lower (addShape group .line workplane [p0, place])
  let second ← Edit.lower (addShape group .line workplane [place, p1])
  redirect start (first.point 0)
  redirect finish (second.point 1)
  join (first.point 1) (second.point 0)
  return first.point 1

def cutCircle (group : GroupId) (workplane : Option EntityId) (center : EntityId) (place : Vec3 α) :
    Edit α CurveError EntityId := do
  let c ← Edit.read (·.position center)
  let arc ← Edit.lower (addShape group .arc workplane [c, place, place])
  redirect center (arc.point 0)
  join (arc.point 1) (arc.point 2)
  return arc.point 1

def cutArc (group : GroupId) (workplane : Option EntityId) (center start finish : EntityId)
    (place : Vec3 α) : Edit α CurveError EntityId := do
  let c ← Edit.read (·.position center)
  let p0 ← Edit.read (·.position start)
  let p1 ← Edit.read (·.position finish)
  let first ← Edit.lower (addShape group .arc workplane [c, p0, place])
  let second ← Edit.lower (addShape group .arc workplane [c, place, p1])
  redirect center (first.point 0)
  redirect start (first.point 1)
  redirect finish (second.point 2)
  join (first.point 0) (second.point 0)
  join (first.point 2) (second.point 1)
  return first.point 2

def cubicParts (curve : Bezier α) (place : Vec3 α) : Except CurveError (Bezier α × Bezier α) :=
  let t := curve.closest place
  if onCurveTolerance < (curve.pointAt t).distance place || t ≤ 0.0 || (1.0 : α) ≤ t then
    throw .noIntersection
  else return curve.splitAt t

def cutCubic (group : GroupId) (workplane : Option EntityId) (id start finish : EntityId)
    (place : Vec3 α) : Edit α CurveError EntityId := do
  match ← Edit.read (·.pieces id) with
  | [curve] =>
    let (left, right) ← Edit.read fun _ => cubicParts curve place
    let first ← Edit.lower (addShape group .cubic workplane (left.controls.map Control.point))
    let second ← Edit.lower (addShape group .cubic workplane (right.controls.map Control.point))
    redirect start (first.point 0)
    redirect finish (second.point 3)
    join (first.point 3) (second.point 0)
    return first.point 3
  | _ => throw (.notSplittable id)

/-- Cuts a drawn curve at a place; gives the point there. A curve for construction is kept. -/
def splitEntity (id : EntityId) (place : Vec3 α) : Edit α CurveError EntityId := do
  let e ← Edit.read (·.entity id)
  let request ← Edit.found (.notSplittable id) id.request?
  let construction := (← Edit.read (·.request request)).construction
  if e.workplane.isNone then
    throw (.notInWorkplane id)
  let cut ← match e.kind with
    | .line a b => cutLine e.group e.workplane a b place
    | .circle center .. => cutCircle e.group e.workplane center place
    | .arc center start finish _ => cutArc e.group e.workplane center start finish place
    | .cubic p0 _ _ p3 => cutCubic e.group e.workplane id p0 p3 place
    | _ => throw (.notSplittable id)
  if !construction then
    Edit.lower (deleteRequest request)
  return cut

def requireWorkplane (id : EntityId) : Edit α CurveError Unit := do
  if (← Edit.read (·.entity id)).workplane.isNone then
    throw (.notInWorkplane id)

/-- Splits one curve at a point that is kept on it: the cut takes over from a datum point, and is joined
to any other. -/
def splitAtPoint (entity point : EntityId) : Edit α CurveError (List EntityId) := do
  let (place, held) ← placeOn entity point
  Edit.orUndo do
    Edit.lower (deleteConstraint held)
    let cut ← splitEntity entity place
    match point.request? with
    | some r =>
      if (← Edit.read (·.request r)).kind = .datumPoint then Edit.lower (deleteRequest r)
      else join cut point
    | none => join cut point
    return [cut]

def splitPair (a b : EntityId) (hint : Vec3 α) : Edit α CurveError (List EntityId) := do
  let place ← crossing a b hint
  Edit.orUndo do
    let first ← splitEntity a place
    let second ← splitEntity b place
    join first second
    return [first, second]

/-- Splits curves; gives the points where they were cut. Nothing changes on failure. -/
def split (selection : SplitSelection) (hint : Vec3 α) : Edit α CurveError (List EntityId) := do
  match selection with
  | .atPoint entity point =>
    requireWorkplane entity
    requireWorkplane point
    splitAtPoint entity point
  | .pair a b =>
    requireWorkplane a
    requireWorkplane b
    splitPair a b hint

end Sketch
end Drafting
