import Drafting.Sketch.Constraint
import Drafting.Sketch.Request
/-! What an edit or a query can fail with. -/
namespace Drafting

inductive SketchError where
  | groupNotFound (id : GroupId)
  | requestNotFound (id : RequestId)
  | constraintNotFound (id : ConstraintId)
  | entityNotFound (id : EntityId)
  | paramNotFound (id : ParamId)
  | wrongKind (entity : EntityId) (expected : EntityClass)
  | missingWorkplane (entity : EntityId)
  | workplaneRequired (kind : RequestKind)
  | workplaneInWorkplane
  | notJoined (reason : String)
  | sourceRequired (typeName : String)
  | noSource (group : GroupId)
  | notEditable (entity : EntityId)
  | unreadable
  | noSuchFile
  deriving DecidableEq, Repr

def SketchError.message : SketchError → String
  | groupNotFound id => s!"Group not found: {id}"
  | requestNotFound id => s!"Request not found: {id}"
  | constraintNotFound id => s!"Constraint not found: {id}"
  | entityNotFound id => s!"Entity not found: {id}"
  | paramNotFound id => s!"Parameter not found: {id}"
  | wrongKind entity expected => s!"Entity {entity} is not a {expected.words}"
  | missingWorkplane entity => s!"Entity {entity} has no workplane"
  | workplaneRequired kind => s!"{kind.typeName} must be drawn in a workplane"
  | workplaneInWorkplane => "Invalid request: a workplane cannot be drawn in another workplane"
  | notJoined reason => s!"Invalid request: {reason}"
  | sourceRequired typeName => s!"Invalid group: {typeName} group needs a source group"
  | noSource group => s!"Invalid group: {group} has no source group"
  | notEditable entity => s!"Entity {entity} cannot be edited directly"
  | unreadable => "Deserialization error"
  | noSuchFile => "IO error"

def SketchError.label : SketchError → String
  | groupNotFound _ => "GroupNotFound"
  | requestNotFound _ => "RequestNotFound"
  | constraintNotFound _ => "ConstraintNotFound"
  | entityNotFound _ => "EntityNotFound"
  | paramNotFound _ => "ParamNotFound"
  | wrongKind .. => "WrongEntityKind"
  | missingWorkplane _ => "MissingWorkplane"
  | workplaneRequired _ => "WorkplaneRequired"
  | workplaneInWorkplane | notJoined _ => "InvalidRequest"
  | sourceRequired _ | noSource _ => "InvalidGroup"
  | notEditable _ => "NotEditable"
  | unreadable => "Deserialize"
  | noSuchFile => "Io"

inductive ConstraintError where
  | sketch (cause : SketchError)
  | wrongEntity (constraint : String) (entity : EntityId) (expected : EntityClass)
  | workplaneRequired (constraint : String)
  | zeroLength (line : EntityId)
  | zeroRadius (arc : EntityId)
  | noDirection (curve : EntityId) (tip : ArcEnd)
  | noSharedEndpoint
  | notDraggable (point : EntityId)
  | twoLines
  deriving DecidableEq, Repr

def ConstraintError.message : ConstraintError → String
  | sketch cause => s!"Sketch error: {cause.message}"
  | wrongEntity constraint entity expected =>
    s!"{constraint}: entity {entity} must be a {expected.words}"
  | workplaneRequired constraint => s!"{constraint} constraint requires a workplane"
  | zeroLength line => s!"Degenerate geometry: line {line} has zero length"
  | zeroRadius arc => s!"Degenerate geometry: arc {arc} has zero radius"
  | noDirection curve tip => s!"Degenerate geometry: {curve} has no direction at its {tip.name}"
  | noSharedEndpoint => "Curves do not share an endpoint"
  | notDraggable point => s!"Invalid constraint: {point} cannot be dragged"
  | twoLines => "Invalid constraint: two lines cannot be tangent"

def ConstraintError.label : ConstraintError → String
  | sketch cause => "Sketch." ++ cause.label
  | wrongEntity .. => "WrongEntity"
  | workplaneRequired _ => "WorkplaneRequired"
  | zeroLength _ | zeroRadius _ | noDirection .. => "Degenerate"
  | noSharedEndpoint => "NoSharedEndpoint"
  | notDraggable _ | twoLines => "Invalid"

inductive CurveError where
  | sketch (cause : SketchError)
  | constraint (cause : ConstraintError)
  | notInWorkplane (entity : EntityId)
  | noCorner (point : EntityId) (found : Nat)
  | noFit
  | noIntersection
  | notSplittable (entity : EntityId)
  | pointNotOnEntity (point entity : EntityId)
  deriving DecidableEq, Repr

def CurveError.message : CurveError → String
  | sketch cause => s!"Sketch error: {cause.message}"
  | constraint cause => s!"Constraint error: {cause.message}"
  | notInWorkplane entity => s!"{entity} is not in a workplane"
  | noCorner point found => s!"Expected two lines or arcs joining at {point}, found {found}"
  | noFit => "Couldn't round this corner; try a smaller radius"
  | noIntersection => "No intersection found"
  | notSplittable entity => s!"{entity} cannot be split; lines, circles, arcs or cubics only"
  | pointNotOnEntity point entity => s!"{point} is not constrained onto {entity}"

def CurveError.label : CurveError → String
  | sketch cause => "Sketch." ++ cause.label
  | constraint cause => "Constraint." ++ cause.label
  | notInWorkplane _ => "NotInWorkplane"
  | noCorner .. => "NoCorner"
  | noFit => "NoFit"
  | noIntersection => "NoIntersection"
  | notSplittable _ => "NotSplittable"
  | pointNotOnEntity .. => "PointNotOnEntity"

instance : MonadLift (Except SketchError) (Except ConstraintError) := ⟨Except.mapError .sketch⟩

/-- Errors of one layer as errors of the layer above. -/
class Raises (ε ε' : Type) where
  raise : ε → ε'

instance : Raises ε ε := ⟨id⟩
instance : Raises SketchError ConstraintError := ⟨.sketch⟩
instance : Raises SketchError CurveError := ⟨.sketch⟩
instance : Raises ConstraintError CurveError := ⟨.constraint⟩

end Drafting
