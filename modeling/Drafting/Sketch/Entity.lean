import Drafting.Expr.Vector
import Drafting.Registry
/-! Points, normals, distances, workplanes, curves and faces. An entity names its parts by handle
and holds no positions of its own, copies apart. -/
namespace Drafting

inductive CopyTransform (α : Type) where
  | identity
  | translate (delta : Vec3 ParamId) (times : α)
  | rotate (center axis : Vec3 ParamId) (angle : ParamId) (times : α)
  | revolve (origin axis : Vec3 α) (angle : ParamId)
  | linked (offset : Vec3 ParamId) (rotation : Quat ParamId)
  deriving Repr, Inhabited

namespace CopyTransform
variable [Scalar α]

def rotation? : CopyTransform α → Option (Quat (Expr α))
  | identity | translate .. => none
  | rotate _ axis angle times =>
    some (.aboutAxis ((Vec3.ofParams axis).withMagnitude (.const 1.0)) (.param angle * .const times))
  | revolve _ axis angle => some (.aboutAxis axis.normalizeOrZero.toExpr (.param angle))
  | linked _ rotation => some (.ofParams rotation)

def point (base : Vec3 α) : CopyTransform α → Vec3 (Expr α)
  | identity => base.toExpr
  | translate delta times => base.toExpr + (Vec3.ofParams delta).scale (.const times)
  | t@(rotate center ..) =>
    let c := Vec3.ofParams center
    c + (t.rotation?.getD Quat.identity.toExpr).apply (base.toExpr - c)
  | t@(revolve origin ..) =>
    let o := origin.toExpr
    o + (t.rotation?.getD Quat.identity.toExpr).apply (base.toExpr - o)
  | linked offset rotation => (Quat.ofParams rotation).apply base.toExpr + Vec3.ofParams offset

def normal (base : Quat α) (t : CopyTransform α) : Quat (Expr α) :=
  match t.rotation? with
  | some q => q.times base.toExpr
  | none => base.toExpr

end CopyTransform

inductive FaceNormal where
  | normal (id : EntityId)
  | sweep (source target : EntityId) (direction : Vec3 ParamId)
  deriving Repr, Inhabited

inductive EntityKind (α : Type) where
  | pointIn3d (params : Vec3 ParamId)
  | pointIn2d (params : Vec2 ParamId)
  | pointCopy (base : Vec3 α) (transform : CopyTransform α)
  | normalIn3d (params : Quat ParamId)
  | normalIn2d
  | normalCopy (base : Quat α) (transform : CopyTransform α)
  | workplane (origin normal : EntityId)
  | distance (param : ParamId)
  | distanceCopy (value : α)
  | line (start finish : EntityId)
  | circle (center normal radius : EntityId)
  | arc (center start finish normal : EntityId)
  | cubic (p0 p1 p2 p3 : EntityId)
  | face (point : EntityId) (normal : FaceNormal)
  deriving Repr, Inhabited

structure Entity (α : Type) where
  id : EntityId
  group : GroupId
  workplane : Option EntityId := none
  construction : Bool := false
  kind : EntityKind α
  deriving Repr, Inhabited

instance : Keyed EntityId (Entity α) := ⟨Entity.id⟩

inductive EntityClass where
  | point | normal | distance | workplane | line | arc | round | cubic | smooth | face | plane
  | lineOrArc | openCurve | curve | copyable
  deriving DecidableEq, Repr

def EntityClass.words : EntityClass → String
  | point => "point"
  | normal => "normal"
  | distance => "distance"
  | workplane => "workplane"
  | line => "line segment"
  | arc => "arc"
  | round => "circle or arc"
  | cubic => "cubic"
  | smooth => "arc or cubic"
  | face => "face"
  | plane => "plane"
  | lineOrArc => "line or arc"
  | openCurve => "curve"
  | curve => "line, circle, arc or cubic"
  | copyable => "copyable entity"

namespace EntityKind

def classes : EntityKind α → List EntityClass
  | pointIn3d _ | pointIn2d _ | pointCopy .. => [.point, .copyable]
  | normalIn3d _ | normalIn2d | normalCopy .. => [.normal, .copyable]
  | distance _ | distanceCopy _ => [.distance, .copyable]
  | workplane .. => [.workplane, .plane, .copyable]
  | line .. => [.line, .lineOrArc, .openCurve, .curve, .copyable]
  | circle .. => [.round, .curve, .copyable]
  | arc .. => [.arc, .round, .smooth, .lineOrArc, .openCurve, .curve, .copyable]
  | cubic .. => [.cubic, .smooth, .openCurve, .curve, .copyable]
  | face .. => [.face, .plane]

def isA (k : EntityKind α) (c : EntityClass) : Bool := k.classes.contains c

def typeName : EntityKind α → String
  | pointIn3d _ => "Point (3D)"
  | pointIn2d _ => "Point (2D)"
  | pointCopy .. => "Point (copy)"
  | normalIn3d _ => "Normal (3D)"
  | normalIn2d => "Normal (2D)"
  | normalCopy .. => "Normal (copy)"
  | workplane .. => "Workplane"
  | distance _ => "Distance"
  | distanceCopy _ => "Distance (copy)"
  | line .. => "Line Segment"
  | circle .. => "Circle"
  | arc .. => "Arc of Circle"
  | cubic .. => "Cubic"
  | face .. => "Face"

def points : EntityKind α → List EntityId
  | line a b => [a, b]
  | circle center .. => [center]
  | arc center start finish _ => [center, start, finish]
  | cubic p0 p1 p2 p3 => [p0, p1, p2, p3]
  | workplane origin _ => [origin]
  | face point _ => [point]
  | _ => []

def ends? : EntityKind α → Option (EntityId × EntityId)
  | line a b => some (a, b)
  | arc _ start finish _ => some (start, finish)
  | cubic p0 _ _ p3 => some (p0, p3)
  | _ => none

def otherParts : EntityKind α → List EntityId
  | workplane _ normal => [normal]
  | circle _ normal radius => [normal, radius]
  | arc _ _ _ normal => [normal]
  | face _ (.normal n) => [n]
  | face _ (.sweep source target _) => [source, target]
  | _ => []

/-- Parameters kept on the entity itself, a normal's in the order w, x, y, z. -/
def ownParams : EntityKind α → List ParamId
  | pointIn3d p => p.toList
  | pointIn2d p => [p.x, p.y]
  | normalIn3d q => [q.w, q.x, q.y, q.z]
  | distance p => [p]
  | _ => []

end EntityKind

namespace Entity

def isA (e : Entity α) (c : EntityClass) : Bool := e.kind.isA c

def references (e : Entity α) : List EntityId := e.kind.points ++ e.kind.otherParts ++ e.workplane.toList

end Entity
end Drafting
