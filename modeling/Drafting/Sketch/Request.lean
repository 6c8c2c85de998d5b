import Drafting.Sketch.Entity
/-! What a user draws. A request expands into a main entity at index 0, its points from index 1, its
normal at 32 and its distance at 64; parameters are numbered in the order of those parts. -/
namespace Drafting

inductive RequestKind where
  | datumPoint
  | workplane
  | line
  | circle
  | arc
  | cubic
  deriving DecidableEq, Hashable, Repr, Inhabited

def RequestKind.typeName : RequestKind → String
  | datumPoint => "Datum Point"
  | workplane => "Workplane"
  | line => "Line Segment"
  | circle => "Circle"
  | arc => "Arc of Circle"
  | cubic => "Cubic"

structure Request where
  id : RequestId
  group : GroupId
  workplane : Option EntityId
  kind : RequestKind
  construction : Bool := false
  deriving DecidableEq, Repr, Inhabited

instance : Keyed RequestId Request := ⟨Request.id⟩

namespace Request

def pointIndex : Nat := 1
def normalIndex : Nat := 32
def distanceIndex : Nat := 64

def entity (r : Request) : EntityId := .request r.id 0
def normal (r : Request) : EntityId := .request r.id normalIndex
def distance (r : Request) : EntityId := .request r.id distanceIndex

/-- The point of a number, from 0; a datum point is its own only point. -/
def point (r : Request) (n : Nat) : EntityId :=
  if r.kind = .datumPoint then r.entity else .request r.id (pointIndex + n)

def param (r : Request) (n : Nat) : ParamId := .request r.id n

def coordinates (r : Request) : Nat := if r.workplane.isSome then 2 else 3

def part (r : Request) (id : EntityId) (kind : EntityKind α) : Entity α :=
  { id, group := r.group, workplane := r.workplane, construction := r.construction, kind }

def pointParts (r : Request) (count : Nat) : List (Entity α) :=
  (List.range count).map fun n =>
    let p := n * r.coordinates
    r.part (r.point n) (if r.workplane.isSome then .pointIn2d ⟨r.param p, r.param (p + 1)⟩
      else .pointIn3d ⟨r.param p, r.param (p + 1), r.param (p + 2)⟩)

def normalPart (r : Request) (first : Nat) : Entity α :=
  r.part r.normal (if r.workplane.isSome then .normalIn2d
    else .normalIn3d { w := r.param first, x := r.param (first + 1), y := r.param (first + 2), z := r.param (first + 3) })

def entities (r : Request) : List (Entity α) :=
  match r.kind with
  | .datumPoint => r.pointParts 1
  | .workplane => r.pointParts 1 ++
    [r.normalPart r.coordinates, r.part r.entity (.workplane (r.point 0) r.normal)]
  | .line => r.pointParts 2 ++ [r.part r.entity (.line (r.point 0) (r.point 1))]
  | .circle =>
    let radius := r.coordinates + if r.workplane.isSome then 0 else 4
    r.pointParts 1 ++ [r.normalPart r.coordinates, r.part r.distance (.distance (r.param radius)),
      r.part r.entity (.circle (r.point 0) r.normal r.distance)]
  | .arc => r.pointParts 3 ++ [r.normalPart (3 * r.coordinates),
      r.part r.entity (.arc (r.point 0) (r.point 1) (r.point 2) r.normal)]
  | .cubic => r.pointParts 4 ++
    [r.part r.entity (.cubic (r.point 0) (r.point 1) (r.point 2) (r.point 3))]

end Request

/-- The parameters of an entity with the values they begin with: a normal unturned, all else zero. -/
def Entity.initial [Scalar α] (e : Entity α) : List (ParamId × α) :=
  match e.kind with
  | .normalIn3d q => [(q.w, 1.0), (q.x, 0.0), (q.y, 0.0), (q.z, 0.0)]
  | kind => kind.ownParams.map (·, 0.0)

def Request.params [Scalar α] (r : Request) : List (ParamId × α) := r.entities.flatMap Entity.initial

end Drafting
