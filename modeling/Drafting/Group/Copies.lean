import Drafting.Sketch.Evaluate
/-! Entities that a group derives from those of its source. Each gets the slot of its source, role
and copy, so it keeps its handle from one regeneration to the next. -/
namespace Drafting

structure Copies (α : Type) where
  remap : RemapTable
  made : Array (Entity α) := #[]

/-- Makes copies; after a failure nothing of them is kept. -/
abbrev Copying (α : Type) := StateT (Copies α) (Except SketchError)

def Quat.along [Scalar α] (direction : Vec3 α) : Quat α := between .unitZ direction.normalizeOrZero

namespace Copying
variable [Scalar α]

def onAxisEpsilon : α := 1e-9

def handle (group : GroupId) (key : RemapKey) : Copying α EntityId :=
  modifyGet fun c =>
    let (slot, remap) := c.remap.slot key
    (.derived group slot, { c with remap })

def derive (group : GroupId) (role : RemapRole) (copy : Nat) (source : EntityId) : Copying α EntityId :=
  handle group ⟨.entity source, role, copy⟩

def push (group : GroupId) (id : EntityId) (construction : Bool) (kind : EntityKind α) : Copying α Unit :=
  modify fun c => { c with made := c.made.push { id, group, construction, kind } }

/-- The kind of a copy: numbers are frozen and placed by the transform, parts are copies themselves. -/
def copiedKind (s : Sketch α) (part : EntityId → Copying α EntityId) (transform : CopyTransform α)
    (e : Entity α) : Copying α (EntityKind α) := do
  match e.kind with
  | .pointIn3d _ | .pointIn2d _ | .pointCopy .. => return .pointCopy (← s.position e.id) transform
  | .normalIn3d _ | .normalIn2d | .normalCopy .. => return .normalCopy (← s.orientation e.id) transform
  | .distance _ | .distanceCopy _ => return .distanceCopy (← s.distance e.id)
  | .workplane origin normal => return .workplane (← part origin) (← part normal)
  | .line a b => return .line (← part a) (← part b)
  | .circle center normal radius => return .circle (← part center) (← part normal) (← part radius)
  | .arc center start finish normal =>
    return .arc (← part center) (← part start) (← part finish) (← part normal)
  | .cubic p0 p1 p2 p3 => return .cubic (← part p0) (← part p1) (← part p2) (← part p3)
  | .face .. => throw (.wrongKind e.id .copyable)

def copy (s : Sketch α) (group : GroupId) (role : RemapRole) (n : Nat) (transform : CopyTransform α)
    (e : Entity α) : Copying α EntityId := do
  let kind ← copiedKind s (derive group role n) transform e
  let id ← derive group role n e.id
  push group id e.construction kind
  return id

/-- The path of a point about an axis: an arc between two ends, or a whole circle. A point on the axis
has none. -/
def turnPath (s : Sketch α) (group : GroupId) (axis : Axis α) (ends : Option (EntityId × EntityId))
    (point : Entity α) : Copying α Unit := do
  let p ← s.position point.id
  let c := axis.project p
  let r := p.distance c
  if r < onAxisEpsilon then
    return
  let center ← derive group .latheArcCenter 0 point.id
  push group center point.construction (.pointCopy c .identity)
  let normal ← derive group .pointToNormal 0 point.id
  push group normal point.construction (.normalCopy (.along axis.direction) .identity)
  let curve ← derive group .pointToArc 0 point.id
  match ends with
  | some (start, finish) => push group curve point.construction (.arc center start finish normal)
  | none =>
    let radius ← derive group .latheRadius 0 point.id
    push group radius point.construction (.distanceCopy r)
    push group curve point.construction (.circle center normal radius)

def extrude (s : Sketch α) (g : Group α) (bottom top : CopyTransform α) (e : Entity α) :
    Copying α Unit := do
  let low ← copy s g.id .bottom 0 bottom e
  let high ← copy s g.id .top 0 top e
  if e.isA .point then
    push g.id (← derive g.id .pointToLine 0 e.id) e.construction (.line low high)
  if let .line a b := e.kind then
    let source ← derive g.id .bottom 0 a
    let target ← derive g.id .bottom 0 b
    push g.id (← derive g.id .lineToFace 0 e.id) e.construction
      (.face source (.sweep source target g.delta))

def lathe (s : Sketch α) (group : GroupId) (axis : Axis α) (e : Entity α) : Copying α Unit := do
  let _ ← copy s group .copy 0 .identity e
  if e.isA .point then
    turnPath s group axis none e

def revolve (s : Sketch α) (g : Group α) (axis : Axis α) (e : Entity α) : Copying α Unit := do
  let start ← copy s g.id .latheStart 0 .identity e
  let finish ← copy s g.id .latheEnd 0 (.revolve axis.origin axis.direction g.revolveAngle) e
  if e.isA .point then
    turnPath s g.id axis (some (start, finish)) e

def repeated (s : Sketch α) (group : GroupId) (transform : α → CopyTransform α) (multiples : List α)
    (sources : List (Entity α)) : Copying α Unit :=
  multiples.zipIdx.forM fun (times, k) => sources.forM fun e => do
    let _ ← copy s group .copy k (transform times) e

def all (s : Sketch α) (g : Group α) (sources : List (Entity α)) : Copying α Unit :=
  match g.kind with
  | .drawing3d | .drawingWorkplane .. => return
  | .extrude sides _ =>
    let bottom := match sides with
      | .oneSided => .identity
      | .twoSided => .translate g.delta (-1.0)
    sources.forM (extrude s g bottom (.translate g.delta 1.0))
  | .lathe axis => sources.forM (lathe s g.id axis)
  | .revolve axis => sources.forM (revolve s g axis)
  | .translate copies sides skipFirst =>
    repeated s g.id (.translate g.delta) (sides.multiples copies skipFirst) sources
  | .rotate _ _ copies sides skipFirst =>
    repeated s g.id (.rotate g.rotateCenter g.rotateAxis g.rotateAngle)
      (sides.multiples copies skipFirst) sources
  | .linked points _ => points.zipIdx.forM fun (p, i) => do
    push g.id (← handle g.id ⟨.imported i, .copy, 0⟩) false
      (.pointCopy p (.linked g.linkOffset g.linkRotation))

end Copying

namespace Sketch
variable [Scalar α]

def sources (s : Sketch α) (g : Group α) : Except SketchError (List (Entity α)) := do
  if !g.kind.isDerived then
    return []
  let source ← found (.noSource g.id) g.source
  return s.entities.toList.filter fun e => e.group == source && !e.isA .face

def copies (s : Sketch α) (g : Group α) : Except SketchError (Copies α) := do
  let sources ← s.sources g
  return (← (Copying.all s g sources).run { remap := g.remap }).2

end Sketch
end Drafting
