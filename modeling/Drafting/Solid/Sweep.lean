import Drafting.Geometry.Frame
import Drafting.Solid.Error
import Drafting.Solid.Mesh
import Drafting.Solid.Polygon
/-! Triangles of solids swept by plane profiles, along a direction or about an axis. -/
namespace Drafting

structure Profile (α : Type) where
  origin : Vec3 α
  u : Vec3 α
  v : Vec3 α
  loops : List (List (Vec2 α))
  deriving Repr, Inhabited

namespace Profile
variable [Scalar α]

def normal (p : Profile α) : Vec3 α := p.u.cross p.v
def toWorld (p : Profile α) (q : Vec2 α) : Vec3 α := p.origin + p.u.scale q.x + p.v.scale q.y
def isEmpty (p : Profile α) : Bool := p.loops.isEmpty

/-- Gap below which two boxes touch and a sweep has no length. -/
def touchEpsilon : α := 1e-9

def orient (l : List (Vec2 α)) : Except KernelError (List (Vec2 α)) :=
  if l.length < 3 then .error .shortLoop
  else .ok (if Polygon.signedArea l < 0.0 then l.reverse else l)

def nested (loops : List (List (Vec2 α))) : Bool :=
  loops.zipIdx.any fun (a, i) => loops.zipIdx.any fun (b, j) =>
    i != j && a.head?.any (Polygon.contains b ·)

def outerLoops (p : Profile α) : Except KernelError (List (List (Vec2 α))) := do
  if p.isEmpty then throw .noLoops
  let loops ← p.loops.mapM orient
  if nested loops then throw .nestedLoops
  return loops

def caps (l : List (Vec2 α)) : Except KernelError (List (Vec2 α × Vec2 α × Vec2 α)) :=
  match Polygon.triangulate l with
  | some ts => .ok (ts.map fun (a, b, c) => (a.point, b.point, c.point))
  | none => .error .selfIntersecting

def extrudeLoop (lower upper : Vec2 α → Vec3 α) (l : List (Vec2 α)) :
    Except KernelError (List (Triangle α)) := do
  let ends ← caps l
  return ends.flatMap (fun (i, j, k) =>
      [⟨upper i, upper j, upper k⟩, ⟨lower i, lower k, lower j⟩]) ++
    (Polygon.edges l).flatMap fun (i, j) =>
      [⟨lower i, lower j, upper j⟩, ⟨lower i, upper j, upper i⟩]

/-- Sweeps between two offsets from the plane. Against the normal every triangle is turned over, so
that faces point outward. -/
def extrude (p : Profile α) (bottom top : Vec3 α) : Except KernelError (List (Triangle α)) := do
  let direction := top - bottom
  if direction.lengthSquared < touchEpsilon * touchEpsilon then
    throw .flatExtrusion
  let loops ← p.outerLoops
  let sides ← loops.mapM (extrudeLoop (fun q => p.toWorld q + bottom) (fun q => p.toWorld q + top))
  let all := sides.flatten
  return if direction.dot p.normal < 0.0 then all.map Triangle.flip else all

def revolveLoop (place : Nat → Vec2 α → Vec3 α) (ring : Vec2 α → Vec3 α) (steps : Nat) (full : Bool)
    (l : List (Vec2 α)) : Except KernelError (List (Triangle α)) := do
  let around := (List.range steps).flatMap fun s =>
    let a := l.map (place s)
    let b := l.map (place (s + 1))
    (Polygon.edges (a.zip b)).flatMap fun ((ai, bi), (aj, bj)) => [⟨ai, aj, bj⟩, ⟨ai, bj, bi⟩]
  if full then return around
  let ends ← caps l
  let last := place steps
  return around ++ ends.flatMap fun (i, j, k) =>
    [⟨ring i, ring k, ring j⟩, ⟨last i, last j, last k⟩]

def revolve (p : Profile α) (segments : Nat) (axis : Axis α) (angle : α) :
    Except KernelError (List (Triangle α)) := do
  if Arith.abs angle < 1e-9 || axis.direction == Vec3.zero then
    throw .degenerateRevolve
  let full := decide (Scalar.tau - 1e-9 ≤ Arith.abs angle)
  let steps := Nat.max (Scalar.ceilNat (Arith.ofNat segments * Arith.abs angle / Scalar.tau)) 3
  let place (s : Nat) : Vec2 α → Vec3 α :=
    let q := Quat.ofAxisAngle axis.direction (angle * Arith.ofNat s / Arith.ofNat steps)
    fun x => axis.origin + q.rotate (p.toWorld x - axis.origin)
  let loops ← p.outerLoops
  return (← loops.mapM (revolveLoop place p.toWorld steps full)).flatten

end Profile
end Drafting
