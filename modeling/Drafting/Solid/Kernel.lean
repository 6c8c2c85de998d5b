import Std.Data.HashMap
import Drafting.Solid.Sweep
/-! Solids behind handles. The mesh kernel keeps one mesh for each shell and cannot cut overlapping
shells; the null kernel refuses everything. An operation that fails changes nothing. -/
namespace Drafting

inductive Backend where
  | mesh
  | null
  deriving DecidableEq, Repr, Inhabited

structure Kernel (α : Type) where
  backend : Backend := .mesh
  segments : Nat := 32
  shells : Std.HashMap ShellId (Mesh α) := {}
  issued : Nat := 0

namespace Kernel

instance : Inhabited (Kernel α) := ⟨{}⟩

def ofBackend (backend : Backend) (segments : Nat) : Kernel α := { backend, segments := Nat.max segments 3 }

def name (k : Kernel α) : String :=
  match k.backend with
  | .mesh => "mesh"
  | .null => "null"

def isAvailable (k : Kernel α) : Bool := k.backend = .mesh
def size (k : Kernel α) : Nat := k.shells.size
def isEmpty (k : Kernel α) : Bool := k.shells.isEmpty

/-- Handles are issued in order, from an arbitrary number of the random version on, so that none is one
that was made up elsewhere. -/
def firstShell : Nat := 0x8dde6e5fd29f4057b39cc0605cedc835

def store (k : Kernel α) (m : Mesh α) : ShellId × Kernel α :=
  let id : ShellId := ⟨firstShell + k.issued⟩
  (id, { k with shells := k.shells.insert id m, issued := k.issued + 1 })

def mesh (k : Kernel α) (s : ShellId) : Except KernelError (Mesh α) :=
  match k.shells[s]? with
  | some m => .ok m
  | none => .error (.shellNotFound s)

def available (k : Kernel α) : Except KernelError Unit :=
  match k.backend with
  | .mesh => .ok ()
  | .null => .error .unavailable

def discard (k : Kernel α) (s : ShellId) : Kernel α := { k with shells := k.shells.erase s }

def importMesh (k : Kernel α) (m : Mesh α) : Except KernelError (ShellId × Kernel α) := do
  k.available
  return k.store m

def tessellate (k : Kernel α) (s : ShellId) : Except KernelError (Mesh α) := do
  k.available
  match k.mesh s with
  | .ok m => return m
  | .error _ => throw .notTessellated

def assemble (k : Kernel α) (a b : ShellId) : Except KernelError (ShellId × Kernel α) := do
  k.available
  let ma ← k.mesh a
  let mb ← k.mesh b
  return k.store (ma.append mb)

variable [Scalar α]

def extrude (k : Kernel α) (p : Profile α) (bottom top : Vec3 α) :
    Except KernelError (ShellId × Kernel α) := do
  k.available
  return k.store (.ofTriangles (← p.extrude bottom top))

def revolve (k : Kernel α) (p : Profile α) (axis : Axis α) (angle : α) :
    Except KernelError (ShellId × Kernel α) := do
  k.available
  return k.store (.ofTriangles (← p.revolve k.segments axis angle))

def transform (k : Kernel α) (s : ShellId) (rotation : Quat α) (offset : Vec3 α) :
    Except KernelError (ShellId × Kernel α) := do
  k.available
  let m ← k.mesh s
  return k.store (m.move rotation.normalize.rotate offset)

def begins (low high : Vec3 α) : Bool :=
  decide (low.x - Profile.touchEpsilon < high.x) && decide (low.y - Profile.touchEpsilon < high.y) &&
    decide (low.z - Profile.touchEpsilon < high.z)

def overlap (a b : Mesh α) : Bool :=
  match a.bounds?, b.bounds? with
  | some (alow, ahigh), some (blow, bhigh) => begins alow bhigh && begins blow ahigh
  | _, _ => false

def combine (k : Kernel α) (a b : ShellId) (op : BooleanType) :
    Except KernelError (ShellId × Kernel α) := do
  k.available
  let ma ← k.mesh a
  let mb ← k.mesh b
  if overlap ma mb then
    throw (.overlapping op)
  return k.store (match op with
    | .union => ma.append mb
    | .subtract => ma
    | .intersect => {})

end Kernel
end Drafting
