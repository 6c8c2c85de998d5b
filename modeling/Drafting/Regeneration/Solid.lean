import Drafting.Sketch.Basic
import Drafting.Solid.Kernel
/-! The solid of a group: swept from the loops of its source, copied from the solid of its source, or
linked from elsewhere. -/
namespace Drafting

abbrev Solids (α : Type) := ExceptT KernelError (StateM (Kernel α))

namespace Solids

def make (op : Kernel α → Except KernelError (ShellId × Kernel α)) : Solids α ShellId := fun k =>
  match op k with
  | .ok (shell, k) => (.ok shell, k)
  | .error e => (.error e, k)

def discard (s : ShellId) : Solids α Unit := modify (·.discard s)

variable [Scalar α]

/-- Joins two shells and discards them, whether or not they could be joined. -/
def merge (a b : ShellId) : Solids α ShellId := fun k =>
  match k.combine a b .union with
  | .ok (shell, k) => (.ok shell, (k.discard a).discard b)
  | .error e => (.error e, (k.discard a).discard b)

def repeatOnto (source : ShellId) (joined : ShellId) : List (Quat α × Vec3 α) → Solids α ShellId
  | [] => return joined
  | (rotation, offset) :: rest => do
    let copy ← make (·.transform source rotation offset)
    repeatOnto source (← merge joined copy) rest

def repeated (source : ShellId) : List (Quat α × Vec3 α) → Solids α ShellId
  | [] => throw .noCopies
  | (rotation, offset) :: rest => do
    repeatOnto source (← make (·.transform source rotation offset)) rest

def join (before shell : ShellId) (c : CombineAs) : Solids α ShellId :=
  match c.boolean? with
  | some op => make (·.combine before shell op)
  | none => make (·.assemble before shell)

end Solids

namespace Sketch
variable [Scalar α]

def vectorOf (s : Sketch α) (p : Vec3 ParamId) : Vec3 α := p.map s.valueOf

def sourceOf (s : Sketch α) (g : Group α) : Except KernelError (Group α) :=
  found (.noSource g.id) (g.source.bind s.groups.get?)

def sourceProfile (s : Sketch α) (g : Group α) : Except KernelError (Profile α) := do
  let source ← s.sourceOf g
  match source.loops with
  | some loops => if loops.isEmpty then throw (.noClosedLoops source.name) else return loops.profile
  | none => throw (.noClosedLoops source.name)

def sourceShell (s : Sketch α) (g : Group α) : Except KernelError ShellId := do
  let source ← s.sourceOf g
  found (.noSolid source.name) source.shell

def extrusionEnds (s : Sketch α) (g : Group α) (sides : Sides) : Vec3 α × Vec3 α :=
  let delta := s.vectorOf g.delta
  match sides with
  | .oneSided => (.zero, delta)
  | .twoSided => (-delta, delta)

def translations (s : Sketch α) (g : Group α) (multiples : List α) : List (Quat α × Vec3 α) :=
  let delta := s.vectorOf g.delta
  multiples.map fun times => (.identity, delta.scale times)

/-- Where rotated copies stand: turned about the origin, then moved back to the center. -/
def rotations (s : Sketch α) (g : Group α) (multiples : List α) : List (Quat α × Vec3 α) :=
  let center := s.vectorOf g.rotateCenter
  let axis := (s.vectorOf g.rotateAxis).normalizeOrZero
  let angle := s.valueOf g.rotateAngle
  multiples.map fun times =>
    let q := Quat.ofAxisAngle axis (angle * times)
    (q, center - q.rotate center)

def buildShell (s : Sketch α) (g : Group α) : Solids α ShellId := do
  match g.kind with
  | .extrude sides _ =>
    let (bottom, top) := s.extrusionEnds g sides
    let profile ← s.sourceProfile g
    Solids.make (·.extrude profile bottom top)
  | .lathe axis =>
    let profile ← s.sourceProfile g
    Solids.make (·.revolve profile axis Scalar.tau)
  | .revolve axis =>
    let profile ← s.sourceProfile g
    Solids.make (·.revolve profile axis (s.valueOf g.revolveAngle))
  | .translate copies sides skipFirst =>
    Solids.repeated (← s.sourceShell g) (s.translations g (sides.multiples copies skipFirst))
  | .rotate _ _ copies sides skipFirst =>
    Solids.repeated (← s.sourceShell g) (s.rotations g (sides.multiples copies skipFirst))
  | .linked _ shell =>
    let part ← found (KernelError.noPart g.name) shell
    Solids.make (·.transform part (g.linkRotation.map s.valueOf).normalize (s.vectorOf g.linkOffset))
  | .drawing3d | .drawingWorkplane .. => throw (.notSolid g.name)

end Sketch
end Drafting
