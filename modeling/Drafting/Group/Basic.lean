import Drafting.Group.Kind
import Drafting.Group.Loop
import Drafting.Group.Remap
import Drafting.Registry
import Drafting.Solve.Outcome
/-! A group is one step of a model. It keeps what was drawn or asked for, and beside it what the last
regeneration made of it. -/
namespace Drafting

inductive GroupFailure (α : Type) where
  | solve (status : SolveStatus)
  | loops (cause : LoopError α)
  | kernel (cause : KernelError)
  deriving Repr

def GroupFailure.message : GroupFailure α → String
  | solve status => s!"Solve failed: {status.name}"
  | loops cause => s!"Bad loops: {cause.message}"
  | kernel cause => s!"Kernel: {cause.message}"

def GroupFailure.label : GroupFailure α → String
  | solve _ => "Solve"
  | loops cause => "Loops." ++ cause.label
  | kernel cause => "Kernel." ++ cause.label

def GroupFailure.place? : GroupFailure α → Option (Vec3 α)
  | loops cause => cause.place?
  | _ => none

/-- What a later group can see of a group: its entities and the values of its parameters. -/
structure Fingerprint (α : Type) where
  entities : List (EntityId × Bool)
  params : List (ParamId × α)
  deriving Repr

def Fingerprint.same [Scalar α] (a b : Fingerprint α) : Bool :=
  a.entities == b.entities && a.params.length == b.params.length &&
    (a.params.zip b.params).all fun ((p, x), (q, y)) => p == q && Scalar.same x y

structure Group (α : Type) where
  id : GroupId
  name : String
  kind : GroupKind α
  source : Option GroupId := none
  /-- One more group to come before this one. -/
  after : Option GroupId := none
  workplane : Option EntityId := none
  combine : CombineAs := .union
  visible : Bool := true
  suppress : Bool := false
  relaxConstraints : Bool := false
  allowRedundant : Bool := false
  allDimsReference : Bool := false
  remap : RemapTable := {}
  clean : Bool := false
  solved : SolveOutcome := {}
  loops : Option (LoopSet α) := none
  shell : Option ShellId := none
  runningShell : Option ShellId := none
  failures : List (GroupFailure α) := []
  fingerprint : Option (Fingerprint α) := none
  deriving Inhabited

instance : Keyed GroupId (Group α) := ⟨Group.id⟩

namespace Group

def predecessors (g : Group α) : List GroupId := g.source.toList ++ g.after.toList

def param (g : Group α) (n : Nat) : ParamId := .group g.id n
def paramVec (g : Group α) (n : Nat) : Vec3 ParamId := ⟨g.param n, g.param (n + 1), g.param (n + 2)⟩

def delta (g : Group α) : Vec3 ParamId := g.paramVec 0

def rotateCenter (g : Group α) : Vec3 ParamId := g.paramVec 0
def rotateAxis (g : Group α) : Vec3 ParamId := g.paramVec 3
def rotateAngle (g : Group α) : ParamId := g.param 6
def revolveAngle (g : Group α) : ParamId := g.param 0
def linkOffset (g : Group α) : Vec3 ParamId := g.paramVec 0

def linkRotation (g : Group α) : Quat ParamId :=
  { w := g.param 3, x := g.param 4, y := g.param 5, z := g.param 6 }

def angleParam? (g : Group α) : Option ParamId :=
  match g.kind with
  | .rotate .. => some g.rotateAngle
  | .revolve _ => some g.revolveAngle
  | _ => none

end Group
end Drafting
