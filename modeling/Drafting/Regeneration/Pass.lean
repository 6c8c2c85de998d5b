import Drafting.Group.Assembly
import Drafting.Regeneration.Order
import Drafting.Regeneration.Solid
import Drafting.Solve.Group
/-! Regeneration: groups that are dirty, or that build upon one that changed, are made anew in order.
What goes wrong with a group is recorded on it, and the pass goes on. -/
namespace Drafting

structure Model (α : Type) where
  sketch : Sketch α
  kernel : Kernel α

structure GroupReport (α : Type) where
  group : GroupId
  regenerated : Bool
  outcome : SolveOutcome
  failures : List (GroupFailure α)

structure RegenReport (α : Type) where
  groups : List (GroupReport α)

namespace RegenReport

def regenerated (r : RegenReport α) : List GroupId := (r.groups.filter (·.regenerated)).map GroupReport.group

def failures (r : RegenReport α) : List (GroupId × GroupFailure α) :=
  r.groups.flatMap fun g => g.failures.map (g.group, ·)

def isOk (r : RegenReport α) : Bool := r.failures.isEmpty

end RegenReport

/-- A change of a model that may fail; what was done before a failure stays done. -/
abbrev Regen (α : Type) := ExceptT RegenError (StateM (Model α))

namespace Regen
variable [Scalar α]

def read (f : Sketch α → Except SketchError τ) : Regen α τ := do
  match f (← get).sketch with
  | .ok x => return x
  | .error e => throw (.sketch e)

def edit (e : Edit α SketchError τ) : Regen α τ := fun m =>
  match e m.sketch with
  | (.ok x, sketch) => (.ok x, { m with sketch })
  | (.error e, sketch) => (.error (.sketch e), { m with sketch })

def solids (w : Solids α τ) : Regen α (Except KernelError τ) := fun m =>
  let (result, kernel) := w m.kernel
  (.ok result, { m with kernel })

def solve (config : SolverConfig α) (clock : Nat → Nat) (group : GroupId) : Regen α SolveOutcome := fun m =>
  let (outcome, sketch) := m.sketch.solveGroup group config clock
  (.ok outcome, { m with sketch })

def outcomeOf (fail : ε → GroupFailure α) : Except ε τ → Option τ × List (GroupFailure α)
  | .ok x => (some x, [])
  | .error e => (none, [fail e])

def loops (config : LoopConfig α) (g : Group α) : Regen α (Option (LoopSet α) × List (GroupFailure α)) := do
  match g.workplane with
  | some w =>
    if g.kind.isSolid then
      return (none, [])
    let frame ← read (·.frame w)
    return outcomeOf .loops ((← get).sketch.assemble g.id frame config)
  | none => return (none, [])

def shell (g : Group α) : Regen α (Option ShellId × List (GroupFailure α)) := do
  if !g.kind.isSolid || g.suppress then
    return (none, [])
  return outcomeOf .kernel (← solids ((← get).sketch.buildShell g))

/-- The solid of a group joined to that of all before; where it cannot be joined they go on alone. -/
def running (g : Group α) (prior shell : Option ShellId) :
    Regen α (Option ShellId × List (GroupFailure α)) := do
  if !g.kind.isSolid then
    return (none, [])
  match prior, shell with
  | some before, some new =>
    match ← solids (Solids.join before new g.combine) with
    | .ok joined => return (some joined, [])
    | .error e => return (prior, [.kernel e])
  | none, some new => return (some new, [])
  | _, none => return (prior, [])

def release (s : ShellId) : Regen α Unit :=
  modify fun m =>
    if m.sketch.groups.toList.any fun g => g.shell == some s || g.runningShell == some s then m
    else { m with kernel := m.kernel.discard s }

def regenerateGroup (config : EngineConfig α) (clock : Nat → Nat) (id : GroupId) (prior : Option ShellId) :
    Regen α Unit := do
  edit (Sketch.generateGroup id)
  let outcome ← solve config.solver clock id
  let g ← read (·.group id)
  let unsolved := if outcome.status.isAcceptable then [] else [.solve outcome.status]
  let (loops, badLoops) ← loops config.loops g
  let (shell, badShell) ← shell g
  let (running, badJoin) ← running g prior shell
  let failures := unsolved ++ badLoops ++ badShell ++ badJoin
  modify fun m => { m with sketch := m.sketch.modifyGroup id fun g => { g with
    loops, shell, failures, runningShell := running, clean := failures.isEmpty,
    fingerprint := some (m.sketch.fingerprint id) } }
  (g.shell.toList ++ g.runningShell.toList).forM release

structure Progress (α : Type) where
  changed : List GroupId := []
  previous : Option (GroupId × Option ShellId) := none
  reports : List (GroupReport α) := []

def sameFingerprint (a b : Option (Fingerprint α)) : Bool :=
  match a, b with
  | some x, some y => x.same y
  | none, none => true
  | _, _ => false

def isNeeded (s : Sketch α) (g : Group α) (p : Progress α) : Bool :=
  !g.clean || (g.kind.isSolid && p.previous.any fun (id, _) => p.changed.contains id) ||
    (s.dependencies g).any p.changed.contains

def visit (config : EngineConfig α) (clock : Nat → Nat) (p : Progress α) (id : GroupId) :
    Regen α (Progress α) := do
  let g ← read (·.group id)
  let needed := isNeeded (← get).sketch g p
  if needed then
    regenerateGroup config clock id (p.previous.bind Prod.snd)
  let now ← read (·.group id)
  let differs := needed && (g.kind.isSolid || !sameFingerprint g.fingerprint now.fingerprint)
  return {
    changed := if differs then id :: p.changed else p.changed
    previous := if g.kind.isSolid then some (id, now.runningShell) else p.previous
    reports := p.reports ++ [⟨id, needed, now.solved, now.failures⟩] }

def pass (config : EngineConfig α) (clock : Nat → Nat) : Regen α (RegenReport α) := do
  match (← get).sketch.regenerationOrder with
  | .error e => throw e
  | .ok order => return ⟨(← order.foldlM (visit config clock) {}).reports⟩

def all (config : EngineConfig α) (clock : Nat → Nat) : Regen α (RegenReport α) := do
  modify fun m => { m with sketch := m.sketch.groups.keys.foldl Sketch.markDirty m.sketch }
  pass config clock

/-- Makes a group anew, and those that have to follow. -/
def startingAt (config : EngineConfig α) (clock : Nat → Nat) (id : GroupId) : Regen α (RegenReport α) := do
  if !(← get).sketch.groups.contains id then
    throw (.groupNotFound id)
  modify fun m => { m with sketch := m.sketch.markDirty id }
  pass config clock

end Regen
end Drafting
