import Drafting.Session.Basic
/-! What can be asked of a session, as data, and the answers. -/
namespace Drafting

inductive Query (α : Type) where
  | validate (group : GroupId) (workplane : Option EntityId) (kind : ConstraintKind α)
  | tangentBetween (a b : EntityId)
  | equations (constraint : ConstraintId) (measured : Bool)
  | compile (constraint : Constraint α) (measured : Bool)
  | entityEquations (group : GroupId)
  | groupEquations (group : GroupId)
  | system (group : GroupId) (allDimsReference : Bool)
  | pointsAt (point : EntityId)
  | group (id : GroupId)
  | constraint (id : ConstraintId)
  | request (id : RequestId)
  | entity (id : EntityId)
  | hasEntity (id : EntityId)
  | entityParts (id : EntityId)
  | position (id : EntityId)
  | orientation (id : EntityId)
  | distance (id : EntityId)
  | radius (id : EntityId)
  | arcAngles (id : EntityId)
  | centerOf (id : EntityId)
  | normalOf (id : EntityId)
  | plane (id : EntityId)
  | frame (id : EntityId)
  | param (id : ParamId)
  | valueOf (id : ParamId)
  | derived (group : GroupId) (source : EntityId) (role : RemapRole) (copy : Nat)
  | pieces (id : EntityId)
  | parametric (id : EntityId) (reverse : Bool) (parameters : List α)
  | loops (group : GroupId) (workplane : EntityId) (config : LoopConfig α)
  | mesh (group : GroupId) (running : Bool)

namespace Session
variable [Scalar α]

def looking (answer : τ → Answer α) (r : Except SketchError τ) : Except (SessionError α) (Answer α) :=
  match r with
  | .ok x => .ok (answer x)
  | .error e => .error (.sketch e)

def checking (answer : τ → Answer α) (r : Except ConstraintError τ) : Except (SessionError α) (Answer α) :=
  match r with
  | .ok x => .ok (answer x)
  | .error e => .error (.constraint e)

/-- The equations of a constraint; of one that is only measured none, unless measuring. -/
def equationsOf (s : Sketch α) (c : Constraint α) (measured : Bool) : Except (SessionError α) (Answer α) :=
  checking .equations (if measured then s.measuredEquations c else s.constraintEquations c)

def loopsIn (s : Sketch α) (group : GroupId) (workplane : EntityId) (config : LoopConfig α) :
    Except (SessionError α) (Answer α) :=
  match s.frame workplane with
  | .error e => .error (.sketch e)
  | .ok frame => match s.assemble group frame config with
    | .ok l => .ok (.loops l)
    | .error e => .error (.loops e)

def meshOf (m : Model α) (group : GroupId) (running : Bool) : Except (SessionError α) (Answer α) :=
  match m.sketch.group group with
  | .error e => .error (.sketch e)
  | .ok g => match if running then g.runningShell else g.shell with
    | none => .ok (.mesh none)
    | some shell => match m.kernel.tessellate shell with
      | .ok mesh => .ok (.mesh (some mesh))
      | .error e => .error (.kernel e)

def answer (m : Model α) : Query α → Except (SessionError α) (Answer α)
  | .validate group workplane kind => checking (fun _ => .done) (m.sketch.validate group workplane kind)
  | .tangentBetween a b => checking .kind (m.sketch.tangentBetween a b)
  | .equations id measured =>
    match m.sketch.constraint id with
    | .error e => .error (.sketch e)
    | .ok c => equationsOf m.sketch c measured
  | .compile c measured => equationsOf m.sketch c measured
  | .entityEquations group => looking .equations (m.sketch.entityEquations group)
  | .groupEquations group => looking .equations (m.sketch.groupEquations group)
  | .system group allDimsReference => looking .system (System.build m.sketch group allDimsReference)
  | .pointsAt point => looking .entities (m.sketch.pointsAt point)
  | .group id => looking .groupRecord (m.sketch.group id)
  | .constraint id => looking .constraintRecord (m.sketch.constraint id)
  | .request id => looking .requestRecord (m.sketch.request id)
  | .entity id => looking .entityRecord (m.sketch.entity id)
  | .hasEntity id => .ok (.flag (m.sketch.hasEntity id))
  | .entityParts id => looking .entityParts (m.sketch.entity id)
  | .position id => looking .vector (m.sketch.position id)
  | .orientation id => looking .rotation (m.sketch.orientation id)
  | .distance id => looking .number (m.sketch.distance id)
  | .radius id => looking .number (m.sketch.radius id)
  | .arcAngles id => looking (fun a => .numbers [a.start, a.finish, a.sweep]) (m.sketch.arcAngles id)
  | .centerOf id => looking (.entity ∘ some) (m.sketch.centerOf id)
  | .normalOf id => looking (.entity ∘ some) (m.sketch.normalOf id)
  | .plane id => looking (fun (n, p) => .plane n p) do
    let n ← m.sketch.planeNormalExpr id
    let p ← m.sketch.planePointExpr id
    return (n.eval m.sketch.valueOf, p.eval m.sketch.valueOf)
  | .frame id => looking .frame (m.sketch.frame id)
  | .param id => looking .number (m.sketch.param id)
  | .valueOf id => .ok (.number (m.sketch.valueOf id))
  | .derived group source role copy => .ok (.entity (m.sketch.derivedEntity? group source role copy))
  | .pieces id => looking .pieces (m.sketch.pieces id)
  | .parametric id reverse parameters => looking (.curve · parameters) (m.sketch.parametric id reverse)
  | .loops group workplane config => loopsIn m.sketch group workplane config
  | .mesh group running => meshOf m group running

def changedSince (s : Session α) (group : GroupId) : Option Bool × Session α :=
  let now := s.sketch.fingerprint group
  ((s.fingerprints.lookup group).map fun old => !old.same now,
    { s with fingerprints := (group, now) :: s.fingerprints })

end Session
end Drafting
