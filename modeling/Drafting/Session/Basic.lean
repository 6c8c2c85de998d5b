import Drafting.Regeneration.Pass
import Drafting.Sketch.Rounding
import Drafting.Sketch.Splitting
/-! A session: one model under edit, with named snapshots of its sketch, named parts in its kernel, and
the fingerprints that were last asked for. -/
namespace Drafting

structure Session (α : Type) where
  model : Model α
  config : EngineConfig α
  snapshots : List (String × Sketch α) := []
  parts : List (String × ShellId) := []
  fingerprints : List (GroupId × Fingerprint α) := []

namespace Session

def start (config : EngineConfig α) : Session α := { model := ⟨{}, config.kernel.build⟩, config }

def sketch (s : Session α) : Sketch α := s.model.sketch
def withSketch (s : Session α) (sketch : Sketch α) : Session α := { s with model.sketch := sketch }

end Session

inductive SessionError (α : Type) where
  | sketch (cause : SketchError)
  | constraint (cause : ConstraintError)
  | curve (cause : CurveError)
  | loops (cause : LoopError α)
  | regeneration (cause : RegenError)
  | kernel (cause : KernelError)

inductive Answer (α : Type) where
  | done
  | flag (b : Bool)
  | count (n : Nat)
  | number (x : α)
  | numbers (xs : List α)
  | vector (v : Vec3 α)
  | rotation (q : Quat α)
  | frame (f : Frame α)
  | plane (normal point : Vec3 α)
  | group (id : GroupId)
  | request (id : RequestId)
  | constraint (id : ConstraintId)
  | entity (id : Option EntityId)
  | constraints (ids : List ConstraintId)
  | entities (ids : List EntityId)
  | kind (k : ConstraintKind α)
  | groupRecord (g : Group α)
  | requestRecord (r : Request)
  | constraintRecord (c : Constraint α)
  | entityRecord (e : Entity α)
  | entityParts (e : Entity α)
  | equations (qs : List (Equation α))
  | system (sys : System α)
  | outcome (o : SolveOutcome)
  | report (r : RegenReport α)
  | pieces (cs : List (Bezier α))
  | curve (c : Parametric α) (parameters : List α)
  | loops (l : LoopSet α)
  | mesh (m : Option (Mesh α))
  | changed (b : Option Bool)

end Drafting
