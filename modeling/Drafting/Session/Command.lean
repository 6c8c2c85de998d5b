import Drafting.Session.Basic
/-! The changes a session can make, as data, and what each of them does. -/
namespace Drafting

inductive GroupChange (α : Type) where
  | source (g : Option GroupId)
  | after (g : Option GroupId)
  | workplane (w : Option EntityId)
  | combine (c : CombineAs)
  | visible (b : Bool)
  | suppress (b : Bool)
  | relaxConstraints (b : Bool)
  | allowRedundant (b : Bool)
  | allDimsReference (b : Bool)
  | kind (k : GroupKind α)
  | name (s : String)

def GroupChange.apply (g : Group α) : GroupChange α → Group α
  | source id => { g with source := id }
  | after id => { g with after := id }
  | workplane w => { g with workplane := w }
  | combine c => { g with combine := c }
  | visible b => { g with visible := b }
  | suppress b => { g with suppress := b }
  | relaxConstraints b => { g with relaxConstraints := b }
  | allowRedundant b => { g with allowRedundant := b }
  | allDimsReference b => { g with allDimsReference := b }
  | kind k => { g with kind := k }
  | name s => { g with name := s }

inductive Command (α : Type) where
  | addGroup (name : String) (kind : GroupKind α) (source : Option GroupId)
  | changeGroup (group : GroupId) (changes : List (GroupChange α))
  | markDirty (group : GroupId)
  | addRequest (group : GroupId) (kind : RequestKind) (workplane : Option EntityId) (construction : Bool)
  | addPoint (group : GroupId) (workplane : Option EntityId) (place : Vec3 α)
  | addLine (group : GroupId) (workplane : Option EntityId) (a b : Vec3 α)
  | addCircle (group : GroupId) (workplane : Option EntityId) (center : Vec3 α) (radius : α)
  | addArc (group : GroupId) (workplane : Option EntityId) (center start finish : Vec3 α)
  | addCubic (group : GroupId) (workplane : Option EntityId) (p0 p1 p2 p3 : Vec3 α)
  | addWorkplane (group : GroupId) (origin : Vec3 α) (orientation : Quat α)
  | addConstraint (group : GroupId) (workplane : Option EntityId) (kind : ConstraintKind α)
      (reference : Bool)
  | addTangent (group : GroupId) (workplane : Option EntityId) (a b : EntityId)
  | remeasure (constraint : ConstraintId)
  | improveGuess (constraint : ConstraintId)
  | setValue (constraint : ConstraintId) (value : α)
  | deleteConstraint (constraint : ConstraintId)
  | deleteRequest (request : RequestId)
  | setConstruction (request : RequestId) (construction : Bool)
  | replacePoint (old new : EntityId)
  | removeConstraintsFor (point : EntityId)
  | detachPoint (point : EntityId)
  | prune (group : GroupId)
  | forcePoint (point : EntityId) (place : Vec3 α)
  | forceNormal (normal : EntityId) (orientation : Quat α)
  | forceDistance (distance : EntityId) (value : α)
  | setParam (param : ParamId) (value : α)
  | joinIfCoincident (point : EntityId)
  | roundCorner (point : EntityId) (options : RoundingOptions α)
  | split (selection : SplitSelection) (hint : Vec3 α)
  | solve (group : GroupId) (config : SolverConfig α)
  | regenerateAll
  | regenerateFrom (group : GroupId)
  | importPart (name : String) (triangles : List (Triangle α))
  | withoutKernel
  | snapshot (name : String)
  | restore (name : String)
  | reset

namespace Session

abbrev Work (α : Type) := ExceptT (SessionError α) (StateM (Session α))

namespace Work

def edit (cause : ε → SessionError α) (answer : τ → Answer α) (e : Edit α ε τ) : Work α (Answer α) := fun s =>
  match e s.sketch with
  | (.ok x, sketch) => (.ok (answer x), s.withSketch sketch)
  | (.error e, sketch) => (.error (cause e), s.withSketch sketch)

def drawing (answer : τ → Answer α) (e : Edit α SketchError τ) : Work α (Answer α) := edit .sketch answer e
def constraining (answer : τ → Answer α) (e : Edit α ConstraintError τ) : Work α (Answer α) :=
  edit .constraint answer e

def regenerating (r : Regen α (RegenReport α)) : Work α (Answer α) := fun s =>
  match r s.model with
  | (.ok report, model) => (.ok (.report report), { s with model })
  | (.error e, model) => (.error (.regeneration e), { s with model })

def update (answer : τ → Answer α) (f : Sketch α → τ × Sketch α) : Work α (Answer α) := fun s =>
  let (x, sketch) := f s.sketch
  (.ok (answer x), s.withSketch sketch)

def become (f : Sketch α → Sketch α) : Work α (Answer α) := update (fun _ => .done) fun s => ((), f s)

def importPart [Scalar α] (name : String) (triangles : List (Triangle α)) : Work α (Answer α) := fun s =>
  match s.model.kernel.importMesh (.ofTriangles triangles) with
  | .ok (shell, kernel) => (.ok .done, { s with model.kernel := kernel, parts := (name, shell) :: s.parts })
  | .error e => (.error (.kernel e), s)

end Work

variable [Scalar α]

open Work in
def perform (clock : Nat → Nat) : Command α → Work α (Answer α)
  | .addGroup name kind source => drawing .group (Sketch.addGroup name kind source)
  | .changeGroup group changes => drawing (fun _ => .done) do
    let g ← Edit.read (·.group group)
    modify (·.modifyGroup group fun _ => changes.foldl GroupChange.apply g)
  | .markDirty group => become (·.markDirty group)
  | .addRequest group kind workplane construction =>
    drawing .request (Sketch.addRequest group kind workplane construction)
  | .addPoint group workplane place => drawing .request (Sketch.addPoint group workplane place)
  | .addLine group workplane a b => drawing .request (Sketch.addLine group workplane a b)
  | .addCircle group workplane center radius =>
    drawing .request (Sketch.addCircle group workplane center radius)
  | .addArc group workplane center start finish =>
    drawing .request (Sketch.addArc group workplane center start finish)
  | .addCubic group workplane p0 p1 p2 p3 => drawing .request (Sketch.addCubic group workplane p0 p1 p2 p3)
  | .addWorkplane group origin orientation => drawing .request (Sketch.addWorkplane group origin orientation)
  | .addConstraint group workplane kind reference =>
    constraining .constraint (Sketch.addConstraint group workplane kind reference)
  | .addTangent group workplane a b => constraining .constraint do
    let kind ← Edit.read (·.tangentBetween a b)
    Sketch.addConstraint group workplane kind
  | .remeasure id => constraining .constraintRecord do
    Sketch.remeasure id
    Edit.read (·.constraint id)
  | .improveGuess id => constraining .numbers do
    Sketch.improveGuess id
    let c ← Edit.read (·.constraint id)
    return c.helpers.map (← get).valueOf
  | .setValue id value => drawing .flag (Sketch.setConstraintValue id value)
  | .deleteConstraint id => drawing (fun _ => .done) (Sketch.deleteConstraint id)
  | .deleteRequest id => drawing (fun _ => .done) (Sketch.deleteRequest id)
  | .setConstruction id construction => drawing (fun _ => .done) (Sketch.setConstruction id construction)
  | .replacePoint old new => update .count (·.replacePoint old new)
  | .removeConstraintsFor point => update .count (·.removeConstraintsFor point)
  | .detachPoint point => become (·.detachPoint point)
  | .prune group => update .constraints (·.prune group)
  | .forcePoint point place => drawing (fun _ => .done) (Sketch.forcePoint point place)
  | .forceNormal normal orientation => drawing (fun _ => .done) (Sketch.forceNormal normal orientation)
  | .forceDistance distance value => drawing (fun _ => .done) (Sketch.forceDistance distance value)
  | .setParam id value => drawing (fun _ => .done) (Sketch.setParam id value)
  | .joinIfCoincident point => drawing .flag (Sketch.joinIfCoincident point)
  | .roundCorner point options => edit .curve (.entity ∘ some) (Sketch.roundCorner point options)
  | .split selection hint => edit .curve .entities (Sketch.split selection hint)
  | .solve group config => update .outcome (·.solveGroup group config clock)
  | .regenerateAll => do regenerating (Regen.all (← get).config clock)
  | .regenerateFrom group => do regenerating (Regen.startingAt (← get).config clock group)
  | .importPart name triangles => importPart name triangles
  | .withoutKernel => do
    modify fun s => { s with model.kernel := .ofBackend .null s.config.kernel.revolveSegments }
    return .done
  | .snapshot name => do
    modify fun s => { s with snapshots := (name, s.sketch) :: s.snapshots }
    return .done
  | .restore name => do
    if let some sketch := (← get).snapshots.lookup name then
      modify (·.withSketch sketch)
    return .done
  | .reset => become fun _ => {}

end Session
end Drafting
