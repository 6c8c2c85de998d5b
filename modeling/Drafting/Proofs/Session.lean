import Drafting.Session.Command
import Drafting.Proofs.Pass
/-! Sessions that successful commands lead to. Whatever commands those are, every sketch a session holds,
in its model or in a snapshot, is intact. -/
namespace Drafting

namespace Regen
variable [Scalar α] {config : EngineConfig α} {clock : Nat → Nat} {s t : Sketch α}

theorem solveGroupIntact (h : s.Intact) (group : GroupId) (config : SolverConfig α) (clock : Nat → Nat) :
    (s.solveGroup group config clock).2.Intact := by
  refine Sketch.solveGroupKeeps h.toConsistent h (fun u outcome steps => ?_) config clock
  have kept := Sketch.Adjustments.intact steps h
  exact kept.modifyGroup group (fun _ same => same) fun g there => kept.slots group g there

theorem rebuiltIntact {id : GroupId} (h : s.Intact) (step : Rebuilt config clock s id t) : t.Intact := by
  obtain ⟨u, loops, shell, running, failures, made, same⟩ := step
  subst same
  have solved := solveGroupIntact (Sketch.generateGroupIntact h made) id config.solver clock
  exact solved.modifyGroup id (fun _ same => same) fun g there => solved.slots id g there

theorem passesKeep {P : Sketch α → Prop}
    (rebuilt : ∀ {s t : Sketch α} {id : GroupId}, P s → Rebuilt config clock s id t → P t) {p p' : Progress α}
    {order : List GroupId} (h : P s) (steps : Passes config clock s p order t p') : P t := by
  induction steps with
  | done => exact h
  | @visit s t _ p _ _ _ _ g _ first others ih =>
    refine ih ?_
    cases needed : isNeeded s g p with
    | true => exact rebuilt h (first.rebuilt needed)
    | false => exact first.skipped needed ▸ h

end Regen

/-- Whether a command draws, constrains, deletes or sets values, as against changing the settings of a group
directly, solving, regenerating, or exchanging the sketch for another one. -/
def Command.IsEdit : Command α → Prop
  | changeGroup .. | solve .. | regenerateAll | regenerateFrom _ | importPart .. | withoutKernel | snapshot _
  | restore _ | reset => False
  | _ => True

/-- Whether a command is an edit made of the basic ones: it does not add a group, nor only mark one or measure
a reference again. -/
def Command.IsMade : Command α → Prop
  | addGroup .. | markDirty _ | remeasure _ => False
  | c => c.IsEdit

def Command.Refits : Command α → Prop
  | changeGroup _ changes => ∃ kind, GroupChange.kind kind ∈ changes
  | _ => False

theorem GroupChange.allKeep {f : Group α → β} (each : ∀ g c, f (GroupChange.apply g c) = f g)
    (changes : List (GroupChange α)) (g : Group α) : f (changes.foldl GroupChange.apply g) = f g := by
  induction changes generalizing g with
  | nil => rfl
  | cons c rest ih => exact (ih _).trans (each g c)

namespace Session
open Attempt Edit Sketch
open Relation (ReflTransGen)
variable [Scalar α] {s t : Session α} {clock : Nat → Nat} {answer : Answer α}

omit [Scalar α] in
theorem editResult {cause : ε → SessionError α} {give : τ → Answer α} {e : Edit α ε τ} {r : Except (SessionError α) (Answer α)}
    (run : Work.edit cause give e s = (r, t)) : ∃ (made : Except ε τ) (u : Sketch α), e s.sketch = (made, u) ∧ t = s.withSketch u ∧
      ∀ answer, r = .ok answer → ∃ x, made = .ok x := by
  unfold Work.edit at run
  generalize e s.sketch = result at run ⊢
  rcases result with ⟨e | x, u⟩
  · cases run
    exact ⟨.error e, u, rfl, rfl, fun _ same => nomatch same⟩
  · cases run
    exact ⟨.ok x, u, rfl, rfl, fun _ _ => ⟨x, rfl⟩⟩

omit [Scalar α] in
theorem editOk {cause : ε → SessionError α} {give : τ → Answer α} {e : Edit α ε τ}
    (ok : Work.edit cause give e s = (.ok answer, t)) :
    ∃ x u, e s.sketch = (.ok x, u) ∧ t = s.withSketch u := by
  obtain ⟨made, u, run, same, succeeds⟩ := editResult ok
  obtain ⟨x, rfl⟩ := succeeds answer rfl
  exact ⟨x, u, run, same⟩

section Result
variable {r : Except (SessionError α) (Answer α)}

/-! What each of the commands besides the edits comes to, whether it succeeds or not. -/

omit [Scalar α] in
theorem regeneratingRun {work : Regen α (RegenReport α)} (run : Work.regenerating work s = (r, t)) :
    t = { s with model := t.model } ∧
      ((∃ report, work s.model = (.ok report, t.model) ∧ r = .ok (.report report)) ∨
        ∃ e, work s.model = (.error e, t.model) ∧ r = .error (.regeneration e)) := by
  unfold Work.regenerating at run
  generalize work s.model = result at run ⊢
  rcases result with ⟨e | report, m⟩
  · cases run
    exact ⟨rfl, .inr ⟨e, rfl, rfl⟩⟩
  · cases run
    exact ⟨rfl, .inl ⟨report, rfl, rfl⟩⟩

theorem importPartRun {name : String} {triangles : List (Triangle α)}
    (run : perform clock (.importPart name triangles) s = (r, t)) :
    (∃ shell kernel, s.model.kernel.importMesh (.ofTriangles triangles) = .ok (shell, kernel) ∧ r = .ok .done ∧
      t = { s with model.kernel := kernel, parts := (name, shell) :: s.parts }) ∨
    ∃ e, s.model.kernel.importMesh (.ofTriangles triangles) = .error e ∧ r = .error (.kernel e) ∧ t = s := by
  change Work.importPart name triangles s = _ at run
  unfold Work.importPart at run
  generalize s.model.kernel.importMesh (.ofTriangles triangles) = imported at run ⊢
  rcases imported with e | ⟨shell, kernel⟩
  · cases run
    exact .inr ⟨e, rfl, rfl, rfl⟩
  · cases run
    exact .inl ⟨shell, kernel, rfl, rfl, rfl⟩

theorem changeGroupRun {group : GroupId} {changes : List (GroupChange α)}
    (run : perform clock (.changeGroup group changes) s = (r, t)) :
    (∃ g, s.sketch.groups.get? group = some g ∧ r = .ok .done ∧
      t = s.withSketch (s.sketch.modifyGroup group fun _ => changes.foldl GroupChange.apply g)) ∨
    ∃ e, s.sketch.group group = .error e ∧ r = .error (.sketch e) ∧ t = s := by
  cases found : s.sketch.group group with
  | error e =>
    have failed : (Edit.read (·.group group) : Edit α SketchError _) s.sketch = (.error e, s.sketch) := by
      rw [runRead, found]
      rfl
    rw [perform, Work.drawing, Work.edit, runBind, failed] at run
    cases run
    exact .inr ⟨e, rfl, rfl, rfl⟩
  | ok g =>
    have read : (Edit.read (·.group group) : Edit α SketchError _) s.sketch = (.ok g, s.sketch) := readOk.mpr ⟨found, rfl⟩
    rw [perform, Work.drawing, Work.edit, runBind, read] at run
    cases run
    exact .inl ⟨g, groupFound.mp found, rfl, rfl⟩

theorem restoreRun {name : String} (run : perform clock (.restore name) s = (r, t)) : r = .ok .done ∧
    (s.snapshots.lookup name = none ∧ t = s ∨
      ∃ u, s.snapshots.lookup name = some u ∧ t = s.withSketch u) := by
  rw [perform, getBind] at run
  cases found : s.snapshots.lookup name with
  | none =>
    rw [found] at run
    cases run
    exact ⟨rfl, .inl ⟨rfl, rfl⟩⟩
  | some u =>
    rw [found] at run
    cases run
    exact ⟨rfl, .inr ⟨u, rfl, rfl⟩⟩

section Gradual
variable {R : Sketch α → Sketch α → Prop}

omit [Scalar α] in
theorem changedBy {cause : ε → SessionError α} {give : τ → Answer α} {e : Edit α ε τ} (h : Gradual R e)
    (run : Work.edit cause give e s = (r, t)) : ∃ u, ReflTransGen R s.sketch u ∧ t = s.withSketch u := by
  obtain ⟨made, u, run, same, _⟩ := editResult run
  have steps := h s.sketch
  rw [run] at steps
  exact ⟨u, steps, same⟩

omit [Scalar α] in
theorem updatedBy {give : τ → Answer α} {f : Sketch α → τ × Sketch α} (h : ∀ s, ReflTransGen R s (f s).2)
    (run : Work.update give f s = (r, t)) : ∃ u, ReflTransGen R s.sketch u ∧ t = s.withSketch u := by
  cases run
  exact ⟨_, h s.sketch, rfl⟩

omit [Scalar α] in
theorem becomeBy {f : Sketch α → Sketch α} (h : ∀ s, ReflTransGen R s (f s))
    (run : Work.become f s = (r, t)) : ∃ u, ReflTransGen R s.sketch u ∧ t = s.withSketch u :=
  updatedBy (f := fun s => ((), f s)) h run

theorem performGradual [Draws R] {c : Command α} (made : c.IsMade) (run : perform clock c s = (r, t)) :
    ∃ u, ReflTransGen R s.sketch u ∧ t = s.withSketch u := by
  cases c with
  | addRequest group kind workplane construction => exact changedBy (Draws.addRequest _ _ _ _) run
  | addPoint group workplane place => exact changedBy (addPointGradual _ _ _) run
  | addLine group workplane a b => exact changedBy (addLineGradual _ _ _ _) run
  | addCircle group workplane center radius => exact changedBy (addCircleGradual _ _ _ _) run
  | addArc group workplane center start finish => exact changedBy (addArcGradual _ _ _ _ _) run
  | addCubic group workplane p0 p1 p2 p3 => exact changedBy (addCubicGradual _ _ _ _ _ _) run
  | addWorkplane group origin orientation => exact changedBy (addWorkplaneGradual _ _ _) run
  | addConstraint group workplane kind reference => exact changedBy (Adjusts.addConstraint _ _ _ _) run
  | addTangent group workplane a b =>
    exact changedBy (gradualBind (gradualRead _) fun _ => Adjusts.addConstraint _ _ _ _) run
  | improveGuess id =>
    exact changedBy (gradualBind (improveGuessGradual Adjusts.setParam id) fun _ =>
      gradualBind (gradualRead _) fun _ => gradualGetBind fun _ => .refl) run
  | setValue id value => exact changedBy (Adjusts.setConstraintValue id value) run
  | deleteConstraint id => exact changedBy (Adjusts.deleteConstraint id) run
  | deleteRequest id => exact changedBy (deleteRequestGradual id) run
  | setConstruction id construction => exact changedBy (Draws.setConstruction id construction) run
  | replacePoint old new => exact updatedBy (fun s => Adjusts.replacePoint s old new) run
  | removeConstraintsFor point => exact updatedBy (fun s => removeConstraintsForGradual s point) run
  | detachPoint point => exact becomeBy (fun s => detachPointGradual s point) run
  | prune group => exact updatedBy (fun s => pruneGradual s group) run
  | forcePoint point place => exact changedBy (forcePointGradual point place) run
  | forceNormal normal orientation => exact changedBy (forceNormalGradual normal orientation) run
  | forceDistance distance value => exact changedBy (forceDistanceGradual distance value) run
  | setParam id value => exact changedBy (Adjusts.setParam id value) run
  | joinIfCoincident point => exact changedBy (joinIfCoincidentGradual point) run
  | roundCorner point options => exact changedBy (roundCornerGradual point options) run
  | split selection hint => exact changedBy (splitGradual selection hint) run
  | addGroup | markDirty | remeasure | changeGroup | solve | regenerateAll | regenerateFrom | importPart | withoutKernel
  | snapshot | restore | reset => exact made.elim

end Gradual

theorem performEditResult {c : Command α} (edit : c.IsEdit) (run : perform clock c s = (r, t)) :
    ∃ u, t = s.withSketch u ∧ (Changes s.sketch u ∨
      ∃ name kind source made, Sketch.addGroup name kind source s.sketch = (made, u) ∧
        ∀ answer, r = .ok answer → ∃ id, made = .ok id) := by
  suffices (∃ u, Changes s.sketch u ∧ t = s.withSketch u) ∨ ∃ name kind source made u,
      Sketch.addGroup name kind source s.sketch = (made, u) ∧ t = s.withSketch u ∧
        ∀ answer, r = .ok answer → ∃ id, made = .ok id by
    rcases this with ⟨u, steps, same⟩ | ⟨name, kind, source, made, u, added, same, succeeds⟩
    · exact ⟨u, same, .inl steps⟩
    · exact ⟨u, same, .inr ⟨name, kind, source, made, added, succeeds⟩⟩
  by_cases made : c.IsMade
  · exact .inl (performGradual made run)
  cases c with
  | addGroup name kind source =>
    obtain ⟨made, u, run, same, succeeds⟩ := editResult run
    exact .inr ⟨name, kind, source, made, u, run, same, succeeds⟩
  | markDirty group => exact .inl (becomeBy (fun s => .single (.adjusted (.dirty s group))) run)
  | remeasure id =>
    have steps : Gradual Adjustment (α := α) (ε := ConstraintError) (do
        Sketch.remeasure id
        Edit.read (·.constraint id)) := gradualBind (remeasureGradual id) fun _ => gradualRead _
    exact .inl (changedBy steps.changes run)
  | changeGroup | solve | regenerateAll | regenerateFrom | importPart | withoutKernel | snapshot | restore | reset =>
    exact edit.elim
  | _ => exact absurd trivial made

end Result

theorem performEdit {c : Command α} (edit : c.IsEdit) (ok : perform clock c s = (.ok answer, t)) :
    ∃ u, t = s.withSketch u ∧ (Changes s.sketch u ∨
      ∃ name kind source id, Sketch.addGroup name kind source s.sketch = (.ok id, u)) := by
  obtain ⟨u, same, steps | ⟨name, kind, source, made, added, succeeds⟩⟩ := performEditResult edit ok
  · exact ⟨u, same, .inl steps⟩
  · obtain ⟨id, rfl⟩ := succeeds answer rfl
    exact ⟨u, same, .inr ⟨name, kind, source, id, added⟩⟩

structure Intact (s : Session α) : Prop where
  sketch : s.sketch.Intact
  snapshots : ∀ n ∈ s.snapshots, n.2.Intact

omit [Scalar α] in
theorem startIntact (config : EngineConfig α) : (start config).Intact :=
  ⟨Sketch.startIntact, fun _ member => nomatch member⟩

omit [Scalar α] in
theorem changeGroupIntact {u : Sketch α} (h : u.Intact) {group : GroupId} {g : Group α}
    (found : u.groups.get? group = some g) (changes : List (GroupChange α)) :
    (u.modifyGroup group fun _ => changes.foldl GroupChange.apply g).Intact := by
  have keyed : g.id = group := h.groups.keyOfGet found
  have named := GroupChange.allKeep (f := Group.id) (fun _ c => by cases c <;> rfl) changes g
  have kept := GroupChange.allKeep (f := Group.remap) (fun _ c => by cases c <;> rfl) changes g
  exact h.modifyGroup group (fun _ _ => named.trans keyed) fun _ _ => kept ▸ h.slots group g found

/-- What a property of sketches outlasts besides the edits that are made of basic ones, whichever of the allowed
commands succeeds. -/
structure Outlasting (allowed : Command α → Prop) (P : Sketch α → Prop) : Prop where
  start : P {}
  marked : ∀ {s : Sketch α} (group : GroupId), P s → P (s.markDirty group)
  remeasured : ∀ {s : Sketch α} (id : ConstraintId), P s → P ((Sketch.remeasure id).attempt s)
  added : ∀ {s t : Sketch α} {name : String} {kind : GroupKind α} {source : Option GroupId} {id : GroupId},
    P s → Sketch.addGroup name kind source s = (.ok id, t) → P t
  changed : ∀ {s : Sketch α} {group : GroupId} {g : Group α} {list : List (GroupChange α)},
    P s → allowed (.changeGroup group list) → s.groups.get? group = some g →
      P (s.modifyGroup group fun _ => list.foldl GroupChange.apply g)
  solved : ∀ {s : Sketch α} (group : GroupId) (config : SolverConfig α) (clock : Nat → Nat),
    P s → P (s.solveGroup group config clock).2
  rebuilt : ∀ {config : EngineConfig α} {clock : Nat → Nat} {s t : Sketch α} {id : GroupId},
    P s → Regen.Rebuilt config clock s id t → P t

structure Lasting (allowed : Command α → Prop) (P : Sketch α → Prop) : Prop where
  start : P {}
  changes : ∀ {s t : Sketch α}, Changes s t → P s → P t
  added : ∀ {s t : Sketch α} {name : String} {kind : GroupKind α} {source : Option GroupId} {id : GroupId},
    P s → Sketch.addGroup name kind source s = (.ok id, t) → P t
  changed : ∀ {s : Sketch α} {group : GroupId} {g : Group α} {list : List (GroupChange α)},
    P s → allowed (.changeGroup group list) → s.groups.get? group = some g →
      P (s.modifyGroup group fun _ => list.foldl GroupChange.apply g)
  solved : ∀ {s : Sketch α} (group : GroupId) (config : SolverConfig α) (clock : Nat → Nat),
    P s → P (s.solveGroup group config clock).2
  rebuilt : ∀ {config : EngineConfig α} {clock : Nat → Nat} {s t : Sketch α} {id : GroupId},
    P s → Regen.Rebuilt config clock s id t → P t

abbrev Keeps (P : Sketch α → Prop) (s t : Sketch α) : Prop := P s → P t

omit [Scalar α] in
theorem keepsAll {P : Sketch α → Prop} {s t : Sketch α} (steps : ReflTransGen (Keeps P) s t) : Keeps P s t := by
  intro h
  induction steps with
  | refl => exact h
  | tail _ step ih => exact step ih

theorem Outlasting.markedAll {allowed : Command α → Prop} {P : Sketch α → Prop} (h : Outlasting allowed P)
    {s : Sketch α} (groups : List GroupId) (holds : P s) : P (groups.foldl markDirty s) := by
  induction groups generalizing s with
  | nil => exact holds
  | cons g rest ih => exact ih (h.marked g holds)

theorem Lasting.outlasting {allowed : Command α → Prop} {P : Sketch α → Prop} (h : Lasting allowed P) :
    Outlasting allowed P where
  start := h.start
  marked group := h.changes (.single (.adjusted (.dirty _ group)))
  remeasured id := h.changes ((remeasureGradual id).changes _)
  added := h.added
  changed := h.changed
  solved := h.solved
  rebuilt := h.rebuilt

theorem Lasting.draws {allowed : Command α → Prop} {P : Sketch α → Prop} (h : Lasting allowed P) : Draws (Keeps P) :=
  Draws.coarser (R := Change) fun steps => .single (h.changes steps)

def Throughout (P : Sketch α → Prop) (s : Session α) : Prop := P s.sketch ∧ ∀ n ∈ s.snapshots, P n.2

omit [Scalar α] in
theorem regeneratingLasting {P : Sketch α → Prop} {r : Regen α (RegenReport α)} (h : s.Throughout P)
    (kept : ∀ report m, r s.model = (.ok report, m) → P m.sketch)
    (ok : Work.regenerating r s = (.ok answer, t)) : t.Throughout P := by
  obtain ⟨same, ⟨report, run, _⟩ | ⟨_, _, failed⟩⟩ := regeneratingRun ok
  · rw [same]
    exact ⟨kept report t.model run, h.2⟩
  · cases failed

theorem performOutlasting {allowed : Command α → Prop} {P : Sketch α → Prop} [Draws (Keeps P)]
    (lasting : Outlasting allowed P) {c : Command α} (h : s.Throughout P) (may : allowed c)
    (ok : perform clock c s = (.ok answer, t)) : t.Throughout P := by
  by_cases made : c.IsMade
  · obtain ⟨u, steps, same⟩ := performGradual (R := Keeps P) made ok
    exact same ▸ ⟨keepsAll steps h.1, h.2⟩
  cases c with
  | addGroup name kind source =>
    obtain ⟨_, u, added, same⟩ := editOk ok
    exact same ▸ ⟨lasting.added h.1 added, h.2⟩
  | markDirty group =>
    cases ok
    exact ⟨lasting.marked group h.1, h.2⟩
  | remeasure id =>
    obtain ⟨_, u, run, same⟩ := editOk ok
    obtain ⟨_, v, measured, read⟩ := Attempt.bindOk.mp run
    obtain ⟨_, rfl⟩ := Edit.readOk.mp read
    have kept := lasting.remeasured id h.1
    rw [Edit.attempt, measured] at kept
    exact same ▸ ⟨kept, h.2⟩
  | changeGroup group changes =>
    obtain ⟨g, found, _, rfl⟩ | ⟨_, _, failed, _⟩ := changeGroupRun ok
    · exact ⟨lasting.changed h.1 may found, h.2⟩
    · cases failed
  | solve group config =>
    have same : t = s.withSketch (s.sketch.solveGroup group config clock).2 := by
      cases ok
      rfl
    exact same ▸ ⟨lasting.solved group config clock h.1, h.2⟩
  | regenerateAll =>
    refine regeneratingLasting h (fun report m run => ?_) ok
    obtain ⟨order, p, _, steps, _⟩ := Regen.allOk run
    exact Regen.passesKeep lasting.rebuilt (lasting.markedAll _ h.1) steps
  | regenerateFrom group =>
    refine regeneratingLasting h (fun report m run => ?_) ok
    obtain ⟨order, p, _, steps, _⟩ := Regen.startingAtOk run
    exact Regen.passesKeep lasting.rebuilt (lasting.marked group h.1) steps
  | importPart name triangles =>
    obtain ⟨shell, kernel, _, _, rfl⟩ | ⟨_, _, _, rfl⟩ := importPartRun ok
    · exact ⟨h.1, h.2⟩
    · exact h
  | withoutKernel =>
    cases ok
    exact ⟨h.1, h.2⟩
  | snapshot name =>
    cases ok
    refine ⟨h.1, ?_⟩
    intro n member
    rcases List.mem_cons.mp member with same | before
    · exact same ▸ h.1
    · exact h.2 n before
  | restore name =>
    obtain ⟨_, ⟨_, rfl⟩ | ⟨u, found, rfl⟩⟩ := restoreRun ok
    · exact h
    · obtain ⟨before, after, split, _⟩ := List.lookup_eq_some_iff.mp found
      exact ⟨h.2 (name, u) (by simp [split]), h.2⟩
  | reset =>
    cases ok
    exact ⟨lasting.start, h.2⟩
  | _ => exact absurd trivial made

theorem performLasting {allowed : Command α → Prop} {P : Sketch α → Prop} (lasting : Lasting allowed P)
    {c : Command α} (h : s.Throughout P) (may : allowed c) (ok : perform clock c s = (.ok answer, t)) :
    t.Throughout P := by
  have draws : Draws (Keeps P) := lasting.draws
  exact performOutlasting lasting.outlasting h may ok

theorem intactLasting : Lasting (α := α) (fun _ => True) Sketch.Intact where
  start := Sketch.startIntact
  changes steps h := Changes.intact steps h
  added h ok := addGroupIntact h ok
  changed h _ found := changeGroupIntact h found _
  solved group config clock h := Regen.solveGroupIntact h group config clock
  rebuilt h step := Regen.rebuiltIntact h step

theorem performIntact {c : Command α} (h : s.Intact) (ok : perform clock c s = (.ok answer, t)) : t.Intact := by
  obtain ⟨sketch, snapshots⟩ := performLasting intactLasting ⟨h.sketch, h.snapshots⟩ trivial ok
  exact ⟨sketch, snapshots⟩

inductive Reached (config : EngineConfig α) : Session α → Prop
  | start : Reached config (start config)
  | step {s t : Session α} {clock : Nat → Nat} {c : Command α} {answer : Answer α} (earlier : Reached config s)
      (ok : perform clock c s = (.ok answer, t)) : Reached config t

theorem performEdited (clock : Nat → Nat) {c : Command α} {cause : ε → SessionError α} {give : τ → Answer α}
    {e : Edit α ε τ} {x : τ} {u : Sketch α} (is : perform clock c = Work.edit cause give e) (run : e s.sketch = (.ok x, u)) :
    perform clock c s = (.ok (give x), s.withSketch u) := by
  rw [is]
  unfold Work.edit
  rw [run]

theorem Reached.edited {config : EngineConfig α} {c : Command α} {cause : ε → SessionError α} {give : τ → Answer α}
    {e : Edit α ε τ} {x : τ} {u : Sketch α} (earlier : Reached config s)
    (is : perform id c = Work.edit cause give e) (run : e s.sketch = (.ok x, u)) : Reached config (s.withSketch u) :=
  earlier.step (performEdited id is run)

/-- Sessions that successful commands lead to, each group having the kind it was added with. -/
inductive Fitted (config : EngineConfig α) : Session α → Prop
  | start : Fitted config (start config)
  | step {s t : Session α} {clock : Nat → Nat} {c : Command α} {answer : Answer α} (earlier : Fitted config s)
      (fitted : ¬ c.Refits) (ok : perform clock c s = (.ok answer, t)) : Fitted config t

theorem Fitted.reached {config : EngineConfig α} (h : Fitted config s) : Reached config s := by
  induction h with
  | start => exact .start
  | step _ _ ok ih => exact ih.step ok

theorem reachedIntact {config : EngineConfig α} (h : Reached config s) : s.Intact := by
  induction h with
  | start => exact startIntact config
  | step _ ok ih => exact performIntact ih ok

end Session
end Drafting
