import Drafting.Proofs.Workplanes
/-! What a pass over all groups comes to. It stops at a group only where that has no source, or where
something it copies or draws upon lies in a workplane that is gone; whatever else goes wrong with a group is
recorded on it, and the pass goes on to the next one. -/
namespace Drafting

namespace Sketch
open Result
variable [Scalar α] {s t : Sketch α} {g : Group α} {c : Copies α} {cause : SketchError}

/-- What keeps a group from being made anew: it has no source, or what it copies or its own drawing lies in
what is no workplane. -/
inductive Blocked (s : Sketch α) (g : Group α) : SketchError → Prop
  | sourceless (derived : g.kind.isDerived = true) (none : g.source = none) : Blocked s g (.noSource g.id)
  | copying {k : GroupId} {e : Entity α} {w : EntityId} {cause : SketchError} (derived : g.kind.isDerived = true)
      (source : g.source = some k) (there : e ∈ (s.redrawn g).entities.toList) (ours : e.group = k)
      (placed : e.isA .point = true ∨ e.isA .normal = true) (lies : e.workplane = some w)
      (lost : (s.redrawn g).Lost w cause) : Blocked s g cause
  | drawing {w : EntityId} {cause : SketchError} (flat : g.kind.isSolid = false) (lies : g.workplane = some w)
      (lost : (s.redrawn g).Lost w cause) : Blocked s g cause

omit [Scalar α] in
theorem Lost.congr {w : EntityId} (lost : s.Lost w cause) (same : t.entities = s.entities) : t.Lost w cause := by
  cases lost with
  | gone missing => exact .gone (same ▸ missing)
  | other found differs => exact .other (same ▸ found) differs

theorem positionFails {id : EntityId} : s.position id = .error cause ↔ s.pointExpr id = .error cause := by
  rw [position, bindError, or_iff_left]
  intro mapped
  obtain ⟨_, _, last⟩ := mapped
  cases last

theorem orientationFails {id : EntityId} : s.orientation id = .error cause ↔ s.normalExpr id = .error cause := by
  rw [orientation, bindError, or_iff_left]
  intro mapped
  obtain ⟨_, _, last⟩ := mapped
  cases last

theorem distanceThere {e : Entity α} (found : s.entities.get? e.id = some e) (is : e.isA .distance = true) :
    s.distance e.id ≠ .error cause := by
  intro failed
  rcases bindError.mp failed with early | ⟨_, _, last⟩
  · rcases bindError.mp early with missing | ⟨e', read, other⟩
    · cases (entityFound.mpr found).symm.trans missing
    · obtain rfl := Option.some.inj (found.symm.trans (entityFound.mp read))
      cases kind : e.kind with
      | distance | distanceCopy =>
        rw [kind] at other
        cases other
      | _ => simp [Entity.isA, kind, EntityKind.isA, EntityKind.classes] at is
  · cases last

theorem redrawnPoint (h : s.Furnished) (found : s.groups.get? g.id = some g) {e : Entity α}
    (there : (s.redrawn g).entities.get? e.id = some e) (point : e.isA .point = true) :
    (s.redrawn g).position e.id = .error cause ↔ ∃ w, e.workplane = some w ∧ (s.redrawn g).Lost w cause := by
  have entities := baredEntities h.toIntact g
  rw [positionFails, pointOfEntities entities.symm, pointFails (baredIntact h.toIntact found)
    (baredGrounded h.toIntact h.grounded found) (entities ▸ there) point]
  exact exists_congr fun w => and_congr_right fun _ => ⟨(·.congr entities.symm), (·.congr entities)⟩

theorem redrawnNormal (h : s.Furnished) (found : s.groups.get? g.id = some g) {e : Entity α}
    (there : (s.redrawn g).entities.get? e.id = some e) (normal : e.isA .normal = true) :
    (s.redrawn g).orientation e.id = .error cause ↔ ∃ w, e.workplane = some w ∧ (s.redrawn g).Lost w cause := by
  have entities := baredEntities h.toIntact g
  rw [orientationFails, normalOfEntities entities.symm, normalFails (baredIntact h.toIntact found)
    (baredGrounded h.toIntact h.grounded found) (entities ▸ there) normal]
  exact exists_congr fun w => and_congr_right fun _ => ⟨(·.congr entities.symm), (·.congr entities)⟩

theorem copiedFails (h : s.Furnished) (found : s.groups.get? g.id = some g) (failed : s.copied g = .error cause) :
    Blocked s g cause := by
  unfold copied at failed
  cases solid : g.kind.isSolid with
  | false =>
    rw [solid] at failed
    cases failed
  | true =>
    rw [solid] at failed
    rcases bindError.mp failed with unread | ⟨sources, read, rest⟩
    · unfold sources at unread
      cases derived : g.kind.isDerived with
      | false =>
        rw [derived] at unread
        cases unread
      | true =>
        rw [derived] at unread
        cases source : g.source with
        | none =>
          rw [source] at unread
          cases unread
          exact .sourceless derived source
        | some k =>
          rw [source] at unread
          cases unread
    · have stopped : Copying.all (s.redrawn g) g sources { remap := g.remap } = .error cause :=
        (bindError.mp rest).resolve_right fun ⟨_, _, last⟩ => nomatch last
      have here := sourceThere (redrawnConsistent h.entities g) read
      refine Copying.stopsAll (E := Blocked s g) (fun e member => ?_) _ _ stopped
      rcases sourcesRead read with ⟨_, rfl⟩ | ⟨derived, k, source, rfl⟩
      · exact nomatch member
      obtain ⟨there, ours⟩ := List.mem_filter.mp member
      simp only [Bool.and_eq_true, beq_iff_eq, Bool.not_eq_true'] at ours
      constructor
      · intro point cause unplaced
        obtain ⟨w, lies, lost⟩ := (redrawnPoint h found (here e member) point).mp unplaced
        exact .copying derived source there ours.1 (.inl point) lies lost
      · intro normal cause unplaced
        obtain ⟨w, lies, lost⟩ := (redrawnNormal h found (here e member) normal).mp unplaced
        exact .copying derived source there ours.1 (.inr normal) lies lost
      · intro is cause failed
        exact absurd failed (distanceThere (here e member) is)
      · exact ours.2

omit [Scalar α] in
theorem solidOfDerived {k : GroupKind α} (derived : k.isDerived = true) : k.isSolid = true := by
  cases k <;> first | rfl | exact nomatch derived

omit [Scalar α] in
theorem castsSome [Scalar α] {k : GroupKind α} (derived : k.isDerived = true) : ∃ cast, cast ∈ k.casts := by
  have several (sides : Sides) (copies : Nat) (skip : Bool) : ∃ cast : RemapRole × Nat,
      cast ∈ (sides.multiples (α := α) copies skip).zipIdx.map fun step => (.copy, step.2) := by
    refine List.exists_mem_of_length_pos ?_
    simp [Sides.multiples]
  unfold GroupKind.casts
  split
  · exact nomatch derived
  · exact nomatch derived
  · exact nomatch derived
  · exact ⟨_, List.mem_cons_self⟩
  · exact ⟨_, List.mem_cons_self⟩
  · exact ⟨_, List.mem_cons_self⟩
  · exact several _ _ _
  · exact several _ _ _

theorem copiedPlaced (h : s.Furnished) (found : s.groups.get? g.id = some g) (ok : s.copied g = .ok c) {k : GroupId}
    (derived : g.kind.isDerived = true) (source : g.source = some k) {e : Entity α}
    (there : e ∈ (s.redrawn g).entities.toList) (ours : e.group = k) (whole : e.isA .face = false) :
    (s.redrawn g).Placed e := by
  obtain ⟨sources, read, _, kept⟩ := copiedCasts h.toIntact h.grounded found ok (solidOfDerived derived)
  obtain ⟨cast, way⟩ := castsSome (α := α) derived
  rcases sourcesRead read with ⟨plain, _⟩ | ⟨_, k', source', rfl⟩
  · exact nomatch plain.symm.trans derived
  · obtain rfl := Option.some.inj (source.symm.trans source')
    exact (kept e (List.mem_filter.mpr ⟨there, by simp [ours, whole]⟩) cast way).1

theorem blockedCopied (h : s.Furnished) (found : s.groups.get? g.id = some g) (ok : s.copied g = .ok c)
    (blocked : s.Blocked g cause) :
    ∃ w, g.kind.isSolid = false ∧ g.workplane = some w ∧ (s.redrawn g).Lost w cause := by
  cases blocked with
  | sourceless derived none =>
    obtain ⟨sources, read, _⟩ := copiedCasts h.toIntact h.grounded found ok (solidOfDerived derived)
    rcases sourcesRead read with ⟨plain, _⟩ | ⟨_, k, source, _⟩
    · exact nomatch plain.symm.trans derived
    · exact nomatch none.symm.trans source
  | @copying k e w _ derived source there ours placed lies lost =>
    have here := (redrawnConsistent h.entities g).getOfMem there
    rcases placed with point | normal
    · obtain ⟨p, stands⟩ := (copiedPlaced h found ok derived source there ours (noFace point (.inl rfl))).point point
      exact nomatch stands.symm.trans ((redrawnPoint h found here point).mpr ⟨w, lies, lost⟩)
    · obtain ⟨q, stands⟩ := (copiedPlaced h found ok derived source there ours (noFace normal (.inr rfl))).normal normal
      exact nomatch stands.symm.trans ((redrawnNormal h found here normal).mpr ⟨w, lies, lost⟩)
  | drawing flat lies lost => exact ⟨_, flat, lies, lost⟩

end Sketch

namespace Regen
open Sketch (Blocked Furnished)
variable [Scalar α] {m m' : Model α} {g : Group α} {id : GroupId} {prior : Option ShellId} {f : GroupFailure α}

inductive Problem (config : LoopConfig α) (outcome : SolveOutcome) (s : Sketch α) (g : Group α) (k : Kernel α)
    (prior : Option ShellId) : GroupFailure α → Prop
  | unsolved (bad : outcome.status.isAcceptable = false) : Problem config outcome s g k prior (.solve outcome.status)
  | unclosed {w : EntityId} {frame : Frame α} {e : LoopError α} (flat : g.kind.isSolid = false)
      (lies : g.workplane = some w) (placed : s.frame w = .ok frame) (failed : s.assemble g.id frame config = .error e) :
      Problem config outcome s g k prior (.loops e)
  | unbuilt {e : KernelError} (solid : g.kind.isSolid = true) (active : g.suppress = false)
      (failed : (s.buildShell g k).1 = .error e) : Problem config outcome s g k prior (.kernel e)
  | unjoined {before new : ShellId} {e : KernelError} (solid : g.kind.isSolid = true) (active : g.suppress = false)
      (built : (s.buildShell g k).1 = .ok new) (earlier : prior = some before)
      (failed : (Solids.join before new g.combine (s.buildShell g k).2).1 = .error e) :
      Problem config outcome s g k prior (.kernel e)

theorem loopsEnds (config : LoopConfig α) (g : Group α) (m : Model α) : loops config g m =
    match g.kind.isSolid, g.workplane with
    | false, some w => match m.sketch.frame w with
      | .ok frame => (.ok (outcomeOf .loops (m.sketch.assemble g.id frame config)), m)
      | .error e => (.error (.sketch e), m)
    | _, _ => (.ok (none, []), m) := by
  cases lies : g.workplane with
  | none =>
    rw [loopsSkipped config (.inl lies)]
    cases g.kind.isSolid <;> rfl
  | some w =>
    cases solid : g.kind.isSolid with
    | true =>
      rw [loopsSkipped config (.inr solid)]
    | false =>
      unfold loops
      simp only [lies, solid, Bool.false_eq_true, if_false]
      rw [Attempt.runBind, readRun]
      cases m.sketch.frame w <;> rfl

theorem shellEnds (g : Group α) (m : Model α) : shell g m =
    if g.kind.isSolid = true ∧ g.suppress = false then
      (.ok (outcomeOf .kernel (m.sketch.buildShell g m.kernel).1), ⟨m.sketch, (m.sketch.buildShell g m.kernel).2⟩)
    else (.ok (none, []), m) := by
  unfold shell
  cases g.kind.isSolid with
  | false => rfl
  | true => cases g.suppress <;> rfl

theorem runningEnds (g : Group α) (prior shell : Option ShellId) (m : Model α) : ∃ after bad m',
    running g prior shell m = (.ok (after, bad), m') ∧ ∀ f, f ∈ bad ↔ g.kind.isSolid = true ∧ ∃ before new e,
      prior = some before ∧ shell = some new ∧ (Solids.join before new g.combine m.kernel).1 = .error e ∧
        f = .kernel e := by
  unfold running
  cases g.kind.isSolid with
  | false => exact ⟨none, [], m, rfl, by simp⟩
  | true =>
    simp only [Bool.not_true, Bool.false_eq_true, if_false]
    cases shell with
    | none => exact ⟨prior, [], m, by cases prior <;> rfl, by simp⟩
    | some new =>
      cases prior with
      | none => exact ⟨some new, [], m, rfl, by simp⟩
      | some before =>
        dsimp only
        rw [Attempt.runBind, solids]
        rcases result : Solids.join before new g.combine m.kernel with ⟨e | s, k⟩
        · refine ⟨some before, [.kernel e], ⟨m.sketch, k⟩, rfl, fun f => ?_⟩
          simp [result]
        · refine ⟨some s, [], ⟨m.sketch, k⟩, rfl, fun f => ?_⟩
          simp [result]

theorem loopsNotes {config : LoopConfig α} {set : Option (LoopSet α)} {bad : List (GroupFailure α)}
    (run : loops config g m = (.ok (set, bad), m')) : m' = m ∧
      (∀ w, g.kind.isSolid = false → g.workplane = some w → ∃ frame, m.sketch.frame w = .ok frame) ∧
      ∀ f, f ∈ bad ↔ g.kind.isSolid = false ∧ ∃ w frame e, g.workplane = some w ∧ m.sketch.frame w = .ok frame ∧
        m.sketch.assemble g.id frame config = .error e ∧ f = .loops e := by
  rw [loopsEnds] at run
  cases solid : g.kind.isSolid with
  | true =>
    rw [solid] at run
    cases run
    exact ⟨rfl, nofun, by simp⟩
  | false =>
    cases lies : g.workplane with
    | none =>
      rw [solid, lies] at run
      cases run
      exact ⟨rfl, nofun, by simp⟩
    | some w =>
      rw [solid, lies] at run
      dsimp only at run
      cases placed : m.sketch.frame w with
      | error e =>
        rw [placed] at run
        cases run
      | ok frame =>
        rw [placed] at run
        dsimp only at run
        have there : ∀ w', false = false → some w = some w' → ∃ frame, m.sketch.frame w' = .ok frame := by
          intro w' _ same
          cases same
          exact ⟨frame, placed⟩
        cases assembled : m.sketch.assemble g.id frame config with
        | ok set =>
          rw [assembled] at run
          cases run
          exact ⟨rfl, there, by simp [placed, assembled]⟩
        | error e =>
          rw [assembled] at run
          cases run
          exact ⟨rfl, there, by simp [placed, assembled]⟩

theorem shellNotes {made : Option ShellId} {bad : List (GroupFailure α)} (run : shell g m = (.ok (made, bad), m')) :
    m'.sketch = m.sketch ∧ (g.kind.isSolid = true → g.suppress = false → m'.kernel = (m.sketch.buildShell g m.kernel).2) ∧
      (∀ f, f ∈ bad ↔ g.kind.isSolid = true ∧ g.suppress = false ∧
        ∃ e, (m.sketch.buildShell g m.kernel).1 = .error e ∧ f = .kernel e) ∧
      ∀ new, made = some new ↔ g.kind.isSolid = true ∧ g.suppress = false ∧
        (m.sketch.buildShell g m.kernel).1 = .ok new := by
  rw [shellEnds] at run
  split at run
  · rename_i wanted
    rcases result : m.sketch.buildShell g m.kernel with ⟨e | s, k⟩
    · rw [result] at run
      cases run
      exact ⟨rfl, fun _ _ => rfl, by simp [wanted], by simp⟩
    · rw [result] at run
      cases run
      exact ⟨rfl, fun _ _ => rfl, by simp, by simp [wanted]⟩
  · rename_i unwanted
    cases run
    refine ⟨rfl, fun solid active => absurd ⟨solid, active⟩ unwanted, fun f => ⟨nofun, ?_⟩, fun new => ⟨nofun, ?_⟩⟩
    · exact fun ⟨solid, active, _⟩ => absurd ⟨solid, active⟩ unwanted
    · exact fun ⟨solid, active, _⟩ => absurd ⟨solid, active⟩ unwanted

theorem regenerateGroupNotes {config : EngineConfig α} {clock : Nat → Nat} {u v : Sketch α} {outcome : SolveOutcome}
    (ok : regenerateGroup config clock id prior m = (.ok (), m')) (made : Sketch.generateGroup id m.sketch = (.ok (), u))
    (solved : u.solveGroup id config.solver clock = (outcome, v)) (consistent : v.groups.Consistent) : ∃ g now,
      v.groups.get? id = some g ∧ m'.sketch.groups.get? id = some now ∧
        (∀ w, g.kind.isSolid = false → g.workplane = some w → ∃ frame, v.frame w = .ok frame) ∧
        ∀ f, f ∈ now.failures ↔ Problem config.loops outcome v g m.kernel prior f := by
  obtain ⟨_, m₁, first, ok⟩ := Attempt.bindOk.mp ok
  obtain ⟨outcome', m₂, second, ok⟩ := Attempt.bindOk.mp ok
  obtain ⟨g, m₃, there, ok⟩ := Attempt.bindOk.mp ok
  obtain ⟨⟨set, badLoops⟩, m₄, assembled, ok⟩ := Attempt.bindOk.mp ok
  obtain ⟨⟨shell, badShell⟩, m₅, built, ok⟩ := Attempt.bindOk.mp ok
  obtain ⟨⟨running, badJoin⟩, m₆, joined, ok⟩ := Attempt.bindOk.mp ok
  obtain ⟨_, m₇, recorded, ok⟩ := Attempt.bindOk.mp ok
  have released := keptBy (keepsReleases _) ok
  have after := Attempt.modifyOk.mp recorded
  cases (editRun made).symm.trans first
  have next : solve config.solver clock id ⟨u, m.kernel⟩ = (.ok outcome, ⟨v, m.kernel⟩) := by
    unfold solve
    rw [solved]
  cases next.symm.trans second
  obtain ⟨read, rfl⟩ := readOk there
  have found := Sketch.groupFound.mp read
  obtain ⟨rfl, placed, noLoops⟩ := loopsNotes assembled
  obtain ⟨sketch, kernel, noShell, shells⟩ := shellNotes built
  obtain ⟨_, _, _, joins, noJoin⟩ := runningEnds g prior shell m₅
  cases joins.symm.trans joined
  have same : m₆.sketch = v := (keptBy (keepsRunning g prior shell) joined).trans sketch
  let unsolved : List (GroupFailure α) := if outcome.status.isAcceptable then [] else [.solve outcome.status]
  let failures := unsolved ++ badLoops ++ badShell ++ badJoin
  let record (g : Group α) : Group α := { g with
    loops := set, shell, failures, runningShell := running, clean := failures.isEmpty,
    fingerprint := some (v.fingerprint id) }
  have left : m'.sketch.groups.get? id = (v.modifyGroup id record).groups.get? id := by
    rw [released, after, same]
  have there : (v.modifyGroup id record).groups.get? id = some (record g) := by
    refine (consistent.getModify (f := record) id (fun _ same => same) id).trans ?_
    rw [if_pos rfl, found]
    rfl
  refine ⟨g, record g, found, left.trans there, placed, fun f => ?_⟩
  have status : f ∈ unsolved ↔ outcome.status.isAcceptable = false ∧ f = .solve outcome.status := by
    unfold unsolved
    cases outcome.status.isAcceptable <;> simp
  change f ∈ unsolved ++ badLoops ++ badShell ++ badJoin ↔ _
  rw [List.mem_append, List.mem_append, List.mem_append, status, noLoops, noShell, noJoin]
  constructor
  · intro noted
    rcases noted with ((⟨bad, same⟩ | ⟨flat, w, frame, e, lies, placed, failed, same⟩) |
      ⟨solid, active, e, failed, same⟩) | ⟨solid, before, new, e, earlier, built, failed, same⟩
    · exact same ▸ .unsolved bad
    · exact same ▸ .unclosed flat lies placed failed
    · exact same ▸ .unbuilt solid active failed
    · obtain ⟨_, active, made⟩ := (shells new).mp built
      exact same ▸ .unjoined solid active made earlier (kernel solid active ▸ failed)
  · intro problem
    cases problem with
    | unsolved bad => exact .inl (.inl (.inl ⟨bad, rfl⟩))
    | unclosed flat lies placed failed => exact .inl (.inl (.inr ⟨flat, _, _, _, lies, placed, failed, rfl⟩))
    | unbuilt solid active failed => exact .inl (.inr ⟨solid, active, _, failed, rfl⟩)
    | unjoined solid active made earlier failed =>
      exact .inr ⟨solid, _, _, _, earlier, (shells _).mpr ⟨solid, active, made⟩, (kernel solid active).symm ▸ failed, rfl⟩

omit [Scalar α] in
theorem releasesEnd (shells : List ShellId) (m : Model α) : ∃ m', (shells.forM release : Regen α Unit) m = (.ok (), m') := by
  induction shells generalizing m with
  | nil => exact ⟨m, rfl⟩
  | cons s rest ih =>
    obtain ⟨m₁, first⟩ : ∃ m₁, (release s : Regen α Unit) m = (.ok (), m₁) := ⟨_, rfl⟩
    obtain ⟨m₂, others⟩ := ih m₁
    rw [List.forM_eq_forM] at others ⊢
    rw [List.forM_cons]
    exact ⟨m₂, Attempt.bindOk.mpr ⟨(), m₁, first, others⟩⟩

section Solved
variable {config : EngineConfig α} {clock : Nat → Nat} {s u v : Sketch α} {outcome : SolveOutcome}
  (h : s.Furnished) (found : s.groups.get? id = some g) (made : Sketch.generateGroup id s = (.ok (), u))
  (solved : u.solveGroup id config.solver clock = (outcome, v))
include h found made solved

theorem frameFails {w : EntityId} {cause : SketchError} (flat : g.kind.isSolid = false) :
    v.frame w = .error cause ↔ (s.redrawn g).Lost w cause := by
  have drawn := Sketch.generateGroupFurnished h made
  have after := Sketch.solveGroupFurnished drawn id config.solver clock
  have kept := Sketch.solveGroupEntities drawn.toConsistent id config.solver clock
  rw [solved] at after kept
  obtain ⟨g₁, c, found₁, _, copied, rfl⟩ := Sketch.generateGroupOk h.groups made
  obtain rfl := Option.some.inj (found.symm.trans found₁)
  have entities : v.entities = (s.redrawn g).entities := by
    rw [kept, (Sketch.copiedFits h.entities copied).plain flat]
    exact Sketch.baredEntities h.toIntact g
  rw [Sketch.frame, Result.bindError, Sketch.planeFails after.toIntact after.grounded]
  constructor
  · intro failed
    exact (failed.resolve_right fun ⟨_, _, last⟩ => nomatch last).congr entities.symm
  · exact fun lost => .inl (lost.congr entities)

theorem solvedGroup : ∃ g', v.groups.get? id = some g' ∧ g'.kind = g.kind ∧ g'.workplane = g.workplane := by
  have lasting : Group.Lasting fun g : Group α => (g.kind, g.workplane) := ⟨fun _ _ => rfl, fun _ _ => rfl, fun _ _ => rfl⟩
  have drawn := Sketch.generateGroupSteady lasting h.toConsistent id
  rw [made] at drawn
  have settled := Sketch.solveGroupSteady lasting drawn.consistent id config.solver clock
  rw [solved] at settled
  obtain ⟨g', there, same⟩ := (drawn.trans settled).kept found
  exact ⟨g', there, congrArg Prod.fst same, congrArg Prod.snd same⟩

end Solved

theorem regenerateGroupFails {config : EngineConfig α} {clock : Nat → Nat} {e : RegenError} (h : m.sketch.Furnished)
    (found : m.sketch.groups.get? id = some g) (failed : regenerateGroup config clock id prior m = (.error e, m')) :
    ∃ cause, e = .sketch cause ∧ Blocked m.sketch g cause := by
  have named : g.id = id := h.groups.keyOfGet found
  rcases made : Sketch.generateGroup id m.sketch with ⟨cause | ⟨⟩, u⟩
  · -- The group could not be drawn.
    have stops := editStops made
    rcases Attempt.bindError.mp failed with early | ⟨_, _, first, _⟩
    · cases stops.symm.trans early
      refine ⟨cause, rfl, Sketch.copiedFails h (named ▸ found) ?_⟩
      rw [Sketch.generateGroupRun found named] at made
      cases copied : m.sketch.copied g with
      | error cause' =>
        rw [copied] at made
        cases made
        rfl
      | ok c =>
        rw [copied] at made
        cases made
    · cases stops.symm.trans first
  have start := editRun made
  rcases solved : u.solveGroup id config.solver clock with ⟨outcome, v⟩
  have next : solve config.solver clock id ⟨u, m.kernel⟩ = (.ok outcome, ⟨v, m.kernel⟩) := by
    unfold solve
    rw [solved]
  obtain ⟨g', there, kind, lies⟩ := solvedGroup h found made solved
  rcases Attempt.bindError.mp failed with early | ⟨_, m₁, first, failed⟩
  · cases start.symm.trans early
  cases start.symm.trans first
  rcases Attempt.bindError.mp failed with early | ⟨_, m₂, second, failed⟩
  · cases next.symm.trans early
  cases next.symm.trans second
  rcases Attempt.bindError.mp failed with early | ⟨_, m₃, third, failed⟩
  · exact nomatch there.symm.trans (readGroupError early).1
  obtain ⟨read, rfl⟩ := readOk third
  obtain rfl := Option.some.inj (there.symm.trans (Sketch.groupFound.mp read))
  rcases Attempt.bindError.mp failed with early | ⟨⟨_, _⟩, m₄, _, failed⟩
  · rw [loopsEnds] at early
    split at early
    · rename_i w flat drawn
      split at early
      · cases early
      · rename_i cause unplaced
        cases early
        have lost := (frameFails h found made solved (kind ▸ flat)).mp unplaced
        exact ⟨cause, rfl, .drawing (kind ▸ flat) (lies ▸ drawn) lost⟩
    · cases early
  rcases Attempt.bindError.mp failed with early | ⟨⟨shell, _⟩, m₅, _, failed⟩
  · rw [shellEnds] at early
    split at early <;> cases early
  rcases Attempt.bindError.mp failed with early | ⟨⟨_, _⟩, m₆, _, failed⟩
  · obtain ⟨_, _, _, joins, _⟩ := runningEnds g' prior shell m₅
    cases joins.symm.trans early
  rcases Attempt.bindError.mp failed with early | ⟨_, m₇, _, failed⟩
  · cases early
  obtain ⟨_, released⟩ := releasesEnd (g'.shell.toList ++ g'.runningShell.toList) m₇
  cases released.symm.trans failed

theorem regenerateGroupEnds {config : EngineConfig α} {clock : Nat → Nat} (h : m.sketch.Furnished)
    (found : m.sketch.groups.get? id = some g) (ok : regenerateGroup config clock id prior m = (.ok (), m')) :
    (∀ cause, ¬ Blocked m.sketch g cause) ∧ ∃ u outcome v solved now, Sketch.generateGroup id m.sketch = (.ok (), u) ∧
      u.solveGroup id config.solver clock = (outcome, v) ∧ v.groups.get? id = some solved ∧
      m'.sketch.groups.get? id = some now ∧ ∀ f, f ∈ now.failures ↔ Problem config.loops outcome v solved m.kernel prior f := by
  obtain ⟨_, m₁, first, _⟩ := Attempt.bindOk.mp ok
  have made := editOk first
  have furnished := Sketch.solveGroupFurnished (Sketch.generateGroupFurnished h made) id config.solver clock
  rcases run : m₁.sketch.solveGroup id config.solver clock with ⟨outcome, v⟩
  rw [run] at furnished
  obtain ⟨g', now, there, after, placed, noted⟩ := regenerateGroupNotes ok made run furnished.groups
  refine ⟨fun cause blocked => ?_, _, _, _, g', now, made, run, there, after, noted⟩
  have named : g.id = id := h.groups.keyOfGet found
  obtain ⟨g₁, c, found₁, _, copied, _⟩ := Sketch.generateGroupOk h.groups made
  obtain rfl := Option.some.inj (found.symm.trans found₁)
  obtain ⟨g₂, there₂, kind, lies⟩ := solvedGroup h found made run
  obtain rfl := Option.some.inj (there.symm.trans there₂)
  obtain ⟨w, flat, drawn, lost⟩ := Sketch.blockedCopied h (named ▸ found) copied blocked
  obtain ⟨frame, stands⟩ := placed w (kind ▸ flat) (lies ▸ drawn)
  exact nomatch stands.symm.trans ((frameFails h found made run flat).mpr lost)

end Regen
end Drafting
