import Drafting.Proofs.Dependency
import Drafting.Proofs.Stopping
/-! How a pass over all groups ends. It does not begin where a group names another one that is gone, or where
groups build upon each other in a circle. Otherwise it takes each group once, up to one that is blocked; if it
comes to none, it reports of every group what it was found to lack at its turn. -/
namespace Drafting
open Result

namespace Sketch
variable {s : Sketch α}

def Whole (s : Sketch α) : Prop := ∀ g ∈ s.groups.toList, ∀ p ∈ g.predecessors, p ∈ s.groups.keys

/-! The order is the same whichever groups are dirty. -/

theorem markDirtyOrder (h : s.Consistent) (id : GroupId) : (s.markDirty id).regenerationOrder = s.regenerationOrder := by
  let mark (g : Group α) : Group α := { g with clean := false }
  have keys : (s.markDirty id).groups.keys = s.groups.keys := h.groups.keysModify (f := mark) id fun _ same => same
  have there (p : GroupId) : (s.markDirty id).groups.contains p = s.groups.contains p := by
    unfold Registry.contains
    exact congrArg (·.contains p) (Registry.indexModify id mark)
  have needs : (s.markDirty id).dependenciesOf = s.dependenciesOf := by
    funext k
    unfold dependenciesOf
    rw [markDirtyGet h]
    by_cases same : k = id
    · rw [if_pos same, same]
      cases s.groups.get? id <;> rfl
    · rw [if_neg same]
      cases s.groups.get? k <;> rfl
  have named (f : GroupId → Except RegenError Unit) :
      ((s.markDirty id).groups.toList.forM fun g => g.predecessors.forM f) =
        s.groups.toList.forM fun g => g.predecessors.forM f := by
    rw [show (s.markDirty id).groups.toList = _ from h.groups.toListModify id mark]
    generalize s.groups.toList = l
    induction l with
    | nil => rfl
    | cons g rest ih =>
      rw [List.forM_eq_forM] at ih ⊢
      rw [List.map_cons, List.forM_cons, List.forM_cons, ih]
      congr 2
      split <;> rfl
  unfold regenerationOrder groupIds
  rw [keys, needs]
  simp only [there]
  rw [named]

theorem markedOrder (h : s.Consistent) (ids : List GroupId) :
    (ids.foldl markDirty s).regenerationOrder = s.regenerationOrder := by
  induction ids generalizing s with
  | nil => rfl
  | cons id rest ih => exact (ih (h.markDirty id)).trans (markDirtyOrder h id)

inductive OrderEnds (s : Sketch α) : Except RegenError (List GroupId) → Prop
  | missing {g : Group α} {p : GroupId} (there : g ∈ s.groups.toList) (named : p ∈ g.predecessors)
      (gone : p ∉ s.groups.keys) : OrderEnds s (.error (.groupNotFound p))
  | circular {c : GroupId} (whole : s.Whole) (circle : ¬ s.Acyclic) : OrderEnds s (.error (.cycle c))
  | sorted {order : List GroupId} (whole : s.Whole) (acyclic : s.Acyclic) (each : order.Perm s.groups.keys) :
      OrderEnds s (.ok order)

theorem orderEnds (h : s.Furnished) : s.OrderEnds s.regenerationOrder := by
  have indexed := h.groups.indexed
  by_cases whole : s.Whole
  · have owners : ∀ e ∈ s.entities.toList, e.group ∈ s.groups.keys := by
      intro e member
      obtain ⟨g, there⟩ := h.owner (h.entities.getOfMem member)
      exact Registry.memKeys.mpr ⟨g, Registry.memOfGet there, h.groups.keyOfGet there⟩
    obtain ⟨sorts, circular, each⟩ := regenerationOrderCanonical s indexed whole owners
    by_cases acyclic : s.Acyclic
    · obtain ⟨order, ok⟩ := sorts.mpr acyclic
      rw [ok]
      have sorted := (each order ok).1
      exact .sorted whole acyclic ((List.perm_ext_iff_of_nodup sorted.once h.groups.keysNodup).mpr sorted.every)
    · obtain ⟨c, failed⟩ := circular acyclic
      rw [failed]
      exact .circular whole acyclic
  · have contains (p : GroupId) := indexed.containsIff p
    cases checked : (s.groups.toList.forM fun g => g.predecessors.forM fun p =>
        if s.groups.contains p then return else throw (RegenError.groupNotFound p) : Except RegenError Unit) with
    | ok _ =>
      refine absurd (fun g member p named => ?_) whole
      have passed := forMEach (forMEach checked g member) p named
      by_contra gone
      rw [if_neg (mt (contains p).mp gone)] at passed
      cases passed
    | error e =>
      obtain ⟨g, member, inner⟩ := forMError checked
      obtain ⟨p, named, failed⟩ := forMError inner
      rw [regenerationOrder, checked]
      by_cases here : s.groups.contains p = true
      · rw [if_pos here] at failed
        cases failed
      · rw [if_neg here] at failed
        cases failed
        exact .missing member named (mt (contains p).mpr here)

end Sketch

namespace Regen
open Sketch (Furnished KeepsGroups markDirty)
variable [Scalar α] {config : EngineConfig α} {clock : Nat → Nat}

section Visit
variable {m m' : Model α} {g : Group α} {p p' : Progress α} {id : GroupId}

theorem rebuiltKeeps {s t : Sketch α} (h : s.Furnished) (step : Rebuilt config clock s id t) : KeepsGroups s t := by
  intro k g found
  have confined := (Sketch.rebuiltConfined h.toIntact step).1
  have after := rebuiltIntact h.toIntact step
  by_cases same : k = id
  · obtain ⟨_, _, now, _, _, _, there, _⟩ := Sketch.rebuiltMakes h.toIntact step
    exact ⟨now, same ▸ there⟩
  · exact ⟨g, (confined.other h.groups after.groups same).trans found⟩

theorem visitFails {e : RegenError} (h : m.sketch.Furnished) (found : m.sketch.groups.get? id = some g)
    (failed : visit config clock p id m = (.error e, m')) : ∃ cause, e = .sketch cause ∧ m.sketch.Blocked g cause := by
  rcases visitError failed with ⟨missing, _⟩ | stops | ⟨made, gone⟩
  · exact nomatch found.symm.trans missing
  · exact regenerateGroupFails h found stops
  · obtain ⟨now, there⟩ := rebuiltKeeps h (regenerateGroupOk made) id g found
    exact nomatch there.symm.trans gone

end Visit

section Pass
variable {s t : Sketch α} {m m' start : Model α} {g : Group α} {p p' : Progress α} {id : GroupId} {order : List GroupId}

theorem passesOther (steps : Passes config clock s p order t p') (h : s.Intact) {k : GroupId} (apart : k ∉ order) :
    t.groups.get? k = s.groups.get? k := by
  induction steps with
  | done => rfl
  | @visit s t u p p₁ p₂ id rest g now first others ih =>
    have later : k ∉ rest := fun member => apart (List.mem_cons_of_mem _ member)
    cases needed : isNeeded s g p with
    | false =>
      obtain rfl := first.skipped needed
      exact ih h later
    | true =>
      have rebuilt := first.rebuilt needed
      have intact := rebuiltIntact h rebuilt
      refine (ih intact later).trans ((Sketch.rebuiltConfined h rebuilt).1.other h.groups intact.groups ?_)
      intro same
      exact apart (same ▸ List.mem_cons_self)

theorem passesReports (steps : Passes config clock s p order t p') : ∃ more, p'.reports = p.reports ++ more := by
  induction steps with
  | done => exact ⟨[], (List.append_nil _).symm⟩
  | visit first others ih =>
    obtain ⟨more, same⟩ := ih
    exact ⟨_, by rw [same, first.reports, List.append_assoc]⟩

def marked (m : Model α) : Model α := { m with sketch := m.sketch.groups.keys.foldl markDirty m.sketch }

def ComesTo (config : EngineConfig α) (clock : Nat → Nat) (start : Model α) (id : GroupId) (p : Progress α)
    (m : Model α) : Prop :=
  ∃ before rest, start.sketch.regenerationOrder = .ok (before ++ id :: rest) ∧
    before.foldlM (visit config clock) {} (marked start) = (.ok p, m)

def Tells (config : EngineConfig α) (clock : Nat → Nat) (start m' : Model α) (r : GroupReport α) : Prop :=
  ∃ p m u outcome v g now, ComesTo config clock start r.group p m ∧
    Sketch.generateGroup r.group m.sketch = (.ok (), u) ∧ u.solveGroup r.group config.solver clock = (outcome, v) ∧
    v.groups.get? r.group = some g ∧ m'.sketch.groups.get? r.group = some now ∧ r.failures = now.failures ∧
    ∀ f, f ∈ r.failures ↔ Problem config.loops outcome v g m.kernel (p.previous.bind Prod.snd) f

inductive Ends (config : EngineConfig α) (clock : Nat → Nat) (start : Model α) :
    Except RegenError (RegenReport α) × Model α → Prop
  | missing {g : Group α} {p : GroupId} {m : Model α} (there : g ∈ start.sketch.groups.toList)
      (named : p ∈ g.predecessors) (gone : p ∉ start.sketch.groups.keys) :
      Ends config clock start (.error (.groupNotFound p), m)
  | circular {c : GroupId} {m : Model α} (whole : start.sketch.Whole) (circle : ¬ start.sketch.Acyclic) :
      Ends config clock start (.error (.cycle c), m)
  | stopped {id : GroupId} {p : Progress α} {m m' : Model α} {g : Group α} {cause : SketchError}
      (whole : start.sketch.Whole) (acyclic : start.sketch.Acyclic) (turn : ComesTo config clock start id p m)
      (found : m.sketch.groups.get? id = some g) (blocked : m.sketch.Blocked g cause) :
      Ends config clock start (.error (.sketch cause), m')
  | finished {report : RegenReport α} {m' : Model α} (whole : start.sketch.Whole) (acyclic : start.sketch.Acyclic)
      (each : report.order.Perm start.sketch.groups.keys)
      (free : ∀ id p m g cause, ComesTo config clock start id p m → m.sketch.groups.get? id = some g →
        ¬ m.sketch.Blocked g cause)
      (told : ∀ r ∈ report.groups, r.regenerated = true ∧ Tells config clock start m' r) : Ends config clock start (.ok report, m')

theorem comesFurnished (h : start.sketch.Furnished) (turn : ComesTo config clock start id p m) :
    m.sketch.Furnished ∧ m.sketch.requests = start.sketch.requests ∧ ∃ g, m.sketch.groups.get? id = some g ∧
      g.clean = false ∧ (start.sketch.groups.get? id).map Group.pattern = some g.pattern := by
  obtain ⟨before, rest, sorted, early⟩ := turn
  have steps := visitsOk early
  have dirty := Sketch.dirtyAll start.sketch.groups.keys start.sketch
  have begun : (marked start).sketch.Furnished := Sketch.Changes.furnished dirty.changes h
  have marks := Sketch.markedAlike h.toConsistent start.sketch.groups.keys
  refine ⟨passesKeep Sketch.rebuiltFurnished begun steps, ?_, ?_⟩
  · exact (passesAlike steps begun.toIntact).2.2.requests.trans marks.requests
  have order := Sketch.regenerationOrderIsOrder sorted
  obtain ⟨g, member, named⟩ := Registry.memKeys.mp ((order.every id).mp (by simp))
  have found : start.sketch.groups.get? id = some g := h.groups.getIff.mpr ⟨member, named⟩
  have same := marks.groups id trivial
  rw [found] at same
  obtain ⟨g', there, pattern⟩ := Option.map_eq_some_iff.mp same
  have fresh := (Sketch.onceInOrder order.once).1
  refine ⟨g', (passesOther steps begun.toIntact fresh).trans there, Sketch.allDirty h.toConsistent there, ?_⟩
  rw [found, pattern]
  rfl

theorem comesAnew (h : start.sketch.Furnished) (turn : ComesTo config clock start id p m)
    (ok : visit config clock p id m = (.ok p', m')) : m'.sketch.Furnished ∧
      (∀ g cause, m.sketch.groups.get? id = some g → ¬ m.sketch.Blocked g cause) ∧ ∃ u outcome v solved now, Sketch.generateGroup id m.sketch = (.ok (), u) ∧
        u.solveGroup id config.solver clock = (outcome, v) ∧ v.groups.get? id = some solved ∧
        m'.sketch.groups.get? id = some now ∧ p'.reports = p.reports ++ [⟨id, true, now.solved, now.failures⟩] ∧
        ∀ f, f ∈ now.failures ↔ Problem config.loops outcome v solved m.kernel (p.previous.bind Prod.snd) f := by
  obtain ⟨furnished, _, g, found, dirty, _⟩ := comesFurnished h turn
  obtain ⟨g₁, now, needed, found₁, there, test, _, anew, _, _, reports⟩ := visitRun ok
  obtain rfl := Option.some.inj (found.symm.trans found₁)
  obtain rfl : needed = true := by simpa [isNeeded, dirty] using test.symm
  obtain ⟨free, u, outcome, v, solved, now', made, run, after, there', noted⟩ :=
    regenerateGroupEnds furnished found (anew rfl)
  obtain rfl := Option.some.inj (there.symm.trans there')
  have kept := Sketch.rebuiltFurnished furnished (regenerateGroupOk (anew rfl))
  refine ⟨kept, fun g' cause here => ?_, u, outcome, v, solved, now, made, run, after, there, reports, noted⟩
  obtain rfl := Option.some.inj (found.symm.trans here)
  exact free cause

theorem allEnds (h : start.sketch.Furnished) : Ends config clock start (all config clock start) := by
  change Ends config clock start (pass config clock (marked start))
  have ends := Sketch.orderEnds h
  have same : (marked start).sketch.regenerationOrder = start.sketch.regenerationOrder :=
    Sketch.markedOrder h.toConsistent _
  unfold pass
  rw [Attempt.getBind, same]
  cases sorted : start.sketch.regenerationOrder with
  | error e =>
    rw [sorted] at ends
    cases ends with
    | missing there named gone => exact .missing there named gone
    | circular whole circle => exact .circular whole circle
  | ok order =>
    rw [sorted] at ends
    cases ends with
    | sorted whole acyclic each =>
      dsimp only
      rw [Attempt.runBind]
      have once := (Sketch.regenerationOrderIsOrder sorted).once
      -- Whatever group the pass comes to, it goes on from there.
      have split {before rest : List GroupId} {id : GroupId} (here : order = before ++ id :: rest) :
          start.sketch.regenerationOrder = .ok (before ++ id :: rest) := here ▸ sorted
      rcases visits : order.foldlM (visit config clock) {} (marked start) with ⟨e | p, m⟩
      · obtain ⟨before, id, rest, p, m₁, here, early, stops⟩ := Attempt.foldlMError visits
        have turn : ComesTo config clock start id p m₁ := ⟨before, rest, split here, early⟩
        obtain ⟨furnished, _, g, found, _⟩ := comesFurnished h turn
        obtain ⟨cause, rfl, blocked⟩ := visitFails furnished found stops
        exact .stopped whole acyclic turn found blocked
      · have steps := visitsOk visits
        have visited : p.reports.map GroupReport.group = order := passesVisited steps
        refine .finished whole acyclic (visited.symm ▸ each : (p.reports.map GroupReport.group).Perm _) ?_ ?_
        · intro id p₁ m₁ g cause ⟨before, rest, sorted', early⟩ found
          obtain rfl : order = before ++ id :: rest := Except.ok.inj (sorted.symm.trans sorted')
          obtain ⟨p₂, m₂, p₃, m₃, early', here, _⟩ := Attempt.foldlMOk visits
          cases early.symm.trans early'
          exact (comesAnew h ⟨before, rest, sorted', early⟩ here).2.1 g cause found
        · intro r member
          have place : r.group ∈ order := visited ▸ List.mem_map_of_mem member
          obtain ⟨before, rest, rfl⟩ := List.append_of_mem place
          obtain ⟨p₁, m₁, p₂, m₂, early, here, late⟩ := Attempt.foldlMOk visits
          have turn : ComesTo config clock start r.group p₁ m₁ := ⟨before, rest, sorted, early⟩
          obtain ⟨kept, _, u, outcome, v, solved, now, made, run, after, there, reports, noted⟩ := comesAnew h turn here
          have others := visitsOk late
          obtain ⟨more, whole⟩ := passesReports others
          have told : r = ⟨r.group, true, now.solved, now.failures⟩ := by
            refine List.inj_on_of_nodup_map (visited ▸ once) member ?_ rfl
            rw [whole, reports]
            simp
          have stays : m.sketch.groups.get? r.group = some now :=
            (passesOther others kept.toIntact (Sketch.onceInOrder once).2.1).trans there
          have same : r.failures = now.failures := congrArg GroupReport.failures told
          exact ⟨congrArg GroupReport.regenerated told, p₁, m₁, u, outcome, v, solved, now, turn, made, run, after, stays, same,
            same ▸ noted⟩

theorem lostWorkplaneStops (h : start.sketch.Furnished) (whole : start.sketch.Whole) (acyclic : start.sketch.Acyclic)
    (found : start.sketch.groups.get? g.id = some g) (derived : g.kind.isDerived = true) {r : Request}
    (registered : start.sketch.requests.get? r.id = some r) (source : g.source = some r.group) {e : Entity α}
    (drawn : e ∈ r.entities) (placed : e.isA .point = true ∨ e.isA .normal = true) {w : EntityId}
    (lies : r.workplane = some w) {q : RequestId} (part : w.origin = .request q)
    (gone : start.sketch.requests.get? q = none) : ∃ cause m, all config clock start = (.error (.sketch cause), m) := by
  have ends : Ends config clock start (all config clock start) := allEnds h
  rcases run : all config clock start with ⟨result, m'⟩
  rw [run] at ends
  cases ends with
  | missing there named gone => exact absurd (whole _ there _ named) gone
  | circular _ circle => exact absurd acyclic circle
  | stopped => exact ⟨_, _, rfl⟩
  | @finished report _ _ _ each free told =>
    have visited : g.id ∈ report.order :=
      each.mem_iff.mpr (Registry.memKeys.mpr ⟨g, Registry.memOfGet found, rfl⟩)
    obtain ⟨about, member, named⟩ := List.mem_map.mp visited
    obtain ⟨_, p, m, _, _, _, _, _, turn, _⟩ := told about member
    rw [named] at turn
    obtain ⟨furnished, requests, g', there, _, pattern⟩ := comesFurnished h turn
    rw [found] at pattern
    obtain ⟨sameId, sameKind, sameSource, _⟩ : g.id = g'.id ∧ g.kind = g'.kind ∧ g.source = g'.source ∧ g.remap = g'.remap := by
      simpa [Group.pattern] using pattern
    have here : m.sketch.groups.get? g'.id = some g' := sameId ▸ there
    have intact := Sketch.baredIntact furnished.toIntact here
    have kept : (m.sketch.bared g').requests = start.sketch.requests :=
      (Sketch.baredSpec furnished.toIntact g').requests.trans requests
    have entities := Sketch.baredEntities furnished.toIntact g'
    have whole := Request.drawn drawn
    have missing : (m.sketch.redrawn g').entities.get? w = none := by
      rw [← entities]
      by_contra some
      obtain ⟨plane, stands⟩ := Option.ne_none_iff_exists'.mp some
      obtain ⟨q', there', _⟩ := intact.drawn w plane q stands part
      rw [kept, gone] at there'
      cases there'
    have there' : e ∈ (m.sketch.redrawn g').entities.toList := by
      rw [← entities]
      exact Registry.memOfGet (intact.present r.id r (kept ▸ registered) e drawn)
    have blocked := Sketch.Blocked.copying (sameKind ▸ derived) (sameSource ▸ source) there' whole.group placed
      (whole.workplane.trans lies) (.gone missing)
    exact absurd blocked (free g.id p m g' _ turn there)

end Pass

end Regen

namespace Session
variable [Scalar α] {config : EngineConfig α} {s : Session α}

theorem passesEnd (reached : Reached config s) (engine : EngineConfig α) (clock : Nat → Nat) :
    Regen.Ends engine clock s.model (Regen.all engine clock s.model) := Regen.allEnds (reachedFurnished reached).1

/-! Copies of a point in a workplane that was deleted. -/

section Stop
open Sketch

theorem deleteRequestFree {s : Sketch α} {id : RequestId} {r : Request} (found : s.requests.get? id = some r)
    (free : s.constraints.toList = []) : deleteRequest id s = (.ok (), Sketch.markDirty { s with
      entities := s.entities.filter fun e => !(e.id.request? == some id)
      params := s.params.filter (·.id.owner != ParamOwner.request id)
      requests := s.requests.remove id } r.group) := by
  have detached (points : List EntityId) : points.foldl detachPoint s = s := by
    induction points with
    | nil => rfl
    | cons p rest ih =>
      have alone : s.detachPoint p = s := by
        unfold detachPoint
        cases s.entities.get? p with
        | none => rfl
        | some e =>
          dsimp only
          rw [free]
          rfl
      rw [List.foldl_cons, alone, ih]
  refine Attempt.bindOk.mpr ⟨r, s, Edit.readOk.mpr ⟨requestFound.mpr found, rfl⟩, ?_⟩
  refine Attempt.bindOk.mpr ⟨(), s, Attempt.modifyOk.mpr (detached _).symm, ?_⟩
  rw [Attempt.getBind, free]
  exact Attempt.bindOk.mpr ⟨(), s, rfl, Attempt.modifyOk.mpr rfl⟩

def pin : Request := ⟨⟨2⟩, ⟨1⟩, some tilted.entity, .datumPoint, false⟩

structure Stranded (s : Sketch Float) : Prop where
  groups : Paired s.groups
  requests : s.requests.toList = [pin]
  constraints : s.constraints = {}

theorem Stranded.undrawn {s : Sketch Float} (known : Stranded s) (intact : s.Intact) :
    s.requests.get? tilted.id = none := by
  by_contra some
  obtain ⟨q, there⟩ := Option.ne_none_iff_exists'.mp some
  have member := Registry.memOfGet there
  rw [known.requests] at member
  obtain rfl := List.mem_singleton.mp member
  cases intact.requests.keyOfGet there

theorem Stranded.gone {s : Sketch Float} (known : Stranded s) (intact : s.Intact) :
    s.entities.get? tilted.entity = none := by
  by_contra some
  obtain ⟨plane, stands⟩ := Option.ne_none_iff_exists'.mp some
  obtain ⟨q, there, _⟩ := intact.drawn _ plane tilted.id stands rfl
  cases (known.undrawn intact).symm.trans there

theorem Stranded.pinned {s : Sketch Float} (known : Stranded s) (intact : s.Intact) :
    s.requests.get? pin.id = some pin :=
  intact.requests.getOfMem (known.requests ▸ List.mem_singleton_self pin)

theorem strandedReached : ∃ t : Session Float, Reached .standard t ∧ Stranded t.sketch := by
  obtain ⟨t, fitted, planed⟩ := planedFitted
  have reached := fitted.reached
  have intact : t.sketch.Intact := (reachedIntact reached).sketch
  have registered : t.sketch.requests.get? tilted.id = some tilted := by
    rw [planed.requests]
    exact Sketch.startIntact.requests.getAddSelf tilted
  obtain ⟨v, drawn, groups, requests, constraints⟩ : ∃ v : Sketch Float,
      addRequest ⟨1⟩ .datumPoint (some tilted.entity) false t.sketch = (.ok ⟨2⟩, v) ∧
      v.groups = t.sketch.groups.modify ⟨1⟩ ({ · with clean := false }) ∧
      v.requests = t.sketch.requests.add pin ∧ v.constraints = t.sketch.constraints := by
    let whole : Entity Float := tilted.part tilted.entity (.workplane (tilted.point 0) tilted.normal)
    have part : whole ∈ tilted.entities := by simp [Request.entities, tilted, whole]
    have plane : t.sketch.entity tilted.entity = .ok whole :=
      entityFound.mpr (intact.present _ tilted registered whole part)
    have allowed : t.sketch.checkRequest ⟨1⟩ .datumPoint (some tilted.entity) = .ok () := by
      refine Result.bindOk.mpr ⟨_, groupFound.mpr planed.groups.first, ?_⟩
      simp only [plane]
      rfl
    have run := addRequestRun allowed false
    rw [planed.nextRequest] at run
    refine ⟨_, run, ?_⟩
    dsimp only
    rw [enterRequestRecords]
    exact ⟨rfl, rfl, rfl⟩
  have second : Reached (α := Float) .standard (t.withSketch v) := by
    exact reached.edited (c := .addRequest ⟨1⟩ .datumPoint (some tilted.entity) false) rfl drawn
  have still : v.requests.get? tilted.id = some tilted := by
    rw [requests, intact.requests.getAdd, if_neg (by decide), registered]
  have run := deleteRequestFree (s := v) still (by rw [constraints, planed.constraints]; rfl)
  generalize erased : Sketch.markDirty _ tilted.group = u at run
  have after : (t.withSketch v).sketch.Intact := (reachedIntact second).sketch
  refine ⟨t.withSketch u, second.edited (c := .deleteRequest ⟨1⟩) rfl run, ?_⟩
  change Stranded u
  rw [← erased]
  constructor
  case groups =>
    have paired := planed.groups.dirty intact.groups
    rw [← groups] at paired
    exact paired.dirty after.groups
  case requests =>
    have one : t.sketch.requests.toList = [tilted] := by
      rw [planed.requests]
      exact Sketch.startIntact.requests.toListAdd tilted
    have other : Keyed.key pin ∉ t.sketch.requests.keys := by
      rw [Registry.keys, one]
      decide
    change (v.requests.remove tilted.id).toList = _
    rw [requests, (intact.requests.add pin).toListRemove, intact.requests.toListAdd, if_neg other, one]
    rfl
  case constraints => exact constraints.trans planed.constraints

theorem deletedWorkplaneStopsPass : ∃ (s : Session Float) (cause : SketchError) (m : Model Float),
    Reached .standard s ∧ s.sketch.Whole ∧ s.sketch.Acyclic ∧
      Regen.all .standard id s.model = (.error (.sketch cause), m) ∧
      Regen.Ends .standard id s.model (.error (.sketch cause), m) := by
  obtain ⟨s, reached, known⟩ := strandedReached
  have furnished := (reachedFurnished reached).1
  have intact : s.sketch.Intact := furnished.toIntact
  have records : ∀ g ∈ s.sketch.groups.toList, g = drawingGroup ∨ g = shiftGroup := by
    intro g member
    have found : s.sketch.groups.get? g.id = some g := intact.groups.getOfMem member
    have there : g.id ∈ s.sketch.groups.keys := Registry.memKeys.mpr ⟨g, member, rfl⟩
    rw [known.groups.keys] at there
    simp only [List.mem_cons, List.not_mem_nil, or_false] at there
    rcases there with same | same
    · exact .inl (Option.some.inj (known.groups.first.symm.trans (same ▸ found))).symm
    · exact .inr (Option.some.inj (known.groups.second.symm.trans (same ▸ found))).symm
  have whole : s.sketch.Whole := by
    intro g member p named
    rw [known.groups.keys]
    rcases records g member with same | same
    · rw [same] at named
      cases named
    · rw [same] at named
      exact List.mem_cons.mpr (.inl (List.mem_singleton.mp named))
  have left := known.pinned intact
  have gone := known.undrawn intact
  have lost := known.gone intact
  have sorted : s.sketch.IsOrder [⟨1⟩, ⟨2⟩] := by
    have first : s.sketch.dependenciesOf ⟨1⟩ = [] := by
      rw [dependenciesOf, known.groups.first]
      unfold dependencies
      rw [known.requests, known.constraints]
      change List.filter _ ([] ++ List.filterMap s.sketch.groupOf? [tilted.entity]) = []
      simp [groupOf?, lost]
    have second : s.sketch.dependenciesOf ⟨2⟩ = [⟨1⟩] := by
      rw [dependenciesOf, known.groups.second]
      unfold dependencies
      rw [known.requests, known.constraints]
      rfl
    refine ⟨by decide, fun g => by rw [known.groups.keys], fun before g rest split h need => ?_⟩
    rcases before with _ | ⟨b, _ | ⟨c, more⟩⟩
    · cases split
      rw [first] at need
      cases need
    · cases split
      exact second ▸ need
    · simp at split
  let spot : Entity Float := pin.part pin.entity (.pointIn2d ⟨pin.param 0, pin.param 1⟩)
  have copies : s.sketch.groups.get? shiftGroup.id = some shiftGroup := known.groups.second
  have copied : shiftGroup.source = some pin.group := rfl
  have drawn : spot ∈ pin.entities := List.mem_cons_self
  obtain ⟨cause, m, stops⟩ : ∃ cause m, Regen.all .standard id s.model = (.error (.sketch cause), m) :=
    Regen.lostWorkplaneStops furnished whole sorted.acyclic copies rfl left copied drawn (.inl rfl) rfl rfl gone
  have ends := passesEnd reached .standard id
  rw [stops] at ends
  exact ⟨s, cause, m, reached, whole, sorted.acyclic, stops, ends⟩

end Stop

end Session
end Drafting
