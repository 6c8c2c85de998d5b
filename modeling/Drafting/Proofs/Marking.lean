import Drafting.Proofs.Failing
/-! Edits mark the groups that they change something of. One edit can touch constraints of several groups, and
some edits mark a group only at their end; none of them leaves a group unmarked of which a request, an entity,
a constraint or a parameter is new, gone or different. -/
namespace Drafting.Sketch
variable {s t u v w : Sketch α} {id k : GroupId}

/-- All that belongs to a group is as it was, in the same order. -/
structure Untouched (s t : Sketch α) (id : GroupId) : Prop where
  requests : t.requests.toList.filter (·.group == id) = s.requests.toList.filter (·.group == id)
  constraints : t.constraints.toList.filter (·.group == id) = s.constraints.toList.filter (·.group == id)
  entities : t.entities.toList.filter (·.group == id) = s.entities.toList.filter (·.group == id)
  params : t.params.toList.filter (·.group == id) = s.params.toList.filter (·.group == id)

theorem Untouched.refl (s : Sketch α) (id : GroupId) : Untouched s s id := ⟨rfl, rfl, rfl, rfl⟩

theorem Untouched.trans (first : Untouched s t id) (next : Untouched t u id) : Untouched s u id where
  requests := next.requests.trans first.requests
  constraints := next.constraints.trans first.constraints
  entities := next.entities.trans first.entities
  params := next.params.trans first.params

def Clean (s : Sketch α) (id : GroupId) : Prop := ∃ g, s.groups.get? id = some g ∧ g.clean = true

/-- A step that marks what it changes, and cleans nothing. -/
def Marks (s t : Sketch α) : Prop := s.Intact → t.Intact ∧ ∀ id, t.Clean id → s.Clean id ∧ Untouched s t id

theorem Marks.refl (s : Sketch α) : Marks s s := fun h => ⟨h, fun id clean => ⟨clean, .refl s id⟩⟩

theorem Marks.trans (first : Marks s t) (next : Marks t u) : Marks s u := by
  intro h
  obtain ⟨between, early⟩ := first h
  obtain ⟨after, late⟩ := next between
  refine ⟨after, fun id clean => ?_⟩
  obtain ⟨was, kept⟩ := late id clean
  obtain ⟨before, kept'⟩ := early id was
  exact ⟨before, kept'.trans kept⟩

theorem Marks.all (steps : Relation.ReflTransGen Marks s t) : Marks s t := by
  induction steps with
  | refl => exact .refl s
  | tail _ step ih => exact ih.trans step

theorem cleanMarked (h : s.Consistent) (ids : List GroupId) :
    (ids.foldl markDirty s).Clean k ↔ k ∉ ids ∧ s.Clean k := by
  induction ids generalizing s with
  | nil => simp
  | cons id rest ih =>
    have first : (s.markDirty id).Clean k ↔ k ≠ id ∧ s.Clean k := by
      unfold Clean
      rw [markDirtyGet h]
      by_cases same : k = id
      · subst same
        simp
      · simp [same]
    rw [List.foldl_cons, ih (h.markDirty id), first, List.mem_cons, not_or]
    tauto

theorem untouchedMarked (s : Sketch α) (ids : List GroupId) : Untouched s (ids.foldl markDirty s) k := by
  induction ids generalizing s with
  | nil => exact .refl s k
  | cons id rest ih =>
    have first : Untouched s (s.markDirty id) k := ⟨rfl, rfl, rfl, rfl⟩
    exact first.trans (ih _)

theorem intactMarked (h : s.Intact) (ids : List GroupId) : (ids.foldl markDirty s).Intact := by
  induction ids generalizing s with
  | nil => exact h
  | cons id rest ih => exact ih (h.markDirty id)

theorem marksLater (ids : List GroupId) (middle : u.Intact) (groups : u.groups = s.groups)
    (apart : ∀ k, k ∉ ids → Untouched s u k) (rest : Marks u v) : Marks s (ids.foldl markDirty v) := by
  intro _
  obtain ⟨after, kept⟩ := rest middle
  refine ⟨intactMarked after ids, fun k clean => ?_⟩
  obtain ⟨other, clean⟩ := (cleanMarked after.toConsistent ids).mp clean
  obtain ⟨was, same⟩ := kept k clean
  refine ⟨?_, ((apart k other).trans same).trans (untouchedMarked v ids)⟩
  unfold Clean
  rw [← groups]
  exact was

theorem marksRecord (middle : u.Intact) (groups : u.groups = s.groups) (apart : ∀ k, k ≠ id → Untouched s u k) :
    Marks s (u.markDirty id) :=
  marksLater [id] middle groups (fun k other => apart k fun same => other (List.mem_singleton.mpr same)) (.refl u)

theorem setParamMarks (p : ParamId) (x : α) (s : Sketch α) : Marks s ((setParam p x).attempt s) := by
  rw [setParamAttempt]
  cases found : s.params.get? p with
  | none => exact .refl s
  | some r =>
    intro h
    refine marksRecord (h.valued p x) rfl (fun k other => ?_) h
    refine { Untouched.refl s k with params := h.params.modifyOther fun y there => ?_ }
    cases found.symm.trans there
    exact ⟨beq_false_of_ne other.symm, beq_false_of_ne other.symm⟩

theorem deleteConstraintMarks (id : ConstraintId) (s : Sketch α) : Marks s ((deleteConstraint id).attempt s) := by
  rw [deleteConstraintAttempt]
  cases found : s.constraints.get? id with
  | none => exact .refl s
  | some c =>
    intro h
    refine marksRecord (h.released id) rfl (fun k other => ?_) h
    refine { Untouched.refl s k with constraints := h.constraints.removeOther ?_, params := ?_ }
    · intro y there
      cases found.symm.trans there
      exact beq_false_of_ne other.symm
    · refine Registry.filterOther fun x member gone => ?_
      have owner : x.id.owner = .constraint id := bne_eq_false_iff_eq.mp gone
      have owned := h.owned x.id x (h.params.getOfMem member)
      simp only [OwnedBy, owner] at owned
      obtain ⟨y, there, group⟩ := owned
      cases found.symm.trans there
      exact beq_false_of_ne (group ▸ other.symm)

theorem restatedApart (h : s.Intact) {id : ConstraintId} {c : Constraint α} (found : s.constraints.get? id = some c)
    (kind : ConstraintKind α) (k : GroupId) (other : k ≠ c.group) :
    Untouched s { s with constraints := s.constraints.modify id ({ · with kind }) } k := by
  refine { Untouched.refl s k with constraints := h.constraints.modifyOther fun y there => ?_ }
  cases found.symm.trans there
  exact ⟨beq_false_of_ne other.symm, beq_false_of_ne other.symm⟩

theorem mapPointsOther {f : EntityId → EntityId} {kind : ConstraintKind α} (same : ∀ p ∈ kind.points, f p = p) :
    kind.mapPoints f = kind := by
  cases kind <;> simp_all [ConstraintKind.points, ConstraintKind.mapPoints]

section Adjusts
variable [Scalar α]

theorem setConstraintValueMarks (id : ConstraintId) (value : α) (s : Sketch α) :
    Marks s ((setConstraintValue id value).attempt s) := by
  rw [Edit.attempt, setConstraintValue, Attempt.runBind, Edit.runRead, constraint]
  cases found : s.constraints.get? id with
  | none => exact .refl s
  | some c =>
    intro h
    have middle := Adjustment.intact (.restated found (helpersOfSetValue value c.kind)) h
    exact marksRecord middle rfl (restatedApart h found _) h

theorem replacePointMarks (s : Sketch α) (old new : EntityId) : Marks s (s.replacePoint old new).2 := by
  intro h
  refine marksLater _ (Adjustment.intact (.redirected s old new) h) rfl (fun k other => ?_) (.refl _) h
  refine { Untouched.refl s k with constraints := ?_ }
  rw [Registry.toListMap]
  refine Registry.filterMapOther fun c member => ?_
  by_cases ours : c.group = k
  · have kept : c.kind.mapPoints (fun p => if p = old then new else p) = c.kind :=
      mapPointsOther fun p named => if_neg fun same => other ?_
    · exact .inl (by rw [kept])
    have touched : p ∈ c.kind.points.filter (· == old) := List.mem_filter.mpr ⟨named, beq_iff_eq.mpr same⟩
    exact List.mem_flatMap.mpr ⟨c, member, List.mem_map.mpr ⟨p, touched, ours⟩⟩
  · exact .inr ⟨beq_false_of_ne ours, beq_false_of_ne ours⟩

theorem unharmedMarks (steps : Adjustments s t) (kept : Unharmed s t) : Marks s t := by
  refine fun h => ⟨Adjustments.intact steps h, fun k clean => ⟨?_, ?_⟩⟩
  · obtain ⟨g, found, clean⟩ := clean
    rcases Adjustments.group steps h.toConsistent k with same | marked
    · exact ⟨g, same ▸ found, clean⟩
    · obtain ⟨_, _, rfl⟩ := Option.map_eq_some_iff.mp (marked.symm.trans found)
      cases clean
  · exact ⟨by rw [kept.requests.list], by rw [kept.constraints.list], by rw [kept.entities.list],
      by rw [kept.params.list]⟩

theorem enteredApart (h : s.Intact) {c : Constraint α} (fresh : c.id = ⟨s.nextConstraint⟩) (k : GroupId)
    (other : k ≠ c.group) : Untouched s { s with
      nextConstraint := s.nextConstraint + 1
      params := c.helpers.foldl (fun ps p => ps.add ⟨p, c.group, 0.0⟩) s.params
      constraints := s.constraints.add c } k := by
  have absent : s.constraints.get? c.id = none := fresh ▸ h.fresh
  obtain ⟨xs, named, ours, same⟩ := (helpersEntered h.params c).listed
  refine ⟨rfl, ?_, rfl, ?_⟩
  · refine h.constraints.addOther (beq_false_of_ne other.symm) fun y there => ?_
    exact nomatch absent.symm.trans there
  · dsimp only
    rw [same]
    refine h.params.addAllOther (fun x member => ?_) fun x member y there => ?_
    · exact beq_false_of_ne (ours x member ▸ other.symm)
    have helper : x.id ∈ c.helpers := named ▸ List.mem_map_of_mem member
    have owned := h.owned x.id y there
    simp only [OwnedBy, helperOwner helper] at owned
    obtain ⟨_, there', _⟩ := owned
    exact nomatch absent.symm.trans there'

theorem improveGuessMarks {id : ConstraintId} {r : Except ConstraintError Unit} (run : improveGuess id s = (r, t)) :
    Marks s t := by
  have steps := improveGuessGradual (fun p x s => .single (setParamMarks p x s)) id s
  rw [run] at steps
  exact Marks.all steps

theorem addConstraintMarks (group : GroupId) (workplane : Option EntityId) (kind : ConstraintKind α) (reference : Bool)
    (s : Sketch α) : Marks s ((addConstraint group workplane kind reference).attempt s) := by
  intro h
  have steps := addConstraintGradual group workplane kind reference s
  rw [Edit.attempt]
  rcases run : addConstraint group workplane kind reference s with ⟨cause | id, t⟩
  · rw [run] at steps
    exact unharmedMarks steps (addConstraintUnharmed h group workplane kind reference cause t run) h
  · obtain ⟨g, _, registered, checked⟩ := Attempt.bindOk.mp run
    obtain ⟨_, _, valid, entered⟩ := Attempt.bindOk.mp checked
    obtain ⟨_, same⟩ := Edit.readOk.mp valid
    obtain ⟨found, same'⟩ := Edit.readOk.mp registered
    rw [same, same', Attempt.getBind, Attempt.runBind, Attempt.runModify] at entered
    obtain ⟨_, v, tried, last⟩ := Attempt.bindOk.mp entered
    let c : Constraint α := ⟨⟨s.nextConstraint⟩, group, workplane, kind, reference⟩
    have apart (k : GroupId) (other : k ∉ [group]) := enteredApart h (c := c) rfl k fun same =>
      other (List.mem_singleton.mpr same)
    have intact := h.constrained (c := c) rfl (groupFound.mp found)
    -- The group waits for its mark until the constraint is measured and has a first guess.
    have measured : ∃ u : Sketch α, u.Intact ∧ u.groups = s.groups ∧ (∀ k, k ∉ [group] → Untouched s u k) ∧
        Marks u v := by
      rcases Attempt.tryOk tried with body | ⟨_, _, _, handled⟩
      · cases reference with
        | false =>
          exact ⟨_, intact, rfl, apart, improveGuessMarks body⟩
        | true =>
          obtain ⟨_, w, remeasured, guess⟩ := Attempt.bindOk.mp body
          have middle := Adjustments.intact (remeasureGradual (α := α) c.id _) intact
          rw [remeasured] at middle
          obtain ⟨c', now, there, rfl⟩ := remeasureOk remeasured
          obtain rfl := Option.some.inj ((h.constraints.getAddSelf c).symm.trans there)
          refine ⟨_, middle, rfl, fun k other => ?_, improveGuessMarks guess⟩
          refine (apart k other).trans (restatedApart intact there now k fun same => ?_)
          exact other (List.mem_singleton.mpr same)
      · obtain ⟨_, _, _, thrown⟩ := Attempt.bindOk.mp handled
        cases thrown
    obtain ⟨u, middle, groups, apart, rest⟩ := measured
    cases last
    exact marksLater [group] middle groups apart rest h

theorem drawnMarks (h : s.Intact) {r : Request} (fresh : r.id = ⟨s.nextRequest⟩)
    (allowed : s.checkRequest r.group r.kind r.workplane = .ok ()) : Marks s (
      let t := { s with nextRequest := s.nextRequest + 1 }.enterRequest (fun _ => none) r
      { t with requests := t.requests.add r }.markDirty r.group) := by
  have middle := h.drawnRequest fresh allowed
  have absent : s.requests.get? r.id = none := fresh ▸ h.absent
  have entered := enterRequestParams (s := { s with nextRequest := s.nextRequest + 1 }) h.params (fun _ => none) r
  dsimp only at middle ⊢
  rw [enterRequestRecords] at middle ⊢
  generalize (enterRequest { s with nextRequest := s.nextRequest + 1 } (fun _ => none) r).params = params
    at entered middle ⊢
  obtain ⟨xs, named, ours, rfl⟩ := entered.listed
  refine marksRecord middle rfl fun k other => ⟨?_, rfl, ?_, ?_⟩
  · refine h.requests.addOther (beq_false_of_ne other.symm) fun q there => ?_
    exact nomatch absent.symm.trans there
  · refine h.entities.addAllOther (fun e part => ?_) fun e part e' there => ?_
    · exact beq_false_of_ne ((Request.drawn part).group ▸ other.symm)
    · obtain ⟨q, there', _⟩ := h.drawn e.id e' r.id there (Request.drawn part).origin
      exact nomatch absent.symm.trans there'
  · refine h.params.addAllOther (fun x member => ?_) fun x member y there => ?_
    · exact beq_false_of_ne (ours x member ▸ other.symm)
    have owner : x.id.owner = .request r.id := paramOfRequest (α := α) (named ▸ List.mem_map_of_mem member)
    have owned := h.owned x.id y there
    simp only [OwnedBy, owner] at owned
    obtain ⟨_, there', _⟩ := owned
    exact nomatch absent.symm.trans there'

omit [Scalar α] in
theorem partApart (h : s.Intact) {id : RequestId} {r : Request} (found : s.requests.get? id = some r) {e : Entity α}
    (member : e ∈ s.entities.toList) (part : e.id.request? = some id) : e.group = r.group := by
  have origin : e.id.origin = .request id := by
    unfold EntityId.request? at part
    split at part
    · rename_i same
      cases part
      exact same
    · cases part
  obtain ⟨q, there, drawn⟩ := h.drawn e.id e id (h.entities.getOfMem member) origin
  cases found.symm.trans there
  exact (Request.drawn drawn).group

omit [Scalar α] in
theorem constructionMarks (h : s.Intact) {id : RequestId} {r : Request} (found : s.requests.get? id = some r)
    (construction : Bool) : Marks s ({ s with
      requests := s.requests.modify id ({ · with construction })
      entities := s.entities.map fun e =>
        if e.id.request? = some id then { e with construction } else e }.markDirty r.group) := by
  refine marksRecord (h.construction id construction) rfl fun k other => ⟨?_, rfl, ?_, rfl⟩
  · refine h.requests.modifyOther fun q there => ?_
    cases found.symm.trans there
    exact ⟨beq_false_of_ne other.symm, beq_false_of_ne other.symm⟩
  · dsimp only
    rw [Registry.toListMap]
    refine Registry.filterMapOther fun e member => ?_
    by_cases part : e.id.request? = some id
    · rw [if_pos part]
      have ours := partApart h found member part
      exact .inr ⟨beq_false_of_ne (ours ▸ other.symm), beq_false_of_ne (ours ▸ other.symm)⟩
    · exact .inl (if_neg part)

omit [Scalar α] in
theorem erasedMarks (h : s.Intact) {id : RequestId} {r : Request} (found : s.requests.get? id = some r) :
    Marks s ({ s with
    entities := s.entities.filter fun e => !(e.id.request? == some id)
    params := s.params.filter (·.id.owner != ParamOwner.request id)
    requests := s.requests.remove id }.markDirty r.group) := by
  refine marksRecord (h.erased id) rfl fun k other => ⟨?_, rfl, ?_, ?_⟩
  · refine h.requests.removeOther fun q there => ?_
    cases found.symm.trans there
    exact beq_false_of_ne other.symm
  · refine Registry.filterOther fun e member gone => ?_
    have part : e.id.request? = some id := by simpa using gone
    exact beq_false_of_ne (partApart h found member part ▸ other.symm)
  · refine Registry.filterOther fun x member gone => ?_
    have owner : x.id.owner = .request id := bne_eq_false_iff_eq.mp gone
    have owned := h.owned x.id x (h.params.getOfMem member)
    simp only [OwnedBy, owner] at owned
    obtain ⟨q, there, group⟩ := owned
    cases found.symm.trans there
    exact beq_false_of_ne (group ▸ other.symm)

instance : Draws (Marks (α := α)) where
  setParam p x s := .single (setParamMarks p x s)
  addConstraint group workplane kind reference s := .single (addConstraintMarks group workplane kind reference s)
  setConstraintValue id value s := .single (setConstraintValueMarks id value s)
  deleteConstraint id s := .single (deleteConstraintMarks id s)
  replacePoint s old new := .single (replacePointMarks s old new)
  addRequest group kind workplane construction := Edit.gradualReadBind fun s _ allowed =>
    .single fun h => drawnMarks h (r := ⟨⟨s.nextRequest⟩, group, workplane, kind, construction⟩) rfl allowed h
  setConstruction _ construction := Edit.gradualReadBind fun _ _ found =>
    .single fun h => constructionMarks h (requestFound.mp found) construction h
  erase found := .single fun h => erasedMarks h found h

end Adjusts

end Drafting.Sketch

namespace Drafting.Session
open Sketch (Clean Untouched)
variable [Scalar α] {s t : Session α} {clock : Nat → Nat}

/- Whatever an edit does and whether or not it fails, a group that is still clean has all it had. -/
theorem editMarksChanged {config : EngineConfig α} (h : Reached config s) {c : Command α} (edit : c.IsMade)
    {r : Except (SessionError α) (Answer α)} (run : perform clock c s = (r, t)) (id : GroupId) {g : Group α}
    (registered : t.sketch.groups.get? id = some g) (changed : ¬ Untouched s.sketch t.sketch id) : g.clean = false := by
  obtain ⟨u, steps, rfl⟩ := performGradual (R := Sketch.Marks) edit run
  obtain ⟨_, marked⟩ := Sketch.Marks.all steps (reachedIntact h).sketch
  cases clean : g.clean with
  | false => rfl
  | true => exact absurd (marked id ⟨g, registered, clean⟩).2 changed

theorem constructionMarksDrawing : ∃ (s t : Session Float) (g : Group Float), Reached .standard s ∧
    perform id (.setConstruction ⟨1⟩ true) s = (.ok .done, t) ∧ ¬ Untouched s.sketch t.sketch ⟨1⟩ ∧
    t.sketch.groups.get? ⟨1⟩ = some g ∧ g.clean = false := by
  obtain ⟨s, fitted, known⟩ := Sketch.tiltedFitted
  have intact : s.sketch.Intact := (reachedIntact fitted.reached).sketch
  let u : Sketch Float := { s.sketch with
    requests := s.sketch.requests.modify ⟨1⟩ ({ · with construction := true })
    entities := s.sketch.entities.map fun e => if e.id.request? = some ⟨1⟩ then { e with construction := true } else e }
  have done : perform id (.setConstruction ⟨1⟩ true) s = (.ok .done, s.withSketch (u.markDirty ⟨1⟩)) := by
    have run : Sketch.setConstruction ⟨1⟩ true s.sketch = (.ok (), u.markDirty ⟨1⟩) :=
      Attempt.bindOk.mpr ⟨_, _, Edit.readOk.mpr ⟨Sketch.requestFound.mpr known.request, rfl⟩, Attempt.modifyOk.mpr rfl⟩
    exact performEdited _ (c := .setConstruction ⟨1⟩ true) rfl run
  obtain ⟨g, registered⟩ := intact.requestGroups _ _ known.request
  have still : (u.markDirty ⟨1⟩).groups.get? ⟨1⟩ = some { g with clean := false } := by
    refine (intact.groups.getModify (f := ({ · with clean := false })) ⟨1⟩ (fun _ same => same) ⟨1⟩).trans ?_
    rw [if_pos rfl, show s.sketch.groups.get? ⟨1⟩ = some g from registered]
    rfl
  have changed : ¬ Untouched s.sketch (u.markDirty ⟨1⟩) ⟨1⟩ := by
    intro same
    have before : Sketch.tilted ∈ s.sketch.requests.toList.filter (·.group == ⟨1⟩) :=
      List.mem_filter.mpr ⟨Registry.memOfGet known.request, rfl⟩
    rw [← same.requests] at before
    have keeps : ∀ q : Request, q.id = ⟨1⟩ → ({ q with construction := true } : Request).id = ⟨1⟩ := fun _ same => same
    have after := (intact.requests.modify ⟨1⟩ keeps).getOfMem (List.mem_filter.mp before).1
    rw [intact.requests.getModify ⟨1⟩ keeps, if_pos (show Keyed.key Sketch.tilted = ⟨1⟩ from rfl),
      show s.sketch.requests.get? ⟨1⟩ = _ from known.request] at after
    cases after
  exact ⟨s, _, _, fitted.reached, done, changed, still,
    editMarksChanged fitted.reached (c := .setConstruction ⟨1⟩ true) trivial done ⟨1⟩ still changed⟩

end Drafting.Session
