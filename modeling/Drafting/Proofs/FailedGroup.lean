import Drafting.Proofs.Failing
import Drafting.Proofs.Inventory
/-! A group that cannot be made. It is taken out again, and with it goes all that was made of it but the
parameters of its kind, which stay behind without a group. -/
namespace Drafting

namespace Sketch

/-- Every parameter belongs to a group that is there. -/
structure Housed (s : Sketch α) : Prop extends s.Furnished where
  homes : ∀ p x, s.params.get? p = some x → ∃ g, s.groups.get? x.group = some g

theorem startHoused : ({} : Sketch α).Housed where
  toFurnished := startFurnished
  homes _ _ found := by simp [Registry.get?] at found

variable [Scalar α] {s t : Sketch α}

omit [Scalar α] in
theorem Housed.step (h : s.Housed) (furnished : t.Furnished) (kept : KeepsGroups s t)
    (params : ∀ p x, t.params.get? p = some x →
      (∃ y, s.params.get? p = some y ∧ y.group = x.group) ∨ ∃ g, s.groups.get? x.group = some g) : t.Housed where
  toFurnished := furnished
  homes p x found := by
    rcases params p x found with ⟨y, before, same⟩ | ⟨g, there⟩
    · obtain ⟨g, there⟩ := h.homes p y before
      exact kept _ g (same ▸ there)
    · exact kept _ g there

omit [Scalar α] in
theorem Housed.same (h : s.Housed) (furnished : t.Furnished) (kept : KeepsGroups s t) (params : t.params = s.params) :
    t.Housed := h.step furnished kept fun _ x found => .inl ⟨x, params ▸ found, rfl⟩

theorem Change.homes (step : Change s t) (h : s.params.Consistent) (p : ParamId) (x : Param α)
    (now : t.params.get? p = some x) :
    (∃ y, s.params.get? p = some y ∧ y.group = x.group) ∨ ∃ g, s.groups.get? x.group = some g := by
  have filtered {keep : Param α → Bool} (now : (s.params.filter keep).get? p = some x) :
      ∃ y, s.params.get? p = some y ∧ y.group = x.group := ⟨x, (h.foundFilter.mp now).1, rfl⟩
  have entered {g : GroupId} {ids : List ParamId} {after : Registry ParamId (Param α)} (new : Entered g ids s.params after)
      (registered : ∃ record, s.groups.get? g = some record) (now : after.get? p = some x) :
      (∃ y, s.params.get? p = some y ∧ y.group = x.group) ∨ ∃ g, s.groups.get? x.group = some g := by
    rcases new.found now with ⟨_, group⟩ | ⟨_, before⟩
    · exact .inr (group ▸ registered)
    · exact .inl ⟨x, before, rfl⟩
  cases step with
  | adjusted step =>
    cases step with
    | @value p' r found v =>
      change (s.params.modify p' ({ · with value := v })).get? p = some x at now
      obtain ⟨y, there, same⟩ := (h.foundModify p' (f := ({ · with value := v })) fun _ same => same).mp now
      refine .inl ⟨y, there, ?_⟩
      rw [← same]
      split <;> rfl
    | @constrained c g fresh registered => exact entered (helpersEntered h c) ⟨g, registered⟩ now
    | released => exact .inl (filtered now)
    | dirty | restated | redirected => exact .inl ⟨x, now, rfl⟩
  | @drawn r fresh allowed =>
    have numbered : ({ s with nextRequest := s.nextRequest + 1 } : Sketch α).params.Consistent := h
    exact entered (enterRequestParams numbered (fun _ => none) r) (checkRequestOk allowed).1 now
  | construction => exact .inl ⟨x, now, rfl⟩
  | erased => exact .inl (filtered now)

theorem Changes.housed (steps : Changes s t) (h : s.Housed) : t.Housed := by
  induction steps with
  | refl => exact h
  | tail steps step ih =>
    have furnished := Changes.furnished (.single step) ih.toFurnished
    exact ih.step furnished (step.steady heldLasting ih.toConsistent).keepsGroups (step.homes ih.params)

theorem generateGroupHoused {id : GroupId} (h : s.Housed) (ok : generateGroup id s = (.ok (), t)) : t.Housed := by
  have furnished := generateGroupFurnished h.toFurnished ok
  obtain ⟨g, c, found, rfl, made, rfl⟩ := generateGroupOk h.groups ok
  have new := regrownSpec h.params (copiedFits h.entities made)
  refine h.step furnished (regrownSteady heldLasting h.toConsistent new).keepsGroups fun p x now => ?_
  rcases new.params.found now with ⟨_, group⟩ | ⟨_, before⟩
  · exact .inr (group ▸ ⟨g, found⟩)
  · exact .inl ⟨x, (h.params.foundFilter.mp before).1, rfl⟩

omit [Scalar α] in
theorem Housed.record (h : s.Housed) (id : GroupId) {f : Group α → Group α} (keeps : ∀ g, g.id = id → (f g).id = id)
    (furnished : (s.modifyGroup id f).Furnished) : (s.modifyGroup id f).Housed := by
  refine h.same furnished ?_ rfl
  exact Steady.keepsGroups (f := fun _ => ()) (steadyRecord h.toConsistent id keeps fun _ _ => rfl)

theorem solveGroupHoused (h : s.Housed) (group : GroupId) (config : SolverConfig α) (clock : Nat → Nat) :
    (s.solveGroup group config clock).2.Housed := by
  have furnished := solveGroupFurnished h.toFurnished group config clock
  cases found : s.groups.get? group with
  | none =>
    rw [solveGroupMissing found]
    exact h
  | some g =>
    obtain ⟨u, outcome, steps, result⟩ := solveGroupSteps h.toConsistent found config clock
    rw [result] at furnished ⊢
    exact (Changes.housed steps.changes h).record group (fun _ same => same) furnished

theorem rebuiltHoused {config : EngineConfig α} {clock : Nat → Nat} {group : GroupId} (h : s.Housed)
    (step : Regen.Rebuilt config clock s group t) : t.Housed := by
  have furnished := rebuiltFurnished h.toFurnished step
  obtain ⟨u, loops, shell, running, failures, made, rfl⟩ := step
  have solved := solveGroupHoused (generateGroupHoused h made) group config.solver clock
  exact solved.record group (fun _ same => same) furnished

omit [Scalar α] in
theorem withGroupHoused (h : s.Housed) (name : String) (kind : GroupKind α) (source : Option GroupId) :
    (s.withGroup name kind source).Housed := by
  refine h.same (withGroupFurnished h.toFurnished name kind source) (fun k g found => ?_) rfl
  unfold withGroup
  rw [h.groups.getAdd]
  split
  · exact ⟨_, rfl⟩
  · exact ⟨g, found⟩

/-- The same records, with some parameters behind the others. A number for a group has been used up. -/
structure Littered (s : Sketch α) (left : List (Param α)) (t : Sketch α) : Prop where
  version : t.version = s.version
  groups : s.groups.Same t.groups
  requests : t.requests = s.requests
  constraints : t.constraints = s.constraints
  entities : s.entities.Same t.entities
  params : t.params.toList = s.params.toList ++ left
  nextGroup : t.nextGroup = s.nextGroup + 1
  nextRequest : t.nextRequest = s.nextRequest
  nextConstraint : t.nextConstraint = s.nextConstraint

def beginnings (s : Sketch α) (g : Group α) : List (Param α) := (s.groupParams g).map fun (p, x) => ⟨p, g.id, x⟩

theorem beginningsIds (s : Sketch α) (g : Group α) : (s.beginnings g).map Param.id = g.ownParams := by
  rw [beginnings, List.map_map]
  exact groupParamIds s g

theorem addGroupError {name : String} {kind : GroupKind α} {source : Option GroupId} {cause : SketchError}
    (failed : addGroup name kind source s = (.error cause, t)) : (s.checkGroup kind source = .error cause ∧ t = s) ∨
      ∃ u, s.checkGroup kind source = .ok () ∧
        generateGroup ⟨s.nextGroup⟩ (s.withGroup name kind source) = (.error cause, u) ∧
          t = { u with groups := u.groups.remove ⟨s.nextGroup⟩ } := by
  rw [addGroup, Attempt.runBind, Edit.runRead] at failed
  cases checked : s.checkGroup kind source with
  | error e =>
    rw [checked] at failed
    cases failed
    exact .inl ⟨rfl, rfl⟩
  | ok _ =>
    rw [checked] at failed
    dsimp only at failed
    rw [Attempt.getBind, Attempt.runBind, Attempt.runModify] at failed
    rcases Attempt.bindError.mp failed with tried | ⟨_, _, _, last⟩
    · rw [Attempt.runTry] at tried
      unfold withGroup
      generalize (generateGroup ⟨s.nextGroup⟩ : Edit α SketchError Unit) _ = result at tried ⊢
      rcases result with ⟨e | x, u⟩
      · cases tried
        exact .inr ⟨u, rfl, rfl, rfl⟩
      · cases tried
    · cases last

section Fresh
variable {g : Group α}

structure Vacant (s : Sketch α) (id : GroupId) : Prop where
  requests : ∀ q ∈ s.requests.toList, q.group ≠ id
  entities : ∀ e ∈ s.entities.toList, e.group ≠ id
  params : ∀ x ∈ s.params.toList, x.group ≠ id ∧ x.id.owner ≠ .group id

omit [Scalar α] in
theorem Housed.vacant (h : s.Housed) (name : String) (kind : GroupKind α) (source : Option GroupId) :
    (s.withGroup name kind source).Vacant ⟨s.nextGroup⟩ := by
  have free {k : GroupId} (there : ∃ g, s.groups.get? k = some g) : k ≠ ⟨s.nextGroup⟩ := by
    rintro rfl
    obtain ⟨g, found⟩ := there
    exact absurd (h.groupNumbers _ g found) (Nat.lt_irrefl _)
  constructor
  · intro q member
    exact free (h.requestGroups q.id q (h.requests.getOfMem member))
  · intro e member
    exact free (h.toFurnished.owner (h.entities.getOfMem member))
  · intro x member
    have found := h.params.getOfMem member
    have home := free (h.homes x.id x found)
    refine ⟨home, fun owner => home ?_⟩
    have owned := h.owned x.id x found
    simp only [OwnedBy, owner] at owned
    exact owned.symm

theorem redrawnFresh (h : s.Consistent) (vacant : s.Vacant g.id) (solid : g.kind.isSolid = true) :
    (s.redrawn g).entities.toList = s.entities.toList ∧
      (s.redrawn g).params.toList = s.params.toList ++ s.beginnings g := by
  have undrawn : s.requestsOf g = [] :=
    List.filter_eq_nil_iff.mpr fun q member => by simpa using vacant.requests q member
  have unfixed : fixtures g = [] := by
    unfold fixtures
    split
    · rename_i kind
      rw [kind] at solid
      cases solid
    · rfl
  have others : s.entities.toList.filter (·.group != g.id) = s.entities.toList :=
    List.filter_eq_self.mpr fun e member => bne_iff_ne.mpr (vacant.entities e member)
  have before : s.params.toList.filter (·.group != g.id) = s.params.toList :=
    List.filter_eq_self.mpr fun x member => bne_iff_ne.mpr (vacant.params x member).1
  constructor
  · rw [redrawnRecords, undrawn, unfixed]
    exact others
  · have unkept : s.groupValues g.id = {} := by
      have none : s.params.toList.filter (·.group == g.id) = [] :=
        List.filter_eq_nil_iff.mpr fun x member => by simpa using (vacant.params x member).1
      rw [groupValues, none]
      rfl
    have entered : (s.redrawn g).params = (s.beginnings g).foldl Registry.add (s.params.filter (·.group != g.id)) := by
      rw [redrawn, undrawn, unkept, beginnings, List.foldl_map]
      simp only [List.foldl_nil, enterEntities, enterGroupParams, clearGroup]
      simp
    rw [entered, (h.params.filter _).toListAddAll, Registry.toListFilter, before]
    · exact beginningsIds s g ▸ g.paramsDistinct
    · intro x member there
      obtain ⟨y, stands, same⟩ := Registry.memKeys.mp there
      have own : x.id ∈ g.ownParams := beginningsIds s g ▸ List.mem_map_of_mem member
      have owner : y.id.owner = .group g.id := (congrArg ParamId.owner same).trans (ownParamsOwned own)
      exact (vacant.params y (List.mem_filter.mp stands).1).2 owner

end Fresh

/- A group is refused, or what it copies cannot be placed. Then it is taken out again and its parameters are left. -/
theorem failedGroupLitters (h : s.Housed) {name : String} {kind : GroupKind α} {source : Option GroupId}
    {cause : SketchError} (failed : addGroup name kind source s = (.error cause, t)) :
    (s.checkGroup kind source = .error cause ∧ t = s) ∨ ∃ g, s.checkGroup kind source = .ok () ∧ g.id = ⟨s.nextGroup⟩ ∧
      g.kind = kind ∧ (s.withGroup name kind source).Blocked g cause ∧
        Littered s ((s.withGroup name kind source).beginnings g) t := by
  rcases addGroupError failed with refused | ⟨u, checked, run, rfl⟩
  · exact .inl refused
  refine .inr ?_
  have entered := withGroupFurnished h.toFurnished name kind source
  obtain ⟨g, found, sameKind⟩ : ∃ g, (s.withGroup name kind source).groups.get? ⟨s.nextGroup⟩ = some g ∧ g.kind = kind :=
    ⟨_, h.groups.getAddSelf _, rfl⟩
  have named : g.id = ⟨s.nextGroup⟩ := entered.groups.keyOfGet found
  have there : (s.withGroup name kind source).groups.get? g.id = some g := named.symm ▸ found
  rw [generateGroupRun found named] at run
  cases copied : (s.withGroup name kind source).copied g with
  | ok c =>
    rw [copied] at run
    cases run
  | error e =>
    rw [copied] at run
    cases run
    have blocked := copiedFails entered there copied
    refine ⟨g, checked, named, sameKind, blocked, ?_⟩
    have solid : g.kind.isSolid = true := by
      by_contra plain
      rw [Sketch.copied, if_neg plain] at copied
      cases copied
    have vacant := h.vacant name kind source
    rw [← named] at vacant
    have consistent := entered.toConsistent
    obtain ⟨entities, params⟩ := redrawnFresh consistent vacant solid
    have records := redrawnRecords (s.withGroup name kind source) g
    have after := redrawnAll consistent g
    constructor
    case groups =>
      rw [records]
      refine h.groups.sameRemoved ?_
      cases taken : s.groups.get? ⟨s.nextGroup⟩ with
      | none => rfl
      | some g' => exact absurd (h.groupNumbers _ g' taken) (Nat.lt_irrefl _)
    case entities => exact h.entities.same after.entities entities
    case params => exact params
    all_goals
      rw [records]
      rfl

theorem blockedNotAdded (h : s.Housed) {name : String} {kind : GroupKind α} {source : Option GroupId} {id : GroupId}
    (solid : kind.isSolid = true) (blocked : ∀ g, (s.withGroup name kind source).groups.get? ⟨s.nextGroup⟩ = some g →
      g.kind = kind → g.source = source → ∃ cause, (s.withGroup name kind source).Blocked g cause) :
    addGroup name kind source s ≠ (.ok id, t) := by
  intro ok
  obtain ⟨rfl, made⟩ := addGroupOk ok
  have entered := withGroupFurnished h.toFurnished name kind source
  obtain ⟨g, c, found, named, copied, _⟩ := generateGroupOk entered.groups made
  obtain ⟨sameKind, sameSource⟩ : g.kind = kind ∧ g.source = source := by
    obtain rfl := Option.some.inj (found.symm.trans (h.groups.getAddSelf _))
    exact ⟨rfl, rfl⟩
  obtain ⟨cause, stands⟩ := blocked g found sameKind sameSource
  obtain ⟨_, flat, _⟩ := blockedCopied entered (named.symm ▸ found) copied stands
  rw [sameKind, solid] at flat
  cases flat

end Sketch

namespace Session
open Sketch
variable [Scalar α] {s t : Session α} {clock : Nat → Nat}

theorem housedLasting : Lasting (α := α) (fun _ => True) Housed where
  start := startHoused
  changes steps h := Changes.housed steps h
  added {s t name kind source id} h ok := generateGroupHoused (withGroupHoused h name kind source) (addGroupOk ok).2
  changed {s group g list} h may found := by
    have named := GroupChange.allKeep (f := Group.id) (fun _ c => by cases c <;> rfl) list g
    have furnished : (s.modifyGroup group fun _ => list.foldl GroupChange.apply g).Furnished :=
      furnishedLasting.changed h.toFurnished may found
    exact h.record group (fun _ _ => named.trans (h.groups.keyOfGet found)) furnished
  solved group config clock h := solveGroupHoused h group config clock
  rebuilt h step := rebuiltHoused h step

theorem reachedHoused {config : EngineConfig α} (h : Reached config s) : s.Throughout Housed := by
  induction h with
  | start => exact ⟨startHoused, fun _ member => nomatch member⟩
  | step _ ok ih => exact performLasting housedLasting ih trivial ok

/- A group that is not added leaves the other records as they were. What stays of it, if it was not refused at
once, is each parameter of its kind, without a group that has it. -/
theorem failedGroupLeavesParams {config : EngineConfig α} {name : String} {kind : GroupKind α} {source : Option GroupId}
    {error : SessionError α} (reached : Reached config s)
    (failed : perform clock (.addGroup name kind source) s = (.error error, t)) :
    t = s.withSketch t.sketch ∧ ∃ cause, error = .sketch cause ∧
      ((s.sketch.checkGroup kind source = .error cause ∧ t.sketch = s.sketch) ∨
        ∃ g, s.sketch.checkGroup kind source = .ok () ∧ g.id = ⟨s.sketch.nextGroup⟩ ∧ g.kind = kind ∧
          (s.sketch.withGroup name kind source).Blocked g cause ∧
            Littered s.sketch ((s.sketch.withGroup name kind source).beginnings g) t.sketch) := by
  change Work.edit _ _ _ _ = _ at failed
  unfold Work.edit at failed
  rcases run : Sketch.addGroup name kind source s.sketch with ⟨cause | id, u⟩
  · rw [run] at failed
    cases failed
    exact ⟨rfl, cause, rfl, failedGroupLitters (reachedHoused reached).1 run⟩
  · rw [run] at failed
    cases failed

/- Copies of a point whose workplane has been deleted cannot be made; the three parameters of their step stay. -/
theorem lostCopiesLeaveStep : ∃ (s t : Session Float) (cause : SketchError), Reached .standard s ∧
    perform id (.addGroup "again" (.copiesAlong 1) (some ⟨1⟩)) s = (.error (.sketch cause), t) ∧
      t.sketch.groups.toList = s.sketch.groups.toList ∧
        t.sketch.params.toList.length = s.sketch.params.toList.length + 3 := by
  obtain ⟨s, reached, known⟩ := strandedReached
  let kind : GroupKind Float := .copiesAlong 1
  have housed := (reachedHoused reached).1
  have intact := housed.toIntact
  have checked : s.sketch.checkGroup kind (some ⟨1⟩) = .ok () :=
    if_pos (intact.groups.containsIff.mpr ⟨drawingGroup, known.groups.first⟩)
  rcases run : perform id (.addGroup "again" kind (some ⟨1⟩)) s with ⟨error | answer, t⟩
  · obtain ⟨_, cause, rfl, refused | ⟨g, _, _, copies, _, litter⟩⟩ := failedGroupLeavesParams reached run
    · cases checked.symm.trans refused.1
    · refine ⟨s, t, cause, reached, run, litter.groups.list, ?_⟩
      rw [litter.params, List.length_append, beginnings, List.length_map, groupParams, copies]
      rfl
  -- Had the group been added, the point would have been copied.
  · obtain ⟨_, u, added, _⟩ := editOk run
    refine absurd added (blockedNotAdded housed rfl fun g found sameKind sameSource => ?_)
    have entered := withGroupFurnished housed.toFurnished "again" kind (some ⟨1⟩)
    have named := entered.groups.keyOfGet found
    have vacant : (s.sketch.withGroup "again" kind (some ⟨1⟩)).Vacant g.id := by
      rw [show g.id = ⟨s.sketch.nextGroup⟩ from named]
      exact housed.vacant "again" kind (some ⟨1⟩)
    have solid : g.kind.isSolid = true := sameKind ▸ rfl
    obtain ⟨entities, _⟩ := redrawnFresh entered.toConsistent vacant solid
    let spot : Entity Float := pin.part pin.entity (.pointIn2d ⟨pin.param 0, pin.param 1⟩)
    have drawn := intact.present pin.id pin (known.pinned intact) spot List.mem_cons_self
    refine ⟨.entityNotFound tilted.entity, .copying (e := spot) (sameKind ▸ rfl) sameSource ?_ rfl (.inl rfl) rfl (.gone ?_)⟩
    · rw [entities]
      exact Registry.memOfGet drawn
    · rw [(redrawnConsistent entered.entities g).getNone, Registry.keys, entities]
      exact intact.entities.getNone.mp (known.gone intact)

end Session
end Drafting
