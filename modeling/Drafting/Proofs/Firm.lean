import Drafting.Proofs.Detaching
import Drafting.Proofs.Naming
/-! Names that stay. A constraint is checked when it is added, and later edits put other entities in place of points
only. So whatever else it names is, as long as it is there, of the class that was asked for then. -/
namespace Drafting

namespace ConstraintKind

theorem slotsOfSetValue (x : α) (k : ConstraintKind α) : (k.setValue x).slots = k.slots := by
  cases k <;> rfl

end ConstraintKind

def Constraint.fixedNames (c : Constraint α) : List (EntityClass × EntityId) :=
  c.kind.slots.filter (·.1 != .point) ++ c.workplane.toList.map (.workplane, ·)

theorem fixedOfMapPoints (f : EntityId → EntityId) (c : Constraint α) :
    ({ c with kind := c.kind.mapPoints f } : Constraint α).fixedNames = c.fixedNames := by
  unfold Constraint.fixedNames
  rw [ConstraintKind.slotsOfMapPoints, List.filter_map]
  congr 1
  refine (List.map_congr_left fun slot member => ?_).trans (List.map_id _)
  have other : slot.1 ≠ .point := by simpa using (List.mem_filter.mp member).2
  exact Prod.ext rfl (if_neg other)

theorem fixedOfSlots {c : Constraint α} {kind : ConstraintKind α} (same : kind.slots = c.kind.slots) :
    ({ c with kind } : Constraint α).fixedNames = c.fixedNames := by
  unfold Constraint.fixedNames
  rw [same]

namespace Sketch
variable {s t : Sketch α}

/-- A name is older than any request to come, and of a request that is there it names a part of the class. -/
def Fixed (s : Sketch α) (name : EntityClass × EntityId) : Prop :=
  ∀ r, name.2.origin = .request r → r.number < s.nextRequest ∧
    ∀ q, s.requests.get? r = some q → ∃ e ∈ q.entities (α := α), e.id = name.2 ∧ e.isA name.1 = true

structure Firm (s : Sketch α) : Prop extends s.Intact where
  fixed : ∀ c k, s.constraints.get? c = some k → ∀ name ∈ k.fixedNames, s.Fixed name

theorem startFirm : ({} : Sketch α).Firm where
  toIntact := startIntact
  fixed _ _ found := by simp [Registry.get?] at found

theorem Fixed.later {name : EntityClass × EntityId} (h : s.Fixed name) (numbers : s.nextRequest ≤ t.nextRequest)
    (requests : ∀ r q, t.requests.get? r = some q → r.number < s.nextRequest →
      ∃ (q' : Request) (b : Bool), s.requests.get? r = some q' ∧ q = { q' with construction := b }) : t.Fixed name := by
  intro r origin
  obtain ⟨below, parts⟩ := h r origin
  refine ⟨Nat.lt_of_lt_of_le below numbers, fun q found => ?_⟩
  obtain ⟨q', b, before, rfl⟩ := requests r q found below
  obtain ⟨e, part, named, is⟩ := parts q' before
  rw [Request.entitiesOfConstruction]
  exact ⟨_, List.mem_map_of_mem part, named, is⟩

theorem Firm.later (h : s.Firm) (intact : t.Intact) (numbers : s.nextRequest ≤ t.nextRequest)
    (requests : ∀ r q, t.requests.get? r = some q → r.number < s.nextRequest →
      ∃ (q' : Request) (b : Bool), s.requests.get? r = some q' ∧ q = { q' with construction := b })
    (constraints : ∀ c k, t.constraints.get? c = some k →
      ∃ c' k', s.constraints.get? c' = some k' ∧ k'.fixedNames = k.fixedNames) : t.Firm where
  toIntact := intact
  fixed c k found name member := by
    obtain ⟨c', k', before, same⟩ := constraints c k found
    exact (h.fixed c' k' before name (same ▸ member)).later numbers requests

theorem Firm.same (h : s.Firm) (intact : t.Intact) (numbers : t.nextRequest = s.nextRequest)
    (requests : t.requests = s.requests)
    (constraints : ∀ c k, t.constraints.get? c = some k → s.constraints.get? c = some k) : t.Firm :=
  h.later intact numbers.ge (fun _ q found _ => ⟨q, q.construction, requests ▸ found, rfl⟩)
    fun c k found => ⟨c, k, constraints c k found, rfl⟩

variable [Scalar α]

theorem Adjustments.nextRequest (steps : Adjustments s t) : t.nextRequest = s.nextRequest := by
  induction steps with
  | refl => rfl
  | tail _ step ih => exact .trans (by cases step <;> rfl) ih

theorem Firm.adjusted (h : s.Firm) (steps : Adjustments s t) (constraints : ∀ c k, t.constraints.get? c = some k →
    ∃ c' k', s.constraints.get? c' = some k' ∧ k'.fixedNames = k.fixedNames) : t.Firm :=
  h.later (steps.intact h.toIntact) steps.nextRequest.ge
    (fun _ q found _ => ⟨q, q.construction, steps.requests ▸ found, rfl⟩) constraints

theorem validFixed (h : s.Intact) {c : Constraint α} (valid : s.validate c.group c.workplane c.kind = .ok ()) :
    ∀ name ∈ c.fixedNames, s.Fixed name := by
  have there : ∀ name ∈ c.fixedNames, s.Has name.1 name.2 := by
    intro name member
    rcases List.mem_append.mp member with slot | plane
    · exact (validNames valid).2 name (List.mem_filter.mp slot).1
    · obtain ⟨w, lies, rfl⟩ := List.mem_map.mp plane
      exact (validNames valid).1 w (Option.mem_toList.mp lies)
  intro name member r origin
  obtain ⟨e, found, is⟩ := there name member
  obtain ⟨q, registered, part⟩ := h.drawn name.2 e r found origin
  refine ⟨h.requestNumbers r q registered, fun q' found' => ?_⟩
  obtain rfl := Option.some.inj (registered.symm.trans found')
  exact ⟨e, part, h.entities.keyOfGet found, is⟩

abbrev KeepsFirm (s t : Sketch α) : Prop := s.Firm → t.Firm

theorem restatedFirm (h : s.Firm) {id : ConstraintId} {c : Constraint α} (found : s.constraints.get? id = some c)
    {kind : ConstraintKind α} (helpers : ∀ w, kind.helperCount w = c.kind.helperCount w) (slots : kind.slots = c.kind.slots) :
    Firm { s with constraints := s.constraints.modify id ({ · with kind }) } := by
  refine h.adjusted (.single (.restated found helpers)) fun i k there => ?_
  have keeps : ∀ y : Constraint α, y.id = id → ({ y with kind } : Constraint α).id = id := fun _ same => same
  change (s.constraints.modify id ({ · with kind })).get? i = some k at there
  rw [h.constraints.getModify id keeps, found] at there
  split at there
  · cases there
    exact ⟨id, c, found, (fixedOfSlots slots).symm⟩
  · exact ⟨i, k, there, rfl⟩

theorem setParamFirm (p : ParamId) (x : α) (s : Sketch α) : KeepsFirm s ((setParam p x).attempt s) := by
  intro h
  refine h.adjusted (setParamGradual p x s) fun c k found => ⟨c, k, ?_, rfl⟩
  rw [setParamAttempt] at found
  split at found <;> exact found

theorem deleteConstraintFirm (id : ConstraintId) (s : Sketch α) : KeepsFirm s ((deleteConstraint id).attempt s) := by
  intro h
  refine h.adjusted (deleteConstraintGradual id s) fun c k found => ⟨c, k, ?_, rfl⟩
  have there := (deletedGet h.toConsistent [id] c).symm.trans found
  split at there
  · cases there
  · exact there

theorem markDirtyFirm (group : GroupId) (s : Sketch α) : KeepsFirm s (s.markDirty group) :=
  fun h => h.adjusted (.single (.dirty s group)) fun c k found => ⟨c, k, found, rfl⟩

theorem remeasureFirm (id : ConstraintId) : Edit.Gradual (KeepsFirm (α := α)) (remeasure id) :=
  remeasureBy (fun found measured => .single fun h => restatedFirm h found (helpersOfMeasured measured)
    (measuredKeeps (f := ConstraintKind.slots) ConstraintKind.slotsOfSetValue (fun _ _ _ _ _ _ => rfl) measured)) id

omit [Scalar α] in
theorem replacedGet (h : s.Consistent) (old new : EntityId) (c : ConstraintId) :
    (s.replacePoint old new).2.constraints.get? c = (s.constraints.get? c).map fun k =>
      { k with kind := k.kind.mapPoints fun p => if p = old then new else p } := by
  rw [replacePoint]
  dsimp only
  rw [dirtyConstraints]
  exact h.constraints.getMap (f := fun k => { k with kind := k.kind.mapPoints fun p => if p = old then new else p })
    (fun _ => rfl) c

theorem replacePointFirm (s : Sketch α) (old new : EntityId) : KeepsFirm s (s.replacePoint old new).2 := by
  intro h
  refine h.adjusted (replacePointGradual s old new) fun c k found => ?_
  rw [replacedGet h.toConsistent] at found
  obtain ⟨k', before, rfl⟩ := Option.map_eq_some_iff.mp found
  exact ⟨c, k', before, (fixedOfMapPoints _ k').symm⟩

theorem enteredFirm (h : s.Firm) {c : Constraint α} {g : Group α} (fresh : c.id = ⟨s.nextConstraint⟩)
    (registered : s.groups.get? c.group = some g) (valid : s.validate c.group c.workplane c.kind = .ok ()) :
    Firm { s with
      nextConstraint := s.nextConstraint + 1
      params := c.helpers.foldl (fun ps p => ps.add ⟨p, c.group, 0.0⟩) s.params
      constraints := s.constraints.add c } where
  toIntact := h.constrained fresh registered
  fixed i k found := by
    rcases h.constraints.foundAdd found with ⟨_, rfl⟩ | before
    · exact validFixed h.toIntact valid
    · exact h.fixed i k before

theorem drawnFirm (h : s.Firm) {r : Request} (fresh : r.id = ⟨s.nextRequest⟩)
    (allowed : s.checkRequest r.group r.kind r.workplane = .ok ()) : Firm (
      let t := { s with nextRequest := s.nextRequest + 1 }.enterRequest (fun _ => none) r
      { t with requests := t.requests.add r }.markDirty r.group) := by
  have intact := (h.drawnRequest fresh allowed).markDirty r.group
  dsimp only at intact ⊢
  rw [enterRequestRecords] at intact ⊢
  refine h.later intact (Nat.le_succ _) (fun i q found below => ?_) fun c k found => ⟨c, k, found, rfl⟩
  rcases h.requests.foundAdd found with ⟨same, _⟩ | before
  · rw [← show r.id = i from same, fresh] at below
    exact absurd below (Nat.lt_irrefl _)
  · exact ⟨q, q.construction, before, rfl⟩

omit [Scalar α] in
theorem constructionFirm (h : s.Firm) (id : RequestId) (r : Request) (construction : Bool) : Firm ({ s with
    requests := s.requests.modify id ({ · with construction })
    entities := s.entities.map fun e =>
      if e.id.request? = some id then { e with construction } else e }.markDirty r.group) := by
  refine h.later ((h.construction id construction).markDirty r.group) (Nat.le_refl _) (fun i q found _ => ?_)
    fun c k found => ⟨c, k, found, rfl⟩
  obtain ⟨q', before, rfl⟩ := (h.requests.foundModify id (f := ({ · with construction })) fun _ same => same).mp found
  split
  · exact ⟨q', construction, before, rfl⟩
  · exact ⟨q', q'.construction, before, rfl⟩

omit [Scalar α] in
theorem erasedFirm (h : s.Firm) (id : RequestId) (r : Request) : Firm ({ s with
    entities := s.entities.filter fun e => !(e.id.request? == some id)
    params := s.params.filter (·.id.owner != ParamOwner.request id)
    requests := s.requests.remove id }.markDirty r.group) := by
  refine h.later ((h.erased id).markDirty r.group) (Nat.le_refl _) (fun i q found _ => ?_)
    fun c k found => ⟨c, k, found, rfl⟩
  exact ⟨q, q.construction, (h.requests.foundRemove.mp found).2, rfl⟩

instance : Draws (KeepsFirm (α := α)) where
  setParam p x s := .single (setParamFirm p x s)
  addConstraint group workplane kind reference :=
    addConstraintBy (fun found valid => .single fun h => enteredFirm h rfl found valid)
      (fun p x s => .single (setParamFirm p x s)) remeasureFirm (fun id s => .single (deleteConstraintFirm id s))
      fun s => .single (markDirtyFirm group s)
  setConstraintValue id value := Edit.gradualReadBind fun s c found => .single fun h => by
    have restated := restatedFirm h (constraintFound.mp found) (helpersOfSetValue value c.kind)
      (ConstraintKind.slotsOfSetValue value c.kind)
    exact markDirtyFirm c.group _ restated
  deleteConstraint id s := .single (deleteConstraintFirm id s)
  replacePoint s old new := .single (replacePointFirm s old new)
  addRequest group kind workplane construction := Edit.gradualReadBind fun s _ allowed =>
    .single fun h => drawnFirm h (r := ⟨⟨s.nextRequest⟩, group, workplane, kind, construction⟩) rfl allowed
  setConstruction id construction := Edit.gradualReadBind fun _ q _ =>
    .single fun h => constructionFirm h id q construction
  erase {_ id q} _ := .single fun h => erasedFirm h id q

theorem generateGroupFirm (h : s.Firm) {id : GroupId} (ok : generateGroup id s = (.ok (), t)) : t.Firm := by
  obtain ⟨g, c, _, _, made, rfl⟩ := generateGroupOk h.groups ok
  have new := regrownSpec h.params (copiedFits h.entities made)
  exact h.same (generateGroupIntact h.toIntact ok) new.nextRequest new.requests fun _ _ found => new.constraints ▸ found

omit [Scalar α] in
theorem modifyGroupFirm (h : s.Firm) {id : GroupId} {f : Group α → Group α} (intact : (s.modifyGroup id f).Intact) :
    (s.modifyGroup id f).Firm := h.same intact rfl rfl fun _ _ found => found

theorem solveGroupFirm (h : s.Firm) (group : GroupId) (config : SolverConfig α) (clock : Nat → Nat) :
    (s.solveGroup group config clock).2.Firm := by
  have intact := Regen.solveGroupIntact h.toIntact group config clock
  cases found : s.groups.get? group with
  | none =>
    rw [solveGroupMissing found]
    exact h
  | some g =>
    obtain ⟨u, outcome, steps, result⟩ := solveGroupSteps h.toConsistent found config clock
    obtain ⟨gone, _, settled⟩ := solveGroupSettles h.toIntact group config clock
    have left := settled.remaining
    rw [result] at intact left ⊢
    refine h.same intact steps.nextRequest steps.requests fun c k there => ?_
    have member : k ∈ s.constraints.toList.filter (·.id ∉ gone) := left ▸ Registry.memOfGet there
    have named : k.id = c := intact.constraints.keyOfGet there
    exact named ▸ h.constraints.getOfMem (List.mem_filter.mp member).1

theorem rebuiltFirm {config : EngineConfig α} {clock : Nat → Nat} {id : GroupId} (h : s.Firm)
    (step : Regen.Rebuilt config clock s id t) : t.Firm := by
  have intact := Regen.rebuiltIntact h.toIntact step
  obtain ⟨u, loops, shell, running, failures, made, rfl⟩ := step
  exact modifyGroupFirm (solveGroupFirm (generateGroupFirm h made) id config.solver clock) intact

end Sketch

namespace Session
open Sketch
variable [Scalar α] {s : Session α}

theorem firmOutlasting : Outlasting (α := α) (fun _ => True) Firm where
  start := startFirm
  marked group h := markDirtyFirm group _ h
  remeasured {s} id h := keepsAll (remeasureFirm id s) h
  added {s t name kind source id} h ok := by
    obtain ⟨_, made⟩ := addGroupOk ok
    have entered : (s.withGroup name kind source).Firm :=
      h.same (withGroupIntact h.toIntact name kind source) rfl rfl fun _ _ found => found
    exact generateGroupFirm entered made
  changed h _ found := modifyGroupFirm h (changeGroupIntact h.toIntact found _)
  solved group config clock h := solveGroupFirm h group config clock
  rebuilt h step := rebuiltFirm h step

theorem reachedFirm {config : EngineConfig α} (h : Reached config s) : s.Throughout Firm := by
  induction h with
  | start => exact ⟨startFirm, fun _ member => nomatch member⟩
  | step _ ok ih => exact performOutlasting firmOutlasting ih trivial ok

end Session
end Drafting
