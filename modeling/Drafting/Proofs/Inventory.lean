import Drafting.Proofs.Dependency
import Drafting.Proofs.Steady
/-! What a sketch holds against what it is made of. No number is given twice; the drawn entities are those
that the requests expand into, and every parameter is one of those that its request, group or constraint
needs, with the group of that. -/
namespace Drafting

namespace ParamOwner

def isRequest : ParamOwner → Bool
  | request _ => true
  | _ => false

def isGroup : ParamOwner → Bool
  | group _ => true
  | _ => false

def isConstraint : ParamOwner → Bool
  | constraint _ => true
  | _ => false

end ParamOwner

def Group.ownParams (g : Group α) : List ParamId :=
  match g.kind with
  | .drawing3d | .drawingWorkplane .. | .lathe _ => []
  | .extrude .. | .translate .. => g.delta.toList
  | .rotate .. => g.rotateCenter.toList ++ g.rotateAxis.toList ++ [g.rotateAngle]
  | .revolve _ => [g.revolveAngle]
  | .linked .. => g.linkOffset.toList ++ [g.linkRotation.w, g.linkRotation.x, g.linkRotation.y, g.linkRotation.z]

theorem groupParamIds [Scalar α] (s : Sketch α) (g : Group α) : (s.groupParams g).map Prod.fst = g.ownParams := by
  unfold Sketch.groupParams Group.ownParams
  cases g.kind <;> simp [Vec3.toList]

theorem ownParamsOwned [Scalar α] {g : Group α} {p : ParamId} (member : p ∈ g.ownParams) : p.owner = .group g.id :=
  Sketch.groupParamsOwned {} g p (groupParamIds {} g ▸ member)

theorem Group.paramsDistinct (g : Group α) : g.ownParams.Nodup := by
  unfold ownParams
  cases g.kind <;> simp [Vec3.toList, delta, rotateCenter, rotateAxis, rotateAngle, revolveAngle, linkOffset,
    linkRotation, paramVec, param, ParamId.group]

theorem Constraint.helpersDistinct (c : Constraint α) : c.helpers.Nodup :=
  List.Nodup.map (fun _ _ same => congrArg ParamId.index same) List.nodup_range

theorem Request.paramsDistinct [Scalar α] (q : Request) : ((q.params (α := α)).map Prod.fst).Nodup := by
  rw [paramIds]
  rcases q with ⟨id, group, workplane, kind, construction⟩
  cases workplane <;> cases kind <;> simp [entities, pointParts, part, normalPart, coordinates, param,
    ParamId.request, EntityKind.ownParams, Vec3.toList, List.range_succ]

namespace Sketch
variable [Scalar α] {s t : Sketch α}

def Lists (s : Sketch α) (p : ParamId) : Prop :=
  match p.owner with
  | .request r => ∃ q, s.requests.get? r = some q ∧ p ∈ (q.params (α := α)).map Prod.fst
  | .group k => ∃ g, s.groups.get? k = some g ∧ p ∈ g.ownParams
  | .constraint c => ∃ k, s.constraints.get? c = some k ∧ p ∈ k.helpers

/-- No parameter is there without need, and none is missing. -/
structure Stocked (s : Sketch α) : Prop extends s.Intact where
  listed : ∀ p x, s.params.get? p = some x → s.Lists p
  furnished : ∀ k g, s.groups.get? k = some g → ∀ p ∈ g.ownParams, ∃ x, s.params.get? p = some x

theorem startStocked : ({} : Sketch α).Stocked where
  toIntact := startIntact
  listed _ _ found := by simp [Registry.get?] at found
  furnished _ _ found := by simp [Registry.get?] at found

omit [Scalar α] in
theorem ownParamsLasting : Group.Lasting (Group.ownParams (α := α)) := ⟨fun _ _ => rfl, fun _ _ => rfl, fun _ _ => rfl⟩

theorem Lists.congr {p : ParamId} (h : s.Lists p)
    (requests : ∀ r q, p.owner = .request r → s.requests.get? r = some q → ∃ q', t.requests.get? r = some q' ∧
      (q'.params (α := α)).map Prod.fst = (q.params (α := α)).map Prod.fst)
    (groups : ∀ k g, p.owner = .group k → s.groups.get? k = some g → ∃ g', t.groups.get? k = some g' ∧
      g'.ownParams = g.ownParams)
    (constraints : ∀ c k, p.owner = .constraint c → s.constraints.get? c = some k →
      ∃ k', t.constraints.get? c = some k' ∧ k'.helpers = k.helpers) : t.Lists p := by
  unfold Lists at h ⊢
  split at h
  · rename_i r owner
    obtain ⟨q, found, member⟩ := h
    obtain ⟨q', found', same⟩ := requests r q owner found
    exact ⟨q', found', same ▸ member⟩
  · rename_i k owner
    obtain ⟨g, found, member⟩ := h
    obtain ⟨g', found', same⟩ := groups k g owner found
    exact ⟨g', found', same ▸ member⟩
  · rename_i c owner
    obtain ⟨k, found, member⟩ := h
    obtain ⟨k', found', same⟩ := constraints c k owner found
    exact ⟨k', found', same ▸ member⟩

theorem Stocked.step (h : s.Stocked) (intact : t.Intact) (fitted : Steady Group.ownParams s t)
    (listed : ∀ p x, t.params.get? p = some x → t.Lists p)
    (still : ∀ p k x, p.owner = .group k → s.params.get? p = some x → ∃ y, t.params.get? p = some y) : t.Stocked where
  toIntact := intact
  listed := listed
  furnished k g found p member := by
    obtain ⟨g', before, same⟩ := fitted.before found
    obtain ⟨x, there⟩ := h.furnished k g' before p (same ▸ member)
    exact still p g.id x (ownParamsOwned member) there

theorem Stocked.record (h : s.Stocked) (id : GroupId) {f : Group α → Group α} (keeps : ∀ g, g.id = id → (f g).id = id)
    (slots : ∀ g, s.groups.get? id = some g → (f g).remap.Packed)
    (own : ∀ g, s.groups.get? id = some g → (f g).ownParams = g.ownParams) : (s.modifyGroup id f).Stocked := by
  have fitted : Steady Group.ownParams s (s.modifyGroup id f) := steadyRecord h.toConsistent id keeps own
  refine h.step (h.toIntact.modifyGroup id keeps slots) fitted (fun p x found => ?_) fun p k x _ found => ⟨x, found⟩
  exact (h.listed p x found).congr (fun r q _ there => ⟨q, there, rfl⟩) (fun k g _ there => fitted.kept there)
    fun c k _ there => ⟨k, there, rfl⟩

theorem Adjustment.listed (step : Adjustment s t) (h : s.Stocked) (p : ParamId) (x : Param α)
    (now : t.params.get? p = some x) : t.Lists p := by
  have fitted := (Change.adjusted step).steady ownParamsLasting h.toConsistent
  have requests := step.requests
  have old (x' : Param α) (before : s.params.get? p = some x')
      (constraints : ∀ c k, p.owner = .constraint c → s.constraints.get? c = some k →
        ∃ k', t.constraints.get? c = some k' ∧ k'.helpers = k.helpers) : t.Lists p :=
    (h.listed p x' before).congr (fun r q _ there => ⟨q, requests ▸ there, rfl⟩) (fun k g _ there => fitted.kept there)
      constraints
  cases step with
  | dirty g => exact old x now fun c k _ there => ⟨k, there, rfl⟩
  | @value p' r found v =>
    change (s.params.modify p' ({ · with value := v })).get? p = some x at now
    obtain ⟨y, before, _⟩ := (h.params.foundModify p' (f := ({ · with value := v })) fun _ same => same).mp now
    exact old y before fun c k _ there => ⟨k, there, rfl⟩
  | @constrained c g fresh registered =>
    have absent : s.constraints.get? c.id = none := fresh ▸ h.fresh
    rcases (helpersEntered h.params c).found now with ⟨helper, _⟩ | ⟨_, before⟩
    · simp only [Lists, helperOwner helper]
      exact ⟨c, h.constraints.getAddSelf c, helper⟩
    · exact old x before fun i k _ there => ⟨k, h.constraints.keptAdd absent there, rfl⟩
  | @restated id c found kind helpers =>
    refine old x now fun i k _ there => ?_
    change ∃ k', (s.constraints.modify id ({ · with kind })).get? i = some k' ∧ _
    rw [h.constraints.getModify id (f := ({ · with kind })) fun _ same => same]
    split
    · rename_i same
      obtain rfl := Option.some.inj ((same ▸ found).symm.trans there)
      exact ⟨{ c with kind }, by rw [found]; rfl, by simp [Constraint.helpers, helpers]⟩
    · exact ⟨k, there, rfl⟩
  | redirected a b =>
    let f (c : Constraint α) := { c with kind := c.kind.mapPoints fun p => if p = a then b else p }
    refine old x now fun i k _ there => ⟨f k, ?_, by simp [f, Constraint.helpers, helpersOfMapPoints]⟩
    exact (h.constraints.getMap (f := f) (fun _ => rfl) i).trans (by rw [there]; rfl)
  | @released id c found =>
    change (s.params.filter _).get? p = some x at now
    obtain ⟨before, other⟩ := (foundDropped h.params).mp now
    refine old x before fun i k owner there => ⟨k, ?_, rfl⟩
    exact h.constraints.foundRemove.mpr ⟨fun same => other (same ▸ owner), there⟩

theorem Change.listed (step : Change s t) (h : s.Stocked) (p : ParamId) (x : Param α)
    (now : t.params.get? p = some x) : t.Lists p := by
  have fitted := step.steady ownParamsLasting h.toConsistent
  cases step with
  | adjusted step => exact step.listed h p x now
  | @drawn r fresh allowed =>
    have absent : s.requests.get? r.id = none := fresh ▸ h.absent
    have numbered : ({ s with nextRequest := s.nextRequest + 1 } : Sketch α).params.Consistent := h.params
    have entered := enterRequestParams numbered (fun _ => none) r
    dsimp only at fitted now ⊢
    rw [enterRequestRecords] at fitted now ⊢
    generalize (enterRequest { s with nextRequest := s.nextRequest + 1 } (fun _ => none) r).params = params
      at entered fitted now ⊢
    rcases entered.found now with ⟨own, _⟩ | ⟨_, before⟩
    · simp only [Lists, paramOfRequest own]
      exact ⟨r, h.requests.getAddSelf r, own⟩
    · exact (h.listed p x before).congr (fun i q _ there => ⟨q, h.requests.keptAdd absent there, rfl⟩)
        (fun k g _ there => fitted.kept there) fun c k _ there => ⟨k, there, rfl⟩
  | @construction id r found b =>
    refine (h.listed p x now).congr (fun i q _ there => ?_) (fun k g _ there => fitted.kept there)
      fun c k _ there => ⟨k, there, rfl⟩
    change ∃ q', (s.requests.modify id ({ · with construction := b })).get? i = some q' ∧ _
    rw [h.requests.getModify id (f := ({ · with construction := b })) fun _ same => same]
    split
    · rename_i same
      obtain rfl := Option.some.inj ((same ▸ found).symm.trans there)
      refine ⟨{ r with construction := b }, by rw [found]; rfl, ?_⟩
      rw [Request.paramIds, Request.paramIds, Request.entitiesOfConstruction, List.flatMap_map]
    · exact ⟨q, there, rfl⟩
  | @erased id r found =>
    change (s.params.filter _).get? p = some x at now
    obtain ⟨before, other⟩ := (foundDropped h.params).mp now
    refine (h.listed p x before).congr (fun i q owner there => ⟨q, ?_, rfl⟩) (fun k g _ there => fitted.kept there)
      fun c k _ there => ⟨k, there, rfl⟩
    exact h.requests.foundRemove.mpr ⟨fun same => other (same ▸ owner), there⟩

theorem Change.supplies (step : Change s t) (h : s.params.Consistent) {p : ParamId} {k : GroupId} {x : Param α}
    (owner : p.owner = .group k) (found : s.params.get? p = some x) : ∃ y, t.params.get? p = some y := by
  cases step with
  | adjusted step =>
    cases step with
    | @value p' r there v =>
      exact (h.presentModify p' (f := ({ · with value := v })) (fun _ same => same) p).mpr ⟨x, found⟩
    | @constrained c g fresh registered =>
      refine ⟨x, ((helpersEntered h c).old p fun helper => ?_).trans found⟩
      exact nomatch (helperOwner helper).symm.trans owner
    | @released id c there => exact stillDropped h (fun same => nomatch owner.symm.trans same) ⟨x, found⟩
    | dirty | restated | redirected => exact ⟨x, found⟩
  | @drawn r fresh allowed =>
    have numbered : ({ s with nextRequest := s.nextRequest + 1 } : Sketch α).params.Consistent := h
    refine ⟨x, ((enterRequestParams numbered (fun _ => none) r).old p fun own => ?_).trans found⟩
    exact nomatch (paramOfRequest own).symm.trans owner
  | construction there b => exact ⟨x, found⟩
  | @erased id r there => exact stillDropped h (fun same => nomatch owner.symm.trans same) ⟨x, found⟩

theorem Change.stocked (step : Change s t) (h : s.Stocked) : t.Stocked :=
  h.step (step.intact h.toIntact) (step.steady ownParamsLasting h.toConsistent) (step.listed h) fun _ _ _ => step.supplies h.params

theorem Changes.stocked (steps : Changes s t) (h : s.Stocked) : t.Stocked := by
  induction steps with
  | refl => exact h
  | tail _ step ih => exact step.stocked ih

theorem generateGroupStocked {id : GroupId} (h : s.Intact) (listed : ∀ p x, s.params.get? p = some x → s.Lists p)
    (furnished : ∀ k g, k ≠ id → s.groups.get? k = some g → ∀ p ∈ g.ownParams, ∃ x, s.params.get? p = some x)
    (ok : generateGroup id s = (.ok (), t)) : t.Stocked := by
  have intact := generateGroupIntact h ok
  obtain ⟨g, c, found, rfl, made, same⟩ := generateGroupOk h.groups ok
  have new : Regrown s g c t := same ▸ regrownSpec h.params (copiedFits h.entities made)
  have fitted := regrownSteady ownParamsLasting h.toConsistent new
  refine ⟨intact, fun p x now => ?_, fun k g' now p member => ?_⟩
  · rcases new.params.found now with ⟨again, _⟩ | ⟨_, kept⟩
    · rw [List.mem_append, paramsOf, List.mem_append] at again
      rcases again with (own | drawn) | helper
      · obtain ⟨g', there, same⟩ := fitted.kept found
        simp only [Lists, groupParamsOwned s g p own]
        exact ⟨g', there, same ▸ groupParamIds s g ▸ own⟩
      · obtain ⟨q, mine, own⟩ := List.mem_flatMap.mp drawn
        simp only [Lists, paramOfRequest own, new.requests]
        exact ⟨q, h.requests.getOfMem (List.mem_filter.mp mine).1, own⟩
      · obtain ⟨k, mine, member⟩ := List.mem_flatMap.mp helper
        simp only [Lists, helperOwner member, new.constraints]
        exact ⟨k, h.constraints.getOfMem (List.mem_filter.mp mine).1, member⟩
    · have before := (h.params.foundFilter.mp kept).1
      exact (listed p x before).congr (fun r q _ there => ⟨q, new.requests ▸ there, rfl⟩)
        (fun k g _ there => fitted.kept there) fun c k _ there => ⟨k, new.constraints ▸ there, rfl⟩
  · obtain ⟨old, before, same⟩ := fitted.before now
    have key : old.id = k := h.groups.keyOfGet before
    rw [← same] at member
    by_cases other : k = g.id
    · refine new.params.there (List.mem_append_left _ (List.mem_append_left _ ?_))
      rw [other, found] at before
      obtain rfl := Option.some.inj before
      exact groupParamIds s g ▸ member
    · refine regrownStill h new (k := k) ?_ (fun same => absurd same other) (furnished k old other before p member)
      simp only [OwnedBy, ownParamsOwned member]
      exact key

theorem addGroupStocked {name : String} {kind : GroupKind α} {source : Option GroupId} {id : GroupId} (h : s.Stocked)
    (ok : addGroup name kind source s = (.ok id, t)) : t.Stocked := by
  obtain ⟨rfl, made⟩ := addGroupOk ok
  have get (k : GroupId) (other : (⟨s.nextGroup⟩ : GroupId) ≠ k) :
      (s.withGroup name kind source).groups.get? k = s.groups.get? k := by
    unfold withGroup
    rw [h.groups.getAdd]
    exact if_neg other
  refine generateGroupStocked (withGroupIntact h.toIntact name kind source) (fun p x found => ?_) ?_ made
  · refine (h.listed p x found).congr (fun r q _ there => ⟨q, there, rfl⟩) (fun k g _ there => ⟨g, ?_, rfl⟩)
      fun c k _ there => ⟨k, there, rfl⟩
    refine (get k ?_).trans there
    rintro rfl
    exact Nat.lt_irrefl _ (h.groupNumbers _ g there)
  · intro k g other found
    exact h.furnished k g ((get k (Ne.symm other)).symm.trans found)

theorem solveGroupStocked (h : s.Stocked) (group : GroupId) (config : SolverConfig α) (clock : Nat → Nat) :
    (s.solveGroup group config clock).2.Stocked := by
  refine solveGroupKeeps h.toConsistent h (fun u outcome steps => ?_) config clock
  have kept := Changes.stocked steps.changes h
  exact kept.record group (fun _ same => same) (fun g there => kept.slots group g there) fun _ _ => rfl

theorem rebuiltStocked {config : EngineConfig α} {clock : Nat → Nat} {id : GroupId} (h : s.Stocked)
    (step : Regen.Rebuilt config clock s id t) : t.Stocked := by
  obtain ⟨u, loops, shell, running, failures, made, same⟩ := step
  subst same
  have fresh := generateGroupStocked h.toIntact h.listed (fun k g _ found => h.furnished k g found) made
  have solved := solveGroupStocked fresh id config.solver clock
  exact solved.record id (fun _ same => same) (fun g there => solved.slots id g there) fun _ _ => rfl

def paramsBy (s : Sketch α) (sort : ParamOwner → Bool) : List (ParamId × GroupId) :=
  (s.params.toList.filter fun x => sort x.id.owner).map fun x => (x.id, x.group)

omit [Scalar α] in
theorem memParamsBy (h : s.params.Consistent) {sort : ParamOwner → Bool} {p : ParamId} {k : GroupId} :
    (p, k) ∈ s.paramsBy sort ↔ sort p.owner = true ∧ ∃ x, s.params.get? p = some x ∧ x.group = k := by
  unfold paramsBy
  rw [List.mem_map]
  constructor
  · rintro ⟨x, member, same⟩
    obtain ⟨there, sorted⟩ := List.mem_filter.mp member
    cases same
    exact ⟨sorted, x, h.getOfMem there, rfl⟩
  · rintro ⟨sorted, x, found, rfl⟩
    obtain ⟨there, rfl⟩ := h.getIff.mp found
    exact ⟨x, List.mem_filter.mpr ⟨there, sorted⟩, rfl⟩

omit [Scalar α] in
theorem paramsByNodup (h : s.params.Consistent) (sort : ParamOwner → Bool) : (s.paramsBy sort).Nodup := by
  refine List.Nodup.of_map Prod.fst ?_
  unfold paramsBy
  rw [List.map_map]
  exact (List.filter_sublist.map Param.id).nodup h.keysNodup

omit [Scalar α] in
theorem paramsByOwners {κ σ : Type} [DecidableEq κ] [Hashable κ] [Keyed κ σ] {r : Registry κ σ}
    (h : s.params.Consistent) (records : r.Consistent) {tag : κ → ParamOwner} (injective : Function.Injective tag)
    {sort : ParamOwner → Bool} (sorted : ∀ k, sort (tag k) = true) {ids : σ → List ParamId} {group : σ → GroupId}
    (distinct : ∀ x, (ids x).Nodup) (owned : ∀ x, ∀ p ∈ ids x, p.owner = tag (Keyed.key x))
    (present : ∀ k x, r.get? k = some x → ∀ p ∈ ids x, ∃ v, s.params.get? p = some v ∧ v.group = group x)
    (needed : ∀ p v, s.params.get? p = some v → sort p.owner = true → ∃ k x, r.get? k = some x ∧ p ∈ ids x) :
    (s.paramsBy sort).Perm (r.toList.flatMap fun x => (ids x).map fun p => (p, group x)) := by
  have once : (r.toList.flatMap fun x => (ids x).map fun p => (p, group x)).Nodup := by
    refine records.flatMapNodup (fun p => p.1.owner) injective (fun x _ => ?_) fun x _ y member => ?_
    · exact (distinct x).map fun _ _ same => congrArg Prod.fst same
    · obtain ⟨p, listed, rfl⟩ := List.mem_map.mp member
      exact owned x p listed
  refine (List.perm_ext_iff_of_nodup (paramsByNodup h sort) once).mpr fun ⟨p, k⟩ => ?_
  rw [memParamsBy h, List.mem_flatMap]
  constructor
  · rintro ⟨ours, v, found, rfl⟩
    obtain ⟨k, x, registered, listed⟩ := needed p v found ours
    obtain ⟨v', found', same⟩ := present k x registered p listed
    obtain rfl := Option.some.inj (found.symm.trans found')
    exact ⟨x, Registry.memOfGet registered, List.mem_map.mpr ⟨p, listed, by rw [same]⟩⟩
  · rintro ⟨x, member, pair⟩
    obtain ⟨p', listed, same⟩ := List.mem_map.mp pair
    cases same
    refine ⟨?_, present _ x (records.getOfMem member) p listed⟩
    rw [owned x p listed]
    exact sorted _

/-- Numbers that are not given yet are free; nothing is drawn or kept as a parameter but what requests,
constraints and groups need, and all of that once. -/
structure Exact (s : Sketch α) : Prop where
  groupNumbers : ∀ g ∈ s.groups.toList, g.id.number < s.nextGroup
  requestNumbers : ∀ q ∈ s.requests.toList, q.id.number < s.nextRequest
  constraintNumbers : ∀ c ∈ s.constraints.toList, c.id.number < s.nextConstraint
  entityIds : (s.entities.toList.map Entity.id).Nodup
  paramIds : (s.params.toList.map Param.id).Nodup
  drawn : (s.entities.toList.filter (·.id.isFromRequest)).Perm (s.requests.toList.flatMap Request.entities)
  requestParams : (s.paramsBy ParamOwner.isRequest).Perm
    (s.requests.toList.flatMap fun q => (q.params (α := α)).map fun p => (p.1, q.group))
  constraintParams : (s.paramsBy ParamOwner.isConstraint).Perm
    (s.constraints.toList.flatMap fun c => c.helpers.map fun p => (p, c.group))
  groupParams : (s.paramsBy ParamOwner.isGroup).Perm
    (s.groups.toList.flatMap fun g => (s.groupParams g).map fun p => (p.1, g.id))

omit [Scalar α] in
theorem Intact.drawnOnce (h : s.Intact) :
    (s.entities.toList.filter (·.id.isFromRequest)).Perm (s.requests.toList.flatMap Request.entities) := by
  have left : (s.entities.toList.filter (·.id.isFromRequest)).Nodup :=
    List.Nodup.of_map Entity.id ((List.filter_sublist.map Entity.id).nodup h.entities.keysNodup)
  have right : (s.requests.toList.flatMap (Request.entities (α := α))).Nodup := by
    refine h.requests.flatMapNodup (fun e => e.id.origin)
      (fun _ _ same => EntityOrigin.request.inj same) (fun q _ => .of_map Entity.id q.entitiesDistinct) fun q _ e part => ?_
    exact (Request.drawn part).origin
  refine (List.perm_ext_iff_of_nodup left right).mpr fun e => ?_
  rw [List.mem_filter, List.mem_flatMap]
  constructor
  · rintro ⟨member, requested⟩
    obtain ⟨r, named⟩ := Option.isSome_iff_exists.mp requested
    have origin : e.id.origin = .request r := by
      unfold EntityId.request? at named
      split at named
      · rename_i same
        cases named
        exact same
      · cases named
    obtain ⟨q, found, part⟩ := h.drawn e.id e r (h.entities.getOfMem member) origin
    exact ⟨q, Registry.memOfGet found, part⟩
  · rintro ⟨q, member, part⟩
    refine ⟨Registry.memOfGet (h.present q.id q (h.requests.getOfMem member) e part), ?_⟩
    simp [EntityId.isFromRequest, EntityId.request?, (Request.drawn part).origin]

theorem Stocked.requestParams (h : s.Stocked) : (s.paramsBy ParamOwner.isRequest).Perm
    (s.requests.toList.flatMap fun q => ((q.params (α := α)).map Prod.fst).map fun p => (p, q.group)) := by
  refine paramsByOwners h.params h.requests (fun _ _ same => ParamOwner.request.inj same)
    (fun _ => rfl) (Request.paramsDistinct (α := α)) (fun q p own => paramOfRequest (α := α) own)
    ?_ ?_
  · intro r q found p own
    have key : q.id = r := h.requests.keyOfGet found
    obtain ⟨e, part, mine⟩ := List.mem_flatMap.mp (Request.paramIds (α := α) q ▸ own)
    obtain ⟨x, there⟩ := h.expanded r q found e part p mine
    refine ⟨x, there, (h.owned p x there).unique ?_⟩
    simp only [OwnedBy, paramOfRequest own]
    exact ⟨q, key ▸ found, rfl⟩
  · intro p x found sorted
    have listed := h.listed p x found
    unfold Lists at listed
    split at listed
    · exact ⟨_, listed⟩
    · simp [*, ParamOwner.isRequest] at sorted
    · simp [*, ParamOwner.isRequest] at sorted

theorem Stocked.constraintParams (h : s.Stocked) : (s.paramsBy ParamOwner.isConstraint).Perm
    (s.constraints.toList.flatMap fun c => c.helpers.map fun p => (p, c.group)) := by
  refine paramsByOwners h.params h.constraints (fun _ _ same => ParamOwner.constraint.inj same)
    (fun _ => rfl) Constraint.helpersDistinct (fun c p helper => helperOwner helper) ?_ ?_
  · intro i c found p helper
    have key : c.id = i := h.constraints.keyOfGet found
    obtain ⟨x, there⟩ := h.helped i c found p helper
    refine ⟨x, there, (h.owned p x there).unique ?_⟩
    simp only [OwnedBy, helperOwner helper]
    exact ⟨c, key ▸ found, rfl⟩
  · intro p x found sorted
    have listed := h.listed p x found
    unfold Lists at listed
    split at listed
    · simp [*, ParamOwner.isConstraint] at sorted
    · simp [*, ParamOwner.isConstraint] at sorted
    · exact ⟨_, listed⟩

theorem Stocked.groupParams (h : s.Stocked) : (s.paramsBy ParamOwner.isGroup).Perm
    (s.groups.toList.flatMap fun g => g.ownParams.map fun p => (p, g.id)) := by
  refine paramsByOwners h.params h.groups (fun _ _ same => ParamOwner.group.inj same)
    (fun _ => rfl) Group.paramsDistinct (fun g p own => ownParamsOwned own) ?_ ?_
  · intro k g found p own
    obtain ⟨x, there⟩ := h.furnished k g found p own
    refine ⟨x, there, (h.owned p x there).unique ?_⟩
    simp only [OwnedBy, ownParamsOwned own]
  · intro p x found sorted
    have listed := h.listed p x found
    unfold Lists at listed
    split at listed
    · simp [*, ParamOwner.isGroup] at sorted
    · exact ⟨_, listed⟩
    · simp [*, ParamOwner.isGroup] at sorted

theorem Stocked.exact (h : s.Stocked) : s.Exact where
  groupNumbers g member := h.groupNumbers g.id g (h.groups.getOfMem member)
  requestNumbers q member := h.requestNumbers q.id q (h.requests.getOfMem member)
  constraintNumbers c member := h.constraintNumbers c.id c (h.constraints.getOfMem member)
  entityIds := h.entities.keysNodup
  paramIds := h.params.keysNodup
  drawn := h.drawnOnce
  requestParams := by simpa only [List.map_map, Function.comp_def] using h.requestParams
  constraintParams := h.constraintParams
  groupParams := by
    have same (g : Group α) : ((s.groupParams g).map fun p => (p.1, g.id)) = g.ownParams.map fun p => (p, g.id) := by
      rw [← groupParamIds s g, List.map_map]
      rfl
    simpa only [same] using h.groupParams

theorem addedGroupFree (h : s.Intact) {name : String} {kind : GroupKind α} {source : Option GroupId} {id : GroupId}
    (ok : addGroup name kind source s = (.ok id, t)) : s.groups.get? id = none := by
  rw [(addGroupOk ok).1]
  cases found : s.groups.get? ⟨s.nextGroup⟩ with
  | none => rfl
  | some g => exact absurd (h.groupNumbers _ g found) (Nat.lt_irrefl _)

theorem addedRequestFree (h : s.Intact) {group : GroupId} {kind : RequestKind} {workplane : Option EntityId}
    {construction : Bool} {id : RequestId} (ok : addRequest group kind workplane construction s = (.ok id, t)) :
    s.requests.get? id = none := by
  obtain ⟨_, _, checked, _⟩ := Attempt.bindOk.mp ok
  rw [addRequestRun (Edit.readOk.mp checked).1] at ok
  cases ok
  exact h.absent

theorem addedConstraintFree (h : s.Intact) {group : GroupId} {workplane : Option EntityId} {kind : ConstraintKind α}
    {reference : Bool} {id : ConstraintId} (ok : addConstraint group workplane kind reference s = (.ok id, t)) :
    s.constraints.get? id = none := by
  obtain ⟨_, s₁, read, first⟩ := Attempt.bindOk.mp ok
  obtain ⟨_, s₂, checked, second⟩ := Attempt.bindOk.mp first
  have same : s₂ = s := (Edit.readOk.mp checked).2.trans (Edit.readOk.mp read).2
  rw [Attempt.getBind, same] at second
  obtain ⟨_, _, entered, rest⟩ := Attempt.bindOk.mp second
  obtain ⟨_, _, measured, rest⟩ := Attempt.bindOk.mp rest
  obtain ⟨_, _, marked, last⟩ := Attempt.bindOk.mp rest
  obtain ⟨rfl, _⟩ := Attempt.pureOk.mp last
  exact h.fresh

end Sketch

namespace Session
open Sketch
variable [Scalar α] {s : Session α}

theorem stockedLasting : Lasting (α := α) (¬ ·.Refits) Sketch.Stocked where
  start := startStocked
  changes steps h := Changes.stocked steps h
  added h ok := addGroupStocked h ok
  changed {s group g list} h same found := by
    have kept (g : Group α) (list : List (GroupChange α)) (same : ¬ ∃ kind, GroupChange.kind kind ∈ list) :
        (list.foldl GroupChange.apply g).id = g.id ∧ (list.foldl GroupChange.apply g).remap = g.remap ∧
          (list.foldl GroupChange.apply g).ownParams = g.ownParams := by
      induction list generalizing g with
      | nil => exact ⟨rfl, rfl, rfl⟩
      | cons c rest ih =>
        obtain ⟨id, remap, own⟩ := ih (c.apply g) fun ⟨kind, member⟩ => same ⟨kind, List.mem_cons_of_mem _ member⟩
        rw [List.foldl_cons, id, remap, own]
        cases c with
        | kind k => exact absurd ⟨k, List.mem_cons_self⟩ same
        | _ => exact ⟨rfl, rfl, rfl⟩
    have named : g.id = group := h.groups.keyOfGet found
    obtain ⟨id, remap, own⟩ := kept g list same
    refine h.record group (fun _ _ => id.trans named) (fun _ _ => remap ▸ h.slots group g found) fun g' found' => ?_
    rw [found] at found'
    exact Option.some.inj found' ▸ own
  solved group config clock h := solveGroupStocked h group config clock
  rebuilt h step := rebuiltStocked h step

theorem fittedStocked {config : EngineConfig α} (h : Fitted config s) : s.Throughout Sketch.Stocked := by
  induction h with
  | start => exact ⟨startStocked, fun _ member => nomatch member⟩
  | step _ fitted ok ih => exact performLasting stockedLasting ih fitted ok

theorem recordsExact {config : EngineConfig α} (h : Fitted config s) : s.sketch.Exact ∧
    (∀ name kind source id t, addGroup name kind source s.sketch = (.ok id, t) → s.sketch.groups.get? id = none) ∧
    (∀ group kind workplane construction id t, addRequest group kind workplane construction s.sketch = (.ok id, t) →
      s.sketch.requests.get? id = none) ∧
    ∀ group workplane kind reference id t, addConstraint group workplane kind reference s.sketch = (.ok id, t) →
      s.sketch.constraints.get? id = none := by
  have stocked := (fittedStocked h).1
  refine ⟨stocked.exact, fun _ _ _ _ _ ok => ?_, fun _ _ _ _ _ _ ok => ?_, fun _ _ _ _ _ _ ok => ?_⟩
  · exact addedGroupFree stocked.toIntact ok
  · exact addedRequestFree stocked.toIntact ok
  · exact addedConstraintFree stocked.toIntact ok

theorem drawnWorkplaneExact : ∃ t : Session Float, Fitted .standard t ∧
    t.sketch.requests.get? tilted.id = some tilted ∧ t.sketch.Exact := by
  obtain ⟨t, fitted, known⟩ := tiltedFitted
  exact ⟨t, fitted, known.request, (recordsExact fitted).1⟩

end Session
end Drafting
