import Drafting.Group.Generate
import Drafting.Proofs.Copies
/-! What making a group anew leaves: everything of the other groups, and of the group itself its fixtures,
the parts of its requests and its copies, with all the parameters these need. -/
namespace Drafting.Sketch
variable [Scalar α]

def requestsOf (s : Sketch α) (g : Group α) : List Request := s.requests.toList.filter (·.group == g.id)

def redrawn (s : Sketch α) (g : Group α) : Sketch α :=
  let kept := s.groupValues g.id
  let t := ((s.clearGroup g.id).enterGroupParams kept g.id (s.groupParams g)).enterEntities (fixtures g)
  (s.requestsOf g).foldl (·.enterRequest (kept[·]?) ·) t

def copied (s : Sketch α) (g : Group α) : Except SketchError (Copies α) :=
  if g.kind.isSolid then (s.redrawn g).copies g else .ok { remap := g.remap }

def helpersOf (s : Sketch α) (g : Group α) : List ParamId :=
  (s.constraints.toList.filter (·.group == g.id)).flatMap Constraint.helpers

def regrown (s : Sketch α) (g : Group α) (c : Copies α) : Sketch α :=
  let t := if g.kind.isSolid then
      ((s.redrawn g).enterEntities c.made.toList).modifyGroup g.id ({ · with remap := c.remap })
    else s.redrawn g
  t.enterGroupParams (s.groupValues g.id) g.id ((s.helpersOf g).map (·, 0.0))

section Records
variable {s : Sketch α} {g : Group α} {c : Copies α}

theorem enterRequestsRecords (s : Sketch α) (kept : ParamId → Option α) (qs : List Request) :
    qs.foldl (·.enterRequest kept ·) s = { s with
      params := (qs.foldl (·.enterRequest kept ·) s).params
      entities := (qs.flatMap Request.entities).foldl Registry.add s.entities } := by
  induction qs generalizing s with
  | nil => rfl
  | cons q rest ih =>
    rw [List.foldl_cons, ih, List.flatMap_cons, List.foldl_append, enterRequestRecords s kept q]

theorem enterRequestsParams {group : GroupId} {kept : ParamId → Option α} {qs : List Request}
    (ours : ∀ q ∈ qs, q.group = group) (h : s.params.Consistent) :
    Entered group (qs.flatMap fun q => (q.params (α := α)).map Prod.fst) s.params
      (qs.foldl (·.enterRequest kept ·) s).params := by
  induction qs generalizing s with
  | nil => exact .refl h
  | cons q rest ih =>
    have first := enterRequestParams h kept q
    rw [ours q List.mem_cons_self] at first
    exact first.trans (ih (fun q' member => ours q' (List.mem_cons_of_mem _ member)) first.consistent)

def content (s : Sketch α) (g : Group α) (c : Copies α) : List (Entity α) :=
  fixtures g ++ (s.requestsOf g).flatMap Request.entities ++ c.made.toList

def paramsOf (s : Sketch α) (g : Group α) : List ParamId :=
  (s.groupParams g).map Prod.fst ++ (s.requestsOf g).flatMap fun q => (q.params (α := α)).map Prod.fst

omit [Scalar α] in
theorem enterGroupParamsSpec (h : s.params.Consistent) (kept : Std.HashMap ParamId α) (id : GroupId)
    (ps : List (ParamId × α)) : Entered id (ps.map Prod.fst) s.params (s.enterGroupParams kept id ps).params :=
  Entered.all Prod.fst (fun _ _ => ⟨_, rfl⟩) ps h

theorem redrawnRecords (s : Sketch α) (g : Group α) : s.redrawn g = { s with
    params := (s.redrawn g).params
    entities := (fixtures g ++ (s.requestsOf g).flatMap Request.entities).foldl Registry.add
      (s.entities.filter (·.group != g.id)) } := by
  unfold redrawn
  dsimp only
  rw [enterRequestsRecords, List.foldl_append]
  rfl

theorem redrawnParams (h : s.params.Consistent) (g : Group α) :
    Entered g.id (s.paramsOf g) (s.params.filter (·.group != g.id)) (s.redrawn g).params := by
  have ours : ∀ q ∈ s.requestsOf g, q.group = g.id := by
    intro q member
    simpa using (List.mem_filter.mp member).2
  have own := enterGroupParamsSpec (s := s.clearGroup g.id) (h.filter _) (s.groupValues g.id) g.id
    (s.groupParams g)
  exact own.trans (enterRequestsParams (s := ((s.clearGroup g.id).enterGroupParams (s.groupValues g.id) g.id
    (s.groupParams g)).enterEntities (fixtures g)) ours own.consistent)

/-- Copies that a group can keep, under slots that it has or that follow on them. -/
structure Fits (g : Group α) (c : Copies α) : Prop where
  made : ∀ e ∈ c.made, e.id.Of g.id ∧ e.MadeBy g.id
  slots : g.remap.Extends c.remap
  plain : g.kind.isSolid = false → c = { remap := g.remap }

omit [Scalar α] in
theorem fitsNone (g : Group α) : Fits g { remap := g.remap } := ⟨by simp, .refl _, fun _ => rfl⟩

theorem redrawnConsistent (h : s.entities.Consistent) (g : Group α) : (s.redrawn g).entities.Consistent := by
  rw [redrawnRecords]
  exact (h.filter _).addAll _

theorem copiesRun {t : Sketch α} (ok : t.copies g = .ok c) : ∃ sources, t.sources g = .ok sources ∧
    Copying.all t g sources { remap := g.remap } = .ok ((), c) := by
  obtain ⟨sources, read, rest⟩ := Result.bindOk.mp ok
  obtain ⟨⟨_, c'⟩, run, last⟩ := Result.bindOk.mp rest
  cases last
  exact ⟨sources, read, run⟩

omit [Scalar α] in
theorem sourcesRead {t : Sketch α} {es : List (Entity α)} (read : t.sources g = .ok es) :
    g.kind.isDerived = false ∧ es = [] ∨ g.kind.isDerived = true ∧ ∃ k, g.source = some k ∧
      es = t.entities.toList.filter fun e => e.group == k && !e.isA .face := by
  unfold sources at read
  cases derived : g.kind.isDerived with
  | false =>
    rw [derived] at read
    cases read
    exact .inl ⟨rfl, rfl⟩
  | true =>
    rw [derived] at read
    obtain ⟨k, source, last⟩ := Result.bindOk.mp read
    cases last
    exact .inr ⟨rfl, k, Result.foundOk.mp source, rfl⟩

omit [Scalar α] in
theorem sourceThere {t : Sketch α} (h : t.entities.Consistent) {es : List (Entity α)}
    (read : t.sources g = .ok es) : ∀ e ∈ es, t.entities.get? e.id = some e := by
  intro e member
  rcases sourcesRead read with ⟨_, rfl⟩ | ⟨_, k, _, rfl⟩
  · exact nomatch member
  · exact h.getOfMem (List.mem_filter.mp member).1

theorem copiedLabelled (h : s.entities.Consistent) (ok : s.copied g = .ok c) :
    g.remap.Extends c.remap ∧ ∀ e ∈ c.made, e.Labelled g.id ((s.redrawn g).Froze g) c.remap := by
  unfold copied at ok
  cases solid : g.kind.isSolid with
  | false =>
    rw [solid] at ok
    cases ok
    exact ⟨.refl _, by simp⟩
  | true =>
    rw [solid] at ok
    obtain ⟨sources, read, run⟩ := copiesRun ok
    have here := sourceThere (redrawnConsistent h g) read
    have again := Copying.replaysAll here (fun e _ => .refl (s.redrawn g) e.id) (rfl : g.id = g.id) rfl
    obtain ⟨_, grown, added, made, labelled, _⟩ := again _ _ _ run
    refine ⟨grown, fun e member => labelled e ?_⟩
    simpa [made] using member

theorem copiedFits (h : s.entities.Consistent) (ok : s.copied g = .ok c) : Fits g c := by
  obtain ⟨grown, labelled⟩ := copiedLabelled h ok
  refine ⟨fun e member => ?_, grown, fun plain => ?_⟩
  · obtain ⟨key, slot, _, same, _⟩ := (labelled e member).label
    exact ⟨.inr (by rw [same]; rfl), (labelled e member).made⟩
  · unfold copied at ok
    rw [plain] at ok
    exact (Except.ok.inj ok).symm

/-- What a group made anew looks like, and that all else is as it was. -/
structure Regrown (s : Sketch α) (g : Group α) (c : Copies α) (t : Sketch α) : Prop where
  requests : t.requests = s.requests
  constraints : t.constraints = s.constraints
  nextRequest : t.nextRequest = s.nextRequest
  nextConstraint : t.nextConstraint = s.nextConstraint
  nextGroup : t.nextGroup = s.nextGroup
  groups : t.groups = if g.kind.isSolid then s.groups.modify g.id ({ · with remap := c.remap }) else s.groups
  entities : t.entities = (s.content g c).foldl Registry.add (s.entities.filter (·.group != g.id))
  params : Entered g.id (s.paramsOf g ++ s.helpersOf g) (s.params.filter (·.group != g.id)) t.params

theorem regrownSpec (h : s.params.Consistent) (fits : Fits g c) : Regrown s g c (s.regrown g c) := by
  have helpers : ((s.helpersOf g).map fun p => (p, (0.0 : α))).map Prod.fst = s.helpersOf g := by
    rw [List.map_map]
    exact List.map_id _
  have drawn := redrawnParams h g
  have all (t : Sketch α) (same : t.params = (s.redrawn g).params) :
      Entered g.id (s.paramsOf g ++ s.helpersOf g) (s.params.filter (·.group != g.id))
        (t.enterGroupParams (s.groupValues g.id) g.id ((s.helpersOf g).map (·, 0.0))).params := by
    have more := enterGroupParamsSpec (same ▸ drawn.consistent) (s.groupValues g.id) g.id
      ((s.helpersOf g).map (·, 0.0))
    rw [helpers, same] at more
    exact drawn.trans more
  unfold regrown
  cases solid : g.kind.isSolid with
  | true =>
    simp only [if_true]
    rw [redrawnRecords]
    refine ⟨rfl, rfl, rfl, rfl, rfl, ?_, ?_, ?_⟩
    · rw [solid]
      rfl
    · exact List.foldl_append.symm
    · exact all _ rfl
  | false =>
    simp only [Bool.false_eq_true, if_false]
    rw [redrawnRecords]
    refine ⟨rfl, rfl, rfl, rfl, rfl, ?_, ?_, ?_⟩
    · rw [solid]
      rfl
    · rw [fits.plain solid, content, List.append_nil]
      rfl
    · exact all _ rfl

end Records

theorem generateGroupRun {s : Sketch α} {id : GroupId} {g : Group α} (found : s.groups.get? id = some g)
    (named : g.id = id) : generateGroup id s = match s.copied g with
      | .ok c => (.ok (), s.regrown g c)
      | .error e => (.error e, s.redrawn g) := by
  subst named
  have read : s.group g.id = .ok g := groupFound.mpr found
  unfold generateGroup
  rw [Attempt.runBind, Edit.runRead, read]
  dsimp only
  rw [Attempt.getBind, Attempt.getBind, Attempt.runBind, Attempt.runModify]
  dsimp only
  have constraints : (s.redrawn g).constraints = s.constraints := by rw [redrawnRecords]
  change (_ : Edit α SketchError Unit) (s.redrawn g) = _
  unfold copied regrown helpersOf
  rw [← constraints]
  cases g.kind.isSolid with
  | true =>
    simp only [if_true]
    rw [Attempt.runBind, Edit.runRead]
    cases (s.redrawn g).copies g with
    | error e => rfl
    | ok c => rfl
  | false => rfl

theorem generateGroupMissing {s : Sketch α} {id : GroupId} (missing : s.groups.get? id = none) :
    (generateGroup id s).2 = s := by
  unfold generateGroup
  rw [Attempt.runBind, Edit.runRead, group, missing]
  rfl

section Intact
variable {s : Sketch α} {g : Group α} {c : Copies α}

omit [Scalar α] in
theorem fixturesMade [Scalar α] (g : Group α) : ∀ e ∈ fixtures g, e.id.Of g.id ∧ e.MadeBy g.id := by
  intro e member
  unfold fixtures at member
  split at member
  · simp only [List.mem_cons, List.not_mem_nil, or_false] at member
    rcases member with same | same | same
    · subst same
      exact ⟨.inl rfl, rfl, rfl, by simp, rfl, by simp [EntityKind.placing, CopyTransform.params]⟩
    · subst same
      exact ⟨.inl rfl, rfl, rfl, by simp, rfl, by simp [EntityKind.placing, CopyTransform.params]⟩
    · subst same
      exact ⟨.inl rfl, rfl, rfl, by simp [EntityId.Of, EntityId.predefined], rfl, by simp [EntityKind.placing]⟩
  · cases member

theorem contentCases (h : s.requests.Consistent) (fits : Fits g c) {e : Entity α} (member : e ∈ s.content g c) :
    (e.id.Of g.id ∧ e.MadeBy g.id) ∨ ∃ q, s.requests.get? q.id = some q ∧ q.group = g.id ∧ e ∈ q.entities := by
  unfold content at member
  rw [List.mem_append, List.mem_append] at member
  rcases member with (fixture | part) | copy
  · exact .inl (fixturesMade g e fixture)
  · obtain ⟨q, mine, part⟩ := List.mem_flatMap.mp part
    obtain ⟨registered, group⟩ := List.mem_filter.mp mine
    exact .inr ⟨q, h.getOfMem registered, by simpa using group, part⟩
  · exact .inl (fits.made e (Array.mem_toList_iff.mp copy))

theorem contentPart (h : s.requests.Consistent) (fits : Fits g c) {e : Entity α} {r : RequestId}
    (member : e ∈ s.content g c) (origin : e.id.origin = .request r) :
    ∃ q, s.requests.get? r = some q ∧ q.group = g.id ∧ e ∈ q.entities := by
  rcases contentCases h fits member with ⟨ours, _⟩ | ⟨q, there, group, part⟩
  · exact absurd origin (ours.notDrawn r)
  · have drawn := (Request.drawn part).origin
    obtain rfl := EntityOrigin.request.inj (origin.symm.trans drawn)
    exact ⟨q, there, group, part⟩

theorem contentMade (h : s.requests.Consistent) (fits : Fits g c) {e : Entity α} {k : GroupId}
    (member : e ∈ s.content g c) (theirs : e.id.Of k) : e.MadeBy k := by
  rcases contentCases h fits member with ⟨ours, made⟩ | ⟨q, _, _, part⟩
  · exact ours.unique theirs ▸ made
  · exact absurd (Request.drawn part).origin (theirs.notDrawn q.id)

theorem partInContent {q : Request} (registered : q ∈ s.requests.toList) (group : q.group = g.id) (c : Copies α)
    {e : Entity α} (part : e ∈ q.entities) : e ∈ s.content g c := by
  unfold content
  refine List.mem_append_left _ (List.mem_append_right _ (List.mem_flatMap.mpr ⟨q, ?_, part⟩))
  exact List.mem_filter.mpr ⟨registered, by simp [group]⟩

theorem partParam {q : Request} (registered : q ∈ s.requests.toList) (group : q.group = g.id) {e : Entity α} {p : ParamId}
    (part : e ∈ q.entities) (own : p ∈ e.kind.ownParams) : p ∈ s.paramsOf g ++ s.helpersOf g := by
  refine List.mem_append_left _ (List.mem_append_right _ (List.mem_flatMap.mpr ⟨q, ?_, ?_⟩))
  · exact List.mem_filter.mpr ⟨registered, by simp [group]⟩
  · rw [Request.paramIds]
    exact List.mem_flatMap.mpr ⟨e, part, own⟩

theorem helperParam {k : Constraint α} (registered : k ∈ s.constraints.toList) (group : k.group = g.id) {p : ParamId}
    (helper : p ∈ k.helpers) : p ∈ s.paramsOf g ++ s.helpersOf g := by
  refine List.mem_append_right _ (List.mem_flatMap.mpr ⟨k, ?_, helper⟩)
  exact List.mem_filter.mpr ⟨registered, by simp [group]⟩

theorem groupParamsOwned (s : Sketch α) (g : Group α) : ∀ p ∈ (s.groupParams g).map Prod.fst, p.owner = .group g.id := by
  unfold groupParams
  cases g.kind <;> simp [Vec3.toList, Group.delta, Group.rotateCenter, Group.rotateAxis, Group.rotateAngle,
    Group.revolveAngle, Group.linkOffset, Group.linkRotation, Group.paramVec, Group.param, ParamId.group]

theorem ownedInGroup (h : s.Intact) {p : ParamId} (member : p ∈ s.paramsOf g ++ s.helpersOf g) : s.OwnedBy p g.id := by
  rw [List.mem_append, paramsOf, List.mem_append] at member
  rcases member with (own | ours) | helper
  · simp only [OwnedBy, groupParamsOwned s g p own]
  · obtain ⟨q, mine, own⟩ := List.mem_flatMap.mp ours
    obtain ⟨registered, group⟩ := List.mem_filter.mp mine
    simp only [OwnedBy, paramOfRequest own]
    exact ⟨q, h.requests.getOfMem registered, by simpa using group⟩
  · obtain ⟨k, mine, helper⟩ := List.mem_flatMap.mp helper
    obtain ⟨registered, group⟩ := List.mem_filter.mp mine
    simp only [OwnedBy, helperOwner helper]
    exact ⟨k, h.constraints.getOfMem registered, by simpa using group⟩

theorem regrownGroups {t : Sketch α} (h : s.Intact) (registered : s.groups.get? g.id = some g)
    (fits : Fits g c) (new : Regrown s g c t) : t.groups.Consistent ∧
      (∀ k, (∃ r, t.groups.get? k = some r) ↔ ∃ r, s.groups.get? k = some r) ∧
        ∀ k r, t.groups.get? k = some r → r.remap.Packed := by
  rw [new.groups]
  split
  · have keeps : ∀ r : Group α, r.id = g.id → ({ r with remap := c.remap } : Group α).id = g.id := fun _ same => same
    refine ⟨h.groups.modify g.id keeps, h.groups.presentModify g.id keeps, fun k r found => ?_⟩
    obtain ⟨r', there, rfl⟩ := (h.groups.foundModify g.id keeps).mp found
    split
    · exact fits.slots.packed (h.slots g.id g registered)
    · exact h.slots k r' there
  · exact ⟨h.groups, fun _ => .rfl, h.slots⟩

theorem regrownStill {t : Sketch α} (h : s.Intact) (new : Regrown s g c t) {p : ParamId} {k : GroupId}
    (owned : s.OwnedBy p k) (mine : k = g.id → p ∈ s.paramsOf g ++ s.helpersOf g)
    (there : ∃ x, s.params.get? p = some x) : ∃ x, t.params.get? p = some x := by
  by_cases same : k = g.id
  · exact new.params.there (mine same)
  · obtain ⟨x, found⟩ := there
    have group := (h.owned p x found).unique owned
    exact new.params.still ⟨x, h.params.foundFilter.mpr ⟨found, by simp [group, same]⟩⟩

theorem regrownOwned {t : Sketch α} (h : s.Intact) (new : Regrown s g c t) {p : ParamId} {x : Param α}
    (found : t.params.get? p = some x) : t.OwnedBy p x.group := by
  have same {k : GroupId} (owned : s.OwnedBy p k) : t.OwnedBy p k := by
    unfold OwnedBy at owned ⊢
    rw [new.requests, new.constraints]
    exact owned
  rcases new.params.found found with ⟨again, group⟩ | ⟨_, before⟩
  · exact same (group ▸ ownedInGroup h again)
  · exact same (h.owned p x (h.params.foundFilter.mp before).1)

theorem regrownPresent {t : Sketch α} (h : s.Intact) (fits : Fits g c) (new : Regrown s g c t) {r : RequestId} {q : Request}
    (found : s.requests.get? r = some q) {e : Entity α} (part : e ∈ q.entities) : t.entities.get? e.id = some e := by
  have cleared := h.entities.filter (·.group != g.id)
  have key : q.id = r := h.requests.keyOfGet found
  have origin := (Request.drawn part).origin
  -- Whatever stands under the handle of a part is that part.
  have only (e' : Entity α) (member : e' ∈ s.content g c) (named : e'.id = e.id) : e' = e ∧ q.group = g.id := by
    obtain ⟨q', there, group, part'⟩ := contentPart h.requests fits member (named ▸ origin)
    rw [key, found] at there
    obtain rfl := Option.some.inj there
    exact ⟨List.inj_on_of_nodup_map q.entitiesDistinct part' part named, group⟩
  rw [new.entities]
  by_cases mine : q.group = g.id
  · have member := partInContent (Registry.memOfGet found) mine c part
    obtain ⟨e', there, named, now⟩ := cleared.addAllPresent member
    rw [(only e' there named).1] at now
    exact now
  · rw [cleared.getAddAllOther]
    · exact h.entities.foundFilter.mpr ⟨h.present r q found e part, by simp [(Request.drawn part).group, mine]⟩
    · intro again
      obtain ⟨e', there, named⟩ := List.mem_map.mp again
      exact mine (only e' there named).2

theorem regrownIntact {t : Sketch α} (h : s.Intact) (registered : s.groups.get? g.id = some g)
    (fits : Fits g c) (new : Regrown s g c t) : t.Intact := by
  have cleared := h.entities.filter (·.group != g.id)
  obtain ⟨consistent, groups, slots⟩ := regrownGroups h registered fits new
  constructor
  case toConsistent =>
    refine ⟨consistent, ?_, ?_, ?_, new.params.consistent⟩
    · rw [new.requests]
      exact h.requests
    · rw [new.constraints]
      exact h.constraints
    · rw [new.entities]
      exact cleared.addAll _
  case groupNumbers =>
    rw [new.nextGroup]
    intro k r found
    obtain ⟨r', there⟩ := (groups k).mp ⟨r, found⟩
    exact h.groupNumbers k r' there
  case slots => exact slots
  case requestNumbers =>
    rw [new.requests, new.nextRequest]
    exact h.requestNumbers
  case constraintNumbers =>
    rw [new.constraints, new.nextConstraint]
    exact h.constraintNumbers
  case requestGroups =>
    rw [new.requests]
    intro r q found
    exact (groups _).mpr (h.requestGroups r q found)
  case constraintGroups =>
    rw [new.constraints]
    intro k q found
    exact (groups _).mpr (h.constraintGroups k q found)
  case flat =>
    rw [new.requests]
    exact h.flat
  case drawn =>
    rw [new.entities, new.requests]
    intro id e r found origin
    rcases cleared.foundAddAll found with ⟨member, keyed⟩ | before
    · obtain ⟨q, there, _, part⟩ := contentPart h.requests fits member ((show e.id = id from keyed) ▸ origin)
      exact ⟨q, there, part⟩
    · exact h.drawn id e r (h.entities.foundFilter.mp before).1 origin
  case present =>
    rw [new.requests]
    intro r q found e part
    exact regrownPresent h fits new found part
  case made =>
    rw [new.entities]
    intro id e k found ours
    rcases cleared.foundAddAll found with ⟨member, keyed⟩ | before
    · exact contentMade h.requests fits member ((show e.id = id from keyed) ▸ ours)
    · exact h.made id e k (h.entities.foundFilter.mp before).1 ours
  case owned => exact fun p x found => regrownOwned h new found
  case expanded =>
    rw [new.requests]
    intro r q found e part p own
    have key : q.id = r := h.requests.keyOfGet found
    refine regrownStill h new (k := q.group) ?_ (fun mine => ?_) (h.expanded r q found e part p own)
    · simp only [OwnedBy, (Request.drawn part).own p own]
      exact ⟨q, key ▸ found, rfl⟩
    · exact partParam (Registry.memOfGet found) mine part own
  case helped =>
    rw [new.constraints]
    intro id k found p helper
    have key : k.id = id := h.constraints.keyOfGet found
    refine regrownStill h new (k := k.group) ?_ (fun mine => ?_) (h.helped id k found p helper)
    · simp only [OwnedBy, helperOwner helper]
      exact ⟨k, key ▸ found, rfl⟩
    · exact helperParam (Registry.memOfGet found) mine helper

theorem generateGroupOk {id : GroupId} {t : Sketch α} (h : s.groups.Consistent)
    (ok : generateGroup id s = (.ok (), t)) :
    ∃ g c, s.groups.get? id = some g ∧ g.id = id ∧ s.copied g = .ok c ∧ t = s.regrown g c := by
  obtain ⟨g, _, read, _⟩ := Attempt.bindOk.mp ok
  have found : s.groups.get? id = some g := groupFound.mp (Edit.readOk.mp read).1
  have named : g.id = id := h.keyOfGet found
  rw [generateGroupRun found named] at ok
  cases made : s.copied g with
  | error e =>
    rw [made] at ok
    cases ok
  | ok c =>
    rw [made] at ok
    cases ok
    exact ⟨g, c, found, named, made, rfl⟩

theorem generateGroupIntact {id : GroupId} {t : Sketch α} (h : s.Intact) (ok : generateGroup id s = (.ok (), t)) :
    t.Intact := by
  obtain ⟨g, c, found, named, made, same⟩ := generateGroupOk h.groups ok
  subst same
  have fits := copiedFits h.entities made
  exact regrownIntact h (named.symm ▸ found) fits (regrownSpec h.params fits)

def withGroup (s : Sketch α) (name : String) (kind : GroupKind α) (source : Option GroupId) : Sketch α :=
  { s with
    nextGroup := s.nextGroup + 1
    groups := s.groups.add { id := ⟨s.nextGroup⟩, name, kind, source,
                             workplane := s.startingWorkplane ⟨s.nextGroup⟩ kind source } }

theorem addGroupOk {name : String} {kind : GroupKind α} {source : Option GroupId} {id : GroupId} {t : Sketch α}
    (ok : addGroup name kind source s = (.ok id, t)) :
    id = ⟨s.nextGroup⟩ ∧ generateGroup id (s.withGroup name kind source) = (.ok (), t) := by
  obtain ⟨_, s₁, checked, rest⟩ := Attempt.bindOk.mp ok
  obtain rfl := (Edit.readOk.mp checked).2
  rw [Attempt.getBind] at rest
  obtain ⟨_, s₂, added, rest⟩ := Attempt.bindOk.mp rest
  obtain rfl := Attempt.modifyOk.mp added
  obtain ⟨_, s₃, made, last⟩ := Attempt.bindOk.mp rest
  obtain ⟨rfl, rfl⟩ := Attempt.pureOk.mp last
  refine ⟨rfl, ?_⟩
  rcases Attempt.tryOk made with done | ⟨cause, u, _, caught⟩
  · exact done
  · obtain ⟨_, _, _, thrown⟩ := Attempt.bindOk.mp caught
    exact absurd thrown Attempt.throwOk

theorem addGroupRun {name : String} {kind : GroupKind α} {source : Option GroupId} {g : Group α} {c : Copies α}
    (h : s.groups.Consistent) (checked : s.checkGroup kind source = .ok ())
    (found : (s.withGroup name kind source).groups.get? ⟨s.nextGroup⟩ = some g)
    (made : (s.withGroup name kind source).copied g = .ok c) :
    addGroup name kind source s = (.ok ⟨s.nextGroup⟩, (s.withGroup name kind source).regrown g c) := by
  have named : g.id = ⟨s.nextGroup⟩ := (h.add _ : (s.withGroup name kind source).groups.Consistent).keyOfGet found
  have run := generateGroupRun found named
  rw [made] at run
  unfold addGroup
  refine Attempt.bindOk.mpr ⟨(), s, Edit.readOk.mpr ⟨checked, rfl⟩, ?_⟩
  rw [Attempt.getBind]
  refine Attempt.bindOk.mpr ⟨(), _, Attempt.modifyOk.mpr rfl, ?_⟩
  refine Attempt.bindOk.mpr ⟨(), _, ?_, Attempt.pureOk.mpr ⟨rfl, rfl⟩⟩
  exact Attempt.tryOfOk run

omit [Scalar α] in
theorem withGroupIntact (h : s.Intact) (name : String) (kind : GroupKind α) (source : Option GroupId) :
    (s.withGroup name kind source).Intact := by
  have registered {k : GroupId} (there : ∃ g, s.groups.get? k = some g) :
      ∃ g, (s.withGroup name kind source).groups.get? k = some g := by
    obtain ⟨g, found⟩ := there
    refine ⟨g, h.groups.keptAdd ?_ found⟩
    cases taken : s.groups.get? ⟨s.nextGroup⟩ with
    | none => rfl
    | some g' => exact absurd (h.groupNumbers _ g' taken) (Nat.lt_irrefl _)
  refine { h with groups := h.groups.add _, groupNumbers := ?_, slots := ?_, requestGroups := ?_, constraintGroups := ?_ }
  · intro k g found
    rcases h.groups.foundAdd found with ⟨rfl, _⟩ | before
    · exact Nat.lt_succ_self _
    · exact Nat.lt_succ_of_lt (h.groupNumbers k g before)
  · intro k g found
    rcases h.groups.foundAdd found with ⟨_, rfl⟩ | before
    · exact RemapTable.emptyPacked
    · exact h.slots k g before
  · intro r q found
    exact registered (h.requestGroups r q found)
  · intro c k found
    exact registered (h.constraintGroups c k found)

theorem addGroupIntact {name : String} {kind : GroupKind α} {source : Option GroupId} {id : GroupId} {t : Sketch α}
    (h : s.Intact) (ok : addGroup name kind source s = (.ok id, t)) : t.Intact :=
  generateGroupIntact (withGroupIntact h name kind source) (addGroupOk ok).2

end Intact
end Drafting.Sketch
