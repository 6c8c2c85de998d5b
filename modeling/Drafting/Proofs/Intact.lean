import Drafting.Proofs.Consistent
import Drafting.Proofs.Drawing
import Drafting.Proofs.Slots
/-! Sketches whose entities and parameters fit the requests, groups and constraints they come from. A
drawn entity is a part of its request, a copy belongs to the group that made it, and the record of a
parameter names the group of its owner. Every edit keeps a sketch so. -/
namespace Drafting

def EntityId.Of (h : GroupId) (id : EntityId) : Prop := id.origin = .predefined h ∨ id.origin = .derived h

theorem EntityId.Of.notDrawn {h : GroupId} {id : EntityId} (ours : id.Of h) (r : RequestId) : id.origin ≠ .request r := by
  rcases ours with made | made <;> rw [made] <;> nofun

theorem EntityId.Of.unique {g h : GroupId} {id : EntityId} (ours : id.Of g) (theirs : id.Of h) : g = h := by
  rcases ours with a | a <;> rcases theirs with b | b <;> cases a.symm.trans b <;> rfl

/-- What holds of every entity that a group makes itself. -/
structure Entity.MadeBy (h : GroupId) (e : Entity α) : Prop where
  group : e.group = h
  workplane : e.workplane = none
  parts : ∀ id ∈ e.kind.parts, id.Of h
  own : e.kind.ownParams = []
  placing : ∀ p ∈ e.kind.placing, p.owner = .group h

namespace Sketch

def OwnedBy (s : Sketch α) (p : ParamId) (g : GroupId) : Prop :=
  match p.owner with
  | .request r => ∃ q, s.requests.get? r = some q ∧ q.group = g
  | .group h => h = g
  | .constraint c => ∃ k, s.constraints.get? c = some k ∧ k.group = g

structure Intact (s : Sketch α) : Prop extends s.Consistent where
  groupNumbers : ∀ k g, s.groups.get? k = some g → k.number < s.nextGroup
  slots : ∀ k g, s.groups.get? k = some g → g.remap.Packed
  requestNumbers : ∀ r q, s.requests.get? r = some q → r.number < s.nextRequest
  constraintNumbers : ∀ c k, s.constraints.get? c = some k → c.number < s.nextConstraint
  requestGroups : ∀ r q, s.requests.get? r = some q → ∃ g, s.groups.get? q.group = some g
  constraintGroups : ∀ c k, s.constraints.get? c = some k → ∃ g, s.groups.get? k.group = some g
  flat : ∀ r q, s.requests.get? r = some q → q.kind = .workplane → q.workplane = none
  drawn : ∀ id e r, s.entities.get? id = some e → id.origin = .request r →
    ∃ q, s.requests.get? r = some q ∧ e ∈ q.entities
  present : ∀ r q, s.requests.get? r = some q → ∀ e ∈ q.entities, s.entities.get? e.id = some e
  made : ∀ id e h, s.entities.get? id = some e → id.Of h → e.MadeBy h
  owned : ∀ p x, s.params.get? p = some x → s.OwnedBy p x.group
  expanded : ∀ r q, s.requests.get? r = some q → ∀ e ∈ q.entities (α := α), ∀ p ∈ e.kind.ownParams,
    ∃ x, s.params.get? p = some x
  helped : ∀ c k, s.constraints.get? c = some k → ∀ p ∈ k.helpers, ∃ x, s.params.get? p = some x

theorem startIntact : ({} : Sketch α).Intact where
  toConsistent := startConsistent
  groupNumbers _ _ found := by simp [Registry.get?] at found
  slots _ _ found := by simp [Registry.get?] at found
  requestNumbers _ _ found := by simp [Registry.get?] at found
  constraintNumbers _ _ found := by simp [Registry.get?] at found
  requestGroups _ _ found := by simp [Registry.get?] at found
  constraintGroups _ _ found := by simp [Registry.get?] at found
  flat _ _ found := by simp [Registry.get?] at found
  drawn _ _ _ found := by simp [Registry.get?] at found
  present _ _ found := by simp [Registry.get?] at found
  made _ _ _ found := by simp [Registry.get?] at found
  owned _ _ found := by simp [Registry.get?] at found
  expanded _ _ found := by simp [Registry.get?] at found
  helped _ _ found := by simp [Registry.get?] at found

section Groups
variable {s : Sketch α}

theorem Intact.withGroups (h : s.Intact) {groups : Registry GroupId (Group α)} (consistent : groups.Consistent)
    (same : ∀ k, (∃ g, groups.get? k = some g) ↔ ∃ g, s.groups.get? k = some g)
    (slots : ∀ k g, groups.get? k = some g → g.remap.Packed) : { s with groups }.Intact :=
  { h with
    groups := consistent
    slots
    groupNumbers := by
      intro k g found
      obtain ⟨g', registered⟩ := (same k).mp ⟨g, found⟩
      exact h.groupNumbers k g' registered
    requestGroups := by
      intro r q found
      exact (same _).mpr (h.requestGroups r q found)
    constraintGroups := by
      intro c k found
      exact (same _).mpr (h.constraintGroups c k found) }

theorem Intact.modifyGroup (h : s.Intact) (id : GroupId) {f : Group α → Group α}
    (keeps : ∀ g, g.id = id → (f g).id = id) (slots : ∀ g, s.groups.get? id = some g → (f g).remap.Packed) :
    (s.modifyGroup id f).Intact := by
  refine h.withGroups (h.groups.modify id keeps) ?_ ?_
  · intro k
    exact h.groups.presentModify id keeps k
  · intro k g found
    obtain ⟨g', there, rfl⟩ := (h.groups.foundModify id keeps).mp found
    split
    · rename_i same
      exact slots g' (same ▸ there)
    · exact h.slots k g' there

theorem Intact.markDirty (h : s.Intact) (id : GroupId) : (s.markDirty id).Intact :=
  h.modifyGroup id (fun _ same => same) fun g found => h.slots id g found

end Groups

/-- Parameters of a group have been entered under some handles, all others being as before. -/
structure Entered (g : GroupId) (ids : List ParamId) (before after : Registry ParamId (Param α)) : Prop where
  consistent : after.Consistent
  new : ∀ p ∈ ids, ∃ x, after.get? p = some ⟨p, g, x⟩
  old : ∀ p, p ∉ ids → after.get? p = before.get? p
  listed : ∃ xs : List (Param α), xs.map Param.id = ids ∧ (∀ x ∈ xs, x.group = g) ∧
    after = xs.foldl Registry.add before

namespace Entered
variable {g : GroupId} {ids more : List ParamId} {before between after : Registry ParamId (Param α)} {p : ParamId}

theorem there (h : Entered g ids before after) (member : p ∈ ids) : ∃ x, after.get? p = some x := by
  obtain ⟨v, now⟩ := h.new p member
  exact ⟨_, now⟩

theorem still (h : Entered g ids before after) (found : ∃ x, before.get? p = some x) : ∃ x, after.get? p = some x := by
  by_cases again : p ∈ ids
  · exact h.there again
  · rw [h.old p again]
    exact found

theorem found (h : Entered g ids before after) {x : Param α} (now : after.get? p = some x) :
    (p ∈ ids ∧ x.group = g) ∨ (p ∉ ids ∧ before.get? p = some x) := by
  by_cases again : p ∈ ids
  · obtain ⟨v, new⟩ := h.new p again
    obtain rfl := Option.some.inj (now.symm.trans new)
    exact .inl ⟨again, rfl⟩
  · exact .inr ⟨again, (h.old p again).symm.trans now⟩

theorem refl (h : before.Consistent) : Entered g [] before before where
  consistent := h
  new _ member := nomatch member
  old _ _ := rfl
  listed := ⟨[], rfl, by simp, rfl⟩

theorem trans (first : Entered g ids before between) (next : Entered g more between after) :
    Entered g (ids ++ more) before after where
  consistent := next.consistent
  new := by
    intro p member
    by_cases again : p ∈ more
    · exact next.new p again
    · rw [next.old p again]
      exact first.new p ((List.mem_append.mp member).resolve_right again)
  old := by
    intro p absent
    rw [List.mem_append, not_or] at absent
    rw [next.old p absent.2, first.old p absent.1]
  listed := Registry.addsAppend first.listed next.listed

theorem add (h : before.Consistent) (p : ParamId) (x : α) : Entered g [p] before (before.add ⟨p, g, x⟩) where
  consistent := h.add _
  new := by
    intro q member
    obtain rfl := List.mem_singleton.mp member
    exact ⟨x, h.getAddSelf _⟩
  old := by
    intro q absent
    rw [h.getAdd, if_neg]
    intro same
    exact absent (List.mem_singleton.mpr same.symm)
  listed := ⟨[⟨p, g, x⟩], rfl, by simp, rfl⟩

theorem all (name : σ → ParamId) {f : Registry ParamId (Param α) → σ → Registry ParamId (Param α)}
    (each : ∀ ps x, ∃ v, f ps x = ps.add ⟨name x, g, v⟩) (xs : List σ) (h : before.Consistent) :
    Entered g (xs.map name) before (xs.foldl f before) := by
  induction xs generalizing before with
  | nil => exact refl h
  | cons x rest ih =>
    obtain ⟨v, same⟩ := each before x
    have first : Entered g [name x] before (f before x) := same ▸ add h (name x) v
    exact first.trans (ih first.consistent)

end Entered

variable {s t : Sketch α}

theorem Intact.fresh (h : s.Intact) : s.constraints.get? ⟨s.nextConstraint⟩ = none := by
  cases found : s.constraints.get? ⟨s.nextConstraint⟩ with
  | none => rfl
  | some k => exact absurd (h.constraintNumbers _ k found) (Nat.lt_irrefl _)

theorem helperOwner {c : Constraint α} {p : ParamId} (member : p ∈ c.helpers) : p.owner = .constraint c.id := by
  obtain ⟨n, _, same⟩ := List.mem_map.mp member
  exact same ▸ rfl

theorem helpersEntered [Scalar α] (h : s.params.Consistent) (c : Constraint α) : Entered c.group c.helpers s.params
    (c.helpers.foldl (fun ps p => ps.add ⟨p, c.group, 0.0⟩) s.params) := by
  simpa using Entered.all id (fun ps p => ⟨0.0, rfl⟩) c.helpers h

theorem OwnedBy.congr {p : ParamId} {g : GroupId} (h : s.OwnedBy p g)
    (requests : ∀ r q, p.owner = .request r → s.requests.get? r = some q →
      ∃ q', t.requests.get? r = some q' ∧ q'.group = q.group)
    (constraints : ∀ c k, p.owner = .constraint c → s.constraints.get? c = some k →
      ∃ k', t.constraints.get? c = some k' ∧ k'.group = k.group) : t.OwnedBy p g := by
  unfold OwnedBy at h ⊢
  split at h
  · rename_i r owner
    obtain ⟨q, found, same⟩ := h
    obtain ⟨q', found', group⟩ := requests r q owner found
    exact ⟨q', found', group.trans same⟩
  · exact h
  · rename_i c owner
    obtain ⟨k, found, same⟩ := h
    obtain ⟨k', found', group⟩ := constraints c k owner found
    exact ⟨k', found', group.trans same⟩

theorem OwnedBy.unique {p : ParamId} {a b : GroupId} (first : s.OwnedBy p a) (second : s.OwnedBy p b) : a = b := by
  unfold OwnedBy at first second
  split at first
  · rename_i owner
    simp only [owner] at second
    obtain ⟨q, found, same⟩ := first
    obtain ⟨q', found', same'⟩ := second
    obtain rfl := Option.some.inj (found.symm.trans found')
    exact same.symm.trans same'
  · rename_i owner
    simp only [owner] at second
    exact first.symm.trans second
  · rename_i owner
    simp only [owner] at second
    obtain ⟨k, found, same⟩ := first
    obtain ⟨k', found', same'⟩ := second
    obtain rfl := Option.some.inj (found.symm.trans found')
    exact same.symm.trans same'

theorem Intact.constrained [Scalar α] (h : s.Intact) {c : Constraint α} {g : Group α}
    (fresh : c.id = ⟨s.nextConstraint⟩) (registered : s.groups.get? c.group = some g) : Intact { s with
      nextConstraint := s.nextConstraint + 1
      params := c.helpers.foldl (fun ps p => ps.add ⟨p, c.group, 0.0⟩) s.params
      constraints := s.constraints.add c } := by
  have absent : s.constraints.get? c.id = none := fresh ▸ h.fresh
  have entered := helpersEntered h.params c
  refine { h with
    params := entered.consistent, constraints := h.constraints.add c, constraintNumbers := ?_,
    constraintGroups := ?_, owned := ?_, expanded := ?_, helped := ?_ }
  · intro id k now
    rcases h.constraints.foundAdd now with ⟨same, _⟩ | before
    · rw [← show c.id = id from same, fresh]
      exact Nat.lt_succ_self _
    · exact Nat.lt_succ_of_lt (h.constraintNumbers id k before)
  · intro id k now
    rcases h.constraints.foundAdd now with ⟨_, rfl⟩ | before
    · exact ⟨g, registered⟩
    · exact h.constraintGroups id k before
  · intro p x now
    rcases entered.found now with ⟨helper, group⟩ | ⟨_, before⟩
    · simp only [OwnedBy, helperOwner helper]
      exact ⟨c, h.constraints.getAddSelf c, group.symm⟩
    · exact (h.owned p x before).congr (fun _ q _ found => ⟨q, found, rfl⟩) fun id k _ found =>
        ⟨k, h.constraints.keptAdd absent found, rfl⟩
  · intro r q found e member p own
    exact entered.still (h.expanded r q found e member p own)
  · intro id k now p helper
    rcases h.constraints.foundAdd now with ⟨_, rfl⟩ | before
    · exact entered.there helper
    · exact entered.still (h.helped id k before p helper)

theorem Intact.withParams (h : s.Intact) {params : Registry ParamId (Param α)} (consistent : params.Consistent)
    (same : ∀ p, (params.get? p).map Param.group = (s.params.get? p).map Param.group) : { s with params }.Intact := by
  have still (p : ParamId) (there : ∃ x, s.params.get? p = some x) : ∃ x, params.get? p = some x := by
    obtain ⟨x, found⟩ := there
    have both := same p
    rw [found] at both
    obtain ⟨y, now, _⟩ := Option.map_eq_some_iff.mp both
    exact ⟨y, now⟩
  refine { h with params := consistent, owned := ?_, expanded := ?_, helped := ?_ }
  · intro p x now
    have both := same p
    rw [now] at both
    obtain ⟨y, before, group⟩ := Option.map_eq_some_iff.mp both.symm
    exact group ▸ h.owned p y before
  · intro r q found e member p own
    exact still p (h.expanded r q found e member p own)
  · intro c k found p helper
    exact still p (h.helped c k found p helper)

theorem Intact.valued (h : s.Intact) (p : ParamId) (x : α) :
    Intact { s with params := s.params.modify p ({ · with value := x }) } := by
  have keeps : ∀ y : Param α, y.id = p → ({ y with value := x } : Param α).id = p := fun _ same => same
  refine h.withParams (h.params.modify p keeps) fun q => ?_
  rw [h.params.getModify p keeps]
  split
  · rename_i same
    rw [same, Option.map_map]
    rfl
  · rfl

theorem Intact.withConstraints (h : s.Intact) {constraints : Registry ConstraintId (Constraint α)}
    (consistent : constraints.Consistent)
    (same : ∀ c, (constraints.get? c).map (fun k => (k.group, k.helpers)) =
      (s.constraints.get? c).map fun k => (k.group, k.helpers)) : { s with constraints }.Intact := by
  have before (c : ConstraintId) (k : Constraint α) (now : constraints.get? c = some k) :
      ∃ k', s.constraints.get? c = some k' ∧ k'.group = k.group ∧ k'.helpers = k.helpers := by
    have both := same c
    rw [now] at both
    obtain ⟨k', found, eq⟩ := Option.map_eq_some_iff.mp both.symm
    exact ⟨k', found, congrArg Prod.fst eq, congrArg Prod.snd eq⟩
  refine { h with constraints := consistent, constraintNumbers := ?_, constraintGroups := ?_, owned := ?_,
                  helped := ?_ }
  · intro c k now
    obtain ⟨k', found, _⟩ := before c k now
    exact h.constraintNumbers c k' found
  · intro c k now
    obtain ⟨k', found, group, _⟩ := before c k now
    exact group ▸ h.constraintGroups c k' found
  · intro p x found
    refine (h.owned p x found).congr (fun _ q _ found => ⟨q, found, rfl⟩) fun c k _ there => ?_
    have both := same c
    rw [there] at both
    obtain ⟨k', now, eq⟩ := Option.map_eq_some_iff.mp both
    exact ⟨k', now, congrArg Prod.fst eq⟩
  · intro c k now p helper
    obtain ⟨k', found, _, helpers⟩ := before c k now
    exact h.helped c k' found p (helpers ▸ helper)

theorem foundDropped {params : Registry ParamId (Param α)} (h : params.Consistent) {o : ParamOwner} {p : ParamId}
    {x : Param α} : (params.filter (·.id.owner != o)).get? p = some x ↔ params.get? p = some x ∧ p.owner ≠ o := by
  rw [h.foundFilter, bne_iff_ne]
  refine and_congr_right fun found => ?_
  rw [show x.id = p from h.keyOfGet found]

theorem stillDropped {params : Registry ParamId (Param α)} (h : params.Consistent) {o : ParamOwner} {p : ParamId}
    (other : p.owner ≠ o) (there : ∃ x, params.get? p = some x) :
    ∃ x, (params.filter (·.id.owner != o)).get? p = some x := by
  obtain ⟨x, found⟩ := there
  exact ⟨x, (foundDropped h).mpr ⟨found, other⟩⟩

theorem Intact.released (h : s.Intact) (id : ConstraintId) : Intact { s with
    constraints := s.constraints.remove id
    params := s.params.filter (·.id.owner != ParamOwner.constraint id) } := by
  refine { h with
    params := h.params.filter _, constraints := h.constraints.remove id, constraintNumbers := ?_,
    constraintGroups := ?_, owned := ?_, expanded := ?_, helped := ?_ }
  · intro c k now
    exact h.constraintNumbers c k (h.constraints.foundRemove.mp now).2
  · intro c k now
    exact h.constraintGroups c k (h.constraints.foundRemove.mp now).2
  · intro p x now
    obtain ⟨found, other⟩ := (foundDropped h.params).mp now
    refine (h.owned p x found).congr (fun _ q _ found => ⟨q, found, rfl⟩) fun c k owner there => ⟨k, ?_, rfl⟩
    exact h.constraints.foundRemove.mpr ⟨fun same => other (same ▸ owner), there⟩
  · intro r q found e member p own
    refine stillDropped h.params ?_ (h.expanded r q found e member p own)
    rw [(Request.drawn member).own p own]
    exact fun same => nomatch same
  · intro c k now p helper
    obtain ⟨other, found⟩ := h.constraints.foundRemove.mp now
    refine stillDropped h.params ?_ (h.helped c k found p helper)
    rw [helperOwner helper]
    intro same
    have key : k.id = c := h.constraints.keyOfGet found
    exact other (key.symm.trans (ParamOwner.constraint.inj same))

theorem Adjustment.intact [Scalar α] (step : Adjustment s t) (h : s.Intact) : t.Intact := by
  cases step with
  | dirty g => exact h.markDirty g
  | @value p r found x => exact (h.valued p x).markDirty _
  | constrained fresh registered => exact h.constrained fresh registered
  | @restated id c found kind helpers =>
    have keeps : ∀ y : Constraint α, y.id = id → ({ y with kind } : Constraint α).id = id := fun _ same => same
    refine h.withConstraints (h.constraints.modify id keeps) fun k => ?_
    rw [h.constraints.getModify id keeps]
    split
    · rename_i same
      rw [same, found]
      simp [Constraint.helpers, helpers]
    · rfl
  | redirected old new =>
    let f (c : Constraint α) := { c with kind := c.kind.mapPoints fun p => if p = old then new else p }
    have keeps : ∀ y : Constraint α, (f y).id = y.id := fun _ => rfl
    refine h.withConstraints (h.constraints.map keeps) fun k => ?_
    rw [h.constraints.getMap keeps, Option.map_map]
    cases s.constraints.get? k with
    | none => rfl
    | some c => simp [f, Constraint.helpers, helpersOfMapPoints]
  | released found => exact (h.released _).markDirty _

theorem Adjustments.intact [Scalar α] (steps : Adjustments s t) (h : s.Intact) : t.Intact := by
  induction steps with
  | refl => exact h
  | tail _ step ih => exact step.intact ih

theorem enterParams (s : Sketch α) (kept : ParamId → Option α) (g : GroupId) (ps : List (ParamId × α)) :
    ps.foldl (·.enterParam kept g ·) s = { s with params := ps.foldl (fun r p =>
      r.add ⟨p.1, g, (kept p.1 <|> (r.get? p.1).map Param.value).getD p.2⟩) s.params } := by
  induction ps generalizing s with
  | nil => rfl
  | cons p rest ih => exact ih _

theorem checkRequestOk {g : GroupId} {kind : RequestKind} {workplane : Option EntityId}
    (ok : s.checkRequest g kind workplane = .ok ()) :
    (∃ record, s.groups.get? g = some record) ∧ (kind = .workplane → workplane = none) := by
  obtain ⟨record, registered, rest⟩ := Result.bindOk.mp ok
  refine ⟨⟨record, groupFound.mp registered⟩, ?_⟩
  intro same
  subst same
  cases workplane with
  | none => rfl
  | some w =>
    obtain ⟨e, _, rest⟩ := Result.bindOk.mp rest
    split at rest <;> cases rest

theorem checkRequestPlane {g : GroupId} {kind : RequestKind} {workplane : Option EntityId}
    (ok : s.checkRequest g kind workplane = .ok ()) {w : EntityId} (lies : workplane = some w) :
    ∃ e, s.entities.get? w = some e ∧ e.isA .workplane = true := by
  obtain ⟨_, _, rest⟩ := Result.bindOk.mp ok
  rw [lies] at rest
  obtain ⟨e, found, rest⟩ := Result.bindOk.mp rest
  refine ⟨e, entityFound.mp found, ?_⟩
  by_contra other
  rw [if_pos (by simpa using other)] at rest
  cases rest

theorem Intact.absent (h : s.Intact) : s.requests.get? ⟨s.nextRequest⟩ = none := by
  cases found : s.requests.get? ⟨s.nextRequest⟩ with
  | none => rfl
  | some q => exact absurd (h.requestNumbers _ q found) (Nat.lt_irrefl _)

variable [Scalar α]

theorem enterRequestRecords (s : Sketch α) (kept : ParamId → Option α) (r : Request) :
    s.enterRequest kept r = { s with
      params := (s.enterRequest kept r).params
      entities := r.entities.foldl Registry.add s.entities } := by
  unfold enterRequest
  rw [enterParams]

theorem enterRequestParams (h : s.params.Consistent) (kept : ParamId → Option α) (r : Request) :
    Entered r.group ((r.params (α := α)).map Prod.fst) s.params (s.enterRequest kept r).params := by
  unfold enterRequest
  rw [enterParams]
  exact Entered.all Prod.fst (fun _ _ => ⟨_, rfl⟩) r.params h

omit [Scalar α] in
theorem enterParamsFresh {r : Registry ParamId (Param α)} (h : r.Consistent) {group : GroupId} {ps : List (ParamId × α)}
    (distinct : (ps.map Prod.fst).Nodup) (fresh : ∀ p ∈ ps, p.1 ∉ r.keys) :
    (ps.foldl (fun r p => r.add ⟨p.1, group, (none <|> (r.get? p.1).map Param.value).getD p.2⟩) r).toList =
      r.toList ++ ps.map fun p => ⟨p.1, group, p.2⟩ := by
  induction ps generalizing r with
  | nil => simp
  | cons p rest ih =>
    obtain ⟨first, distinct⟩ := List.nodup_cons.mp distinct
    have absent := fresh p List.mem_cons_self
    have added (x : α) : (r.add ⟨p.1, group, x⟩).keys = r.keys ++ [p.1] := h.keysAddNew absent
    have behind (x : α) : (r.add ⟨p.1, group, x⟩).toList = r.toList ++ [⟨p.1, group, x⟩] :=
      (h.toListAdd _).trans (if_neg absent)
    rw [List.foldl_cons, h.getNone.mpr absent, ih (h.add _) distinct, behind, List.append_assoc]
    · rfl
    · intro q member
      rw [added, List.mem_append, List.mem_singleton]
      rintro (old | same)
      · exact fresh q (List.mem_cons_of_mem _ member) old
      · exact first (same ▸ List.mem_map_of_mem member)

theorem enterRequestFresh (h : s.params.Consistent) {q : Request} (distinct : ((q.params (α := α)).map Prod.fst).Nodup)
    (fresh : ∀ p ∈ q.params (α := α), p.1 ∉ s.params.keys) :
    (s.enterRequest (fun _ => none) q).params.toList = s.params.toList ++ q.params.map fun p => ⟨p.1, q.group, p.2⟩ := by
  unfold enterRequest
  rw [enterParams]
  exact enterParamsFresh h distinct fresh

theorem paramOfRequest {q : Request} {p : ParamId} (member : p ∈ (q.params (α := α)).map Prod.fst) :
    p.owner = .request q.id := by
  rw [Request.paramIds] at member
  obtain ⟨e, part, own⟩ := List.mem_flatMap.mp member
  exact (Request.drawn part).own p own

theorem addRequestRun {group : GroupId} {kind : RequestKind} {workplane : Option EntityId}
    (allowed : s.checkRequest group kind workplane = .ok ()) (construction : Bool) :
    addRequest group kind workplane construction s = (.ok ⟨s.nextRequest⟩,
      let r : Request := ⟨⟨s.nextRequest⟩, group, workplane, kind, construction⟩
      let t := { s with nextRequest := s.nextRequest + 1 }.enterRequest (fun _ => none) r
      { t with requests := t.requests.add r }.markDirty group) := by
  refine Attempt.bindOk.mpr ⟨(), s, Edit.readOk.mpr ⟨allowed, rfl⟩, ?_⟩
  rw [Attempt.getBind]
  exact Attempt.bindOk.mpr ⟨(), _, Attempt.modifyOk.mpr rfl, rfl⟩

theorem Intact.drawnRequest (h : s.Intact) {r : Request} (fresh : r.id = ⟨s.nextRequest⟩)
    (allowed : s.checkRequest r.group r.kind r.workplane = .ok ()) : Intact (
      let t := { s with nextRequest := s.nextRequest + 1 }.enterRequest (fun _ => none) r
      { t with requests := t.requests.add r }) := by
  obtain ⟨registered, flat⟩ := checkRequestOk allowed
  have absent : s.requests.get? r.id = none := fresh ▸ h.absent
  have entered := enterRequestParams (s := { s with nextRequest := s.nextRequest + 1 }) h.params (fun _ => none) r
  dsimp only
  rw [enterRequestRecords]
  generalize (enterRequest { s with nextRequest := s.nextRequest + 1 } (fun _ => none) r).params = params at entered ⊢
  refine { h with
    requests := h.requests.add r, entities := h.entities.addAll _, params := entered.consistent,
    requestNumbers := ?_, requestGroups := ?_, flat := ?_, drawn := ?_, present := ?_, made := ?_, owned := ?_,
    expanded := ?_, helped := ?_ }
  · intro id q now
    rcases h.requests.foundAdd now with ⟨same, _⟩ | before
    · rw [← show r.id = id from same, fresh]
      exact Nat.lt_succ_self _
    · exact Nat.lt_succ_of_lt (h.requestNumbers id q before)
  · intro id q now
    rcases h.requests.foundAdd now with ⟨_, rfl⟩ | before
    · exact registered
    · exact h.requestGroups id q before
  · intro id q now
    rcases h.requests.foundAdd now with ⟨_, rfl⟩ | before
    · exact flat
    · exact h.flat id q before
  · intro id e r' now origin
    rcases h.entities.foundAddAll now with ⟨part, keyed⟩ | before
    · have drawn := (Request.drawn part).origin
      rw [show e.id = id from keyed, origin] at drawn
      obtain rfl := EntityOrigin.request.inj drawn
      exact ⟨r, h.requests.getAddSelf r, part⟩
    · obtain ⟨q, there, part⟩ := h.drawn id e r' before origin
      exact ⟨q, h.requests.keptAdd absent there, part⟩
  · intro id q now e part
    rcases h.requests.foundAdd now with ⟨_, rfl⟩ | before
    · exact h.entities.getAddAllMem r.entitiesDistinct part
    · refine (h.entities.getAddAllOther ?_).trans (h.present id q before e part)
      intro again
      obtain ⟨e', part', same⟩ := List.mem_map.mp again
      have here := (Request.drawn part').origin
      have there := (Request.drawn part).origin
      rw [show e'.id = e.id from same, there] at here
      have key : q.id = id := h.requests.keyOfGet before
      rw [← key, EntityOrigin.request.inj here, absent] at before
      exact nomatch before
  · intro id e g now made
    rcases h.entities.foundAddAll now with ⟨part, keyed⟩ | before
    · have drawn := (Request.drawn part).origin
      rw [show e.id = id from keyed] at drawn
      exact absurd drawn (made.notDrawn r.id)
    · exact h.made id e g before made
  · intro p x now
    rcases entered.found now with ⟨own, group⟩ | ⟨_, before⟩
    · simp only [OwnedBy, paramOfRequest own]
      exact ⟨r, h.requests.getAddSelf r, group.symm⟩
    · exact (h.owned p x before).congr (fun id q _ there => ⟨q, h.requests.keptAdd absent there, rfl⟩) fun _ k _ there =>
        ⟨k, there, rfl⟩
  · intro id q now e part p own
    rcases h.requests.foundAdd now with ⟨_, rfl⟩ | before
    · refine entered.there ?_
      rw [Request.paramIds]
      exact List.mem_flatMap.mpr ⟨e, part, own⟩
    · exact entered.still (h.expanded id q before e part p own)
  · intro c k there p helper
    exact entered.still (h.helped c k there p helper)

omit [Scalar α] in
theorem constructedEntities {q : Request} {r : RequestId} (named : q.id = r) (id : RequestId) (construction : Bool) :
    (if r = id then { q with construction } else q : Request).entities =
      (q.entities (α := α)).map fun e => if e.id.request? = some id then { e with construction } else e := by
  have origin (e : Entity α) (part : e ∈ q.entities) : e.id.request? = some r := by
    unfold EntityId.request?
    rw [(Request.drawn part).origin, named]
  split
  · rename_i same
    rw [Request.entitiesOfConstruction]
    exact List.map_congr_left fun e part => (if_pos (same ▸ origin e part)).symm
  · rename_i other
    refine (List.map_id _).symm.trans (List.map_congr_left fun e part => (if_neg ?_).symm)
    rw [origin e part]
    exact fun same => other (Option.some.inj same)

omit [Scalar α] in
theorem Intact.construction (h : s.Intact) (id : RequestId) (construction : Bool) : Intact { s with
    requests := s.requests.modify id ({ · with construction })
    entities := s.entities.map fun e => if e.id.request? = some id then { e with construction } else e } := by
  let f (e : Entity α) := if e.id.request? = some id then { e with construction } else e
  have keepsRequest : ∀ q : Request, q.id = id → ({ q with construction } : Request).id = id := fun _ same => same
  have keeps (e : Entity α) : (f e).id = e.id := by
    unfold f
    split <;> rfl
  have request (r : RequestId) (q : Request) :
      (s.requests.modify id ({ · with construction })).get? r = some q ↔
        ∃ q', s.requests.get? r = some q' ∧ (if r = id then { q' with construction } else q') = q :=
    h.requests.foundModify id keepsRequest
  have kept (r : RequestId) (q : Request) (found : s.requests.get? r = some q) :=
    (request r (if r = id then { q with construction } else q)).mpr ⟨q, found, rfl⟩
  have parts (r : RequestId) (q : Request) (found : s.requests.get? r = some q) :=
    constructedEntities (α := α) (h.requests.keyOfGet found) id construction
  have kind (e : Entity α) : (f e).kind = e.kind ∧ (f e).group = e.group ∧ (f e).workplane = e.workplane := by
    unfold f
    split <;> exact ⟨rfl, rfl, rfl⟩
  have get (k : EntityId) := h.entities.getMap keeps k
  refine { h with
    requests := h.requests.modify id keepsRequest, entities := h.entities.map keeps, requestNumbers := ?_,
    requestGroups := ?_, flat := ?_, drawn := ?_, present := ?_, made := ?_, owned := ?_, expanded := ?_ }
  · intro r q now
    obtain ⟨q', found, _⟩ := (request r q).mp now
    exact h.requestNumbers r q' found
  · intro r q now
    obtain ⟨q', found, same⟩ := (request r q).mp now
    have group : q.group = q'.group := by
      rw [← same]
      split <;> rfl
    exact group ▸ h.requestGroups r q' found
  · intro r q now
    obtain ⟨q', found, same⟩ := (request r q).mp now
    have both : q.kind = q'.kind ∧ q.workplane = q'.workplane := by
      rw [← same]
      split <;> exact ⟨rfl, rfl⟩
    rw [both.1, both.2]
    exact h.flat r q' found
  · intro k e r now origin
    obtain ⟨e', found, same⟩ := Option.map_eq_some_iff.mp ((get k).symm.trans now)
    obtain ⟨q, there, part⟩ := h.drawn k e' r found origin
    refine ⟨_, kept r q there, ?_⟩
    rw [parts r q there]
    exact List.mem_map.mpr ⟨e', part, same⟩
  · intro r q now e part
    obtain ⟨q', found, same⟩ := (request r q).mp now
    rw [← same, parts r q' found] at part
    obtain ⟨e', part', eq⟩ := List.mem_map.mp part
    refine (get e.id).trans ?_
    rw [← eq, keeps, h.present r q' found e' part']
    rfl
  · intro k e g now made
    obtain ⟨e', found, same⟩ := Option.map_eq_some_iff.mp ((get k).symm.trans now)
    obtain ⟨group, workplane, parts, own, placing⟩ := h.made k e' g found made
    obtain ⟨sameKind, sameGroup, sameWorkplane⟩ := kind e'
    rw [← same]
    exact ⟨sameGroup ▸ group, sameWorkplane ▸ workplane, sameKind ▸ parts, sameKind ▸ own, sameKind ▸ placing⟩
  · intro p x found
    refine (h.owned p x found).congr (fun r q _ there => ⟨_, kept r q there, ?_⟩) fun _ k _ there => ⟨k, there, rfl⟩
    split <;> rfl
  · intro r q now e part p own
    obtain ⟨q', found, same⟩ := (request r q).mp now
    rw [← same, parts r q' found] at part
    obtain ⟨e', part', eq⟩ := List.mem_map.mp part
    rw [← eq, (kind e').1] at own
    exact h.expanded r q' found e' part' p own

omit [Scalar α] in
theorem Intact.erased (h : s.Intact) (id : RequestId) : Intact { s with
    entities := s.entities.filter fun e => !(e.id.request? == some id)
    params := s.params.filter (·.id.owner != ParamOwner.request id)
    requests := s.requests.remove id } := by
  have entity (k : EntityId) (e : Entity α)
      (now : (s.entities.filter fun e => !(e.id.request? == some id)).get? k = some e) :
      s.entities.get? k = some e ∧ k.request? ≠ some id := by
    obtain ⟨found, other⟩ := h.entities.foundFilter.mp now
    have keyed : e.id = k := h.entities.keyOfGet found
    exact ⟨found, by simpa [keyed] using other⟩
  refine { h with
    requests := h.requests.remove id, entities := h.entities.filter _, params := h.params.filter _,
    requestNumbers := ?_, requestGroups := ?_, flat := ?_, drawn := ?_, present := ?_, made := ?_, owned := ?_,
    expanded := ?_, helped := ?_ }
  · intro r q now
    exact h.requestNumbers r q (h.requests.foundRemove.mp now).2
  · intro r q now
    exact h.requestGroups r q (h.requests.foundRemove.mp now).2
  · intro r q now
    exact h.flat r q (h.requests.foundRemove.mp now).2
  · intro k e r now origin
    obtain ⟨found, other⟩ := entity k e now
    obtain ⟨q, there, part⟩ := h.drawn k e r found origin
    refine ⟨q, h.requests.foundRemove.mpr ⟨?_, there⟩, part⟩
    intro same
    exact other (by simp [EntityId.request?, origin, same])
  · intro r q now e part
    obtain ⟨other, found⟩ := h.requests.foundRemove.mp now
    have key : q.id = r := h.requests.keyOfGet found
    have origin : e.id.request? = some r := by simp [EntityId.request?, (Request.drawn part).origin, key]
    exact h.entities.foundFilter.mpr ⟨h.present r q found e part, by simp [origin, other]⟩
  · intro k e g now made
    exact h.made k e g (entity k e now).1 made
  · intro p x now
    obtain ⟨found, other⟩ := (foundDropped h.params).mp now
    refine (h.owned p x found).congr (fun r q owner there => ⟨q, ?_, rfl⟩) fun _ k _ there => ⟨k, there, rfl⟩
    exact h.requests.foundRemove.mpr ⟨fun same => other (same ▸ owner), there⟩
  · intro r q now e part p own
    obtain ⟨other, found⟩ := h.requests.foundRemove.mp now
    refine stillDropped h.params ?_ (h.expanded r q found e part p own)
    rw [(Request.drawn part).own p own]
    intro same
    have key : q.id = r := h.requests.keyOfGet found
    exact other (key.symm.trans (ParamOwner.request.inj same))
  · intro c k there p helper
    refine stillDropped h.params ?_ (h.helped c k there p helper)
    rw [helperOwner helper]
    exact fun same => nomatch same

theorem Change.intact (step : Change s t) (h : s.Intact) : t.Intact := by
  cases step with
  | adjusted step => exact step.intact h
  | drawn fresh allowed => exact (h.drawnRequest fresh allowed).markDirty _
  | construction found b => exact (h.construction _ b).markDirty _
  | erased found => exact (h.erased _).markDirty _

theorem Changes.intact (steps : Changes s t) (h : s.Intact) : t.Intact := by
  induction steps with
  | refl => exact h
  | tail _ step ih => exact step.intact ih

end Sketch
end Drafting
