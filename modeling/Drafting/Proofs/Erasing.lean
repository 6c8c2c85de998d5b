import Drafting.Proofs.Detaching
import Drafting.Proofs.Naming
/-! Requests that are deleted. What stands between their points and others is bridged first, whatever still names
them goes next, and they go last with all that is theirs. Each of these steps touches only constraints that name
something of the request, and adds only coincidences. -/
namespace Drafting
open Attempt Edit

def Constraint.mentions (c : Constraint α) (r : RequestId) : Bool := c.references.any (·.request? == some r)

theorem Edit.forMAttempts {f : σ → Edit α ε Unit} {xs : List σ} {s t : Sketch α} (ok : xs.forM f s = (.ok (), t)) :
    t = xs.foldl (fun s x => (f x).attempt s) s := by
  induction xs generalizing s with
  | nil =>
    cases ok
    rfl
  | cons x rest ih =>
    rw [List.forM_eq_forM, List.forM_cons] at ok
    obtain ⟨_, u, first, later⟩ := bindOk.mp ok
    have same : (f x).attempt s = u := congrArg Prod.snd first
    rw [List.foldl_cons, same]
    exact ih later

namespace Sketch
variable {s t u : Sketch α} {r : RequestId} {p a b : EntityId}

theorem mentionsOf {c : Constraint α} {e : EntityId} (named : e ∈ c.references) (mine : e.request? = some r) :
    c.mentions r = true := List.any_eq_true.mpr ⟨e, named, beq_iff_eq.mpr mine⟩

theorem ConstraintKind.Joins.named {c : Constraint α} (h : c.kind.Joins p a) : p ∈ c.references := by
  refine List.mem_append_left _ ?_
  rcases h with same | same <;> rw [same] <;> simp [ConstraintKind.references]

def JoinsPoints (s : Sketch α) (c : Constraint α) : Prop :=
  ∃ a b, c.kind = .pointsCoincident a b ∧ s.Has .point a ∧ s.Has .point b

structure Rewired (r : RequestId) (s t : Sketch α) : Prop where
  requests : t.requests = s.requests
  entities : t.entities = s.entities
  numbers : s.nextConstraint ≤ t.nextConstraint
  constraints : ∃ joins : List (Constraint α),
    t.constraints.toList.filter (!·.mentions r) = s.constraints.toList.filter (!·.mentions r) ++ joins ∧
    ∀ c ∈ joins, s.nextConstraint ≤ c.id.number ∧ c.mentions r = false ∧ s.JoinsPoints c
  params : ∃ gone : List ConstraintId,
    t.params.toList = s.params.toList.filter (fun p => gone.all (p.id.owner != .constraint ·)) ∧
    ∀ c ∈ s.constraints.toList, c.id ∈ gone → c.mentions r = true

theorem Rewired.refl (r : RequestId) (s : Sketch α) : Rewired r s s where
  requests := rfl
  entities := rfl
  numbers := Nat.le_refl _
  constraints := ⟨[], (List.append_nil _).symm, fun _ member => nomatch member⟩
  params := ⟨[], by simp, fun _ _ member => nomatch member⟩

theorem Rewired.trans (first : Rewired r s t) (next : Rewired r t u) : Rewired r s u where
  requests := next.requests.trans first.requests
  entities := next.entities.trans first.entities
  numbers := Nat.le_trans first.numbers next.numbers
  constraints := by
    obtain ⟨early, listed, new⟩ := first.constraints
    obtain ⟨late, listed', new'⟩ := next.constraints
    refine ⟨early ++ late, by rw [listed', listed, List.append_assoc], fun c member => ?_⟩
    rcases List.mem_append.mp member with before | after
    · exact new c before
    · obtain ⟨number, apart, a, b, kind, left, right⟩ := new' c after
      rw [Has, first.entities] at left right
      exact ⟨Nat.le_trans first.numbers number, apart, a, b, kind, left, right⟩
  params := by
    obtain ⟨early, listed, doomed⟩ := first.params
    obtain ⟨late, listed', doomed'⟩ := next.params
    refine ⟨early ++ late, ?_, fun c member gone => ?_⟩
    · rw [listed', listed, List.filter_filter]
      exact List.filter_congr fun p _ => by rw [List.all_append, Bool.and_comm]
    · rcases List.mem_append.mp gone with before | after
      · exact doomed c member before
      · -- A constraint that names nothing of the request is still there for the later steps.
        by_contra other
        have still : c ∈ t.constraints.toList.filter (!·.mentions r) := by
          obtain ⟨_, same, _⟩ := first.constraints
          rw [same]
          exact List.mem_append_left _ (List.mem_filter.mpr ⟨member, by simpa using other⟩)
        exact other (doomed' c (List.mem_filter.mp still).1 after)

theorem deleteRewires (h : s.Consistent) {i : ConstraintId}
    (named : ∀ c, s.constraints.get? i = some c → c.mentions r = true) : Rewired r s ((deleteConstraint i).attempt s) := by
  rw [deleteConstraintAttempt]
  cases found : s.constraints.get? i with
  | none => exact .refl r s
  | some c =>
    refine ⟨rfl, rfl, Nat.le_refl _, ⟨[], ?_, fun _ member => nomatch member⟩, [i], ?_, fun k member gone => ?_⟩
    · rw [List.append_nil]
      refine h.constraints.removeOther fun k there => ?_
      rw [named k there]
      rfl
    · change (s.params.filter _).toList = _
      rw [Registry.toListFilter]
      exact List.filter_congr fun p _ => (Bool.and_true _).symm
    · obtain rfl := List.mem_singleton.mp gone
      exact named k (h.constraints.getOfMem member)

variable [Scalar α]

theorem deletesRewire (h : s.Consistent) {ids : List ConstraintId}
    (named : ∀ i ∈ ids, ∀ c, s.constraints.get? i = some c → c.mentions r = true) : Rewired r s (s.deleteConstraints ids) := by
  induction ids generalizing s with
  | nil => exact .refl r s
  | cons i rest ih =>
    have after : ((deleteConstraint i).attempt s).Consistent := Adjustments.consistent (deleteConstraintGradual i s) h
    refine (deleteRewires h (named i List.mem_cons_self)).trans (ih after fun j member c found => ?_)
    have there := (deletedGet h [i] j).symm.trans found
    split at there
    · cases there
    · exact named j (List.mem_cons_of_mem _ member) c there

theorem joinRewires (h : s.Intact) (g : GroupId) (plane : Option EntityId) (a b : EntityId) :
    Rewired r s ((addConstraint g plane (.pointsCoincident a b)).attempt s) := by
  by_cases valid : s.validate g plane (.pointsCoincident a b) = .ok ()
  · let c : Constraint α := ⟨⟨s.nextConstraint⟩, g, plane, .pointsCoincident a b, false⟩
    have run : (addConstraint g plane (.pointsCoincident a b)).attempt s = s.joined g plane a b :=
      congrArg Prod.snd (joinEntered h.constraints valid)
    have listed : (s.joined g plane a b).constraints.toList = s.constraints.toList ++ [c] :=
      (h.constraints.toListAdd c).trans (if_neg (h.constraints.getNone.mp h.fresh))
    obtain ⟨left, right⟩ := validJoin valid
    rw [run]
    refine ⟨rfl, rfl, Nat.le_succ _, ⟨[c].filter (!·.mentions r), ?_, fun k member => ?_⟩, [], ?_, fun _ _ gone => nomatch gone⟩
    · rw [listed, List.filter_append]
    · obtain ⟨same, apart⟩ := List.mem_filter.mp member
      obtain rfl := List.mem_singleton.mp same
      exact ⟨Nat.le_refl _, by simpa using apart, a, b, rfl, left, right⟩
    · exact (List.filter_eq_self.mpr fun _ _ => rfl).symm
  · rw [addRefused valid]
    exact .refl r s

theorem rejoinsRewire (h : s.Intact) (g : GroupId) (plane : Option EntityId) (pairs : List (EntityId × EntityId)) :
    Rewired r s (pairs.foldl (fun s (a, b) => (addConstraint g plane (.pointsCoincident a b)).attempt s) s) := by
  induction pairs generalizing s with
  | nil => exact .refl r s
  | cons pair rest ih =>
    have after : ((addConstraint g plane (.pointsCoincident pair.1 pair.2)).attempt s).Intact :=
      Adjustments.intact (addConstraintGradual g plane _ false s) h
    exact (joinRewires h g plane pair.1 pair.2).trans (ih after)

theorem detachRewires (h : s.Intact) (mine : p.request? = some r) : Rewired r s (s.detachPoint p) := by
  cases found : s.entities.get? p with
  | none =>
    rw [detachPoint, found]
    exact .refl r s
  | some e =>
    have freed : (s.freed e.group p).Intact := Adjustments.intact (deleteConstraintsGradual _ s) h
    rw [detachRun found]
    refine (deletesRewire h.toConsistent fun i member c there => ?_).trans (rejoinsRewire freed e.group e.workplane _)
    obtain ⟨⟨_, o⟩, inside, rfl⟩ := List.mem_map.mp member
    obtain ⟨k, same, _, joins⟩ := (memThrough h.toConsistent).mp inside
    obtain rfl := Option.some.inj (same.symm.trans there)
    exact mentionsOf (ConstraintKind.Joins.named joins) mine

theorem detachAllRewires (h : s.Intact) {points : List EntityId} (mine : ∀ p ∈ points, p.request? = some r) :
    Rewired r s (points.foldl detachPoint s) := by
  induction points generalizing s with
  | nil => exact .refl r s
  | cons p rest ih =>
    have after : (s.detachPoint p).Intact := Adjustments.intact (detachPointGradual s p) h
    exact (detachRewires h (mine p List.mem_cons_self)).trans
      (ih after fun q member => mine q (List.mem_cons_of_mem _ member))

/-- A sketch without a request and without all that belongs to it. What is new joins two points that are left. -/
structure Erased (r : RequestId) (s t : Sketch α) : Prop where
  requests : t.requests.toList = s.requests.toList.filter (·.id != r)
  entities : t.entities.toList = s.entities.toList.filter (·.id.request? != some r)
  constraints : ∃ joins : List (Constraint α),
    t.constraints.toList = s.constraints.toList.filter (!·.mentions r) ++ joins ∧
    ∀ c ∈ joins, s.constraints.get? c.id = none ∧ c.mentions r = false ∧ t.JoinsPoints c
  params : t.params.toList = s.params.toList.filter fun p => p.id.owner != .request r &&
    s.constraints.toList.all fun c => !c.mentions r || p.id.owner != .constraint c.id

omit [Scalar α] in
theorem Erased.request (h : Erased r s t) (after : t.Intact) {i : RequestId} {q : Request}
    (found : s.requests.get? i = some q) (named : q.id = i) (other : i ≠ r) : t.requests.get? i = some q := by
  subst named
  refine after.requests.getOfMem ?_
  rw [h.requests]
  exact List.mem_filter.mpr ⟨Registry.memOfGet found, bne_iff_ne.mpr other⟩

omit [Scalar α] in
theorem Erased.gone (h : Erased r s t) (after : t.Intact) : t.requests.get? r = none := by
  cases found : t.requests.get? r with
  | none => rfl
  | some q =>
    have member := Registry.memOfGet found
    rw [h.requests] at member
    exact absurd (after.requests.keyOfGet found) (bne_iff_ne.mp (List.mem_filter.mp member).2)

omit [Scalar α] in
theorem Erased.keeps (h : Erased r s t) (before : s.Intact) (after : t.Intact) {i : ConstraintId} {c : Constraint α}
    (found : s.constraints.get? i = some c) (other : c.mentions r = false) : t.constraints.get? i = some c := by
  obtain ⟨joins, listed, _⟩ := h.constraints
  have member : c ∈ t.constraints.toList := by
    rw [listed]
    exact List.mem_append_left _ (List.mem_filter.mpr ⟨Registry.memOfGet found, by rw [other]; rfl⟩)
  have named : c.id = i := before.constraints.keyOfGet found
  exact named ▸ after.constraints.getOfMem member

omit [Scalar α] in
theorem Erased.drops (h : Erased r s t) (before : s.Intact) (after : t.Intact) {i : ConstraintId} {c : Constraint α}
    (found : s.constraints.get? i = some c) (mine : c.mentions r = true) : t.constraints.get? i = none := by
  obtain ⟨joins, listed, new⟩ := h.constraints
  cases there : t.constraints.get? i with
  | none => rfl
  | some k =>
    have member := Registry.memOfGet there
    have named : k.id = i := after.constraints.keyOfGet there
    rw [listed] at member
    rcases List.mem_append.mp member with old | join
    · obtain ⟨inside, other⟩ := List.mem_filter.mp old
      have one : s.constraints.get? i = some k := named ▸ before.constraints.getOfMem inside
      obtain rfl := Option.some.inj (found.symm.trans one)
      rw [mine] at other
      cases other
    · obtain ⟨absent, _⟩ := new k join
      rw [named] at absent
      cases absent.symm.trans found

omit [Scalar α] in
theorem Rewired.cleared (h : Rewired r s t) (before : s.Intact) (after : t.Intact)
    (free : ∀ c ∈ t.constraints.toList, c.mentions r = false) : t.params.toList = s.params.toList.filter fun p =>
      s.constraints.toList.all fun c => !c.mentions r || p.id.owner != .constraint c.id := by
  obtain ⟨gone, listed, doomed⟩ := h.params
  have left {c : Constraint α} (member : c ∈ s.constraints.toList) (named : c.mentions r = true) :
      t.constraints.get? c.id = none := by
    cases found : t.constraints.get? c.id with
    | none => rfl
    | some k =>
      have there := Registry.memOfGet found
      have same : k.id = c.id := after.constraints.keyOfGet found
      obtain ⟨joins, kept, new⟩ := h.constraints
      have either : k ∈ s.constraints.toList.filter (!·.mentions r) ++ joins :=
        kept ▸ List.mem_filter.mpr ⟨there, by rw [free k there]; rfl⟩
      rcases List.mem_append.mp either with old | join
      · have one := before.constraints.getOfMem (List.mem_filter.mp old).1
        rw [show Keyed.key k = Keyed.key c from same] at one
        obtain rfl := Option.some.inj (one.symm.trans (before.constraints.getOfMem member))
        cases (free k there).symm.trans named
      · have number := before.constraintNumbers c.id c (before.constraints.getOfMem member)
        exact absurd (same ▸ (new k join).1) (Nat.not_le_of_lt number)
  rw [listed]
  refine List.filter_congr fun p member => ?_
  rw [Bool.eq_iff_iff, List.all_eq_true, List.all_eq_true]
  constructor
  · intro apart c there
    by_contra other
    simp only [Bool.or_eq_true, Bool.not_eq_true', bne_iff_ne, not_or, Bool.not_eq_false, not_not] at other
    obtain ⟨named, owner⟩ := other
    have kept : p ∈ t.params.toList := listed ▸ List.mem_filter.mpr ⟨member, List.all_eq_true.mpr apart⟩
    have owned := after.owned p.id p (after.params.getOfMem kept)
    simp only [OwnedBy, owner] at owned
    obtain ⟨k, found, _⟩ := owned
    cases (left there named).symm.trans found
  · intro apart i going
    refine bne_iff_ne.mpr fun owner => ?_
    have owned := before.owned p.id p (before.params.getOfMem member)
    simp only [OwnedBy, owner] at owned
    obtain ⟨k, found, _⟩ := owned
    have there := Registry.memOfGet found
    obtain rfl : k.id = i := before.constraints.keyOfGet found
    have other := apart k there
    rw [doomed k there going, owner] at other
    simp at other

theorem mentionsSwept {u : Sketch α} (h : u.Intact) (r : RequestId) : ∃ v,
    ((u.constraints.toList.filter (·.mentions r)).forM fun c => deleteConstraint c.id) u = (.ok (), v) ∧
      Rewired r u v ∧ (∀ c ∈ v.constraints.toList, c.mentions r = false) ∧ v.Intact := by
  let doomed := u.constraints.toList.filter (·.mentions r)
  let v := u.deleteConstraints (doomed.map Constraint.id)
  have swept : (doomed.forM fun c => deleteConstraint c.id) u = (.ok (), v) := by
    obtain ⟨t, done⟩ := deleteEachSucceeds h.constraints ((List.filter_sublist.map _).nodup h.constraints.keysNodup)
      fun c member => h.constraints.getOfMem (List.mem_filter.mp member).1
    have same : t = v := by
      change t = (doomed.map Constraint.id).foldl (fun s id => (deleteConstraint id).attempt s) u
      rw [List.foldl_map]
      exact forMAttempts done
    exact same ▸ done
  have left : v.constraints.toList = u.constraints.toList.filter (!·.mentions r) := removedList h.constraints _
  refine ⟨v, swept, deletesRewire h.toConsistent fun i member c there => ?_, fun c member => ?_,
    Adjustments.intact (deleteConstraintsGradual _ u) h⟩
  · obtain ⟨k, inside, rfl⟩ := List.mem_map.mp member
    obtain ⟨listed, named⟩ := List.mem_filter.mp inside
    obtain rfl := Option.some.inj ((h.constraints.getOfMem listed).symm.trans there)
    exact named
  · rw [left] at member
    simpa using (List.mem_filter.mp member).2

theorem deleteRequestErases (h : s.Intact) {q : Request} (found : s.requests.get? r = some q) :
    ∃ t, deleteRequest r s = (.ok (), t) ∧ Erased r s t := by
  let points := (s.entities.toList.filter fun e => e.id.request? == some r && e.isA .point).map Entity.id
  let u := points.foldl detachPoint s
  have mine : ∀ p ∈ points, p.request? = some r := by
    intro p member
    obtain ⟨e, inside, rfl⟩ := List.mem_map.mp member
    exact beq_iff_eq.mp (Bool.and_eq_true_iff.mp (List.mem_filter.mp inside).2).1
  have bridged : Rewired r s u := detachAllRewires h mine
  have intact : u.Intact := Adjustments.intact (detachPointsGradual points s) h
  obtain ⟨v, swept, rewired, free, after⟩ := mentionsSwept intact r
  have whole : Rewired r s v := bridged.trans rewired
  let t := Sketch.markDirty { v with
    entities := v.entities.filter fun e => !(e.id.request? == some r)
    params := v.params.filter (·.id.owner != ParamOwner.request r)
    requests := v.requests.remove r } q.group
  have run : deleteRequest r s = (.ok (), t) := by
    refine bindOk.mpr ⟨q, s, readOk.mpr ⟨requestFound.mpr found, rfl⟩, ?_⟩
    refine bindOk.mpr ⟨(), u, modifyOk.mpr rfl, ?_⟩
    rw [getBind]
    exact bindOk.mpr ⟨(), v, swept, rfl⟩
  have others {a : EntityId} (point : s.Has .point a) (apart : a.request? ≠ some r) : t.Has .point a := by
    obtain ⟨e, there, is⟩ := point
    have named : e.id = a := h.entities.keyOfGet there
    refine ⟨e, (after.entities.getFilter _ a).trans ?_, is⟩
    rw [whole.entities, there, Option.filter_some, if_pos]
    simpa [named] using apart
  refine ⟨t, run, ?_, ?_, ?_, ?_⟩
  · refine (after.requests.toListRemove r).trans ?_
    rw [whole.requests]
    rfl
  · change (v.entities.filter _).toList = _
    rw [Registry.toListFilter, whole.entities]
    rfl
  · obtain ⟨joins, listed, new⟩ := whole.constraints
    have kept : v.constraints.toList = s.constraints.toList.filter (!·.mentions r) ++ joins := by
      rw [← listed, List.filter_eq_self.mpr fun c member => by rw [free c member]; rfl]
    refine ⟨joins, kept, fun c member => ?_⟩
    obtain ⟨number, apart, a, b, kind, left, right⟩ := new c member
    have absent : s.constraints.get? c.id = none := by
      cases there : s.constraints.get? c.id with
      | none => rfl
      | some k => exact absurd (h.constraintNumbers c.id k there) (Nat.not_lt_of_le number)
    have other (e : EntityId) (named : e ∈ c.references) : e.request? ≠ some r := fun mine =>
      nomatch apart.symm.trans (mentionsOf named mine)
    have joins : c.kind.Joins a b := .inl kind
    exact ⟨absent, apart, a, b, kind, others left (other a (ConstraintKind.Joins.named joins)),
      others right (other b (ConstraintKind.Joins.named joins.symm))⟩
  · change (v.params.filter _).toList = _
    rw [Registry.toListFilter, whole.cleared h after free, List.filter_filter]

end Sketch

namespace Session
open Sketch

theorem deleteRequestExact [Scalar α] {config : EngineConfig α} {s : Session α} (h : Reached config s) {r : RequestId}
    {q : Request} (found : s.sketch.requests.get? r = some q) :
    ∃ t, deleteRequest r s.sketch = (.ok (), t) ∧ Erased r s.sketch t :=
  deleteRequestErases (reachedIntact h).sketch found

theorem curveErased : ∃ (s : Session Float) (q : Request) (c : Constraint Float) (t : Sketch Float), Reached .standard s ∧
    s.sketch.requests.get? bent.id = some bent ∧ s.sketch.requests.get? q.id = some q ∧ q.id ≠ bent.id ∧
    c ∈ s.sketch.constraints.toList ∧ c.mentions bent.id = true ∧
    deleteRequest bent.id s.sketch = (.ok (), t) ∧ Erased bent.id s.sketch t := by
  obtain ⟨s, reached, known⟩ := linkedReached [(0, 1)]
  have furnished := (reachedFurnished reached).1
  obtain ⟨g, drawing⟩ := (known.rejoins furnished).group
  have allowed : s.sketch.checkRequest ⟨1⟩ .datumPoint none = .ok () :=
    Result.bindOk.mpr ⟨_, groupFound.mpr drawing, rfl⟩
  let q : Request := ⟨⟨s.sketch.nextRequest⟩, ⟨1⟩, none, .datumPoint, false⟩
  obtain ⟨u, run, requests, constraints⟩ : ∃ u, addRequest ⟨1⟩ .datumPoint none false s.sketch = (.ok q.id, u) ∧
      u.requests = s.sketch.requests.add q ∧ u.constraints = s.sketch.constraints := by
    refine ⟨_, addRequestRun allowed false, ?_⟩
    dsimp only
    rw [enterRequestRecords]
    exact ⟨rfl, rfl⟩
  have reached : Reached .standard (s.withSketch u) := reached.edited (c := .addRequest ⟨1⟩ .datumPoint none false) rfl run
  have other : q.id ≠ bent.id := by
    intro same
    exact absurd (furnished.requestNumbers _ bent known.curve) (same ▸ Nat.lt_irrefl _)
  have curve : u.requests.get? bent.id = some bent := by
    rw [requests]
    exact (furnished.requests.getAdd q bent.id).trans ((if_neg other).trans known.curve)
  let c : Constraint Float := ⟨⟨1⟩, ⟨1⟩, none, .pointsCoincident (bent.point 0) (bent.point 1), false⟩
  have member : c ∈ u.constraints.toList := by
    rw [constraints, known.constraints]
    exact List.mem_singleton_self _
  obtain ⟨t, done, erased⟩ := deleteRequestExact reached curve
  refine ⟨s.withSketch u, q, c, t, reached, curve, ?_, other, member, rfl, done, erased⟩
  change u.requests.get? q.id = some q
  rw [requests]
  exact furnished.requests.getAddSelf q

end Session
end Drafting
