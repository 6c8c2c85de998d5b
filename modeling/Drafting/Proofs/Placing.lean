import Drafting.Proofs.Erasing
import Drafting.Proofs.Standing
/-! Points that are placed. A point lies where its own parameters and its workplane put it. Both bear the names of the
requests or groups that they belong to, so a point stays where it is as long as edits touch other requests. -/
namespace Drafting
open Attempt Edit

theorem Edit.readThen [Raises ε ε'] {f : Sketch α → Except ε σ} {k : σ → Edit α ε' τ} {s t : Sketch α} {y : τ}
    (ok : (read f >>= k) s = (.ok y, t)) : ∃ x, f s = .ok x ∧ k x s = (.ok y, t) := by
  obtain ⟨x, u, looked, rest⟩ := bindOk.mp ok
  obtain ⟨found, rfl⟩ := readOk.mp looked
  exact ⟨x, found, rest⟩

theorem Edit.foundThen {cause : ε} {o : Option σ} {k : σ → Edit α ε τ} {s t : Sketch α} {y : τ}
    (ok : (found cause o >>= k) s = (.ok y, t)) : ∃ x, o = some x ∧ k x s = (.ok y, t) := by
  cases o with
  | none => exact absurd ok throwOk
  | some x => exact ⟨x, rfl, ok⟩

theorem EntityId.ofRequest {e : EntityId} {r : RequestId} : e.request? = some r ↔ e.origin = .request r := by
  rw [request?]
  cases e.origin <;> simp

def EntityId.Owns (id : EntityId) (p : ParamId) : Prop :=
  (∃ r, id.origin = .request r ∧ p.owner = .request r) ∨ ∃ g, id.Of g ∧ p.owner = .group g

def EntityId.Free (touched : RequestId → Prop) (id : EntityId) : Prop := ∀ r, id.request? = some r → ¬ touched r

namespace EntityId
variable {id : EntityId} {p : ParamId} {touched : RequestId → Prop}

theorem Owns.plain (h : id.Owns p) (c : ConstraintId) : p.owner ≠ .constraint c := by
  rcases h with ⟨r, _, owner⟩ | ⟨g, _, owner⟩ <;> simp [owner]

theorem Owns.free (h : id.Owns p) (free : id.Free touched) (r : RequestId) (owner : p.owner = .request r) : ¬ touched r := by
  rcases h with ⟨r', origin, owner'⟩ | ⟨g, _, owner'⟩
  · cases owner.symm.trans owner'
    exact free r (ofRequest.mpr origin)
  · cases owner.symm.trans owner'

end EntityId

namespace Sketch
variable {s t u : Sketch α} {id w : EntityId} {e : Entity α} {q : Request} {touched more : RequestId → Prop}

theorem ownsOwn (h : s.Intact) (found : s.entities.get? id = some e) (p : ParamId)
    (member : p ∈ e.kind.ownParams ∨ p ∈ e.kind.placing) : id.Owns p := by
  have named : e.id = id := h.entities.keyOfGet found
  rcases h.origin found with ⟨q, _, part⟩ | ⟨g, ours, made⟩
  · have drawn := Request.drawn part
    rcases member with own | placing
    · exact .inl ⟨q.id, named ▸ drawn.origin, drawn.own p own⟩
    · rw [drawn.placing] at placing
      cases placing
  · rcases member with own | placing
    · rw [made.own] at own
      cases own
    · exact .inr ⟨g, ours, made.placing p placing⟩

theorem partOwner (h : s.Intact) (found : s.entities.get? id = some e) {part : EntityId} (named : part ∈ e.kind.parts) :
    (∀ p, part.Owns p → id.Owns p) ∧ ∀ touched, id.Free touched → part.Free touched := by
  have key : e.id = id := h.entities.keyOfGet found
  rcases h.origin found with ⟨q, _, drawn⟩ | ⟨g, ours, made⟩
  · have whole := Request.drawn drawn
    have same : part.origin = id.origin := (whole.parts part named).trans (key ▸ whole.origin.symm)
    constructor
    · intro p owns
      unfold EntityId.Owns EntityId.Of at owns ⊢
      rwa [same] at owns
    · intro touched free r mine
      exact free r (EntityId.ofRequest.mpr (same ▸ EntityId.ofRequest.mp mine))
  · have theirs := made.parts part named
    constructor
    · intro p owns
      rcases owns with ⟨r, origin, _⟩ | ⟨g', ours', owner⟩
      · rcases theirs with same | same <;> cases origin.symm.trans same
      · have same : g' = g := by
          rcases theirs with a | a <;> rcases ours' with b | b <;> cases a.symm.trans b <;> rfl
        exact .inr ⟨g, ours, same ▸ owner⟩
    · intro _ _ r mine
      rcases theirs with same | same <;> cases (EntityId.ofRequest.mp mine).symm.trans same

variable [Scalar α]

theorem planeOwned (h : s.Intact) (w : EntityId) : Result.All (PlaneExpr.Over w.Owns) (s.planeExpr w) := by
  intro plane ok
  obtain ⟨e, there, _⟩ := Result.bindOk.mp ok
  have found := entityFound.mp there
  refine planeWithinBy h found (fun part named e' there p member => ?_) _ plane ok
  exact (partOwner h found named).1 p (ownsOwn h there p member)

omit [Scalar α] in
/-- Only what belongs to some requests, or to constraints, may have changed. -/
structure Aside (touched : RequestId → Prop) (s t : Sketch α) : Prop where
  entities : ∀ id e, id.Free touched → s.entities.get? id = some e → t.entities.get? id = some e
  params : ∀ p, (∀ c, p.owner ≠ .constraint c) → (∀ r, p.owner = .request r → ¬ touched r) →
    t.params.get? p = s.params.get? p

namespace Aside

omit [Scalar α] in
theorem ofSame (entities : t.entities = s.entities) (params : t.params = s.params) : Aside touched s t where
  entities _ _ _ found := entities ▸ found
  params p _ _ := congrArg (·.get? p) params

omit [Scalar α] in
theorem mono (h : Aside touched s t) (wider : ∀ r, touched r → more r) : Aside more s t where
  entities id e free := h.entities id e fun r mine inside => free r mine (wider r inside)
  params p plain free := h.params p plain fun r owner inside => free r owner (wider r inside)

omit [Scalar α] in
theorem trans (first : Aside touched s t) (next : Aside touched t u) : Aside touched s u where
  entities id e free found := next.entities id e free (first.entities id e free found)
  params p plain free := (next.params p plain free).trans (first.params p plain free)

theorem value (h : Aside touched s t) {p : ParamId} (owns : id.Owns p) (free : id.Free touched) :
    t.valueOf p = s.valueOf p := by
  rw [valueOf, valueOf, h.params p owns.plain (owns.free free)]

theorem plane (h : Aside touched s t) (intact : s.Intact) (free : w.Free touched) {x : PlaneExpr α}
    (ok : s.planeExpr w = .ok x) : t.planeExpr w = .ok x ∧ x.origin.eval t.valueOf = x.origin.eval s.valueOf ∧
      x.orientation.eval t.valueOf = x.orientation.eval s.valueOf := by
  obtain ⟨e, there, _⟩ := Result.bindOk.mp ok
  have found := entityFound.mp there
  have covers := planeOwned intact w x ok
  have same (p : ParamId) (owns : w.Owns p) := h.value owns free
  refine ⟨?_, Vec3.evalCongr covers.origin same, Quat.evalCongr covers.orientation same⟩
  refine planeWithinSame intact found (h.entities w e free found) (fun p named part there => ?_) ok
  exact h.entities p part ((partOwner intact found named).2 _ free) there

theorem frame (h : Aside touched s t) (intact : s.Intact) (free : w.Free touched) {f : Frame α}
    (ok : s.frame w = .ok f) : t.frame w = .ok f := by
  obtain ⟨x, placed, last⟩ := Result.bindOk.mp ok
  obtain ⟨still, origin, orientation⟩ := h.plane intact free placed
  refine Result.bindOk.mpr ⟨x, still, ?_⟩
  rw [origin, orientation]
  exact last

theorem position (h : Aside touched s t) (intact : s.Intact) (found : s.entities.get? id = some e) (free : id.Free touched)
    (level : ∀ w, e.workplane = some w → w.Free touched) {v : Vec3 α} (ok : s.position id = .ok v) :
    t.position id = .ok v := by
  obtain ⟨x, placed, last⟩ := Result.bindOk.mp ok
  refine Result.bindOk.mpr ⟨x, ?_, ?_⟩
  · exact pointFromSame found (h.entities id e free found) (fun w lies y there => (h.plane intact (level w lies) there).1) placed
  · have covers : x.Over fun p => id.Owns p ∨ ∃ w, e.workplane = some w ∧ w.Owns p := by
      refine pointFromAll found (fun p member => .inl (ownsOwn intact found p member)) (fun w lies y there => ?_) x placed
      have owned := planeOwned intact w y there
      exact ⟨owned.origin.mono fun p owns => .inr ⟨w, lies, owns⟩, owned.orientation.mono fun p owns => .inr ⟨w, lies, owns⟩⟩
    rw [← Vec3.evalCongr covers fun p owner => ?_]
    · exact last
    · rcases owner with owns | ⟨w, lies, owns⟩
      · exact (h.value owns free).symm
      · exact (h.value owns (level w lies)).symm

end Aside

omit [Scalar α] in
theorem deleteConstraintAside (h : s.Consistent) (i : ConstraintId) (touched : RequestId → Prop) :
    Aside touched s ((deleteConstraint i).attempt s) := by
  rw [deleteConstraintAttempt]
  cases s.constraints.get? i with
  | none => exact .ofSame rfl rfl
  | some c =>
    refine ⟨fun _ _ _ found => found, fun p plain _ => ?_⟩
    refine Option.ext fun x => (foundDropped h.params).trans ?_
    exact and_iff_left (plain i)

structure Shaped (q : Request) (s t : Sketch α) : Prop where
  number : q.id = ⟨s.nextRequest⟩
  nextRequest : t.nextRequest = s.nextRequest + 1
  requests : t.requests = s.requests.add q
  entities : t.entities = q.entities.foldl Registry.add s.entities
  constraints : t.constraints = s.constraints

omit [Scalar α] in
/- Its number is new, so the requests before stay. -/
theorem Shaped.keeps (shaped : Shaped q s t) (h : s.Intact) {i : RequestId} {p : Request}
    (found : s.requests.get? i = some p) : t.requests.get? i = some p := by
  rw [shaped.requests]
  refine (h.requests.getAdd q i).trans ((if_neg fun same => ?_).trans found)
  have below := h.requestNumbers i p found
  rw [← same, show Keyed.key q = q.id from rfl, shaped.number] at below
  exact Nat.lt_irrefl _ below

theorem addRequestShapes {g : GroupId} {plane : Option EntityId} {kind : RequestKind} {construction : Bool} {i : RequestId}
    (ok : addRequest g kind plane construction s = (.ok i, t)) :
    i = ⟨s.nextRequest⟩ ∧ Shaped ⟨i, g, plane, kind, construction⟩ s t := by
  obtain ⟨_, _, read, _⟩ := bindOk.mp ok
  obtain ⟨allowed, _⟩ := readOk.mp read
  have run := addRequestRun allowed construction
  dsimp only at run
  rw [enterRequestRecords] at run
  cases ok.symm.trans run
  exact ⟨rfl, rfl, rfl, rfl, rfl, rfl⟩

theorem addRequestAside (h : s.Intact) {g : GroupId} {kind : RequestKind} {plane : Option EntityId} {construction : Bool}
    {i : RequestId} (ok : addRequest g kind plane construction s = (.ok i, t)) : Aside (· = i) s t := by
  obtain ⟨_, _, read, _⟩ := bindOk.mp ok
  have run := addRequestRun (readOk.mp read).1 construction
  let q : Request := ⟨⟨s.nextRequest⟩, g, plane, kind, construction⟩
  cases ok.symm.trans run
  have entered := enterRequestParams (s := { s with nextRequest := s.nextRequest + 1 }) h.params (fun _ => none) q
  refine ⟨fun id e free found => ?_, fun p _ free => ?_⟩
  · change ({ s with nextRequest := s.nextRequest + 1 }.enterRequest (fun _ => none) q).entities.get? id = some e
    rw [enterRequestRecords]
    refine (h.entities.getAddAllOther fun member => ?_).trans found
    obtain ⟨part, drawn, same⟩ := List.mem_map.mp member
    exact free q.id (EntityId.ofRequest.mpr ((show part.id = id from same) ▸ (Request.drawn drawn).origin)) rfl
  · exact entered.old p fun member => free q.id (paramOfRequest member) rfl

omit [Scalar α] in
theorem Erased.aside {r : RequestId} (erased : Erased r s t) (before : s.Intact) (after : t.Intact) : Aside (· = r) s t where
  entities id e free found := by
    have named : e.id = id := before.entities.keyOfGet found
    have kept : e ∈ t.entities.toList := by
      rw [erased.entities]
      exact List.mem_filter.mpr ⟨Registry.memOfGet found, bne_iff_ne.mpr fun mine => free r (named ▸ mine) rfl⟩
    exact named ▸ after.entities.getOfMem kept
  params p plain free := by
    refine Option.ext fun x => ?_
    constructor
    · intro found
      have named : x.id = p := after.params.keyOfGet found
      have member := Registry.memOfGet found
      rw [erased.params] at member
      exact named ▸ before.params.getOfMem (List.mem_filter.mp member).1
    · intro found
      have named : x.id = p := before.params.keyOfGet found
      have kept : x ∈ t.params.toList := by
        rw [erased.params]
        refine List.mem_filter.mpr ⟨Registry.memOfGet found, Bool.and_eq_true_iff.mpr ⟨?_, List.all_eq_true.mpr ?_⟩⟩
        · exact bne_iff_ne.mpr fun mine => free r (named ▸ mine) rfl
        · intro c _
          exact Bool.or_eq_true_iff.mpr (.inr (bne_iff_ne.mpr (named ▸ plain c.id)))
      exact named ▸ after.params.getOfMem kept

theorem setParamOk (h : s.Consistent) {p : ParamId} {x : α} (ok : setParam p x s = (.ok (), t)) :
    t.valueOf p = x ∧ (∀ p', p' ≠ p → t.params.get? p' = s.params.get? p') ∧ t.entities = s.entities := by
  have get := setParamGet h p
  unfold setParam at ok
  rw [getBind] at ok
  obtain ⟨r, found, changed⟩ := foundThen ok
  have run : (setParam p x).attempt s = t := by
    rw [setParamAttempt, found]
    exact (modifyOk.mp changed).symm
  rw [← run]
  refine ⟨?_, fun p' other => (get p' x).trans (if_neg other), ?_⟩
  · rw [valueOf, get p x, if_pos rfl, found]
    rfl
  · rw [setParamAttempt, found]
    rfl

omit [Scalar α] in
theorem planarPoint (q : Request) (lies : q.workplane = some w) {n : Nat} (few : n < q.kind.pointCount) :
    q.part (q.point n) (.pointIn2d ⟨q.param (n * 2), q.param (n * 2 + 1)⟩) ∈ q.entities (α := α) := by
  have part (count : Nat) (less : n < count) :
      q.part (q.point n) (.pointIn2d ⟨q.param (n * 2), q.param (n * 2 + 1)⟩) ∈ q.pointParts (α := α) count := by
    refine List.mem_map.mpr ⟨n, List.mem_range.mpr less, ?_⟩
    simp [Request.coordinates, lies]
  unfold Request.entities
  generalize q.kind = kind at few ⊢
  cases kind with
  | datumPoint => exact part 1 few
  | _ => exact List.mem_append_left _ (part _ few)

structure Lands (q : Request) (f : Frame α) (n : Nat) (place : Vec3 α) (t : Sketch α) : Prop where
  x : t.valueOf (q.param (n * 2)) = (f.project place).x
  y : t.valueOf (q.param (n * 2 + 1)) = (f.project place).y

theorem forcePointLands (h : s.Intact) (there : s.requests.get? q.id = some q) (lies : q.workplane = some w) {f : Frame α}
    (frame : s.frame w = .ok f) {n : Nat} (few : n < q.kind.pointCount) {place : Vec3 α}
    (ok : forcePoint (q.point n) place s = (.ok (), t)) : Lands q f n place t ∧ t.entities = s.entities ∧
      ∀ p, p ≠ q.param (n * 2) → p ≠ q.param (n * 2 + 1) → t.params.get? p = s.params.get? p := by
  let e : Entity α := q.part (q.point n) (.pointIn2d ⟨q.param (n * 2), q.param (n * 2 + 1)⟩)
  have found : s.entities.get? (q.point n) = some e := h.present q.id q there e (planarPoint q lies few)
  obtain ⟨e', read, ok⟩ := readThen ok
  obtain rfl := Option.some.inj (found.symm.trans (entityFound.mp read))
  obtain ⟨w', same, ok⟩ := foundThen ok
  obtain rfl := Option.some.inj (lies.symm.trans same)
  obtain ⟨f', level, ok⟩ := readThen ok
  cases frame.symm.trans level
  obtain ⟨_, u, first, second⟩ := bindOk.mp ok
  obtain ⟨x, others, entities⟩ := setParamOk h.toConsistent first
  have after : u.Consistent := by
    have steps := setParamGradual (q.param (n * 2)) (f.project place).x s
    rw [first] at steps
    exact Adjustments.consistent steps h.toConsistent
  obtain ⟨y, others', entities'⟩ := setParamOk after second
  have apart : q.param (n * 2) ≠ q.param (n * 2 + 1) := by simp [Request.param, ParamId.request]
  refine ⟨⟨?_, y⟩, entities'.trans entities, fun p left right => (others' p right).trans (others p left)⟩
  rw [valueOf, others' _ apart]
  exact x

theorem frameStands {f : Frame α} (frame : s.frame w = .ok f) :
    ∃ e, s.entities.get? w = some e ∧ e.isA .workplane = true := by
  obtain ⟨x, placed, _⟩ := Result.bindOk.mp frame
  obtain ⟨e, read, rest⟩ := Result.bindOk.mp placed
  refine ⟨e, entityFound.mp read, ?_⟩
  cases kind : e.kind with
  | workplane => simp [Entity.isA, kind, EntityKind.isA, EntityKind.classes]
  | _ =>
    rw [kind] at rest
    cases rest

theorem planeFree (h : s.Intact) (there : s.requests.get? q.id = some q) (lies : q.workplane = some w) {f : Frame α}
    (frame : s.frame w = .ok f) : w.Free (· = q.id) := by
  obtain ⟨e, stands, plane⟩ := frameStands frame
  intro r mine same
  subst same
  obtain ⟨q', there', part⟩ := h.drawn w e q.id stands (EntityId.ofRequest.mp mine)
  obtain rfl := Option.some.inj (there.symm.trans there')
  cases lies.symm.trans (h.flat q.id q there (q.workplaneDrawn e part plane))

omit [Scalar α] in
theorem freshFree (h : s.Intact) (found : s.entities.get? id = some e) : id.Free (s.nextRequest ≤ ·.number) := by
  intro r mine late
  obtain ⟨q, there, _⟩ := h.drawn id e r found (EntityId.ofRequest.mp mine)
  exact absurd (h.requestNumbers r q there) (Nat.not_lt_of_le late)

theorem placesLand (h : s.Intact) (there : s.requests.get? q.id = some q) (lies : q.workplane = some w) {f : Frame α}
    (frame : s.frame w = .ok f) {places : List (Vec3 α × Nat)} (distinct : (places.map Prod.snd).Nodup)
    (few : ∀ x ∈ places, x.2 < q.kind.pointCount)
    (ok : (places.forM fun x => forcePoint (q.point x.2) x.1) s = (.ok (), t)) :
    (∀ x ∈ places, Lands q f x.2 x.1 t) ∧ t.entities = s.entities ∧
      ∀ p, (∀ x ∈ places, p ≠ q.param (x.2 * 2) ∧ p ≠ q.param (x.2 * 2 + 1)) → t.params.get? p = s.params.get? p := by
  induction places generalizing s with
  | nil =>
    cases ok
    exact ⟨fun x member => (List.not_mem_nil member).elim, rfl, fun _ _ => rfl⟩
  | cons x rest ih =>
    rw [List.forM_eq_forM, List.forM_cons] at ok
    obtain ⟨_, u, first, later⟩ := bindOk.mp ok
    have steps := forcePointGradual (R := Adjustment) (q.point x.2) x.1 s
    rw [first] at steps
    obtain ⟨lands, entities, others⟩ := forcePointLands h there lies frame (few x List.mem_cons_self) first
    have aside : Aside (· = q.id) s u := by
      refine ⟨fun _ _ _ found => entities ▸ found, fun p _ free => others p ?_ ?_⟩
      · rintro rfl
        exact free q.id rfl rfl
      · rintro rfl
        exact free q.id rfl rfl
    have level := aside.frame h (planeFree h there lies frame) frame
    obtain ⟨new, distinct⟩ := List.nodup_cons.mp distinct
    obtain ⟨all, entities', others'⟩ := ih (Adjustments.intact steps h) (Adjustments.requests steps ▸ there) level distinct
      (fun y member => few y (List.mem_cons_of_mem _ member)) later
    -- What has been put to its place is not moved again.
    have still (k : Nat) (mine : k = x.2 * 2 ∨ k = x.2 * 2 + 1) : t.params.get? (q.param k) = u.params.get? (q.param k) := by
      refine others' _ fun y member => ?_
      have apart : y.2 ≠ x.2 := fun same => new (same ▸ List.mem_map_of_mem member)
      simp only [Request.param, ParamId.request, ne_eq, ParamId.mk.injEq, true_and]
      omega
    refine ⟨?_, entities'.trans entities, fun p free => ?_⟩
    · rw [List.forall_mem_cons]
      refine ⟨⟨?_, ?_⟩, all⟩
      · rw [valueOf, still _ (.inl rfl)]
        exact lands.x
      · rw [valueOf, still _ (.inr rfl)]
        exact lands.y
    · obtain ⟨⟨left, right⟩, free⟩ := List.forall_mem_cons.mp free
      exact (others' p free).trans (others p left right)

theorem addShapeLands (h : s.Intact) {g : GroupId} {kind : RequestKind} {places : List (Vec3 α)} {f : Frame α}
    (frame : s.frame w = .ok f) (few : places.length ≤ kind.pointCount)
    (ok : addShape g kind (some w) places s = (.ok q, t)) : Aside (· = q.id) s t ∧
      ∀ n place, places[n]? = some place → Lands q f n place t := by
  obtain ⟨i, u, drawn, ok⟩ := bindOk.mp ok
  obtain ⟨_, v, placed, ok⟩ := bindOk.mp ok
  cases ok
  let q : Request := ⟨i, g, some w, kind, false⟩
  have steps := addRequestGradual g kind (some w) false s
  rw [drawn] at steps
  have intact : u.Intact := Changes.intact steps h
  obtain ⟨rfl, shaped⟩ := addRequestShapes drawn
  have there : u.requests.get? q.id = some q := by
    rw [shaped.requests]
    exact h.requests.getAddSelf q
  obtain ⟨e, stands, _⟩ := frameStands frame
  have aside := addRequestAside h drawn
  have free : w.Free (· = q.id) := fun r mine same => freshFree h stands r mine (same ▸ Nat.le_refl _)
  have distinct : (places.zipIdx.map Prod.snd).Nodup := by
    rw [List.zipIdx_map_snd]
    exact List.nodup_range' 1
  obtain ⟨lands, entities, others⟩ := placesLand intact there rfl (aside.frame h free frame) distinct
    (fun x member => Nat.lt_of_lt_of_le (by simpa using (List.mem_zipIdx member).2.1) few) placed
  refine ⟨aside.trans ⟨fun _ _ _ found => entities ▸ found, fun p _ free => others p fun x _ => ⟨?_, ?_⟩⟩, fun n place given => ?_⟩
  · rintro rfl
    exact free q.id rfl rfl
  · rintro rfl
    exact free q.id rfl rfl
  · exact lands (place, n) (List.mk_mem_zipIdx_iff_getElem?.mpr given)

end Sketch
end Drafting
