import Drafting.Proofs.Running
/-! A group stands where making it anew would change nothing. It is made from its own records, its requests
and copies of its source, and the copies are frozen where their originals are: in the groups that the source
and its workplanes belong to. A group that a pass made anew stands after it, as all these come before the
group; one that was left as it was still stands if none of these was made anew. -/
namespace Drafting
open Result

namespace Sketch

section Place
variable [Scalar α] {K : GroupId → Prop} {s t : Sketch α} {id : EntityId} {e : Entity α}

omit [Scalar α] in
theorem placeSame {f f' : EntityId → Except SketchError (PlaneExpr α)} {g : PlaneExpr α → τ} {v : τ}
    (level : ∀ w, e.workplane = some w → ∀ x, f w = .ok x → f' w = .ok x) {cause : SketchError}
    (ok : (do return g (← f (← found cause e.workplane))) = .ok v) :
    (do return g (← f' (← found cause e.workplane))) = .ok v := by
  obtain ⟨w, lies, rest⟩ := bindOk.mp ok
  obtain ⟨x, placed, last⟩ := bindOk.mp rest
  exact bindOk.mpr ⟨w, lies, bindOk.mpr ⟨x, level w (foundOk.mp lies) x placed, last⟩⟩

theorem pointFromSame (found : s.entities.get? id = some e) (found' : t.entities.get? id = some e)
    {f f' : EntityId → Except SketchError (PlaneExpr α)} (level : ∀ w, e.workplane = some w → ∀ x, f w = .ok x → f' w = .ok x)
    {v : Vec3 (Expr α)} (ok : s.pointFrom f id = .ok v) : t.pointFrom f' id = .ok v := by
  obtain ⟨e', read, rest⟩ := bindOk.mp ok
  obtain rfl := Option.some.inj (found.symm.trans (entityFound.mp read))
  refine bindOk.mpr ⟨e, entityFound.mpr found', ?_⟩
  cases kind : e.kind with
  | pointIn2d p =>
    rw [kind] at rest
    exact placeSame level rest
  | _ =>
    rw [kind] at rest
    exact rest

theorem normalFromSame (found : s.entities.get? id = some e) (found' : t.entities.get? id = some e)
    {f f' : EntityId → Except SketchError (PlaneExpr α)} (level : ∀ w, e.workplane = some w → ∀ x, f w = .ok x → f' w = .ok x)
    {q : Quat (Expr α)} (ok : s.normalFrom f id = .ok q) : t.normalFrom f' id = .ok q := by
  obtain ⟨e', read, rest⟩ := bindOk.mp ok
  obtain rfl := Option.some.inj (found.symm.trans (entityFound.mp read))
  refine bindOk.mpr ⟨e, entityFound.mpr found', ?_⟩
  cases kind : e.kind with
  | normalIn2d =>
    rw [kind] at rest
    exact placeSame level rest
  | _ =>
    rw [kind] at rest
    exact rest

theorem planeWithinSame (h : s.Intact) (found : s.entities.get? id = some e) (found' : t.entities.get? id = some e)
    (parts : ∀ p ∈ e.kind.parts, ∀ part, s.entities.get? p = some part → t.entities.get? p = some part) {m n : Nat}
    {x : PlaneExpr α} (ok : s.planeWithin m id = .ok x) : t.planeWithin (n + 1) id = .ok x := by
  cases m with
  | zero => cases ok
  | succ m =>
    obtain ⟨e', origin, normal, read, kind, first, second⟩ := planeWithinOk.mp ok
    obtain rfl := Option.some.inj (found.symm.trans read)
    have flat := planeFlat h found (by simp [Entity.isA, kind, EntityKind.isA, EntityKind.classes])
    have level {p : EntityId} (named : p ∈ e.kind.parts) {part : Entity α} (there : s.entities.get? p = some part)
        (w : EntityId) (lies : part.workplane = some w) : False := by
      cases flat.symm.trans ((partAlike h found named there).2.symm.trans lies)
    obtain ⟨oe, there⟩ := pointFromThere first
    obtain ⟨ne, there'⟩ := normalFromThere second
    have named : origin ∈ e.kind.parts := by simp [kind]
    have named' : normal ∈ e.kind.parts := by simp [kind]
    refine planeWithinOk.mpr ⟨e, origin, normal, found', kind, ?_, ?_⟩
    · exact pointFromSame there (parts origin named oe there) (fun w lies => (level named there w lies).elim) first
    · exact normalFromSame there' (parts normal named' ne there') (fun w lies => (level named' there' w lies).elim) second

structure SamePlace (s t : Sketch α) (e : Entity α) : Prop where
  entity : t.entities.get? e.id = some e
  plane : ∀ w plane, e.workplane = some w → s.entities.get? w = some plane → t.entities.get? w = some plane ∧
    ∀ p ∈ plane.kind.parts, ∀ part, s.entities.get? p = some part → t.entities.get? p = some part
  values : ∀ p, s.Reads e p → t.valueOf p = s.valueOf p

theorem Alike.value (h : Alike K s t) (before : s.Intact) (after : t.Intact) {k : GroupId} {p : ParamId}
    (held : s.Holds k p) (inside : K k) : t.valueOf p = s.valueOf p := by
  have owner := held.owner
  cases found : s.params.get? p with
  | some x =>
    simp only [ownerOf?, found, Option.some.injEq] at owner
    rw [valueOf, valueOf, found, h.param before.params after.params (owner ▸ inside) found]
  | none =>
    -- A parameter that is not there belongs to the group in its name, in the other sketch too.
    have absent : t.params.get? p = none := by
      cases found' : t.params.get? p with
      | none => rfl
      | some y =>
        have named : p.owner = .group k := by
          simp only [ownerOf?, found] at owner
          split at owner
          · cases owner
            assumption
          · cases owner
        have owned := after.owned p y found'
        simp only [OwnedBy, named] at owned
        cases found.symm.trans (h.symm.param after.params before.params (owned ▸ inside) found')
    rw [valueOf, valueOf, found, absent]

theorem Alike.samePlace (h : Alike K s t) (before : s.Intact) (after : t.Intact) (found : s.entities.get? e.id = some e)
    (inside : K e.group) (level : ∀ w plane, e.workplane = some w → s.entities.get? w = some plane → K plane.group) :
    SamePlace s t e where
  entity := h.entity before.entities after.entities inside found
  plane w plane lies there := by
    have near := level w plane lies there
    refine ⟨h.entity before.entities after.entities near there, fun p named part placed => ?_⟩
    exact h.entity before.entities after.entities ((partAlike before there named placed).1.symm ▸ near) placed
  values p reads := by
    obtain ⟨k, held, same | ⟨w, plane, lies, there, same⟩⟩ := reads
    · exact h.value before after held (same ▸ inside)
    · exact h.value before after held (same ▸ level w plane lies there)

theorem SamePlace.stays (h : s.Intact) (found : s.entities.get? e.id = some e) (same : SamePlace s t e) :
    s.Stays t e.id := by
  have level (w : EntityId) (lies : e.workplane = some w) (x : PlaneExpr α) (ok : s.planeExpr w = .ok x) :
      t.planeExpr w = .ok x := by
    obtain ⟨plane, there, _⟩ := bindOk.mp ok
    have placed := entityFound.mp there
    obtain ⟨found', parts⟩ := same.plane w plane lies placed
    exact planeWithinSame h placed found' parts ok
  have values (p : ParamId) (reads : s.Reads e p) : s.valueOf p = t.valueOf p := (same.values p reads).symm
  constructor
  · intro p ok
    obtain ⟨v, placed, last⟩ := bindOk.mp ok
    refine bindOk.mpr ⟨v, pointFromSame found same.entity level placed, ?_⟩
    rw [← Vec3.evalCongr (pointReads h found v placed) values]
    exact last
  · intro q ok
    obtain ⟨v, placed, last⟩ := bindOk.mp ok
    refine bindOk.mpr ⟨v, normalFromSame found same.entity level placed, ?_⟩
    rw [← Quat.evalCongr (normalReads h found v placed) values]
    exact last
  · intro x ok
    obtain ⟨v, placed, last⟩ := bindOk.mp ok
    obtain ⟨e', read, rest⟩ := bindOk.mp placed
    obtain rfl := Option.some.inj (found.symm.trans (entityFound.mp read))
    refine bindOk.mpr ⟨v, bindOk.mpr ⟨e, entityFound.mpr same.entity, rest⟩, ?_⟩
    cases kind : e.kind with
    | distance p =>
      rw [kind] at rest
      cases rest
      cases last
      exact congrArg Except.ok (same.values p (ownReads h found (.inl (by simp [kind, EntityKind.ownParams]))))
    | distanceCopy y =>
      rw [kind] at rest
      cases rest
      exact last
    | _ =>
      rw [kind] at rest
      cases rest

theorem planeWithinOfEntities (same : t.entities = s.entities) (n : Nat) (id : EntityId) :
    t.planeWithin n id = s.planeWithin n id := by
  induction n generalizing id with
  | zero => rfl
  | succ n ih =>
    have all : t.planeWithin n = s.planeWithin n := funext ih
    simp only [planeWithin, pointFrom, normalFrom, entity, same, all]

theorem staysOfEntities (h : t.Intact) (same : s.entities = t.entities)
    (values : ∀ p : ParamId, (∀ c, p.owner ≠ .constraint c) → s.valueOf p = t.valueOf p) (id : EntityId) :
    s.Stays t id ∧ t.Stays s id := by
  have plane : s.planeExpr = t.planeExpr := funext fun w => by
    rw [planeExpr, planeExpr, same, planeWithinOfEntities same]
  have point : s.pointExpr id = t.pointExpr id := by simp only [pointExpr, pointFrom, entity, same, plane]
  have normal : s.normalExpr id = t.normalExpr id := by simp only [normalExpr, normalFrom, entity, same, plane]
  have distance : s.distanceExpr id = t.distanceExpr id := by simp only [distanceExpr, entity, same]
  have within : t.Within (fun p => ∀ c, p.owner ≠ .constraint c) id := by
    intro e there p reads
    obtain ⟨k, held, _⟩ := reads
    exact held.plain
  have placing := h.coveredBy fun p => ∀ c, p.owner ≠ .constraint c
  have positions : s.position id = t.position id := by
    rw [position, position, point]
    cases placed : t.pointExpr id with
    | error e => rfl
    | ok v => exact congrArg Except.ok (Vec3.evalCongr (pointAll placing within v placed) values)
  have orientations : s.orientation id = t.orientation id := by
    rw [orientation, orientation, normal]
    cases placed : t.normalExpr id with
    | error e => rfl
    | ok v => exact congrArg (fun q => Except.ok (Quat.normalize q)) (Quat.evalCongr (normalAll placing within v placed) values)
  have distances : s.distance id = t.distance id := by
    rw [Sketch.distance, Sketch.distance, distance]
    cases placed : t.distanceExpr id with
    | error e => rfl
    | ok x => exact congrArg Except.ok (Expr.evalCongr (distanceAll placing within x placed) values)
  constructor
  · exact ⟨fun _ ok => positions.symm.trans ok, fun _ ok => orientations.symm.trans ok, fun _ ok => distances.symm.trans ok⟩
  · exact ⟨fun _ ok => positions.trans ok, fun _ ok => orientations.trans ok, fun _ ok => distances.trans ok⟩

end Place

/-- The groups that place what a group copies: its source, and those in whose workplanes the source is drawn. -/
def PlacedBy (s : Sketch α) (g : Group α) (j : GroupId) : Prop :=
  ∃ k, g.source = some k ∧ (j = k ∨ ∃ q ∈ s.requests.toList, q.group = k ∧
    ∃ w plane, q.workplane = some w ∧ s.entities.get? w = some plane ∧ plane.group = j)

section Again
variable [Scalar α] {K : GroupId → Prop} {s t : Sketch α} {g g' : Group α} {c : Copies α}

def bared (s : Sketch α) (g : Group α) : Sketch α := s.regrown g { remap := g.remap }

theorem baredSpec (h : s.Intact) (g : Group α) : Regrown s g { remap := g.remap } (s.bared g) :=
  regrownSpec h.params (fitsNone g)

theorem baredIntact (h : s.Intact) (found : s.groups.get? g.id = some g) : (s.bared g).Intact :=
  regrownIntact h found (fitsNone g) (baredSpec h g)

theorem baredAlike (h : s.Intact) (found : s.groups.get? g.id = some g) : Alike (· ≠ g.id) s (s.bared g) :=
  (regrownConfined h (fitsNone g) (baredSpec h g)).alike h.groups (baredIntact h found).groups

theorem baredEntities (h : s.Intact) (g : Group α) : (s.bared g).entities = (s.redrawn g).entities := by
  rw [(baredSpec h g).entities, redrawnRecords]
  simp [content]

theorem regrownPlain (h : s.params.Consistent) (c : Copies α) {p : ParamId} (plain : p ∉ s.helpersOf g) :
    (s.regrown g c).params.get? p = (s.redrawn g).params.get? p := by
  have all (t : Sketch α) (same : t.params = (s.redrawn g).params) :
      (t.enterGroupParams (s.groupValues g.id) g.id ((s.helpersOf g).map (·, 0.0))).params.get? p =
        (s.redrawn g).params.get? p := by
    have entered := enterGroupParamsSpec (same ▸ (redrawnParams h g).consistent) (s.groupValues g.id) g.id
      ((s.helpersOf g).map (·, 0.0))
    rw [entered.old p (by simpa using plain), same]
  unfold regrown
  cases g.kind.isSolid with
  | true => exact all _ rfl
  | false => exact all _ rfl

theorem redrawnStays (h : s.Intact) (found : s.groups.get? g.id = some g) (id : EntityId) :
    (s.redrawn g).Stays (s.bared g) id ∧ (s.bared g).Stays (s.redrawn g) id := by
  refine staysOfEntities (baredIntact h found) (baredEntities h g).symm (fun p plain => ?_) id
  have other : p ∉ s.helpersOf g := by
    intro member
    obtain ⟨k, _, helper⟩ := List.mem_flatMap.mp member
    exact plain k.id (helperOwner helper)
  rw [valueOf, valueOf, bared, regrownPlain h.params _ other]

theorem sourcesNear (h : s.Intact) (found : s.groups.get? g.id = some g) (derived : g.kind.isDerived = true)
    (near : ∀ j, s.PlacedBy g j → K j ∧ j ≠ g.id) {k : GroupId} (source : g.source = some k) {e : Entity α}
    (there : (s.bared g).entities.get? e.id = some e) (ours : e.group = k) {w : EntityId} {plane : Entity α}
    (lies : e.workplane = some w) (placed : (s.bared g).entities.get? w = some plane) : K plane.group ∧ plane.group ≠ g.id := by
  have intact := baredIntact h found
  have spec := baredSpec h g
  have before : s.entities.get? w = some plane := by
    by_cases mine : plane.group = g.id
    · have cleared := h.entities.filter (·.group != g.id)
      rw [spec.entities] at placed
      rcases cleared.foundAddAll placed with ⟨member, named⟩ | kept
      · -- A group that copies has no workplane but those drawn in it.
        have none : fixtures g = [] := by
          unfold fixtures
          cases kind : g.kind <;> simp_all [GroupKind.isDerived]
        simp only [content, none, List.nil_append, List.append_nil] at member
        obtain ⟨q, registered, part⟩ := List.mem_flatMap.mp member
        have drawn := h.requests.getOfMem (List.mem_filter.mp registered).1
        exact named ▸ h.present q.id q drawn plane part
      · exact (h.entities.foundFilter.mp kept).1
    · exact (baredAlike h found).symm.entity intact.entities h.entities mine placed
  refine near plane.group ⟨k, source, .inr ?_⟩
  rcases intact.origin there with ⟨q, registered, part⟩ | ⟨_, _, made⟩
  · have drawn := Request.drawn part
    rw [spec.requests] at registered
    exact ⟨q, Registry.memOfGet registered, drawn.group.symm.trans ours, w, plane, drawn.workplane.symm.trans lies, before, rfl⟩
  · cases made.workplane.symm.trans lies

section Alike
variable (hs : s.Intact) (ht : t.Intact) (found : s.groups.get? g.id = some g) (found' : t.groups.get? g'.id = some g')
  (pattern : g'.pattern = (g.id, g.kind, g.source, c.remap)) (alike : Alike (fun j => K j ∧ j ≠ g.id) s t)
  (near : ∀ j, s.PlacedBy g j → K j ∧ j ≠ g.id) {es : List (Entity α)} (read : (s.redrawn g).sources g = .ok es)
include hs ht found found' pattern alike

theorem baredAlikeAgain : Alike (fun j => K j ∧ j ≠ g.id) (s.bared g) (t.bared g') := by
  have sameId : g'.id = g.id := congrArg Prod.fst pattern
  have first := (baredAlike hs found).symm.fewer (L := fun j => K j ∧ j ≠ g.id) fun _ inside => inside.2
  exact first.trans (alike.trans ((baredAlike ht found').fewer fun _ inside => sameId ▸ inside.2))

include near read

theorem sourcesAgain : (t.redrawn g').sources g' = .ok es := by
  obtain ⟨sameId, sameKind, sameSource, _⟩ : g'.id = g.id ∧ g'.kind = g.kind ∧ g'.source = g.source ∧ g'.remap = c.remap := by
    simpa [Group.pattern] using pattern
  unfold sources
  rw [sameKind, sameSource, sameId]
  rcases sourcesRead read with ⟨flat, rfl⟩ | ⟨derived, k, source, rfl⟩
  · rw [flat]
    rfl
  · have same := (baredAlikeAgain hs ht found found' pattern alike).entities k (near k ⟨k, source, .inl rfl⟩)
    rw [baredEntities hs, baredEntities ht] at same
    have split (es : List (Entity α)) : es.filter (fun e => e.group == k && !e.isA .face) =
        (es.filter (·.group == k)).filter (fun e => !e.isA .face) := by
      rw [List.filter_filter]
      exact List.filter_congr fun e _ => Bool.and_comm _ _
    rw [derived]
    refine bindOk.mpr ⟨k, foundOk.mpr source, ?_⟩
    rw [split, same, ← split]
    rfl

theorem sourcesStay : ∀ e ∈ es, (s.redrawn g).Stays (t.redrawn g') e.id := by
  intro e member
  have there : (s.bared g).entities.get? e.id = some e := by
    rw [baredEntities hs]
    exact sourceThere (redrawnConsistent hs.entities g) read e member
  have middle : (s.bared g).Stays (t.bared g') e.id := by
    rcases sourcesRead read with ⟨_, rfl⟩ | ⟨derived, k, source, rfl⟩
    · exact nomatch member
    have ours : e.group = k := by
      have both := (List.mem_filter.mp member).2
      rw [Bool.and_eq_true] at both
      simpa using both.1
    have placed := baredIntact hs found
    have inside := near k ⟨k, source, .inl rfl⟩
    refine ((baredAlikeAgain hs ht found found' pattern alike).samePlace placed (baredIntact ht found') there
      (ours ▸ inside) ?_).stays placed there
    exact fun w plane lies level => sourcesNear hs found derived near source there ours lies level
  exact ((redrawnStays hs found e.id).1.trans middle).trans (redrawnStays ht found' e.id).2

omit read

theorem copiedAgain (made : s.copied g = .ok c) : t.copied g' = .ok c := by
  obtain ⟨sameId, sameKind, _, slots⟩ : g'.id = g.id ∧ g'.kind = g.kind ∧ g'.source = g.source ∧ g'.remap = c.remap := by
    simpa [Group.pattern] using pattern
  unfold copied at made ⊢
  rw [sameKind]
  cases solid : g.kind.isSolid with
  | false =>
    rw [solid] at made
    cases made
    simp only [Bool.false_eq_true, if_false, slots]
  | true =>
    rw [solid] at made
    simp only [if_true] at made ⊢
    obtain ⟨es, read, run⟩ := copiesRun made
    have here := sourceThere (redrawnConsistent hs.entities g) read
    have stays := sourcesStay hs ht found found' pattern alike near read
    obtain ⟨_, _, added, pushed, _, replay⟩ := Copying.replaysAll here stays sameId sameKind _ _ _ run
    have rerun := replay { remap := g'.remap } (slots ▸ .refl _)
    refine bindOk.mpr ⟨es, sourcesAgain hs ht found found' pattern alike near read, bindOk.mpr ⟨((), c), ?_, rfl⟩⟩
    rw [show (Copying.all (t.redrawn g') g' es).run { remap := g'.remap } = _ from rerun, slots]
    refine congrArg (fun c => Except.ok ((), c)) ?_
    cases c
    simp_all

end Alike

/-- Making a group anew would change nothing. -/
def Stands (s : Sketch α) (id : GroupId) : Prop :=
  ∃ u, generateGroup id s = (.ok (), u) ∧ (∀ e, u.entities.get? e = s.entities.get? e) ∧
    ∀ k, u.groups.get? k = s.groups.get? k

theorem standsAgain (hs : s.Intact) (ht : t.Intact) (found : s.groups.get? g.id = some g)
    (found' : t.groups.get? g'.id = some g') (pattern : g'.pattern = (g.id, g.kind, g.source, c.remap))
    (alike : Alike (fun j => K j ∧ j ≠ g.id) s t) (near : ∀ j, s.PlacedBy g j → K j ∧ j ≠ g.id) (made : s.copied g = .ok c)
    (own : ∀ i (e : Entity α), e.group = g.id →
      (t.entities.get? i = some e ↔ (s.regrown g c).entities.get? i = some e)) : t.Stands g.id := by
  have again := copiedAgain hs ht found found' pattern alike near made
  obtain ⟨sameId, sameKind, _, slots⟩ : g'.id = g.id ∧ g'.kind = g.kind ∧ g'.source = g.source ∧ g'.remap = c.remap := by
    simpa [Group.pattern] using pattern
  have fits := copiedFits hs.entities made
  have spec := regrownSpec hs.params fits
  have spec' := regrownSpec ht.params (copiedFits ht.entities again)
  have run := generateGroupRun found' rfl
  rw [again, sameId] at run
  refine ⟨t.regrown g' c, run, fun i => ?_, fun k => ?_⟩
  · have content : t.content g' c = s.content g c := by
      have fixed : fixtures g' = fixtures g := by simp only [fixtures, sameKind, sameId]
      simp only [Sketch.content, requestsOf, fixed, alike.requests, sameId]
    have cleared := hs.entities.filter (·.group != g.id)
    have cleared' := ht.entities.filter (·.group != g'.id)
    rw [spec'.entities, cleared'.getAddAll, ht.entities.getFilter, content]
    have before := spec.entities ▸ cleared.getAddAll (s.content g c) i
    rw [hs.entities.getFilter] at before
    cases last : (s.content g c).reverse.find? (fun e => Keyed.key e = i) with
    | some e =>
      have ours := (contentApart hs fits e (List.mem_reverse.mp (List.mem_of_find?_eq_some last))).1
      rw [last] at before
      exact ((own i e ours).mpr before).symm
    | none =>
      rw [last] at before
      rw [Option.none_or] at before ⊢
      cases there : t.entities.get? i with
      | none => rfl
      | some e =>
        refine Option.filter_eq_some_iff.mpr ⟨rfl, ?_⟩
        rw [bne_iff_ne, sameId]
        intro ours
        have other := before.symm.trans ((own i e ours).mp there)
        simp [Option.filter_eq_some_iff, ours] at other
  · rw [spec'.groups]
    split
    · rw [ht.groups.getModify g'.id (f := ({ · with remap := c.remap })) fun _ same => same]
      split
      · rename_i same
        rw [same, found', ← slots]
        rfl
      · rfl
    · rfl

theorem Stands.kept {id : GroupId} (stands : s.Stands id) (hs : s.Intact) (ht : t.Intact) (found : s.groups.get? id = some g)
    (alike : Alike K s t) (own : K id) (near : ∀ j, s.PlacedBy g j → K j ∧ j ≠ id) : t.Stands id := by
  obtain ⟨u, run, entities, groups⟩ := stands
  obtain ⟨g₁, c, there, named, made, rfl⟩ := generateGroupOk hs.groups run
  obtain rfl := Option.some.inj (found.symm.trans there)
  subst named
  have fits := copiedFits hs.entities made
  have slots : c.remap = g.remap := by
    cases solid : g.kind.isSolid with
    | false => rw [fits.plain solid]
    | true =>
      have same := groups g.id
      rw [(regrownSpec hs.params fits).groups, solid, if_pos rfl,
        hs.groups.getModify g.id (f := ({ · with remap := c.remap })) fun _ same => same, if_pos rfl, found] at same
      exact congrArg Group.remap (Option.some.inj same)
  have record := alike.groups g.id own
  rw [found] at record
  obtain ⟨g', found', pattern⟩ := Option.map_eq_some_iff.mp record
  have sameId : g'.id = g.id := congrArg Prod.fst pattern
  refine standsAgain hs ht found (sameId ▸ found') (pattern.trans (by rw [slots]; rfl))
    (alike.fewer fun _ inside => inside.1) near made fun i e ours => ?_
  rw [entities]
  exact ⟨alike.symm.entity ht.entities hs.entities (ours ▸ own), alike.entity hs.entities ht.entities (ours ▸ own)⟩

end Again

section Pass
variable [Scalar α] {config : EngineConfig α} {clock : Nat → Nat} {s t u : Sketch α} {id : GroupId}
  {p p' : Regen.Progress α} {order done rest : List GroupId}
open Regen (Rebuilt Passes)

theorem rebuiltMakes (h : s.Intact) (step : Rebuilt config clock s id t) : ∃ g c now, s.groups.get? id = some g ∧
    g.id = id ∧ s.copied g = .ok c ∧ t.groups.get? id = some now ∧ now.pattern = (g.id, g.kind, g.source, c.remap) ∧
    t.entities = (s.regrown g c).entities := by
  obtain ⟨u, loops, shell, running, failures, run, same⟩ := step
  have fresh := generateGroupIntact h run
  obtain ⟨g, c, found, named, made, rfl⟩ := generateGroupOk h.groups run
  subst named
  have fits := copiedFits h.entities made
  obtain ⟨g₁, drawn, pattern⟩ : ∃ g₁, (s.regrown g c).groups.get? g.id = some g₁ ∧
      g₁.pattern = (g.id, g.kind, g.source, c.remap) := by
    rw [(regrownSpec h.params fits).groups]
    split
    · refine ⟨{ g with remap := c.remap }, ?_, rfl⟩
      rw [h.groups.getModify g.id (f := ({ · with remap := c.remap })) fun _ same => same, if_pos rfl, found]
      rfl
    · rename_i flat
      refine ⟨g, found, ?_⟩
      rw [fits.plain (by simpa using flat)]
      rfl
  obtain ⟨gone, _, settled⟩ := solveGroupSettles fresh g.id config.solver clock
  obtain ⟨v, outcome, steps, result⟩ := solveGroupSteps fresh.toConsistent drawn config.solver clock
  have steady := steps.consistent fresh.toConsistent
  obtain ⟨g₂, solved, pattern'⟩ : ∃ g₂, v.groups.get? g.id = some g₂ ∧ g₂.pattern = g₁.pattern := by
    rcases steps.group fresh.toConsistent g.id with kept | kept
    · exact ⟨g₁, kept.trans drawn, rfl⟩
    · exact ⟨{ g₁ with clean := false }, kept.trans (by rw [drawn]; rfl), rfl⟩
  rw [result] at settled same
  have noted : Steady Group.pattern v (v.modifyGroup g.id ({ · with solved := outcome })) :=
    steadyRecord steady g.id (fun _ same => same) fun _ _ => rfl
  have recorded : Steady Group.pattern (v.modifyGroup g.id ({ · with solved := outcome })) t := by
    rw [same]
    exact steadyRecord noted.consistent g.id (fun _ same => same) fun _ _ => rfl
  obtain ⟨now, after, kept⟩ := (noted.trans recorded).kept solved
  refine ⟨g, c, now, found, rfl, made, after, kept.trans (pattern'.trans pattern), ?_⟩
  rw [same]
  exact settled.drawing

theorem rebuiltStands {K : GroupId → Prop} (h : s.Intact) (step : Rebuilt config clock s id t) (after : u.Intact)
    (later : Alike K t u) (own : K id) (near : ∀ g, s.groups.get? id = some g → ∀ j, s.PlacedBy g j → K j ∧ j ≠ id) :
    u.Stands id := by
  obtain ⟨g, c, now, found, named, made, recorded, pattern, drawing⟩ := rebuiltMakes h step
  obtain ⟨intact, aside⟩ := rebuiltAlike h step
  subst named
  have record := later.groups g.id own
  rw [recorded] at record
  obtain ⟨g', found', pattern'⟩ := Option.map_eq_some_iff.mp record
  have sameId : g'.id = g.id := congrArg Prod.fst (pattern'.trans pattern)
  refine standsAgain h after found (sameId ▸ found') (pattern'.trans pattern)
    ((aside.fewer fun _ inside => inside.2).trans (later.fewer fun _ inside => inside.1)) (near g found) made fun i e ours => ?_
  rw [← drawing]
  exact ⟨later.symm.entity after.entities intact.entities (ours ▸ own), later.entity intact.entities after.entities (ours ▸ own)⟩

omit [Scalar α] in
theorem placedBefore (h : s.Intact) (after : t.Intact) (sorted : s.IsOrder (done ++ id :: rest)) (alike : Alike (· ∉ done) s t)
    {g g' : Group α} (found : s.groups.get? id = some g) (same : g'.source = g.source) (apart : g.source ≠ some id)
    {j : GroupId} (placed : t.PlacedBy g' j) : j ∈ done := by
  obtain ⟨k, source, rest⟩ := placed
  rw [same] at source
  have named : g.id = id := h.groups.keyOfGet found
  have first : k ∈ done := by
    refine sorted.after done id _ rfl k ?_
    simp only [dependenciesOf, found, dependencies, List.mem_filter, List.mem_append]
    refine ⟨.inl (by simp [Group.predecessors, source]), ?_⟩
    rw [bne_iff_ne, named]
    rintro rfl
    exact apart source
  rcases rest with rfl | ⟨q, registered, rfl, w, plane, lies, there, rfl⟩
  · exact first
  by_contra outside
  have there' : s.entities.get? w = some plane := alike.symm.entity after.entities h.entities outside there
  rw [alike.requests] at registered
  obtain ⟨r, record⟩ := h.requestGroups q.id q (h.requests.getOfMem registered)
  rcases buildsOnNamed h record (.inr (.inr ⟨q, registered, rfl, lies⟩)) there' with same | reached
  · exact outside (same ▸ first)
  · obtain ⟨early, late, rfl⟩ := List.append_of_mem first
    have split : (early ++ q.group :: late) ++ id :: rest = early ++ q.group :: (late ++ id :: rest) := by simp
    exact outside (List.mem_append_left _ (sorted.reachedBefore reached split))

theorem passesSource (steps : Passes config clock s p order t p') (h : s.Consistent) : Steady Group.source s t := by
  have lasting : Group.Lasting (Group.source (α := α)) := ⟨fun _ _ => rfl, fun _ _ => rfl, fun _ _ => rfl⟩
  induction steps with
  | done => exact .refl h
  | @visit s t u p p₁ p₂ id rest g now first others ih =>
    suffices kept : Steady Group.source s t from kept.trans (ih kept.consistent)
    cases needed : Regen.isNeeded s g p with
    | false =>
      obtain rfl := first.skipped needed
      exact .refl h
    | true =>
      obtain ⟨v, loops, shell, running, failures, run, same⟩ := first.rebuilt needed
      have made := generateGroupSteady lasting h id
      rw [run] at made
      have solved := solveGroupSteady lasting made.consistent id config.solver clock
      rw [same]
      exact (made.trans solved).trans (steadyRecord solved.consistent id (fun _ same => same) fun _ _ => rfl)

theorem passStands (h : s.Intact) (sorted : s.IsOrder order) (steps : Passes config clock s {} order t p) {g : Group α}
    (found : s.groups.get? id = some g) (apart : g.source ≠ some id) (member : id ∈ p.made) : t.Stands id := by
  rcases Regen.passesRebuilt steps member with before | ⟨done, rest, a, b, p₁, p₂, rfl, early, rebuilt, late⟩
  · exact nomatch before
  obtain ⟨fresh, later, unvisited⟩ := onceInOrder sorted.once
  obtain ⟨intact, _, alike⟩ := Regen.passesAlike early h
  have upto : Alike (· ∉ done) s a := alike.fewer fun _ outside inside => absurd inside outside
  obtain ⟨kept, _, after⟩ := Regen.passesAlike late (rebuiltAlike intact rebuilt).1
  have since : Alike (· ∉ rest) b t := after.fewer fun _ outside inside => absurd inside outside
  refine rebuiltStands intact rebuilt kept since later fun g' found' j placed => ?_
  have same := upto.groups id fresh
  rw [found', found] at same
  have source : g'.source = g.source := congrArg (fun p => p.2.2.1) (Option.some.inj same)
  have early := placedBefore h intact sorted upto found source apart placed
  exact ⟨unvisited j early, fun same => fresh (same ▸ early)⟩

end Pass
end Sketch

namespace Session
open Sketch
variable [Scalar α] {config : EngineConfig α} {s t : Session α} {clock : Nat → Nat}

theorem madeAnewStands (reached : Reached config s) {c : Command α} {report : RegenReport α} (passes : c.IsPass)
    (ok : perform clock c s = (.ok (.report report), t)) : ∀ g ∈ t.sketch.groups.toList, g.source ≠ some g.id →
      (c = .regenerateAll ∨ g.id ∈ report.regenerated ∨
        s.sketch.Stands g.id ∧ ∀ j, s.sketch.PlacedBy g j → j ∉ report.regenerated) → t.sketch.Stands g.id := by
  have start := (reachedIntact reached).sketch
  obtain ⟨ids, run, _⟩ := passMarks passes ok
  have all : c = .regenerateAll → report.regenerated = report.order := fun all => allMade start (all ▸ ok)
  obtain ⟨order, p, sorted, steps, rfl⟩ := Regen.passOk run
  replace sorted := regenerationOrderIsOrder sorted
  have marks := markedAlike start.toConsistent ids
  have marked := Changes.intact (dirtyAll ids s.sketch).changes start
  obtain ⟨done, _, alike⟩ := Regen.passesAlike steps marked
  intro g member apart cause
  obtain ⟨g₁, found, same⟩ : ∃ g₁, (ids.foldl markDirty s.sketch).groups.get? g.id = some g₁ ∧ g₁.source = g.source :=
    (passesSource steps marked.toConsistent).before (done.groups.getOfMem member)
  have apart₁ : g₁.source ≠ some g.id := same ▸ apart
  have visited : g.id ∈ order := (sorted.every _).mpr
    (Registry.memKeys.mpr ⟨g₁, Registry.memOfGet found, marked.groups.keyOfGet found⟩)
  by_cases anew : g.id ∈ p.made
  · exact passStands marked sorted steps found apart₁ anew
  rcases cause with every | now | ⟨stands, near⟩
  · refine absurd ?_ anew
    rw [Regen.Progress.made, all every, RegenReport.order, Regen.passesVisited steps]
    exact visited
  · exact absurd now anew
  obtain ⟨g₀, found₀, pattern⟩ : ∃ g₀, s.sketch.groups.get? g.id = some g₀ ∧ g₁.pattern = g₀.pattern := by
    have record := marks.groups g.id trivial
    rw [found] at record
    obtain ⟨g₀, there, same⟩ := Option.map_eq_some_iff.mp record.symm
    exact ⟨g₀, there, same.symm⟩
  have source : g₀.source = g₁.source := (congrArg (fun p => p.2.2.1) pattern).symm
  have whole : Alike (· ∉ p.made) s.sketch t.sketch :=
    (marks.fewer fun _ _ => trivial).trans (alike.fewer fun _ outside _ => outside)
  refine stands.kept start done found₀ whole anew fun j placed => ⟨near j ?_, ?_⟩
  · obtain ⟨k, copied, rest⟩ := placed
    exact ⟨k, same.symm.trans (source.symm.trans copied), rest⟩
  · obtain ⟨before, rest, rfl⟩ := List.append_of_mem visited
    have early := placedBefore marked start sorted (marks.symm.fewer fun _ _ => trivial) found source apart₁ placed
    rintro rfl
    exact (onceInOrder sorted.once).1 early

theorem linkedPartStands : ∃ (s t : Session Float) (report : RegenReport Float) (g : Group Float),
    Reached .standard s ∧ perform id (.regenerateFrom ⟨1⟩) s = (.ok (.report report), t) ∧
      g ∈ t.sketch.groups.toList ∧ g.id ∈ report.regenerated ∧ t.sketch.Stands g.id := by
  obtain ⟨s, t, report, g, linked, passed, member, anew, _, free, _⟩ := linkedPartPass
  have reached := (tendedSound linked).2.1
  exact ⟨s, t, report, g, reached, passed, member, anew,
    madeAnewStands reached (by trivial) passed g member (by simp [free]) (.inr (.inl anew))⟩

end Session
end Drafting
