import Drafting.Proofs.Casts
import Drafting.Proofs.Handles
import Drafting.Proofs.Standing
/-! Workplanes that groups make themselves. Nothing that a group makes lies in a workplane, and a workplane
that it makes has an origin and a normal, as they are copied together with it. So whatever is there can be
placed, unless the workplane that it lies in is gone. -/
namespace Drafting

namespace Request

theorem pointDrawn (q : Request) : ∀ e ∈ q.entities (α := α), e.isA .point = true →
    (q.workplane = none ∧ ∃ p, e.kind = .pointIn3d p) ∨ ∃ w p, q.workplane = some w ∧ e.kind = .pointIn2d p := by
  rcases q with ⟨id, group, workplane, kind, construction⟩
  cases workplane <;> cases kind <;> simp [entities, pointParts, normalPart, part, Entity.isA, EntityKind.isA,
    EntityKind.classes, List.range_succ]

theorem normalDrawn (q : Request) : ∀ e ∈ q.entities (α := α), e.isA .normal = true →
    (q.workplane = none ∧ ∃ p, e.kind = .normalIn3d p) ∨ ∃ w, q.workplane = some w ∧ e.kind = .normalIn2d := by
  rcases q with ⟨id, group, workplane, kind, construction⟩
  cases workplane <;> cases kind <;> simp [entities, pointParts, normalPart, part, Entity.isA, EntityKind.isA,
    EntityKind.classes, List.range_succ]

theorem planeDrawn (q : Request) : ∀ e ∈ q.entities (α := α), ∀ o n, e.kind = .workplane o n →
    (∃ p ∈ q.entities (α := α), p.id = o ∧ p.isA .point = true) ∧ ∃ d ∈ q.entities (α := α), d.id = n ∧ d.isA .normal = true := by
  intro e member o n kind
  have isPlane : q.kind = .workplane :=
    q.workplaneDrawn e member (by simp [Entity.isA, kind, EntityKind.isA, EntityKind.classes])
  have named : o = q.point 0 ∧ n = q.normal := by
    simp only [entities, isPlane, List.mem_append, List.mem_cons, List.not_mem_nil, or_false] at member
    rcases member with point | same | same
    · obtain ⟨_, _, same⟩ := List.mem_map.mp point
      subst same
      cases plane : q.workplane <;> simp [part, plane] at kind
    · subst same
      cases plane : q.workplane <;> simp [normalPart, part, plane] at kind
    · subst same
      cases kind
      exact ⟨rfl, rfl⟩
  obtain ⟨rfl, rfl⟩ := named
  simp only [entities, isPlane]
  refine ⟨⟨_, List.mem_append_left _ (List.mem_map.mpr ⟨0, by simp, rfl⟩), rfl, ?_⟩, q.normalPart q.coordinates, by simp, rfl, ?_⟩
  · cases plane : q.workplane <;> rfl
  · unfold normalPart
    cases plane : q.workplane <;> rfl

end Request

namespace Sketch
variable {s t : Sketch α} {id w : EntityId} {e : Entity α}

/-- What an entity of a kind that groups make needs: no workplane that it lies in, and if it is one, its parts. -/
def Supports (s : Sketch α) : EntityKind α → Prop
  | .normalIn2d => False
  | .workplane o n => (∃ p, s.entities.get? o = some p ∧ p.isA .point = true) ∧
      ∃ q, s.entities.get? n = some q ∧ q.isA .normal = true
  | _ => True

def Grounded (s : Sketch α) : Prop := ∀ id e k, s.entities.get? id = some e → id.Of k → s.Supports e.kind

theorem supportsPlain {k : EntityKind α} (plain : k.Plain) : s.Supports k := by
  cases k <;> trivial

theorem Supports.kept {k : EntityKind α} (h : s.Supports k)
    (parts : ∀ id ∈ k.parts, ∀ e, s.entities.get? id = some e → ∃ e', t.entities.get? id = some e' ∧ e'.kind = e.kind) :
    t.Supports k := by
  cases k with
  | workplane o n =>
    obtain ⟨⟨p, there, point⟩, q, there', normal⟩ := h
    obtain ⟨p', now, same⟩ := parts o (by simp) p there
    obtain ⟨q', now', same'⟩ := parts n (by simp) q there'
    refine ⟨⟨p', now, ?_⟩, q', now', ?_⟩
    · rw [Entity.isA, same]
      exact point
    · rw [Entity.isA, same']
      exact normal
  | normalIn2d => exact h
  | _ => trivial

def SameMade (s t : Sketch α) : Prop :=
  ∀ id k, id.Of k → (t.entities.get? id).map Entity.kind = (s.entities.get? id).map Entity.kind

theorem Grounded.same (grounded : s.Grounded) (h : s.Intact) (same : SameMade s t) : t.Grounded := by
  intro id e k found ours
  have kinds := same id k ours
  rw [found] at kinds
  obtain ⟨e', before, kind⟩ := Option.map_eq_some_iff.mp kinds.symm
  have made := h.made id e' k before ours
  refine kind ▸ (grounded id e' k before ours).kept fun part named p there => ?_
  have kinds' := same part k (made.parts part named)
  rw [there] at kinds'
  exact Option.map_eq_some_iff.mp kinds'

theorem sameMadeOfEntities (same : t.entities = s.entities) : SameMade s t := fun _ _ _ => by rw [same]

theorem Change.sameMade [Scalar α] (step : Change s t) (h : s.Consistent) : SameMade s t := by
  intro id k ours
  have notDrawn (r : RequestId) : id.origin ≠ .request r := ours.notDrawn r
  cases step with
  | adjusted step => rw [step.entities]
  | @drawn r fresh allowed =>
    have entities : ({ s with nextRequest := s.nextRequest + 1 }.enterRequest (fun _ => none) r).entities =
        r.entities.foldl Registry.add s.entities := by rw [enterRequestRecords]
    change (({ s with nextRequest := s.nextRequest + 1 }.enterRequest (fun _ => none) r).entities.get? id).map _ = _
    rw [entities, h.entities.getAddAllOther]
    intro member
    obtain ⟨e, part, same⟩ := List.mem_map.mp member
    exact notDrawn r.id (same ▸ (Request.drawn part).origin)
  | @construction q r there b =>
    have keeps : ∀ e : Entity α, Keyed.key (if e.id.request? = some q then { e with construction := b } else e) = Keyed.key e := by
      intro e
      split <;> rfl
    refine (congrArg (Option.map Entity.kind) (h.entities.getMap keeps id)).trans ?_
    rw [Option.map_map]
    congr 1
    funext e
    dsimp only [Function.comp]
    split <;> rfl
  | @erased q r there =>
    refine congrArg (Option.map Entity.kind) ((h.entities.getFilter _ id).trans ?_)
    cases found : s.entities.get? id with
    | none => rfl
    | some e =>
      have keyed : e.id = id := h.entities.keyOfGet found
      have kept : e.id.request? ≠ some q := by
        rw [keyed]
        unfold EntityId.request?
        cases origin : id.origin with
        | request r' => exact absurd origin (notDrawn r')
        | _ => exact nofun
      simp [Option.filter, kept]

section Place
open Result
variable [Scalar α]

inductive Lost (s : Sketch α) (w : EntityId) : SketchError → Prop
  | gone (missing : s.entities.get? w = none) : Lost s w (.entityNotFound w)
  | other {e : Entity α} (found : s.entities.get? w = some e) (differs : e.isA .workplane = false) :
      Lost s w (.wrongKind w .workplane)

omit [Scalar α] in
theorem pointKind (h : s.Intact) (found : s.entities.get? id = some e) (point : e.isA .point = true) :
    (e.workplane = none ∧ ((∃ p, e.kind = .pointIn3d p) ∨ ∃ b t, e.kind = .pointCopy b t)) ∨
      ∃ w p, e.workplane = some w ∧ e.kind = .pointIn2d p := by
  rcases h.origin found with ⟨q, there, part⟩ | ⟨g, _, made⟩
  · rw [(Request.drawn part).workplane]
    rcases q.pointDrawn e part point with ⟨flat, kind⟩ | inside
    · exact .inl ⟨flat, .inl kind⟩
    · exact .inr inside
  · refine .inl ⟨made.workplane, .inr ?_⟩
    have own := made.own
    cases kind : e.kind with
    | pointCopy b t => exact ⟨b, t, rfl⟩
    | pointIn3d | pointIn2d => simp [kind, EntityKind.ownParams, Vec3.toList] at own
    | _ => simp [Entity.isA, kind, EntityKind.isA, EntityKind.classes] at point

omit [Scalar α] in
theorem normalKind (h : s.Intact) (grounded : s.Grounded) (found : s.entities.get? id = some e)
    (normal : e.isA .normal = true) :
    (e.workplane = none ∧ ((∃ q, e.kind = .normalIn3d q) ∨ ∃ b t, e.kind = .normalCopy b t)) ∨
      ∃ w, e.workplane = some w ∧ e.kind = .normalIn2d := by
  rcases h.origin found with ⟨q, there, part⟩ | ⟨g, ours, made⟩
  · rw [(Request.drawn part).workplane]
    rcases q.normalDrawn e part normal with ⟨flat, kind⟩ | inside
    · exact .inl ⟨flat, .inl kind⟩
    · exact .inr inside
  · refine .inl ⟨made.workplane, .inr ?_⟩
    have own := made.own
    have needs := grounded id e g found ours
    cases kind : e.kind with
    | normalCopy b t => exact ⟨b, t, rfl⟩
    | normalIn3d => simp [kind, EntityKind.ownParams] at own
    | normalIn2d =>
      rw [kind] at needs
      exact needs.elim
    | _ => simp [Entity.isA, kind, EntityKind.isA, EntityKind.classes] at normal

omit [Scalar α] in
theorem planeParts (h : s.Intact) (grounded : s.Grounded) (found : s.entities.get? w = some e) {o n : EntityId}
    (kind : e.kind = .workplane o n) : s.Supports (.workplane o n) := by
  rcases h.origin found with ⟨q, there, part⟩ | ⟨g, ours, made⟩
  · obtain ⟨⟨p, drawn, rfl, point⟩, d, drawn', rfl, normal⟩ := q.planeDrawn e part o n kind
    exact ⟨⟨p, h.present q.id q there p drawn, point⟩, d, h.present q.id q there d drawn', normal⟩
  · exact kind ▸ grounded w e g found ours

omit [Scalar α] in
theorem pointFlat [Scalar α] (h : s.Intact) (found : s.entities.get? id = some e) (point : e.isA .point = true)
    (flat : e.workplane = none) (f : EntityId → Except SketchError (PlaneExpr α)) : ∃ v, s.pointFrom f id = .ok v := by
  rcases pointKind h found point with ⟨_, ⟨p, kind⟩ | ⟨b, t, kind⟩⟩ | ⟨_, _, lies, _⟩
  · exact ⟨.ofParams p, bindOk.mpr ⟨e, entityFound.mpr found, by rw [kind]; rfl⟩⟩
  · exact ⟨t.point b, bindOk.mpr ⟨e, entityFound.mpr found, by rw [kind]; rfl⟩⟩
  · exact nomatch flat.symm.trans lies

omit [Scalar α] in
theorem normalFlat [Scalar α] (h : s.Intact) (grounded : s.Grounded) (found : s.entities.get? id = some e)
    (normal : e.isA .normal = true) (flat : e.workplane = none) (f : EntityId → Except SketchError (PlaneExpr α)) :
    ∃ q, s.normalFrom f id = .ok q := by
  rcases normalKind h grounded found normal with ⟨_, ⟨p, kind⟩ | ⟨b, t, kind⟩⟩ | ⟨_, lies, _⟩
  · exact ⟨.ofParams p, bindOk.mpr ⟨e, entityFound.mpr found, by rw [kind]; rfl⟩⟩
  · exact ⟨t.normal b, bindOk.mpr ⟨e, entityFound.mpr found, by rw [kind]; rfl⟩⟩
  · exact nomatch flat.symm.trans lies

theorem planeThere (h : s.Intact) (grounded : s.Grounded) (found : s.entities.get? w = some e)
    (plane : e.isA .workplane = true) : ∃ x, s.planeExpr w = .ok x := by
  cases kind : e.kind with
  | workplane o n =>
    obtain ⟨⟨p, there, point⟩, d, there', normal⟩ := planeParts h grounded found kind
    have flat := planeFlat h found plane
    have level := (partAlike h found (by simp [kind]) there).2.trans flat
    have level' := (partAlike h found (by simp [kind]) there').2.trans flat
    obtain ⟨v, origin⟩ := pointFlat h there point level (s.planeWithin s.entities.size)
    obtain ⟨q, direction⟩ := normalFlat h grounded there' normal level' (s.planeWithin s.entities.size)
    refine ⟨⟨v, q⟩, bindOk.mpr ⟨e, entityFound.mpr found, ?_⟩⟩
    rw [kind]
    exact bindOk.mpr ⟨v, origin, bindOk.mpr ⟨q, direction, rfl⟩⟩
  | _ => simp [Entity.isA, kind, EntityKind.isA, EntityKind.classes] at plane

theorem lostFails {cause : SketchError} (lost : s.Lost w cause) : s.planeExpr w = .error cause := by
  cases lost with
  | gone missing =>
    rw [planeExpr, planeWithin, entity, missing]
    rfl
  | @other e found differs =>
    simp only [planeExpr, planeWithin, entityFound.mpr found, bind, Except.bind]
    cases kind : e.kind with
    | workplane => simp [Entity.isA, kind, EntityKind.isA, EntityKind.classes] at differs
    | _ => rfl

theorem planeFails (h : s.Intact) (grounded : s.Grounded) {cause : SketchError} :
    s.planeExpr w = .error cause ↔ s.Lost w cause := by
  refine ⟨fun failed => ?_, lostFails⟩
  cases found : s.entities.get? w with
  | none =>
    have lost := Lost.gone found
    cases failed.symm.trans (lostFails lost)
    exact lost
  | some e =>
    by_cases plane : e.isA .workplane = true
    · obtain ⟨x, placed⟩ := planeThere h grounded found plane
      exact nomatch placed.symm.trans failed
    · have lost := Lost.other found (Bool.eq_false_iff.mpr plane)
      cases failed.symm.trans (lostFails lost)
      exact lost

theorem insideFails (h : s.Intact) (grounded : s.Grounded) {τ : Type} {f : PlaneExpr α → τ} {cause : SketchError}
    {r : Except SketchError τ} (lies : e.workplane = some w) (run : r = do return f (← s.planeExpr w)) :
    r = .error cause ↔ ∃ w, e.workplane = some w ∧ s.Lost w cause := by
  rw [run, bindError, lies]
  constructor
  · intro failed
    exact ⟨w, rfl, (planeFails h grounded).mp (failed.resolve_right fun ⟨_, _, last⟩ => nomatch last)⟩
  · intro ⟨_, same, lost⟩
    cases same
    exact .inl (lostFails lost)

theorem pointFails (h : s.Intact) (grounded : s.Grounded) (found : s.entities.get? id = some e)
    (point : e.isA .point = true) {cause : SketchError} :
    s.pointExpr id = .error cause ↔ ∃ w, e.workplane = some w ∧ s.Lost w cause := by
  rcases pointKind h found point with ⟨flat, _⟩ | ⟨w, p, lies, kind⟩
  · obtain ⟨v, placed⟩ := pointFlat h found point flat s.planeExpr
    rw [pointExpr, placed, flat]
    simp
  · refine insideFails h grounded lies (f := fun plane => plane.origin +
      plane.orientation.imageU.scale (.param p.x) + plane.orientation.imageV.scale (.param p.y)) ?_
    simp only [pointExpr, pointFrom, entityFound.mpr found, kind, lies, Sketch.found, bind, Except.bind]

theorem normalFails (h : s.Intact) (grounded : s.Grounded) (found : s.entities.get? id = some e)
    (normal : e.isA .normal = true) {cause : SketchError} :
    s.normalExpr id = .error cause ↔ ∃ w, e.workplane = some w ∧ s.Lost w cause := by
  rcases normalKind h grounded found normal with ⟨flat, _⟩ | ⟨w, lies, kind⟩
  · obtain ⟨q, placed⟩ := normalFlat h grounded found normal flat s.planeExpr
    rw [normalExpr, placed, flat]
    simp
  · refine insideFails h grounded lies (f := PlaneExpr.orientation) ?_
    simp only [normalExpr, normalFrom, entityFound.mpr found, kind, lies, Sketch.found, bind, Except.bind]

end Place

section Regrown
variable [Scalar α] {g : Group α} {c : Copies α}

theorem fixtureThere (h : s.Intact) (fits : Fits g c) (new : Regrown s g c t) (member : e ∈ fixtures g) :
    t.entities.get? e.id = some e := by
  have plain : c.made = #[] := by
    unfold fixtures at member
    split at member
    · rename_i kind
      rw [fits.plain (by rw [kind]; rfl)]
    · cases member
  have distinct : ((fixtures g).map Entity.id).Nodup := by
    unfold fixtures
    split <;> simp [EntityId.predefined]
  rw [new.entities]
  obtain ⟨e', there, named, now⟩ := (h.entities.filter (·.group != g.id)).addAllPresent (show e ∈ s.content g c by
    exact List.mem_append_left _ (List.mem_append_left _ member))
  unfold content at there
  rw [plain, List.append_nil] at there
  rcases List.mem_append.mp there with fixture | part
  · have same : e' = e := List.inj_on_of_nodup_map distinct fixture member named
    exact same ▸ now
  · obtain ⟨q, _, part⟩ := List.mem_flatMap.mp part
    have origin := (Request.drawn part).origin
    rw [show e'.id = e.id from named] at origin
    rcases (fixturesMade g e member).1 with made | made <;> cases made.symm.trans origin

theorem fixtureSupports (h : s.Intact) (fits : Fits g c) (new : Regrown s g c t) (member : e ∈ fixtures g) :
    t.Supports e.kind := by
  have there (e : Entity α) (member : e ∈ fixtures g) := fixtureThere h fits new member
  unfold fixtures at member there
  split at member
  · rename_i origin orientation kind
    simp only [kind, List.mem_cons, List.not_mem_nil, or_false] at member there
    rcases member with same | same | same
    · subst same
      trivial
    · subst same
      trivial
    · subst same
      exact ⟨⟨_, there _ (.inl rfl), rfl⟩, _, there _ (.inr (.inl rfl)), rfl⟩
  · exact nomatch member

theorem regrownGrounded (h : s.Intact) (grounded : s.Grounded) (found : s.groups.get? g.id = some g) (fits : Fits g c)
    (new : Regrown s g c t) (copies : ∀ e ∈ c.made, t.Supports e.kind) : t.Grounded := by
  have alike := (regrownConfined h fits new).alike h.groups (regrownIntact h found fits new).groups
  intro id e k there ours
  rw [new.entities] at there
  rcases (h.entities.filter _).foundAddAll there with ⟨member, keyed⟩ | kept
  · have same : e.id = id := keyed
    unfold content at member
    rw [List.mem_append, List.mem_append] at member
    rcases member with (fixture | part) | copy
    · exact fixtureSupports h fits new fixture
    · obtain ⟨q, _, part⟩ := List.mem_flatMap.mp part
      exact absurd (same ▸ (Request.drawn part).origin) (ours.notDrawn _)
    · exact copies e (Array.mem_toList_iff.mp copy)
  · obtain ⟨before, other⟩ := h.entities.foundFilter.mp kept
    have made := h.made id e k before ours
    refine (grounded id e k before ours).kept fun part named p there => ⟨p, ?_, rfl⟩
    refine alike.entity h.entities (regrownIntact h found fits new).entities ?_ there
    rw [(partAlike h before named there).1]
    simpa using other

theorem baredGrounded (h : s.Intact) (grounded : s.Grounded) (found : s.groups.get? g.id = some g) :
    (s.bared g).Grounded :=
  regrownGrounded h grounded found (fitsNone g) (baredSpec h g) (by simp)

theorem pointOfEntities (same : t.entities = s.entities) (id : EntityId) : t.pointExpr id = s.pointExpr id := by
  have plane : t.planeExpr = s.planeExpr := funext fun w => by
    rw [planeExpr, planeExpr, same, planeWithinOfEntities same]
  simp only [pointExpr, pointFrom, entity, same, plane]

theorem normalOfEntities (same : t.entities = s.entities) (id : EntityId) : t.normalExpr id = s.normalExpr id := by
  have plane : t.planeExpr = s.planeExpr := funext fun w => by
    rw [planeExpr, planeExpr, same, planeWithinOfEntities same]
  simp only [normalExpr, normalFrom, entity, same, plane]

omit [Scalar α] in
theorem castsWhole [Scalar α] {k : GroupKind α} {cast : RemapRole × Nat} (member : cast ∈ k.casts) (id : EntityId) :
    (⟨.entity id, cast.1, cast.2⟩ : RemapKey).whole? = some id := by
  unfold GroupKind.casts at member
  split at member <;> simp only [List.mem_cons, List.mem_map, List.not_mem_nil, or_false] at member
  · rcases member with same | same <;> exact same ▸ rfl
  · exact member ▸ rfl
  · rcases member with same | same <;> exact same ▸ rfl
  · obtain ⟨_, _, same⟩ := member
    exact same ▸ rfl
  · obtain ⟨_, _, same⟩ := member
    exact same ▸ rfl

theorem copyThere (h : s.Intact) (found : s.groups.get? g.id = some g) (ok : s.copied g = .ok c)
    (new : Regrown s g c t) {key : RemapKey} {slot : Nat} (given : c.remap.get? key = some slot)
    (made : ∃ e ∈ c.made, e.id = .derived g.id slot) :
    ∃ e, t.entities.get? (.derived g.id slot) = some e ∧ (s.redrawn g).Froze g key e.kind := by
  obtain ⟨grown, labelled⟩ := copiedLabelled h.entities ok
  obtain ⟨e, member, named⟩ := made
  have inside : e ∈ s.content g c := List.mem_append_right _ (Array.mem_toList_iff.mpr member)
  obtain ⟨e', there, keyed, now⟩ := (h.entities.filter (·.group != g.id)).addAllPresent inside
  have same : e'.id = .derived g.id slot := (show e'.id = e.id from keyed).trans named
  refine ⟨e', by rw [new.entities, ← named]; exact now, ?_⟩
  unfold content at there
  rcases List.mem_append.mp there with drawn | copy
  · exact absurd (congrArg EntityId.origin same) (drawnNotDerived drawn)
  · obtain ⟨key', slot', given', named', froze⟩ := (labelled e' (Array.mem_toList_iff.mp copy)).label
    have slots : slot' = slot := congrArg EntityId.index (named'.symm.trans same)
    have keys := (grown.proper (h.slots _ g found).toProper).once key' key slot (slots ▸ given') given
    exact keys ▸ froze

omit [Scalar α] in
theorem noFace {is : EntityClass} (holds : e.isA is = true) (apart : is = .point ∨ is = .normal) :
    e.isA .face = false := by
  cases kind : e.kind with
  | face => rcases apart with rfl | rfl <;> simp [Entity.isA, kind, EntityKind.isA, EntityKind.classes] at holds
  | _ => simp [Entity.isA, kind, EntityKind.isA, EntityKind.classes]

def SourceOf (sources : List (Entity α)) (is : EntityClass) (id : EntityId) : Prop :=
  ∃ p ∈ sources, p.id = id ∧ p.isA is = true ∧ p.workplane = none

omit [Scalar α] in
theorem sourcesClosed (h : s.Intact) (grounded : s.Grounded) {sources : List (Entity α)} (read : s.sources g = .ok sources)
    (member : e ∈ sources) {o d : EntityId} (kind : e.kind = .workplane o d) :
    SourceOf sources .point o ∧ SourceOf sources .normal d := by
  have here := sourceThere h.entities read e member
  have flat := planeFlat h here (by simp [Entity.isA, kind, EntityKind.isA, EntityKind.classes])
  have closed {is : EntityClass} (apart : is = .point ∨ is = .normal) {id : EntityId} (named : id ∈ e.kind.parts)
      {p : Entity α} (there : s.entities.get? id = some p) (holds : p.isA is = true) : SourceOf sources is id := by
    obtain ⟨group, level⟩ := partAlike h here named there
    refine ⟨p, ?_, h.entities.keyOfGet there, holds, level.trans flat⟩
    rcases sourcesRead read with ⟨_, rfl⟩ | ⟨_, k, _, rfl⟩
    · cases member
    · have ours := (List.mem_filter.mp member).2
      simp only [Bool.and_eq_true, beq_iff_eq] at ours
      exact List.mem_filter.mpr ⟨Registry.memOfGet there, by simp [group, ours.1, noFace holds apart]⟩
  obtain ⟨⟨p, there, point⟩, q, there', normal⟩ := planeParts h grounded here kind
  refine ⟨closed (.inl rfl) ?_ there point, closed (.inr rfl) ?_ there' normal⟩
  · simp [kind]
  · simp [kind]

def CopyOf (g : Group α) (sources : List (Entity α)) (is : EntityClass) (key : RemapKey) : Prop :=
  ∃ cast ∈ g.kind.casts, ∃ id, SourceOf sources is id ∧ key = ⟨.entity id, cast.1, cast.2⟩

theorem copiedCasts (h : s.Intact) (grounded : s.Grounded) (found : s.groups.get? g.id = some g)
    (ok : s.copied g = .ok c) (solid : g.kind.isSolid = true) : ∃ sources, (s.redrawn g).sources g = .ok sources ∧
      (∀ e ∈ c.made, Cast g.id (CopyOf g sources .point) (CopyOf g sources .normal) c.remap e.kind) ∧
      ∀ e ∈ sources, ∀ cast ∈ g.kind.casts, (s.redrawn g).Placed e ∧
        ∃ slot, c.remap.get? ⟨.entity e.id, cast.1, cast.2⟩ = some slot ∧ ∃ e' ∈ c.made, e'.id = .derived g.id slot := by
  have entities := baredEntities h g
  unfold copied at ok
  rw [solid] at ok
  obtain ⟨sources, read, run⟩ := copiesRun ok
  have here := sourceThere (redrawnConsistent h.entities g) read
  have wants : ∀ e ∈ sources, Copying.Wants (s.redrawn g) (CopyOf g sources .point) (CopyOf g sources .normal)
      (fun key => ∀ e ∈ sources, key.whole? = some e.id → (s.redrawn g).Placed e) g.kind.casts e := by
    refine fun e member => ⟨fun cast way o d kind => ?_, fun cast way placed e' member' whole => ?_⟩
    · have read' : (s.bared g).sources g = .ok sources := by
        rw [Sketch.sources, entities]
        exact read
      obtain ⟨point, normal⟩ := sourcesClosed (baredIntact h found) (baredGrounded h grounded found) read' member kind
      exact ⟨⟨cast, way, o, point, rfl⟩, cast, way, d, normal, rfl⟩
    · have named : e'.id = e.id := Option.some.inj (whole.symm.trans (castsWhole way e.id))
      have same := here e' member'
      rw [named, here e member] at same
      exact Option.some.inj same ▸ placed
  obtain ⟨_, _, made, kept⟩ := Copying.castsAll wants _ _ _ run
  refine ⟨sources, read, fun e member => (made e member).resolve_left (by simp), fun e member cast way => ?_⟩
  obtain ⟨placed, under⟩ := kept _ ⟨e, member, cast, way, rfl⟩
  exact ⟨placed e member (castsWhole way e.id), under⟩

theorem copiesSupported (h : s.Intact) (grounded : s.Grounded) (found : s.groups.get? g.id = some g)
    (ok : s.copied g = .ok c) (new : Regrown s g c t) : ∀ e ∈ c.made, t.Supports e.kind := by
  have intact := baredIntact h found
  have based := baredGrounded h grounded found
  have entities := baredEntities h g
  have under {key : RemapKey} {slot : Nat} (given : c.remap.get? key = some slot)
      (made : ∃ e ∈ c.made, e.id = .derived g.id slot) := copyThere h found ok new given made
  cases solid : g.kind.isSolid with
  | false =>
    unfold copied at ok
    rw [solid] at ok
    cases ok
    simp
  | true =>
    obtain ⟨sources, read, made, kept⟩ := copiedCasts h grounded found ok solid
    have here := sourceThere (redrawnConsistent h.entities g) read
    rw [← entities] at here
    -- Under the slot of a copied part stands a copy of it.
    have stands {key : RemapKey} {is : EntityClass} {slot : Nat} (copy : CopyOf g sources is key)
        (given : c.remap.get? key = some slot) : ∃ id p e, SourceOf sources is id ∧ key.whole? = some id ∧
          (s.bared g).entities.get? id = some p ∧ p.isA is = true ∧ p.workplane = none ∧
            t.entities.get? (.derived g.id slot) = some e ∧ (s.redrawn g).Froze g key e.kind := by
      obtain ⟨cast, way, id, ⟨p, source, rfl, holds, flat⟩, rfl⟩ := copy
      obtain ⟨_, slot', given', e, member, named⟩ := kept p source cast way
      obtain rfl := Option.some.inj (given'.symm.trans given)
      obtain ⟨e', now, froze⟩ := under given ⟨e, member, named⟩
      exact ⟨p.id, p, e', ⟨p, source, rfl, holds, flat⟩, castsWhole way _, here p source, holds, flat, now, froze⟩
    intro e member
    have cast := made e member
    generalize e.kind = kind at cast
    cases cast with
    | plain plain => exact supportsPlain plain
    | plane point normal origin direction =>
      constructor
      · obtain ⟨id, p, e, _, whole, there, holds, flat, now, froze⟩ := stands point origin
        obtain ⟨v, placed⟩ := pointFlat intact there holds flat (s.bared g).planeExpr
        have position : (s.redrawn g).position id = .ok (v.eval (s.redrawn g).valueOf) := by
          rw [position, pointOfEntities entities.symm, pointExpr, placed]
          rfl
        have same := froze.position id _ whole position
        exact ⟨e, now, by simp [Entity.isA, same, EntityKind.isA, EntityKind.classes]⟩
      · obtain ⟨id, p, e, _, whole, there, holds, flat, now, froze⟩ := stands normal direction
        obtain ⟨v, placed⟩ := normalFlat intact based there holds flat (s.bared g).planeExpr
        have orientation : (s.redrawn g).orientation id = .ok (v.eval (s.redrawn g).valueOf).normalize := by
          rw [orientation, normalOfEntities entities.symm, normalExpr, placed]
          rfl
        have same := froze.orientation id _ whole orientation
        exact ⟨e, now, by simp [Entity.isA, same, EntityKind.isA, EntityKind.classes]⟩

end Regrown

def KeepsGroups (s t : Sketch α) : Prop := ∀ k g, s.groups.get? k = some g → ∃ g', t.groups.get? k = some g'

/-- Nothing in a sketch lacks what it is placed by, but for a workplane that it lies in. -/
structure Furnished (s : Sketch α) : Prop extends s.Intact where
  grounded : s.Grounded
  makers : ∀ id e k, s.entities.get? id = some e → id.Of k → ∃ g, s.groups.get? k = some g

theorem Steady.keepsGroups {f : Group α → β} (step : Steady f s t) : KeepsGroups s t := by
  intro k g found
  obtain ⟨g', there, _⟩ := step.kept found
  exact ⟨g', there⟩

theorem startFurnished : ({} : Sketch α).Furnished where
  toIntact := startIntact
  grounded _ _ _ found := by simp [Registry.get?] at found
  makers _ _ _ found := by simp [Registry.get?] at found

theorem Furnished.same (h : s.Furnished) (intact : t.Intact) (same : SameMade s t) (kept : KeepsGroups s t) :
    t.Furnished where
  toIntact := intact
  grounded := h.grounded.same h.toIntact same
  makers id e k found ours := by
    have kinds := same id k ours
    rw [found] at kinds
    obtain ⟨e', before, _⟩ := Option.map_eq_some_iff.mp kinds.symm
    obtain ⟨g, there⟩ := h.makers id e' k before ours
    exact kept k g there

theorem Furnished.owner (h : s.Furnished) (found : s.entities.get? id = some e) : ∃ g, s.groups.get? e.group = some g := by
  rcases h.origin found with ⟨q, there, part⟩ | ⟨k, ours, made⟩
  · rw [(Request.drawn part).group]
    exact h.requestGroups q.id q there
  · rw [made.group]
    exact h.makers id e k found ours

section Kept
variable [Scalar α]

omit [Scalar α] in
theorem withGroupFurnished (h : s.Furnished) (name : String) (kind : GroupKind α) (source : Option GroupId) :
    (s.withGroup name kind source).Furnished := by
  refine h.same (withGroupIntact h.toIntact _ _ _) (sameMadeOfEntities rfl) fun k g found => ?_
  unfold withGroup
  rw [h.groups.getAdd]
  split
  · exact ⟨_, rfl⟩
  · exact ⟨g, found⟩

theorem Changes.furnished (steps : Changes s t) (h : s.Furnished) : t.Furnished := by
  induction steps with
  | refl => exact h
  | tail steps step ih =>
    refine ih.same (step.intact ih.toIntact) (step.sameMade ih.toConsistent) ?_
    exact (step.steady heldLasting ih.toConsistent).keepsGroups

theorem generateGroupFurnished {group : GroupId} (h : s.Furnished) (ok : generateGroup group s = (.ok (), t)) :
    t.Furnished := by
  have intact := generateGroupIntact h.toIntact ok
  obtain ⟨g, c, found, named, made, rfl⟩ := generateGroupOk h.groups ok
  have fits := copiedFits h.entities made
  have new := regrownSpec h.params fits
  subst named
  have supported := copiesSupported h.toIntact h.grounded found made new
  refine ⟨intact, regrownGrounded h.toIntact h.grounded found fits new supported, fun id e k there ours => ?_⟩
  rw [regrownGroup h.groups found fits new]
  split
  · exact ⟨_, rfl⟩
  · rename_i other
    have alike := (regrownConfined h.toIntact fits new).alike h.groups intact.groups
    have apart : e.group ≠ g.id := (intact.made id e k there ours).group.symm ▸ other
    exact h.makers id e k (alike.symm.entity intact.entities h.entities apart there) ours

theorem solveGroupFurnished (h : s.Furnished) (group : GroupId) (config : SolverConfig α) (clock : Nat → Nat) :
    (s.solveGroup group config clock).2.Furnished := by
  refine h.same (Regen.solveGroupIntact h.toIntact group config clock) (sameMadeOfEntities ?_) ?_
  · exact solveGroupEntities h.toConsistent group config clock
  · exact (solveGroupSteady heldLasting h.toConsistent group config clock).keepsGroups

theorem rebuiltFurnished {config : EngineConfig α} {clock : Nat → Nat} {group : GroupId} (h : s.Furnished)
    (step : Regen.Rebuilt config clock s group t) : t.Furnished := by
  have intact := Regen.rebuiltIntact h.toIntact step
  obtain ⟨u, loops, shell, running, failures, made, rfl⟩ := step
  have solved := solveGroupFurnished (generateGroupFurnished h made) group config.solver clock
  refine solved.same intact (sameMadeOfEntities rfl) ?_
  exact Steady.keepsGroups (f := Group.id) (steadyRecord solved.toConsistent group (fun _ same => same) fun _ _ => rfl)

end Kept
end Sketch

namespace Session
open Sketch (Furnished)
variable [Scalar α] {s t : Session α}

theorem furnishedLasting : Lasting (α := α) (fun _ => True) Furnished where
  start := Sketch.startFurnished
  changes steps h := Sketch.Changes.furnished steps h
  added {s t name kind source id} h ok := by
    obtain ⟨_, made⟩ := Sketch.addGroupOk ok
    exact Sketch.generateGroupFurnished (Sketch.withGroupFurnished h name kind source) made
  changed {s group g list} h _ found := by
    have named := GroupChange.allKeep (f := Group.id) (fun _ c => by cases c <;> rfl) list g
    refine h.same (changeGroupIntact h.toIntact found _) (Sketch.sameMadeOfEntities rfl) ?_
    exact (Sketch.steadyRecord (f := Group.id) h.toConsistent group (fun _ _ => named.trans (h.groups.keyOfGet found))
      fun g' there => by cases found.symm.trans there; exact named).keepsGroups
  solved group config clock h := Sketch.solveGroupFurnished h group config clock
  rebuilt h step := Sketch.rebuiltFurnished h step

theorem reachedFurnished {config : EngineConfig α} (h : Reached config s) : s.Throughout Furnished := by
  induction h with
  | start => exact ⟨Sketch.startFurnished, fun _ member => nomatch member⟩
  | step _ ok ih => exact performLasting furnishedLasting ih trivial ok

end Session

end Drafting
