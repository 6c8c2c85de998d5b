import Drafting.Group.Copies
import Drafting.Proofs.Intact
/-! Copies made twice. Slots once given out stay, so making the same copies again from the table that the
first run left gives the same entities under the same handles. Along the way every entity made is seen to
belong to the group that makes it, under a slot of its own, and to have frozen the place of what it copies, to
be moved from there as the group moves copies in its role. -/
namespace Drafting

def RemapKey.whole? (key : RemapKey) : Option EntityId :=
  match key.source, key.role with
  | .entity id, .copy | .entity id, .top | .entity id, .bottom | .entity id, .latheStart | .entity id, .latheEnd => some id
  | _, _ => none

/-- An entity made by a group under the slot of a key that allows its kind. -/
structure Entity.Labelled (h : GroupId) (G : RemapKey → EntityKind α → Prop) (t : RemapTable) (e : Entity α) : Prop where
  made : e.MadeBy h
  label : ∃ key slot, t.get? key = some slot ∧ e.id = .derived h slot ∧ G key e.kind

theorem Entity.Labelled.later {h : GroupId} {G : RemapKey → EntityKind α → Prop} {t u : RemapTable} {e : Entity α}
    (here : e.Labelled h G t) (grown : t.Extends u) : e.Labelled h G u := by
  obtain ⟨key, slot, found, same, allowed⟩ := here.label
  exact ⟨here.made, key, slot, grown.found key slot found, same, allowed⟩

namespace Copying
variable {h : GroupId} {G : RemapKey → EntityKind α → Prop} {Q : τ → Prop}

/-- A run adds entities made by the group, and another one from any later table adds the same. -/
def Replays (h : GroupId) (G : RemapKey → EntityKind α → Prop) (Q : τ → Prop) (m m' : Copying α τ) : Prop :=
  ∀ c x c', m c = .ok (x, c') → Q x ∧ c.remap.Extends c'.remap ∧ ∃ added : Array (Entity α),
    c'.made = c.made ++ added ∧ (∀ e ∈ added, e.Labelled h G c'.remap) ∧
      ∀ d : Copies α, c'.remap.Extends d.remap → m' d = .ok (x, { d with made := d.made ++ added })

theorem replaysPure {x : τ} (ok : Q x) : Replays h G Q (pure x) (pure x) := by
  intro c y c' run
  cases run
  refine ⟨ok, .refl _, #[], by simp, by simp, ?_⟩
  intro d _
  simp only [Array.append_empty]
  rfl

theorem replaysThrow (e : SketchError) (m' : Copying α τ) : Replays h G Q (throw e) m' := by
  intro c y c' run
  cases run

theorem replaysBind {P : σ → Prop} {m m' : Copying α σ} {k k' : σ → Copying α τ} (first : Replays h G P m m')
    (next : ∀ x, P x → Replays h G Q (k x) (k' x)) : Replays h G Q (m >>= k) (m' >>= k') := by
  intro c y c'' run
  obtain ⟨⟨x, c'⟩, here, rest⟩ := Result.bindOk.mp run
  obtain ⟨ok, grown, added, made, labelled, again⟩ := first c x c' here
  obtain ⟨done, grown', added', made', labelled', again'⟩ := next x ok c' y c'' rest
  refine ⟨done, grown.trans grown', added ++ added', ?_, ?_, ?_⟩
  · rw [made', made, Array.append_assoc]
  · intro e member
    rcases Array.mem_append.mp member with inside | inside
    · exact (labelled e inside).later grown'
    · exact labelled' e inside
  · intro d later
    have run' : (m' >>= k') d = (m' d >>= fun r => k' r.1 r.2) := rfl
    rw [run', again d (grown'.trans later)]
    change k' x { d with made := d.made ++ added } = _
    rw [show k' x { d with made := d.made ++ added } = _ from again' _ later, Array.append_assoc]

theorem replaysForM {f f' : σ → Copying α Unit} {l : List σ}
    (each : ∀ x ∈ l, Replays h G (fun _ => True) (f x) (f' x)) :
    Replays h G (fun _ => True) (l.forM f) (l.forM f') := by
  induction l with
  | nil => exact replaysPure trivial
  | cons x rest ih =>
    simp only [List.forM_eq_forM, List.forM_cons] at ih ⊢
    refine replaysBind (each x List.mem_cons_self) fun _ _ => ?_
    exact ih fun y member => each y (List.mem_cons_of_mem _ member)

theorem replaysLift {r r' : Except SketchError τ} (same : ∀ x, r = .ok x → r' = .ok x ∧ Q x) :
    Replays h G Q (liftM r) (liftM r') := by
  intro c x c' run
  obtain ⟨y, found, rest⟩ := Result.bindOk.mp run
  cases rest
  obtain ⟨found', ok⟩ := same x found
  refine ⟨ok, .refl _, #[], by simp, by simp, ?_⟩
  intro d _
  rw [found']
  simp only [Array.append_empty]
  rfl

theorem replaysHandle [Scalar α] (key : RemapKey) :
    Replays h G (EntityId.Of h) (handle (α := α) h key) (handle h key) := by
  intro c x c' run
  cases run
  refine ⟨.inr rfl, c.remap.slotExtends key, #[], by simp, by simp, ?_⟩
  intro d later
  have again := RemapTable.slotAgain (c.remap.slotGiven key) later
  have run' : handle h key d = .ok (.derived h (d.remap.slot key).1, { d with remap := (d.remap.slot key).2 }) := rfl
  rw [run', again, Array.append_empty]
  rfl

structure KindMade (h : GroupId) (k : EntityKind α) : Prop where
  parts : ∀ id ∈ k.parts, id.Of h
  own : k.ownParams = []
  placing : ∀ p ∈ k.placing, p.owner = .group h

theorem replaysMake [Scalar α] {key : RemapKey} {kind : EntityKind α} (made : KindMade h kind) (allowed : G key kind)
    (construction : Bool) {k k' : EntityId → Copying α τ} (next : ∀ id, id.Of h → Replays h G Q (k id) (k' id)) :
    Replays h G Q (do let id ← handle h key; push h id construction kind; k id)
      (do let id ← handle h key; push h id construction kind; k' id) := by
  have runs (c : Copies α) :
      (do let id ← handle h key; push h id construction kind; return id : Copying α EntityId) c =
        .ok (.derived h (c.remap.slot key).1, ⟨(c.remap.slot key).2,
          c.made ++ #[{ id := .derived h (c.remap.slot key).1, group := h, construction, kind }]⟩) := by
    rw [← Array.push_eq_append]
    rfl
  have first : Replays h G (EntityId.Of h) (do let id ← handle h key; push h id construction kind; return id)
      (do let id ← handle h key; push h id construction kind; return id) := by
    intro c x c' run
    rw [runs] at run
    obtain ⟨rfl, rfl⟩ := Prod.mk.inj (Except.ok.inj run)
    refine ⟨.inr rfl, c.remap.slotExtends key, _, rfl, ?_, ?_⟩
    · intro e member
      obtain rfl := Array.mem_singleton.mp member
      exact ⟨⟨rfl, rfl, made.parts, made.own, made.placing⟩, key, _, c.remap.slotGiven key, rfl, allowed⟩
    · intro d later
      rw [runs, RemapTable.slotAgain (c.remap.slotGiven key) later]
  have split (k : EntityId → Copying α τ) : (do let id ← handle h key; push h id construction kind; k id) =
      (do let id ← handle h key; push h id construction kind; return id) >>= k := rfl
  rw [split, split]
  exact replaysBind first next

theorem replaysMakeLast [Scalar α] {key : RemapKey} {kind : EntityKind α} (made : KindMade h kind) (allowed : G key kind)
    (construction : Bool) : Replays h G (fun _ => True) (do let id ← handle h key; push h id construction kind)
      (do let id ← handle h key; push h id construction kind) :=
  replaysMake (τ := Unit) made allowed construction fun _ _ => replaysPure trivial

theorem replaysMakePair [Scalar α] {key key' : RemapKey} {kind : EntityKind α} {whole : EntityId → EntityKind α}
    (made : KindMade h kind) (allowed : G key' kind) (wholeMade : ∀ id, id.Of h → KindMade h (whole id))
    (wholeAllowed : ∀ id, G key (whole id)) (construction : Bool) :
    Replays h G (fun _ => True)
      (do let a ← handle h key; let b ← handle h key'; push h b construction kind; push h a construction (whole b))
      (do let a ← handle h key; let b ← handle h key'; push h b construction kind; push h a construction (whole b)) := by
  have runs (c : Copies α) :
      (do let a ← handle h key; let b ← handle h key'; push h b construction kind
          push h a construction (whole b) : Copying α Unit) c =
        .ok ((), ⟨((c.remap.slot key).2.slot key').2, c.made ++
          #[{ id := .derived h ((c.remap.slot key).2.slot key').1, group := h, construction, kind },
            { id := .derived h (c.remap.slot key).1, group := h, construction,
              kind := whole (.derived h ((c.remap.slot key).2.slot key').1) }]⟩) := by
    have pair (as : Array (Entity α)) (a b : Entity α) : as ++ #[a, b] = (as.push a).push b := Array.ext' (by simp)
    rw [pair]
    rfl
  intro c x c' run
  rw [runs] at run
  obtain ⟨rfl, rfl⟩ := Prod.mk.inj (Except.ok.inj run)
  have first := c.remap.slotExtends key
  have second := (c.remap.slot key).2.slotExtends key'
  have made' := wholeMade (.derived h ((c.remap.slot key).2.slot key').1) (.inr rfl)
  refine ⟨trivial, first.trans second, _, rfl, ?_, ?_⟩
  · intro e member
    rcases List.mem_pair.mp (List.mem_toArray.mp member) with same | same
    · subst same
      exact ⟨⟨rfl, rfl, made.parts, made.own, made.placing⟩, key', _, RemapTable.slotGiven _ key', rfl, allowed⟩
    · subst same
      exact ⟨⟨rfl, rfl, made'.parts, made'.own, made'.placing⟩, key, _,
        second.found _ _ (c.remap.slotGiven key), rfl, wholeAllowed _⟩
  · intro d later
    have again := RemapTable.slotAgain (c.remap.slotGiven key) (second.trans later)
    have again' := RemapTable.slotAgain ((c.remap.slot key).2.slotGiven key') later
    rw [runs, again]
    dsimp only
    rw [again']

end Copying

structure Sketch.Stays [Scalar α] (s t : Sketch α) (id : EntityId) : Prop where
  position : ∀ p, s.position id = .ok p → t.position id = .ok p
  orientation : ∀ q, s.orientation id = .ok q → t.orientation id = .ok q
  distance : ∀ x, s.distance id = .ok x → t.distance id = .ok x

theorem Sketch.Stays.refl [Scalar α] (s : Sketch α) (id : EntityId) : s.Stays s id :=
  ⟨fun _ ok => ok, fun _ ok => ok, fun _ ok => ok⟩

theorem Sketch.Stays.trans [Scalar α] {s t u : Sketch α} {id : EntityId} (first : s.Stays t id) (next : t.Stays u id) :
    s.Stays u id where
  position p ok := next.position p (first.position p ok)
  orientation q ok := next.orientation q (first.orientation q ok)
  distance x ok := next.distance x (first.distance x ok)

def Group.motion [Scalar α] (g : Group α) (role : RemapRole) (n : Nat) : CopyTransform α :=
  match g.kind, role with
  | .extrude .twoSided _, .bottom => .translate g.delta (-1.0)
  | .extrude .., .top => .translate g.delta 1.0
  | .revolve axis, .latheEnd => .revolve axis.origin axis.direction g.revolveAngle
  | .translate copies sides skipFirst, .copy =>
    ((sides.multiples copies skipFirst)[n]?).elim .identity (.translate g.delta)
  | .rotate _ _ copies sides skipFirst, .copy =>
    ((sides.multiples copies skipFirst)[n]?).elim .identity (.rotate g.rotateCenter g.rotateAxis g.rotateAngle)
  | .linked .., .copy => .linked g.linkOffset g.linkRotation
  | _, _ => .identity

theorem Group.ownVec (g : Group α) (n : Nat) : ∀ p ∈ (g.paramVec n).toList, p.owner = .group g.id := by
  simp [Group.paramVec, Vec3.toList, Group.param, ParamId.group]

theorem Group.motionOwned [Scalar α] (g : Group α) (role : RemapRole) (n : Nat) :
    ∀ p ∈ (g.motion role n).params, p.owner = .group g.id := by
  unfold motion
  split
  · exact g.ownVec 0
  · exact g.ownVec 0
  · simp [CopyTransform.params, Group.revolveAngle, Group.param, ParamId.group]
  · rename_i copies sides skip _
    cases (sides.multiples (α := α) copies skip)[n]? with
    | none => simp [CopyTransform.params]
    | some times => exact g.ownVec 0
  · rename_i copies sides skip _
    cases (sides.multiples (α := α) copies skip)[n]? with
    | none => simp [CopyTransform.params]
    | some times =>
      simp [CopyTransform.params, Group.rotateCenter, Group.rotateAxis, Group.rotateAngle, Group.paramVec, Vec3.toList,
        Group.param, ParamId.group]
  · simp [CopyTransform.params, Group.linkOffset, Group.linkRotation, Group.paramVec, Vec3.toList, Group.param,
      ParamId.group]
  · simp [CopyTransform.params]

/-- A whole copy holds the place of what it was copied from, moved as the group moves it; so does a copy of a
linked point. -/
structure Sketch.Froze [Scalar α] (s : Sketch α) (g : Group α) (key : RemapKey) (k : EntityKind α) : Prop where
  position : ∀ id p, key.whole? = some id → s.position id = .ok p → k = .pointCopy p (g.motion key.role key.copy)
  orientation : ∀ id q, key.whole? = some id → s.orientation id = .ok q → k = .normalCopy q (g.motion key.role key.copy)
  linked : ∀ i p points shell, key.source = .imported i → g.kind = .linked points shell → points[i]? = some p →
    k = .pointCopy p (g.motion key.role key.copy)

section Frozen
variable [Scalar α] {s : Sketch α} {g : Group α} {id : EntityId} {e : Entity α}

theorem Sketch.frozeOfPath {role : RemapRole} {n : Nat} (path : (⟨.entity id, role, n⟩ : RemapKey).whole? = none)
    (k : EntityKind α) : s.Froze g ⟨.entity id, role, n⟩ k where
  position _ _ whole := nomatch path.symm.trans whole
  orientation _ _ whole := nomatch path.symm.trans whole
  linked _ _ _ _ source := nomatch source

theorem RemapKey.wholeOf {role : RemapRole} {n : Nat} {id' : EntityId}
    (whole : (⟨.entity id, role, n⟩ : RemapKey).whole? = some id') : id' = id := by
  cases role <;> simp_all [whole?]

theorem Sketch.pointOfPosition (found : s.entities.get? id = some e) {p : Vec3 α} (ok : s.position id = .ok p) :
    e.isA .point = true := by
  obtain ⟨x, read, _⟩ := Result.bindOk.mp ok
  obtain ⟨e', there, rest⟩ := Result.bindOk.mp read
  obtain rfl := Option.some.inj (found.symm.trans (entityFound.mp there))
  cases kind : e.kind with
  | pointIn3d | pointIn2d | pointCopy => simp [Entity.isA, kind, EntityKind.isA, EntityKind.classes]
  | _ =>
    rw [kind] at rest
    cases rest

theorem Sketch.normalOfOrientation (found : s.entities.get? id = some e) {q : Quat α} (ok : s.orientation id = .ok q) :
    e.isA .normal = true := by
  obtain ⟨x, read, _⟩ := Result.bindOk.mp ok
  obtain ⟨e', there, rest⟩ := Result.bindOk.mp read
  obtain rfl := Option.some.inj (found.symm.trans (entityFound.mp there))
  cases kind : e.kind with
  | normalIn3d | normalIn2d | normalCopy => simp [Entity.isA, kind, EntityKind.isA, EntityKind.classes]
  | _ =>
    rw [kind] at rest
    cases rest

end Frozen

namespace Copying
open Sketch (Stays)
variable [Scalar α] {h : GroupId} {s s' : Sketch α} {g g' : Group α} {e : Entity α} {role : RemapRole} {n : Nat}
  {transform : CopyTransform α}

theorem replaysDerive {G : RemapKey → EntityKind α → Prop} (h : GroupId) (role : RemapRole) (n : Nat) (id : EntityId) :
    Replays h G (EntityId.Of h) (derive h role n id) (derive h role n id) := replaysHandle _

theorem replaysCopiedKind (here : s.entities.get? e.id = some e) (stays : s.Stays s' e.id)
    (moved : g.motion role n = transform) :
    Replays g.id (s.Froze g) (fun k => KindMade g.id k ∧ s.Froze g ⟨.entity e.id, role, n⟩ k)
      (copiedKind s (derive g.id role n) transform e) (copiedKind s' (derive g.id role n) transform e) := by
  subst moved
  have placed := g.motionOwned role n
  have part (id : EntityId) := replaysDerive (G := s.Froze g) g.id role n id
  have point (k : EntityKind α) (plain : e.isA .normal = false)
      (frozen : ∀ p, s.position e.id = .ok p → k = .pointCopy p (g.motion role n)) :
      s.Froze g ⟨.entity e.id, role, n⟩ k := by
    refine ⟨fun id p whole ok => frozen p (RemapKey.wholeOf whole ▸ ok), fun id q whole ok => ?_, nofun⟩
    rw [RemapKey.wholeOf whole] at ok
    exact nomatch plain.symm.trans (Sketch.normalOfOrientation here ok)
  have other (k : EntityKind α) (plain : e.isA .point = false)
      (frozen : ∀ q, s.orientation e.id = .ok q → k = .normalCopy q (g.motion role n)) :
      s.Froze g ⟨.entity e.id, role, n⟩ k := by
    refine ⟨fun id p whole ok => ?_, fun id q whole ok => frozen q (RemapKey.wholeOf whole ▸ ok), nofun⟩
    rw [RemapKey.wholeOf whole] at ok
    exact nomatch plain.symm.trans (Sketch.pointOfPosition here ok)
  have whole {k : EntityKind α} (none : e.isA .point = false ∧ e.isA .normal = false)
      (ours : ∀ id ∈ k.parts, id.Of g.id) (own : k.ownParams = []) (fixed : k.placing = []) :
      KindMade g.id k ∧ s.Froze g ⟨.entity e.id, role, n⟩ k :=
    ⟨⟨ours, own, by simp [fixed]⟩, other k none.1 fun q ok =>
      nomatch none.2.symm.trans (Sketch.normalOfOrientation here ok)⟩
  unfold copiedKind
  cases kind : e.kind with
  | pointIn3d | pointIn2d | pointCopy =>
    have plain : e.isA .normal = false := by simp [Entity.isA, kind, EntityKind.isA, EntityKind.classes]
    refine replaysBind (P := fun p => s.position e.id = .ok p)
      (replaysLift fun x found => ⟨stays.position x found, found⟩) fun x found => ?_
    refine replaysPure ⟨⟨by simp, rfl, placed⟩, ?_⟩
    exact point _ plain fun p ok => Except.ok.inj (found.symm.trans ok) ▸ rfl
  | normalIn3d | normalIn2d | normalCopy =>
    have plain : e.isA .point = false := by simp [Entity.isA, kind, EntityKind.isA, EntityKind.classes]
    refine replaysBind (P := fun q => s.orientation e.id = .ok q)
      (replaysLift fun x found => ⟨stays.orientation x found, found⟩) fun x found => ?_
    refine replaysPure ⟨⟨by simp, rfl, placed⟩, ?_⟩
    exact other _ plain fun q ok => Except.ok.inj (found.symm.trans ok) ▸ rfl
  | distance | distanceCopy =>
    have plain : e.isA .point = false ∧ e.isA .normal = false := by
      simp [Entity.isA, kind, EntityKind.isA, EntityKind.classes]
    refine replaysBind (P := fun _ => True) (replaysLift fun x found => ⟨stays.distance x found, trivial⟩) fun x _ => ?_
    exact replaysPure (whole plain (by simp) rfl rfl)
  | workplane o n =>
    have plain : e.isA .point = false ∧ e.isA .normal = false := by
      simp [Entity.isA, kind, EntityKind.isA, EntityKind.classes]
    refine replaysBind (part o) fun o ho => replaysBind (part n) fun n hn => replaysPure (whole plain ?_ rfl rfl)
    simp [ho, hn]
  | line a b =>
    have plain : e.isA .point = false ∧ e.isA .normal = false := by
      simp [Entity.isA, kind, EntityKind.isA, EntityKind.classes]
    refine replaysBind (part a) fun a ha => replaysBind (part b) fun b hb => replaysPure (whole plain ?_ rfl rfl)
    simp [ha, hb]
  | circle c n r =>
    have plain : e.isA .point = false ∧ e.isA .normal = false := by
      simp [Entity.isA, kind, EntityKind.isA, EntityKind.classes]
    refine replaysBind (part c) fun c hc => replaysBind (part n) fun n hn => replaysBind (part r) fun r hr =>
      replaysPure (whole plain ?_ rfl rfl)
    simp [hc, hn, hr]
  | arc c a b n =>
    have plain : e.isA .point = false ∧ e.isA .normal = false := by
      simp [Entity.isA, kind, EntityKind.isA, EntityKind.classes]
    refine replaysBind (part c) fun c hc => replaysBind (part a) fun a ha => replaysBind (part b) fun b hb =>
      replaysBind (part n) fun n hn => replaysPure (whole plain ?_ rfl rfl)
    simp [hc, ha, hb, hn]
  | cubic a b c d =>
    have plain : e.isA .point = false ∧ e.isA .normal = false := by
      simp [Entity.isA, kind, EntityKind.isA, EntityKind.classes]
    refine replaysBind (part a) fun a ha => replaysBind (part b) fun b hb => replaysBind (part c) fun c hc =>
      replaysBind (part d) fun d hd => replaysPure (whole plain ?_ rfl rfl)
    simp [ha, hb, hc, hd]
  | face => exact replaysThrow _ _

theorem replaysCopy (here : s.entities.get? e.id = some e) (stays : s.Stays s' e.id)
    (moved : g.motion role n = transform) :
    Replays g.id (s.Froze g) (EntityId.Of g.id) (copy s g.id role n transform e) (copy s' g.id role n transform e) := by
  refine replaysBind (replaysCopiedKind here stays moved) fun kind made => ?_
  exact replaysMake made.1 made.2 e.construction fun id ours => replaysPure ours

theorem replaysTurnPath (stays : s.Stays s' e.id) (axis : Axis α) {ends : Option (EntityId × EntityId)}
    (ours : ∀ a b, ends = some (a, b) → a.Of h ∧ b.Of h) :
    Replays h (s.Froze g) (fun _ => True) (turnPath s h axis ends e) (turnPath s' h axis ends e) := by
  have fixed {k : EntityKind α} (ours : ∀ id ∈ k.parts, id.Of h) (own : k.ownParams = []) (fixed : k.placing = []) :
      KindMade h k := ⟨ours, own, by simp [fixed]⟩
  have bare {k : EntityKind α} (none : k.parts = []) (own : k.ownParams = []) (fixed : k.placing = []) :
      KindMade h k := ⟨by simp [none], own, by simp [fixed]⟩
  refine replaysBind (P := fun _ => True) (replaysLift fun x found => ⟨stays.position x found, trivial⟩) fun p _ => ?_
  dsimp only
  split
  · exact replaysPure trivial
  · refine replaysMake (bare rfl rfl rfl) (Sketch.frozeOfPath rfl _) _ fun center hc => ?_
    refine replaysMake (bare rfl rfl rfl) (Sketch.frozeOfPath rfl _) _ fun normal hn => ?_
    cases ends with
    | some both =>
      obtain ⟨ha, hb⟩ := ours both.1 both.2 rfl
      refine replaysMakeLast (fixed ?_ rfl rfl) (Sketch.frozeOfPath rfl _) _
      simp [hc, ha, hb, hn]
    | none =>
      refine replaysMakePair (bare rfl rfl rfl) (Sketch.frozeOfPath rfl _) (fun radius hr => fixed ?_ rfl rfl)
        (fun _ => Sketch.frozeOfPath rfl _) _
      simp [hc, hn, hr]

theorem replaysExtrude (here : s.entities.get? e.id = some e) (stays : s.Stays s' e.id) (sameId : g'.id = g.id)
    {bottom top : CopyTransform α} (low : g.motion .bottom 0 = bottom) (high : g.motion .top 0 = top) :
    Replays g.id (s.Froze g) (fun _ => True) (extrude s g bottom top e) (extrude s' g' bottom top e) := by
  have delta : g'.delta = g.delta := by simp [Group.delta, Group.paramVec, Group.param, sameId]
  unfold extrude
  rw [sameId, delta]
  refine replaysBind (replaysCopy here stays low) fun a ha => replaysBind (replaysCopy here stays high) fun b hb => ?_
  have edge {face face' : Copying α Unit} (replays : Replays g.id (s.Froze g) (fun _ => True) face face') :
      Replays g.id (s.Froze g) (fun _ => True)
        (do push g.id (← derive g.id .pointToLine 0 e.id) e.construction (.line a b); face)
        (do push g.id (← derive g.id .pointToLine 0 e.id) e.construction (.line a b); face') := by
    refine replaysMake ⟨?_, rfl, ?_⟩ (Sketch.frozeOfPath rfl _) _ fun _ _ => replays
    · simp [ha, hb]
    · simp [EntityKind.placing]
  cases e.kind with
  | line c d =>
    let sweep : Copying α Unit := do
      let source ← derive g.id .bottom 0 c
      let target ← derive g.id .bottom 0 d
      push g.id (← derive g.id .lineToFace 0 e.id) e.construction (.face source (.sweep source target g.delta))
    have face : Replays g.id (s.Froze g) (fun _ => True) sweep sweep := by
      refine replaysBind (replaysDerive _ _ _ _) fun source hs =>
        replaysBind (replaysDerive _ _ _ _) fun target ht => ?_
      have swept : KindMade g.id (.face source (.sweep source target g.delta) : EntityKind α) :=
        ⟨by simp [hs, ht], rfl, g.ownVec 0⟩
      exact replaysMakeLast swept (Sketch.frozeOfPath rfl _) _
    cases e.isA .point with
    | false => exact face
    | true => exact edge face
  | _ =>
    cases e.isA .point with
    | false => exact replaysPure trivial
    | true => exact edge (replaysPure trivial)

theorem replaysLathe (here : s.entities.get? e.id = some e) (stays : s.Stays s' e.id) {axis : Axis α}
    (kind : g.kind = .lathe axis) :
    Replays g.id (s.Froze g) (fun _ => True) (lathe s g.id axis e) (lathe s' g.id axis e) := by
  refine replaysBind (replaysCopy here stays (by simp [Group.motion, kind])) fun _ _ => ?_
  cases e.isA .point with
  | false => exact replaysPure trivial
  | true =>
    simp only [if_true]
    exact replaysTurnPath stays axis (by simp)

theorem replaysRevolve (here : s.entities.get? e.id = some e) (stays : s.Stays s' e.id) (sameId : g'.id = g.id)
    {axis : Axis α} (kind : g.kind = .revolve axis) :
    Replays g.id (s.Froze g) (fun _ => True) (revolve s g axis e) (revolve s' g' axis e) := by
  have angle : g'.revolveAngle = g.revolveAngle := by simp [Group.revolveAngle, Group.param, sameId]
  unfold revolve
  rw [sameId, angle]
  refine replaysBind (replaysCopy here stays (by simp [Group.motion, kind])) fun start ha => ?_
  refine replaysBind (replaysCopy here stays (by simp [Group.motion, kind])) fun finish hb => ?_
  cases e.isA .point with
  | false => exact replaysPure trivial
  | true =>
    simp only [if_true]
    refine replaysTurnPath stays axis ?_
    intro a b both
    cases both
    exact ⟨ha, hb⟩

theorem replaysRepeated {transform : α → CopyTransform α} {multiples : List α}
    (moved : ∀ n, g.motion .copy n = (multiples[n]?).elim .identity transform) {sources : List (Entity α)}
    (here : ∀ e ∈ sources, s.entities.get? e.id = some e) (stays : ∀ e ∈ sources, s.Stays s' e.id) :
    Replays g.id (s.Froze g) (fun _ => True)
      (repeated s g.id transform multiples sources) (repeated s' g.id transform multiples sources) := by
  refine replaysForM fun step there => replaysForM fun e member => ?_
  have here' := replaysCopy (here e member) (stays e member) (moved step.2)
  rw [List.mem_zipIdx_iff_getElem?.mp there] at here'
  exact replaysBind here' fun _ _ => replaysPure trivial

theorem replaysLinked (sameId : g'.id = g.id) {points : List (Vec3 α)} {shell : Option ShellId}
    (kind : g.kind = .linked points shell) :
    Replays g.id (s.Froze g) (fun _ => True)
      (points.zipIdx.forM fun (p, i) => do
        push g.id (← handle g.id ⟨.imported i, .copy, 0⟩) false
          (.pointCopy p (.linked g.linkOffset g.linkRotation)))
      (points.zipIdx.forM fun (p, i) => do
        push g'.id (← handle g'.id ⟨.imported i, .copy, 0⟩) false
          (.pointCopy p (.linked g'.linkOffset g'.linkRotation))) := by
  have offset : g'.linkOffset = g.linkOffset := by simp [Group.linkOffset, Group.paramVec, Group.param, sameId]
  have rotation : g'.linkRotation = g.linkRotation := by simp [Group.linkRotation, Group.param, sameId]
  rw [sameId, offset, rotation]
  have moved : g.motion .copy 0 = .linked g.linkOffset g.linkRotation := by simp [Group.motion, kind]
  refine replaysForM fun step there => replaysMakeLast ⟨?_, rfl, ?_⟩
    ⟨nofun, nofun, fun i p points' shell' own same at' => ?_⟩ _
  · simp
  · exact moved ▸ g.motionOwned .copy 0
  · cases own
    cases kind.symm.trans same
    rw [Option.some.inj (at'.symm.trans (List.mem_zipIdx_iff_getElem?.mp there)), moved]

theorem replaysAll {sources : List (Entity α)} (here : ∀ e ∈ sources, s.entities.get? e.id = some e)
    (stays : ∀ e ∈ sources, s.Stays s' e.id) (sameId : g'.id = g.id) (sameKind : g'.kind = g.kind) :
    Replays g.id (s.Froze g) (fun _ => True) (all s g sources) (all s' g' sources) := by
  have delta : g'.delta = g.delta := by simp [Group.delta, Group.paramVec, Group.param, sameId]
  unfold all
  rw [sameKind]
  cases kind : g.kind with
  | drawing3d | drawingWorkplane => exact replaysPure trivial
  | extrude sides lock =>
    dsimp only
    rw [delta]
    refine replaysForM fun e member => replaysExtrude (here e member) (stays e member) sameId ?_ ?_
    · cases sides <;> simp [Group.motion, kind]
    · simp [Group.motion, kind]
  | lathe axis =>
    dsimp only
    rw [sameId]
    exact replaysForM fun e member => replaysLathe (here e member) (stays e member) kind
  | revolve axis => exact replaysForM fun e member => replaysRevolve (here e member) (stays e member) sameId kind
  | translate copies sides skip =>
    dsimp only
    rw [sameId, delta]
    exact replaysRepeated (fun n => by simp [Group.motion, kind]) here stays
  | rotate center axis copies sides skip =>
    have spin : g'.rotateCenter = g.rotateCenter ∧ g'.rotateAxis = g.rotateAxis ∧ g'.rotateAngle = g.rotateAngle := by
      simp [Group.rotateCenter, Group.rotateAxis, Group.rotateAngle, Group.paramVec, Group.param, sameId]
    dsimp only
    rw [sameId, spin.1, spin.2.1, spin.2.2]
    exact replaysRepeated (fun n => by simp [Group.motion, kind]) here stays
  | linked points shell => exact replaysLinked sameId kind

end Copying
end Drafting
