import Drafting.Proofs.Shells
import Drafting.Proofs.SlotUse
import Drafting.Proofs.Turns
/-! Handles of derived entities as long as their group lives. No turn of a sketch takes a slot away from a
key or gives it to another, and what a group derives stands under the slots of its keys. -/
namespace Drafting.Sketch
open Relation (ReflTransGen)
variable [Scalar α] {s t u : Sketch α}

/-- Groups have proper tables, and each derived entity stands under a slot of its group. -/
structure Slotted (s : Sketch α) : Prop extends Numbered s where
  proper : ∀ k g, s.groups.get? k = some g → g.remap.Proper
  derived : ∀ id e k, s.entities.get? id = some e → id.origin = .derived k →
    e.group = k ∧ ∃ g key, s.groups.get? k = some g ∧ g.remap.get? key = some id.index

structure Outgrows (s t : Sketch α) : Prop where
  slotted : t.Slotted
  slots : ∀ k g, s.groups.get? k = some g → ∃ g', t.groups.get? k = some g' ∧ g.remap.Extends g'.remap

def DerivesNothing (s t : Sketch α) : Prop := ∀ id e k, t.entities.get? id = some e → id.origin = .derived k →
  ∃ e', s.entities.get? id = some e' ∧ e'.group = e.group

section Relation
omit [Scalar α]

theorem Outgrows.refl (h : s.Slotted) : Outgrows s s := ⟨h, fun _ g found => ⟨g, found, .refl _⟩⟩

theorem Outgrows.trans (first : Outgrows s t) (next : Outgrows t u) : Outgrows s u where
  slotted := next.slotted
  slots k g found := by
    obtain ⟨g₁, there, grown⟩ := first.slots k g found
    obtain ⟨g₂, now, grown'⟩ := next.slots k g₁ there
    exact ⟨g₂, now, grown.trans grown'⟩

theorem derivesNothingOfEntities (same : t.entities = s.entities) : DerivesNothing s t := by
  intro id e k found _
  exact ⟨e, same ▸ found, rfl⟩

theorem Steady.outgrows (step : Steady Group.remap s t) (h : s.Slotted) (nothing : DerivesNothing s t) :
    Outgrows s t where
  slotted := by
    refine ⟨step.numbered h.toNumbered, fun k g found => ?_, fun id e k found origin => ?_⟩
    · obtain ⟨g', there, same⟩ := step.before found
      exact same ▸ h.proper k g' there
    · obtain ⟨e', before, group⟩ := nothing id e k found origin
      obtain ⟨mine, g, key, there, slot⟩ := h.derived id e' k before origin
      obtain ⟨g', now, same⟩ := step.kept there
      exact ⟨group.symm.trans mine, g', key, now, same ▸ slot⟩
  slots k g found := by
    obtain ⟨g', there, same⟩ := step.kept found
    exact ⟨g', there, same ▸ .refl _⟩

end Relation

theorem Change.derivesNothing (step : Change s t) (h : s.Consistent) : DerivesNothing s t := by
  intro id e k found origin
  cases step with
  | adjusted step => exact ⟨e, step.entities ▸ found, rfl⟩
  | @drawn r fresh allowed =>
    have entities : ({ s with nextRequest := s.nextRequest + 1 }.enterRequest (fun _ => none) r).entities =
        r.entities.foldl Registry.add s.entities := by rw [enterRequestRecords]
    change ({ s with nextRequest := s.nextRequest + 1 }.enterRequest (fun _ => none) r).entities.get? id = some e at found
    rw [entities] at found
    rcases h.entities.foundAddAll found with ⟨part, keyed⟩ | before
    · have drawn := (Request.drawn part).origin
      rw [show e.id = id from keyed, origin] at drawn
      cases drawn
    · exact ⟨e, before, rfl⟩
  | @construction q r there b =>
    have keeps : ∀ e : Entity α, Keyed.key (if e.id.request? = some q then { e with construction := b } else e) = Keyed.key e := by
      intro e
      split <;> rfl
    obtain ⟨e', before, same⟩ := Option.map_eq_some_iff.mp ((h.entities.getMap keeps id).symm.trans found)
    refine ⟨e', before, ?_⟩
    rw [← same]
    split <;> rfl
  | erased there =>
    exact ⟨e, (h.entities.foundFilter.mp found).1, rfl⟩

theorem Change.outgrows (step : Change s t) (h : s.Slotted) : Outgrows s t :=
  (step.unmarked (fun _ _ => rfl) h.toConsistent).outgrows h (step.derivesNothing h.toConsistent)

theorem solveGroupEntities (h : s.Consistent) (id : GroupId) (config : SolverConfig α) (clock : Nat → Nat) :
    (s.solveGroup id config clock).2.entities = s.entities :=
  solveGroupKeeps (P := fun t => t.entities = s.entities) h rfl (fun _ _ steps => steps.entities) config clock

theorem solveGroupOutgrows (h : s.Slotted) (id : GroupId) (config : SolverConfig α) (clock : Nat → Nat) :
    Outgrows s (s.solveGroup id config clock).2 := by
  refine (solveGroupUnmarked (fun _ _ => rfl) (fun _ _ => rfl) h.toConsistent id config clock).outgrows h ?_
  exact derivesNothingOfEntities (solveGroupEntities h.toConsistent id config clock)

theorem regrownGroup {g : Group α} {c : Copies α} (h : s.groups.Consistent) (found : s.groups.get? g.id = some g)
    (fits : Fits g c) (new : Regrown s g c t) (k : GroupId) :
    t.groups.get? k = if k = g.id then some { g with remap := c.remap } else s.groups.get? k := by
  rw [new.groups]
  cases solid : g.kind.isSolid with
  | true =>
    refine (h.getModify (f := ({ · with remap := c.remap })) g.id (fun _ same => same) k).trans ?_
    rw [found]
    rfl
  | false =>
    rw [fits.plain solid, if_neg Bool.false_ne_true]
    split
    · rename_i same
      rw [same]
      exact found
    · rfl

omit [Scalar α] in
theorem enlargedOutgrows {id : GroupId} {g : Group α} {r : RemapTable} (h : s.Slotted)
    (found : s.groups.get? id = some g) (grown : g.remap.Extends r) (numbered : t.Numbered)
    (groups : ∀ k, t.groups.get? k = if k = id then some { g with remap := r } else s.groups.get? k)
    (derived : ∀ i e k, t.entities.get? i = some e → i.origin = .derived k →
      (k = id ∧ e.group = id ∧ ∃ key, r.get? key = some i.index) ∨ ∃ e', s.entities.get? i = some e' ∧ e'.group = e.group) :
    Outgrows s t := by
  have slots (k : GroupId) (g₁ : Group α) (there : s.groups.get? k = some g₁) :
      ∃ g₂, t.groups.get? k = some g₂ ∧ g₁.remap.Extends g₂.remap := by
    rw [groups]
    split
    · rename_i same
      subst same
      cases found.symm.trans there
      exact ⟨_, rfl, grown⟩
    · exact ⟨g₁, there, .refl _⟩
  refine ⟨⟨numbered, fun k g₂ there => ?_, fun i e k there origin => ?_⟩, slots⟩
  · rw [groups] at there
    split at there
    · cases there
      exact grown.proper (h.proper id g found)
    · exact h.proper k g₂ there
  · rcases derived i e k there origin with ⟨same, group, key, slot⟩ | ⟨e', before, group⟩
    · refine ⟨group.trans same.symm, { g with remap := r }, key, ?_, slot⟩
      rw [groups, if_pos same]
    · obtain ⟨mine, g₁, key, registered, slot⟩ := h.derived i e' k before origin
      obtain ⟨g₂, now, kept⟩ := slots k g₁ registered
      exact ⟨group.symm.trans mine, g₂, key, now, kept.found key _ slot⟩

theorem drawnNotDerived {g : Group α} {e : Entity α} {k : GroupId}
    (member : e ∈ fixtures g ++ (s.requestsOf g).flatMap Request.entities) : e.id.origin ≠ .derived k := by
  rcases List.mem_append.mp member with fixture | part
  · unfold fixtures at fixture
    split at fixture
    · simp only [List.mem_cons, List.not_mem_nil, or_false] at fixture
      rcases fixture with same | same | same <;> simp [same, EntityId.predefined]
    · cases fixture
  · obtain ⟨q, _, part⟩ := List.mem_flatMap.mp part
    rw [(Request.drawn part).origin]
    intro same
    cases same

theorem redrawnDerived {g : Group α} {i : EntityId} {e : Entity α} {k : GroupId} (h : s.Slotted)
    (there : (s.redrawn g).entities.get? i = some e) (origin : i.origin = .derived k) :
    s.entities.get? i = some e ∧ k ≠ g.id := by
  rw [redrawnRecords] at there
  rcases (h.entities.filter _).foundAddAll there with ⟨member, keyed⟩ | kept
  · have same : e.id = i := keyed
    exact absurd (same ▸ origin) (drawnNotDerived member)
  · obtain ⟨before, other⟩ := h.entities.foundFilter.mp kept
    refine ⟨before, fun same => ?_⟩
    have mine := (h.derived i e k before origin).1
    simp [mine, same] at other

theorem failedDerivesNothing {id : GroupId} {cause : SketchError} (h : s.Slotted)
    (failed : (generateGroup id s).1 = .error cause) (i : EntityId) (e : Entity α)
    (there : (generateGroup id s).2.entities.get? i = some e) : i.origin ≠ .derived id := by
  intro origin
  cases found : s.groups.get? id with
  | none =>
    rw [generateGroupMissing found] at there
    obtain ⟨_, g, _, registered, _⟩ := h.derived i e id there origin
    exact nomatch found.symm.trans registered
  | some g =>
    have named := h.groups.keyOfGet found
    rw [generateGroupRun found named] at failed there
    cases made : s.copied g with
    | ok c =>
      rw [made] at failed
      cases failed
    | error _ =>
      rw [made] at there
      exact (redrawnDerived h there origin).2 named.symm

theorem generateGroupOutgrows (h : s.Slotted) (id : GroupId) : Outgrows s (generateGroup id s).2 := by
  have steady := generateGroupSteady heldLasting h.toConsistent id
  cases found : s.groups.get? id with
  | none =>
    rw [generateGroupMissing found]
    exact .refl h
  | some g =>
    have named : g.id = id := h.groups.keyOfGet found
    subst named
    rw [generateGroupRun found rfl] at steady ⊢
    cases made : s.copied g with
    | error e =>
      refine (redrawnSteady h.toConsistent g).outgrows h fun i e k there origin => ?_
      obtain ⟨before, _⟩ := redrawnDerived h there origin
      exact ⟨e, before, rfl⟩
    | ok c =>
      rw [made] at steady
      obtain ⟨grown, labelled⟩ := copiedLabelled h.entities made
      have fits := copiedFits h.entities made
      have new := regrownSpec h.params fits
      refine enlargedOutgrows h found grown (steady.numbered h.toNumbered) (regrownGroup h.groups found fits new) ?_
      intro i e k there origin
      rw [new.entities] at there
      rcases (h.entities.filter _).foundAddAll there with ⟨member, keyed⟩ | kept
      · have same : e.id = i := keyed
        subst same
        unfold content at member
        rcases List.mem_append.mp member with drawn | copy
        · exact absurd origin (drawnNotDerived drawn)
        · have label := labelled e (Array.mem_toList_iff.mp copy)
          obtain ⟨key, slot, given, under, _⟩ := label.label
          rw [under] at origin ⊢
          cases origin
          exact .inl ⟨rfl, label.made.group, key, given⟩
      · exact .inr ⟨e, (h.entities.foundFilter.mp kept).1, rfl⟩

omit [Scalar α] in
theorem withGroupOutgrows (h : s.Slotted) (name : String) (kind : GroupKind α) (source : Option GroupId) :
    Outgrows s (s.withGroup name kind source) := by
  obtain ⟨numbered, g, _, empty, get⟩ := withGroupGet h.toNumbered name kind source
  have slots (k : GroupId) (g₁ : Group α) (there : s.groups.get? k = some g₁) :
      ∃ g₂, (s.withGroup name kind source).groups.get? k = some g₂ ∧ g₁.remap.Extends g₂.remap := by
    rw [get]
    split
    · rename_i same
      exact absurd (same ▸ h.below k g₁ there) (Nat.lt_irrefl _)
    · exact ⟨g₁, there, .refl _⟩
  refine ⟨⟨numbered, fun k g₂ there => ?_, fun i e k there origin => ?_⟩, slots⟩
  · rw [get] at there
    split at there
    · cases there
      exact empty ▸ RemapTable.emptyProper
    · exact h.proper k g₂ there
  · obtain ⟨mine, g₁, key, registered, slot⟩ := h.derived i e k there origin
    obtain ⟨g₂, now, kept⟩ := slots k g₁ registered
    exact ⟨mine, g₂, key, now, kept.found key _ slot⟩

theorem addGroupOutgrows (h : s.Slotted) (name : String) (kind : GroupKind α) (source : Option GroupId) :
    Outgrows s (addGroup name kind source s).2 := by
  let id : GroupId := ⟨s.nextGroup⟩
  have entered := withGroupOutgrows h name kind source
  have made := entered.trans (generateGroupOutgrows entered.slotted id)
  have left := addGroupLeaves s name kind source
  dsimp only at left
  rcases left with same | same | ⟨⟨cause, failed⟩, same⟩
  · rw [same]
    exact .refl h
  · rw [same]
    exact made
  · rw [same]
    have nothing := failedDerivesNothing entered.slotted failed
    generalize (generateGroup id (s.withGroup name kind source)).2 = u at made nothing
    have removed (k : GroupId) (other : k ≠ id) : (u.groups.remove id).get? k = u.groups.get? k :=
      (made.slotted.groups.getRemove id k).trans (if_neg other)
    have before (k : GroupId) (g : Group α) (there : (u.groups.remove id).get? k = some g) : u.groups.get? k = some g :=
      (made.slotted.groups.foundRemove.mp there).2
    constructor
    case slotted =>
      constructor
      case toNumbered =>
        exact { made.slotted.toNumbered with
          groups := made.slotted.groups.remove id
          below := fun k g there => made.slotted.below k g (before k g there) }
      case proper => exact fun k g there => made.slotted.proper k g (before k g there)
      case derived =>
        intro i e k there origin
        obtain ⟨mine, g, key, registered, slot⟩ := made.slotted.derived i e k there origin
        have other : k ≠ id := fun same => nothing i e there (origin.trans (congrArg _ same))
        exact ⟨mine, g, key, (removed k other).trans registered, slot⟩
    case slots =>
      intro k g there
      obtain ⟨g', now, grown⟩ := made.slots k g there
      have other : k ≠ id := fun same => Nat.lt_irrefl _ (same ▸ h.below k g there)
      exact ⟨g', (removed k other).trans now, grown⟩

omit [Scalar α] in
theorem recordOutgrows (h : s.Slotted) (id : GroupId) {change : Group α → Group α}
    (keeps : ∀ g, g.id = id → (change g).id = id) (same : ∀ g, s.groups.get? id = some g → (change g).remap = g.remap) :
    Outgrows s (s.modifyGroup id change) :=
  (steadyRecord h.toConsistent id keeps same).outgrows h (derivesNothingOfEntities rfl)

theorem Turn.outgrows (turn : Turn s t) (h : s.Slotted) : Outgrows s t := by
  cases turn with
  | changed step => exact step.outgrows h
  | added name kind source => exact addGroupOutgrows h name kind source
  | @set id g found changes =>
    have named := GroupChange.allKeep (f := Group.id) (fun _ c => by cases c <;> rfl) changes g
    have kept := GroupChange.allKeep (f := Group.remap) (fun _ c => by cases c <;> rfl) changes g
    refine recordOutgrows h id (fun _ _ => named.trans (h.groups.keyOfGet found)) fun g' there => ?_
    cases found.symm.trans there
    exact kept
  | generated id => exact generateGroupOutgrows h id
  | solved id config clock => exact solveGroupOutgrows h id config clock
  | recorded id => exact recordOutgrows h id (fun _ same => same) fun _ _ => rfl

theorem Turns.outgrows (turns : Turns s t) (h : s.Slotted) : Outgrows s t := by
  induction turns with
  | refl => exact .refl h
  | tail _ turn ih => exact ih.trans (turn.outgrows ih.slotted)

def reloaded (g : Group α) : Group α := { g with remap := .ofList g.remap.toList }

/-- What may happen to a sketch while its groups live: a command is carried out, whatever comes of it, a group is
made anew by itself, or the table of a group is written out and read in. -/
inductive Happens : Sketch α → Sketch α → Prop
  | command {s t : Session α} {clock : Nat → Nat} {c : Command α} {r : Except (SessionError α) (Answer α)}
      (on : c.GoesOn) (run : Session.perform clock c s = (r, t)) : Happens s.sketch t.sketch
  | generated (s : Sketch α) (id : GroupId) : Happens s (generateGroup id s).2
  | reloaded (s : Sketch α) (id : GroupId) : Happens s (s.modifyGroup id reloaded)

abbrev Lives : Sketch α → Sketch α → Prop := ReflTransGen Happens

omit [Scalar α] in
theorem reloadOutgrows (h : s.Slotted) (id : GroupId) : Outgrows s (s.modifyGroup id reloaded) := by
  have keeps : ∀ g : Group α, g.id = id → (reloaded g).id = id := fun _ same => same
  cases found : s.groups.get? id with
  | none => exact recordOutgrows h id keeps fun g there => nomatch found.symm.trans there
  | some g =>
    have steady : Steady Group.held s (s.modifyGroup id reloaded) := steadyRecord h.toConsistent id keeps fun _ _ => rfl
    refine enlargedOutgrows h found g.remap.reloadExtends (steady.numbered h.toNumbered) (fun k => ?_) fun i e k there _ => ?_
    · refine (h.groups.getModify id keeps k).trans ?_
      rw [found]
      rfl
    · exact .inr ⟨e, there, rfl⟩

theorem Happens.outgrows (happens : Happens s t) (h : s.Slotted) : Outgrows s t := by
  cases happens with
  | command on run => exact Turns.outgrows (Session.performTurns on run) h
  | generated _ id => exact generateGroupOutgrows h id
  | reloaded _ id => exact reloadOutgrows h id

theorem Lives.outgrows (lives : Lives s t) (h : s.Slotted) : Outgrows s t := by
  induction lives with
  | refl => exact .refl h
  | tail _ happens ih => exact ih.trans (happens.outgrows ih.slotted)

omit [Scalar α] in
theorem startSlotted : ({} : Sketch α).Slotted where
  toConsistent := startConsistent
  below k g found := by simp [Registry.get?] at found
  proper k g found := by simp [Registry.get?] at found
  derived i e k found _ := by simp [Registry.get?] at found

def handleOf? (s : Sketch α) (group : GroupId) (key : RemapKey) : Option EntityId :=
  (s.groups.get? group).bind fun g => (g.remap.get? key).map (.derived group)

omit [Scalar α] in
theorem handleOfIff {group : GroupId} {key : RemapKey} {id : EntityId} : s.handleOf? group key = some id ↔
    ∃ g, s.groups.get? group = some g ∧ ∃ slot, g.remap.get? key = some slot ∧ .derived group slot = id := by
  simp [handleOf?, Option.bind_eq_some_iff]

omit [Scalar α] in
theorem derivedEntityOf (s : Sketch α) (group : GroupId) (source : EntityId) (role : RemapRole) (copy : Nat) :
    s.derivedEntity? group source role copy =
      (s.handleOf? group ⟨.entity source, role, copy⟩).bind fun id => if s.hasEntity id then some id else none := by
  rw [derivedEntity?, handleOf?]
  cases s.groups.get? group with
  | none => rfl
  | some g =>
    cases read : g.remap.get? ⟨.entity source, role, copy⟩ with
    | none => simp [bind, read]
    | some slot => simp [bind, read]

omit [Scalar α] in
theorem Outgrows.handle (step : Outgrows s t) {group : GroupId} {key : RemapKey} {id : EntityId}
    (known : s.handleOf? group key = some id) : t.handleOf? group key = some id := by
  obtain ⟨g, found, slot, given, same⟩ := handleOfIff.mp known
  obtain ⟨g', now, grown⟩ := step.slots group g found
  exact handleOfIff.mpr ⟨g', now, slot, grown.found key slot given, same⟩

omit [Scalar α] in
theorem Slotted.oneKey (h : s.Slotted) {group : GroupId} {key key' : RemapKey} {id : EntityId}
    (left : s.handleOf? group key = some id) (right : s.handleOf? group key' = some id) : key = key' := by
  obtain ⟨g, found, slot, given, same⟩ := handleOfIff.mp left
  obtain ⟨g', found', slot', given', same'⟩ := handleOfIff.mp right
  cases found.symm.trans found'
  cases same.trans same'.symm
  exact (h.proper group g found).once key key' slot given given'

/- A handle once given to a source, role and copy stays theirs alone, and nothing is derived under any other. -/
theorem handlesForLife : (∀ uses, RemapTable.Relied uses) ∧
    (∀ s t : Sketch α, Lives {} s → Lives s t → ∀ group key id, s.handleOf? group key = some id →
      t.handleOf? group key = some id ∧ (∀ key', t.handleOf? group key' = some id → key' = key) ∧
      ∀ source role copy, key = ⟨.entity source, role, copy⟩ →
        t.derivedEntity? group source role copy = if t.hasEntity id then some id else none) ∧
    ∀ t : Sketch α, Lives {} t → ∀ e ∈ t.entities.toList, ∀ group, e.id.origin = .derived group →
      ∃ key, t.handleOf? group key = some e.id := by
  refine ⟨RemapTable.usesRelied, fun s t early late group key id known => ?_, fun t lives e member group origin => ?_⟩
  · have slotted := (Lives.outgrows early startSlotted).slotted
    have step := Lives.outgrows late slotted
    have now := step.handle known
    refine ⟨now, fun key' other => step.slotted.oneKey other now, fun source role copy same => ?_⟩
    subst same
    rw [derivedEntityOf, now]
    rfl
  · have slotted := (Lives.outgrows lives startSlotted).slotted
    obtain ⟨_, g, key, found, slot⟩ := slotted.derived e.id e group (slotted.entities.getOfMem member) origin
    refine ⟨key, handleOfIff.mpr ⟨g, found, e.id.index, slot, ?_⟩⟩
    rw [EntityId.derived, ← origin]

section Stamp

def stamp : Group Float := { id := ⟨1⟩, name := "stamp", kind := .linked [.zero] none }

def stampKey : RemapKey := ⟨.imported 0, .copy, 0⟩

def stampCopies : Copies Float where
  remap := (({} : RemapTable).slot stampKey).2
  made := #[{ id := .derived ⟨1⟩ (({} : RemapTable).slot stampKey).1, group := ⟨1⟩, construction := false,
              kind := .pointCopy .zero (.linked stamp.linkOffset stamp.linkRotation) }]

def blank : Sketch Float := ({} : Sketch Float).withGroup "stamp" stamp.kind none

def stamped : Sketch Float := blank.regrown stamp stampCopies

theorem stampCopied : blank.copied stamp = .ok stampCopies := rfl

theorem stampAdded : addGroup "stamp" stamp.kind none {} = (.ok ⟨1⟩, stamped) :=
  addGroupRun startConsistent.groups rfl (startConsistent.groups.getAddSelf stamp) stampCopied

theorem stampFits : Fits stamp stampCopies := copiedFits startConsistent.entities stampCopied

theorem stampRegrown : Regrown blank stamp stampCopies stamped := regrownSpec startConsistent.params stampFits

theorem stampRegistered : stamped.groups.get? ⟨1⟩ = some { stamp with remap := stampCopies.remap } :=
  (regrownGroup (s := blank) (startConsistent.groups.add stamp) (startConsistent.groups.getAddSelf stamp) stampFits
    stampRegrown ⟨1⟩).trans (if_pos rfl)

theorem stampKeepsItsHandle : ∃ (s t : Sketch Float) (id : EntityId), Lives {} s ∧ Lives s t ∧
    s.handleOf? ⟨1⟩ stampKey = some id ∧ t.handleOf? ⟨1⟩ stampKey = some id := by
  have lives : Lives {} stamped := by
    have done := Session.performEdited id (s := Session.start .standard)
      (c := .addGroup "stamp" stamp.kind none) rfl stampAdded
    exact .single (.command (by trivial) done)
  have known : stamped.handleOf? ⟨1⟩ stampKey = some (.derived ⟨1⟩ (({} : RemapTable).slot stampKey).1) :=
    handleOfIff.mpr ⟨_, stampRegistered, _, RemapTable.slotGiven {} stampKey, rfl⟩
  have late : Lives stamped ((generateGroup ⟨1⟩ stamped).2.modifyGroup ⟨1⟩ reloaded) :=
    .tail (.single (.generated stamped ⟨1⟩)) (.reloaded _ ⟨1⟩)
  exact ⟨stamped, _, _, lives, late, known, (handlesForLife.2.1 stamped _ lives late ⟨1⟩ stampKey _ known).1⟩

end Stamp

end Drafting.Sketch
