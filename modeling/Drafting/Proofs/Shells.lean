import Drafting.Proofs.Order
import Drafting.Proofs.Rebuild
import Drafting.Proofs.Session
import Drafting.Proofs.Steady
/-! No shell is lost and none is missing: whatever commands a session is given and whatever comes of
them, its kernel holds the parts that were imported and the shells that some group holds, and no others. -/
namespace Drafting

namespace Sketch
variable [Scalar α] {s t u : Sketch α}

omit [Scalar α] in
theorem heldLasting : Group.Lasting (Group.held (α := α)) := ⟨fun _ _ => rfl, fun _ _ => rfl, fun _ _ => rfl⟩

structure Numbered (s : Sketch α) : Prop extends s.Consistent where
  below : ∀ k g, s.groups.get? k = some g → k.number < s.nextGroup

omit [Scalar α] in
theorem Steady.numbered {f : Group α → β} (step : Steady f s t) (h : s.Numbered) : t.Numbered where
  toConsistent := step.consistent
  below k g found := by
    obtain ⟨g', there, _⟩ := step.before found
    rw [step.next]
    exact h.below k g' there

omit [Scalar α] in
theorem holdsIff {x : ShellId} : s.HoldsShell x ↔ ∃ k, x ∈ ((s.groups.get? k).map Group.held).getD [] := by
  constructor
  · rintro ⟨k, g, found, member⟩
    exact ⟨k, by simpa [found] using member⟩
  · rintro ⟨k, member⟩
    cases found : s.groups.get? k with
    | none => simp [found] at member
    | some g => exact ⟨k, g, found, by simpa [found] using member⟩

omit [Scalar α] in
theorem Steady.holds (step : Steady Group.held s t) (x : ShellId) : t.HoldsShell x ↔ s.HoldsShell x := by
  simp only [holdsIff, step.same]

def Retains (s t : Sketch α) : Prop := s.Numbered → t.Numbered ∧ ∀ x, t.HoldsShell x ↔ s.HoldsShell x

omit [Scalar α] in
theorem Steady.retains (step : Steady Group.held s t) : Retains s t := fun h => ⟨step.numbered h, step.holds⟩

omit [Scalar α] in
theorem withGroupGet (h : s.Numbered) (name : String) (kind : GroupKind α) (source : Option GroupId) :
    (s.withGroup name kind source).Numbered ∧ ∃ g : Group α, g.held = [] ∧ g.remap = {} ∧
      ∀ k, (s.withGroup name kind source).groups.get? k = if k = ⟨s.nextGroup⟩ then some g else s.groups.get? k := by
  let g : Group α := { id := ⟨s.nextGroup⟩, name, kind, source, workplane := s.startingWorkplane ⟨s.nextGroup⟩ kind source }
  have get (k : GroupId) : (s.groups.add g).get? k = if k = ⟨s.nextGroup⟩ then some g else s.groups.get? k := by
    rw [h.groups.getAdd]
    exact if_congr eq_comm rfl rfl
  refine ⟨{ h with groups := h.groups.add g, below := ?_ }, g, rfl, rfl, get⟩
  intro k r found
  rw [show (s.withGroup name kind source).groups.get? k = _ from get k] at found
  split at found
  · rename_i same
    rw [same]
    exact Nat.lt_succ_self _
  · exact Nat.lt_succ_of_lt (h.below k r found)

theorem addGroupLeaves (s : Sketch α) (name : String) (kind : GroupKind α) (source : Option GroupId) :
    let made := generateGroup ⟨s.nextGroup⟩ (s.withGroup name kind source)
    (addGroup name kind source s).2 = s ∨ (addGroup name kind source s).2 = made.2 ∨ (∃ e, made.1 = .error e) ∧
      (addGroup name kind source s).2 = { made.2 with groups := made.2.groups.remove ⟨s.nextGroup⟩ } := by
  intro made
  unfold addGroup
  rw [Attempt.runBind, Edit.runRead]
  cases s.checkGroup kind source with
  | error e => exact .inl rfl
  | ok _ =>
    right
    dsimp only
    rw [Attempt.getBind, Attempt.runBind, Attempt.runModify]
    dsimp only
    rw [Attempt.runBind, Attempt.runTry]
    rcases run : generateGroup ⟨s.nextGroup⟩ (s.withGroup name kind source) with ⟨e | x, v⟩
    · have same : made = (.error e, v) := run
      rw [same]
      unfold withGroup at run
      rw [run]
      exact .inr ⟨⟨e, rfl⟩, rfl⟩
    · have same : made = (.ok x, v) := run
      rw [same]
      unfold withGroup at run
      rw [run]
      exact .inl rfl

theorem addGroupRetains (name : String) (kind : GroupKind α) (source : Option GroupId) :
    Retains s (addGroup name kind source s).2 := by
  intro h
  obtain ⟨numbered, g, empty, _, get⟩ := withGroupGet h name kind source
  let id : GroupId := ⟨s.nextGroup⟩
  have absent : s.groups.get? id = none := by
    cases found : s.groups.get? id with
    | none => rfl
    | some g => exact absurd (h.below id g found) (Nat.lt_irrefl _)
  have step := generateGroupSteady heldLasting numbered.toConsistent id
  have made := step.numbered numbered
  have left := addGroupLeaves s name kind source
  dsimp only at left
  generalize (generateGroup id (s.withGroup name kind source)).2 = u at step made left
  have held (k : GroupId) : ((u.groups.get? k).map Group.held).getD [] = ((s.groups.get? k).map Group.held).getD [] := by
    rw [step.same, get]
    split
    · rename_i same
      rw [same, absent, Option.map_some, empty]
      rfl
    · rfl
  rcases left with same | same | ⟨_, same⟩
  · rw [same]
    exact ⟨h, fun _ => .rfl⟩
  · rw [same]
    exact ⟨made, fun x => by simp only [holdsIff, held]⟩
  · rw [same]
    have removed (k : GroupId) : (u.groups.remove ⟨s.nextGroup⟩).get? k =
        if k = ⟨s.nextGroup⟩ then none else u.groups.get? k := made.groups.getRemove _ k
    refine ⟨{ made with groups := made.groups.remove id, below := ?_ }, fun x => ?_⟩
    · intro k g found
      rw [show _ = _ from removed k] at found
      split at found
      · cases found
      · exact made.below k g found
    · simp only [holdsIff, removed]
      refine exists_congr fun k => ?_
      rw [← held]
      split
      · rename_i same
        rw [step.same, get, if_pos same, Option.map_some, empty]
        rfl
      · rfl

end Sketch

namespace Regen
open Sketch (Retains Steady)
variable {imported : List ShellId} {k k' : Kernel α} {m m' : Model α} {v : Sketch α} {id : GroupId}
  {prior : Option ShellId} {old new : Group α} {x : ShellId}

theorem Adds.keeps {o : Option ShellId} (h : Adds k o k') : k'.Keeps x ↔ k.Keeps x ∨ o = some x := by
  cases h with
  | one gains => simp [gains.keeps, eq_comm]
  | none same => simp [same.keeps]

theorem Adds.unheld {o : Option ShellId} (h : Adds k o k') (issued : k.Issued) (made : o = some x) : ¬ k.Keeps x := by
  cases h with
  | one gains =>
    cases made
    exact gains.unheld issued
  | none same => cases made

section Joins
variable [Scalar α] {shell running : Option ShellId} {bad : List (GroupFailure α)}

theorem Joins.keepsIssued (h : Joins old k prior shell running bad k') (issued : k.Issued) : k'.Issued := by
  cases h with
  | joined _ _ _ _ gains => exact gains.keepsIssued issued
  | flat | alone | first | failed => exact issued

theorem Joins.keeps (h : Joins old k prior shell running bad k') (held : k'.Keeps x) : k.Keeps x ∨ running = some x := by
  cases h with
  | joined _ _ _ _ gains => exact (gains.keeps.mp held).imp_right fun same => congrArg some same.symm
  | flat | alone | first | failed => exact .inl held

theorem Joins.grows (h : Joins old k prior shell running bad k') (held : k.Keeps x) : k'.Keeps x := by
  cases h with
  | joined _ _ _ _ gains => exact gains.keeps.mpr (.inl held)
  | flat | alone | first | failed => exact held

theorem Joins.origin (h : Joins old k prior shell running bad k') (issued : k.Issued) (same : running = some x) :
    prior = some x ∨ shell = some x ∨ (k'.Keeps x ∧ ¬ k.Keeps x) := by
  cases h with
  | flat => cases same
  | alone | failed => exact .inl same
  | first _ _ made => exact .inr (.inl (made.trans same))
  | joined _ _ _ _ gains =>
    cases same
    exact .inr (.inr ⟨gains.keeps.mpr (.inr rfl), gains.unheld issued⟩)

end Joins

/-- Every shell in the kernel is imported or held by a group, and each of these is there. -/
structure Accounted (imported : List ShellId) (m : Model α) : Prop where
  numbered : m.sketch.Numbered
  issued : m.kernel.Issued
  stored : ∀ x, m.kernel.Keeps x ↔ x ∈ imported ∨ m.sketch.HoldsShell x
  apart : ∀ x ∈ imported, ¬ m.sketch.HoldsShell x

theorem Accounted.retained (h : Accounted imported m) {s : Sketch α} (step : Retains m.sketch s) :
    Accounted imported ⟨s, m.kernel⟩ := by
  obtain ⟨numbered, same⟩ := step h.numbered
  refine ⟨numbered, h.issued, fun x => (h.stored x).trans (or_congr .rfl (same x).symm), fun x member holds => ?_⟩
  exact h.apart x member ((same x).mp holds)

def Carried (s : Sketch α) (rest : List GroupId) (prior : Option ShellId) : Prop :=
  ∀ x, prior = some x → ∃ j g, j ∉ rest ∧ s.groups.get? j = some g ∧ x ∈ g.held

theorem Carried.steady {s t : Sketch α} {rest : List GroupId} (h : Carried s rest prior)
    (step : Steady Group.held s t) : Carried t rest prior := by
  intro x same
  obtain ⟨j, g, other, there, member⟩ := h x same
  obtain ⟨g', now, same⟩ := step.kept there
  exact ⟨j, g', other, now, same ▸ member⟩

theorem Carried.fewer {s : Sketch α} {some rest : List GroupId} (h : Carried s some prior) (sub : rest ⊆ some) :
    Carried s rest prior := by
  intro x same
  obtain ⟨j, g, other, there, member⟩ := h x same
  exact ⟨j, g, fun inside => other (sub inside), there, member⟩

variable [Scalar α]

theorem Remade.numbered (step : Remade id prior v k old new m) (h : v.Numbered) (found : v.groups.get? id = some old) :
    m.sketch.Numbered := by
  refine ⟨step.consistent, fun j g there => ?_⟩
  rw [step.next]
  rw [step.groups] at there
  split at there
  · rename_i same
    exact same ▸ h.below id old found
  · exact h.below j g there

theorem Remade.keepsIssued (step : Remade id prior v k old new m) (issued : k.Issued) : m.kernel.Issued := by
  obtain ⟨k₁, k₂, bad, adds, joins, _, number, _, kept, gone⟩ := step.solids
  intro x mesh there
  rw [number]
  by_cases needed : x ∈ old.held → m.sketch.HoldsShell x
  · exact joins.keepsIssued (adds.keepsIssued issued) x mesh ((kept x needed).symm.trans there)
  · obtain ⟨member, free⟩ := Classical.not_imp.mp needed
    exact nomatch (gone x member free).symm.trans there

theorem Remade.holdsAfter (step : Remade id prior v k old new m) (x : ShellId) : m.sketch.HoldsShell x ↔
    (∃ j g, j ≠ id ∧ v.groups.get? j = some g ∧ x ∈ g.held) ∨ new.shell = some x ∨ new.runningShell = some x := by
  have own : x ∈ new.held ↔ new.shell = some x ∨ new.runningShell = some x := by
    simp [Group.held, Option.mem_toList]
  rw [← own]
  constructor
  · rintro ⟨j, g, there, member⟩
    rw [step.groups] at there
    split at there
    · cases there
      exact .inr member
    · rename_i other
      exact .inl ⟨j, g, other, there, member⟩
  · rintro (⟨j, g, other, there, member⟩ | member)
    · exact ⟨j, g, by rw [step.groups, if_neg other, there], member⟩
    · exact ⟨id, new, by rw [step.groups, if_pos rfl], member⟩

theorem Remade.accounted (step : Remade id prior v k old new m) (before : Accounted imported ⟨v, k⟩)
    (found : v.groups.get? id = some old) (carried : Carried v [id] prior) : Accounted imported m := by
  obtain ⟨k₁, k₂, bad, adds, joins, _, _, _, kept, gone⟩ := step.solids
  have issued₁ := adds.keepsIssued before.issued
  have elsewhere {x : ShellId} (other : ∃ j g, j ≠ id ∧ v.groups.get? j = some g ∧ x ∈ g.held) : v.HoldsShell x := by
    obtain ⟨j, g, _, there, member⟩ := other
    exact ⟨j, g, there, member⟩
  have brought {x : ShellId} (same : prior = some x) : ∃ j g, j ≠ id ∧ v.groups.get? j = some g ∧ x ∈ g.held := by
    obtain ⟨j, g, other, there, member⟩ := carried x same
    exact ⟨j, g, by simpa using other, there, member⟩
  have final (x : ShellId) : m.kernel.Keeps x ↔ k₂.Keeps x ∧ (x ∈ old.held → m.sketch.HoldsShell x) := by
    by_cases needed : x ∈ old.held → m.sketch.HoldsShell x
    · rw [Kernel.Keeps, kept x needed]
      exact ⟨fun there => ⟨there, needed⟩, And.left⟩
    · obtain ⟨member, free⟩ := Classical.not_imp.mp needed
      rw [Kernel.Keeps, gone x member free]
      simp [needed]
  have stored {x : ShellId} (known : v.HoldsShell x ∨ x ∈ imported) : k₂.Keeps x :=
    joins.grows (adds.keeps.mpr (.inl ((before.stored x).mpr known.symm)))
  constructor
  case numbered => exact step.numbered before.numbered found
  case issued => exact step.keepsIssued before.issued
  case stored =>
    intro x
    rw [final]
    constructor
    · rintro ⟨there, needed⟩
      rcases joins.keeps there with first | joined
      · rcases adds.keeps.mp first with already | made
        · rcases (before.stored x).mp already with part | ⟨j, g, there, member⟩
          · exact .inl part
          · by_cases same : j = id
            · rw [same, found] at there
              cases there
              exact .inr (needed member)
            · exact .inr ((step.holdsAfter x).mpr (.inl ⟨j, g, same, there, member⟩))
        · exact .inr ((step.holdsAfter x).mpr (.inr (.inl made)))
      · exact .inr ((step.holdsAfter x).mpr (.inr (.inr joined)))
    · rintro (part | held)
      · refine ⟨stored (.inr part), fun member => absurd ⟨id, old, found, member⟩ (before.apart x part)⟩
      · refine ⟨?_, fun _ => held⟩
        rcases (step.holdsAfter x).mp held with other | made | running
        · exact stored (.inl (elsewhere other))
        · exact joins.grows (adds.keeps.mpr (.inr made))
        · rcases joins.origin issued₁ running with carried | made | ⟨joined, _⟩
          · exact stored (.inl (elsewhere (brought carried)))
          · exact joins.grows (adds.keeps.mpr (.inr made))
          · exact joined
  case apart =>
    intro x part held
    have already : k.Keeps x := (before.stored x).mpr (.inl part)
    rcases (step.holdsAfter x).mp held with other | made | running
    · exact before.apart x part (elsewhere other)
    · exact adds.unheld before.issued made already
    · rcases joins.origin issued₁ running with carried | made | ⟨_, fresh⟩
      · exact before.apart x part (elsewhere (brought carried))
      · exact adds.unheld before.issued made already
      · exact fresh (adds.keeps.mpr (.inl already))

theorem Remade.carried {rest : List GroupId} (step : Remade id prior v k old new m) (h : Carried v (id :: rest) prior) :
    Carried m.sketch rest prior := by
  intro x same
  obtain ⟨j, g, other, there, member⟩ := h x same
  obtain ⟨differs, later⟩ := not_or.mp (fun inside => other (List.mem_cons.mpr inside))
  exact ⟨j, g, later, by rw [step.groups, if_neg differs, there], member⟩

variable {config : EngineConfig α} {clock : Nat → Nat}

theorem regenerateGroupAccounted (h : Accounted imported m) {rest : List GroupId}
    (carried : Carried m.sketch (id :: rest) prior) {r : Except RegenError Unit}
    (run : regenerateGroup config clock id prior m = (r, m')) : Accounted imported m' ∧
      (r = .ok () → Carried m'.sketch rest prior ∧ ∃ g, m'.sketch.groups.get? id = some g) := by
  rcases generated : Sketch.generateGroup id m.sketch with ⟨made, u⟩
  have first : Steady Group.held m.sketch u := by
    have steady := Sketch.generateGroupSteady Sketch.heldLasting h.numbered.toConsistent id
    rw [generated] at steady
    exact steady
  have second := Sketch.solveGroupSteady Sketch.heldLasting first.consistent id config.solver clock
  have both := first.trans second
  rcases regenerateGroupResult prior h.issued generated rfl second.consistent with
    ⟨e, s, failed, left⟩ | ⟨old, new, m₁, _, found, done, remade⟩
  · obtain ⟨rfl, rfl⟩ := Prod.mk.inj (failed.symm.trans run)
    refine ⟨?_, nofun⟩
    rcases left with same | same
    · exact same ▸ h.retained first.retains
    · exact same ▸ h.retained both.retains
  · obtain ⟨rfl, rfl⟩ := Prod.mk.inj (done.symm.trans run)
    have there := carried.steady both
    refine ⟨remade.accounted (h.retained both.retains) found (there.fewer ?_), fun _ => ⟨remade.carried there, new, ?_⟩⟩
    · exact List.cons_subset_cons id (List.nil_subset rest)
    · rw [remade.groups, if_pos rfl]

theorem visitAccounted (h : Accounted imported m) {rest : List GroupId} (fresh : id ∉ rest) {p : Progress α}
    (carried : Carried m.sketch (id :: rest) (p.previous.bind Prod.snd)) {r : Except RegenError (Progress α)}
    (run : visit config clock p id m = (r, m')) : Accounted imported m' ∧
      ∀ p', r = .ok p' → Carried m'.sketch rest (p'.previous.bind Prod.snd) := by
  cases r with
  | error e =>
    refine ⟨?_, fun p' same => by cases same⟩
    rcases visitError run with ⟨_, rfl⟩ | stops | ⟨made, _⟩
    · exact h
    · exact (regenerateGroupAccounted h carried stops).1
    · exact (regenerateGroupAccounted h carried made).1
  | ok p' =>
    obtain ⟨g, now, needed, _, there, _, skipped, anew, _, previous, _⟩ := visitRun run
    obtain ⟨accounted, still⟩ : Accounted imported m' ∧ Carried m'.sketch rest (p.previous.bind Prod.snd) := by
      cases needed with
      | false =>
        obtain rfl := skipped rfl
        exact ⟨h, carried.fewer (List.subset_cons_self id rest)⟩
      | true =>
        obtain ⟨accounted, left⟩ := regenerateGroupAccounted h carried (anew rfl)
        exact ⟨accounted, (left rfl).1⟩
    refine ⟨accounted, fun p' same => ?_⟩
    cases same
    -- What is carried on: the running shell of this group, or what was carried before.
    intro x next
    rw [previous] at next
    split at next
    · have running : now.runningShell = some x := next
      exact ⟨id, now, fresh, there, by simp [Group.held, running]⟩
    · exact still x next

theorem visitsAccounted {order : List GroupId} (h : Accounted imported m) (once : order.Nodup) {p : Progress α}
    (carried : Carried m.sketch order (p.previous.bind Prod.snd)) {r : Except RegenError (Progress α)}
    (run : order.foldlM (visit config clock) p m = (r, m')) : Accounted imported m' := by
  induction order generalizing m p with
  | nil =>
    cases run
    exact h
  | cons id rest ih =>
    obtain ⟨fresh, later⟩ := List.nodup_cons.mp once
    rw [List.foldlM_cons] at run
    rcases Attempt.bindRun run with ⟨e, stops, rfl⟩ | ⟨p', m₁, first, remaining⟩
    · exact (visitAccounted h fresh carried stops).1
    · obtain ⟨accounted, left⟩ := visitAccounted h fresh carried first
      exact ih accounted later (left p' rfl) remaining

theorem passAccounted (h : Accounted imported m) {r : Except RegenError (RegenReport α)}
    (run : pass config clock m = (r, m')) : Accounted imported m' := by
  rcases passRun run with ⟨e, _, _, rfl⟩ | ⟨order, made, sorted, visits, _⟩
  · exact h
  · exact visitsAccounted h (Sketch.regenerationOrderIsOrder sorted).once (fun x same => by cases same) visits

theorem allAccounted (h : Accounted imported m) {r : Except RegenError (RegenReport α)}
    (run : all config clock m = (r, m')) : Accounted imported m' := by
  have marked := Sketch.Changes.steady Sketch.heldLasting (Sketch.dirtyAll m.sketch.groups.keys m.sketch).changes h.numbered.toConsistent
  exact passAccounted (h.retained marked.retains) (allRun run)

theorem startingAtAccounted (h : Accounted imported m) {r : Except RegenError (RegenReport α)}
    (run : startingAt config clock id m = (r, m')) : Accounted imported m' := by
  rcases startingAtRun run with ⟨_, rfl⟩ | ⟨_, passed⟩
  · exact h
  · have marked := (Sketch.Change.adjusted (.dirty m.sketch id)).steady Sketch.heldLasting h.numbered.toConsistent
    exact passAccounted (h.retained marked.retains) passed

end Regen
def Command.recent (names : List String) : Command α → List String
  | regenerateAll | regenerateFrom _ => []
  | snapshot name => name :: names
  | _ => names

/-- Whether a command leaves the sketch and the kernel in place: no other sketch is taken up than one of the
snapshots since the last pass, whose shells are still there. -/
def Command.Stays (names : List String) : Command α → Prop
  | withoutKernel | reset => False
  | restore name => name ∈ names
  | _ => True

namespace Session
open Attempt Sketch
open Regen (Accounted)
variable [Scalar α] {s t : Session α} {names : List String} {clock : Nat → Nat}
  {r : Except (SessionError α) (Answer α)}

/-- Sessions that commands lead to, whatever comes of each of them, with the snapshots since the last pass. -/
inductive Course (config : EngineConfig α) : Session α → List String → Prop
  | start : Course config (start config) []
  | step {s t : Session α} {names : List String} {clock : Nat → Nat} {c : Command α}
      {r : Except (SessionError α) (Answer α)} (earlier : Course config s names) (stays : c.Stays names)
      (run : perform clock c s = (r, t)) : Course config t (c.recent names)

structure Sound (s : Session α) (names : List String) : Prop where
  model : Accounted (s.parts.map Prod.snd) s.model
  recent : ∀ n ∈ names, ∃ u, s.snapshots.lookup n = some u ∧ u.Numbered ∧
    ∀ x, u.HoldsShell x ↔ s.sketch.HoldsShell x

omit [Scalar α] in
theorem Sound.withSketch {u : Sketch α} (h : s.Sound names) (step : Retains s.sketch u) :
    (s.withSketch u).Sound names where
  model := h.model.retained step
  recent n member := by
    obtain ⟨v, found, numbered, same⟩ := h.recent n member
    exact ⟨v, found, numbered, fun x => (same x).trans ((step h.model.numbered).2 x).symm⟩

omit [Scalar α] in
theorem startSound (config : EngineConfig α) : (start config).Sound [] where
  model := by
    have nothing (x : ShellId) : ¬ (start config).model.kernel.Keeps x := by
      rintro ⟨m, found⟩
      change (∅ : Std.HashMap ShellId (Mesh α))[x]? = some m at found
      simp at found
    have unheld (x : ShellId) : ¬ (start config).model.sketch.HoldsShell x := by
      rintro ⟨k, g, found, _⟩
      change ({} : Registry GroupId (Group α)).get? k = some g at found
      simp [Registry.get?] at found
    refine ⟨⟨startConsistent, fun k g found => ?_⟩, fun x m found => absurd ⟨m, found⟩ (nothing x), fun x => ?_, ?_⟩
    · change ({} : Registry GroupId (Group α)).get? k = some g at found
      simp [Registry.get?] at found
    · refine ⟨fun there => absurd there (nothing x), ?_⟩
      rintro (part | held)
      · cases part
      · exact absurd held (unheld x)
    · simp [start]
  recent n member := nomatch member

theorem performEditRetains {c : Command α} (edit : c.IsEdit) (h : s.sketch.Consistent) (run : perform clock c s = (r, t)) :
    ∃ u, t = s.withSketch u ∧ Retains s.sketch u := by
  obtain ⟨u, same, steps | ⟨name, kind, source, made, added, _⟩⟩ := performEditResult edit run
  · exact ⟨u, same, (Changes.steady heldLasting steps h).retains⟩
  · have retained := addGroupRetains (s := s.sketch) name kind source
    rw [added] at retained
    exact ⟨u, same, retained⟩

omit [Scalar α] in
theorem changeGroupRetains {s : Sketch α} {group : GroupId} {g : Group α} (found : s.groups.get? group = some g)
    (changes : List (GroupChange α)) : Retains s (s.modifyGroup group fun _ => changes.foldl GroupChange.apply g) := by
  intro h
  have named : g.id = group := h.groups.keyOfGet found
  have same := GroupChange.allKeep (f := Group.id) (fun _ c => by cases c <;> rfl) changes g
  have kept := GroupChange.allKeep (f := Group.held) (fun _ c => by cases c <;> rfl) changes g
  have step : Steady Group.held s (s.modifyGroup group fun _ => changes.foldl GroupChange.apply g) :=
    steadyRecord h.toConsistent group (fun _ _ => same.trans named) fun g' found' => by
      rw [found] at found'
      cases found'
      exact kept
  exact step.retains h

omit [Scalar α] in
theorem regeneratingSound {work : Regen α (RegenReport α)}
    (kept : ∀ r m, work s.model = (r, m) → Accounted (s.parts.map Prod.snd) m)
    (run : Work.regenerating work s = (r, t)) : t.Sound [] := by
  obtain ⟨same, passed⟩ := regeneratingRun run
  have parts : t.parts = s.parts := by rw [same]
  refine ⟨parts ▸ ?_, fun n member => nomatch member⟩
  obtain ⟨_, passed, _⟩ | ⟨_, passed, _⟩ := passed <;> exact kept _ _ passed

omit [Scalar α] in
theorem Sound.imported (h : s.Sound names) (name : String) {mesh : Mesh α} {shell : ShellId} {kernel : Kernel α}
    (made : s.model.kernel.importMesh mesh = .ok (shell, kernel)) :
    Sound { s with model.kernel := kernel, parts := (name, shell) :: s.parts } names := by
  have gains := Kernel.importGains made
  refine ⟨⟨h.model.numbered, gains.keepsIssued h.model.issued, fun x => ?_, ?_⟩, h.recent⟩
  · rw [gains.keeps, h.model.stored]
    simp only [List.map_cons, List.mem_cons]
    tauto
  · intro x member holds
    rcases List.mem_cons.mp member with rfl | before
    · exact gains.unheld h.model.issued ((h.model.stored _).mpr (.inr holds))
    · exact h.model.apart x before holds

omit [Scalar α] in
theorem Sound.noted (h : s.Sound names) (name : String) :
    Sound { s with snapshots := (name, s.sketch) :: s.snapshots } (name :: names) := by
  refine ⟨h.model, fun n member => ?_⟩
  by_cases same : n = name
  · exact ⟨s.sketch, by simp [same], h.model.numbered, fun _ => .rfl⟩
  · obtain ⟨u, found, rest⟩ := h.recent n ((List.mem_cons.mp member).resolve_left same)
    refine ⟨u, ?_, rest⟩
    rw [List.lookup_cons, beq_eq_false_iff_ne.mpr same]
    exact found

theorem performSound {c : Command α} (h : s.Sound names) (stays : c.Stays names)
    (run : perform clock c s = (r, t)) : t.Sound (c.recent names) := by
  by_cases edit : c.IsEdit
  · have same : c.recent names = names := by cases c <;> first | rfl | exact edit.elim
    rw [same]
    obtain ⟨u, rfl, retained⟩ := performEditRetains edit h.model.numbered.toConsistent run
    exact h.withSketch retained
  cases c with
  | changeGroup group changes =>
    obtain ⟨g, found, _, rfl⟩ | ⟨_, _, _, rfl⟩ := changeGroupRun run
    · exact h.withSketch (changeGroupRetains found changes)
    · exact h
  | solve group config =>
    cases run
    exact h.withSketch (solveGroupSteady heldLasting h.model.numbered.toConsistent group config clock).retains
  | regenerateAll => exact regeneratingSound (fun r m passed => Regen.allAccounted h.model passed) run
  | regenerateFrom group => exact regeneratingSound (fun r m passed => Regen.startingAtAccounted h.model passed) run
  | importPart name triangles =>
    obtain ⟨shell, kernel, imported, _, rfl⟩ | ⟨_, _, _, rfl⟩ := importPartRun run
    · exact h.imported name imported
    · exact h
  | snapshot name =>
    cases run
    exact h.noted name
  | restore name =>
    obtain ⟨u, found, numbered, same⟩ := h.recent name stays
    obtain ⟨_, ⟨missing, _⟩ | ⟨u', there, rfl⟩⟩ := restoreRun run
    · cases found.symm.trans missing
    · cases found.symm.trans there
      exact h.withSketch fun _ => ⟨numbered, same⟩
  | withoutKernel | reset => exact stays.elim
  | _ => exact absurd trivial edit

theorem courseSound {config : EngineConfig α} (h : Course config s names) : s.Sound names := by
  induction h with
  | start => exact startSound config
  | step _ stays run ih => exact performSound ih stays run

end Session
end Drafting
