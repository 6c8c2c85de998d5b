import Drafting.Proofs.Passes
import Drafting.Proofs.Shells
/-! What making groups anew does to the shells. A handle that has been given out never stands for another shell.
A pass loses no shell of a group that held only shells that are there; one over all groups makes all of them
anew, and leaves none that a group held before. -/
namespace Drafting

namespace Kernel
variable {k k' k'' : Kernel α} {s x : ShellId} {m : Mesh α}

def Gave (k : Kernel α) (x : ShellId) : Prop := x.number < firstShell + k.issued

structure Fades (k k' : Kernel α) : Prop where
  issued : k.issued ≤ k'.issued
  shells : ∀ x, k.Gave x → k'.shells[x]? = k.shells[x]? ∨ k'.shells[x]? = none

theorem Gave.later (h : k.Gave x) (step : Fades k k') : k'.Gave x := by
  have more := step.issued
  unfold Gave at h ⊢
  omega

theorem Issued.gave (h : k.Issued) (there : k.Keeps x) : k.Gave x := by
  obtain ⟨m, found⟩ := there
  exact h x m found

theorem Fades.refl (k : Kernel α) : Fades k k := ⟨Nat.le_refl _, fun _ _ => .inl rfl⟩

theorem Fades.trans (first : Fades k k') (next : Fades k' k'') : Fades k k'' := by
  refine ⟨Nat.le_trans first.issued next.issued, fun x gave => ?_⟩
  rcases next.shells x (gave.later first) with same | gone
  · exact (first.shells x gave).imp same.trans same.trans
  · exact .inr gone

theorem Same.fades (h : Same k k') : Fades k k' := ⟨h.issued, fun x _ => .inl (h.shells x)⟩

theorem Gains.unissued (h : Gains k s m k') : ¬ k.Gave s := Nat.not_lt.mpr h.fresh

theorem Gains.fades (h : Gains k s m k') : Fades k k' := by
  have fresh := h.fresh
  have issued := h.issued
  refine ⟨by omega, fun x gave => .inl ?_⟩
  rw [h.shells, if_neg]
  intro same
  unfold Gave at gave
  rw [same] at gave
  omega

end Kernel

namespace Sketch
variable [Scalar α] {s t : Sketch α} {j : GroupId}

def Dirty (s : Sketch α) (j : GroupId) : Prop := ∀ g, s.groups.get? j = some g → g.clean = false

omit [Scalar α] in
theorem dirtyRecord (h : s.groups.Consistent) (id : GroupId) {f : Group α → Group α} (keeps : ∀ g, g.id = id → (f g).id = id)
    (marks : ∀ g, g.clean = false → (f g).clean = false) (dirty : s.Dirty j) :
    ∀ g, (s.groups.modify id f).get? j = some g → g.clean = false := by
  intro g found
  obtain ⟨g', there, rfl⟩ := (h.foundModify id keeps).mp found
  split
  · exact marks g' (dirty g' there)
  · exact dirty g' there

theorem Changes.dirty (steps : Changes s t) (h : s.Consistent) (dirty : s.Dirty j) : t.Dirty j := by
  induction steps with
  | refl => exact dirty
  | tail steps step ih =>
    have before := Changes.steady heldLasting steps h
    rcases step.groups.2 with same | ⟨id, same⟩
    · unfold Dirty
      rw [same]
      exact ih
    · unfold Dirty
      rw [same]
      exact dirtyRecord before.consistent.groups id (fun _ same => same) (fun _ _ => rfl) ih

theorem solveGroupDirty (h : s.Consistent) (id : GroupId) (config : SolverConfig α) (clock : Nat → Nat) (dirty : s.Dirty j) :
    (s.solveGroup id config clock).2.Dirty j := by
  refine solveGroupKeeps (P := (·.Dirty j)) h dirty (fun u outcome steps => ?_) config clock
  have kept := Changes.steady heldLasting steps.changes h
  exact dirtyRecord kept.consistent.groups id (fun _ same => same) (fun _ dirty => dirty) (steps.changes.dirty h dirty)

theorem generateGroupDirty (h : s.Consistent) (id : GroupId) (dirty : s.Dirty j) : (generateGroup id s).2.Dirty j := by
  cases found : s.groups.get? id with
  | none =>
    rw [generateGroupMissing found]
    exact dirty
  | some g =>
    rw [generateGroupRun found (h.groups.keyOfGet found)]
    cases made : s.copied g with
    | error e =>
      unfold Dirty
      rw [redrawnRecords]
      exact dirty
    | ok c =>
      unfold Dirty
      rw [(regrownSpec h.params (copiedFits h.entities made)).groups]
      split
      · exact dirtyRecord h.groups g.id (fun _ same => same) (fun _ dirty => dirty) dirty
      · exact dirty

end Sketch

namespace Regen
open Sketch (Steady Retains Dirty)
variable {P : GroupId → Prop} {k k' : Kernel α} {m m' : Model α} {v : Sketch α} {id : GroupId}
  {prior : Option ShellId} {old new : Group α} {x : ShellId} {n : Nat}

theorem Adds.fades {o : Option ShellId} (h : Adds k o k') : k.Fades k' := by
  cases h with
  | one gains => exact gains.fades
  | none same => exact same.fades

theorem Adds.unissued {o : Option ShellId} (h : Adds k o k') (made : o = some x) : ¬ k.Gave x := by
  cases h with
  | one gains => exact Option.some.inj made ▸ gains.unissued
  | none => cases made

def Progress.carries (p : Progress α) : Option ShellId := p.previous.bind Prod.snd

def Backed (P : GroupId → Prop) (n : Nat) (m : Model α) : Prop :=
  ∀ j g, P j → m.sketch.groups.get? j = some g → ∀ x ∈ g.held, m.kernel.Keeps x ∧ n ≤ x.number

theorem backedAll : Backed (fun _ => True) 0 m ↔ ∀ x, m.sketch.HoldsShell x → m.kernel.Keeps x := by
  constructor
  · intro h x holds
    obtain ⟨j, g, found, member⟩ := holds
    exact (h j g trivial found x member).1
  · intro h j g _ found x member
    exact ⟨h x ⟨j, g, found, member⟩, Nat.zero_le _⟩

theorem Backed.steady (h : Backed P n m) {s : Sketch α} (step : Steady Group.held m.sketch s) : Backed P n ⟨s, m.kernel⟩ := by
  intro j g inside found x member
  obtain ⟨g', there, same⟩ := step.before found
  exact h j g' inside there x (same.symm ▸ member)

theorem Backed.fewer {Q : GroupId → Prop} (h : Backed P n m) (fewer : ∀ j, Q j → P j) : Backed Q n m :=
  fun j g inside => h j g (fewer j inside)

theorem Backed.lower (h : Backed P n m) {n' : Nat} (low : n' ≤ n) : Backed P n' m := by
  intro j g inside found x member
  obtain ⟨there, above⟩ := h j g inside found x member
  exact ⟨there, Nat.le_trans low above⟩

structure Sturdy (m : Model α) : Prop where
  numbered : m.sketch.Numbered
  issued : m.kernel.Issued
  given : ∀ x, m.sketch.HoldsShell x → m.kernel.Gave x

theorem Sturdy.retained (h : Sturdy m) {s : Sketch α} (step : Retains m.sketch s) : Sturdy ⟨s, m.kernel⟩ := by
  obtain ⟨numbered, same⟩ := step h.numbered
  exact ⟨numbered, h.issued, fun x holds => h.given x ((same x).mp holds)⟩

/-- What happens to the shells on the way from one model to another: none is taken from a group and left behind. -/
structure Sheds (m m' : Model α) : Prop where
  sturdy : Sturdy m'
  fades : m.kernel.Fades m'.kernel
  spent : ∀ x, m.kernel.Gave x → m.sketch.HoldsShell x ∨ m.kernel.shells[x]? = none →
    m'.sketch.HoldsShell x ∨ m'.kernel.shells[x]? = none

theorem Sheds.refl (h : Sturdy m) : Sheds m m := ⟨h, .refl _, fun _ _ spent => spent⟩

theorem Sheds.trans {m'' : Model α} (first : Sheds m m') (next : Sheds m' m'') : Sheds m m'' where
  sturdy := next.sturdy
  fades := first.fades.trans next.fades
  spent x gave spent := next.spent x (gave.later first.fades) (first.spent x gave spent)

theorem Sheds.steady (h : Sturdy m) {s : Sketch α} (step : Steady Group.held m.sketch s) : Sheds m ⟨s, m.kernel⟩ where
  sturdy := h.retained step.retains
  fades := .refl _
  spent x _ spent := spent.imp_left (step.holds x).mpr

variable [Scalar α]

theorem Joins.fades {shell running : Option ShellId} {bad : List (GroupFailure α)}
    (h : Joins old k prior shell running bad k') : k.Fades k' := by
  cases h with
  | joined _ _ _ _ gains => exact gains.fades
  | flat | alone | first | failed => exact .refl k

theorem Joins.unissued {shell running : Option ShellId} {bad : List (GroupFailure α)} (h : Joins old k prior shell running bad k')
    (same : running = some x) : prior = some x ∨ shell = some x ∨ k'.Keeps x ∧ ¬ k.Gave x := by
  cases h with
  | flat => cases same
  | alone | failed => exact .inl same
  | first _ _ made => exact .inr (.inl (made.trans same))
  | joined _ _ _ _ gains =>
    cases same
    exact .inr (.inr ⟨gains.keeps.mpr (.inr rfl), gains.unissued⟩)

section Remade
variable (step : Remade id prior v k old new m)
include step

theorem Remade.fades : k.Fades m.kernel := by
  obtain ⟨k₁, k₂, bad, adds, joins, _, number, _, kept, gone⟩ := step.solids
  refine (adds.fades.trans joins.fades).trans ⟨number.ge, fun x _ => ?_⟩
  by_cases needed : x ∈ old.held → m.sketch.HoldsShell x
  · exact .inl (kept x needed)
  · obtain ⟨member, free⟩ := Classical.not_imp.mp needed
    exact .inr (gone x member free)

theorem Remade.holds (member : x ∈ new.held) : prior = some x ∨ m.kernel.Keeps x ∧ ¬ k.Gave x := by
  obtain ⟨k₁, k₂, bad, adds, joins, _, _, _, kept, _⟩ := step.solids
  have still (there : k₂.Keeps x) : m.kernel.Keeps x := by
    rw [Kernel.Keeps, kept x fun _ => ⟨id, new, by rw [step.groups, if_pos rfl], member⟩]
    exact there
  have own : new.shell = some x ∨ new.runningShell = some x := by simpa [Group.held, Option.mem_toList] using member
  have made (made : new.shell = some x) : m.kernel.Keeps x ∧ ¬ k.Gave x :=
    ⟨still (joins.grows (adds.keeps.mpr (.inr made))), adds.unissued made⟩
  rcases own with shell | running
  · exact .inr (made shell)
  · rcases joins.unissued running with carried | shell | ⟨joined, fresh⟩
    · exact .inl carried
    · exact .inr (made shell)
    · exact .inr ⟨still joined, fun gave => fresh (gave.later adds.fades)⟩

theorem Remade.stays (there : k.Keeps x) (holds : m.sketch.HoldsShell x) : m.kernel.Keeps x := by
  obtain ⟨k₁, k₂, bad, adds, joins, _, _, _, kept, _⟩ := step.solids
  rw [Kernel.Keeps, kept x fun _ => holds]
  exact joins.grows (adds.keeps.mpr (.inl there))

theorem Remade.sheds (h : Sturdy ⟨v, k⟩) (found : v.groups.get? id = some old)
    (given : ∀ x, prior = some x → k.Gave x) : Sheds ⟨v, k⟩ m := by
  have issued := step.keepsIssued h.issued
  refine ⟨⟨step.numbered h.numbered found, issued, fun x holds => ?_⟩, step.fades, fun x gave spent => ?_⟩
  · obtain ⟨j, g, there, member⟩ := holds
    rw [step.groups] at there
    split at there
    · cases there
      rcases step.holds member with carried | ⟨made, _⟩
      · exact (given x carried).later step.fades
      · exact issued.gave made
    · exact (h.given x ⟨j, g, there, member⟩).later step.fades
  · obtain ⟨_, _, _, _, _, _, _, _, _, gone⟩ := step.solids
    rcases spent with ⟨j, g, there, member⟩ | missing
    · by_cases same : j = id
      · rw [same, found] at there
        cases there
        exact (em (m.sketch.HoldsShell x)).imp_right (gone x member)
      · exact .inl ⟨j, g, by rw [step.groups, if_neg same, there], member⟩
    · exact .inr ((step.fades.shells x gave).elim (·.trans missing) fun none => none)

theorem Remade.backed (h : Backed P n ⟨v, k⟩) (low : n ≤ Kernel.firstShell + k.issued)
    (there : ∀ x, prior = some x → k.Keeps x ∧ n ≤ x.number) : Backed (fun j => P j ∨ j = id) n m := by
  intro j g inside found x member
  have holds : m.sketch.HoldsShell x := ⟨j, g, found, member⟩
  have stays (before : k.Keeps x ∧ n ≤ x.number) : m.kernel.Keeps x ∧ n ≤ x.number := ⟨step.stays before.1 holds, before.2⟩
  rw [step.groups] at found
  split at found
  · cases found
    rcases step.holds member with carried | ⟨made, fresh⟩
    · exact stays (there x carried)
    · exact ⟨made, Nat.le_trans low (Nat.not_lt.mp fresh)⟩
  · rename_i other
    exact stays (h j g (inside.resolve_right other) found x member)

end Remade

section Runs
variable {config : EngineConfig α} {clock : Nat → Nat} {p p' : Progress α} {rest order : List GroupId}

theorem regenerateGroupSplit (h : Sturdy m) {r : Except RegenError Unit}
    (run : regenerateGroup config clock id prior m = (r, m')) : ∃ v, Steady Group.held m.sketch v ∧
      (∀ j, m.sketch.Dirty j → v.Dirty j) ∧ ((∃ e, r = .error e ∧ m'.kernel = m.kernel ∧ m'.sketch = v) ∨
        r = .ok () ∧ ∃ old new, v.groups.get? id = some old ∧ Remade id prior v m.kernel old new m') := by
  have consistent := h.numbered.toConsistent
  rcases generated : Sketch.generateGroup id m.sketch with ⟨made, u⟩
  have first := Sketch.generateGroupSteady Sketch.heldLasting consistent id
  have marks (j : GroupId) := Sketch.generateGroupDirty consistent id (j := j)
  rw [generated] at first marks
  have second := Sketch.solveGroupSteady Sketch.heldLasting first.consistent id config.solver clock
  have marks' (j : GroupId) (dirty : m.sketch.Dirty j) :=
    Sketch.solveGroupDirty first.consistent id config.solver clock (marks j dirty)
  rcases regenerateGroupResult prior h.issued generated rfl second.consistent with
    ⟨e, s, failed, left⟩ | ⟨old, new, m₁, _, found, done, remade⟩
  · obtain ⟨rfl, rfl⟩ := Prod.mk.inj (failed.symm.trans run)
    rcases left with same | same
    · exact ⟨u, first, marks, .inl ⟨e, rfl, rfl, same⟩⟩
    · exact ⟨_, first.trans second, marks', .inl ⟨e, rfl, rfl, same⟩⟩
  · obtain ⟨rfl, rfl⟩ := Prod.mk.inj (done.symm.trans run)
    exact ⟨_, first.trans second, marks', .inr ⟨rfl, old, new, found, remade⟩⟩

theorem regenerateGroupSheds (h : Sturdy m) (given : ∀ x, prior = some x → m.kernel.Gave x)
    {r : Except RegenError Unit} (run : regenerateGroup config clock id prior m = (r, m')) :
    Sheds m m' ∧ ∀ j, j ≠ id → m.sketch.Dirty j → m'.sketch.Dirty j := by
  obtain ⟨v, steady, marks, ⟨e, _, kernel, same⟩ | ⟨_, old, new, found, remade⟩⟩ := regenerateGroupSplit h run
  · have drawn := Sheds.steady h steady
    rw [← kernel, ← same] at drawn
    exact ⟨drawn, fun j _ dirty => same ▸ marks j dirty⟩
  · have drawn := Sheds.steady h steady
    refine ⟨drawn.trans (remade.sheds drawn.sturdy found given), fun j other dirty g there => ?_⟩
    rw [remade.groups, if_neg other] at there
    exact marks j dirty g there

theorem regenerateGroupBacked (h : Sturdy m) (backed : Backed P n m) (low : n ≤ Kernel.firstShell + m.kernel.issued)
    (there : ∀ x, prior = some x → m.kernel.Keeps x ∧ n ≤ x.number) {r : Except RegenError Unit}
    (run : regenerateGroup config clock id prior m = (r, m')) :
    Backed P n m' ∧ (r = .ok () → Backed (fun j => P j ∨ j = id) n m') := by
  obtain ⟨v, steady, _, ⟨e, failed, kernel, same⟩ | ⟨_, old, new, _, remade⟩⟩ := regenerateGroupSplit h run
  · have kept := backed.steady steady
    rw [← kernel, ← same] at kept
    exact ⟨kept, fun ok => nomatch failed.symm.trans ok⟩
  · have all := remade.backed (backed.steady steady) low there
    exact ⟨all.fewer fun _ => .inl, fun _ => all⟩

omit [Scalar α] in
theorem priorNext {solid : Bool} {g : Group α} (next : p'.previous = if solid then some (id, g.runningShell) else p.previous)
    (carried : p'.carries = some x) : p.carries = some x ∨ x ∈ g.held := by
  cases solid with
  | false =>
    rw [Progress.carries, next] at carried
    exact .inl carried
  | true =>
    rw [Progress.carries, next] at carried
    have run : g.runningShell = some x := carried
    exact .inr (by simp [Group.held, run])

theorem visitSheds (h : Sturdy m) (given : ∀ x, p.carries = some x → m.kernel.Gave x)
    {r : Except RegenError (Progress α)} (run : visit config clock p id m = (r, m')) :
    Sheds m m' ∧ ∀ p', r = .ok p' → ∀ x, p'.carries = some x → m'.kernel.Gave x := by
  cases r with
  | error e =>
    rcases visitError run with ⟨_, rfl⟩ | stops | ⟨made, _⟩
    · exact ⟨.refl h, nofun⟩
    · exact ⟨(regenerateGroupSheds h given stops).1, nofun⟩
    · exact ⟨(regenerateGroupSheds h given made).1, nofun⟩
  | ok p₁ =>
    obtain ⟨g, now, needed, _, there, _, skipped, anew, _, previous, _⟩ := visitRun run
    have sheds : Sheds m m' := by
      cases needed with
      | false =>
        rw [skipped rfl]
        exact .refl h
      | true => exact (regenerateGroupSheds h given (anew rfl)).1
    refine ⟨sheds, fun p' same x carried => ?_⟩
    cases same
    rcases priorNext previous carried with before | held
    · exact (given x before).later sheds.fades
    · exact sheds.sturdy.given x ⟨id, now, there, held⟩

theorem visitsSheds (h : Sturdy m) (given : ∀ x, p.carries = some x → m.kernel.Gave x)
    {r : Except RegenError (Progress α)} (run : order.foldlM (visit config clock) p m = (r, m')) : Sheds m m' := by
  induction order generalizing m p with
  | nil =>
    cases run
    exact .refl h
  | cons id rest ih =>
    rw [List.foldlM_cons] at run
    rcases Attempt.bindRun run with ⟨e, stops, rfl⟩ | ⟨p', m₁, first, remaining⟩
    · exact (visitSheds h given stops).1
    · obtain ⟨sheds, next⟩ := visitSheds h given first
      exact sheds.trans (ih sheds.sturdy (next p' rfl) remaining)

theorem visitCarried (h : Sturdy m) (fresh : id ∉ rest) (carried : Carried m.sketch (id :: rest) p.carries)
    (ok : visit config clock p id m = (.ok p', m')) : Carried m'.sketch rest p'.carries := by
  obtain ⟨g, now, needed, _, there, _, skipped, anew, _, previous, _⟩ := visitRun ok
  have still : Carried m'.sketch rest p.carries := by
    cases needed with
    | false => exact skipped rfl ▸ carried.fewer (List.subset_cons_self id rest)
    | true =>
      obtain ⟨v, steady, _, ⟨e, failed, _⟩ | ⟨_, old, new, _, remade⟩⟩ := regenerateGroupSplit h (anew rfl)
      · exact nomatch failed
      · exact remade.carried (carried.steady steady)
  intro x same
  rcases priorNext previous same with before | held
  · exact still x before
  · exact ⟨id, now, fresh, there, held⟩

theorem visitsBacked (h : Sturdy m) (backed : Backed P n m) (low : n ≤ Kernel.firstShell + m.kernel.issued)
    (cover : ∀ j, P j ∨ j ∈ order) (dirty : ∀ j ∈ order, P j ∨ m.sketch.Dirty j) (once : order.Nodup)
    (carried : Carried m.sketch order p.carries) {r : Except RegenError (Progress α)}
    (run : order.foldlM (visit config clock) p m = (r, m')) :
    Backed P n m' ∧ ∀ p', r = .ok p' → Backed (fun _ => True) n m' := by
  induction order generalizing P m p with
  | nil =>
    cases run
    exact ⟨backed, fun _ _ => backed.fewer fun j _ => (cover j).resolve_right List.not_mem_nil⟩
  | cons id rest ih =>
    obtain ⟨fresh, later⟩ := List.nodup_cons.mp once
    have there (x : ShellId) (same : p.carries = some x) : m.kernel.Keeps x ∧ n ≤ x.number := by
      obtain ⟨j, g, other, found, member⟩ := carried x same
      exact backed j g ((cover j).resolve_right other) found x member
    have given (x : ShellId) (same : p.carries = some x) : m.kernel.Gave x := h.issued.gave (there x same).1
    rw [List.foldlM_cons] at run
    rcases Attempt.bindRun run with ⟨e, failed, rfl⟩ | ⟨p₁, m₁, first, remaining⟩
    · refine ⟨?_, nofun⟩
      rcases visitError failed with ⟨_, rfl⟩ | stops | ⟨made, _⟩
      · exact backed
      · exact (regenerateGroupBacked h backed low there stops).1
      · exact (regenerateGroupBacked h backed low there made).1
    · have sheds := (visitSheds h given first).1
      have onward := visitCarried h fresh carried first
      obtain ⟨g, now, needed, found, _, test, skipped, anew, _, _, _⟩ := visitRun first
      cases needed with
      | false =>
        obtain rfl := skipped rfl
        have clean : ¬ m₁.sketch.Dirty id := by
          intro marked
          simp [isNeeded, marked g found] at test
        have own : P id := (dirty id List.mem_cons_self).resolve_right clean
        have others (j : GroupId) : P j ∨ j ∈ rest := by
          rcases cover j with inside | member
          · exact .inl inside
          · rcases List.mem_cons.mp member with same | still
            · exact .inl (same ▸ own)
            · exact .inr still
        exact ih h backed low others (fun j member => dirty j (List.mem_cons_of_mem _ member)) later onward remaining
      | true =>
        have marks := (regenerateGroupSheds h given (anew rfl)).2
        have more := (regenerateGroupBacked h backed low there (anew rfl)).2 rfl
        have issued := sheds.fades.issued
        have others (j : GroupId) : (P j ∨ j = id) ∨ j ∈ rest := by
          rcases cover j with inside | member
          · exact .inl (.inl inside)
          · exact (List.mem_cons.mp member).imp_left .inr
        have still (j : GroupId) (member : j ∈ rest) : (P j ∨ j = id) ∨ m₁.sketch.Dirty j := by
          have other : j ≠ id := fun same => fresh (same ▸ member)
          exact (dirty j (List.mem_cons_of_mem _ member)).imp .inl (marks j other)
        obtain ⟨after, all⟩ := ih sheds.sturdy more (by omega) others still later onward remaining
        exact ⟨after.fewer fun _ => .inl, all⟩

theorem passSheds (h : Sturdy m) {r : Except RegenError (RegenReport α)} (run : pass config clock m = (r, m')) :
    Sheds m m' ∧ (Backed (fun _ => True) 0 m → Backed (fun _ => True) 0 m') ∧ ((∀ j, m.sketch.Dirty j) →
      ∀ report, r = .ok report → Backed (fun _ => True) (Kernel.firstShell + m.kernel.issued) m') := by
  rcases passRun run with ⟨e, _, rfl, rfl⟩ | ⟨order, made, sorted, visits, rfl⟩
  · exact ⟨.refl h, fun backed => backed, fun _ _ same => by cases same⟩
  have sorts := Sketch.regenerationOrderIsOrder sorted
  have nothing (x : ShellId) : ({} : Progress α).carries ≠ some x := by
    intro same
    cases same
  have carried : Carried m.sketch order ({} : Progress α).carries := fun x same => absurd same (nothing x)
  refine ⟨visitsSheds h (fun x same => absurd same (nothing x)) visits, fun backed => ?_, fun dirty report ok => ?_⟩
  · exact (visitsBacked h backed (Nat.zero_le _) (fun _ => .inl trivial) (fun _ _ => .inl trivial) sorts.once carried
      visits).1
  · -- Groups outside the order are not there.
    have outside : Backed (· ∉ order) (Kernel.firstShell + m.kernel.issued) m := by
      intro j g apart found
      refine absurd ((sorts.every j).mpr (Registry.memKeys.mpr ⟨g, Registry.memOfGet found, ?_⟩)) apart
      exact h.numbered.groups.keyOfGet found
    cases made with
    | error e => cases ok
    | ok p =>
      exact (visitsBacked h outside (Nat.le_refl _) (fun j => (em (j ∈ order)).symm) (fun j _ => .inr (dirty j)) sorts.once
        carried visits).2 p rfl

theorem markedSheds (h : Sturdy m) {s : Sketch α} (marked : Sketch.Changes m.sketch s) {r : Except RegenError (RegenReport α)}
    (run : pass config clock ⟨s, m.kernel⟩ = (r, m')) :
    Sheds m m' ∧ (Backed (fun _ => True) 0 m → Backed (fun _ => True) 0 m') ∧ ((∀ j, s.Dirty j) →
      ∀ report, r = .ok report → Backed (fun _ => True) (Kernel.firstShell + m.kernel.issued) m') := by
  have steady := Sketch.Changes.steady Sketch.heldLasting marked h.numbered.toConsistent
  have drawn := Sheds.steady h steady
  obtain ⟨sheds, whole, anew⟩ := passSheds drawn.sturdy run
  exact ⟨drawn.trans sheds, fun backed => whole (backed.steady steady), anew⟩

theorem allSheds (h : Sturdy m) {r : Except RegenError (RegenReport α)} (run : all config clock m = (r, m')) :
    Sheds m m' ∧ (Backed (fun _ => True) 0 m → Backed (fun _ => True) 0 m') ∧
      ∀ report, r = .ok report → Backed (fun _ => True) (Kernel.firstShell + m.kernel.issued) m' := by
  obtain ⟨sheds, whole, anew⟩ := markedSheds h (Sketch.dirtyAll m.sketch.groups.keys m.sketch).changes (allRun run)
  exact ⟨sheds, whole, anew fun j g found => Sketch.allDirty h.numbered.toConsistent found⟩

theorem allForgets (h : Sturdy m) {report : RegenReport α} (ok : all config clock m = (.ok report, m'))
    (holds : m.sketch.HoldsShell x) : m'.kernel.shells[x]? = none := by
  obtain ⟨sheds, _, anew⟩ := allSheds h ok
  have gave := h.given x holds
  refine (sheds.spent x gave (.inl holds)).resolve_left fun still => ?_
  obtain ⟨j, g, found, member⟩ := still
  exact Nat.not_lt.mpr (anew report rfl j g trivial found x member).2 gave

theorem startingAtSheds (h : Sturdy m) {r : Except RegenError (RegenReport α)} (run : startingAt config clock id m = (r, m')) :
    Sheds m m' ∧ (Backed (fun _ => True) 0 m → Backed (fun _ => True) 0 m') := by
  rcases startingAtRun run with ⟨_, rfl⟩ | ⟨_, passed⟩
  · exact ⟨.refl h, fun backed => backed⟩
  · obtain ⟨sheds, whole, _⟩ := markedSheds h (.single (.adjusted (.dirty m.sketch id))) passed
    exact ⟨sheds, whole⟩

end Runs

end Regen

end Drafting
