import Drafting.Proofs.Pass
import Drafting.Proofs.Solid
/-! Regenerating one group together with its solids. Whatever goes wrong goes wrong before the first
shell is made; from there on the work runs to its end, and the shells that the group held before are
forgotten unless some group still holds them. -/
namespace Drafting

def Group.held (g : Group α) : List ShellId := g.shell.toList ++ g.runningShell.toList

namespace Sketch

def HoldsShell (s : Sketch α) (x : ShellId) : Prop := ∃ k g, s.groups.get? k = some g ∧ x ∈ g.held

theorem heldAnywhere {s : Sketch α} (h : s.groups.Consistent) {x : ShellId} :
    (s.groups.toList.any fun g => g.shell == some x || g.runningShell == some x) = true ↔ s.HoldsShell x := by
  rw [List.any_eq_true]
  constructor
  · rintro ⟨g, member, holds⟩
    exact ⟨g.id, g, h.getOfMem member, by simpa [Group.held, Option.mem_toList] using holds⟩
  · rintro ⟨k, g, found, holds⟩
    exact ⟨g, Registry.memOfGet found, by simpa [Group.held, Option.mem_toList] using holds⟩

end Sketch

namespace Regen
open Kernel (Same Gains)
variable {k k' : Kernel α} {m m' : Model α} {g : Group α} {x : ShellId}

inductive Adds (k : Kernel α) : Option ShellId → Kernel α → Prop
  | one {s : ShellId} {m : Mesh α} {k' : Kernel α} (gains : Gains k s m k') : Adds k (some s) k'
  | none {k' : Kernel α} (same : Same k k') : Adds k none k'

/-- How the solid of a group goes on from that of all before it. -/
inductive Joins [Scalar α] (g : Group α) (k : Kernel α) (prior shell : Option ShellId) :
    Option ShellId → List (GroupFailure α) → Kernel α → Prop
  | flat (drawing : g.kind.isSolid = false) : Joins g k prior shell none [] k
  | alone (solid : g.kind.isSolid = true) (missing : shell = none) : Joins g k prior shell prior [] k
  | first (solid : g.kind.isSolid = true) (start : prior = none) {new : ShellId} (made : shell = some new) :
      Joins g k prior shell (some new) [] k
  | joined {before new s : ShellId} {mesh : Mesh α} {k' : Kernel α} (solid : g.kind.isSolid = true)
      (earlier : prior = some before) (made : shell = some new)
      (result : Solids.joinedMesh before new g.combine k = .ok mesh) (gains : Gains k s mesh k') :
      Joins g k prior shell (some s) [] k'
  | failed {before new : ShellId} {e : KernelError} (solid : g.kind.isSolid = true) (earlier : prior = some before)
      (made : shell = some new) (result : Solids.joinedMesh before new g.combine k = .error e) :
      Joins g k prior shell prior [.kernel e] k

theorem readRun (f : Sketch α → Except SketchError τ) (m : Model α) : read f m = match f m.sketch with
    | .ok x => (.ok x, m)
    | .error e => (.error (.sketch e), m) := by
  rw [read, Attempt.getBind]
  cases f m.sketch <;> rfl

variable [Scalar α]

theorem loopsModel (config : LoopConfig α) (g : Group α) (m : Model α) : (loops config g m).2 = m := by
  unfold loops
  cases g.workplane with
  | none => rfl
  | some w =>
    dsimp only
    cases g.kind.isSolid with
    | true => rfl
    | false =>
      simp only [Bool.false_eq_true, if_false]
      rw [Attempt.runBind, readRun]
      cases m.sketch.frame w <;> rfl

theorem loopsSkipped (config : LoopConfig α) {g : Group α} (none : g.workplane = none ∨ g.kind.isSolid = true)
    (m : Model α) : loops config g m = (.ok (.none, []), m) := by
  unfold loops
  rcases none with same | solid
  · rw [same]
    rfl
  · cases g.workplane with
    | none => rfl
    | some w =>
      dsimp only
      rw [solid]
      rfl

theorem shellRun (g : Group α) {m : Model α} (old : m.kernel.Issued) : ∃ made bad k',
    shell g m = (.ok (made, bad), ⟨m.sketch, k'⟩) ∧ Adds m.kernel made k' := by
  unfold shell
  split
  · exact ⟨none, [], m.kernel, rfl, .none (.refl _)⟩
  · rw [Attempt.getBind, Attempt.runBind, solids]
    have leaves := m.sketch.buildShellMakes g m.kernel old
    generalize m.sketch.buildShell g m.kernel = result at leaves ⊢
    rcases result with ⟨e | s, k'⟩
    · cases leaves with
      | failed same => exact ⟨none, _, k', rfl, .none same⟩
    · cases leaves with
      | made gains => exact ⟨some s, _, k', rfl, .one gains⟩

theorem runningRun (g : Group α) (prior shell : Option ShellId) (m : Model α) : ∃ after bad k',
    running g prior shell m = (.ok (after, bad), ⟨m.sketch, k'⟩) ∧ Joins g m.kernel prior shell after bad k' := by
  unfold running
  cases solid : g.kind.isSolid with
  | false => exact ⟨none, [], m.kernel, rfl, .flat solid⟩
  | true =>
    simp only [Bool.not_true, Bool.false_eq_true, if_false]
    cases shell with
    | none => exact ⟨prior, [], m.kernel, by cases prior <;> rfl, .alone solid rfl⟩
    | some new =>
      cases prior with
      | none => exact ⟨some new, [], m.kernel, rfl, .first solid rfl rfl⟩
      | some before =>
        dsimp only
        rw [Attempt.runBind, solids]
        rcases result : Solids.join before new g.combine m.kernel with ⟨e | s, k'⟩
        · obtain ⟨refused, rfl⟩ := Solids.joinError result
          exact ⟨some before, _, m.kernel, rfl, .failed solid rfl rfl refused⟩
        · obtain ⟨mesh, joined, gains⟩ := Solids.joinOk result
          exact ⟨some s, [], k', rfl, .joined solid rfl rfl joined gains⟩

omit [Scalar α] in
theorem releasesRun (xs : List ShellId) {m : Model α} (h : m.sketch.groups.Consistent) : ∃ k',
    (xs.forM release : Regen α Unit) m = (.ok (), ⟨m.sketch, k'⟩) ∧
      (∀ x : ShellId, (x ∈ xs → m.sketch.HoldsShell x) → k'.shells[x]? = m.kernel.shells[x]?) ∧
      (∀ x ∈ xs, ¬ m.sketch.HoldsShell x → k'.shells[x]? = none) ∧
      (∀ x : ShellId, m.kernel.shells[x]? = none → k'.shells[x]? = none) ∧
      k'.issued = m.kernel.issued ∧ k'.backend = m.kernel.backend := by
  induction xs generalizing m with
  | nil => exact ⟨m.kernel, rfl, by simp⟩
  | cons y rest ih =>
    rw [List.forM_eq_forM, List.forM_cons, Attempt.runBind, release, Attempt.runModify]
    dsimp only
    by_cases holds : m.sketch.HoldsShell y
    · rw [if_pos ((Sketch.heldAnywhere h).mpr holds)]
      obtain ⟨k', run, kept, gone, still, issued, backend⟩ := ih h
      refine ⟨k', run, fun x needed => kept x fun member => needed (List.mem_cons_of_mem _ member), ?_, still,
        issued, backend⟩
      intro x member free
      rcases List.mem_cons.mp member with rfl | later
      · exact absurd holds free
      · exact gone x later free
    · rw [if_neg (fun any => holds ((Sketch.heldAnywhere h).mp any))]
      obtain ⟨k', run, kept, gone, still, issued, backend⟩ := ih (m := { m with kernel := m.kernel.discard y }) h
      have discarded (x : ShellId) : (m.kernel.discard y).shells[x]? = if x = y then none else m.kernel.shells[x]? :=
        Kernel.discardGet m.kernel y x
      refine ⟨k', run, ?_, ?_, ?_, issued, backend⟩
      · intro x needed
        have differs : x ≠ y := by
          rintro rfl
          exact holds (needed List.mem_cons_self)
        refine (kept x fun member => needed (List.mem_cons_of_mem _ member)).trans ?_
        rw [discarded, if_neg differs]
      · intro x member free
        rcases List.mem_cons.mp member with rfl | later
        · exact still x (by rw [discarded, if_pos rfl])
        · exact gone x later free
      · intro x absent
        refine still x ?_
        rw [discarded]
        split
        · rfl
        · exact absent

/-- What making a group anew on top of a shell leaves, when the sketch it was solved in and the kernel
before are given: its new record in place of the old one, and the shells in it. -/
structure Remade [Scalar α] (id : GroupId) (prior : Option ShellId) (v : Sketch α) (k : Kernel α) (old new : Group α)
    (m : Model α) : Prop where
  groups : ∀ j, m.sketch.groups.get? j = if j = id then some new else v.groups.get? j
  kind : new.kind = old.kind
  source : new.source = old.source
  combine : new.combine = old.combine
  consistent : m.sketch.Consistent
  next : m.sketch.nextGroup = v.nextGroup
  solids : ∃ k₁ k₂ bad, Adds k new.shell k₁ ∧ Joins old k₁ prior new.shell new.runningShell bad k₂ ∧
    (∀ e ∈ bad, e ∈ new.failures) ∧ m.kernel.issued = k₂.issued ∧ m.kernel.backend = k₂.backend ∧
    (∀ x : ShellId, (x ∈ old.held → m.sketch.HoldsShell x) → m.kernel.shells[x]? = k₂.shells[x]?) ∧
    ∀ x ∈ old.held, ¬ m.sketch.HoldsShell x → m.kernel.shells[x]? = none

omit [Scalar α] in
theorem Adds.keepsIssued {o : Option ShellId} (h : Adds k o k') (old : k.Issued) : k'.Issued := by
  cases h with
  | one gains => exact gains.keepsIssued old
  | none same => exact same.keepsIssued old

theorem regenerateGroupRun (config : EngineConfig α) {clock : Nat → Nat} {id : GroupId} (prior : Option ShellId)
    {u v : Sketch α} {old : Group α} {l : Option (LoopSet α) × List (GroupFailure α)} (issued : m.kernel.Issued)
    (made : Sketch.generateGroup id m.sketch = (.ok (), u)) (solved : (u.solveGroup id config.solver clock).2 = v)
    (consistent : v.Consistent) (found : v.groups.get? id = some old)
    (looked : loops config.loops old ⟨v, m.kernel⟩ = (.ok l, ⟨v, m.kernel⟩)) :
    ∃ new m', regenerateGroup config clock id prior m = (.ok (), m') ∧ Remade id prior v m.kernel old new m' ∧
      ∀ made bad m₁, shell old ⟨v, m.kernel⟩ = (.ok (made, bad), m₁) → new.shell = made := by
  obtain ⟨shell, badShell, k₁, runShell, adds⟩ := shellRun old (m := ⟨v, m.kernel⟩) issued
  obtain ⟨running, badJoin, k₂, runJoin, joins⟩ := runningRun old prior shell ⟨v, k₁⟩
  have named : old.id = id := consistent.groups.keyOfGet found
  let outcome := (u.solveGroup id config.solver clock).1
  let failures := (if outcome.status.isAcceptable then [] else [.solve outcome.status]) ++ l.2 ++ badShell ++ badJoin
  let record (g : Group α) : Group α := { g with
    loops := l.1, shell, failures, runningShell := running, clean := failures.isEmpty,
    fingerprint := some (v.fingerprint id) }
  have keeps : ∀ g, g.id = id → (record g).id = id := fun _ same => same
  have after : (v.modifyGroup id record).Consistent := consistent.modifyGroup id keeps
  obtain ⟨k₃, runRelease, kept, gone, _, number, backend⟩ :=
    releasesRun old.held (m := ⟨v.modifyGroup id record, k₂⟩) after.groups
  refine ⟨record old, ⟨v.modifyGroup id record, k₃⟩, ?_, ?_, fun made bad m₁ built => ?_⟩
  · have first := editRun made
    have second : solve config.solver clock id ⟨u, m.kernel⟩ = (.ok outcome, ⟨v, m.kernel⟩) := by
      rw [← solved]
      rfl
    have third : read (·.group id) (⟨v, m.kernel⟩ : Model α) = (.ok old, ⟨v, m.kernel⟩) := by
      rw [readRun, Sketch.groupFound.mpr found]
    refine Attempt.bindOk.mpr ⟨_, _, first, Attempt.bindOk.mpr ⟨_, _, second, Attempt.bindOk.mpr ⟨_, _, third, ?_⟩⟩⟩
    refine Attempt.bindOk.mpr ⟨_, _, looked, Attempt.bindOk.mpr ⟨_, _, runShell, ?_⟩⟩
    refine Attempt.bindOk.mpr ⟨_, _, runJoin, Attempt.bindOk.mpr ⟨(), _, Attempt.modifyOk.mpr rfl, ?_⟩⟩
    exact runRelease
  · constructor
    case groups =>
      intro j
      refine (consistent.groups.getModify id keeps j).trans ?_
      split
      · rw [found]
        rfl
      · rfl
    case kind => rfl
    case source => rfl
    case combine => rfl
    case consistent => exact after
    case next => rfl
    case solids =>
      refine ⟨k₁, k₂, badJoin, adds, ?_, fun e member => ?_, number, backend, kept, gone⟩
      · exact joins
      · exact List.mem_append_right _ member
  · cases runShell.symm.trans built
    rfl

theorem regenerateGroupResult {config : EngineConfig α} {clock : Nat → Nat} {id : GroupId} (prior : Option ShellId)
    (issued : m.kernel.Issued) {u v : Sketch α} {made : Except SketchError Unit}
    (generated : Sketch.generateGroup id m.sketch = (made, u)) (solved : (u.solveGroup id config.solver clock).2 = v)
    (consistent : v.Consistent) :
    (∃ e s, regenerateGroup config clock id prior m = (.error e, ⟨s, m.kernel⟩) ∧ (s = u ∨ s = v)) ∨
      ∃ old new m', made = .ok () ∧ v.groups.get? id = some old ∧
        regenerateGroup config clock id prior m = (.ok (), m') ∧ Remade id prior v m.kernel old new m' := by
  cases made with
  | error e =>
    have first := editStops generated
    refine .inl ⟨.sketch e, u, ?_, .inl rfl⟩
    rw [regenerateGroup, Attempt.runBind, first]
  | ok done =>
    have first : edit (Sketch.generateGroup id) m = (.ok (), ⟨u, m.kernel⟩) := editRun generated
    have second : solve config.solver clock id ⟨u, m.kernel⟩ =
        (.ok (u.solveGroup id config.solver clock).1, ⟨v, m.kernel⟩) := by
      rw [← solved]
      rfl
    cases found : v.groups.get? id with
    | none =>
      have third : read (·.group id) (⟨v, m.kernel⟩ : Model α) =
          (.error (.sketch (.groupNotFound id)), ⟨v, m.kernel⟩) := by
        rw [readRun, Sketch.group, found]
        rfl
      refine .inl ⟨.sketch (.groupNotFound id), v, ?_, .inr rfl⟩
      rw [regenerateGroup, Attempt.runBind, first]
      dsimp only
      rw [Attempt.runBind, second]
      dsimp only
      rw [Attempt.runBind, third]
    | some old =>
      have third : read (·.group id) (⟨v, m.kernel⟩ : Model α) = (.ok old, ⟨v, m.kernel⟩) := by
        rw [readRun, Sketch.groupFound.mpr found]
      have same := loopsModel config.loops old ⟨v, m.kernel⟩
      rcases looked : loops config.loops old ⟨v, m.kernel⟩ with ⟨e | l, m₁⟩
      · rw [looked] at same
        refine .inl ⟨e, v, ?_, .inr rfl⟩
        rw [regenerateGroup, Attempt.runBind, first]
        dsimp only
        rw [Attempt.runBind, second]
        dsimp only
        rw [Attempt.runBind, third]
        dsimp only
        rw [Attempt.runBind, looked]
        exact congrArg _ same
      · rw [looked] at same
        obtain rfl := same
        obtain ⟨new, m', run, remade, _⟩ := regenerateGroupRun config prior issued generated solved consistent found looked
        exact .inr ⟨old, new, m', rfl, rfl, run, remade⟩

end Regen
end Drafting
