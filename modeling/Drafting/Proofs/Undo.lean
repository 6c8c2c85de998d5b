import Drafting.Proofs.Running
import Drafting.Proofs.Shedding
/-! Shells and snapshots. A pass forgets the shells that no group of the sketch holds any more, though groups
of a snapshot may hold them; after such a snapshot has been restored they are missing, until every group has
been made anew. -/
namespace Drafting

/-- What is known of the shells that groups hold: whether those of the sketch are all there, and of which
snapshots they are. -/
structure Trust where
  whole : Bool
  names : List String

/-- What is known after one more command, done or failed. A pass may forget what only snapshots hold; one over
all groups makes all their shells anew. -/
def Command.trust (done : Bool) (k : Trust) : Command α → Trust
  | regenerateAll => ⟨k.whole || done, []⟩
  | regenerateFrom _ => ⟨k.whole, []⟩
  | snapshot name => ⟨k.whole, if k.whole then name :: k.names else k.names.filter (· != name)⟩
  | restore name => ⟨k.names.contains name, k.names⟩
  | _ => k

def Command.Undoes : Command α → Prop
  | withoutKernel | reset => False
  | _ => True

namespace Session
open Sketch Regen
variable [Scalar α] {config : EngineConfig α} {s t : Session α} {k : Trust} {clock : Nat → Nat}
  {r : Except (SessionError α) (Answer α)}

/-- Sessions that edits, passes, snapshots and restoring any of these lead to, whatever comes of each command. -/
inductive Undoing (config : EngineConfig α) : Session α → Trust → Prop
  | start : Undoing config (start config) ⟨true, []⟩
  | step {s t : Session α} {k : Trust} {clock : Nat → Nat} {c : Command α} {r : Except (SessionError α) (Answer α)}
      (earlier : Undoing config s k) (goes : c.Undoes) (run : perform clock c s = (r, t)) :
      Undoing config t (c.trust r.isOk k)

inductive Later (s : Session α) : Session α → Prop
  | refl : Later s s
  | step {t u : Session α} {clock : Nat → Nat} {c : Command α} {r : Except (SessionError α) (Answer α)}
      (earlier : Later s t) (goes : c.Undoes) (run : perform clock c t = (r, u)) : Later s u

structure Known (s : Session α) (k : Trust) : Prop where
  model : Sturdy s.model
  snapshots : ∀ n ∈ s.snapshots, n.2.Numbered ∧ ∀ x, n.2.HoldsShell x → s.model.kernel.Gave x
  whole : k.whole = true → ∀ x, s.sketch.HoldsShell x → s.model.kernel.Keeps x
  names : ∀ n ∈ k.names, ∃ u, s.snapshots.lookup n = some u ∧ ∀ x, u.HoldsShell x → s.model.kernel.Keeps x

omit [Scalar α] in
theorem Known.withSketch {u : Sketch α} (h : s.Known k) (step : Retains s.sketch u) : (s.withSketch u).Known k where
  model := h.model.retained step
  snapshots := h.snapshots
  whole sure x holds := h.whole sure x (((step h.model.numbered).2 x).mp holds)
  names := h.names

omit [Scalar α] in
theorem startKnown (config : EngineConfig α) : (start config).Known ⟨true, []⟩ where
  model := by
    have sound := (startSound config).model
    exact ⟨sound.numbered, sound.issued, fun x holds => sound.issued.gave ((sound.stored x).mpr (.inr holds))⟩
  snapshots _ member := nomatch member
  whole _ x holds := ((startSound config).model.stored x).mpr (.inr holds)
  names _ member := nomatch member

omit [Scalar α] in
theorem regeneratingKnown {work : Regen α (RegenReport α)} (whole : Bool) (h : s.Known k)
    (kept : ∀ r m, work s.model = (r, m) → Sheds s.model m ∧
      (Backed (fun _ => True) 0 s.model → Backed (fun _ => True) 0 m) ∧
        (∀ report, r = .ok report → whole = true → Backed (fun _ => True) 0 m))
    (run : Work.regenerating work s = (r, t)) :
    t.Known ⟨k.whole || whole && r.isOk, []⟩ ∧ s.model.kernel.Fades t.model.kernel := by
  obtain ⟨same, cases⟩ := regeneratingRun run
  obtain ⟨made, passed, succeeds⟩ : ∃ made, work s.model = (made, t.model) ∧
      (r.isOk = true → ∃ report, made = .ok report) := by
    rcases cases with ⟨report, passed, rfl⟩ | ⟨e, passed, rfl⟩
    · exact ⟨.ok report, passed, fun _ => ⟨report, rfl⟩⟩
    · exact ⟨.error e, passed, nofun⟩
  obtain ⟨⟨sturdy, fades, _⟩, still, anew⟩ := kept made t.model passed
  rw [same]
  refine ⟨⟨sturdy, fun n member => ?_, fun sure => ?_, nofun⟩, fades⟩
  · obtain ⟨numbered, given⟩ := h.snapshots n member
    exact ⟨numbered, fun x holds => (given x holds).later fades⟩
  · rcases Bool.or_eq_true _ _ ▸ sure with before | both
    · exact backedAll.mp (still (backedAll.mpr (h.whole before)))
    · obtain ⟨all, done⟩ := Bool.and_eq_true_iff.mp both
      obtain ⟨report, ok⟩ := succeeds done
      exact backedAll.mp (anew report ok all)

omit [Scalar α] in
theorem Known.imported (h : s.Known k) (name : String) {mesh : Mesh α} {shell : ShellId} {kernel : Kernel α}
    (made : s.model.kernel.importMesh mesh = .ok (shell, kernel)) :
    Known { s with model.kernel := kernel, parts := (name, shell) :: s.parts } k := by
  have gains := Kernel.importGains made
  have fades := gains.fades
  have still {x : ShellId} (there : s.model.kernel.Keeps x) : kernel.Keeps x := gains.keeps.mpr (.inl there)
  constructor
  case model => exact ⟨h.model.numbered, gains.keepsIssued h.model.issued, fun x holds => (h.model.given x holds).later fades⟩
  case snapshots =>
    intro n member
    obtain ⟨numbered, given⟩ := h.snapshots n member
    exact ⟨numbered, fun x holds => (given x holds).later fades⟩
  case whole => exact fun sure x holds => still (h.whole sure x holds)
  case names =>
    intro n member
    obtain ⟨u, found, there⟩ := h.names n member
    exact ⟨u, found, fun x holds => still (there x holds)⟩

omit [Scalar α] in
theorem Known.noted (h : s.Known k) (name : String) : Known { s with snapshots := (name, s.sketch) :: s.snapshots }
    ⟨k.whole, if k.whole then name :: k.names else k.names.filter (· != name)⟩ where
  model := h.model
  whole := h.whole
  snapshots n member := by
    rcases List.mem_cons.mp member with rfl | before
    · exact ⟨h.model.numbered, h.model.given⟩
    · exact h.snapshots n before
  names n member := by
    by_cases same : n = name
    · subst same
      have sure : k.whole = true := by
        cases whole : k.whole with
        | true => rfl
        | false => simp [whole] at member
      exact ⟨s.sketch, by simp, h.whole sure⟩
    · have before : n ∈ k.names := by
        split at member
        · exact (List.mem_cons.mp member).resolve_left same
        · exact (List.mem_filter.mp member).1
      obtain ⟨u, found, there⟩ := h.names n before
      refine ⟨u, ?_, there⟩
      rw [List.lookup_cons, beq_eq_false_iff_ne.mpr same]
      exact found

omit [Scalar α] in
theorem Known.restored {name : String} {u : Sketch α} (h : s.Known k) (found : s.snapshots.lookup name = some u) :
    (s.withSketch u).Known ⟨k.names.contains name, k.names⟩ := by
  obtain ⟨before, after, split, _⟩ := List.lookup_eq_some_iff.mp found
  obtain ⟨numbered, given⟩ := h.snapshots (name, u) (by simp [split])
  refine ⟨⟨numbered, h.model.issued, given⟩, h.snapshots, fun sure => ?_, h.names⟩
  obtain ⟨u', there, keeps⟩ := h.names name (List.contains_iff_mem.mp sure)
  cases found.symm.trans there
  exact keeps

theorem performKnown {c : Command α} (h : s.Known k) (goes : c.Undoes) (run : perform clock c s = (r, t)) :
    t.Known (c.trust r.isOk k) ∧ s.model.kernel.Fades t.model.kernel := by
  by_cases edit : c.IsEdit
  · have same : c.trust r.isOk k = k := by cases c <;> first | rfl | exact edit.elim
    rw [same]
    obtain ⟨u, rfl, retained⟩ := performEditRetains edit h.model.numbered.toConsistent run
    exact ⟨h.withSketch retained, .refl _⟩
  cases c with
  | changeGroup group changes =>
    obtain ⟨g, found, _, rfl⟩ | ⟨_, _, rfl, rfl⟩ := changeGroupRun run
    · exact ⟨h.withSketch (changeGroupRetains found changes), .refl _⟩
    · exact ⟨h, .refl _⟩
  | solve group config =>
    cases run
    have steady := solveGroupSteady heldLasting h.model.numbered.toConsistent group config clock
    exact ⟨h.withSketch steady.retains, .refl _⟩
  | regenerateAll =>
    have known := regeneratingKnown true h (fun r m passed => by
      obtain ⟨sheds, still, anew⟩ := Regen.allSheds h.model passed
      exact ⟨sheds, still, fun report ok _ => (anew report ok).lower (Nat.zero_le _)⟩) run
    rwa [Bool.true_and] at known
  | regenerateFrom group =>
    have known := regeneratingKnown false h (fun r m passed => by
      obtain ⟨sheds, still⟩ := Regen.startingAtSheds h.model passed
      exact ⟨sheds, still, fun _ _ impossible => nomatch impossible⟩) run
    rwa [Bool.false_and, Bool.or_false] at known
  | importPart name triangles =>
    obtain ⟨shell, kernel, imported, _, rfl⟩ | ⟨_, _, _, rfl⟩ := importPartRun run
    · exact ⟨h.imported name imported, (Kernel.importGains imported).fades⟩
    · exact ⟨h, .refl _⟩
  | snapshot name =>
    cases run
    exact ⟨h.noted name, .refl _⟩
  | restore name =>
    obtain ⟨_, ⟨missing, rfl⟩ | ⟨u, found, rfl⟩⟩ := restoreRun run
    · refine ⟨⟨h.model, h.snapshots, fun sure => ?_, h.names⟩, .refl _⟩
      obtain ⟨u, there, _⟩ := h.names name (List.contains_iff_mem.mp sure)
      cases missing.symm.trans there
    · exact ⟨h.restored found, .refl _⟩
  | withoutKernel | reset => exact goes.elim
  | _ => exact absurd trivial edit

theorem undoingKnown (h : Undoing config s k) : s.Known k := by
  induction h with
  | start => exact startKnown config
  | step _ goes run ih => exact (performKnown ih goes run).1

theorem laterFades (h : s.Known k) (later : Later s t) : (∃ k', t.Known k') ∧ s.model.kernel.Fades t.model.kernel := by
  induction later with
  | refl => exact ⟨⟨k, h⟩, .refl _⟩
  | step _ goes run ih =>
    obtain ⟨⟨k', known⟩, fades⟩ := ih
    obtain ⟨known', fades'⟩ := performKnown known goes run
    exact ⟨⟨_, known'⟩, fades.trans fades'⟩

/- The shells of the sketch are there as long as nothing is restored from before the last pass, and again once
every group has been made anew; so are those of snapshots taken in the meantime. A handle never stands for
another shell later, and for nothing once a pass over all groups has been completed. -/
theorem shellsAfterUndo (h : Undoing config s k) :
    (k.whole = true → ∀ g ∈ s.sketch.groups.toList, ∀ x ∈ g.held, x ∈ s.model.kernel.shells) ∧
    (∀ name ∈ k.names, ∃ u, s.snapshots.lookup name = some u ∧
      ∀ g ∈ u.groups.toList, ∀ x ∈ g.held, x ∈ s.model.kernel.shells) ∧
    (∀ t, Later s t → ∀ x, (s.sketch.HoldsShell x ∨ ∃ n ∈ s.snapshots, n.2.HoldsShell x) →
      t.model.kernel.shells[x]? = s.model.kernel.shells[x]? ∨ t.model.kernel.shells[x]? = none) ∧
    ∀ clock report t, perform clock .regenerateAll s = (.ok (.report report), t) → ∀ u, Later t u →
      ∀ g ∈ s.sketch.groups.toList, ∀ x ∈ g.held, x ∉ u.model.kernel.shells := by
  have known := undoingKnown h
  have stored {k : Kernel α} {x : ShellId} : x ∈ k.shells ↔ k.Keeps x := by
    rw [Std.HashMap.mem_iff_isSome_getElem?, Option.isSome_iff_exists]
    rfl
  refine ⟨fun sure g member x held => ?_, fun name listed => ?_, fun t later x anywhere => ?_,
    fun clock report t ok u later g member x held there => ?_⟩
  · exact stored.mpr (known.whole sure x ⟨g.id, g, known.model.numbered.groups.getOfMem member, held⟩)
  · obtain ⟨u, found, there⟩ := known.names name listed
    obtain ⟨before, after, split, _⟩ := List.lookup_eq_some_iff.mp found
    have numbered := (known.snapshots (name, u) (by simp [split])).1
    exact ⟨u, found, fun g member x held => stored.mpr (there x ⟨g.id, g, numbered.groups.getOfMem member, held⟩)⟩
  · refine (laterFades known later).2.shells x ?_
    rcases anywhere with now | ⟨n, member, holds⟩
    · exact known.model.given x now
    · exact (known.snapshots n member).2 x holds
  · have holds : s.model.sketch.HoldsShell x := ⟨g.id, g, known.model.numbered.groups.getOfMem member, held⟩
    obtain ⟨after, fades⟩ := performKnown known (by trivial) ok
    have passed : Regen.all s.config clock s.model = _ := regeneratingReport ok
    have gone := Regen.allForgets known.model passed holds
    have still := (laterFades after later).2.shells x ((known.model.given x holds).later fades)
    obtain ⟨mesh, found⟩ := stored.mp there
    rcases still with same | none
    · exact nomatch found.symm.trans (same.trans gone)
    · exact nomatch found.symm.trans none

theorem tendedUndoing {last : List GroupId} {faithful : GroupId → Prop} (h : Tended config s last faithful) :
    ∃ names, Undoing config s ⟨true, names⟩ := by
  induction h with
  | start => exact ⟨[], .start⟩
  | @tend s t last faithful clock c answer _ tends ok ih =>
    obtain ⟨names, earlier⟩ := ih
    cases c with
    | changeGroup | regenerateAll | regenerateFrom | withoutKernel | restore | reset => exact tends.elim
    | _ => exact ⟨_, earlier.step (by trivial) ok⟩
  | @pass s t last faithful clock c report _ passes ok ih =>
    obtain ⟨names, earlier⟩ := ih
    cases c with
    | regenerateAll | regenerateFrom => exact ⟨_, earlier.step (by trivial) ok⟩
    | _ => exact passes.elim

theorem restoredPartHolds : ∃ (s t u : Session Float) (r : Except (SessionError Float) (Answer Float)) (g : Group Float)
    (x : ShellId), s.snapshots.lookup "kept" = some s.sketch ∧ perform id (.addGroup "plan" .drawing3d none) s = (r, t) ∧
      perform id (.restore "kept") t = (.ok .done, u) ∧ Undoing .standard u ⟨true, ["kept"]⟩ ∧
      g ∈ u.sketch.groups.toList ∧ g.shell = some x ∧ x ∈ u.model.kernel.shells := by
  obtain ⟨s, t, report, g, linked, passed, member, _, _, _, x, shell⟩ := linkedPartPass
  obtain ⟨names, before⟩ := tendedUndoing linked
  have after : Undoing .standard t ⟨true, []⟩ := before.step (by trivial) passed
  let noted : Session Float := { t with snapshots := ("kept", t.sketch) :: t.snapshots }
  have snapped : perform id (.snapshot "kept") t = (.ok .done, noted) := rfl
  have kept : Undoing .standard noted ⟨true, ["kept"]⟩ := after.step (by trivial) snapped
  obtain ⟨r, v, drew⟩ : ∃ r v, perform id (.addGroup "plan" .drawing3d none) noted = (r, v) := ⟨_, _, rfl⟩
  obtain ⟨w, rfl, _⟩ := performEditResult (by trivial) drew
  have drawn : Undoing .standard (noted.withSketch w) ⟨true, ["kept"]⟩ := kept.step (by trivial) drew
  have restored : perform id (.restore "kept") (noted.withSketch w) = (.ok .done, noted) := rfl
  have back : Undoing .standard noted ⟨true, ["kept"]⟩ := drawn.step (by trivial) restored
  refine ⟨noted, _, noted, r, g, x, rfl, drew, restored, back, member, shell, ?_⟩
  exact (shellsAfterUndo back).1 rfl g member x (by simp [Group.held, shell])

end Session
end Drafting
