import Drafting.Proofs.Passes
import Drafting.Proofs.Shells
import Mathlib.Data.List.TakeWhile
/-! The running shell of a solid group goes on from that of the solid group before it. A pass sees to this
for every group that it makes anew; for one that it leaves as it is, this stays so as long as the same
solid group comes before it in every pass. A part linked into a sketch shows what a pass keeps in the kernel. -/
namespace Drafting

def Group.solidPart (g : Group α) : Bool × CombineAs × Option ShellId × Option ShellId × List (GroupFailure α) :=
  (g.kind.isSolid, g.combine, g.shell, g.runningShell, g.failures)

theorem solidPartLasting : Group.Lasting (Group.solidPart (α := α)) := ⟨fun _ _ => rfl, fun _ _ => rfl, fun _ _ => rfl⟩

namespace Sketch

def solids (s : Sketch α) (order : List GroupId) : List GroupId :=
  order.filter fun id => (s.groups.get? id).any (·.kind.isSolid)

def RunsTo (s : Sketch α) : Option GroupId → Option ShellId → Prop
  | none, x => x = none
  | some h, x => ∃ b, s.groups.get? h = some b ∧ b.runningShell = x

end Sketch

namespace Regen
open Sketch (Steady)

def predecessor (order : List GroupId) (id : GroupId) : Option GroupId := (order.takeWhile (· != id)).getLast?

section Continues
variable [Scalar α] {imported : List ShellId} {k k' : Kernel α} {m m' m'' : Model α} {v s : Sketch α} {id : GroupId}
  {prior : Option ShellId} {old new g g' : Group α} {x : ShellId} {P : GroupId → Prop}

/-- A group goes on from a running shell: it has the same one where it has no shell of its own, its own
where there is none before, and otherwise the two joined, or the same one and the failure to join them. -/
def Continues (k : Kernel α) (prior : Option ShellId) (g : Group α) : Prop :=
  match g.shell, prior with
  | none, _ => g.runningShell = prior
  | some new, none => g.runningShell = some new
  | some new, some before =>
    match Solids.joinedMesh before new g.combine k with
    | .ok mesh => ∃ s, g.runningShell = some s ∧ k.mesh s = .ok mesh
    | .error e => g.runningShell = some before ∧ .kernel e ∈ g.failures

def Folds (m : Model α) (h : Option GroupId) (id : GroupId) : Prop :=
  ∃ g prior, m.sketch.groups.get? id = some g ∧ m.sketch.RunsTo h prior ∧ Continues m.kernel prior g

theorem Continues.kept (h : Continues k prior g) (same : g'.solidPart = g.solidPart)
    (backend : k'.backend = k.backend)
    (meshes : ∀ x, x ∈ g.held ∨ prior = some x → k'.shells[x]? = k.shells[x]?) : Continues k' prior g' := by
  obtain ⟨_, combine, shell, running, failures⟩ : g'.kind.isSolid = g.kind.isSolid ∧ g'.combine = g.combine ∧
      g'.shell = g.shell ∧ g'.runningShell = g.runningShell ∧ g'.failures = g.failures := by
    simpa [Group.solidPart] using same
  unfold Continues at h ⊢
  rw [combine, shell, running, failures]
  cases made : g.shell with
  | none => simpa only [made] using h
  | some new =>
    cases prior with
    | none => simpa only [made] using h
    | some before =>
      have first := meshes before (.inr rfl)
      have second := meshes new (.inl (by simp [Group.held, made]))
      simp only [made] at h ⊢
      rw [Solids.joinedMeshCongr g.combine backend first second]
      cases joined : Solids.joinedMesh before new g.combine k with
      | error e => simpa only [joined] using h
      | ok mesh =>
        simp only [joined] at h ⊢
        obtain ⟨s, run, there⟩ := h
        refine ⟨s, run, Kernel.meshOk.mpr ?_⟩
        rw [meshes s (.inl (by simp [Group.held, run]))]
        exact Kernel.meshOk.mp there

/-- Some groups have kept what their running shells depend on, and the kernel the shells they hold. -/
structure Undisturbed (P : GroupId → Prop) (m m' : Model α) : Prop where
  records : ∀ j, P j → ∀ g, m.sketch.groups.get? j = some g →
    ∃ g', m'.sketch.groups.get? j = some g' ∧ g'.solidPart = g.solidPart
  backend : m'.kernel.backend = m.kernel.backend
  meshes : ∀ j, P j → ∀ g, m.sketch.groups.get? j = some g → ∀ x ∈ g.held,
    m'.kernel.shells[x]? = m.kernel.shells[x]?

omit [Scalar α] in
theorem heldOfSolidPart (same : g'.solidPart = g.solidPart) : g'.held = g.held := by
  have both : g'.shell = g.shell ∧ g'.runningShell = g.runningShell := by
    simp only [Group.solidPart, Prod.mk.injEq] at same
    exact ⟨same.2.2.1, same.2.2.2.1⟩
  rw [Group.held, Group.held, both.1, both.2]

omit [Scalar α] in
theorem Undisturbed.trans (first : Undisturbed P m m') (next : Undisturbed P m' m'') : Undisturbed P m m'' where
  records j inside g found := by
    obtain ⟨g', found', same⟩ := first.records j inside g found
    obtain ⟨g'', found'', same'⟩ := next.records j inside g' found'
    exact ⟨g'', found'', same'.trans same⟩
  backend := next.backend.trans first.backend
  meshes j inside g found x member := by
    obtain ⟨g', found', same⟩ := first.records j inside g found
    exact (next.meshes j inside g' found' x (heldOfSolidPart same ▸ member)).trans (first.meshes j inside g found x member)

omit [Scalar α] in
theorem undisturbedSteady (step : Steady Group.solidPart m.sketch s) : Undisturbed P m ⟨s, m.kernel⟩ where
  records _ _ _ found := step.kept found
  backend := rfl
  meshes _ _ _ _ _ _ := rfl

omit [Scalar α] in
theorem Undisturbed.runs (step : Undisturbed P m m') {h : Option GroupId} (before : ∀ j, h = some j → P j)
    (runs : m.sketch.RunsTo h prior) : m'.sketch.RunsTo h prior := by
  cases h with
  | none => exact runs
  | some j =>
    obtain ⟨b, there, running⟩ := runs
    obtain ⟨b', there', same⟩ := step.records j (before j rfl) b there
    simp only [Group.solidPart, Prod.mk.injEq] at same
    exact ⟨b', there', same.2.2.2.1.trans running⟩

theorem Folds.undisturbed {h : Option GroupId} (folds : Folds m h id) (own : P id) (before : ∀ j, h = some j → P j)
    (step : Undisturbed P m m') : Folds m' h id := by
  obtain ⟨g, prior, found, runs, continues⟩ := folds
  obtain ⟨g', found', same⟩ := step.records id own g found
  refine ⟨g', prior, found', step.runs before runs, continues.kept same step.backend fun x member => ?_⟩
  rcases member with held | carried
  · exact step.meshes id own g found x held
  · cases h with
    | none => cases runs.symm.trans carried
    | some j =>
      obtain ⟨b, there, running⟩ := runs
      exact step.meshes j (before j rfl) b there x (by simp [Group.held, running.trans carried])

omit [Scalar α] in
theorem Adds.mesh {o : Option ShellId} (h : Adds k o k') (issued : k.Issued) {mesh : Mesh α}
    (there : k.shells[x]? = some mesh) : k'.shells[x]? = some mesh := by
  cases h with
  | one gains => exact (gains.other issued there).2
  | none same => exact (same.shells x).trans there

theorem Joins.mesh {shell running : Option ShellId} {bad : List (GroupFailure α)}
    (h : Joins g k prior shell running bad k') (issued : k.Issued) {mesh : Mesh α} (there : k.shells[x]? = some mesh) :
    k'.shells[x]? = some mesh := by
  cases h with
  | joined _ _ _ _ gains => exact (gains.other issued there).2
  | flat | alone | first | failed => exact there

omit [Scalar α] in
theorem Adds.backend {o : Option ShellId} (h : Adds k o k') : k'.backend = k.backend := by
  cases h with
  | one gains => exact gains.backend
  | none same => exact same.backend

theorem Joins.backend {shell running : Option ShellId} {bad : List (GroupFailure α)}
    (h : Joins g k prior shell running bad k') : k'.backend = k.backend := by
  cases h with
  | joined _ _ _ _ gains => exact gains.backend
  | flat | alone | first | failed => rfl

theorem Remade.undisturbed (step : Remade id prior v k old new m) (before : Accounted imported ⟨v, k⟩) :
    Undisturbed (· ≠ id) ⟨v, k⟩ m := by
  obtain ⟨k₁, k₂, bad, adds, joins, _, _, backend, kept, _⟩ := step.solids
  have still {j : GroupId} {g : Group α} (other : j ≠ id) (found : v.groups.get? j = some g) :
      m.sketch.groups.get? j = some g := by rw [step.groups, if_neg other, found]
  refine ⟨fun j other g found => ⟨g, still other found, rfl⟩, backend.trans (joins.backend.trans adds.backend), ?_⟩
  intro j other g found x member
  obtain ⟨mesh, there⟩ := (before.stored x).mpr (.inr ⟨j, g, found, member⟩)
  rw [kept x fun _ => ⟨j, g, still other found, member⟩]
  exact (joins.mesh (adds.keepsIssued before.issued) (adds.mesh before.issued there)).trans there.symm

theorem Remade.continues (step : Remade id prior v k old new m) (before : Accounted imported ⟨v, k⟩)
    (carried : Carried v [id] prior) (solid : old.kind.isSolid = true) : Continues m.kernel prior new := by
  obtain ⟨k₁, k₂, bad, adds, joins, failures, _, backend, kept, _⟩ := step.solids
  have issued := adds.keepsIssued before.issued
  have own {x : ShellId} (member : x ∈ new.held) : m.kernel.shells[x]? = k₂.shells[x]? :=
    kept x fun _ => ⟨id, new, by rw [step.groups, if_pos rfl], member⟩
  -- The shells to be joined are both still there afterwards.
  have after {y x : ShellId} (earlier : prior = some y) (made : new.shell = some x) :
      Solids.joinedMesh y x new.combine m.kernel = Solids.joinedMesh y x old.combine k₁ := by
    rw [step.combine]
    refine Solids.joinedMeshCongr old.combine (backend.trans joins.backend) ?_ ?_
    · obtain ⟨j, g, other, there, member⟩ := carried y earlier
      obtain ⟨mesh, stored⟩ := (before.stored y).mpr (.inr ⟨j, g, there, member⟩)
      have first := adds.mesh before.issued stored
      rw [kept y fun _ => ⟨j, g, by rw [step.groups, if_neg (by simpa using other), there], member⟩]
      exact (joins.mesh issued first).trans first.symm
    · obtain ⟨mesh, stored⟩ : k₁.Keeps x := adds.keeps.mpr (.inr made)
      rw [own (by simp [Group.held, made])]
      exact (joins.mesh issued stored).trans stored.symm
  unfold Continues
  generalize shell : new.shell = own', running : new.runningShell = run at joins
  cases joins with
  | flat drawing => cases solid.symm.trans drawing
  | alone _ missing => simp only [missing]
  | first _ start made => simp only [made, start]
  | @joined y x s mesh k' _ earlier made result gains =>
    simp only [made, earlier, after earlier (shell.trans made), result]
    refine ⟨s, rfl, Kernel.meshOk.mpr ?_⟩
    rw [own (by simp [Group.held, running]), gains.shells, if_pos rfl]
  | @failed y x e _ earlier made result =>
    simp only [made, earlier, after earlier (shell.trans made), result]
    exact ⟨trivial, failures _ (by simp)⟩

theorem regenerateGroupFolds {config : EngineConfig α} {clock : Nat → Nat} (h : Accounted imported m) {rest : List GroupId}
    (carried : Carried m.sketch (id :: rest) prior) (run : regenerateGroup config clock id prior m = (.ok (), m')) :
    Steady (·.kind.isSolid) m.sketch m'.sketch ∧ Undisturbed (· ≠ id) m m' ∧
      ∀ g, m'.sketch.groups.get? id = some g → g.kind.isSolid = true → Continues m'.kernel prior g := by
  rcases generated : Sketch.generateGroup id m.sketch with ⟨made, u⟩
  have first : Steady Group.solidPart m.sketch u := by
    have steady := Sketch.generateGroupSteady solidPartLasting h.numbered.toConsistent id
    rw [generated] at steady
    exact steady
  have second := Sketch.solveGroupSteady solidPartLasting first.consistent id config.solver clock
  have both := first.trans second
  have held : Steady Group.held m.sketch (u.solveGroup id config.solver clock).2 :=
    both.coarser fun _ _ => heldOfSolidPart
  rcases regenerateGroupResult prior h.issued generated rfl second.consistent with
    ⟨e, s, failed, _⟩ | ⟨old, new, m₁, _, found, done, remade⟩
  · exact nomatch failed.symm.trans run
  obtain rfl : m₁ = m' := congrArg Prod.snd (done.symm.trans run)
  have accounted := h.retained held.retains
  have there : Carried (u.solveGroup id config.solver clock).2 [id] prior :=
    (carried.steady held).fewer (List.cons_subset_cons id (List.nil_subset rest))
  have exchanged : Steady (·.kind.isSolid) (u.solveGroup id config.solver clock).2 m₁.sketch := by
    refine ⟨remade.consistent, remade.next, fun j => ?_⟩
    rw [remade.groups]
    split
    · rename_i same
      rw [same, found, Option.map_some, Option.map_some, remade.kind]
    · rfl
  refine ⟨(both.coarser fun _ _ => congrArg Prod.fst).trans exchanged,
    (undisturbedSteady both).trans (remade.undisturbed accounted), fun g now solid => ?_⟩
  rw [remade.groups, if_pos rfl] at now
  cases now
  exact remade.continues accounted there (remade.kind ▸ solid)

end Continues

section Order
variable {xs ys : List GroupId} {id h : GroupId}

theorem predecessorAhead (member : id ∈ xs) : predecessor (xs ++ ys) id = predecessor xs id := by
  have same : (xs ++ ys).takeWhile (· != id) = xs.takeWhile (· != id) := by
    induction xs with
    | nil => cases member
    | cons x xs ih =>
      rw [List.cons_append, List.takeWhile_cons, List.takeWhile_cons]
      by_cases here : x = id
      · simp [here]
      · simp [here, ih ((List.mem_cons.mp member).resolve_left (Ne.symm here))]
  rw [predecessor, same, predecessor]

theorem predecessorNext (fresh : id ∉ xs) : predecessor (xs ++ id :: ys) id = xs.getLast? := by
  have all : ∀ x ∈ xs, (x != id) = true := by
    intro x member
    rw [bne_iff_ne]
    rintro rfl
    exact fresh member
  rw [predecessor, List.takeWhile_append_of_pos all]
  simp

theorem predecessorMem (before : predecessor xs id = some h) : h ∈ xs ∧ h ≠ id := by
  have member := List.mem_of_getLast? before
  exact ⟨(List.takeWhile_sublist _).subset member, by simpa using List.mem_takeWhile_imp member⟩

theorem solidsSteady {s t : Sketch α} (step : Steady (·.kind.isSolid) s t) (order : List GroupId) :
    t.solids order = s.solids order := by
  refine List.filter_congr fun id _ => ?_
  have same := step.same id
  cases now : t.groups.get? id <;> cases before : s.groups.get? id <;> simp_all

end Order

section Pass
variable [Scalar α] {imported : List ShellId} {config : EngineConfig α} {clock : Nat → Nat} {s : Sketch α}
  {m m' : Model α} {p p' : Progress α} {last done rest : List GroupId} {faithful : GroupId → Prop} {id : GroupId}

/-- A pass on its way. The solid groups visited go on from each other if they were made anew, or were to
be relied on and follow the same one as before; those to come still do unless what they follow was made
anew. -/
structure Underway (imported : List ShellId) (last : List GroupId) (faithful : GroupId → Prop) (s : Sketch α)
    (done rest : List GroupId) (m : Model α) (p : Progress α) : Prop where
  steady : Steady (·.kind.isSolid) s m.sketch
  accounted : Accounted imported m
  carried : Carried m.sketch rest (p.previous.bind Prod.snd)
  previous : p.previous.map Prod.fst = (s.solids done).getLast?
  runs : m.sketch.RunsTo (p.previous.map Prod.fst) (p.previous.bind Prod.snd)
  visited : p.reports.map GroupReport.group = done
  changed : ∀ h ∈ s.solids done, h ∈ p.made → h ∈ p.changed
  built : ∀ id ∈ s.solids done, id ∈ p.made ∨ faithful id ∧ predecessor last id = predecessor (s.solids done) id →
    Folds m (predecessor (s.solids done) id) id
  waiting : ∀ id ∈ rest, faithful id → (∀ h, predecessor last id = some h → h ∉ p.made) →
    Folds m (predecessor last id) id

omit [Scalar α] in
theorem Undisturbed.refl (P : GroupId → Prop) (m : Model α) : Undisturbed P m m :=
  ⟨fun _ _ g found => ⟨g, found, rfl⟩, rfl, fun _ _ _ _ _ _ => rfl⟩

structure Advance (m : Model α) (p : Progress α) (id : GroupId) (needed : Bool) (g now : Group α) (m' : Model α)
    (p' : Progress α) : Prop where
  found : m.sketch.groups.get? id = some g
  after : m'.sketch.groups.get? id = some now
  steady : Steady (·.kind.isSolid) m.sketch m'.sketch
  undisturbed : Undisturbed (· ≠ id) m m'
  test : isNeeded m.sketch g p = needed
  skipped : needed = false → m' = m
  continues : needed = true → now.kind.isSolid = true → Continues m'.kernel (p.previous.bind Prod.snd) now
  made : p'.made = p.made ++ if needed then [id] else []
  changed : p'.changed =
    if needed && (g.kind.isSolid || !sameFingerprint g.fingerprint now.fingerprint) then id :: p.changed else p.changed
  previous : p'.previous = if g.kind.isSolid then some (id, now.runningShell) else p.previous
  visited : p'.reports.map GroupReport.group = p.reports.map GroupReport.group ++ [id]

theorem visitAdvance (h : Accounted imported m) (carried : Carried m.sketch (id :: rest) (p.previous.bind Prod.snd))
    (ok : visit config clock p id m = (.ok p', m')) : ∃ needed g now, Advance m p id needed g now m' p' := by
  obtain ⟨g, now, needed, found, after, test, skipped, made, changed, previous, reports⟩ := visitRun ok
  have visited : p'.reports.map GroupReport.group = p.reports.map GroupReport.group ++ [id] := by
    rw [reports, List.map_append]
    rfl
  refine ⟨needed, g, now, ?_⟩
  cases needed with
  | false =>
    obtain rfl := skipped rfl
    exact { found, after, steady := .refl h.numbered.toConsistent, undisturbed := .refl _ _, test, skipped,
            continues := fun impossible => (nomatch impossible), made := madeNext reports, changed, previous, visited }
  | true =>
    obtain ⟨steady, undisturbed, continues⟩ := regenerateGroupFolds h carried (made rfl)
    exact { found, after, steady, undisturbed, test, skipped, continues := fun _ => continues now after,
            made := madeNext reports, changed, previous, visited }

section Advance
variable {needed : Bool} {g now : Group α} (h : Underway imported last faithful s done (id :: rest) m p)
  (step : Advance m p id needed g now m' p') (fresh : id ∉ done)
include h step

theorem solidsNext : s.solids (done ++ [id]) = s.solids done ++ if g.kind.isSolid then [id] else [] := by
  obtain ⟨g₀, first, same⟩ := h.steady.before step.found
  simp [Sketch.solids, List.filter_append, List.filter_cons, first, show g₀.kind.isSolid = g.kind.isSolid from same]

theorem previousNext : p'.previous.map Prod.fst = (s.solids (done ++ [id])).getLast? := by
  rw [solidsNext h step, step.previous]
  cases g.kind.isSolid with
  | true => simp
  | false => simpa using h.previous

theorem idleAfterIdle (quiet : needed = false) (solid : g.kind.isSolid = true) {x : GroupId}
    (before : p.previous.map Prod.fst = some x) : x ∉ p.made := by
  intro again
  have moved := h.changed x (List.mem_of_getLast? (h.previous ▸ before)) again
  obtain ⟨pair, there, rfl⟩ := Option.map_eq_some_iff.mp before
  have test := step.test
  rw [quiet] at test
  simp [isNeeded, solid, there, moved] at test

include fresh

omit step in
theorem visitedApart {x : GroupId} (member : x ∈ s.solids done) : x ≠ id := by
  rintro rfl
  exact fresh (List.mem_filter.mp member).1

omit step in
theorem previousApart (x : GroupId) (before : p.previous.map Prod.fst = some x) : x ≠ id :=
  visitedApart h fresh (List.mem_of_getLast? (h.previous ▸ before))

omit step in
theorem unmade : id ∉ p.made := by
  intro member
  obtain ⟨r, inside, same⟩ := List.mem_map.mp member
  have visited : r.group ∈ p.reports.map GroupReport.group := List.mem_map_of_mem (List.mem_filter.mp inside).1
  rw [h.visited, same] at visited
  exact fresh visited

theorem madeBefore {x : GroupId} (member : x ∈ s.solids done) (again : x ∈ p'.made) : x ∈ p.made := by
  rw [step.made, List.mem_append] at again
  refine again.resolve_right fun new => visitedApart h fresh member ?_
  cases needed <;> simp at new
  exact new

theorem runsNext : m'.sketch.RunsTo (p'.previous.map Prod.fst) (p'.previous.bind Prod.snd) := by
  rw [step.previous]
  cases g.kind.isSolid with
  | true => exact ⟨now, step.after, rfl⟩
  | false => exact step.undisturbed.runs (previousApart h fresh) h.runs

theorem changedNext : ∀ x ∈ s.solids (done ++ [id]), x ∈ p'.made → x ∈ p'.changed := by
  intro x member again
  rw [solidsNext h step, List.mem_append] at member
  rw [step.changed]
  rcases member with before | here
  · have already := h.changed x before (madeBefore h step fresh before again)
    split
    · exact List.mem_cons_of_mem _ already
    · exact already
  · obtain ⟨solid, rfl⟩ : g.kind.isSolid = true ∧ x = id := by simpa using here
    rw [step.made, List.mem_append] at again
    obtain rfl : needed = true := by simpa using again.resolve_left (unmade h fresh)
    simp [solid]

theorem visitedFolds (solid : g.kind.isSolid = true)
    (holds : id ∈ p'.made ∨ faithful id ∧ predecessor last id = p.previous.map Prod.fst) :
    Folds m' (p.previous.map Prod.fst) id := by
  cases needed with
  | true =>
    obtain ⟨now', there, same⟩ := step.steady.kept step.found
    obtain rfl := Option.some.inj (step.after.symm.trans there)
    have runs := step.undisturbed.runs (previousApart h fresh) h.runs
    exact ⟨now, _, step.after, runs, step.continues rfl (same.trans solid)⟩
  | false =>
    obtain rfl := step.skipped rfl
    rcases holds with again | ⟨trusted, same⟩
    · rw [step.made] at again
      exact absurd (by simpa using again) (unmade h fresh)
    · rw [← same]
      exact h.waiting id List.mem_cons_self trusted fun j before => idleAfterIdle h step rfl solid (same ▸ before)

theorem builtNext : ∀ x ∈ s.solids (done ++ [id]), x ∈ p'.made ∨
    faithful x ∧ predecessor last x = predecessor (s.solids (done ++ [id])) x →
      Folds m' (predecessor (s.solids (done ++ [id])) x) x := by
  intro x member holds
  rw [solidsNext h step] at member holds ⊢
  rcases List.mem_append.mp member with before | here
  · rw [predecessorAhead before] at holds ⊢
    refine (h.built x before (holds.imp_left (madeBefore h step fresh before))).undisturbed (visitedApart h fresh before)
      (fun j ahead => ?_) step.undisturbed
    exact visitedApart h fresh (predecessorMem ahead).1
  · obtain ⟨solid, rfl⟩ : g.kind.isSolid = true ∧ x = id := by simpa using here
    have ends : predecessor (s.solids done ++ [x]) x = p.previous.map Prod.fst :=
      (predecessorNext fun again => visitedApart h fresh again rfl).trans h.previous.symm
    rw [solid, if_pos rfl, ends] at holds ⊢
    exact visitedFolds h step fresh solid holds

omit fresh in
theorem waitingNext (later : id ∉ rest) : ∀ x ∈ rest, faithful x →
    (∀ j, predecessor last x = some j → j ∉ p'.made) → Folds m' (predecessor last x) x := by
  intro x member trusted apart
  rw [step.made] at apart
  have waiting := h.waiting x (List.mem_cons_of_mem _ member) trusted fun j before again =>
    apart j before (List.mem_append_left _ again)
  cases needed with
  | false => exact step.skipped rfl ▸ waiting
  | true =>
    refine waiting.undisturbed ?_ (fun j before => ?_) step.undisturbed
    · rintro rfl
      exact later member
    · rintro rfl
      exact apart j before (by simp)

end Advance

theorem visitUnderway (h : Underway imported last faithful s done (id :: rest) m p) (once : (done ++ id :: rest).Nodup)
    (ok : visit config clock p id m = (.ok p', m')) : Underway imported last faithful s (done ++ [id]) rest m' p' := by
  obtain ⟨fresh, later, _⟩ := Sketch.onceInOrder once
  obtain ⟨accounted, carried⟩ := visitAccounted h.accounted later h.carried ok
  obtain ⟨needed, g, now, step⟩ := visitAdvance h.accounted h.carried ok
  exact {
    steady := h.steady.trans step.steady
    accounted
    carried := carried p' rfl
    previous := previousNext h step
    runs := runsNext h step fresh
    visited := by rw [step.visited, h.visited]
    changed := changedNext h step fresh
    built := builtNext h step fresh
    waiting := waitingNext h step later }

theorem visitsUnderway (h : Underway imported last faithful s done rest m p) (once : (done ++ rest).Nodup)
    (ok : rest.foldlM (visit config clock) p m = (.ok p', m')) :
    Underway imported last faithful s (done ++ rest) [] m' p' := by
  induction rest generalizing done m p with
  | nil =>
    cases ok
    rwa [List.append_nil]
  | cons id rest ih =>
    rw [List.foldlM_cons] at ok
    obtain ⟨p₁, m₁, first, others⟩ := Attempt.bindOk.mp ok
    rw [List.append_cons] at once ⊢
    exact ih (visitUnderway h (by simpa using once) first) once others

theorem passFolds (h : Accounted imported m) (before : ∀ id, faithful id → Folds m (predecessor last id) id)
    {report : RegenReport α} (ok : pass config clock m = (.ok report, m')) :
    m.sketch.regenerationOrder = .ok report.order ∧ Steady (·.kind.isSolid) m.sketch m'.sketch ∧
      ∀ id ∈ m'.sketch.solids report.order, id ∈ report.regenerated ∨
        faithful id ∧ predecessor last id = predecessor (m'.sketch.solids report.order) id →
          Folds m' (predecessor (m'.sketch.solids report.order) id) id := by
  rcases passRun ok with ⟨e, _, failed, _⟩ | ⟨order, made, sorted, visits, result⟩
  · cases failed
  cases made with
  | error e => cases result
  | ok p =>
    cases result
    have start : Underway imported _ faithful m.sketch [] order m {} :=
      { steady := .refl h.numbered.toConsistent, accounted := h, carried := fun x same => (by cases same), previous := rfl,
        runs := rfl, visited := rfl, changed := (by simp [Sketch.solids]), built := (by simp [Sketch.solids]),
        waiting := fun id _ trusted _ => before id trusted }
    have done := visitsUnderway start (Sketch.regenerationOrderIsOrder sorted).once visits
    have same : (⟨p.reports⟩ : RegenReport α).order = order := done.visited
    rw [same, solidsSteady done.steady]
    exact ⟨sorted, done.steady, done.built⟩

theorem Folds.steady {h : Option GroupId} (folds : Folds m h id) (step : Steady Group.solidPart m.sketch s) :
    Folds ⟨s, m.kernel⟩ h id :=
  folds.undisturbed (P := fun _ => True) trivial (fun _ _ => trivial) (undisturbedSteady step)

theorem markedFolds (h : Accounted imported m) (before : ∀ id, faithful id → Folds m (predecessor last id) id)
    (marked : Sketch.Changes m.sketch s) {report : RegenReport α}
    (ok : pass config clock ⟨s, m.kernel⟩ = (.ok report, m')) :
    (∀ k, (∃ g, m'.sketch.groups.get? k = some g) → k ∈ report.order) ∧
      ∀ id ∈ m'.sketch.solids report.order, id ∈ report.regenerated ∨
        faithful id ∧ predecessor last id = predecessor (m'.sketch.solids report.order) id →
          Folds m' (predecessor (m'.sketch.solids report.order) id) id := by
  have step := Sketch.Changes.steady solidPartLasting marked h.numbered.toConsistent
  have held : Steady Group.held m.sketch s := step.coarser fun _ _ => heldOfSolidPart
  obtain ⟨sorted, steady, folds⟩ := passFolds (h.retained held.retains) (fun id trusted => (before id trusted).steady step) ok
  refine ⟨fun k ⟨g, found⟩ => ?_, folds⟩
  obtain ⟨g', there, _⟩ := steady.before found
  refine ((Sketch.regenerationOrderIsOrder sorted).every k).mpr (Registry.memKeys.mpr ⟨g', Registry.memOfGet there, ?_⟩)
  exact step.consistent.groups.keyOfGet there

end Pass
end Regen
def Command.Tends : Command α → Prop
  | changeGroup .. | regenerateAll | regenerateFrom _ | withoutKernel | restore _ | reset => False
  | _ => True

namespace Session
open Regen Sketch
variable [Scalar α] {config : EngineConfig α} {s t : Session α} {clock : Nat → Nat} {last : List GroupId}
  {faithful : GroupId → Prop}

/-- Sessions that edits and passes lead to, with the solid groups in the order of the last pass. To be
relied on are those that this pass made anew, and those that were to be relied on before and follow the
same solid group again. -/
inductive Tended (config : EngineConfig α) : Session α → List GroupId → (GroupId → Prop) → Prop
  | start : Tended config (start config) [] fun _ => False
  | tend {s t : Session α} {last : List GroupId} {faithful : GroupId → Prop} {clock : Nat → Nat} {c : Command α}
      {answer : Answer α} (earlier : Tended config s last faithful) (tends : c.Tends)
      (ok : perform clock c s = (.ok answer, t)) : Tended config t last faithful
  | pass {s t : Session α} {last : List GroupId} {faithful : GroupId → Prop} {clock : Nat → Nat} {c : Command α}
      {report : RegenReport α} (earlier : Tended config s last faithful) (passes : c.IsPass)
      (ok : perform clock c s = (.ok (.report report), t)) :
      Tended config t (t.sketch.solids report.order) fun id => id ∈ t.sketch.solids report.order ∧
        (id ∈ report.regenerated ∨
          faithful id ∧ predecessor last id = predecessor (t.sketch.solids report.order) id)

theorem addGroupUndisturbed {m : Model α} {u : Sketch α} {name : String} {kind : GroupKind α} {source : Option GroupId}
    {id : GroupId} (h : m.sketch.Numbered) (ok : addGroup name kind source m.sketch = (.ok id, u)) (P : GroupId → Prop) :
    Undisturbed P m ⟨u, m.kernel⟩ := by
  obtain ⟨rfl, made⟩ := addGroupOk ok
  obtain ⟨numbered, _, _, _, get⟩ := withGroupGet h name kind source
  have step := generateGroupSteady solidPartLasting numbered.toConsistent ⟨m.sketch.nextGroup⟩
  rw [made] at step
  refine ⟨fun j _ g found => step.kept ?_, rfl, fun _ _ _ _ _ _ => rfl⟩
  rw [get, if_neg, found]
  rintro rfl
  exact Nat.lt_irrefl _ (h.below _ g found)

theorem tendFolds {imported : List ShellId} (h : Accounted imported s.model) {c : Command α} {answer : Answer α}
    (tends : c.Tends) (ok : perform clock c s = (.ok answer, t)) {before : Option GroupId} {id : GroupId}
    (folds : Folds s.model before id) : Folds t.model before id := by
  by_cases edit : c.IsEdit
  · obtain ⟨u, rfl, steps | ⟨_, _, _, _, added⟩⟩ := performEdit edit ok
    · exact folds.steady (Changes.steady solidPartLasting steps h.numbered.toConsistent)
    · exact folds.undisturbed trivial (fun _ _ => trivial) (addGroupUndisturbed h.numbered added fun _ => True)
  cases c with
  | solve group config =>
    cases ok
    exact folds.steady (solveGroupSteady solidPartLasting h.numbered.toConsistent group config clock)
  | importPart name triangles =>
    obtain ⟨shell, kernel, imported, _, rfl⟩ | ⟨_, _, _, rfl⟩ := importPartRun ok
    · have gains := Kernel.importGains imported
      refine folds.undisturbed (P := fun _ => True) trivial (fun _ _ => trivial)
        ⟨fun _ _ g found => ⟨g, found, rfl⟩, gains.backend, fun j _ g found x member => ?_⟩
      obtain ⟨mesh, there⟩ := (h.stored x).mpr (.inr ⟨j, g, found, member⟩)
      exact ((gains.other h.issued there).2).trans there.symm
    · exact folds
  | snapshot name =>
    cases ok
    exact folds
  | changeGroup | regenerateAll | regenerateFrom | withoutKernel | restore | reset => exact tends.elim
  | _ => exact absurd trivial edit

theorem tendedSound (h : Tended config s last faithful) : (∃ names, Course config s names) ∧ Reached config s ∧
    ∀ id, faithful id → Folds s.model (predecessor last id) id := by
  induction h with
  | start => exact ⟨⟨[], .start⟩, .start, fun _ impossible => impossible.elim⟩
  | @tend s t last faithful clock c answer _ tends ok ih =>
    obtain ⟨⟨names, course⟩, reached, folds⟩ := ih
    refine ⟨⟨_, course.step ?_ ok⟩, reached.step ok, fun id trusted => ?_⟩
    · cases c <;> trivial
    · exact tendFolds (courseSound course).model tends ok (folds id trusted)
  | @pass s t last faithful clock c report _ passes ok ih =>
    obtain ⟨⟨names, course⟩, reached, folds⟩ := ih
    obtain ⟨ids, run, _⟩ := passMarks passes ok
    refine ⟨⟨_, course.step ?_ ok⟩, reached.step ok, fun id ⟨solid, trusted⟩ => ?_⟩
    · cases c <;> trivial
    · exact (markedFolds (courseSound course).model folds (dirtyAll ids _).changes run).2 id solid trusted

def emptyPart : ShellId × Kernel Float := (start .standard).model.kernel.store (.ofTriangles [])

def withPart : Session Float :=
  { start .standard with model.kernel := emptyPart.2, parts := [("part", emptyPart.1)] }

theorem partImported : perform id (.importPart "part" []) (start .standard) = (.ok .done, withPart) := rfl

def linkedPart (x : ShellId) : Group Float := { id := ⟨1⟩, name := "part", kind := .linked [] (some x) }

theorem linkedCopied (s : Sketch Float) (x : ShellId) : s.copied (linkedPart x) = .ok { remap := {} } := rfl

structure LinkedAlone (s : Sketch Float) (x : ShellId) : Prop where
  groups : ∀ k, s.groups.get? k = if k = ⟨1⟩ then some (linkedPart x) else none
  requests : s.requests = {}
  constraints : s.constraints = {}

theorem partLinked (x : ShellId) : ∃ u : Sketch Float,
    addGroup "part" (linkedPart x).kind none {} = (.ok ⟨1⟩, u) ∧ LinkedAlone u x := by
  let entered := ({} : Sketch Float).withGroup "part" (linkedPart x).kind none
  have new : entered.Regrown (linkedPart x) { remap := {} } (entered.regrown (linkedPart x) { remap := {} }) :=
    regrownSpec Sketch.startIntact.params (fitsNone (linkedPart x))
  refine ⟨entered.regrown (linkedPart x) { remap := {} },
    addGroupRun Sketch.startIntact.groups rfl (Sketch.startIntact.groups.getAddSelf _) (linkedCopied _ _),
    fun k => ?_, new.requests, new.constraints⟩
  have one : ∀ j, (({} : Sketch Float).groups.add (linkedPart x)).get? j =
      if ⟨1⟩ = j then some (linkedPart x) else ({} : Sketch Float).groups.get? j := Sketch.startIntact.groups.getAdd _
  have empty : ({} : Sketch Float).groups.get? k = none := by simp [Registry.get?]
  rw [new.groups]
  change ((({} : Sketch Float).groups.add (linkedPart x)).modify ⟨1⟩ ({ · with remap := {} })).get? k = _
  rw [(Sketch.startIntact.groups.add _).getModify ⟨1⟩ (f := ({ · with remap := {} })) (fun _ same => same), one, one,
    if_pos rfl, empty]
  split
  · rfl
  · rename_i other
    rw [if_neg (Ne.symm other)]

theorem linkedOrder {s : Sketch Float} {x : ShellId} (intact : s.Intact) (only : LinkedAlone s x) :
    s.regenerationOrder = .ok [⟨1⟩] := by
  have found : s.groups.get? ⟨1⟩ = some (linkedPart x) := by rw [only.groups, if_pos rfl]
  have alone {k : GroupId} {g : Group Float} (there : s.groups.get? k = some g) : k = ⟨1⟩ ∧ g = linkedPart x := by
    rw [only.groups] at there
    split at there
    · exact ⟨by assumption, (Option.some.inj there).symm⟩
    · cases there
  have ids : s.groupIds = [⟨1⟩] := by
    refine List.perm_singleton.mp ((List.perm_ext_iff_of_nodup groupIdsNodup (by simp)).mpr fun k => ?_)
    rw [memGroupIds, List.mem_singleton, Registry.memKeys]
    constructor
    · rintro ⟨g, member, rfl⟩
      exact (alone (intact.groups.getOfMem member)).1
    · rintro rfl
      exact ⟨_, Registry.memOfGet found, rfl⟩
  have free : s.dependenciesOf ⟨1⟩ = [] := by
    rw [dependenciesOf, found]
    change s.dependencies (linkedPart x) = []
    unfold dependencies
    rw [only.requests, only.constraints]
    rfl
  rw [regenerationOrderRegistered intact.groups.indexed, ids]
  · have last : orderFrom s.dependenciesOf [⟨1⟩] [] = .ok [] := by
      unfold orderFrom
      rfl
    unfold orderFrom
    split
    · rename_i k rest chosen
      simp only [pick?, free] at chosen
      cases chosen
      rw [last]
      rfl
    · rename_i none
      simp [pick?, free] at none
  · intro g member p before
    rw [(alone (intact.groups.getOfMem member)).2] at before
    cases before

theorem linkedShell (s : Sketch α) {k : Kernel α} {g : Group α} {points : List (Vec3 α)} {x : ShellId}
    (linked : g.kind = .linked points (some x)) (active : g.suppress = false) (meshes : k.backend = .mesh) (there : k.Keeps x) :
    ∃ new m, Regen.shell g ⟨s, k⟩ = (.ok (some new, []), m) := by
  obtain ⟨mesh, found⟩ := there
  have moved (rotation : Quat α) (offset : Vec3 α) : ∃ made, k.transform x rotation offset = .ok made := by
    unfold Kernel.transform Kernel.available Kernel.mesh
    rw [meshes, found]
    exact ⟨_, rfl⟩
  obtain ⟨new, k', built⟩ : ∃ new k', s.buildShell g k = (.ok new, k') := by
    obtain ⟨made, done⟩ := moved (g.linkRotation.map s.valueOf).normalize (s.vectorOf g.linkOffset)
    refine ⟨made.1, made.2, ?_⟩
    unfold buildShell
    simp only [linked]
    refine Attempt.bindOk.mpr ⟨x, k, rfl, ?_⟩
    unfold Solids.make
    dsimp only
    rw [done]
  have solid : g.kind.isSolid = true := linked ▸ rfl
  refine ⟨new, ⟨s, k'⟩, ?_⟩
  unfold Regen.shell
  simp only [solid, active, Bool.not_true, Bool.or_self, Bool.false_eq_true, if_false]
  rw [Attempt.getBind, Attempt.runBind, Regen.solids]
  dsimp only
  rw [built]
  rfl

theorem linkedPartPass : ∃ (s t : Session Float) (report : RegenReport Float) (g : Group Float),
    Tended .standard s [] (fun _ => False) ∧ perform id (.regenerateFrom ⟨1⟩) s = (.ok (.report report), t) ∧
      g ∈ t.sketch.groups.toList ∧ g.id ∈ report.regenerated ∧ g.kind.isSolid = true ∧ g.source = none ∧
        ∃ x, g.shell = some x := by
  have imported : Tended .standard withPart [] (fun _ => False) := .tend .start (by trivial) partImported
  let g := linkedPart emptyPart.1
  obtain ⟨u, added, alone⟩ := partLinked emptyPart.1
  let s := withPart.withSketch u
  have linked : Tended .standard s [] (fun _ => False) := by
    have done := performEdited id (s := withPart) (c := .addGroup "part" g.kind none) rfl added
    exact .tend imported (by trivial) done
  have sound := tendedSound linked
  have intact : u.Intact := (reachedIntact sound.2.1).sketch
  obtain ⟨names, course⟩ := sound.1
  have accounted := (courseSound course).model
  let v := u.markDirty ⟨1⟩
  have marked : v.Intact := intact.markDirty _
  have only : LinkedAlone v emptyPart.1 := by
    refine ⟨fun k => ?_, alone.requests, alone.constraints⟩
    rw [markDirtyGet intact.toConsistent, alone.groups, alone.groups, if_pos rfl]
    split <;> rfl
  have found : v.groups.get? ⟨1⟩ = some g := by rw [only.groups, if_pos rfl]
  let m : Model Float := ⟨v, s.model.kernel⟩
  have generated : generateGroup ⟨1⟩ v = (.ok (), v.regrown g { remap := {} }) := by
    rw [generateGroupRun found rfl, linkedCopied]
  have lasting : Group.Lasting fun g : Group Float => (g.kind, g.suppress, g.source) :=
    ⟨fun _ _ => rfl, fun _ _ => rfl, fun _ _ => rfl⟩
  have fresh : Steady (fun g => (g.kind, g.suppress, g.source)) v (v.regrown g { remap := {} }) := by
    have step := generateGroupSteady lasting marked.toConsistent ⟨1⟩
    rw [generated] at step
    exact step
  have solved := solveGroupSteady lasting fresh.consistent ⟨1⟩ s.config.solver id
  obtain ⟨old, there, same⟩ := (fresh.trans solved).kept found
  obtain ⟨kind, active, source⟩ : old.kind = g.kind ∧ old.suppress = g.suppress ∧ old.source = g.source := by simpa using same
  have solid : old.kind.isSolid = true := kind ▸ rfl
  obtain ⟨new, m', run, remade, shell⟩ := regenerateGroupRun (m := m) s.config none accounted.issued generated rfl
    solved.consistent there (loopsSkipped _ (.inr solid) _)
  have now : m'.sketch.groups.get? ⟨1⟩ = some new := by rw [remade.groups, if_pos rfl]
  let report : GroupReport Float := ⟨⟨1⟩, true, new.solved, new.failures⟩
  have visited : visit s.config id {} ⟨1⟩ m = (.ok ⟨[⟨1⟩], some (⟨1⟩, new.runningShell), [report]⟩, m') := by
    refine Attempt.bindOk.mpr ⟨g, m, ?_, ?_⟩
    · rw [readRun, groupFound.mpr found]
    · rw [Attempt.getBind]
      refine Attempt.bindOk.mpr ⟨(), m', run, Attempt.bindOk.mpr ⟨new, m', ?_, rfl⟩⟩
      rw [readRun, groupFound.mpr now]
  have passed : perform id (.regenerateFrom ⟨1⟩) s = (.ok (.report ⟨[report]⟩), { s with model := m' }) := by
    have work : Regen.startingAt s.config id ⟨1⟩ s.model = (.ok ⟨[report]⟩, m') := by
      unfold Regen.startingAt
      have present : s.model.sketch.groups.contains ⟨1⟩ = true :=
        intact.groups.containsIff.mpr ⟨g, by rw [alone.groups, if_pos rfl]⟩
      rw [Attempt.getBind, present]
      refine Attempt.bindOk.mpr ⟨(), m, Attempt.modifyOk.mpr rfl, ?_⟩
      unfold Regen.pass
      rw [Attempt.getBind, show m.sketch.regenerationOrder = _ from linkedOrder marked only]
      refine Attempt.bindOk.mpr ⟨⟨[⟨1⟩], some (⟨1⟩, new.runningShell), [report]⟩, m', ?_, rfl⟩
      rw [List.foldlM_cons]
      exact Attempt.bindOk.mpr ⟨_, m', visited, rfl⟩
    change Work.regenerating _ s = _
    unfold Work.regenerating
    rw [work]
  have part : m.kernel.Keeps emptyPart.1 := (accounted.stored emptyPart.1).mpr (.inl List.mem_cons_self)
  obtain ⟨x, _, built⟩ := linkedShell _ kind active rfl part
  refine ⟨s, _, _, new, linked, passed, Registry.memOfGet now, ?_, remade.kind ▸ solid, remade.source.trans source, x,
    shell _ _ _ built⟩
  rw [show new.id = ⟨1⟩ from remade.consistent.groups.keyOfGet now]
  exact List.mem_singleton_self _

theorem shellsHeldOrImported {config : EngineConfig α} (h : Course config s names) (x : ShellId) :
    x ∈ s.model.kernel.shells ↔ x ∈ s.parts.map Prod.snd ∨
      ∃ g ∈ s.sketch.groups.toList, g.shell = some x ∨ g.runningShell = some x := by
  have sound := (courseSound h).model
  have stored : x ∈ s.model.kernel.shells ↔ s.model.kernel.Keeps x := by
    rw [Std.HashMap.mem_iff_isSome_getElem?, Option.isSome_iff_exists]
    rfl
  rw [stored, sound.stored, ← heldAnywhere sound.numbered.groups, List.any_eq_true]
  simp only [Bool.or_eq_true, beq_iff_eq]
  rfl

theorem linkedPartShells : ∃ (s t : Session Float) (report : RegenReport Float) (g : Group Float) (x : ShellId)
    (names : List String), Course .standard t names ∧ perform id (.regenerateFrom ⟨1⟩) s = (.ok (.report report), t) ∧
      g ∈ t.sketch.groups.toList ∧ g.id ∈ report.regenerated ∧ g.shell = some x ∧ x ∈ t.model.kernel.shells := by
  obtain ⟨s, t, report, g, linked, passed, member, anew, _, _, x, shell⟩ := linkedPartPass
  obtain ⟨names, course⟩ := (tendedSound linked).1
  have after := course.step (by trivial) passed
  have held := (shellsHeldOrImported after x).mpr (.inr ⟨g, member, .inl shell⟩)
  exact ⟨s, t, report, g, x, _, after, passed, member, anew, shell, held⟩

theorem runningShellsFold (h : Tended config s last faithful) {c : Command α} {report : RegenReport α} (passes : c.IsPass)
    (ok : perform clock c s = (.ok (.report report), t)) :
    (c = .regenerateAll → report.regenerated = report.order) ∧
    ∀ g ∈ t.sketch.groups.toList, g.kind.isSolid = true →
      g.id ∈ report.regenerated ∨ faithful g.id ∧ predecessor last g.id = predecessor (t.sketch.solids report.order) g.id →
        Folds t.model (predecessor (t.sketch.solids report.order) g.id) g.id := by
  obtain ⟨⟨names, course⟩, reached, folds⟩ := tendedSound h
  obtain ⟨ids, run, _⟩ := passMarks passes ok
  obtain ⟨every, after⟩ := markedFolds (courseSound course).model folds (dirtyAll ids _).changes run
  have consistent := (reachedIntact (reached.step ok)).sketch.groups
  refine ⟨fun all => allMade (reachedIntact reached).sketch (all ▸ ok), fun g member solid trusted => ?_⟩
  have found : t.model.sketch.groups.get? g.id = some g := consistent.getOfMem member
  refine after g.id (List.mem_filter.mpr ⟨every g.id ⟨g, found⟩, ?_⟩) trusted
  rw [found]
  exact solid

theorem linkedPartFolds : ∃ (s t : Session Float) (report : RegenReport Float) (g : Group Float),
    Tended .standard s [] (fun _ => False) ∧ perform id (.regenerateFrom ⟨1⟩) s = (.ok (.report report), t) ∧
      g ∈ t.sketch.groups.toList ∧ g.kind.isSolid = true ∧
      Folds t.model (predecessor (t.sketch.solids report.order) g.id) g.id := by
  obtain ⟨s, t, report, g, linked, passed, member, anew, solid, _⟩ := linkedPartPass
  have folds := (runningShellsFold linked (by trivial) passed).2 g member solid (.inl anew)
  exact ⟨s, t, report, g, linked, passed, member, solid, folds⟩

end Session
end Drafting
