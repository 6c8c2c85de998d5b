import Drafting.Regeneration.Pass
import Drafting.Proofs.Generate
import Drafting.Proofs.Solve
/-! A pass over the groups, as a chain of visits. A visit leaves the sketch alone, or makes one group anew,
solves it and records what came of it; work on solids never touches the sketch. -/
namespace Drafting.Regen
open Attempt
variable {m m' : Model α}

def Keeps (r : Regen α τ) : Prop := ∀ m, (r m).2.sketch = m.sketch

theorem keepsBind {r : Regen α σ} {k : σ → Regen α τ} (first : Keeps r) (next : ∀ x, Keeps (k x)) : Keeps (r >>= k) := by
  intro m
  have start := first m
  rw [runBind]
  generalize r m = result at start ⊢
  rcases result with ⟨_ | x, u⟩
  · exact start
  · exact (next x u).trans start

theorem keepsPure (x : τ) : Keeps (pure x : Regen α τ) := fun _ => rfl

theorem keepsGet : Keeps (get : Regen α (Model α)) := fun _ => rfl

theorem keepsRead (f : Sketch α → Except SketchError τ) : Keeps (read f : Regen α τ) := by
  intro m
  rw [read, getBind]
  cases f m.sketch <;> rfl

theorem keepsSolids (w : Solids α τ) : Keeps (solids w : Regen α _) := fun _ => rfl

theorem keepsLoops [Scalar α] (config : LoopConfig α) (g : Group α) : Keeps (loops config g) := by
  unfold loops
  split
  · split
    · exact keepsPure _
    · exact keepsBind (keepsRead _) fun _ => keepsBind keepsGet fun _ => keepsPure _
  · exact keepsPure _

theorem keepsShell [Scalar α] (g : Group α) : Keeps (shell g) := by
  unfold shell
  split
  · exact keepsPure _
  · exact keepsBind keepsGet fun _ => keepsBind (keepsSolids _) fun _ => keepsPure _

theorem keepsRunning [Scalar α] (g : Group α) (prior shell : Option ShellId) : Keeps (running g prior shell) := by
  unfold running
  split
  · exact keepsPure _
  · split
    · refine keepsBind (keepsSolids _) fun result => ?_
      cases result <;> exact keepsPure _
    · exact keepsPure _
    · exact keepsPure _

theorem keepsRelease (s : ShellId) : Keeps (release s : Regen α Unit) := by
  intro m
  change (if _ then m else _ : Model α).sketch = m.sketch
  split <;> rfl

theorem keepsReleases (shells : List ShellId) : Keeps (shells.forM release : Regen α Unit) := by
  induction shells with
  | nil => exact keepsPure ()
  | cons s rest ih =>
    simp only [List.forM_eq_forM, List.forM_cons] at ih ⊢
    exact keepsBind (keepsRelease s) fun _ => ih

theorem keptBy {r : Regen α τ} (h : Keeps r) {x : Except RegenError τ} (ok : r m = (x, m')) : m'.sketch = m.sketch := by
  have kept := h m
  rw [ok] at kept
  exact kept

theorem editRun {e : Edit α SketchError τ} {x : τ} {u : Sketch α} (ok : e m.sketch = (.ok x, u)) :
    edit e m = (.ok x, ⟨u, m.kernel⟩) := by
  unfold edit
  rw [ok]

theorem editStops {e : Edit α SketchError τ} {cause : SketchError} {u : Sketch α} (failed : e m.sketch = (.error cause, u)) :
    edit e m = (.error (.sketch cause), ⟨u, m.kernel⟩) := by
  unfold edit
  rw [failed]

theorem editOk {e : Edit α SketchError τ} {x : τ} (ok : edit e m = (.ok x, m')) : e m.sketch = (.ok x, m'.sketch) := by
  unfold edit at ok
  generalize e m.sketch = result at ok ⊢
  rcases result with ⟨_ | y, u⟩
  · cases ok
  · cases ok
    rfl

theorem readOk {f : Sketch α → Except SketchError τ} {x : τ} (ok : read f m = (.ok x, m')) :
    f m.sketch = .ok x ∧ m' = m := by
  rw [read, getBind] at ok
  cases found : f m.sketch with
  | error e =>
    rw [found] at ok
    cases ok
  | ok y =>
    rw [found] at ok
    cases ok
    exact ⟨rfl, rfl⟩

theorem readGroupError {id : GroupId} {e : RegenError} (failed : read (·.group id) m = (.error e, m')) :
    m.sketch.groups.get? id = none ∧ m' = m := by
  rw [read, getBind] at failed
  cases found : m.sketch.groups.get? id with
  | none =>
    rw [Sketch.group, found] at failed
    cases failed
    exact ⟨rfl, rfl⟩
  | some g =>
    rw [Sketch.groupFound.mpr found] at failed
    cases failed

variable [Scalar α]

/-- A group made anew, solved, and marked with what came of it. -/
def Rebuilt (config : EngineConfig α) (clock : Nat → Nat) (s : Sketch α) (id : GroupId) (t : Sketch α) : Prop :=
  ∃ u loops shell running failures, Sketch.generateGroup id s = (.ok (), u) ∧
    let v := (u.solveGroup id config.solver clock).2
    t = v.modifyGroup id fun g => { g with
      loops, shell, failures, runningShell := running, clean := failures.isEmpty,
      fingerprint := some (v.fingerprint id) }

theorem regenerateGroupOk {config : EngineConfig α} {clock : Nat → Nat} {id : GroupId} {prior : Option ShellId}
    (ok : regenerateGroup config clock id prior m = (.ok (), m')) : Rebuilt config clock m.sketch id m'.sketch := by
  obtain ⟨_, m₁, made, ok⟩ := bindOk.mp ok
  obtain ⟨outcome, m₂, solved, ok⟩ := bindOk.mp ok
  obtain ⟨g, m₃, read, ok⟩ := bindOk.mp ok
  obtain ⟨⟨loops, badLoops⟩, m₄, assembled, ok⟩ := bindOk.mp ok
  obtain ⟨⟨shell, badShell⟩, m₅, built, ok⟩ := bindOk.mp ok
  obtain ⟨⟨running, badJoin⟩, m₆, joined, ok⟩ := bindOk.mp ok
  obtain ⟨_, m₇, recorded, ok⟩ := bindOk.mp ok
  have after := modifyOk.mp recorded
  have released := keptBy (keepsReleases _) ok
  have same : m₆.sketch = m₂.sketch := by
    rw [keptBy (keepsRunning _ _ _) joined, keptBy (keepsShell _) built, keptBy (keepsLoops _ _) assembled,
      (readOk read).2]
  have solution : m₂.sketch = (m₁.sketch.solveGroup id config.solver clock).2 := by
    cases solved
    rfl
  refine ⟨m₁.sketch, loops, shell, running, (if outcome.status.isAcceptable then [] else [.solve outcome.status]) ++
    badLoops ++ badShell ++ badJoin, editOk made, ?_⟩
  dsimp only
  rw [released, after, ← solution, ← same]

/-- What a visit does to the sketch and to what the pass carries along. -/
structure Visited (config : EngineConfig α) (clock : Nat → Nat) (s : Sketch α) (p : Progress α) (id : GroupId)
    (t : Sketch α) (p' : Progress α) (g now : Group α) : Prop where
  found : s.groups.get? id = some g
  after : t.groups.get? id = some now
  rebuilt : isNeeded s g p = true → Rebuilt config clock s id t
  skipped : isNeeded s g p = false → t = s
  changed : p'.changed =
    if isNeeded s g p && (g.kind.isSolid || !sameFingerprint g.fingerprint now.fingerprint) then id :: p.changed
    else p.changed
  reports : p'.reports = p.reports ++ [⟨id, isNeeded s g p, now.solved, now.failures⟩]

theorem visitRun {config : EngineConfig α} {clock : Nat → Nat} {p p' : Progress α} {id : GroupId}
    (ok : visit config clock p id m = (.ok p', m')) : ∃ g now needed, m.sketch.groups.get? id = some g ∧
      m'.sketch.groups.get? id = some now ∧ isNeeded m.sketch g p = needed ∧ (needed = false → m' = m) ∧
      (needed = true → regenerateGroup config clock id (p.previous.bind Prod.snd) m = (.ok (), m')) ∧
      p'.changed = (if needed && (g.kind.isSolid || !sameFingerprint g.fingerprint now.fingerprint) then id :: p.changed
        else p.changed) ∧
      p'.previous = (if g.kind.isSolid then some (id, now.runningShell) else p.previous) ∧
      p'.reports = p.reports ++ [⟨id, needed, now.solved, now.failures⟩] := by
  obtain ⟨g, m₁, read, rest⟩ := bindOk.mp ok
  obtain ⟨found, rfl⟩ := readOk read
  rw [getBind] at rest
  dsimp only at rest
  cases needed : isNeeded m₁.sketch g p with
  | false =>
    rw [needed] at rest
    obtain ⟨now, m₂, again, last⟩ := bindOk.mp rest
    obtain ⟨after, rfl⟩ := readOk again
    cases last
    exact ⟨g, now, false, Sketch.groupFound.mp found, Sketch.groupFound.mp after, needed, fun _ => rfl,
      (fun impossible => nomatch impossible), rfl, rfl, rfl⟩
  | true =>
    rw [needed] at rest
    obtain ⟨_, m₂, made, rest⟩ := bindOk.mp rest
    obtain ⟨now, m₃, again, last⟩ := bindOk.mp rest
    obtain ⟨after, rfl⟩ := readOk again
    cases last
    exact ⟨g, now, true, Sketch.groupFound.mp found, Sketch.groupFound.mp after, needed,
      (fun impossible => nomatch impossible), fun _ => made, rfl, rfl, rfl⟩

theorem visitError {config : EngineConfig α} {clock : Nat → Nat} {p : Progress α} {id : GroupId} {e : RegenError}
    (failed : visit config clock p id m = (.error e, m')) : (m.sketch.groups.get? id = none ∧ m' = m) ∨
      regenerateGroup config clock id (p.previous.bind Prod.snd) m = (.error e, m') ∨
      regenerateGroup config clock id (p.previous.bind Prod.snd) m = (.ok (), m') ∧
        m'.sketch.groups.get? id = none := by
  rcases bindError.mp failed with early | ⟨g, m₁, read, rest⟩
  · exact .inl (readGroupError early)
  obtain ⟨found, rfl⟩ := readOk read
  rw [getBind] at rest
  dsimp only at rest
  cases needed : isNeeded m₁.sketch g p with
  | false =>
    rw [needed] at rest
    rcases bindError.mp rest with early | ⟨now, m₂, again, last⟩
    · exact .inl (readGroupError early)
    · cases last
  | true =>
    rw [needed] at rest
    rcases bindError.mp rest with stops | ⟨_, m₂, made, rest⟩
    · exact .inr (.inl stops)
    rcases bindError.mp rest with early | ⟨now, m₃, again, last⟩
    · obtain ⟨gone, rfl⟩ := readGroupError early
      exact .inr (.inr ⟨made, gone⟩)
    · cases last

theorem visitOk {config : EngineConfig α} {clock : Nat → Nat} {p p' : Progress α} {id : GroupId}
    (ok : visit config clock p id m = (.ok p', m')) :
    ∃ g now, Visited config clock m.sketch p id m'.sketch p' g now := by
  obtain ⟨g, now, needed, found, after, rfl, skipped, made, changed, _, reports⟩ := visitRun ok
  exact ⟨g, now, found, after, fun done => regenerateGroupOk (made done), fun idle => by rw [skipped idle], changed, reports⟩

inductive Passes (config : EngineConfig α) (clock : Nat → Nat) :
    Sketch α → Progress α → List GroupId → Sketch α → Progress α → Prop
  | done (s : Sketch α) (p : Progress α) : Passes config clock s p [] s p
  | visit {s t u : Sketch α} {p p' p'' : Progress α} {id : GroupId} {rest : List GroupId} {g now : Group α}
      (first : Visited config clock s p id t p' g now) (others : Passes config clock t p' rest u p'') :
      Passes config clock s p (id :: rest) u p''

theorem visitsOk {config : EngineConfig α} {clock : Nat → Nat} {order : List GroupId} {p p' : Progress α}
    (ok : order.foldlM (visit config clock) p m = (.ok p', m')) : Passes config clock m.sketch p order m'.sketch p' := by
  induction order generalizing p m with
  | nil =>
    cases ok
    exact .done _ _
  | cons id rest ih =>
    rw [List.foldlM_cons] at ok
    obtain ⟨p₁, m₁, first, others⟩ := bindOk.mp ok
    obtain ⟨g, now, visited⟩ := visitOk first
    exact .visit visited (ih others)

theorem passRun {config : EngineConfig α} {clock : Nat → Nat} {r : Except RegenError (RegenReport α)}
    (run : pass config clock m = (r, m')) : (∃ e, m.sketch.regenerationOrder = .error e ∧ r = .error e ∧ m' = m) ∨
      ∃ order made, m.sketch.regenerationOrder = .ok order ∧ order.foldlM (visit config clock) {} m = (made, m') ∧
        r = made.map fun p => ⟨p.reports⟩ := by
  unfold pass at run
  rw [getBind] at run
  cases sorted : m.sketch.regenerationOrder with
  | error e =>
    rw [sorted] at run
    cases run
    exact .inl ⟨e, rfl, rfl, rfl⟩
  | ok order =>
    rw [sorted] at run
    rcases bindRun run with ⟨e, visits, rfl⟩ | ⟨p, m₁, visits, last⟩
    · exact .inr ⟨order, .error e, rfl, visits, rfl⟩
    · cases last
      exact .inr ⟨order, .ok p, rfl, visits, rfl⟩

theorem allRun {config : EngineConfig α} {clock : Nat → Nat} {r : Except RegenError (RegenReport α)}
    (run : all config clock m = (r, m')) :
    pass config clock ⟨m.sketch.groups.keys.foldl Sketch.markDirty m.sketch, m.kernel⟩ = (r, m') := by
  unfold all at run
  rwa [runBind, runModify] at run

theorem startingAtRun {config : EngineConfig α} {clock : Nat → Nat} {id : GroupId} {r : Except RegenError (RegenReport α)}
    (run : startingAt config clock id m = (r, m')) : (r = .error (.groupNotFound id) ∧ m' = m) ∨
      m.sketch.groups.contains id = true ∧ pass config clock ⟨m.sketch.markDirty id, m.kernel⟩ = (r, m') := by
  unfold startingAt at run
  rw [getBind] at run
  cases there : m.sketch.groups.contains id with
  | false =>
    rw [there] at run
    cases run
    exact .inl ⟨rfl, rfl⟩
  | true =>
    rw [there] at run
    simp only [Bool.not_true, Bool.false_eq_true, if_false] at run
    rw [runBind, runModify] at run
    exact .inr ⟨rfl, run⟩

theorem passOk {config : EngineConfig α} {clock : Nat → Nat} {report : RegenReport α}
    (ok : pass config clock m = (.ok report, m')) : ∃ order p, m.sketch.regenerationOrder = .ok order ∧
      Passes config clock m.sketch {} order m'.sketch p ∧ report = ⟨p.reports⟩ := by
  rcases passRun ok with ⟨e, _, failed, _⟩ | ⟨order, made, sorted, visits, same⟩
  · cases failed
  · cases made with
    | error e => cases same
    | ok p =>
      cases same
      exact ⟨order, p, sorted, visitsOk visits, rfl⟩

theorem allOk {config : EngineConfig α} {clock : Nat → Nat} {report : RegenReport α}
    (ok : all config clock m = (.ok report, m')) : ∃ order p,
      let s := m.sketch.groups.keys.foldl Sketch.markDirty m.sketch
      s.regenerationOrder = .ok order ∧ Passes config clock s {} order m'.sketch p ∧ report = ⟨p.reports⟩ :=
  passOk (allRun ok)

theorem startingAtOk {config : EngineConfig α} {clock : Nat → Nat} {id : GroupId} {report : RegenReport α}
    (ok : startingAt config clock id m = (.ok report, m')) : ∃ order p,
      (m.sketch.markDirty id).regenerationOrder = .ok order ∧
      Passes config clock (m.sketch.markDirty id) {} order m'.sketch p ∧ report = ⟨p.reports⟩ := by
  rcases startingAtRun ok with ⟨failed, _⟩ | ⟨_, passed⟩
  · cases failed
  · exact passOk passed

end Drafting.Regen
