import Drafting.Proofs.Session
import Drafting.Proofs.Steady
/-! What a command can do to the sketch of a session. Whatever comes of it, also where a pass fails
half-way, it comes down to a few turns: edits, groups added, groups set, made anew, solved and recorded. -/
namespace Drafting
open Relation (ReflTransGen)

namespace Sketch
variable [Scalar α]

inductive Turn : Sketch α → Sketch α → Prop
  | changed {s t : Sketch α} (step : Change s t) : Turn s t
  | added (s : Sketch α) (name : String) (kind : GroupKind α) (source : Option GroupId) :
      Turn s (addGroup name kind source s).2
  | set {s : Sketch α} {id : GroupId} {g : Group α} (found : s.groups.get? id = some g)
      (changes : List (GroupChange α)) : Turn s (s.modifyGroup id fun _ => changes.foldl GroupChange.apply g)
  | generated (s : Sketch α) (id : GroupId) : Turn s (generateGroup id s).2
  | solved (s : Sketch α) (id : GroupId) (config : SolverConfig α) (clock : Nat → Nat) :
      Turn s (s.solveGroup id config clock).2
  | recorded (s : Sketch α) (id : GroupId) (loops : Option (LoopSet α)) (shell runningShell : Option ShellId)
      (failures : List (GroupFailure α)) (clean : Bool) (fingerprint : Option (Fingerprint α)) :
      Turn s (s.modifyGroup id fun g => { g with loops, shell, failures, runningShell, clean, fingerprint })

abbrev Turns : Sketch α → Sketch α → Prop := ReflTransGen Turn

theorem Changes.turns {s t : Sketch α} (steps : Changes s t) : Turns s t := by
  induction steps with
  | refl => exact .refl
  | tail _ step ih => exact ih.tail (.changed step)

end Sketch

namespace Regen
open Sketch (Turn Turns)
variable [Scalar α] {m m' : Model α}

def Moves (r : Regen α τ) : Prop := ∀ m, Turns m.sketch (r m).2.sketch

theorem Keeps.moves {r : Regen α τ} (h : Keeps r) : Moves r := fun m => (h m).symm ▸ .refl

theorem movesBind {r : Regen α σ} {k : σ → Regen α τ} (first : Moves r) (next : ∀ x, Moves (k x)) :
    Moves (r >>= k) := by
  intro m
  have start := first m
  rw [Attempt.runBind]
  generalize r m = result at start ⊢
  rcases result with ⟨_ | x, u⟩
  · exact start
  · exact start.trans (next x u)

theorem movesThrow (e : RegenError) : Moves (throw e : Regen α τ) := fun _ => .refl

theorem movesModify {f : Model α → Model α} (h : ∀ m, Turns m.sketch (f m).sketch) : Moves (modify f : Regen α Unit) := h

theorem movesGenerate (id : GroupId) : Moves (edit (Sketch.generateGroup (α := α) id)) := by
  intro m
  have turn := Turn.generated m.sketch id
  unfold edit
  generalize Sketch.generateGroup id m.sketch = result at turn ⊢
  rcases result with ⟨_ | x, u⟩ <;> exact .single turn

theorem movesSolve (config : SolverConfig α) (clock : Nat → Nat) (id : GroupId) : Moves (solve config clock id) :=
  fun m => .single (.solved m.sketch id config clock)

theorem movesRegenerate (config : EngineConfig α) (clock : Nat → Nat) (id : GroupId) (prior : Option ShellId) :
    Moves (regenerateGroup config clock id prior) := by
  refine movesBind (movesGenerate id) fun _ => movesBind (movesSolve _ clock id) fun outcome => ?_
  refine movesBind (keepsRead _).moves fun g => movesBind (keepsLoops _ g).moves fun found => ?_
  refine movesBind (keepsShell g).moves fun made => movesBind (keepsRunning g prior _).moves fun joined => ?_
  refine movesBind (movesModify fun m => .single ?_) fun _ => (keepsReleases _).moves
  exact .recorded m.sketch id _ _ _ _ _ _

theorem movesVisit (config : EngineConfig α) (clock : Nat → Nat) (p : Progress α) (id : GroupId) :
    Moves (visit config clock p id) := by
  have last (g : Group α) (needed : Bool) : Moves (do
      let now ← read (α := α) (·.group id)
      let differs := needed && (g.kind.isSolid || !sameFingerprint g.fingerprint now.fingerprint)
      return ({
        changed := if differs then id :: p.changed else p.changed
        previous := if g.kind.isSolid then some (id, now.runningShell) else p.previous
        reports := p.reports ++ [⟨id, needed, now.solved, now.failures⟩] } : Progress α)) :=
    movesBind (keepsRead _).moves fun _ => (keepsPure _).moves
  refine movesBind (keepsRead _).moves fun g => movesBind keepsGet.moves fun m => ?_
  cases needed : isNeeded m.sketch g p with
  | false =>
    simp only [Bool.false_eq_true, if_false]
    exact last g false
  | true =>
    simp only [if_true]
    exact movesBind (movesRegenerate config clock id _) fun _ => last g true

theorem movesVisits (config : EngineConfig α) (clock : Nat → Nat) (order : List GroupId) (p : Progress α) :
    Moves (order.foldlM (visit config clock) p) := by
  induction order generalizing p with
  | nil => exact (keepsPure p).moves
  | cons id rest ih =>
    rw [List.foldlM_cons]
    exact movesBind (movesVisit config clock p id) ih

theorem movesPass (config : EngineConfig α) (clock : Nat → Nat) : Moves (pass config clock) := by
  refine movesBind keepsGet.moves fun m => ?_
  cases m.sketch.regenerationOrder with
  | error e => exact movesThrow e
  | ok order => exact movesBind (movesVisits config clock order {}) fun _ => (keepsPure _).moves

theorem movesAll (config : EngineConfig α) (clock : Nat → Nat) : Moves (all config clock) :=
  movesBind (movesModify fun m => (Sketch.dirtyAll m.sketch.groups.keys m.sketch).changes.turns) fun _ =>
    movesPass config clock

theorem movesStartingAt (config : EngineConfig α) (clock : Nat → Nat) (id : GroupId) :
    Moves (startingAt config clock id) := by
  refine movesBind keepsGet.moves fun m => ?_
  cases m.sketch.groups.contains id with
  | false => exact movesThrow _
  | true => exact movesBind (movesModify fun m => .single (.changed (.adjusted (.dirty m.sketch id)))) fun _ =>
      movesPass config clock

end Regen

def Command.GoesOn : Command α → Prop
  | restore _ | reset => False
  | _ => True

namespace Session
open Sketch (Turns)
variable [Scalar α] {s t : Session α} {clock : Nat → Nat} {r : Except (SessionError α) (Answer α)}

theorem regeneratingTurns {work : Regen α (RegenReport α)} (moves : Regen.Moves work)
    (run : Work.regenerating work s = (r, t)) : Turns s.sketch t.sketch := by
  have turns := moves s.model
  obtain ⟨_, ⟨_, passed, _⟩ | ⟨_, passed, _⟩⟩ := regeneratingRun run
  · rwa [passed] at turns
  · rwa [passed] at turns

theorem performTurns {c : Command α} (on : c.GoesOn) (run : perform clock c s = (r, t)) : Turns s.sketch t.sketch := by
  by_cases edit : c.IsEdit
  · obtain ⟨u, rfl, steps | ⟨name, kind, source, made, added, _⟩⟩ := performEditResult edit run
    · exact steps.turns
    · have turn := Sketch.Turn.added s.sketch name kind source
      rw [added] at turn
      exact .single turn
  cases c with
  | changeGroup group changes =>
    obtain ⟨g, found, _, rfl⟩ | ⟨_, _, _, rfl⟩ := changeGroupRun run
    · exact .single (.set found changes)
    · exact .refl
  | solve group config =>
    cases run
    exact .single (.solved s.sketch group config clock)
  | regenerateAll => exact regeneratingTurns (Regen.movesAll s.config clock) run
  | regenerateFrom group => exact regeneratingTurns (Regen.movesStartingAt s.config clock group) run
  | importPart name triangles =>
    obtain ⟨_, _, _, _, rfl⟩ | ⟨_, _, _, rfl⟩ := importPartRun run
    · exact .refl
    · exact .refl
  | withoutKernel | snapshot =>
    cases run
    exact .refl
  | restore | reset => exact on.elim
  | _ => exact absurd trivial edit

end Session
end Drafting
