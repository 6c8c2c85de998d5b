import Mathlib.Data.List.Forall2
import Drafting.Sketch.Edit
/-! Results that may be failures, and edits one after another. An edit keeps a relation when the sketch
before it and the one it leaves stand in it, whether or not the edit succeeds. -/
namespace Drafting

namespace Result

theorem bindOk {x : Except ε σ} {f : σ → Except ε τ} {y : τ} :
    x >>= f = .ok y ↔ ∃ a, x = .ok a ∧ f a = .ok y := by
  cases x with
  | error e => simp [bind, Except.bind]
  | ok a => simp [bind, Except.bind]

theorem bindError {x : Except ε σ} {f : σ → Except ε τ} {e : ε} :
    x >>= f = .error e ↔ x = .error e ∨ ∃ a, x = .ok a ∧ f a = .error e := by
  cases x with
  | error e => simp [bind, Except.bind]
  | ok a => simp [bind, Except.bind]

theorem forMOk {f : τ → Except ε Unit} {l : List τ} (h : ∀ x ∈ l, f x = .ok ()) : l.forM f = .ok () := by
  induction l with
  | nil => rfl
  | cons x xs ih =>
    rw [List.forM_eq_forM, List.forM_cons, h x List.mem_cons_self]
    exact ih fun y member => h y (List.mem_cons_of_mem _ member)

theorem forMEach {f : τ → Except ε Unit} {l : List τ} (ok : l.forM f = .ok ()) : ∀ x ∈ l, f x = .ok () := by
  induction l with
  | nil => exact fun _ member => nomatch member
  | cons x xs ih =>
    rw [List.forM_eq_forM, List.forM_cons] at ok
    obtain ⟨⟨⟩, first, rest⟩ := bindOk.mp ok
    intro y member
    rcases List.mem_cons.mp member with same | later
    · exact same ▸ first
    · exact ih rest y later

theorem forMError {f : τ → Except ε Unit} {l : List τ} {e : ε} (failed : l.forM f = .error e) :
    ∃ x ∈ l, f x = .error e := by
  induction l with
  | nil => exact nomatch failed
  | cons x xs ih =>
    rw [List.forM_eq_forM, List.forM_cons] at failed
    rcases bindError.mp failed with first | ⟨_, _, rest⟩
    · exact ⟨x, List.mem_cons_self, first⟩
    · obtain ⟨y, member, later⟩ := ih rest
      exact ⟨y, List.mem_cons_of_mem _ member, later⟩

theorem mapMOk {f : σ → Except ε τ} {xs : List σ} {ys : List τ} (h : xs.mapM f = .ok ys) :
    ∀ y ∈ ys, ∃ x ∈ xs, f x = .ok y := by
  induction xs generalizing ys with
  | nil =>
    obtain rfl : [] = ys := by simpa [pure, Except.pure] using h
    simp
  | cons x xs ih =>
    rw [List.mapM_cons] at h
    obtain ⟨first, here, h⟩ := bindOk.mp h
    obtain ⟨others, there, h⟩ := bindOk.mp h
    obtain rfl : first :: others = ys := by simpa [pure, Except.pure] using h
    intro y member
    rcases List.mem_cons.mp member with rfl | inside
    · exact ⟨x, List.mem_cons_self, here⟩
    · obtain ⟨w, found, ok⟩ := ih there y inside
      exact ⟨w, List.mem_cons_of_mem _ found, ok⟩

theorem mapMEach {f : σ → Except ε τ} {xs : List σ} {ys : List τ} :
    xs.mapM f = .ok ys ↔ List.Forall₂ (fun x y => f x = .ok y) xs ys := by
  induction xs generalizing ys with
  | nil =>
    rw [List.forall₂_nil_left_iff]
    exact ⟨fun ok => (Except.ok.inj ok).symm, fun none => none ▸ rfl⟩
  | cons x xs ih =>
    rw [List.mapM_cons, List.forall₂_cons_left_iff]
    constructor
    · intro ok
      obtain ⟨y, first, ok⟩ := bindOk.mp ok
      obtain ⟨rest, later, ok⟩ := bindOk.mp ok
      exact ⟨y, rest, first, ih.mp later, (Except.ok.inj ok).symm⟩
    · rintro ⟨y, rest, first, later, rfl⟩
      exact bindOk.mpr ⟨y, first, bindOk.mpr ⟨rest, ih.mpr later, rfl⟩⟩

theorem foundOk {e : ε} {o : Option τ} {x : τ} : Sketch.found e o = .ok x ↔ o = some x := by
  cases o with
  | none => simp [Sketch.found]
  | some y => simp [Sketch.found]

def All (P : τ → Prop) (x : Except ε τ) : Prop := ∀ y, x = .ok y → P y

section All
variable {P : σ → Prop} {Q : τ → Prop}

theorem allPure {y : τ} (ok : Q y) : All Q (pure y : Except ε τ) := by
  intro z same
  cases same
  exact ok

theorem allThrow (e : ε) : All Q (throw e : Except ε τ) := by
  intro z same
  cases same

theorem allBind {x : Except ε σ} {f : σ → Except ε τ} (first : All P x) (next : ∀ a, P a → All Q (f a)) :
    All Q (x >>= f) := by
  intro z ok
  obtain ⟨a, here, rest⟩ := bindOk.mp ok
  exact next a (first a here) z rest

theorem allRenamed {x : Except ε τ} {f : ε → ε'} (h : All Q x) : All Q (x.mapError f) := by
  intro z same
  cases x with
  | error e => cases same
  | ok y =>
    cases same
    exact h _ rfl

end All

end Result

namespace Sketch
variable {s : Sketch α}

theorem requestFound {id : RequestId} {r : Request} :
    s.request id = .ok r ↔ s.requests.get? id = some r := Result.foundOk

theorem constraintFound {id : ConstraintId} {c : Constraint α} :
    s.constraint id = .ok c ↔ s.constraints.get? id = some c := Result.foundOk

theorem entityFound {id : EntityId} {e : Entity α} :
    s.entity id = .ok e ↔ s.entities.get? id = some e := Result.foundOk

theorem groupFound {id : GroupId} {g : Group α} :
    s.group id = .ok g ↔ s.groups.get? id = some g := Result.foundOk

end Sketch

abbrev Attempt (σ ε τ : Type) := ExceptT ε (StateM σ) τ

namespace Attempt
variable {s t : σ}

theorem runPure (x : τ) : (pure x : Attempt σ ε τ) s = (.ok x, s) := rfl

theorem runThrow (e : ε) : (throw e : Attempt σ ε τ) s = (.error e, s) := rfl

theorem runModify (f : σ → σ) : (modify f : Attempt σ ε Unit) s = (.ok (), f s) := rfl

theorem runGet : (get : Attempt σ ε σ) s = (.ok s, s) := rfl

theorem runBind (e : Attempt σ ε ρ) (k : ρ → Attempt σ ε τ) :
    (e >>= k) s = match e s with
      | (.ok x, t) => k x t
      | (.error cause, t) => (.error cause, t) := by
  change ExceptT.bind e k s = _
  simp only [ExceptT.bind, ExceptT.mk, bind, StateT.bind, ExceptT.bindCont]
  rcases e s with ⟨_ | _, _⟩ <;> rfl

theorem getBind {k : σ → Attempt σ ε τ} : (get >>= k) s = k s s := by
  rw [runBind, runGet]

theorem pureOk {x y : τ} : (pure x : Attempt σ ε τ) s = (.ok y, t) ↔ x = y ∧ t = s := by
  rw [runPure]
  constructor
  · rintro ⟨⟩
    exact ⟨rfl, rfl⟩
  · rintro ⟨rfl, rfl⟩
    rfl

theorem throwOk {e : ε} {y : τ} : (throw e : Attempt σ ε τ) s ≠ (.ok y, t) := by
  rw [runThrow]
  rintro ⟨⟩

theorem modifyOk {f : σ → σ} {u : Unit} :
    (modify f : Attempt σ ε Unit) s = (.ok u, t) ↔ t = f s := by
  rw [runModify]
  constructor
  · rintro ⟨⟩
    rfl
  · rintro rfl
    rfl

theorem bindOk {e : Attempt σ ε ρ} {k : ρ → Attempt σ ε τ} {y : τ} :
    (e >>= k) s = (.ok y, t) ↔ ∃ x u, e s = (.ok x, u) ∧ k x u = (.ok y, t) := by
  rw [runBind]
  rcases e s with ⟨_ | x, u⟩
  · constructor
    · rintro ⟨⟩
    · rintro ⟨_, _, ⟨⟩, _⟩
  · constructor
    · intro rest
      exact ⟨x, u, rfl, rest⟩
    · rintro ⟨_, _, ⟨⟩, rest⟩
      exact rest

theorem bindError {e : Attempt σ ε ρ} {k : ρ → Attempt σ ε τ} {cause : ε} :
    (e >>= k) s = (.error cause, t) ↔
      e s = (.error cause, t) ∨ ∃ x u, e s = (.ok x, u) ∧ k x u = (.error cause, t) := by
  rw [runBind]
  rcases e s with ⟨_ | x, u⟩
  · constructor
    · intro same
      cases same
      exact .inl rfl
    · intro either
      rcases either with same | ⟨_, _, impossible, _⟩
      · cases same
        rfl
      · exact nomatch impossible
  · constructor
    · intro rest
      exact .inr ⟨x, u, rfl, rest⟩
    · intro either
      rcases either with impossible | ⟨_, _, same, rest⟩
      · exact nomatch impossible
      · cases same
        exact rest

theorem bindRun {e : Attempt σ ε ρ} {k : ρ → Attempt σ ε τ} {r : Except ε τ} (run : (e >>= k) s = (r, t)) :
    (∃ cause, e s = (.error cause, t) ∧ r = .error cause) ∨ ∃ x u, e s = (.ok x, u) ∧ k x u = (r, t) := by
  cases r with
  | error cause =>
    rcases bindError.mp run with failed | later
    · exact .inl ⟨cause, failed, rfl⟩
    · exact .inr later
  | ok y => exact .inr (bindOk.mp run)

theorem foldlMError {f : β → τ → Attempt σ ε β} {xs : List τ} {b : β} {cause : ε}
    (failed : xs.foldlM f b s = (.error cause, t)) : ∃ before x rest b' u, xs = before ++ x :: rest ∧
      before.foldlM f b s = (.ok b', u) ∧ f b' x u = (.error cause, t) := by
  induction xs generalizing b s with
  | nil => exact nomatch failed
  | cons x xs ih =>
    rw [List.foldlM_cons] at failed
    rcases bindError.mp failed with here | ⟨b₁, s₁, first, later⟩
    · exact ⟨[], x, xs, b, s, rfl, rfl, here⟩
    · obtain ⟨before, y, rest, b', u, split, early, stops⟩ := ih later
      refine ⟨x :: before, y, rest, b', u, by rw [split, List.cons_append], ?_, stops⟩
      rw [List.foldlM_cons]
      exact bindOk.mpr ⟨b₁, s₁, first, early⟩

theorem foldlMOk {f : β → τ → Attempt σ ε β} {before rest : List τ} {x : τ} {b c : β}
    (ok : (before ++ x :: rest).foldlM f b s = (.ok c, t)) : ∃ b₁ s₁ b₂ s₂, before.foldlM f b s = (.ok b₁, s₁) ∧
      f b₁ x s₁ = (.ok b₂, s₂) ∧ rest.foldlM f b₂ s₂ = (.ok c, t) := by
  rw [List.foldlM_append] at ok
  obtain ⟨b₁, s₁, early, ok⟩ := bindOk.mp ok
  rw [List.foldlM_cons] at ok
  obtain ⟨b₂, s₂, here, late⟩ := bindOk.mp ok
  exact ⟨b₁, s₁, b₂, s₂, early, here, late⟩

theorem runTry (e : Attempt σ ε τ) (handle : ε → Attempt σ ε τ) :
    (tryCatch e handle) s = match e s with
      | (.ok x, t) => (.ok x, t)
      | (.error cause, t) => handle cause t := by
  change ExceptT.tryCatch e handle s = _
  simp only [ExceptT.tryCatch, ExceptT.mk, bind, StateT.bind]
  rcases e s with ⟨_ | _, _⟩ <;> rfl

theorem tryOk {e : Attempt σ ε τ} {handle : ε → Attempt σ ε τ} {y : τ}
    (ok : (tryCatch e handle) s = (.ok y, t)) :
    e s = (.ok y, t) ∨ ∃ cause u, e s = (.error cause, u) ∧ handle cause u = (.ok y, t) := by
  change ExceptT.tryCatch e handle s = _ at ok
  simp only [ExceptT.tryCatch, ExceptT.mk, bind, StateT.bind] at ok
  generalize e s = result at ok ⊢
  rcases result with ⟨cause | x, u⟩
  · exact .inr ⟨cause, u, rfl, ok⟩
  · exact .inl ok

theorem tryOfOk {e : Attempt σ ε τ} {handle : ε → Attempt σ ε τ} {y : τ} (ok : e s = (.ok y, t)) :
    (tryCatch e handle) s = (.ok y, t) := by
  change ExceptT.tryCatch e handle s = _
  simp only [ExceptT.tryCatch, ExceptT.mk, bind, StateT.bind]
  rw [ok]
  rfl

end Attempt

namespace Edit
open Attempt
variable {s t : Sketch α}

theorem runRead [Raises ε ε'] (f : Sketch α → Except ε τ) :
    (read f : Edit α ε' τ) s = match f s with
      | .ok x => (.ok x, s)
      | .error cause => (.error (Raises.raise cause), s) := by
  rw [read, runBind, runGet]
  change (match f s with
    | .ok x => pure x
    | .error cause => throw (Raises.raise cause) : Edit α ε' τ) s = _
  cases f s <;> rfl

theorem readOk [Raises ε ε'] {f : Sketch α → Except ε τ} {x : τ} :
    (read f : Edit α ε' τ) s = (.ok x, t) ↔ f s = .ok x ∧ t = s := by
  rw [runRead]
  cases f s with
  | error cause =>
    constructor
    · rintro ⟨⟩
    · rintro ⟨⟨⟩, _⟩
  | ok y =>
    constructor
    · rintro ⟨⟩
      exact ⟨rfl, rfl⟩
    · rintro ⟨⟨⟩, rfl⟩
      rfl

end Edit
end Drafting
