import Drafting.Proofs.Generate
import Drafting.Proofs.Solve
/-! Work on a sketch that leaves the groups in place. No edit, making anew or solving changes more of a
group than its slots, its outcome and the mark that it is to be made anew; what does not depend on these
stays, for this group and all others. -/
namespace Drafting

/-- What edits, making anew and solving leave alone in a group. -/
structure Group.Lasting (f : Group α → β) : Prop where
  clean : ∀ (g : Group α) clean, f { g with clean } = f g
  remap : ∀ (g : Group α) remap, f { g with remap } = f g
  solved : ∀ (g : Group α) solved, f { g with solved } = f g

namespace Sketch
variable [Scalar α] {f : Group α → β} {s t u : Sketch α}

structure Steady (f : Group α → β) (s t : Sketch α) : Prop where
  consistent : t.Consistent
  next : t.nextGroup = s.nextGroup
  same : ∀ k, (t.groups.get? k).map f = (s.groups.get? k).map f

section Relation
omit [Scalar α]

theorem Steady.refl (h : s.Consistent) : Steady f s s := ⟨h, rfl, fun _ => rfl⟩

theorem Steady.trans (first : Steady f s t) (next : Steady f t u) : Steady f s u where
  consistent := next.consistent
  next := next.next.trans first.next
  same k := (next.same k).trans (first.same k)

theorem Steady.coarser {g : Group α → γ} (step : Steady f s t) (coarse : ∀ a b, f a = f b → g a = g b) : Steady g s t where
  consistent := step.consistent
  next := step.next
  same k := by
    have both := step.same k
    cases before : s.groups.get? k with
    | none =>
      rw [before] at both
      exact Option.map_eq_none_iff.mpr (Option.map_eq_none_iff.mp both)
    | some a =>
      rw [before] at both
      obtain ⟨b, now, same⟩ := Option.map_eq_some_iff.mp both
      rw [now]
      exact congrArg some (coarse b a same)

theorem Steady.kept (step : Steady f s t) {k : GroupId} {g : Group α} (found : s.groups.get? k = some g) :
    ∃ g', t.groups.get? k = some g' ∧ f g' = f g := by
  have both := step.same k
  rw [found] at both
  exact Option.map_eq_some_iff.mp both

theorem Steady.before (step : Steady f s t) {k : GroupId} {g : Group α} (found : t.groups.get? k = some g) :
    ∃ g', s.groups.get? k = some g' ∧ f g' = f g := by
  have both := (step.same k).symm
  rw [found] at both
  exact Option.map_eq_some_iff.mp both

theorem steadyRecord (h : s.Consistent) (id : GroupId) {change : Group α → Group α}
    (keeps : ∀ g, g.id = id → (change g).id = id) (same : ∀ g, s.groups.get? id = some g → f (change g) = f g) :
    Steady f s (s.modifyGroup id change) where
  consistent := h.modifyGroup id keeps
  next := rfl
  same k := by
    refine (congrArg _ (h.groups.getModify id keeps k)).trans ?_
    split
    · rename_i eq
      subst eq
      cases found : s.groups.get? k with
      | none => rfl
      | some g => exact congrArg some (same g found)
    · rfl

end Relation

section Marks
variable (clean : ∀ (g : Group α) clean, f { g with clean } = f g)
include clean

theorem Change.unmarked (step : Change s t) (h : s.Consistent) : Steady f s t where
  consistent := step.consistent h
  next := step.groups.1
  same k := by
    rcases step.groups.2 with same | ⟨id, same⟩
    · rw [same]
    · have marked : Steady f s (s.markDirty id) := steadyRecord h id (fun _ same => same) fun g _ => clean g false
      rw [same]
      exact marked.same k

theorem Changes.unmarked (steps : Changes s t) (h : s.Consistent) : Steady f s t := by
  induction steps with
  | refl => exact .refl h
  | tail earlier step ih => exact ih.trans (step.unmarked clean ih.consistent)

theorem solveGroupUnmarked (solved : ∀ (g : Group α) solved, f { g with solved } = f g) (h : s.Consistent)
    (id : GroupId) (config : SolverConfig α) (clock : Nat → Nat) : Steady f s (s.solveGroup id config clock).2 := by
  cases found : s.groups.get? id with
  | none =>
    rw [solveGroupMissing found]
    exact .refl h
  | some g =>
    obtain ⟨u, outcome, steps, result⟩ := solveGroupSteps h found config clock
    rw [result]
    have kept := Changes.unmarked clean steps.changes h
    exact kept.trans (steadyRecord kept.consistent id (fun _ same => same) fun g _ => solved g outcome)

end Marks

variable (lasting : Group.Lasting f)
include lasting

theorem Change.steady (step : Change s t) (h : s.Consistent) : Steady f s t := step.unmarked lasting.clean h

theorem Changes.steady (steps : Changes s t) (h : s.Consistent) : Steady f s t :=
  Changes.unmarked lasting.clean steps h

theorem solveGroupSteady (h : s.Consistent) (id : GroupId) (config : SolverConfig α) (clock : Nat → Nat) :
    Steady f s (s.solveGroup id config clock).2 := solveGroupUnmarked lasting.clean lasting.solved h id config clock

omit lasting in
theorem redrawnAll (h : s.Consistent) (g : Group α) : (s.redrawn g).Consistent := by
  have entities := redrawnConsistent h.entities g
  have params := (redrawnParams h.params g).consistent
  rw [redrawnRecords] at entities ⊢
  exact { h with entities := entities, params := params }

omit lasting in
theorem redrawnSteady (h : s.Consistent) (g : Group α) : Steady f s (s.redrawn g) := by
  have records := redrawnRecords s g
  exact ⟨redrawnAll h g, by rw [records], fun k => by rw [records]⟩

theorem regrownSteady {g : Group α} {c : Copies α} (h : s.Consistent) (new : Regrown s g c t) : Steady f s t := by
  have groups : Steady f s (s.modifyGroup g.id ({ · with remap := c.remap })) :=
    steadyRecord h g.id (fun _ same => same) fun g _ => lasting.remap g c.remap
  refine ⟨⟨?_, ?_, ?_, ?_, new.params.consistent⟩, new.nextGroup, fun k => ?_⟩
  · rw [new.groups]
    split
    · exact groups.consistent.groups
    · exact h.groups
  · rw [new.requests]
    exact h.requests
  · rw [new.constraints]
    exact h.constraints
  · rw [new.entities]
    exact (h.entities.filter _).addAll _
  · rw [new.groups]
    split
    · exact groups.same k
    · rfl

theorem generateGroupSteady (h : s.Consistent) (id : GroupId) : Steady f s (generateGroup id s).2 := by
  cases found : s.groups.get? id with
  | none =>
    rw [generateGroupMissing found]
    exact .refl h
  | some g =>
    rw [generateGroupRun found (h.groups.keyOfGet found)]
    cases made : s.copied g with
    | error e => exact redrawnSteady h g
    | ok c => exact regrownSteady lasting h (regrownSpec h.params (copiedFits h.entities made))

end Sketch
end Drafting
