import Drafting.Proofs.Change
import Drafting.Proofs.Registry
/-! Sketches in which every registry finds each record by its key. All edits keep them so. -/
namespace Drafting.Sketch

/-- No two records of a kind have one handle, and each is found by its own. -/
structure Consistent (s : Sketch α) : Prop where
  groups : s.groups.Consistent
  requests : s.requests.Consistent
  constraints : s.constraints.Consistent
  entities : s.entities.Consistent
  params : s.params.Consistent

theorem startConsistent : ({} : Sketch α).Consistent where
  groups := Registry.emptyConsistent
  requests := Registry.emptyConsistent
  constraints := Registry.emptyConsistent
  entities := Registry.emptyConsistent
  params := Registry.emptyConsistent

section Records
variable {s : Sketch α}

theorem Consistent.modifyGroup (h : s.Consistent) (id : GroupId) {f : Group α → Group α}
    (keeps : ∀ g, g.id = id → (f g).id = id) : (s.modifyGroup id f).Consistent :=
  { h with groups := h.groups.modify id keeps }

theorem Consistent.markDirty (h : s.Consistent) (id : GroupId) : (s.markDirty id).Consistent :=
  h.modifyGroup id fun _ same => same

theorem Consistent.enterParam (h : s.Consistent) (kept : ParamId → Option α) (group : GroupId)
    (p : ParamId × α) : (s.enterParam kept group p).Consistent :=
  { h with params := h.params.add _ }

theorem enterHelpers {ps : Registry ParamId (Param α)} (h : ps.Consistent) (group : GroupId) (x : α)
    (ids : List ParamId) : (ids.foldl (fun ps p => ps.add ⟨p, group, x⟩) ps).Consistent := by
  induction ids generalizing ps with
  | nil => exact h
  | cons p rest ih => exact ih (h.add _)

theorem markDirtyGet (h : s.Consistent) (id k : GroupId) : (s.markDirty id).groups.get? k =
    if k = id then (s.groups.get? id).map ({ · with clean := false }) else s.groups.get? k :=
  h.groups.getModify (f := ({ · with clean := false })) id (fun _ same => same) k

end Records

variable [Scalar α] {s t : Sketch α}

theorem Consistent.enterRequest (h : s.Consistent) (kept : ParamId → Option α) (r : Request) :
    (s.enterRequest kept r).Consistent := by
  have entered (ps : List (ParamId × α)) {u : Sketch α} (hu : u.Consistent) :
      (ps.foldl (·.enterParam kept r.group ·) u).Consistent := by
    induction ps generalizing u with
    | nil => exact hu
    | cons p rest ih => exact ih (hu.enterParam kept r.group p)
  have withParams := entered r.params h
  exact { withParams with entities := withParams.entities.addAll _ }

theorem Adjustment.consistent (step : Adjustment s t) (h : s.Consistent) : t.Consistent := by
  cases step with
  | dirty g => exact h.markDirty g
  | value found x =>
    refine Consistent.markDirty ?_ _
    exact { h with params := h.params.modify _ fun _ same => same }
  | constrained fresh registered =>
    exact { h with params := enterHelpers h.params _ _ _, constraints := h.constraints.add _ }
  | restated found helpers => exact { h with constraints := h.constraints.modify _ fun _ same => same }
  | redirected old new => exact { h with constraints := h.constraints.map fun _ => rfl }
  | released found =>
    refine Consistent.markDirty ?_ _
    exact { h with constraints := h.constraints.remove _, params := h.params.filter _ }

theorem Adjustment.group (step : Adjustment s t) (h : s.Consistent) (k : GroupId) :
    t.groups.get? k = s.groups.get? k ∨
      t.groups.get? k = (s.groups.get? k).map ({ · with clean := false }) := by
  have marked (id : GroupId) : (s.markDirty id).groups.get? k = s.groups.get? k ∨
      (s.markDirty id).groups.get? k = (s.groups.get? k).map ({ · with clean := false }) := by
    rw [markDirtyGet h]
    split
    · rename_i same
      exact .inr (by rw [same])
    · exact .inl rfl
  cases step with
  | dirty g => exact marked g
  | value found x => exact marked _
  | released found => exact marked _
  | constrained | restated | redirected => exact .inl rfl

theorem Adjustments.consistent (steps : Adjustments s t) (h : s.Consistent) : t.Consistent := by
  induction steps with
  | refl => exact h
  | tail _ step ih => exact step.consistent ih

theorem Adjustments.group (steps : Adjustments s t) (h : s.Consistent) (k : GroupId) :
    t.groups.get? k = s.groups.get? k ∨
      t.groups.get? k = (s.groups.get? k).map ({ · with clean := false }) := by
  induction steps with
  | refl => exact .inl rfl
  | tail earlier step ih =>
    rcases step.group (Adjustments.consistent earlier h) k with same | marked
    · rw [same]
      exact ih
    · rcases ih with same | before
      · exact .inr (marked.trans (by rw [same]))
      · refine .inr (marked.trans ?_)
        rw [before, Option.map_map]
        rfl

theorem Change.consistent (step : Change s t) (h : s.Consistent) : t.Consistent := by
  cases step with
  | adjusted step => exact step.consistent h
  | @drawn r fresh allowed =>
    have numbered : Consistent { s with nextRequest := s.nextRequest + 1 } := { h with }
    have entered := numbered.enterRequest (fun _ => none) r
    refine Consistent.markDirty ?_ _
    exact { entered with requests := entered.requests.add r }
  | construction found b =>
    refine Consistent.markDirty ?_ _
    refine { h with requests := h.requests.modify _ fun _ same => same, entities := h.entities.map fun e => ?_ }
    split <;> rfl
  | erased found =>
    refine Consistent.markDirty ?_ _
    exact { h with entities := h.entities.filter _, params := h.params.filter _,
                   requests := h.requests.remove _ }

theorem Change.groups (step : Change s t) : t.nextGroup = s.nextGroup ∧
    (t.groups = s.groups ∨ ∃ id, t.groups = (s.markDirty id).groups) := by
  cases step with
  | adjusted step =>
    cases step with
    | dirty g => exact ⟨rfl, .inr ⟨g, rfl⟩⟩
    | value found x => exact ⟨rfl, .inr ⟨_, rfl⟩⟩
    | released found => exact ⟨rfl, .inr ⟨_, rfl⟩⟩
    | constrained | restated | redirected => exact ⟨rfl, .inl rfl⟩
  | @drawn r fresh allowed =>
    have entered (ps : List (ParamId × α)) (u : Sketch α) :
        (ps.foldl (·.enterParam (fun _ => none) r.group ·) u).groups = u.groups ∧
          (ps.foldl (·.enterParam (fun _ => none) r.group ·) u).nextGroup = u.nextGroup := by
      induction ps generalizing u with
      | nil => exact ⟨rfl, rfl⟩
      | cons p rest ih => exact ih _
    obtain ⟨groups, next⟩ := entered r.params { s with nextRequest := s.nextRequest + 1 }
    exact ⟨next, .inr ⟨r.group, congrArg (·.modify r.group ({ · with clean := false })) groups⟩⟩
  | construction found b => exact ⟨rfl, .inr ⟨_, rfl⟩⟩
  | erased found => exact ⟨rfl, .inr ⟨_, rfl⟩⟩

end Drafting.Sketch
