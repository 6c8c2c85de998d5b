import Drafting.Proofs.Confined
/-! A whole pass: which groups it makes anew, and that it leaves all others alone with everything that
belongs to them. Both kinds of pass first mark some groups, one of them all groups. -/
namespace Drafting

def Group.pattern (g : Group α) : GroupId × GroupKind α × Option GroupId × RemapTable :=
  (g.id, g.kind, g.source, g.remap)

namespace Sketch

/-- Some groups are the same in two sketches, with everything that belongs to them. -/
structure Alike (K : GroupId → Prop) (s t : Sketch α) : Prop where
  requests : t.requests = s.requests
  groups : ∀ k, K k → (t.groups.get? k).map Group.pattern = (s.groups.get? k).map Group.pattern
  entities : ∀ k, K k → t.entities.toList.filter (·.group == k) = s.entities.toList.filter (·.group == k)
  params : ∀ k, K k → t.params.toList.filter (·.group == k) = s.params.toList.filter (·.group == k)

namespace Alike
variable {K L : GroupId → Prop} {s t u : Sketch α}

theorem refl (K : GroupId → Prop) (s : Sketch α) : Alike K s s := ⟨rfl, fun _ _ => rfl, fun _ _ => rfl, fun _ _ => rfl⟩

theorem symm (h : Alike K s t) : Alike K t s where
  requests := h.requests.symm
  groups k inside := (h.groups k inside).symm
  entities k inside := (h.entities k inside).symm
  params k inside := (h.params k inside).symm

theorem trans (first : Alike K s t) (next : Alike K t u) : Alike K s u where
  requests := next.requests.trans first.requests
  groups k inside := (next.groups k inside).trans (first.groups k inside)
  entities k inside := (next.entities k inside).trans (first.entities k inside)
  params k inside := (next.params k inside).trans (first.params k inside)

theorem fewer (h : Alike K s t) (fewer : ∀ k, L k → K k) : Alike L s t where
  requests := h.requests
  groups k inside := h.groups k (fewer k inside)
  entities k inside := h.entities k (fewer k inside)
  params k inside := h.params k (fewer k inside)

theorem entity (h : Alike K s t) (before : s.entities.Consistent) (after : t.entities.Consistent) {id : EntityId}
    {e : Entity α} (inside : K e.group) (found : s.entities.get? id = some e) : t.entities.get? id = some e := by
  obtain ⟨member, named⟩ := before.getIff.mp found
  have ours : e ∈ s.entities.toList.filter (·.group == e.group) := List.mem_filter.mpr ⟨member, by simp⟩
  exact after.getIff.mpr ⟨(List.mem_filter.mp (h.entities e.group inside ▸ ours)).1, named⟩

theorem param (h : Alike K s t) (before : s.params.Consistent) (after : t.params.Consistent) {id : ParamId}
    {p : Param α} (inside : K p.group) (found : s.params.get? id = some p) : t.params.get? id = some p := by
  obtain ⟨member, named⟩ := before.getIff.mp found
  have ours : p ∈ s.params.toList.filter (·.group == p.group) := List.mem_filter.mpr ⟨member, by simp⟩
  exact after.getIff.mpr ⟨(List.mem_filter.mp (h.params p.group inside ▸ ours)).1, named⟩

end Alike

section Steps
variable {s t : Sketch α} {id : GroupId}

theorem Confined.alike (step : Confined id s t) (before : s.groups.Consistent) (after : t.groups.Consistent) :
    Alike (· ≠ id) s t := by
  have kept {τ : Type} (group : τ → GroupId) (xs : List τ) {k : GroupId} (differs : k ≠ id) :
      xs.filter (group · == k) = (xs.filter (group · != id)).filter (group · == k) := by
    rw [List.filter_filter]
    refine List.filter_congr fun x _ => ?_
    by_cases same : group x = k <;> simp [same, differs]
  refine ⟨step.requests, fun k differs => ?_, fun k differs => ?_, fun k differs => ?_⟩
  · rw [step.other before after differs]
  · rw [kept Entity.group _ differs, step.entities, ← kept _ _ differs]
  · rw [kept Param.group _ differs, step.params, ← kept _ _ differs]

theorem markedAlike (h : s.Consistent) (ids : List GroupId) : Alike (fun _ => True) s (ids.foldl markDirty s) := by
  induction ids generalizing s with
  | nil => exact .refl _ s
  | cons id rest ih =>
    refine Alike.trans ?_ (ih (h.markDirty id))
    refine ⟨rfl, fun k _ => ?_, fun _ _ => rfl, fun _ _ => rfl⟩
    rw [markDirtyGet h]
    split
    · rename_i same
      rw [same, Option.map_map]
      rfl
    · rfl

theorem markedDirty (h : s.Consistent) (ids : List GroupId) {k : GroupId} {g : Group α}
    (marked : k ∈ ids ∨ ∀ g, s.groups.get? k = some g → g.clean = false)
    (found : (ids.foldl markDirty s).groups.get? k = some g) : g.clean = false := by
  induction ids generalizing s with
  | nil => exact (marked.resolve_left List.not_mem_nil) g found
  | cons id rest ih =>
    refine ih (h.markDirty id) ?_ found
    by_cases later : k ∈ rest
    · exact .inl later
    · refine .inr fun g now => ?_
      rw [markDirtyGet h] at now
      split at now
      · obtain ⟨_, _, same⟩ := Option.map_eq_some_iff.mp now
        exact same ▸ rfl
      · rename_i other
        exact marked.resolve_left (fun member => (List.mem_cons.mp member).elim other later) g now

theorem allDirty (h : s.Consistent) {k : GroupId} {g : Group α}
    (found : (s.groups.keys.foldl markDirty s).groups.get? k = some g) : g.clean = false := by
  refine markedDirty h _ ?_ found
  by_cases there : k ∈ s.groups.keys
  · exact .inl there
  · exact .inr fun g found => absurd (Registry.memKeys.mpr ⟨g, Registry.memOfGet found, h.groups.keyOfGet found⟩) there

end Steps

theorem rebuiltAlike [Scalar α] {config : EngineConfig α} {clock : Nat → Nat} {s t : Sketch α} {id : GroupId}
    (h : s.Intact) (step : Regen.Rebuilt config clock s id t) : t.Intact ∧ Alike (· ≠ id) s t := by
  have intact := Regen.rebuiltIntact h step
  exact ⟨intact, (rebuiltConfined h step).1.alike h.groups intact.groups⟩

end Sketch

def RegenReport.order (r : RegenReport α) : List GroupId := r.groups.map GroupReport.group

namespace Regen
open Sketch (Alike rebuiltAlike)

def Progress.made (p : Progress α) : List GroupId := (⟨p.reports⟩ : RegenReport α).regenerated

section Visits
variable {p p' : Progress α} {id : GroupId}

theorem madeNext {needed : Bool} {outcome : SolveOutcome} {failures : List (GroupFailure α)}
    (reports : p'.reports = p.reports ++ [⟨id, needed, outcome, failures⟩]) :
    p'.made = p.made ++ if needed then [id] else [] := by
  rw [Progress.made, reports]
  cases needed <;> simp [Progress.made, RegenReport.regenerated, List.filter_append]

variable [Scalar α] {config : EngineConfig α} {clock : Nat → Nat} {s t : Sketch α} {order : List GroupId}

theorem passesAlike (steps : Passes config clock s p order t p') (h : s.Intact) :
    t.Intact ∧ (∀ k ∈ p.made, k ∈ p'.made) ∧ Alike (fun k => k ∈ order → k ∉ p'.made) s t := by
  induction steps with
  | done => exact ⟨h, fun _ member => member, .refl _ _⟩
  | @visit s t u p p₁ p₂ id rest g now first others ih =>
    have next := madeNext first.reports
    obtain ⟨kept, alike⟩ : t.Intact ∧ Alike (fun k => k = id → k ∉ p₁.made) s t := by
      cases needed : isNeeded s g p with
      | false =>
        obtain rfl := first.skipped needed
        exact ⟨h, .refl _ _⟩
      | true =>
        obtain ⟨kept, alike⟩ := rebuiltAlike h (first.rebuilt needed)
        refine ⟨kept, alike.fewer fun k apart same => apart same ?_⟩
        rw [next, needed, same]
        exact List.mem_append_right _ List.mem_cons_self
    obtain ⟨intact, more, later⟩ := ih kept
    refine ⟨intact, fun k member => more k ?_, ?_⟩
    · rw [next]
      exact List.mem_append_left _ member
    · refine (alike.fewer fun k apart same before => ?_).trans (later.fewer fun k apart member => ?_)
      · exact apart (same ▸ List.mem_cons_self) (more k before)
      · exact apart (List.mem_cons_of_mem _ member)

theorem passesVisited (steps : Passes config clock s p order t p') :
    p'.reports.map GroupReport.group = p.reports.map GroupReport.group ++ order := by
  induction steps with
  | done => exact (List.append_nil _).symm
  | visit first others ih =>
    rw [ih, first.reports, List.map_append, List.append_assoc, List.map_singleton, List.singleton_append]

theorem passesRebuilt (steps : Passes config clock s p order t p') (member : id ∈ p'.made) : id ∈ p.made ∨
    ∃ done rest a b p₁ p₂, order = done ++ id :: rest ∧ Passes config clock s p done a p₁ ∧ Rebuilt config clock a id b ∧
      Passes config clock b p₂ rest t p' := by
  induction steps with
  | done => exact .inl member
  | @visit s t u p p₁ p₂ id' rest g now first others ih =>
    rcases ih member with before | ⟨done, rest', a, b, q₁, q₂, rfl, early, rebuilt, late⟩
    · rw [madeNext first.reports, List.mem_append] at before
      refine before.imp_right fun new => ?_
      cases needed : isNeeded s g p with
      | false => simp [needed] at new
      | true =>
        obtain rfl : id = id' := by simpa [needed] using new
        exact ⟨[], rest, s, t, p, p₁, rfl, .done s p, first.rebuilt needed, others⟩
    · exact .inr ⟨id' :: done, rest', a, b, q₁, q₂, rfl, .visit first early, rebuilt, late⟩

theorem passesMade (h : s.Intact) (once : order.Nodup)
    (dirty : ∀ id ∈ order, ∀ g, s.groups.get? id = some g → g.clean = false) (steps : Passes config clock s p order t p') :
    ∀ r ∈ p'.reports, r ∈ p.reports ∨ r.regenerated = true := by
  induction steps with
  | done => exact fun r member => .inl member
  | @visit s t u p p₁ p₂ id rest g now first others ih =>
    obtain ⟨later, once⟩ := List.nodup_cons.mp once
    have needed : isNeeded s g p = true := by simp [isNeeded, dirty id List.mem_cons_self g first.found]
    have rebuilt := first.rebuilt needed
    have kept := rebuiltIntact h rebuilt
    have confined := (Sketch.rebuiltConfined h rebuilt).1
    have still (x : GroupId) (member : x ∈ rest) (g : Group α) (there : t.groups.get? x = some g) : g.clean = false := by
      refine dirty x (List.mem_cons_of_mem _ member) g ((confined.other h.groups kept.groups ?_).symm.trans there)
      rintro rfl
      exact later member
    intro r member
    rcases ih kept once still r member with before | new
    · rw [first.reports, needed, List.mem_append, List.mem_singleton] at before
      rcases before with before | same
      · exact .inl before
      · exact .inr (by rw [same])
    · exact .inr new

end Visits
end Regen

def Command.IsPass : Command α → Prop
  | regenerateAll | regenerateFrom _ => True
  | _ => False

namespace Session
open Regen Sketch
variable [Scalar α] {s t : Session α} {clock : Nat → Nat} {report : RegenReport α}

omit [Scalar α] in
theorem regeneratingReport {work : Regen α (RegenReport α)} (ok : Work.regenerating work s = (.ok (.report report), t)) :
    work s.model = (.ok report, t.model) := by
  obtain ⟨_, ⟨_, run, same⟩ | ⟨_, _, failed⟩⟩ := regeneratingRun ok
  · cases same
    exact run
  · cases failed

theorem passMarks {c : Command α} (passes : c.IsPass) (ok : perform clock c s = (.ok (.report report), t)) : ∃ ids,
    Regen.pass s.config clock ⟨ids.foldl markDirty s.sketch, s.model.kernel⟩ = (.ok report, t.model) ∧
      (c = .regenerateAll → ids = s.sketch.groups.keys) := by
  cases c with
  | regenerateAll =>
    have run : Regen.all s.config clock s.model = _ := regeneratingReport ok
    exact ⟨_, Regen.allRun run, fun _ => rfl⟩
  | regenerateFrom group =>
    have run : Regen.startingAt s.config clock group s.model = _ := regeneratingReport ok
    rcases Regen.startingAtRun run with ⟨failed, _⟩ | ⟨_, passed⟩
    · cases failed
    · exact ⟨[group], passed, fun impossible => nomatch impossible⟩
  | _ => exact passes.elim

theorem allMade (h : s.sketch.Intact) (ok : perform clock .regenerateAll s = (.ok (.report report), t)) :
    report.regenerated = report.order := by
  obtain ⟨ids, run, every⟩ := passMarks (by trivial) ok
  obtain rfl := every rfl
  obtain ⟨order, p, sorted, steps, rfl⟩ := Regen.passOk run
  have marked := Changes.intact (dirtyAll s.sketch.groups.keys s.sketch).changes h
  have made := passesMade marked (regenerationOrderIsOrder sorted).once (fun _ _ _ => allDirty h.toConsistent) steps
  have all : ∀ r ∈ p.reports, r.regenerated = true := fun r member => (made r member).resolve_left List.not_mem_nil
  rw [RegenReport.regenerated, List.filter_eq_self.mpr all, RegenReport.order]

end Session
end Drafting
