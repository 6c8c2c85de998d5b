import Drafting.Proofs.Dependency
import Drafting.Proofs.Rebuild
/-! Work on one group stays within it. Making it anew, solving it and regenerating it leave the records
of all other groups as they were and in their order, and take no constraint away but those of the group
that name what is not there. -/
namespace Drafting.Sketch
variable {s t u : Sketch α} {id : GroupId}

/-- Only what belongs to one group differs; the rest is there as before and in the same order. -/
structure Confined (id : GroupId) (s t : Sketch α) : Prop where
  requests : t.requests = s.requests
  groups : t.groups.toList.filter (·.id != id) = s.groups.toList.filter (·.id != id)
  constraints : t.constraints.toList.filter (·.group != id) = s.constraints.toList.filter (·.group != id)
  entities : t.entities.toList.filter (·.group != id) = s.entities.toList.filter (·.group != id)
  params : t.params.toList.filter (·.group != id) = s.params.toList.filter (·.group != id)

theorem Confined.refl (id : GroupId) (s : Sketch α) : Confined id s s := ⟨rfl, rfl, rfl, rfl, rfl⟩

theorem Confined.trans (first : Confined id s t) (next : Confined id t u) : Confined id s u where
  requests := next.requests.trans first.requests
  groups := next.groups.trans first.groups
  constraints := next.constraints.trans first.constraints
  entities := next.entities.trans first.entities
  params := next.params.trans first.params

theorem confinedToRecord (h : s.groups.Consistent) {f : Group α → Group α} (keeps : ∀ g, g.id = id → (f g).id = id) :
    Confined id s (s.modifyGroup id f) where
  requests := rfl
  groups := h.modifyOther fun g found => by
    have named : g.id = id := h.keyOfGet found
    simp [named, keeps g named]
  constraints := rfl
  entities := rfl
  params := rfl

theorem Confined.other (step : Confined id s t) (before : s.groups.Consistent) (after : t.groups.Consistent) {k : GroupId}
    (differs : k ≠ id) : t.groups.get? k = s.groups.get? k := by
  refine Registry.getCongr after before fun g named => ?_
  have kept (groups : Registry GroupId (Group α)) : g ∈ groups.toList ↔ g ∈ groups.toList.filter (·.id != id) := by
    simp [List.mem_filter, show g.id = k from named, differs]
  rw [kept, step.groups, ← kept]

section Generate
variable [Scalar α] {g : Group α} {c : Copies α}

theorem contentApart (h : s.Intact) (fits : Fits g c) : ∀ e ∈ s.content g c, e.group = g.id ∧
    ∀ e', s.entities.get? e.id = some e' → e'.group = g.id := by
  intro e member
  rcases contentCases h.requests fits member with ⟨ours, made⟩ | ⟨q, registered, group, part⟩
  · exact ⟨made.group, fun e' found => (h.made e.id e' g.id found ours).group⟩
  · have drawn : e.group = g.id := (Request.drawn part).group.trans group
    refine ⟨drawn, fun e' found => ?_⟩
    obtain rfl := Option.some.inj (found.symm.trans (h.present q.id q registered e part))
    exact drawn

theorem regrownConfined (h : s.Intact) (fits : Fits g c) (new : Regrown s g c t) : Confined g.id s t where
  requests := new.requests
  groups := by
    rw [new.groups]
    split
    · exact (confinedToRecord (f := ({ · with remap := c.remap })) h.groups fun _ same => same).groups
    · rfl
  constraints := by rw [new.constraints]
  entities := by
    have apart := contentApart h fits
    rw [new.entities, (h.entities.filter _).addAllOther]
    · rw [Registry.toListFilter, List.filter_filter]
      simp
    · intro e member
      simp [(apart e member).1]
    · intro e member e' found
      simpa using (apart e member).2 e' (h.entities.foundFilter.mp found).1
  params := by
    obtain ⟨xs, named, ours, same⟩ := new.params.listed
    rw [same, (h.params.filter _).addAllOther]
    · rw [Registry.toListFilter, List.filter_filter]
      simp
    · intro x member
      simp [ours x member]
    · intro x member y found
      have before := (h.params.foundFilter.mp found).1
      have listed : x.id ∈ s.paramsOf g ++ s.helpersOf g := named ▸ List.mem_map_of_mem member
      simpa using (h.owned x.id y before).unique (ownedInGroup h listed)

theorem generateGroupConfined (h : s.Intact) (ok : generateGroup id s = (.ok (), t)) :
    Confined id s t ∧ t.constraints = s.constraints := by
  obtain ⟨g, c, found, named, made, rfl⟩ := generateGroupOk h.groups ok
  have fits := copiedFits h.entities made
  have new := regrownSpec h.params fits
  exact ⟨named ▸ regrownConfined h fits new, new.constraints⟩

end Generate

/-- What solving a group comes to: some of its constraints are gone, each with the parameters it
needed, and its other parameters have new values. -/
structure Settles (id : GroupId) (gone : List ConstraintId) (s t : Sketch α) : Prop extends Confined id s t where
  drawing : t.entities = s.entities
  remaining : t.constraints.toList = s.constraints.toList.filter (·.id ∉ gone)
  unknowns : t.params.toList.map (fun p => (p.id, p.group)) =
    (s.params.toList.map fun p => (p.id, p.group)).filter fun p => ∀ c ∈ gone, p.1.owner ≠ .constraint c

namespace Settles
variable {gone more : List ConstraintId}

theorem refl (id : GroupId) (s : Sketch α) : Settles id [] s s where
  toConfined := .refl id s
  drawing := rfl
  remaining := by simp
  unknowns := by simp

theorem trans (first : Settles id gone s t) (next : Settles id more t u) : Settles id (gone ++ more) s u where
  toConfined := first.toConfined.trans next.toConfined
  drawing := next.drawing.trans first.drawing
  remaining := by
    rw [next.remaining, first.remaining, List.filter_filter]
    congr 1
    funext c
    simp [Bool.and_comm]
  unknowns := by
    rw [next.unknowns, first.unknowns, List.filter_filter]
    congr 1
    funext p
    simp only [List.mem_append, or_imp, forall_and, Bool.decide_and, Bool.and_comm]

end Settles

theorem settlesRecord (h : s.groups.Consistent) {f : Group α → Group α} (keeps : ∀ g, g.id = id → (f g).id = id) :
    Settles id [] s (s.modifyGroup id f) :=
  { Settles.refl id s with toConfined := confinedToRecord h keeps }

theorem Settles.marked {gone : List ConstraintId} (h : Settles id gone s t) (keyed : t.groups.Consistent) :
    Settles id gone s (t.markDirty id) := by
  have mark : Settles id [] t (t.markDirty id) := settlesRecord keyed fun _ same => same
  exact List.append_nil gone ▸ h.trans mark

theorem setParamSettles (h : s.Consistent) {p : ParamId} (ours : ∀ r, s.params.get? p = some r → r.group = id) (x : α) :
    Settles id [] s ((setParam p x).attempt s) := by
  rw [setParamAttempt]
  cases found : s.params.get? p with
  | none => exact .refl id s
  | some r =>
    have owned := ours r found
    have stored : Settles id [] s { s with params := s.params.modify p ({ · with value := x }) } :=
      { Settles.refl id s with
        params := h.params.modifyOther fun r' found' => by
          have same := ours r' found'
          simp [same]
        unknowns := by
          rw [h.params.toListModify, List.map_map]
          simp only [List.not_mem_nil, false_imp_iff, implies_true, decide_true, List.filter_true]
          refine List.map_congr_left fun y _ => ?_
          simp only [Function.comp]
          split <;> rfl }
    subst owned
    exact stored.marked h.groups

theorem storeValuesSettles [Scalar α] (h : s.Consistent) {values : List (ParamId × α)}
    (ours : ∀ v ∈ values, ∀ r, s.params.get? v.1 = some r → r.group = id) :
    Settles id [] s (s.storeValues values) := by
  induction values generalizing s with
  | nil => exact .refl id s
  | cons v rest ih =>
    have moved := Adjustments.consistent (setParamGradual v.1 v.2 s) h
    refine (setParamSettles h (ours v List.mem_cons_self) v.2).trans (ih moved fun w member r found => ?_)
    have read := setParamGet h v.1 w.1 v.2
    rw [show ((setParam v.1 v.2).attempt s).params.get? w.1 = _ from found] at read
    split at read
    · obtain ⟨r', found', same⟩ := Option.map_eq_some_iff.mp read.symm
      exact same ▸ ours v List.mem_cons_self r' found'
    · exact ours w (List.mem_cons_of_mem _ member) r read.symm

theorem deleteConstraintSettles (h : s.Intact) {i : ConstraintId}
    (ours : ∀ c, s.constraints.get? i = some c → c.group = id) : Settles id [i] s ((deleteConstraint i).attempt s) := by
  -- A parameter with the name of a constraint belongs to one that is there.
  have helper (p : Param α) (member : p ∈ s.params.toList) (owner : p.id.owner = .constraint i) :
      ∃ c, s.constraints.get? i = some c ∧ p.group = id := by
    have owned := h.owned p.id p (h.params.getOfMem member)
    simp only [OwnedBy, owner] at owned
    obtain ⟨c, found, same⟩ := owned
    exact ⟨c, found, same.symm.trans (ours c found)⟩
  rw [deleteConstraintAttempt]
  cases found : s.constraints.get? i with
  | none =>
    refine { Settles.refl id s with remaining := ?_, unknowns := ?_ }
    · symm
      rw [List.filter_eq_self]
      intro c member
      have other : c.id ≠ i := by
        intro same
        have there : s.constraints.get? c.id = some c := h.constraints.getOfMem member
        rw [same, found] at there
        cases there
      simp [other]
    · symm
      rw [List.filter_eq_self]
      intro place member
      obtain ⟨p, inside, rfl⟩ := List.mem_map.mp member
      have other : p.id.owner ≠ .constraint i := by
        intro same
        obtain ⟨c, there, _⟩ := helper p inside same
        rw [found] at there
        cases there
      simp [other]
  | some c =>
    have owned := ours c found
    have gone : Settles id [i] s { s with
        constraints := s.constraints.remove i
        params := s.params.filter (·.id.owner != ParamOwner.constraint i) } :=
      { Confined.refl id s with
        drawing := rfl
        remaining := by
          rw [h.constraints.toListRemove]
          exact List.filter_congr fun c _ => by simp [Keyed.key, bne, BEq.beq]
        unknowns := by
          rw [Registry.toListFilter, List.filter_map]
          refine congrArg _ (List.filter_congr fun p _ => ?_)
          simp [bne, BEq.beq]
        constraints := by
          rw [h.constraints.toListRemove, List.filter_filter]
          refine List.filter_congr fun k member => ?_
          by_cases same : k.id = i
          · have there : s.constraints.get? k.id = some k := h.constraints.getOfMem member
            simp [Keyed.key, ours k (same ▸ there)]
          · simp [Keyed.key, same]
        params := by
          rw [Registry.toListFilter, List.filter_filter]
          refine List.filter_congr fun p member => ?_
          by_cases owner : p.id.owner = .constraint i
          · obtain ⟨_, _, group⟩ := helper p member owner
            simp [group]
          · simp [owner] }
    subst owned
    exact gone.marked h.groups

section Solve
variable [Scalar α]

theorem deleteConstraintsSettle (h : s.Intact) {ids : List ConstraintId}
    (ours : ∀ i ∈ ids, ∀ c, s.constraints.get? i = some c → c.group = id) : Settles id ids s (s.deleteConstraints ids) := by
  induction ids generalizing s with
  | nil => exact .refl id s
  | cons i rest ih =>
    have first := deleteConstraintSettles h (ours i List.mem_cons_self)
    have after := Adjustments.intact (deleteConstraintGradual i s) h
    refine first.trans (ih after fun j member c found => ?_)
    have inside : c ∈ ((deleteConstraint i).attempt s).constraints.toList := Registry.memOfGet found
    have named : c.id = j := after.constraints.keyOfGet found
    rw [first.remaining] at inside
    have before := h.constraints.getOfMem (List.mem_filter.mp inside).1
    exact ours j (List.mem_cons_of_mem _ member) c (named ▸ before)

/-- Some constraints of a group that name what is not there any more. -/
def Dangling (id : GroupId) (gone : List ConstraintId) (s t : Sketch α) : Prop :=
  ∀ i ∈ gone, ∃ c, s.constraints.get? i = some c ∧ c.group = id ∧ ∃ e ∈ c.references, t.hasEntity e = false

omit [Scalar α] in
theorem pruneDangling (h : s.constraints.Consistent) (id : GroupId) : Dangling id (s.prune id).1 s s := by
  intro i member
  obtain ⟨c, inside, rfl⟩ := List.mem_map.mp member
  obtain ⟨there, doomed⟩ := List.mem_filter.mp inside
  simp only [Bool.and_eq_true, beq_iff_eq, List.any_eq_true, Bool.not_eq_true'] at doomed
  exact ⟨c, h.getOfMem there, doomed⟩

theorem pruneSettles (h : s.Intact) (id : GroupId) : Settles id (s.prune id).1 s (s.prune id).2 := by
  refine deleteConstraintsSettle h fun i member c found => ?_
  obtain ⟨c', there, group, _⟩ := pruneDangling h.constraints id i member
  obtain rfl := Option.some.inj (found.symm.trans there)
  exact group

theorem solveGroupSettles (h : s.Intact) (id : GroupId) (config : SolverConfig α) (clock : Nat → Nat) :
    ∃ gone, Dangling id gone s s ∧ Settles id gone s (s.solveGroup id config clock).2 := by
  cases found : s.groups.get? id with
  | none =>
    rw [solveGroupMissing found]
    exact ⟨[], by simp [Dangling], .refl id s⟩
  | some g =>
    obtain ⟨u, outcome, values, steps, ours, result⟩ := solveGroupStored h.toConsistent found config clock
    rw [result]
    suffices ∃ gone, Dangling id gone s s ∧ Settles id gone s u ∧ u.groups.Consistent by
      obtain ⟨gone, dangling, settled, keyed⟩ := this
      have recorded : Settles id [] u (u.modifyGroup id ({ · with solved := outcome })) :=
        settlesRecord keyed fun _ same => same
      exact ⟨gone, dangling, List.append_nil gone ▸ settled.trans recorded⟩
    rcases steps with same | stored
    · exact ⟨[], by simp [Dangling], same ▸ .refl id s, same ▸ h.groups⟩
    · have pruned := Adjustments.intact (pruneGradual s id) h
      have settled : Settles id [] (s.prune id).2 u := stored ▸ storeValuesSettles pruned.toConsistent fun v member r there => by
        obtain ⟨r', there', group⟩ := ours v member
        exact Option.some.inj (there.symm.trans there') ▸ group
      have steady : u.Consistent := stored ▸ Adjustments.consistent (storeValuesGradual values _) pruned.toConsistent
      have both := (pruneSettles h id).trans settled
      exact ⟨(s.prune id).1, pruneDangling h.constraints id, List.append_nil (s.prune id).1 ▸ both, steady.groups⟩

theorem rebuiltConfined {config : EngineConfig α} {clock : Nat → Nat} (h : s.Intact)
    (step : Regen.Rebuilt config clock s id t) : Confined id s t ∧ ∃ gone, Dangling id gone s t ∧
      t.constraints.toList = s.constraints.toList.filter fun c => c.id ∉ gone := by
  obtain ⟨u, loops, shell, running, failures, made, same⟩ := step
  have fresh := generateGroupIntact h made
  obtain ⟨confined, kept⟩ := generateGroupConfined h made
  obtain ⟨gone, dangling, settled⟩ := solveGroupSettles fresh id config.solver clock
  have steady := Regen.solveGroupIntact fresh id config.solver clock
  dsimp only at same
  generalize (u.solveGroup id config.solver clock).2 = v at same settled steady
  subst same
  refine ⟨(confined.trans settled.toConfined).trans (confinedToRecord steady.groups fun _ same => same), gone, ?_, ?_⟩
  · intro i member
    obtain ⟨c, found, group, e, named, absent⟩ := dangling i member
    refine ⟨c, kept ▸ found, group, e, named, ?_⟩
    change v.entities.contains e = false
    rw [settled.drawing]
    exact absent
  · exact settled.remaining.trans (by rw [kept])

theorem confinedToOneGroup {config : EngineConfig α} {a : Session α} (reached : Session.Reached config a) (id : GroupId) :
    (∀ t, generateGroup id a.sketch = (.ok (), t) → Confined id a.sketch t ∧ t.constraints = a.sketch.constraints) ∧
    (∀ (solver : SolverConfig α) (clock : Nat → Nat), ∃ gone, Dangling id gone a.sketch a.sketch ∧
      Settles id gone a.sketch (a.sketch.solveGroup id solver clock).2) ∧
    ∀ (engine : EngineConfig α) (clock : Nat → Nat) (prior : Option ShellId) (kernel : Kernel α) (m : Model α),
      Regen.regenerateGroup engine clock id prior ⟨a.sketch, kernel⟩ = (.ok (), m) →
      Confined id a.sketch m.sketch ∧ ∃ gone, Dangling id gone a.sketch m.sketch ∧
        m.sketch.constraints.toList = a.sketch.constraints.toList.filter fun c => c.id ∉ gone := by
  have intact := (Session.reachedIntact reached).sketch
  refine ⟨fun t ok => generateGroupConfined intact ok, fun solver clock => ?_, fun engine clock prior kernel m ok => ?_⟩
  · exact solveGroupSettles intact id solver clock
  · exact rebuiltConfined intact (Regen.regenerateGroupOk (m := ⟨a.sketch, kernel⟩) ok)

end Solve

theorem workplaneBesideCopies : ∃ (a : Session Float) (t : Sketch Float) (m : Model Float) (e : Entity Float),
    Session.Reached .standard a ∧ a.sketch.groups.get? ⟨2⟩ = some shiftGroup ∧ e ∈ a.sketch.entities.toList ∧
    e.group = ⟨1⟩ ∧ e.kind = .workplane (tilted.point 0) tilted.normal ∧
    generateGroup ⟨1⟩ a.sketch = (.ok (), t) ∧ e ∈ t.entities.toList ∧ Confined ⟨1⟩ a.sketch t ∧
    Regen.regenerateGroup .standard (fun n => n) ⟨1⟩ none ⟨a.sketch, {}⟩ = (.ok (), m) ∧
    Confined ⟨1⟩ a.sketch m.sketch := by
  obtain ⟨a, fitted, planed⟩ := planedFitted
  have first := planed.groups.first
  have drawn : a.sketch.requests.get? tilted.id = some tilted := by
    rw [planed.requests]
    exact startIntact.requests.getAddSelf tilted
  let e : Entity Float := tilted.part tilted.entity (.workplane (tilted.point 0) tilted.normal)
  have part : e ∈ tilted.entities := by simp [Request.entities, tilted, e]
  have reached := fitted.reached
  have intact := (Session.reachedIntact reached).sketch
  have copied : a.sketch.copied drawingGroup = .ok { remap := drawingGroup.remap } := rfl
  have made : generateGroup ⟨1⟩ a.sketch = (.ok (), a.sketch.regrown drawingGroup { remap := drawingGroup.remap }) := by
    rw [generateGroupRun first rfl, copied]
  have registered : (a.sketch.regrown drawingGroup { remap := drawingGroup.remap }).groups.get? ⟨1⟩ = some drawingGroup := by
    rw [(regrownSpec intact.params (fitsNone drawingGroup)).groups]
    exact first
  have fresh := generateGroupIntact intact made
  generalize a.sketch.regrown drawingGroup { remap := drawingGroup.remap } = t at made registered fresh
  have steady := Regen.solveGroupIntact fresh ⟨1⟩ (.standard : EngineConfig Float).solver fun n => n
  obtain ⟨old, found, flat⟩ : ∃ old, (t.solveGroup ⟨1⟩ (.standard : EngineConfig Float).solver fun n => n).2.groups.get? ⟨1⟩ =
      some old ∧ old.workplane = none := by
    obtain ⟨u, outcome, steps, result⟩ := solveGroupSteps fresh.toConsistent registered (.standard : EngineConfig Float).solver fun n => n
    have kept : ∃ g, u.groups.get? ⟨1⟩ = some g ∧ g.workplane = none := by
      rcases steps.group fresh.toConsistent ⟨1⟩ with same | same
      · exact ⟨_, same.trans registered, rfl⟩
      · exact ⟨_, same.trans (by rw [registered]; rfl), rfl⟩
    obtain ⟨g, there, flat⟩ := kept
    refine ⟨{ g with solved := outcome }, ?_, flat⟩
    rw [result, modifyGroup, (steps.consistent fresh.toConsistent).groups.getModify ⟨1⟩
      (f := ({ · with solved := outcome })) (fun _ same => same), if_pos rfl, there]
    rfl
  obtain ⟨new, m, run, _⟩ := Regen.regenerateGroupRun (m := ⟨a.sketch, {}⟩) .standard none
    (fun x mesh held => by simp at held) made rfl steady.toConsistent found (Regen.loopsSkipped _ (.inl flat) _)
  obtain ⟨generated, _, regenerated⟩ := confinedToOneGroup reached ⟨1⟩
  have confined := (generated t made).1
  have before := Registry.memOfGet (intact.present _ _ drawn e part)
  have after := Registry.memOfGet (fresh.present _ _ (confined.requests ▸ drawn) e part)
  exact ⟨a, t, m, e, reached, planed.groups.second, before, rfl, rfl, made, after, confined, run,
    (regenerated _ _ _ _ m run).1⟩

end Drafting.Sketch
