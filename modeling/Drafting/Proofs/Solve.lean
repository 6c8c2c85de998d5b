import Drafting.Proofs.Consistent
import Drafting.Proofs.Scalar
import Drafting.Solve.Group
/-! What the status of a solution says about the values it leaves in the sketch. The iteration ends as
converged exactly when the values it gives back satisfy all equations, those it went back to included,
and these are the values that are stored. -/
namespace Drafting

namespace System
variable [Scalar α]

def Satisfied (sys : System α) (tolerance : α) (x : Array α) : Prop :=
  ∀ r ∈ sys.residuals x, Arith.abs r < tolerance

theorem satisfiedIff {sys : System α} {tolerance : α} {x : Array α} :
    ((sys.residuals x).all fun r => decide (Arith.abs r < tolerance)) = true ↔ sys.Satisfied tolerance x := by
  simp [Satisfied]

theorem finiteOfSatisfied [LawfulScalar α] {sys : System α} {tolerance : α} {x : Array α}
    (h : sys.Satisfied tolerance x) : ((sys.residuals x).any (!Arith.isFinite ·)) = false := by
  rw [List.any_eq_false]
  intro r member
  simp [LawfulScalar.finiteOfBelow (h r member)]

theorem iterateConverged [LawfulScalar α] (sys : System α) (config : SolverConfig α) (clock : Nat → Nat)
    (left done : Nat) (x lastGood : Array α)
    (tested : lastGood = x ∨ ¬ sys.Satisfied config.tolerance lastGood) :
    (sys.iterate config clock left done x lastGood).ending = .converged ↔
      sys.Satisfied config.tolerance (sys.iterate config clock left done x lastGood).values := by
  fun_induction sys.iterate config clock left done x lastGood with
  | case1 left done x lastGood f infinite =>
    -- Going back: the values are not those just tested, unless nothing was tested before them.
    have unsatisfied : ¬ sys.Satisfied config.tolerance lastGood := by
      rcases tested with rfl | before
      · intro good
        rw [finiteOfSatisfied good] at infinite
        cases infinite
      · exact before
    simp [unsatisfied]
  | case2 left done x lastGood f finite below => simpa using satisfiedIff.mp below
  | case3 done x lastGood f finite above => simpa using fun good => above (satisfiedIff.mpr good)
  | case4 done x lastGood f finite above left late => simpa using fun good => above (satisfiedIff.mpr good)
  | case5 done x lastGood f finite above left early stuck =>
    simpa using fun good => above (satisfiedIff.mpr good)
  | case6 done x lastGood f finite above left early dx step ih =>
    exact ih (.inr fun good => above (satisfiedIff.mpr good))

omit [Scalar α] in
theorem foldlSize {f : Array α → τ → Array α} (keeps : ∀ row x, (f row x).size = row.size) (xs : List τ) (row : Array α) :
    (xs.foldl f row).size = row.size := by
  induction xs generalizing row with
  | nil => rfl
  | cons x rest ih => rw [List.foldl_cons, ih, keeps]

theorem scatterSize (row : Array α) (entries : List (Nat × α)) : (scatter row entries).size = row.size :=
  foldlSize (fun _ _ => Array.size_modify) entries row

theorem stepSize {sys : System α} {config : SolverConfig α} {x dx : Array α} {f : List α}
    (step : sys.step config x f = some dx) : dx.size = sys.unknowns.length := by
  obtain ⟨z, _, same⟩ := Option.bind_eq_some_iff.mp step
  cases same
  refine (foldlSize (fun row r => ?_) _ _).trans Array.size_replicate
  exact scatterSize row _

theorem iterateSize (sys : System α) (config : SolverConfig α) (clock : Nat → Nat) (left done : Nat)
    (x lastGood : Array α) (now : x.size = sys.unknowns.length) (before : lastGood.size = sys.unknowns.length) :
    (sys.iterate config clock left done x lastGood).values.size = sys.unknowns.length := by
  fun_induction sys.iterate config clock left done x lastGood with
  | case1 => exact before
  | case2 | case3 | case4 | case5 => exact now
  | case6 done x lastGood f finite above left early dx step ih =>
    refine ih ?_ now
    rw [Array.size_zipWith, now, stepSize step, Nat.min_self]

end System

namespace Sketch
variable [Scalar α] {s t : Sketch α}

omit [Scalar α] in
theorem setParamAttempt (p : ParamId) (x : α) : (setParam p x).attempt s =
    match s.params.get? p with
    | none => s
    | some r => { s with params := s.params.modify p ({ · with value := x }) }.markDirty r.group := by
  rw [Edit.attempt, setParam, Attempt.getBind]
  cases s.params.get? p <;> rfl

omit [Scalar α] in
theorem setParamGet (h : s.Consistent) (p q : ParamId) (x : α) :
    ((setParam p x).attempt s).params.get? q =
      if q = p then (s.params.get? p).map ({ · with value := x }) else s.params.get? q := by
  rw [setParamAttempt]
  cases found : s.params.get? p with
  | none =>
    by_cases same : q = p
    · simp [same, found]
    · simp [same]
  | some r =>
    have moved := h.params.getModify p (f := ({ · with value := x })) (fun _ same => same) q
    rw [found] at moved
    exact moved

omit [Scalar α] in
theorem deleteConstraintAttempt (i : ConstraintId) : (deleteConstraint i).attempt s =
    match s.constraints.get? i with
    | none => s
    | some c => { s with
        constraints := s.constraints.remove i
        params := s.params.filter (·.id.owner != ParamOwner.constraint i) }.markDirty c.group := by
  rw [Edit.attempt, deleteConstraint, Attempt.runBind, Edit.runRead, constraint]
  cases s.constraints.get? i <;> rfl

theorem deleteConstraintsThin (h : s.Consistent) (ids : List ConstraintId) :
    (s.deleteConstraints ids).params.toList.Sublist s.params.toList ∧
      (s.deleteConstraints ids).constraints.toList.Sublist s.constraints.toList := by
  induction ids generalizing s with
  | nil => exact ⟨.refl _, .refl _⟩
  | cons i rest ih =>
    have after : ((deleteConstraint i).attempt s).Consistent := Adjustments.consistent (deleteConstraintGradual i s) h
    obtain ⟨params, constraints⟩ := ih after
    have first : ((deleteConstraint i).attempt s).params.toList.Sublist s.params.toList ∧
        ((deleteConstraint i).attempt s).constraints.toList.Sublist s.constraints.toList := by
      rw [deleteConstraintAttempt]
      cases s.constraints.get? i with
      | none => exact ⟨.refl _, .refl _⟩
      | some c =>
        constructor
        · exact List.filter_sublist
        · change (s.constraints.remove i).toList.Sublist s.constraints.toList
          rw [h.constraints.toListRemove]
          exact List.filter_sublist
    exact ⟨params.trans first.1, constraints.trans first.2⟩

theorem pruneValue (h : s.Consistent) (group : GroupId) {p : ParamId}
    (present : ((s.prune group).2.params.get? p).isSome) : (s.prune group).2.valueOf p = s.valueOf p := by
  obtain ⟨r, found⟩ := Option.isSome_iff_exists.mp present
  have pruned : (s.prune group).2.Consistent := Adjustments.consistent (pruneGradual s group) h
  have before : s.params.get? (Keyed.key r) = some r :=
    h.params.getOfMem ((deleteConstraintsThin h _).1.subset (Registry.memOfGet found))
  rw [pruned.params.keyOfGet found] at before
  rw [valueOf, valueOf, found, before]

theorem storeValuesGradual (values : List (ParamId × α)) (s : Sketch α) :
    Adjustments s (s.storeValues values) := by
  induction values generalizing s with
  | nil => exact .refl
  | cons v rest ih => exact (setParamGradual v.1 v.2 s).trans (ih _)

theorem storeValuesOther (h : s.Consistent) {values : List (ParamId × α)} {p : ParamId}
    (other : p ∉ values.map Prod.fst) : (s.storeValues values).params.get? p = s.params.get? p := by
  induction values generalizing s with
  | nil => rfl
  | cons v rest ih =>
    obtain ⟨differs, later⟩ := not_or.mp (by simpa only [List.map_cons, List.mem_cons] using other)
    have moved : ((setParam v.1 v.2).attempt s).Consistent :=
      Adjustments.consistent (setParamGradual v.1 v.2 s) h
    rw [storeValues, List.foldl_cons]
    exact (ih moved later).trans (by rw [setParamGet h, if_neg differs])

theorem storeValuesRead (h : s.Consistent) {values : List (ParamId × α)}
    (distinct : (values.map Prod.fst).Nodup) (present : ∀ v ∈ values, (s.params.get? v.1).isSome) :
    ∀ v ∈ values, (s.storeValues values).valueOf v.1 = v.2 := by
  induction values generalizing s with
  | nil => simp
  | cons first rest ih =>
    obtain ⟨fresh, distinct⟩ := List.nodup_cons.mp distinct
    have moved : ((setParam first.1 first.2).attempt s).Consistent :=
      Adjustments.consistent (setParamGradual first.1 first.2 s) h
    intro v member
    rw [storeValues, List.foldl_cons]
    rcases List.mem_cons.mp member with rfl | later
    · have unchanged := storeValuesOther moved fresh
      obtain ⟨r, found⟩ := Option.isSome_iff_exists.mp (present v List.mem_cons_self)
      rw [setParamGet h, if_pos rfl, found] at unchanged
      unfold valueOf
      rw [storeValues] at unchanged
      rw [unchanged]
      rfl
    · refine ih moved distinct (fun w there => ?_) v later
      rw [setParamGet h]
      split
      · rename_i same
        rw [Option.isSome_map]
        exact present first List.mem_cons_self
      · exact present w (List.mem_cons_of_mem _ there)

theorem entityEquationsOk {group : GroupId} {qs : List (Equation α)} (written : s.entityEquations group = .ok qs) :
    ∀ q ∈ qs, ∃ e ∈ s.entities.toList, e.group = group ∧
      ∃ x, s.entityResidual? e = .ok (some x) ∧ q = ⟨.entity e.id 0, x⟩ := by
  intro q member
  obtain ⟨residuals, each, last⟩ := Result.bindOk.mp written
  cases last
  obtain ⟨r, inside, same⟩ := List.mem_filterMap.mp member
  obtain ⟨e, drawn, residual⟩ := Result.mapMOk each r inside
  obtain ⟨there, ours⟩ := List.mem_filter.mp drawn
  rw [Bool.and_eq_true, beq_iff_eq] at ours
  obtain ⟨computed, result, last⟩ := Result.bindOk.mp residual
  cases last
  obtain ⟨x, rfl, rfl⟩ := Option.map_eq_some_iff.mp same
  exact ⟨e, there, ours.1, x, result, rfl⟩

theorem groupEquationsOk {group : GroupId} {qs : List (Equation α)} (written : s.groupEquations group = .ok qs) :
    ∃ g plane, s.groups.get? group = some g ∧
      (∀ b, plane = some b → ∃ w, g.workplane = some w ∧ s.planeExpr w = .ok b) ∧
      qs = (groupResiduals g plane).mapIdx fun i r => ⟨.group group i, r⟩ := by
  obtain ⟨g, read, rest⟩ := Result.bindOk.mp written
  have found := groupFound.mp read
  dsimp only at rest
  split at rest
  · rename_i w lies
    obtain ⟨b, computed, last⟩ := Result.bindOk.mp rest
    cases last
    exact ⟨g, some b, found, fun b' same => ⟨w, lies, Option.some.inj same ▸ computed⟩, rfl⟩
  · cases rest
    exact ⟨g, none, found, nofun, rfl⟩

theorem buildUnknowns {group : GroupId} {dims : Bool} {sys : System α} (built : System.build s group dims = .ok sys) :
    sys.unknowns = (s.params.toList.filter (·.group == group)).map Param.id := by
  obtain ⟨_, _, same⟩ := Result.bindOk.mp built
  cases same
  rfl

theorem unknownsNodup (h : s.Consistent) {group : GroupId} {dims : Bool} {sys : System α}
    (built : System.build s group dims = .ok sys) : sys.unknowns.Nodup := by
  rw [buildUnknowns built]
  exact (List.filter_sublist.map Param.id).nodup h.params.keysNodup

theorem unknownsPresent (h : s.Consistent) {group : GroupId} {dims : Bool} {sys : System α}
    (built : System.build s group dims = .ok sys) : ∀ p ∈ sys.unknowns, (s.params.get? p).isSome := by
  intro p member
  rw [buildUnknowns built] at member
  obtain ⟨r, inside, rfl⟩ := List.mem_map.mp member
  exact Option.isSome_iff_exists.mpr ⟨r, h.params.getOfMem (List.mem_filter.mp inside).1⟩

theorem unknownsOwned (h : s.Consistent) {group : GroupId} {dims : Bool} {sys : System α}
    (built : System.build s group dims = .ok sys) :
    ∀ p ∈ sys.unknowns, ∃ r, s.params.get? p = some r ∧ r.group = group := by
  intro p member
  rw [buildUnknowns built] at member
  obtain ⟨r, inside, rfl⟩ := List.mem_map.mp member
  obtain ⟨there, ours⟩ := List.mem_filter.mp inside
  exact ⟨r, h.params.getOfMem there, by simpa using ours⟩

theorem storedValues (h : s.Consistent) {unknowns : List ParamId} (distinct : unknowns.Nodup)
    (present : ∀ p ∈ unknowns, (s.params.get? p).isSome) {values : Array α}
    (size : values.size = unknowns.length) :
    (unknowns.map (s.storeValues (unknowns.zip values.toList)).valueOf).toArray = values := by
  have firsts : (unknowns.zip values.toList).map Prod.fst = unknowns :=
    List.map_fst_zip (by simp [size])
  have seconds : (unknowns.zip values.toList).map Prod.snd = values.toList :=
    List.map_snd_zip (by simp [size])
  have read : ∀ v ∈ unknowns.zip values.toList,
      (s.storeValues (unknowns.zip values.toList)).valueOf v.1 = v.2 :=
    storeValuesRead h (firsts.symm ▸ distinct) fun v member =>
      present v.1 (firsts ▸ List.mem_map_of_mem member)
  generalize s.storeValues (unknowns.zip values.toList) = t at read
  have listed : unknowns.map t.valueOf = values.toList := by
    calc unknowns.map t.valueOf
        = ((unknowns.zip values.toList).map Prod.fst).map t.valueOf := by rw [firsts]
      _ = (unknowns.zip values.toList).map fun v => t.valueOf v.1 := List.map_map
      _ = (unknowns.zip values.toList).map Prod.snd := List.map_congr_left read
      _ = values.toList := seconds
  rw [listed]

theorem classifyStatus (sys : System α) (config : SolverConfig α) (clock : Nat → Nat) (allowRedundant : Bool)
    (r : System.Iterate α) (rank : Nat)
    (ranked : rank = Rank.of config.rankTolerance (sys.denseRows (sys.jacobianAt r.values))) :
    let outcome := sys.classify config clock allowRedundant r
    outcome.freedom = sys.unknowns.length - rank ∧
      (r.ending = .converged → outcome.status =
        if rank < sys.equations.length ∧ allowRedundant = false then .overconstrained
        else if 0 < outcome.freedom then .underconstrained else .converged) ∧
      (r.ending ≠ .converged → outcome.status ∈ [SolveStatus.timedOut, .inconsistent, .notConverged]) := by
  unfold System.classify
  dsimp only
  rw [← ranked]
  refine ⟨rfl, ?_, ?_⟩
  · intro converged
    rw [converged]
    by_cases deficient : rank < sys.equations.length
    · rw [decide_eq_true deficient]
      cases allowRedundant with
      | false => simp [deficient]
      | true =>
        by_cases free : 0 < sys.unknowns.length - rank
        · simp [free]
        · simp [free]
    · rw [decide_eq_false deficient]
      by_cases free : 0 < sys.unknowns.length - rank
      · simp [free, deficient]
      · simp [free, deficient]
  · intro failed
    cases ending : r.ending with
    | converged => exact absurd ending failed
    | timedOut => simp
    | gaveUp =>
      by_cases deficient : rank < sys.equations.length
      · simp [deficient]
      · simp [deficient]

/-- What may come of solving a group, before the outcome is recorded: the group asked not to be solved, its equations
cannot be written, it has too many unknowns, or an iteration from the present values is classified and stored. -/
inductive Solves (s : Sketch α) (group : GroupId) (g : Group α) (config : SolverConfig α) (clock : Nat → Nat) :
    SolveOutcome → Sketch α → Prop
  | relaxed (relaxed : g.relaxConstraints = true) : Solves s group g config clock { status := .skipped } s
  | unwritten {e : SketchError} (enforced : g.relaxConstraints = false)
      (failed : System.build (s.prune group).2 group g.allDimsReference = .error e) :
      Solves s group g config clock { status := .notConverged } (s.prune group).2
  | tooMany {sys : System α} (enforced : g.relaxConstraints = false)
      (built : System.build (s.prune group).2 group g.allDimsReference = .ok sys)
      (many : config.maxUnknowns < sys.unknowns.length) :
      Solves s group g config clock { status := .tooManyUnknowns, freedom := sys.unknowns.length } (s.prune group).2
  | iterated {sys : System α} {x : Array α} {r : System.Iterate α} (enforced : g.relaxConstraints = false)
      (built : System.build (s.prune group).2 group g.allDimsReference = .ok sys)
      (few : sys.unknowns.length ≤ config.maxUnknowns)
      (start : x = (sys.unknowns.map (s.prune group).2.valueOf).toArray)
      (ran : r = sys.iterate config clock config.maxIterations 0 x x) :
      Solves s group g config clock (sys.classify config clock g.allowRedundant r)
        ((s.prune group).2.storeValues (sys.unknowns.zip r.values.toList))

theorem solveGroupMissing {group : GroupId} (missing : s.groups.get? group = none) {config : SolverConfig α}
    {clock : Nat → Nat} : s.solveGroup group config clock = ({}, s) := by
  unfold solveGroup
  rw [missing]

theorem solveGroupCases {group : GroupId} {g : Group α} (found : s.groups.get? group = some g)
    (config : SolverConfig α) (clock : Nat → Nat) :
    ∃ u, Solves s group g config clock (s.solveGroup group config clock).1 u ∧
      (s.solveGroup group config clock).2 =
        u.modifyGroup group ({ · with solved := (s.solveGroup group config clock).1 }) := by
  unfold solveGroup
  rw [found]
  cases relaxed : g.relaxConstraints with
  | true =>
    simp only [relaxed, if_true]
    exact ⟨_, .relaxed relaxed, rfl⟩
  | false =>
    simp only [relaxed, Bool.false_eq_true, if_false]
    cases built : System.build (s.prune group).2 group g.allDimsReference with
    | error e => exact ⟨_, .unwritten relaxed built, rfl⟩
    | ok sys =>
      simp only [solveSystem]
      split
      · rename_i many
        exact ⟨_, .tooMany relaxed built many, rfl⟩
      · rename_i few
        exact ⟨_, .iterated relaxed built (Nat.not_lt.mp few) rfl rfl, rfl⟩

theorem recordedValue {group : GroupId} {f : Group α → Group α} (recorded : t = s.modifyGroup group f) :
    t.valueOf = s.valueOf := by
  rw [recorded]
  rfl

section Solves
variable {u : Sketch α} {group : GroupId} {g : Group α} {config : SolverConfig α} {clock : Nat → Nat}
  {outcome : SolveOutcome}

theorem Solves.stored (h : s.Consistent) (solves : Solves s group g config clock outcome u) :
    ∃ values, (u = s ∨ u = (s.prune group).2.storeValues values) ∧
      ∀ v ∈ values, ∃ r, (s.prune group).2.params.get? v.1 = some r ∧ r.group = group := by
  have pruned : (s.prune group).2.Consistent := Adjustments.consistent (pruneGradual s group) h
  cases solves with
  | relaxed => exact ⟨[], .inl rfl, by simp⟩
  | unwritten | tooMany => exact ⟨[], .inr rfl, by simp⟩
  | iterated enforced built few start ran =>
    exact ⟨_, .inr rfl, fun v member => unknownsOwned pruned built v.1 (List.of_mem_zip member).1⟩

theorem Solves.adjusts (h : s.Consistent) (solves : Solves s group g config clock outcome u) : Adjustments s u := by
  obtain ⟨values, same | stored, _⟩ := solves.stored h
  · exact same ▸ .refl
  · exact stored ▸ (pruneGradual s group).trans (storeValuesGradual values _)

theorem Solves.ran (solves : Solves s group g config clock outcome u) (enforced : g.relaxConstraints = false) {sys : System α}
    (built : System.build (s.prune group).2 group g.allDimsReference = .ok sys)
    (few : sys.unknowns.length ≤ config.maxUnknowns) :
    let x := (sys.unknowns.map (s.prune group).2.valueOf).toArray
    let r := sys.iterate config clock config.maxIterations 0 x x
    outcome = sys.classify config clock g.allowRedundant r ∧
      u = (s.prune group).2.storeValues (sys.unknowns.zip r.values.toList) := by
  cases solves with
  | relaxed relaxed => cases relaxed.symm.trans enforced
  | unwritten _ failed => cases built.symm.trans failed
  | tooMany _ built' many =>
    obtain rfl := Except.ok.inj (built.symm.trans built')
    exact absurd few (Nat.not_le.mpr many)
  | iterated _ built' _ start ran =>
    obtain rfl := Except.ok.inj (built.symm.trans built')
    subst start ran
    exact ⟨rfl, rfl⟩

/- An iteration keeps the number of the unknowns, so its values can all be read again. -/
theorem iterateStored (h : s.Consistent) {sys : System α} {x : Array α} {r : System.Iterate α}
    (built : System.build (s.prune group).2 group g.allDimsReference = .ok sys)
    (start : x = (sys.unknowns.map (s.prune group).2.valueOf).toArray)
    (ran : r = sys.iterate config clock config.maxIterations 0 x x) :
    (sys.unknowns.map ((s.prune group).2.storeValues (sys.unknowns.zip r.values.toList)).valueOf).toArray = r.values := by
  have pruned : (s.prune group).2.Consistent := Adjustments.consistent (pruneGradual s group) h
  have size : x.size = sys.unknowns.length := by simp [start]
  have kept : r.values.size = sys.unknowns.length := ran ▸ System.iterateSize sys config clock _ 0 x x size size
  exact storedValues pruned (unknownsNodup pruned built) (unknownsPresent pruned built) kept

end Solves

theorem solveGroupStored (h : s.Consistent) {group : GroupId} {g : Group α} (found : s.groups.get? group = some g)
    (config : SolverConfig α) (clock : Nat → Nat) : ∃ u outcome values, (u = s ∨ u = (s.prune group).2.storeValues values) ∧
      (∀ v ∈ values, ∃ r, (s.prune group).2.params.get? v.1 = some r ∧ r.group = group) ∧
      (s.solveGroup group config clock).2 = u.modifyGroup group ({ · with solved := outcome }) := by
  obtain ⟨u, solves, result⟩ := solveGroupCases found config clock
  obtain ⟨values, steps, ours⟩ := solves.stored h
  exact ⟨u, _, values, steps, ours, result⟩

theorem solveGroupSteps (h : s.Consistent) {group : GroupId} {g : Group α} (found : s.groups.get? group = some g)
    (config : SolverConfig α) (clock : Nat → Nat) : ∃ u outcome, Adjustments s u ∧
      (s.solveGroup group config clock).2 = u.modifyGroup group ({ · with solved := outcome }) := by
  obtain ⟨u, solves, result⟩ := solveGroupCases found config clock
  exact ⟨u, _, solves.adjusts h, result⟩

theorem solveGroupKeeps {P : Sketch α → Prop} (h : s.Consistent) (holds : P s) {group : GroupId}
    (kept : ∀ u outcome, Adjustments s u → P (u.modifyGroup group ({ · with solved := outcome })))
    (config : SolverConfig α) (clock : Nat → Nat) : P (s.solveGroup group config clock).2 := by
  cases found : s.groups.get? group with
  | none =>
    rw [solveGroupMissing found]
    exact holds
  | some g =>
    obtain ⟨u, outcome, steps, result⟩ := solveGroupSteps h found config clock
    rw [result]
    exact kept u outcome steps

theorem solveGroupRecorded (h : s.Consistent) {group : GroupId} {g : Group α} (found : s.groups.get? group = some g)
    (config : SolverConfig α) (clock : Nat → Nat) :
    ((s.solveGroup group config clock).2.groups.get? group).map Group.solved =
      some (s.solveGroup group config clock).1 := by
  obtain ⟨u, solves, result⟩ := solveGroupCases found config clock
  have steps := solves.adjusts h
  have kept : ∃ g', u.groups.get? group = some g' := by
    rcases steps.group h group with same | marked
    · exact ⟨g, same.trans found⟩
    · exact ⟨_, marked.trans (by rw [found]; rfl)⟩
  obtain ⟨g', there⟩ := kept
  rw [result, modifyGroup, (steps.consistent h).groups.getModify group
    (f := ({ · with solved := (s.solveGroup group config clock).1 })) (fun _ same => same), if_pos rfl, there]
  rfl

theorem solveGroupIterate [LawfulScalar α] (consistent : s.Consistent) {group : GroupId} {g : Group α}
    (found : s.groups.get? group = some g) (enforced : g.relaxConstraints = false) {sys : System α}
    (built : System.build (s.prune group).2 group g.allDimsReference = .ok sys) {config : SolverConfig α}
    (few : sys.unknowns.length ≤ config.maxUnknowns) {clock : Nat → Nat} {outcome : SolveOutcome}
    (solved : s.solveGroup group config clock = (outcome, t)) :
    ∃ r : System.Iterate α, (sys.unknowns.map t.valueOf).toArray = r.values ∧
      (r.ending = .converged ↔ sys.Satisfied config.tolerance r.values) ∧
      outcome = sys.classify config clock g.allowRedundant r ∧
      (t.groups.get? group).map Group.solved = some outcome := by
  have recorded := solveGroupRecorded consistent found config clock
  obtain ⟨u, solves, result⟩ := solveGroupCases found config clock
  rw [solved] at recorded solves result
  have same : t.valueOf = u.valueOf := recordedValue result
  rw [same]
  obtain ⟨classified, stored⟩ := solves.ran enforced built few
  refine ⟨_, stored ▸ iterateStored consistent built rfl rfl, ?_, classified, recorded⟩
  exact System.iterateConverged sys config clock config.maxIterations 0 _ _ (.inl rfl)

theorem solveGroupStatus [LawfulScalar α] (s : Sketch α) (consistent : s.Consistent) {group : GroupId}
    {g : Group α} (found : s.groups.get? group = some g) (enforced : g.relaxConstraints = false)
    {sys : System α} (built : System.build (s.prune group).2 group g.allDimsReference = .ok sys)
    (config : SolverConfig α) (few : sys.unknowns.length ≤ config.maxUnknowns) (clock : Nat → Nat)
    {outcome : SolveOutcome} {t : Sketch α} (solved : s.solveGroup group config clock = (outcome, t)) :
    let values := (sys.unknowns.map t.valueOf).toArray
    let rank := Rank.of config.rankTolerance (sys.denseRows (sys.jacobianAt values))
    let redundant := rank < sys.equations.length ∧ g.allowRedundant = false
    (sys.Satisfied config.tolerance values ↔
        outcome.status ∈ [SolveStatus.converged, .underconstrained, .overconstrained]) ∧
      (sys.Satisfied config.tolerance values → outcome.freedom = sys.unknowns.length - rank ∧
        (outcome.status = .overconstrained ↔ redundant) ∧
        (¬ redundant → (outcome.status = .underconstrained ↔ 0 < outcome.freedom) ∧
          (outcome.status = .converged ↔ outcome.freedom = 0))) ∧
      ((∃ r ∈ sys.residuals values, ¬ Arith.abs r < config.tolerance) ↔
        outcome.status ∈ [SolveStatus.timedOut, .inconsistent, .notConverged]) ∧
      (t.groups.get? group).map Group.solved = some outcome := by
  obtain ⟨r, stored, converged, classified, recorded⟩ :=
    solveGroupIterate consistent found enforced built few solved
  intro values rank redundant
  obtain ⟨free, good, bad⟩ := classifyStatus sys config clock g.allowRedundant r rank
    (by rw [← stored])
  rw [← classified] at free good bad
  rw [← stored] at converged
  have unsatisfied : (∃ r ∈ sys.residuals values, ¬ Arith.abs r < config.tolerance) ↔
      ¬ sys.Satisfied config.tolerance values := by
    simp [System.Satisfied]
  rw [unsatisfied]
  by_cases satisfied : sys.Satisfied config.tolerance values
  · have status := good (converged.mpr satisfied)
    refine ⟨⟨fun _ => ?_, fun _ => satisfied⟩, fun _ => ⟨free, ?_, fun tight => ?_⟩, ?_, recorded⟩
    · rw [status]
      split
      · simp
      · split <;> simp
    · rw [status]
      split
      · rename_i twice
        simpa using twice
      · rename_i once
        have : ¬ redundant := once
        split <;> simp [this]
    · rw [status, if_neg tight]
      by_cases some : 0 < outcome.freedom
      · simp [some, Nat.ne_of_gt some]
      · simp [Nat.eq_zero_of_not_pos some]
    · rw [status]
      split
      · simp [satisfied]
      · split <;> simp [satisfied]
  · have status := bad fun ending => satisfied (converged.mp ending)
    refine ⟨⟨fun good => absurd good satisfied, fun listed => ?_⟩, fun good => absurd good satisfied,
      ⟨fun _ => status, fun _ => satisfied⟩, recorded⟩
    simp only [List.mem_cons, List.not_mem_nil, or_false] at status listed
    rcases status with same | same | same <;> rw [same] at listed <;> simp at listed

def heldPoint : Sketch Float where
  groups := .ofList [{ id := ⟨1⟩, name := "drawing", kind := .drawing3d }]
  requests := .ofList [⟨⟨1⟩, ⟨1⟩, none, .datumPoint, false⟩]
  entities := .ofList [⟨.request ⟨1⟩ 0, ⟨1⟩, none, false,
    .pointIn3d ⟨.request ⟨1⟩ 0, .request ⟨1⟩ 1, .request ⟨1⟩ 2⟩⟩]
  params := .ofList [⟨.request ⟨1⟩ 0, ⟨1⟩, 1.0⟩, ⟨.request ⟨1⟩ 1, ⟨1⟩, 2.0⟩, ⟨.request ⟨1⟩ 2, ⟨1⟩, 3.0⟩]
  constraints := .ofList [⟨⟨1⟩, ⟨1⟩, none, .whereDragged (.request ⟨1⟩ 0), false⟩]
  nextGroup := 2
  nextRequest := 2
  nextConstraint := 2

theorem heldPointConsistent : heldPoint.Consistent where
  groups := Registry.ofListConsistent (by decide)
  requests := Registry.ofListConsistent (by decide)
  constraints := Registry.ofListConsistent (by decide)
  entities := Registry.ofListConsistent (by decide)
  params := Registry.ofListConsistent (by decide)

theorem heldPointPruned : (heldPoint.prune ⟨1⟩).2 = heldPoint := by
  have none : (heldPoint.prune ⟨1⟩).1 = [] := by
    simp [prune, heldPoint, hasEntity, Registry.ofList, Registry.toList, Registry.enter, Registry.contains,
      Keyed.key, Constraint.references, ConstraintKind.references]
  change heldPoint.deleteConstraints (heldPoint.prune ⟨1⟩).1 = heldPoint
  rw [none]
  rfl

theorem heldPointBuilt : ∃ sys, System.build heldPoint ⟨1⟩ false = .ok sys := by
  have drawn : heldPoint.entityEquations ⟨1⟩ = .ok [] := by
    simp [entityEquations, heldPoint, Registry.toList, Registry.ofList, EntityId.isFromRequest,
      EntityId.request?, EntityId.request, entityResidual?, pure, Except.pure, bind, Except.bind]
  have own : heldPoint.groupEquations ⟨1⟩ = .ok [] := by
    simp [groupEquations, group, heldPoint, Registry.ofList, Registry.get?, Registry.enter, Keyed.key,
      found, groupResiduals, pure, Except.pure, bind, Except.bind]
  have collected : ∃ qs, System.allEquations heldPoint ⟨1⟩ false = .ok qs :=
    ⟨_, Result.bindOk.mpr ⟨_, drawn, Result.bindOk.mpr ⟨_, own, rfl⟩⟩⟩
  obtain ⟨qs, collected⟩ := collected
  exact ⟨_, Result.bindOk.mpr ⟨qs, collected, rfl⟩⟩

theorem heldPointStatus : ∃ (sys : System Float) (outcome : SolveOutcome) (t : Sketch Float),
    System.build (heldPoint.prune ⟨1⟩).2 ⟨1⟩ false = .ok sys ∧ sys.unknowns.length = 3 ∧
      heldPoint.solveGroup ⟨1⟩ .standard (fun _ => 0) = (outcome, t) ∧
      (sys.Satisfied SolverConfig.standard.tolerance (sys.unknowns.map t.valueOf).toArray ↔
        outcome.status ∈ [SolveStatus.converged, .underconstrained, .overconstrained]) ∧
      (t.groups.get? ⟨1⟩).map Group.solved = some outcome := by
  obtain ⟨sys, built⟩ := heldPointBuilt
  have three : sys.unknowns.length = 3 := by rw [buildUnknowns built]; rfl
  have found : heldPoint.groups.get? ⟨1⟩ = some { id := ⟨1⟩, name := "drawing", kind := .drawing3d } :=
    heldPointConsistent.groups.getIff.mpr ⟨List.mem_cons_self, rfl⟩
  have status := solveGroupStatus heldPoint heldPointConsistent found rfl (heldPointPruned.symm ▸ built)
    .standard (by rw [three]; decide) (fun _ => 0) rfl
  exact ⟨sys, _, _, heldPointPruned.symm ▸ built, three, rfl, status.1, status.2.2.2⟩

end Sketch
end Drafting
