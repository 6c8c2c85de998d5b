import Drafting.Proofs.Solve
/-! What an iteration passes through and where it ends. Whatever the arithmetic does, it goes on only from
values at which all residuals are finite, and values at which one is not are given up for those before them:
what is stored is either defined or what was there from the start. -/
namespace Drafting

namespace System
variable [Scalar α] {sys : System α} {config : SolverConfig α} {clock : Nat → Nat} {x₀ x y : Array α} {n : Nat}

def Defined (sys : System α) (x : Array α) : Prop := ∀ r ∈ sys.residuals x, Arith.isFinite r = true

theorem definedIff : ¬ ((sys.residuals x).any (!Arith.isFinite ·)) = true ↔ sys.Defined x := by
  simp [Defined]

inductive Iterates (sys : System α) (config : SolverConfig α) (x₀ : Array α) : Nat → Array α → Prop
  | start : Iterates sys config x₀ 0 x₀
  | next {n : Nat} {x dx : Array α} (before : Iterates sys config x₀ n x) (defined : sys.Defined x)
      (above : ¬ sys.Satisfied config.tolerance x) (step : sys.step config x (sys.residuals x) = some dx) :
      Iterates sys config x₀ (n + 1) (Array.zipWith (fun a d => a - config.damping * d) x dx)

inductive GoesBack (sys : System α) (config : SolverConfig α) (x₀ : Array α) : Nat → Array α → Prop
  | start : GoesBack sys config x₀ 0 x₀
  | previous {n : Nat} {x : Array α} (reached : Iterates sys config x₀ n x) (defined : sys.Defined x) :
      GoesBack sys config x₀ (n + 1) x

/-- How an iteration that has not satisfied the equations stops at defined values. -/
inductive Exit (sys : System α) (config : SolverConfig α) (clock : Nat → Nat) (n : Nat) (x : Array α) :
    Ending → Nat → Prop
  | exhausted (all : n = config.maxIterations) : Exit sys config clock n x .gaveUp n
  | late (late : config.expired clock n = true) : Exit sys config clock n x .timedOut (n + 1)
  | stuck (stuck : sys.step config x (sys.residuals x) = none) : Exit sys config clock n x .gaveUp (n + 1)

inductive Stops (sys : System α) (config : SolverConfig α) (clock : Nat → Nat) (x₀ : Array α) : Iterate α → Prop
  | undefined {n : Nat} {x y : Array α} (reached : sys.Iterates config x₀ n x) (bounded : n ≤ config.maxIterations)
      (undefined : ¬ sys.Defined x) (back : sys.GoesBack config x₀ n y) : Stops sys config clock x₀ ⟨y, .gaveUp, n, n⟩
  | satisfied {n : Nat} {x : Array α} (reached : sys.Iterates config x₀ n x) (bounded : n ≤ config.maxIterations)
      (defined : sys.Defined x) (below : sys.Satisfied config.tolerance x) :
      Stops sys config clock x₀ ⟨x, .converged, n, n⟩
  | short {n : Nat} {x : Array α} {ending : Ending} {readings : Nat} (reached : sys.Iterates config x₀ n x)
      (bounded : n ≤ config.maxIterations) (defined : sys.Defined x) (above : ¬ sys.Satisfied config.tolerance x)
      (exit : sys.Exit config clock n x ending readings) : Stops sys config clock x₀ ⟨x, ending, n, readings⟩

/- By induction on the steps that are left: the values at hand are reached in the steps done, and those to go
back to lie a step behind. -/
theorem iterateStops (sys : System α) (config : SolverConfig α) (clock : Nat → Nat) (left done : Nat)
    (x lastGood : Array α) (budget : done + left = config.maxIterations) (reached : sys.Iterates config x₀ done x)
    (back : sys.GoesBack config x₀ done lastGood) :
    sys.Stops config clock x₀ (sys.iterate config clock left done x lastGood) := by
  have bounded : done ≤ config.maxIterations := budget ▸ Nat.le_add_right done left
  fun_induction sys.iterate config clock left done x lastGood with
  | case1 left done x lastGood f infinite =>
    exact .undefined reached bounded (fun defined => definedIff.mpr defined infinite) back
  | case2 left done x lastGood f finite below =>
    exact .satisfied reached bounded (definedIff.mp finite) (satisfiedIff.mp below)
  | case3 done x lastGood f finite above =>
    exact .short reached bounded (definedIff.mp finite) (mt satisfiedIff.mpr above) (.exhausted budget)
  | case4 done x lastGood f finite above left late =>
    exact .short reached bounded (definedIff.mp finite) (mt satisfiedIff.mpr above) (.late late)
  | case5 done x lastGood f finite above left early stuck =>
    exact .short reached bounded (definedIff.mp finite) (mt satisfiedIff.mpr above) (.stuck stuck)
  | case6 done x lastGood f finite above left early dx step ih =>
    have defined : sys.Defined x := definedIff.mp finite
    have unsatisfied : ¬ sys.Satisfied config.tolerance x := mt satisfiedIff.mpr above
    have spent : done + 1 + left = config.maxIterations := by omega
    exact ih spent (.next reached defined unsatisfied step) (.previous reached defined) (by omega)

theorem runStops (sys : System α) (config : SolverConfig α) (clock : Nat → Nat) (x : Array α) :
    sys.Stops config clock x (sys.iterate config clock config.maxIterations 0 x x) :=
  iterateStops sys config clock config.maxIterations 0 x x (Nat.zero_add _) .start .start

theorem Stops.bounded {r : Iterate α} (stops : sys.Stops config clock x₀ r) : r.iterations ≤ config.maxIterations := by
  cases stops with
  | undefined _ bounded => exact bounded
  | satisfied _ bounded => exact bounded
  | short _ bounded => exact bounded

theorem Stops.defined {r : Iterate α} (stops : sys.Stops config clock x₀ r) :
    sys.Defined r.values ∨ ¬ sys.Defined x₀ ∧ r.values = x₀ := by
  cases stops with
  | undefined reached _ undefined back =>
    cases back with
    | start =>
      -- No step was made: the values that are not defined are the first ones.
      cases reached
      exact .inr ⟨undefined, rfl⟩
    | previous _ defined => exact .inl defined
  | satisfied _ _ defined => exact .inl defined
  | short _ _ defined => exact .inl defined

end System

namespace Sketch
variable [Scalar α] {s u : Sketch α} {group : GroupId} {g : Group α} {config : SolverConfig α} {clock : Nat → Nat}
  {outcome : SolveOutcome} {sys : System α}

theorem Solves.bounded (solves : Solves s group g config clock outcome u) :
    outcome.iterations ≤ config.maxIterations := by
  cases solves with
  | relaxed | unwritten | tooMany => exact Nat.zero_le _
  | @iterated sys x _ _ _ _ _ ran =>
    have stops := System.runStops sys config clock x
    rw [← ran] at stops
    exact stops.bounded

theorem initialValues (h : s.Consistent) {dims : Bool} (built : System.build (s.prune group).2 group dims = .ok sys) :
    ∀ p ∈ sys.unknowns, (s.prune group).2.valueOf p = s.valueOf p := by
  have pruned : (s.prune group).2.Consistent := Adjustments.consistent (pruneGradual s group) h
  exact fun p member => pruneValue h group (unknownsPresent pruned built p member)

theorem Solves.idle (h : s.Consistent) (solves : Solves s group g config clock outcome u)
    (built : System.build (s.prune group).2 group g.allDimsReference = .ok sys)
    (idle : ¬ (g.relaxConstraints = false ∧ sys.unknowns.length ≤ config.maxUnknowns)) :
    ∀ p ∈ sys.unknowns, u.valueOf p = s.valueOf p := by
  cases solves with
  | relaxed => exact fun _ _ => rfl
  | unwritten | tooMany => exact initialValues h built
  | iterated enforced built' few =>
    obtain rfl := Except.ok.inj (built.symm.trans built')
    exact absurd ⟨enforced, few⟩ idle

theorem Solves.stops (h : s.Consistent) (solves : Solves s group g config clock outcome u)
    (built : System.build (s.prune group).2 group g.allDimsReference = .ok sys)
    (enforced : g.relaxConstraints = false) (few : sys.unknowns.length ≤ config.maxUnknowns) :
    ∃ r, sys.Stops config clock (sys.unknowns.map s.valueOf).toArray r ∧
      (sys.unknowns.map u.valueOf).toArray = r.values ∧ outcome.iterations = r.iterations := by
  obtain ⟨rfl, rfl⟩ := solves.ran enforced built few
  have initial : (sys.unknowns.map (s.prune group).2.valueOf).toArray = (sys.unknowns.map s.valueOf).toArray :=
    congrArg List.toArray (List.map_congr_left (initialValues h built))
  exact ⟨_, initial ▸ System.runStops sys config clock _, iterateStored h built rfl rfl, rfl⟩

theorem undefinedNeverStored (s : Sketch α) (consistent : s.Consistent) (group : GroupId) (config : SolverConfig α)
    (clock : Nat → Nat) :
    let outcome := (s.solveGroup group config clock).1
    let t := (s.solveGroup group config clock).2
    outcome.iterations ≤ config.maxIterations ∧
      ∀ g sys, s.groups.get? group = some g → System.build (s.prune group).2 group g.allDimsReference = .ok sys →
        let initial := (sys.unknowns.map s.valueOf).toArray
        let stored := (sys.unknowns.map t.valueOf).toArray
        (g.relaxConstraints = false ∧ sys.unknowns.length ≤ config.maxUnknowns → ∃ r,
          sys.Stops config clock initial r ∧ stored = r.values ∧ outcome.iterations = r.iterations) ∧
        (sys.Defined stored ∨ ¬ sys.Defined initial ∧ ∀ p ∈ sys.unknowns, t.valueOf p = s.valueOf p) := by
  intro outcome t
  constructor
  · cases found : s.groups.get? group with
    | none =>
      have same : outcome = {} := congrArg Prod.fst (solveGroupMissing found)
      rw [same]
      exact Nat.zero_le _
    | some g =>
      obtain ⟨u, solves, _⟩ := solveGroupCases found config clock
      exact solves.bounded
  · intro g sys found built initial stored
    obtain ⟨u, solves, result⟩ := solveGroupCases found config clock
    have values : t.valueOf = u.valueOf := recordedValue result
    have read : stored = (sys.unknowns.map u.valueOf).toArray := by rw [← values]
    by_cases runs : g.relaxConstraints = false ∧ sys.unknowns.length ≤ config.maxUnknowns
    · obtain ⟨r, stops, same, steps⟩ := solves.stops consistent built runs.1 runs.2
      refine ⟨fun _ => ⟨r, stops, read.trans same, steps⟩, ?_⟩
      rcases stops.defined with defined | ⟨undefined, back⟩
      · exact .inl (read.trans same ▸ defined)
      · have unchanged : sys.unknowns.map t.valueOf = sys.unknowns.map s.valueOf :=
          congrArg Array.toList ((read.trans same).trans back)
        exact .inr ⟨undefined, List.map_inj_left.mp unchanged⟩
    · have unchanged : ∀ p ∈ sys.unknowns, t.valueOf p = s.valueOf p := values ▸ solves.idle consistent built runs
      have same : stored = initial := congrArg List.toArray (List.map_congr_left unchanged)
      refine ⟨fun both => absurd both runs, ?_⟩
      by_cases defined : sys.Defined initial
      · exact .inl (same ▸ defined)
      · exact .inr ⟨defined, unchanged⟩

theorem heldPointDefined : ∃ sys : System Float, System.build (heldPoint.prune ⟨1⟩).2 ⟨1⟩ false = .ok sys ∧
    let stored := sys.unknowns.map (heldPoint.solveGroup ⟨1⟩ .standard fun _ => 0).2.valueOf
    sys.Defined stored.toArray ∨ ¬ sys.Defined (sys.unknowns.map heldPoint.valueOf).toArray ∧
      ∀ p ∈ sys.unknowns, (heldPoint.solveGroup ⟨1⟩ .standard fun _ => 0).2.valueOf p = heldPoint.valueOf p := by
  obtain ⟨sys, built⟩ := heldPointBuilt
  rw [← heldPointPruned] at built
  have found : heldPoint.groups.get? ⟨1⟩ = some { id := ⟨1⟩, name := "drawing", kind := .drawing3d } :=
    heldPointConsistent.groups.getIff.mpr ⟨List.mem_cons_self, rfl⟩
  have settled := undefinedNeverStored heldPoint heldPointConsistent ⟨1⟩ .standard fun _ => 0
  exact ⟨sys, built, (settled.2 _ sys found built).2⟩

end Sketch
end Drafting
