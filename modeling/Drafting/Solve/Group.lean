import Drafting.Solve.Newton
import Drafting.Solve.Rank
/-! Solving a group: the values of its parameters, and what the equations leave free or ask twice. -/
namespace Drafting

namespace System
variable [Scalar α]

/-- Constraints without which the rank stays the same, as far as time allows. -/
def redundant (config : SolverConfig α) (clock : Nat → Nat) (rows : List (Array α)) (rank : Nat) :
    Nat → List (ConstraintId × List Nat) → List ConstraintId
  | _, [] => []
  | reading, (c, own) :: rest =>
    if config.expired clock reading then []
    else
      let others := (rows.zipIdx.filter fun (_, i) => !own.contains i).map Prod.fst
      let found := redundant config clock rows rank (reading + 1) rest
      if Rank.of config.rankTolerance others == rank then c :: found else found

def unsatisfied (sys : System α) (tolerance : α) (f : List α) : List ConstraintId :=
  let fails (row : Nat) := !(f[row]?.any fun r => decide (Arith.abs r < tolerance))
  (sys.rowsByConstraint.filter fun (_, rows) => rows.any fails).map Prod.fst

def classify (sys : System α) (config : SolverConfig α) (clock : Nat → Nat) (allowRedundant : Bool)
    (r : Iterate α) : SolveOutcome :=
  let rows := sys.denseRows (sys.jacobianAt r.values)
  let rank := Rank.of config.rankTolerance rows
  let freedom := sys.unknowns.length - rank
  let deficient := decide (rank < sys.equations.length)
  let dependent (_ : Unit) := redundant config clock rows rank r.readings sys.rowsByConstraint
  let (status, flagged) : SolveStatus × List ConstraintId := match r.ending, deficient with
    | .timedOut, _ => (.timedOut, [])
    | .converged, true =>
      if !allowRedundant then (.overconstrained, dependent ())
      else if 0 < freedom then (.underconstrained, []) else (.converged, [])
    | .converged, false => if 0 < freedom then (.underconstrained, []) else (.converged, [])
    | .gaveUp, true => (.inconsistent, dependent ())
    | .gaveUp, false => (.notConverged, sys.unsatisfied config.tolerance (sys.residuals r.values))
  ⟨status, freedom, flagged, r.iterations⟩

end System

namespace Sketch
variable [Scalar α]

def storeValues (s : Sketch α) (values : List (ParamId × α)) : Sketch α :=
  values.foldl (fun s (p, x) => (setParam p x).attempt s) s

def solveSystem (s : Sketch α) (sys : System α) (config : SolverConfig α) (clock : Nat → Nat)
    (allowRedundant : Bool) : SolveOutcome × Sketch α :=
  let n := sys.unknowns.length
  if config.maxUnknowns < n then ({ status := .tooManyUnknowns, freedom := n }, s)
  else
    let x := (sys.unknowns.map s.valueOf).toArray
    let r := sys.iterate config clock config.maxIterations 0 x x
    (sys.classify config clock allowRedundant r, s.storeValues (sys.unknowns.zip r.values.toList))

/-- Solves a group and records the outcome on it. Constraints that name what is not there go first. -/
def solveGroup (s : Sketch α) (group : GroupId) (config : SolverConfig α) (clock : Nat → Nat) :
    SolveOutcome × Sketch α :=
  match s.groups.get? group with
  | none => ({}, s)
  | some g =>
    let (outcome, s) :=
      if g.relaxConstraints then ({ status := .skipped }, s)
      else
        let s := (s.prune group).2
        match System.build s group g.allDimsReference with
        | .ok sys => s.solveSystem sys config clock g.allowRedundant
        | .error _ => ({ status := .notConverged }, s)
    (outcome, s.modifyGroup group ({ · with solved := outcome }))

end Sketch
end Drafting
