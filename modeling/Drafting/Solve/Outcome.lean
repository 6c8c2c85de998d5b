import Drafting.Handle
/-! What became of solving a group. -/
namespace Drafting

inductive SolveStatus where
  | unsolved
  | converged
  | underconstrained
  | overconstrained
  /-- Redundant constraints that cannot all hold. -/
  | inconsistent
  | notConverged
  | timedOut
  | tooManyUnknowns
  | skipped
  deriving DecidableEq, Repr, Inhabited

namespace SolveStatus

def name : SolveStatus → String
  | unsolved => "Unsolved"
  | converged => "Converged"
  | underconstrained => "Underconstrained"
  | overconstrained => "Overconstrained"
  | inconsistent => "Inconsistent"
  | notConverged => "NotConverged"
  | timedOut => "TimedOut"
  | tooManyUnknowns => "TooManyUnknowns"
  | skipped => "Skipped"

def isAcceptable : SolveStatus → Bool
  | converged | underconstrained | skipped => true
  | _ => false

end SolveStatus

structure SolveOutcome where
  status : SolveStatus := .unsolved
  freedom : Nat := 0
  /-- Constraints whose removal keeps the rank, or that are left unsatisfied. -/
  flagged : List ConstraintId := []
  iterations : Nat := 0
  deriving DecidableEq, Repr, Inhabited

end Drafting
