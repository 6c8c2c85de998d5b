import Drafting.Config
import Drafting.Linear.Banded
import Drafting.Solve.System
/-! Newton's method for a system with any number of equations. A step is the smallest one that comes
closest to the linearized equations, slightly regularized; it is sought through as many multipliers as
there are equations. -/
namespace Drafting

/-- Whether time is up at a reading of the clock, which gives nanoseconds since the start. -/
def SolverConfig.expired (c : SolverConfig α) (clock : Nat → Nat) (reading : Nat) : Bool :=
  match c.timeoutMs with
  | some ms => decide (ms * 1000000 < clock reading)
  | none => false

namespace System
variable [Scalar α]

@[specialize] def sparseDot (row : List (Nat × α)) (dense : Array α) : α :=
  row.foldl (fun sum (column, d) => sum + d * dense[column]?.getD 0.0) 0.0

@[specialize] def gramTail (regularization : α) (row : List (Nat × α)) : List (Array α) → List α
  | [] => []
  | own :: later => (sparseDot row own + regularization) :: later.map (sparseDot row)

@[specialize] def gramUpper (regularization : α) : List (List (Nat × α)) → List (Array α) → List (List α)
  | row :: rows, dense => gramTail regularization row dense :: gramUpper regularization rows dense.tail
  | [], _ => []

/-- The full matrix of a symmetric upper half: each row continues the column above its diagonal. -/
@[specialize] def fromUpper : List (List α) → List (List α) → List (List α)
  | _, [] => []
  | columns, upper :: rest =>
    let above := columns.map (·.headD 0.0)
    (above ++ upper) :: fromUpper (columns.map List.tail ++ [upper.tail]) rest

def step (sys : System α) (config : SolverConfig α) (x : Array α) (f : List α) : Option (Array α) := do
  let sparse := sys.jacobianAt x
  let gram := fromUpper [] (gramUpper config.regularization sparse (sys.denseRows sparse))
  let z ← Linear.solve gram f config.bandLeft config.bandRight
  return (sparse.zip z).foldl (fun dx (row, zr) => scatter dx (row.map fun (column, d) => (column, d * zr)))
    (Array.replicate sys.unknowns.length 0.0)

inductive Ending where
  | converged
  | timedOut
  | gaveUp
  deriving DecidableEq, Repr

structure Iterate (α : Type) where
  values : Array α
  ending : Ending
  iterations : Nat
  readings : Nat

/-- Iterates until all residuals are below the tolerance. Values whose residuals are not finite are
given up for the last ones whose residuals were. -/
def iterate (sys : System α) (config : SolverConfig α) (clock : Nat → Nat) :
    Nat → Nat → Array α → Array α → Iterate α
  | left, done, x, lastGood =>
    let f := sys.residuals x
    if f.any (!Arith.isFinite ·) then ⟨lastGood, .gaveUp, done, done⟩
    else if f.all fun r => decide (Arith.abs r < config.tolerance) then ⟨x, .converged, done, done⟩
    else match left with
      | 0 => ⟨x, .gaveUp, done, done⟩
      | left + 1 =>
        if config.expired clock done then ⟨x, .timedOut, done, done + 1⟩
        else match sys.step config x f with
          | none => ⟨x, .gaveUp, done, done + 1⟩
          | some dx => sys.iterate config clock left (done + 1)
              (Array.zipWith (fun a d => a - config.damping * d) x dx) x

end System
end Drafting
