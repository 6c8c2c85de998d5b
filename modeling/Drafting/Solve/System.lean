import Std.Data.HashMap
import Drafting.Group.Generate
/-! The equations of a group over its own parameters. All other parameters are put in with their
values, and each equation is differentiated in the parameters it still mentions. -/
namespace Drafting

structure System (α : Type) where
  unknowns : List ParamId
  index : Std.HashMap ParamId Nat
  equations : List (Equation α)
  jacobian : List (List (Nat × Expr α))

namespace System
variable [Scalar α]

def columns (unknowns : List ParamId) : Std.HashMap ParamId Nat :=
  unknowns.zipIdx.foldl (fun m (p, i) => m.insert p i) {}

/-- The equations that constraints put on a group; one that cannot be written is left out. -/
def constraintEquations (s : Sketch α) (group : GroupId) (allDimsReference : Bool) : List (Equation α) :=
  let active := s.constraints.toList.filter fun c =>
    c.group == group && !(allDimsReference && c.kind.isDimensional)
  active.flatMap fun c => (s.constraintEquations c).toOption.getD []

def allEquations (s : Sketch α) (group : GroupId) (allDimsReference : Bool) :
    Except SketchError (List (Equation α)) := do
  let entities ← s.entityEquations group
  let own ← s.groupEquations group
  return constraintEquations s group allDimsReference ++ entities ++ own

def derivatives (index : Std.HashMap ParamId Nat) (e : Expr α) : List (Nat × Expr α) :=
  e.params.filterMap fun p => index[p]?.map fun column => (column, e.partialIn p)

def build (s : Sketch α) (group : GroupId) (allDimsReference : Bool) : Except SketchError (System α) := do
  let unknowns := (s.params.toList.filter (·.group == group)).map Param.id
  let index := columns unknowns
  let known (p : ParamId) := if index.contains p then none else some (s.valueOf p)
  let equations := (← allEquations s group allDimsReference).map fun q => ⟨q.id, q.expr.substitute known⟩
  return ⟨unknowns, index, equations, equations.map fun q => derivatives index q.expr⟩

def lookup (sys : System α) (x : Array α) (p : ParamId) : α :=
  (sys.index[p]?.bind (x[·]?)).getD Scalar.undefined

def residuals (sys : System α) (x : Array α) : List α := sys.equations.map (·.expr.eval (sys.lookup x))

def jacobianAt (sys : System α) (x : Array α) : List (List (Nat × α)) :=
  sys.jacobian.map fun row => row.map fun (column, d) => (column, d.eval (sys.lookup x))

@[specialize] def scatter (row : Array α) (entries : List (Nat × α)) : Array α :=
  entries.foldl (fun r (column, x) => r.modify column (· + x)) row

def denseRows (sys : System α) (sparse : List (List (Nat × α))) : List (Array α) :=
  sparse.map (scatter (Array.replicate sys.unknowns.length 0.0))

/-- Rows of the equations that belong to one constraint, for each constraint in turn. -/
def rowsByConstraint (sys : System α) : List (ConstraintId × List Nat) :=
  sys.equations.zipIdx.foldr (fun (q, row) groups =>
    match q.id.constraint?, groups with
    | none, _ => groups
    | some c, (d, rows) :: rest => if c = d then (d, row :: rows) :: rest else (c, [row]) :: groups
    | some c, [] => [(c, [row])]) []

end System
end Drafting
