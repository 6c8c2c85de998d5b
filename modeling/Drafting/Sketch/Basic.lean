import Drafting.Group.Basic
/-! A sketch holds every record of a model: groups, requests, constraints, entities and parameters,
each in a registry. -/
namespace Drafting

structure Param (α : Type) where
  id : ParamId
  /-- The group whose solution sets the value. -/
  group : GroupId
  value : α
  deriving Repr, Inhabited

instance : Keyed ParamId (Param α) := ⟨Param.id⟩

structure Equation (α : Type) where
  id : EquationId
  expr : Expr α
  deriving Repr, Inhabited

structure Sketch (α : Type) where
  version : Nat := 1
  groups : Registry GroupId (Group α) := {}
  requests : Registry RequestId Request := {}
  constraints : Registry ConstraintId (Constraint α) := {}
  entities : Registry EntityId (Entity α) := {}
  params : Registry ParamId (Param α) := {}
  nextGroup : Nat := 1
  nextRequest : Nat := 1
  nextConstraint : Nat := 1
  deriving Inhabited

namespace Sketch

def found (e : ε) : Option τ → Except ε τ
  | some x => .ok x
  | none => .error e

def group (s : Sketch α) (id : GroupId) : Except SketchError (Group α) :=
  found (.groupNotFound id) (s.groups.get? id)

def request (s : Sketch α) (id : RequestId) : Except SketchError Request :=
  found (.requestNotFound id) (s.requests.get? id)

def constraint (s : Sketch α) (id : ConstraintId) : Except SketchError (Constraint α) :=
  found (.constraintNotFound id) (s.constraints.get? id)

def entity (s : Sketch α) (id : EntityId) : Except SketchError (Entity α) :=
  found (.entityNotFound id) (s.entities.get? id)

def hasEntity (s : Sketch α) (id : EntityId) : Bool := s.entities.contains id

def param (s : Sketch α) (id : ParamId) : Except SketchError α :=
  (found (.paramNotFound id) (s.params.get? id)).map Param.value

/-- The value of a parameter, undefined where there is none. -/
def valueOf [Scalar α] (s : Sketch α) (id : ParamId) : α :=
  ((s.params.get? id).map Param.value).getD Scalar.undefined

def modifyGroup (s : Sketch α) (id : GroupId) (f : Group α → Group α) : Sketch α :=
  { s with groups := s.groups.modify id f }

def markDirty (s : Sketch α) (id : GroupId) : Sketch α := s.modifyGroup id ({ · with clean := false })

def fingerprint (s : Sketch α) (id : GroupId) : Fingerprint α where
  entities := (s.entities.toList.filter (·.group == id)).map fun e => (e.id, e.construction)
  params := (s.params.toList.filter (·.group == id)).map fun p => (p.id, p.value)

end Sketch

/-- A change of a sketch that may fail; what was done before a failure stays done. -/
abbrev Edit (α ε : Type) := ExceptT ε (StateM (Sketch α))

namespace Edit

def read [Raises ε ε'] (f : Sketch α → Except ε τ) : Edit α ε' τ := do
  match f (← get) with
  | .ok x => return x
  | .error e => throw (Raises.raise e)

def found (e : ε) : Option τ → Edit α ε τ
  | some x => return x
  | none => throw e

def lower [Raises ε ε'] (e : Edit α ε τ) : Edit α ε' τ := fun s =>
  match e s with
  | (.ok x, s) => (.ok x, s)
  | (.error e, s) => (.error (Raises.raise e), s)

def orUndo (e : Edit α ε τ) : Edit α ε τ := fun s =>
  match e s with
  | (.ok x, s') => (.ok x, s')
  | (.error e, _) => (.error e, s)

end Edit
end Drafting
