/-! Names of the records of a sketch, with their written form: `g001`, `r001.e2`, `c010.p0`. -/
namespace Drafting

structure GroupId where
  number : Nat
  deriving DecidableEq, Hashable, Ord, Repr, Inhabited

structure RequestId where
  number : Nat
  deriving DecidableEq, Hashable, Ord, Repr, Inhabited

structure ConstraintId where
  number : Nat
  deriving DecidableEq, Hashable, Ord, Repr, Inhabited

inductive EntityOrigin where
  | request (id : RequestId)
  | predefined (id : GroupId)
  | derived (id : GroupId)
  deriving DecidableEq, Hashable, Ord, Repr, Inhabited

structure EntityId where
  origin : EntityOrigin
  index : Nat
  deriving DecidableEq, Hashable, Ord, Repr, Inhabited

inductive ParamOwner where
  | request (id : RequestId)
  | group (id : GroupId)
  | constraint (id : ConstraintId)
  deriving DecidableEq, Hashable, Ord, Repr, Inhabited

structure ParamId where
  owner : ParamOwner
  index : Nat
  deriving DecidableEq, Hashable, Ord, Repr, Inhabited

inductive EquationOwner where
  | constraint (id : ConstraintId)
  | entity (id : EntityId)
  | group (id : GroupId)
  deriving DecidableEq, Hashable, Ord, Repr, Inhabited

structure EquationId where
  owner : EquationOwner
  index : Nat
  deriving DecidableEq, Hashable, Ord, Repr, Inhabited

namespace Handle

def write (letter : Char) (number : Nat) : String :=
  let digits := Nat.toDigits 10 number
  String.ofList (letter :: (List.replicate (3 - digits.length) '0' ++ digits))

def readNumber (cs : List Char) : Option Nat :=
  if cs.isEmpty || !cs.all Char.isDigit then none
  else some (cs.foldl (fun n c => 10 * n + (c.toNat - '0'.toNat)) 0)

def read (text : String) : Option (List (Char × Nat)) :=
  (text.splitOn ".").mapM fun part => match part.toList with
    | letter :: digits => (readNumber digits).map (letter, ·)
    | [] => none

end Handle

instance : ToString GroupId := ⟨fun g => Handle.write 'g' g.number⟩
instance : ToString RequestId := ⟨fun r => Handle.write 'r' r.number⟩
instance : ToString ConstraintId := ⟨fun c => Handle.write 'c' c.number⟩

def GroupId.ofString? (text : String) : Option GroupId :=
  match Handle.read text with
  | some [('g', n)] => some ⟨n⟩
  | _ => none

def RequestId.ofString? (text : String) : Option RequestId :=
  match Handle.read text with
  | some [('r', n)] => some ⟨n⟩
  | _ => none

def ConstraintId.ofString? (text : String) : Option ConstraintId :=
  match Handle.read text with
  | some [('c', n)] => some ⟨n⟩
  | _ => none

namespace EntityId

def request (id : RequestId) (index : Nat) : EntityId := ⟨.request id, index⟩
def predefined (id : GroupId) (index : Nat) : EntityId := ⟨.predefined id, index⟩
def derived (id : GroupId) (slot : Nat) : EntityId := ⟨.derived id, slot⟩

def request? (e : EntityId) : Option RequestId :=
  match e.origin with
  | .request r => some r
  | _ => none

def isFromRequest (e : EntityId) : Bool := e.request?.isSome

instance : ToString EntityId where
  toString e := match e.origin with
    | .request r => s!"{r}.e{e.index}"
    | .predefined g => s!"{g}.p{e.index}"
    | .derived g => s!"{g}.d{e.index}"

def ofString? (text : String) : Option EntityId :=
  match Handle.read text with
  | some [('r', n), ('e', i)] => some (request ⟨n⟩ i)
  | some [('g', n), ('p', i)] => some (predefined ⟨n⟩ i)
  | some [('g', n), ('d', i)] => some (derived ⟨n⟩ i)
  | _ => none

end EntityId

namespace ParamId

def request (id : RequestId) (index : Nat) : ParamId := ⟨.request id, index⟩
def group (id : GroupId) (index : Nat) : ParamId := ⟨.group id, index⟩
def constraint (id : ConstraintId) (index : Nat) : ParamId := ⟨.constraint id, index⟩

instance : ToString ParamId where
  toString p := match p.owner with
    | .request r => s!"{r}.p{p.index}"
    | .group g => s!"{g}.p{p.index}"
    | .constraint c => s!"{c}.p{p.index}"

def ofString? (text : String) : Option ParamId :=
  match Handle.read text with
  | some [('r', n), ('p', i)] => some (request ⟨n⟩ i)
  | some [('g', n), ('p', i)] => some (group ⟨n⟩ i)
  | some [('c', n), ('p', i)] => some (constraint ⟨n⟩ i)
  | _ => none

end ParamId

namespace EquationId

def constraint (id : ConstraintId) (index : Nat) : EquationId := ⟨.constraint id, index⟩
def entity (id : EntityId) (index : Nat) : EquationId := ⟨.entity id, index⟩
def group (id : GroupId) (index : Nat) : EquationId := ⟨.group id, index⟩

def constraint? (e : EquationId) : Option ConstraintId :=
  match e.owner with
  | .constraint c => some c
  | _ => none

instance : ToString EquationId where
  toString e := match e.owner with
    | .constraint c => s!"{c}#{e.index}"
    | .entity id => s!"{id}#{e.index}"
    | .group g => s!"{g}#{e.index}"

end EquationId
end Drafting
