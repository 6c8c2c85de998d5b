import Drafting.Archive.Quoted
import Drafting.Archive.Shape
import Drafting.Archive.Value
import Drafting.Geometry.Frame
import Drafting.Handle
import Drafting.Solid.Error
/-! Handles, vectors and axes as data of a document. -/
namespace Drafting
open Archive Value

namespace Archive

def numberedId (id : Nat) : Value α := wrap (integer id)
def numberedId? (v : Value α) : Option Nat := v.unwrap?.bind short?

end Archive

def GroupId.shape : Shape := .wrapper "GroupId" .natural
def RequestId.shape : Shape := .wrapper "RequestId" .natural
def ConstraintId.shape : Shape := .wrapper "ConstraintId" .natural

def GroupId.toValue (g : GroupId) : Value α := numberedId g.number
def GroupId.ofValue? (v : Value α) : Option GroupId := (numberedId? v).map GroupId.mk
def RequestId.toValue (r : RequestId) : Value α := numberedId r.number
def RequestId.ofValue? (v : Value α) : Option RequestId := (numberedId? v).map RequestId.mk
def ConstraintId.toValue (c : ConstraintId) : Value α := numberedId c.number
def ConstraintId.ofValue? (v : Value α) : Option ConstraintId :=
  (numberedId? v).map ConstraintId.mk

def EntityOrigin.shape : Shape :=
  .choice [("Request", RequestId.shape), ("Predefined", GroupId.shape), ("Derived", GroupId.shape)] []

def EntityOrigin.toValue : EntityOrigin → Value α
  | request r => named "Request" r.toValue
  | predefined g => named "Predefined" g.toValue
  | derived g => named "Derived" g.toValue

def EntityOrigin.ofValue? : Value α → Option EntityOrigin
  | .tuple "Request" [v] => (RequestId.ofValue? v).map request
  | .tuple "Predefined" [v] => (GroupId.ofValue? v).map predefined
  | .tuple "Derived" [v] => (GroupId.ofValue? v).map derived
  | _ => none

def EntityId.shape : Shape := .record "EntityId" [("origin", EntityOrigin.shape), ("index", .natural)]

def EntityId.toValue (e : EntityId) : Value α :=
  record "" [("origin", e.origin.toValue), ("index", integer e.index)]

def EntityId.ofValue? (v : Value α) : Option EntityId := do
  let fs ← v.record?
  return ⟨← field fs "origin" EntityOrigin.ofValue?, ← field fs "index" short?⟩

def ParamOwner.shape : Shape :=
  .choice [("Request", RequestId.shape), ("Group", GroupId.shape), ("Constraint", ConstraintId.shape)] []

def ParamOwner.toValue : ParamOwner → Value α
  | request r => named "Request" r.toValue
  | group g => named "Group" g.toValue
  | constraint c => named "Constraint" c.toValue

def ParamOwner.ofValue? : Value α → Option ParamOwner
  | .tuple "Request" [v] => (RequestId.ofValue? v).map request
  | .tuple "Group" [v] => (GroupId.ofValue? v).map group
  | .tuple "Constraint" [v] => (ConstraintId.ofValue? v).map constraint
  | _ => none

def ParamId.shape : Shape := .record "ParamId" [("owner", ParamOwner.shape), ("index", .natural)]

def ParamId.toValue (p : ParamId) : Value α :=
  record "" [("owner", p.owner.toValue), ("index", integer p.index)]

def ParamId.ofValue? (v : Value α) : Option ParamId := do
  let fs ← v.record?
  return ⟨← field fs "owner" ParamOwner.ofValue?, ← field fs "index" short?⟩

namespace Vec2

def toValue (write : β → Value α) (v : Vec2 β) : Value α := tuple "" [write v.x, write v.y]

def ofValue? (read : Value α → Option β) (v : Value α) : Option (Vec2 β) := do
  match v with
  | .tuple "" [x, y] => return ⟨← read x, ← read y⟩
  | _ => none

end Vec2

namespace Vec3

def toValue (write : β → Value α) (v : Vec3 β) : Value α := tuple "" [write v.x, write v.y, write v.z]

def ofValue? (read : Value α → Option β) (v : Value α) : Option (Vec3 β) := do
  match ← v.tuple? with
  | [x, y, z] => return ⟨← read x, ← read y, ← read z⟩
  | _ => none

end Vec3

namespace Quat

def toValue (q : Quat α) : Value α := tuple "" [number q.x, number q.y, number q.z, number q.w]

def ofValue? [Scalar α] (v : Value α) : Option (Quat α) := do
  match ← v.tuple? with
  | [x, y, z, w] => return ⟨← x.number?, ← y.number?, ← z.number?, ← w.number?⟩
  | _ => none

def paramsToValue (q : Quat ParamId) : Value α := tuple "" [q.w.toValue, q.x.toValue, q.y.toValue, q.z.toValue]

def paramsOfValue? : Value α → Option (Quat ParamId)
  | .tuple "" [w, x, y, z] => do
    return { w := ← ParamId.ofValue? w, x := ← ParamId.ofValue? x, y := ← ParamId.ofValue? y, z := ← ParamId.ofValue? z }
  | _ => none

end Quat

namespace Axis

def shape : Shape := .record "Axis3D" [("origin", .vector), ("direction", .vector)]

def toValue (a : Axis α) : Value α :=
  record "" [("origin", a.origin.toValue number), ("direction", a.direction.toValue number)]

def ofValue? [Scalar α] (v : Value α) : Option (Axis α) := do
  let fs ← v.record?
  return ⟨← field fs "origin" (Vec3.ofValue? number?), ← field fs "direction" (Vec3.ofValue? number?)⟩

end Axis

namespace ShellId

def text (s : ShellId) : String :=
  let ds := Nat.toDigits 16 s.number
  let ds := List.replicate (32 - ds.length) '0' ++ ds
  let part (start count : Nat) := String.ofList ((ds.drop start).take count)
  part 0 8 ++ "-" ++ part 8 4 ++ "-" ++ part 12 4 ++ "-" ++ part 16 4 ++ "-" ++ part 20 12

def ofGroups? (lengths : List Nat) (cs : List Char) : Option ShellId :=
  let parts := cs.splitOn '-'
  if parts.map List.length = lengths then (hexValue? parts.flatten).map ShellId.mk else none

/-- All digits in one, or five groups of them, which may stand in braces or after the name of the
notation. -/
def ofText? (s : String) : Option ShellId :=
  let cs := s.toList
  let groups := ofGroups? [8, 4, 4, 4, 12]
  if cs.take 9 = "urn:uuid:".toList || cs.take 9 = "URN:UUID:".toList then groups (cs.drop 9)
  else if cs.head? = some '\x7b' && cs.getLast? = some '\x7d' then groups (cs.drop 1).dropLast
  else groups cs <|> ofGroups? [32] cs

end ShellId
end Drafting
