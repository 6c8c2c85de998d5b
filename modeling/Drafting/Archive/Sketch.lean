import Drafting.Archive.Constraint
import Drafting.Archive.Entity
import Drafting.Archive.Group
import Drafting.Archive.Printer
import Drafting.Archive.Reader
import Drafting.Sketch.Basic
/-! Whole sketches as documents. -/
namespace Drafting
open Archive Value

namespace Param

def shape : Shape :=
  .record "Param" [("id", ParamId.shape), ("group", GroupId.shape), ("value", .number)]

def toValue (p : Param α) : Value α :=
  record "" [("id", p.id.toValue), ("group", p.group.toValue), ("value", number p.value)]

def ofValue? [Scalar α] (v : Value α) : Option (Param α) := do
  let fs ← v.record?
  return ⟨← field fs "id" ParamId.ofValue?, ← field fs "group" GroupId.ofValue?, ← field fs "value" number?⟩

end Param

namespace Registry

def toValue [BEq κ] [Hashable κ] (write : τ → Value α) (r : Registry κ τ) : Value α :=
  .list (r.toList.map write)

def ofValue? [BEq κ] [Hashable κ] [Keyed κ τ] (read : Value α → Option τ) (v : Value α) :
    Option (Registry κ τ) := (v.list? read).map ofList

end Registry

namespace Sketch

def shape : Shape :=
  .record "Sketch" [("version", .natural), ("groups", .list Group.shape),
    ("requests", .list Request.shape), ("constraints", .list Constraint.shape),
    ("entities", .list Entity.shape), ("params", .list Param.shape), ("next_group", .natural),
    ("next_request", .natural), ("next_constraint", .natural)]

def toValue (s : Sketch α) : Value α :=
  record "" [("version", integer s.version), ("groups", s.groups.toValue Group.toValue),
    ("requests", s.requests.toValue Request.toValue),
    ("constraints", s.constraints.toValue Constraint.toValue),
    ("entities", s.entities.toValue Entity.toValue), ("params", s.params.toValue Param.toValue),
    ("next_group", integer s.nextGroup), ("next_request", integer s.nextRequest),
    ("next_constraint", integer s.nextConstraint)]

def ofValue? [Scalar α] (v : Value α) : Option (Sketch α) := do
  let fs ← v.record?
  return {
    version := ← fieldD fs "version" 1 short?
    groups := ← field fs "groups" (Registry.ofValue? Group.ofValue?)
    requests := ← field fs "requests" (Registry.ofValue? Request.ofValue?)
    constraints := ← field fs "constraints" (Registry.ofValue? Constraint.ofValue?)
    entities := ← field fs "entities" (Registry.ofValue? Entity.ofValue?)
    params := ← field fs "params" (Registry.ofValue? Param.ofValue?)
    nextGroup := ← field fs "next_group" short?
    nextRequest := ← field fs "next_request" short?
    nextConstraint := ← field fs "next_constraint" short? }

def write (s : Sketch Float) : String := print s.toValue

def read (document : String) : Except SketchError (Sketch Float) :=
  found .unreadable ((parse shape document).bind ofValue?)

def load (texts : String → Option String) (path : String) : Except SketchError (Sketch Float) := do
  read (← found .noSuchFile (texts path))

end Sketch
end Drafting
