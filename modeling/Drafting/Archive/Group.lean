import Drafting.Archive.Handle
import Drafting.Group.Basic
/-! Groups as data of a document. Only what was asked for is kept; what regeneration made of it is
left out and begins anew. -/
namespace Drafting
open Archive Value

def Sides.names : List (Sides × String) := [(oneSided, "OneSided"), (twoSided, "TwoSided")]

def CombineAs.names : List (CombineAs × String) :=
  [(union, "Union"), (difference, "Difference"), (assemble, "Assemble"), (intersection, "Intersection")]

def RemapRole.names : List (RemapRole × String) :=
  [(copy, "Copy"), (top, "Top"), (bottom, "Bottom"), (pointToLine, "PtToLine"),
   (lineToFace, "LineToFace"), (latheStart, "LatheStart"), (latheEnd, "LatheEnd"),
   (pointToArc, "PtToArc"), (pointToNormal, "PtToNormal"), (latheArcCenter, "LatheArcCenter"),
   (latheRadius, "LatheRadius")]

namespace GroupKind

def shape : Shape :=
  .choice []
    [("DrawingWorkplane", [("origin", .vector), ("orientation", .rotation)]),
     ("Extrude", [("sides", .constant), ("lock_to_workplane", .flag)]),
     ("Lathe", [("axis", Axis.shape)]),
     ("Revolve", [("axis", Axis.shape)]),
     ("Rotate", [("center", .vector), ("axis", .vector), ("copies", .natural), ("sides", .constant),
       ("skip_first", .flag)]),
     ("Translate", [("copies", .natural), ("sides", .constant), ("skip_first", .flag)]),
     ("Linked", [("points", .list .vector), ("shell", .option .text)])]

def toValue : GroupKind α → Value α
  | drawing3d => word "Drawing3d"
  | drawingWorkplane origin orientation =>
    record "DrawingWorkplane" [("origin", origin.toValue number), ("orientation", orientation.toValue)]
  | extrude sides lock =>
    record "Extrude" [("sides", ofConst Sides.names sides), ("lock_to_workplane", flag lock)]
  | lathe axis => record "Lathe" [("axis", axis.toValue)]
  | revolve axis => record "Revolve" [("axis", axis.toValue)]
  | rotate center axis copies sides skip =>
    record "Rotate" [("center", center.toValue number), ("axis", axis.toValue number),
      ("copies", integer copies), ("sides", ofConst Sides.names sides), ("skip_first", flag skip)]
  | translate copies sides skip =>
    record "Translate" [("copies", integer copies), ("sides", ofConst Sides.names sides),
      ("skip_first", flag skip)]
  | linked points shell =>
    record "Linked" [("points", .list (points.map (Vec3.toValue number))),
      ("shell", optional (fun s => text s.text) shell)]

def ofFields? [Scalar α] (name : String) (fs : List (String × Value α)) : Option (GroupKind α) := do
  let sides := field fs "sides" (const? Sides.names)
  let copies := field fs "copies" short?
  let skip := field fs "skip_first" flag?
  match name with
  | "DrawingWorkplane" =>
    return drawingWorkplane (← field fs "origin" (Vec3.ofValue? number?)) (← field fs "orientation" Quat.ofValue?)
  | "Extrude" => return extrude (← sides) (← field fs "lock_to_workplane" flag?)
  | "Lathe" => return lathe (← field fs "axis" Axis.ofValue?)
  | "Revolve" => return revolve (← field fs "axis" Axis.ofValue?)
  | "Rotate" =>
    return rotate (← field fs "center" (Vec3.ofValue? number?)) (← field fs "axis" (Vec3.ofValue? number?))
      (← copies) (← sides) (← skip)
  | "Translate" => return translate (← copies) (← sides) (← skip)
  | "Linked" =>
    return linked (← field fs "points" (list? (Vec3.ofValue? number?)))
      (← fieldD fs "shell" none (optional? fun v => v.text?.bind ShellId.ofText?))
  | _ => none

def ofValue? [Scalar α] : Value α → Option (GroupKind α)
  | .word "Drawing3d" => some drawing3d
  | .record name fs => ofFields? name fs
  | _ => none

end GroupKind

namespace RemapSource

def shape : Shape := .choice [("Entity", EntityId.shape), ("Imported", .natural)] []

def toValue : RemapSource → Value α
  | entity id => named "Entity" id.toValue
  | imported index => named "Imported" (integer index)

def ofValue? : Value α → Option RemapSource
  | .tuple "Entity" [v] => (EntityId.ofValue? v).map entity
  | .tuple "Imported" [v] => v.short?.map imported
  | _ => none

end RemapSource

namespace RemapKey

def shape : Shape :=
  .record "RemapKey" [("source", RemapSource.shape), ("role", .constant), ("copy", .natural)]

def toValue (k : RemapKey) : Value α :=
  record "" [("source", k.source.toValue), ("role", ofConst RemapRole.names k.role), ("copy", integer k.copy)]

def ofValue? (v : Value α) : Option RemapKey := do
  let fs ← v.record?
  return ⟨← field fs "source" RemapSource.ofValue?, ← field fs "role" (const? RemapRole.names),
    ← field fs "copy" short?⟩

end RemapKey

namespace RemapTable

def shape : Shape := .list (.tuple "" [RemapKey.shape, .natural])

def toValue (t : RemapTable) : Value α :=
  .list (t.toList.map fun (k, s) => tuple "" [k.toValue, integer s])

def entryOfValue? (v : Value α) : Option (RemapKey × Nat) := do
  match v with
  | .tuple "" [k, s] => return (← RemapKey.ofValue? k, ← s.short?)
  | _ => none

def ofValue? (v : Value α) : Option RemapTable := (v.list? entryOfValue?).map ofList

end RemapTable

namespace Group

def shape : Shape :=
  .record "Group" [("id", GroupId.shape), ("name", .text), ("kind", GroupKind.shape),
    ("op_a", .option GroupId.shape), ("op_b", .option GroupId.shape),
    ("workplane", .option EntityId.shape), ("combine", .constant), ("visible", .flag),
    ("suppress", .flag), ("relax_constraints", .flag), ("allow_redundant", .flag),
    ("all_dims_reference", .flag), ("remap", RemapTable.shape)]

def toValue (g : Group α) : Value α :=
  record "" [("id", g.id.toValue), ("name", text g.name), ("kind", g.kind.toValue),
    ("op_a", optional GroupId.toValue g.source), ("op_b", optional GroupId.toValue g.after),
    ("workplane", optional EntityId.toValue g.workplane), ("combine", ofConst CombineAs.names g.combine),
    ("visible", flag g.visible), ("suppress", flag g.suppress),
    ("relax_constraints", flag g.relaxConstraints), ("allow_redundant", flag g.allowRedundant),
    ("all_dims_reference", flag g.allDimsReference), ("remap", g.remap.toValue)]

def ofValue? [Scalar α] (v : Value α) : Option (Group α) := do
  let fs ← v.record?
  return {
    id := ← field fs "id" GroupId.ofValue?
    name := ← field fs "name" text?
    kind := ← field fs "kind" GroupKind.ofValue?
    source := ← fieldD fs "op_a" none (optional? GroupId.ofValue?)
    after := ← fieldD fs "op_b" none (optional? GroupId.ofValue?)
    workplane := ← fieldD fs "workplane" none (optional? EntityId.ofValue?)
    combine := ← fieldD fs "combine" .union (const? CombineAs.names)
    visible := ← fieldD fs "visible" true flag?
    suppress := ← fieldD fs "suppress" false flag?
    relaxConstraints := ← fieldD fs "relax_constraints" false flag?
    allowRedundant := ← fieldD fs "allow_redundant" false flag?
    allDimsReference := ← fieldD fs "all_dims_reference" false flag?
    remap := ← fieldD fs "remap" {} RemapTable.ofValue? }

end Group
end Drafting
