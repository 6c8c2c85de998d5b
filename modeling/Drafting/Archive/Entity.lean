import Drafting.Archive.Handle
import Drafting.Sketch.Request
/-! Entities and requests as data of a document. -/
namespace Drafting
open Archive Value

namespace CopyTransform

def shape : Shape :=
  .choice []
    [("Translate", [("delta", .triple ParamId.shape), ("times", .number)]),
     ("Rotate", [("center", .triple ParamId.shape), ("axis", .triple ParamId.shape),
       ("angle", ParamId.shape), ("times", .number)]),
     ("Revolve", [("origin", .vector), ("axis", .vector), ("angle", ParamId.shape)]),
     ("Linked", [("offset", .triple ParamId.shape), ("rotation", .quadruple ParamId.shape)])]

def toValue : CopyTransform α → Value α
  | identity => word "Identity"
  | translate delta times =>
    record "Translate" [("delta", delta.toValue ParamId.toValue), ("times", number times)]
  | rotate center axis angle times =>
    record "Rotate" [("center", center.toValue ParamId.toValue), ("axis", axis.toValue ParamId.toValue),
      ("angle", angle.toValue), ("times", number times)]
  | revolve origin axis angle =>
    record "Revolve" [("origin", origin.toValue number), ("axis", axis.toValue number),
      ("angle", angle.toValue)]
  | linked offset rotation =>
    record "Linked" [("offset", offset.toValue ParamId.toValue), ("rotation", rotation.paramsToValue)]

def ofValue? [Scalar α] : Value α → Option (CopyTransform α)
  | .word "Identity" => some identity
  | .record "Translate" fs => do
    return translate (← field fs "delta" (Vec3.ofValue? ParamId.ofValue?)) (← field fs "times" number?)
  | .record "Rotate" fs => do
    return rotate (← field fs "center" (Vec3.ofValue? ParamId.ofValue?))
      (← field fs "axis" (Vec3.ofValue? ParamId.ofValue?)) (← field fs "angle" ParamId.ofValue?)
      (← field fs "times" number?)
  | .record "Revolve" fs => do
    return revolve (← field fs "origin" (Vec3.ofValue? number?)) (← field fs "axis" (Vec3.ofValue? number?))
      (← field fs "angle" ParamId.ofValue?)
  | .record "Linked" fs => do
    return linked (← field fs "offset" (Vec3.ofValue? ParamId.ofValue?))
      (← field fs "rotation" Quat.paramsOfValue?)
  | _ => none

end CopyTransform

namespace FaceNormal

def shape : Shape :=
  .choice [("Normal", EntityId.shape)]
    [("Sweep", [("from", EntityId.shape), ("to", EntityId.shape), ("direction", .triple ParamId.shape)])]

def toValue : FaceNormal → Value α
  | normal id => named "Normal" id.toValue
  | sweep source target direction =>
    record "Sweep" [("from", source.toValue), ("to", target.toValue),
      ("direction", direction.toValue ParamId.toValue)]

def ofValue? : Value α → Option FaceNormal
  | .tuple "Normal" [v] => (EntityId.ofValue? v).map normal
  | .record "Sweep" fs => do
    return sweep (← field fs "from" EntityId.ofValue?) (← field fs "to" EntityId.ofValue?)
      (← field fs "direction" (Vec3.ofValue? ParamId.ofValue?))
  | _ => none

end FaceNormal

namespace EntityKind

def shape : Shape :=
  .choice []
    [("PointIn3d", [("params", .triple ParamId.shape)]),
     ("PointIn2d", [("params", .pair ParamId.shape)]),
     ("PointCopy", [("base", .vector), ("transform", CopyTransform.shape)]),
     ("NormalIn3d", [("params", .quadruple ParamId.shape)]),
     ("NormalCopy", [("base", .rotation), ("transform", CopyTransform.shape)]),
     ("Workplane", [("origin", EntityId.shape), ("normal", EntityId.shape)]),
     ("Distance", [("param", ParamId.shape)]),
     ("DistanceCopy", [("value", .number)]),
     ("LineSegment", [("points", .pair EntityId.shape)]),
     ("Circle", [("center", EntityId.shape), ("normal", EntityId.shape), ("radius", EntityId.shape)]),
     ("ArcOfCircle", [("center", EntityId.shape), ("start", EntityId.shape), ("finish", EntityId.shape),
       ("normal", EntityId.shape)]),
     ("Cubic", [("points", .quadruple EntityId.shape)]),
     ("Face", [("point", EntityId.shape), ("normal", FaceNormal.shape)])]

def toValue : EntityKind α → Value α
  | pointIn3d p => record "PointIn3d" [("params", p.toValue ParamId.toValue)]
  | pointIn2d p => record "PointIn2d" [("params", p.toValue ParamId.toValue)]
  | pointCopy base t => record "PointCopy" [("base", base.toValue number), ("transform", t.toValue)]
  | normalIn3d q => record "NormalIn3d" [("params", q.paramsToValue)]
  | normalIn2d => word "NormalIn2d"
  | normalCopy base t => record "NormalCopy" [("base", base.toValue), ("transform", t.toValue)]
  | workplane origin normal => record "Workplane" [("origin", origin.toValue), ("normal", normal.toValue)]
  | distance p => record "Distance" [("param", p.toValue)]
  | distanceCopy x => record "DistanceCopy" [("value", number x)]
  | line a b => record "LineSegment" [("points", tuple "" [a.toValue, b.toValue])]
  | circle center normal radius =>
    record "Circle" [("center", center.toValue), ("normal", normal.toValue), ("radius", radius.toValue)]
  | arc center start finish normal =>
    record "ArcOfCircle" [("center", center.toValue), ("start", start.toValue),
      ("finish", finish.toValue), ("normal", normal.toValue)]
  | cubic p0 p1 p2 p3 =>
    record "Cubic" [("points", tuple "" [p0.toValue, p1.toValue, p2.toValue, p3.toValue])]
  | face point normal => record "Face" [("point", point.toValue), ("normal", normal.toValue)]

def ofFields? [Scalar α] (name : String) (fs : List (String × Value α)) : Option (EntityKind α) := do
  let e (key : String) := field fs key EntityId.ofValue?
  match name with
  | "PointIn3d" => return pointIn3d (← field fs "params" (Vec3.ofValue? ParamId.ofValue?))
  | "PointIn2d" => return pointIn2d (← field fs "params" (Vec2.ofValue? ParamId.ofValue?))
  | "PointCopy" =>
    return pointCopy (← field fs "base" (Vec3.ofValue? number?)) (← field fs "transform" CopyTransform.ofValue?)
  | "NormalIn3d" => return normalIn3d (← field fs "params" Quat.paramsOfValue?)
  | "NormalCopy" =>
    return normalCopy (← field fs "base" Quat.ofValue?) (← field fs "transform" CopyTransform.ofValue?)
  | "Workplane" => return workplane (← e "origin") (← e "normal")
  | "Distance" => return distance (← field fs "param" ParamId.ofValue?)
  | "DistanceCopy" => return distanceCopy (← field fs "value" number?)
  | "LineSegment" =>
    match ← field fs "points" tuple? with
    | [a, b] => return line (← EntityId.ofValue? a) (← EntityId.ofValue? b)
    | _ => none
  | "Circle" => return circle (← e "center") (← e "normal") (← e "radius")
  | "ArcOfCircle" => return arc (← e "center") (← e "start") (← e "finish") (← e "normal")
  | "Cubic" =>
    match ← field fs "points" tuple? with
    | [a, b, c, d] =>
      return cubic (← EntityId.ofValue? a) (← EntityId.ofValue? b) (← EntityId.ofValue? c)
        (← EntityId.ofValue? d)
    | _ => none
  | "Face" => return face (← e "point") (← field fs "normal" FaceNormal.ofValue?)
  | _ => none

def ofValue? [Scalar α] : Value α → Option (EntityKind α)
  | .word "NormalIn2d" => some normalIn2d
  | .record name fs => ofFields? name fs
  | _ => none

end EntityKind

namespace Entity

def shape : Shape :=
  .record "Entity" [("id", EntityId.shape), ("group", GroupId.shape),
    ("workplane", .option EntityId.shape), ("construction", .flag), ("kind", EntityKind.shape)]

def toValue (e : Entity α) : Value α :=
  record "" [("id", e.id.toValue), ("group", e.group.toValue),
    ("workplane", optional EntityId.toValue e.workplane), ("construction", flag e.construction),
    ("kind", e.kind.toValue)]

def ofValue? [Scalar α] (v : Value α) : Option (Entity α) := do
  let fs ← v.record?
  return {
    id := ← field fs "id" EntityId.ofValue?
    group := ← field fs "group" GroupId.ofValue?
    workplane := ← fieldD fs "workplane" none (optional? EntityId.ofValue?)
    construction := ← field fs "construction" flag?
    kind := ← field fs "kind" EntityKind.ofValue? }

end Entity

def RequestKind.names : List (RequestKind × String) :=
  [(datumPoint, "DatumPoint"), (workplane, "Workplane"), (line, "LineSegment"), (circle, "Circle"),
   (arc, "ArcOfCircle"), (cubic, "Cubic")]

namespace Request

def shape : Shape :=
  .record "Request" [("id", RequestId.shape), ("group", GroupId.shape),
    ("workplane", .option EntityId.shape), ("kind", .constant), ("construction", .flag)]

def toValue (r : Request) : Value α :=
  record "" [("id", r.id.toValue), ("group", r.group.toValue),
    ("workplane", optional EntityId.toValue r.workplane), ("kind", ofConst RequestKind.names r.kind),
    ("construction", flag r.construction)]

def ofValue? (v : Value α) : Option Request := do
  let fs ← v.record?
  return {
    id := ← field fs "id" RequestId.ofValue?
    group := ← field fs "group" GroupId.ofValue?
    workplane := ← fieldD fs "workplane" none (optional? EntityId.ofValue?)
    kind := ← field fs "kind" (const? RequestKind.names)
    construction := ← fieldD fs "construction" false flag? }

end Request
end Drafting
