import Drafting.Archive.Handle
import Drafting.Sketch.Constraint
/-! Constraints as data of a document. -/
namespace Drafting
open Archive Value

def ArcEnd.names : List (ArcEnd × String) := [(start, "Start"), (finish, "Finish")]

def TangentEnds.names : List (TangentEnds × String) :=
  [(⟨.start, .start⟩, "StartToStart"), (⟨.start, .finish⟩, "StartToFinish"),
   (⟨.finish, .start⟩, "FinishToStart"), (⟨.finish, .finish⟩, "FinishToFinish")]

namespace ConstraintKind

def fieldShape : String → Shape
  | "distance" | "ratio" | "difference" | "diameter" | "degrees" => .number
  | "supplementary" => .flag
  | "end" | "ends" => .constant
  | "text" => .text
  | _ => EntityId.shape

def keys : List (String × List String) :=
  [("PointsCoincident", ["a", "b"]),
   ("PtPtDistance", ["a", "b", "distance"]),
   ("ProjPtDistance", ["a", "b", "along", "distance"]),
   ("PtPlaneDistance", ["point", "plane", "distance"]),
   ("PtFaceDistance", ["point", "face", "distance"]),
   ("PtLineDistance", ["point", "line", "distance"]),
   ("PtInPlane", ["point", "plane"]),
   ("PtOnFace", ["point", "face"]),
   ("PtOnLine", ["point", "line"]),
   ("PtOnCircle", ["point", "circle"]),
   ("EqualLengthLines", ["a", "b"]),
   ("LengthRatio", ["a", "b", "ratio"]),
   ("LengthDifference", ["a", "b", "difference"]),
   ("EqualLengthPointLineDistance", ["line", "point", "other_line"]),
   ("EqualPointLineDistances", ["point_a", "line_a", "point_b", "line_b"]),
   ("EqualLineArcLen", ["line", "arc"]),
   ("ArcArcLenRatio", ["a", "b", "ratio"]),
   ("ArcLineLenRatio", ["arc", "line", "ratio"]),
   ("ArcArcDifference", ["a", "b", "difference"]),
   ("ArcLineDifference", ["arc", "line", "difference"]),
   ("EqualRadius", ["a", "b"]),
   ("Diameter", ["circle", "diameter"]),
   ("Symmetric", ["a", "b", "plane"]),
   ("SymmetricHoriz", ["a", "b"]),
   ("SymmetricVert", ["a", "b"]),
   ("SymmetricLine", ["a", "b", "line"]),
   ("AtMidpoint", ["point", "line"]),
   ("Horizontal", ["line"]),
   ("Vertical", ["line"]),
   ("SameOrientation", ["a", "b"]),
   ("Angle", ["a", "b", "degrees", "supplementary"]),
   ("EqualAngle", ["a", "b", "c", "d", "supplementary"]),
   ("Parallel", ["a", "b"]),
   ("Perpendicular", ["a", "b"]),
   ("ArcLineTangent", ["arc", "line", "end"]),
   ("CubicLineTangent", ["cubic", "line", "end"]),
   ("CurveCurveTangent", ["a", "b", "ends"]),
   ("WhereDragged", ["point"]),
   ("Comment", ["text"])]

def shape : Shape :=
  .choice [] (keys.map fun (kind, ks) => (kind, ks.map fun k => (k, fieldShape k)))

def entities (keys : List String) (ids : List EntityId) : List (String × Value α) :=
  keys.zip (ids.map EntityId.toValue)

def toValue : ConstraintKind α → Value α
  | pointsCoincident a b => record "PointsCoincident" (entities ["a", "b"] [a, b])
  | pointPointDistance a b x =>
    record "PtPtDistance" (entities ["a", "b"] [a, b] ++ [("distance", number x)])
  | projectedDistance a b along x =>
    record "ProjPtDistance" (entities ["a", "b", "along"] [a, b, along] ++ [("distance", number x)])
  | pointPlaneDistance p plane x =>
    record "PtPlaneDistance" (entities ["point", "plane"] [p, plane] ++ [("distance", number x)])
  | pointFaceDistance p face x =>
    record "PtFaceDistance" (entities ["point", "face"] [p, face] ++ [("distance", number x)])
  | pointLineDistance p line x =>
    record "PtLineDistance" (entities ["point", "line"] [p, line] ++ [("distance", number x)])
  | pointInPlane p plane => record "PtInPlane" (entities ["point", "plane"] [p, plane])
  | pointOnFace p face => record "PtOnFace" (entities ["point", "face"] [p, face])
  | pointOnLine p line => record "PtOnLine" (entities ["point", "line"] [p, line])
  | pointOnCircle p circle => record "PtOnCircle" (entities ["point", "circle"] [p, circle])
  | equalLengthLines a b => record "EqualLengthLines" (entities ["a", "b"] [a, b])
  | lengthRatio a b x => record "LengthRatio" (entities ["a", "b"] [a, b] ++ [("ratio", number x)])
  | lengthDifference a b x =>
    record "LengthDifference" (entities ["a", "b"] [a, b] ++ [("difference", number x)])
  | equalLengthPointLineDistance line p other =>
    record "EqualLengthPointLineDistance" (entities ["line", "point", "other_line"] [line, p, other])
  | equalPointLineDistances pa la pb lb =>
    record "EqualPointLineDistances" (entities ["point_a", "line_a", "point_b", "line_b"] [pa, la, pb, lb])
  | equalLineArcLength line arc => record "EqualLineArcLen" (entities ["line", "arc"] [line, arc])
  | arcArcLengthRatio a b x => record "ArcArcLenRatio" (entities ["a", "b"] [a, b] ++ [("ratio", number x)])
  | arcLineLengthRatio arc line x =>
    record "ArcLineLenRatio" (entities ["arc", "line"] [arc, line] ++ [("ratio", number x)])
  | arcArcDifference a b x =>
    record "ArcArcDifference" (entities ["a", "b"] [a, b] ++ [("difference", number x)])
  | arcLineDifference arc line x =>
    record "ArcLineDifference" (entities ["arc", "line"] [arc, line] ++ [("difference", number x)])
  | equalRadius a b => record "EqualRadius" (entities ["a", "b"] [a, b])
  | diameter circle x => record "Diameter" (entities ["circle"] [circle] ++ [("diameter", number x)])
  | symmetric a b plane => record "Symmetric" (entities ["a", "b", "plane"] [a, b, plane])
  | symmetricHorizontal a b => record "SymmetricHoriz" (entities ["a", "b"] [a, b])
  | symmetricVertical a b => record "SymmetricVert" (entities ["a", "b"] [a, b])
  | symmetricLine a b line => record "SymmetricLine" (entities ["a", "b", "line"] [a, b, line])
  | atMidpoint p line => record "AtMidpoint" (entities ["point", "line"] [p, line])
  | horizontal line => record "Horizontal" (entities ["line"] [line])
  | vertical line => record "Vertical" (entities ["line"] [line])
  | sameOrientation a b => record "SameOrientation" (entities ["a", "b"] [a, b])
  | angle a b x s =>
    record "Angle" (entities ["a", "b"] [a, b] ++ [("degrees", number x), ("supplementary", flag s)])
  | equalAngle a b c d s =>
    record "EqualAngle" (entities ["a", "b", "c", "d"] [a, b, c, d] ++ [("supplementary", flag s)])
  | parallel a b => record "Parallel" (entities ["a", "b"] [a, b])
  | perpendicular a b => record "Perpendicular" (entities ["a", "b"] [a, b])
  | arcLineTangent arc line tip =>
    record "ArcLineTangent" (entities ["arc", "line"] [arc, line] ++ [("end", ofConst ArcEnd.names tip)])
  | cubicLineTangent cubic line tip =>
    record "CubicLineTangent" (entities ["cubic", "line"] [cubic, line] ++ [("end", ofConst ArcEnd.names tip)])
  | curveCurveTangent a b ends =>
    record "CurveCurveTangent" (entities ["a", "b"] [a, b] ++ [("ends", ofConst TangentEnds.names ends)])
  | whereDragged p => record "WhereDragged" (entities ["point"] [p])
  | comment s => record "Comment" [("text", text s)]

def ofFields? [Scalar α] (name : String) (fs : List (String × Value α)) : Option (ConstraintKind α) := do
  let e (key : String) := field fs key EntityId.ofValue?
  let x (key : String) := field fs key number?
  let tip := field fs "end" (const? ArcEnd.names)
  let supplementary := field fs "supplementary" flag?
  match name with
  | "PointsCoincident" => return pointsCoincident (← e "a") (← e "b")
  | "PtPtDistance" => return pointPointDistance (← e "a") (← e "b") (← x "distance")
  | "ProjPtDistance" => return projectedDistance (← e "a") (← e "b") (← e "along") (← x "distance")
  | "PtPlaneDistance" => return pointPlaneDistance (← e "point") (← e "plane") (← x "distance")
  | "PtFaceDistance" => return pointFaceDistance (← e "point") (← e "face") (← x "distance")
  | "PtLineDistance" => return pointLineDistance (← e "point") (← e "line") (← x "distance")
  | "PtInPlane" => return pointInPlane (← e "point") (← e "plane")
  | "PtOnFace" => return pointOnFace (← e "point") (← e "face")
  | "PtOnLine" => return pointOnLine (← e "point") (← e "line")
  | "PtOnCircle" => return pointOnCircle (← e "point") (← e "circle")
  | "EqualLengthLines" => return equalLengthLines (← e "a") (← e "b")
  | "LengthRatio" => return lengthRatio (← e "a") (← e "b") (← x "ratio")
  | "LengthDifference" => return lengthDifference (← e "a") (← e "b") (← x "difference")
  | "EqualLengthPointLineDistance" =>
    return equalLengthPointLineDistance (← e "line") (← e "point") (← e "other_line")
  | "EqualPointLineDistances" =>
    return equalPointLineDistances (← e "point_a") (← e "line_a") (← e "point_b") (← e "line_b")
  | "EqualLineArcLen" => return equalLineArcLength (← e "line") (← e "arc")
  | "ArcArcLenRatio" => return arcArcLengthRatio (← e "a") (← e "b") (← x "ratio")
  | "ArcLineLenRatio" => return arcLineLengthRatio (← e "arc") (← e "line") (← x "ratio")
  | "ArcArcDifference" => return arcArcDifference (← e "a") (← e "b") (← x "difference")
  | "ArcLineDifference" => return arcLineDifference (← e "arc") (← e "line") (← x "difference")
  | "EqualRadius" => return equalRadius (← e "a") (← e "b")
  | "Diameter" => return diameter (← e "circle") (← x "diameter")
  | "Symmetric" => return symmetric (← e "a") (← e "b") (← e "plane")
  | "SymmetricHoriz" => return symmetricHorizontal (← e "a") (← e "b")
  | "SymmetricVert" => return symmetricVertical (← e "a") (← e "b")
  | "SymmetricLine" => return symmetricLine (← e "a") (← e "b") (← e "line")
  | "AtMidpoint" => return atMidpoint (← e "point") (← e "line")
  | "Horizontal" => return horizontal (← e "line")
  | "Vertical" => return vertical (← e "line")
  | "SameOrientation" => return sameOrientation (← e "a") (← e "b")
  | "Angle" => return angle (← e "a") (← e "b") (← x "degrees") (← supplementary)
  | "EqualAngle" => return equalAngle (← e "a") (← e "b") (← e "c") (← e "d") (← supplementary)
  | "Parallel" => return parallel (← e "a") (← e "b")
  | "Perpendicular" => return perpendicular (← e "a") (← e "b")
  | "ArcLineTangent" => return arcLineTangent (← e "arc") (← e "line") (← tip)
  | "CubicLineTangent" => return cubicLineTangent (← e "cubic") (← e "line") (← tip)
  | "CurveCurveTangent" =>
    return curveCurveTangent (← e "a") (← e "b") (← field fs "ends" (const? TangentEnds.names))
  | "WhereDragged" => return whereDragged (← e "point")
  | "Comment" => return comment (← field fs "text" text?)
  | _ => none

def ofValue? [Scalar α] : Value α → Option (ConstraintKind α)
  | .record name fs => ofFields? name fs
  | _ => none

end ConstraintKind

namespace Constraint

def shape : Shape :=
  .record "Constraint" [("id", ConstraintId.shape), ("group", GroupId.shape),
    ("workplane", .option EntityId.shape), ("kind", ConstraintKind.shape), ("reference", .flag)]

def toValue (c : Constraint α) : Value α :=
  record "" [("id", c.id.toValue), ("group", c.group.toValue),
    ("workplane", optional EntityId.toValue c.workplane), ("kind", c.kind.toValue),
    ("reference", flag c.reference)]

def ofValue? [Scalar α] (v : Value α) : Option (Constraint α) := do
  let fs ← v.record?
  return {
    id := ← field fs "id" ConstraintId.ofValue?
    group := ← field fs "group" GroupId.ofValue?
    workplane := ← fieldD fs "workplane" none (optional? EntityId.ofValue?)
    kind := ← field fs "kind" ConstraintKind.ofValue?
    reference := ← fieldD fs "reference" false flag? }

end Constraint
end Drafting
