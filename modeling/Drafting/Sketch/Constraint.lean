import Drafting.Sketch.Entity
/-! Geometric and dimensional constraints. A constraint names entities by handle. -/
namespace Drafting

inductive ArcEnd where
  | start
  | finish
  deriving DecidableEq, Hashable, Repr, Inhabited

def ArcEnd.name : ArcEnd → String
  | start => "Start"
  | finish => "Finish"

structure TangentEnds where
  first : ArcEnd
  second : ArcEnd
  deriving DecidableEq, Hashable, Repr, Inhabited

inductive ConstraintKind (α : Type) where
  | pointsCoincident (a b : EntityId)
  | pointPointDistance (a b : EntityId) (distance : α)
  | projectedDistance (a b along : EntityId) (distance : α)
  | pointPlaneDistance (point plane : EntityId) (distance : α)
  | pointFaceDistance (point face : EntityId) (distance : α)
  | pointLineDistance (point line : EntityId) (distance : α)
  | pointInPlane (point plane : EntityId)
  | pointOnFace (point face : EntityId)
  | pointOnLine (point line : EntityId)
  | pointOnCircle (point circle : EntityId)
  | equalLengthLines (a b : EntityId)
  | lengthRatio (a b : EntityId) (ratio : α)
  | lengthDifference (a b : EntityId) (difference : α)
  | equalLengthPointLineDistance (line point otherLine : EntityId)
  | equalPointLineDistances (pointA lineA pointB lineB : EntityId)
  | equalLineArcLength (line arc : EntityId)
  | arcArcLengthRatio (a b : EntityId) (ratio : α)
  | arcLineLengthRatio (arc line : EntityId) (ratio : α)
  | arcArcDifference (a b : EntityId) (difference : α)
  | arcLineDifference (arc line : EntityId) (difference : α)
  | equalRadius (a b : EntityId)
  | diameter (circle : EntityId) (diameter : α)
  | symmetric (a b plane : EntityId)
  | symmetricHorizontal (a b : EntityId)
  | symmetricVertical (a b : EntityId)
  | symmetricLine (a b line : EntityId)
  | atMidpoint (point line : EntityId)
  | horizontal (line : EntityId)
  | vertical (line : EntityId)
  | sameOrientation (a b : EntityId)
  | angle (a b : EntityId) (degrees : α) (supplementary : Bool)
  | equalAngle (a b c d : EntityId) (supplementary : Bool)
  | parallel (a b : EntityId)
  | perpendicular (a b : EntityId)
  | arcLineTangent (arc line : EntityId) (tip : ArcEnd)
  | cubicLineTangent (cubic line : EntityId) (tip : ArcEnd)
  | curveCurveTangent (a b : EntityId) (ends : TangentEnds)
  | whereDragged (point : EntityId)
  | comment (text : String)
  deriving Repr, Inhabited

namespace ConstraintKind

def typeName : ConstraintKind α → String
  | pointsCoincident .. => "Coincident"
  | pointPointDistance .. => "Distance"
  | projectedDistance .. => "Projected Distance"
  | pointPlaneDistance .. => "Point-Plane Distance"
  | pointFaceDistance .. => "Point-Face Distance"
  | pointLineDistance .. => "Point-Line Distance"
  | pointInPlane .. => "Point in Plane"
  | pointOnFace .. => "Point on Face"
  | pointOnLine .. => "Point on Line"
  | pointOnCircle .. => "Point on Circle"
  | equalLengthLines .. => "Equal Length"
  | lengthRatio .. => "Length Ratio"
  | lengthDifference .. => "Length Difference"
  | equalLengthPointLineDistance .. => "Equal Length and Distance"
  | equalPointLineDistances .. => "Equal Point-Line Distances"
  | equalLineArcLength .. => "Equal Line and Arc Length"
  | arcArcLengthRatio .. => "Arc Length Ratio"
  | arcLineLengthRatio .. => "Arc-Line Length Ratio"
  | arcArcDifference .. => "Arc Length Difference"
  | arcLineDifference .. => "Arc-Line Length Difference"
  | equalRadius .. => "Equal Radius"
  | diameter .. => "Diameter"
  | symmetric .. => "Symmetric"
  | symmetricHorizontal .. => "Symmetric Horizontal"
  | symmetricVertical .. => "Symmetric Vertical"
  | symmetricLine .. => "Symmetric about Line"
  | atMidpoint .. => "Midpoint"
  | horizontal .. => "Horizontal"
  | vertical .. => "Vertical"
  | sameOrientation .. => "Same Orientation"
  | angle .. => "Angle"
  | equalAngle .. => "Equal Angle"
  | parallel .. => "Parallel"
  | perpendicular .. => "Perpendicular"
  | arcLineTangent .. => "Arc-Line Tangent"
  | cubicLineTangent .. => "Cubic-Line Tangent"
  | curveCurveTangent .. => "Curve-Curve Tangent"
  | whereDragged .. => "Where Dragged"
  | comment .. => "Comment"

def references : ConstraintKind α → List EntityId
  | pointsCoincident a b | equalLengthLines a b | lengthRatio a b _ | lengthDifference a b _
  | arcArcLengthRatio a b _ | arcArcDifference a b _ | equalRadius a b | symmetricHorizontal a b
  | symmetricVertical a b | sameOrientation a b | angle a b _ _ | parallel a b | perpendicular a b
  | curveCurveTangent a b _ | pointPointDistance a b _ => [a, b]
  | projectedDistance a b along _ => [a, b, along]
  | pointPlaneDistance point plane _ | pointInPlane point plane => [point, plane]
  | pointFaceDistance point face _ | pointOnFace point face => [point, face]
  | pointLineDistance point line _ | pointOnLine point line | atMidpoint point line => [point, line]
  | pointOnCircle point circle => [point, circle]
  | equalLengthPointLineDistance line point otherLine => [line, point, otherLine]
  | equalPointLineDistances pointA lineA pointB lineB => [pointA, lineA, pointB, lineB]
  | equalLineArcLength line arc | arcLineLengthRatio arc line _ | arcLineDifference arc line _
  | arcLineTangent arc line _ => [line, arc]
  | cubicLineTangent cubic line _ => [cubic, line]
  | diameter circle _ => [circle]
  | symmetric a b plane => [a, b, plane]
  | symmetricLine a b line => [a, b, line]
  | horizontal line | vertical line => [line]
  | equalAngle a b c d _ => [a, b, c, d]
  | whereDragged point => [point]
  | comment _ => []

def points : ConstraintKind α → List EntityId
  | pointsCoincident a b | pointPointDistance a b _ | projectedDistance a b _ _ | symmetric a b _
  | symmetricHorizontal a b | symmetricVertical a b | symmetricLine a b _ => [a, b]
  | pointPlaneDistance point _ _ | pointFaceDistance point _ _ | pointLineDistance point _ _
  | pointInPlane point _ | pointOnFace point _ | pointOnLine point _ | pointOnCircle point _
  | equalLengthPointLineDistance _ point _ | atMidpoint point _ | whereDragged point => [point]
  | equalPointLineDistances pointA _ pointB _ => [pointA, pointB]
  | _ => []

def mapPoints (f : EntityId → EntityId) : ConstraintKind α → ConstraintKind α
  | pointsCoincident a b => pointsCoincident (f a) (f b)
  | pointPointDistance a b x => pointPointDistance (f a) (f b) x
  | projectedDistance a b along x => projectedDistance (f a) (f b) along x
  | pointPlaneDistance p plane x => pointPlaneDistance (f p) plane x
  | pointFaceDistance p face x => pointFaceDistance (f p) face x
  | pointLineDistance p line x => pointLineDistance (f p) line x
  | pointInPlane p plane => pointInPlane (f p) plane
  | pointOnFace p face => pointOnFace (f p) face
  | pointOnLine p line => pointOnLine (f p) line
  | pointOnCircle p circle => pointOnCircle (f p) circle
  | equalLengthPointLineDistance line p other => equalLengthPointLineDistance line (f p) other
  | equalPointLineDistances pa la pb lb => equalPointLineDistances (f pa) la (f pb) lb
  | symmetric a b plane => symmetric (f a) (f b) plane
  | symmetricHorizontal a b => symmetricHorizontal (f a) (f b)
  | symmetricVertical a b => symmetricVertical (f a) (f b)
  | symmetricLine a b line => symmetricLine (f a) (f b) line
  | atMidpoint p line => atMidpoint (f p) line
  | whereDragged p => whereDragged (f p)
  | k => k

def value? : ConstraintKind α → Option α
  | pointPointDistance _ _ x | projectedDistance _ _ _ x | pointPlaneDistance _ _ x
  | pointFaceDistance _ _ x | pointLineDistance _ _ x | lengthRatio _ _ x | arcArcLengthRatio _ _ x
  | arcLineLengthRatio _ _ x | lengthDifference _ _ x | arcArcDifference _ _ x
  | arcLineDifference _ _ x | diameter _ x | angle _ _ x _ => some x
  | _ => none

def isDimensional (k : ConstraintKind α) : Bool := k.value?.isSome

def setValue (x : α) : ConstraintKind α → ConstraintKind α
  | pointPointDistance a b _ => pointPointDistance a b x
  | projectedDistance a b along _ => projectedDistance a b along x
  | pointPlaneDistance p plane _ => pointPlaneDistance p plane x
  | pointFaceDistance p face _ => pointFaceDistance p face x
  | pointLineDistance p line _ => pointLineDistance p line x
  | lengthRatio a b _ => lengthRatio a b x
  | arcArcLengthRatio a b _ => arcArcLengthRatio a b x
  | arcLineLengthRatio arc line _ => arcLineLengthRatio arc line x
  | lengthDifference a b _ => lengthDifference a b x
  | arcArcDifference a b _ => arcArcDifference a b x
  | arcLineDifference arc line _ => arcLineDifference arc line x
  | diameter circle _ => diameter circle x
  | angle a b _ s => angle a b x s
  | k => k

def requiresWorkplane : ConstraintKind α → Bool
  | horizontal _ | vertical _ | symmetricHorizontal .. | symmetricVertical .. | symmetricLine ..
  | arcLineTangent .. | cubicLineTangent .. | curveCurveTangent .. => true
  | _ => false

def helperCount (workplane : Option EntityId) : ConstraintKind α → Nat
  | pointOnLine .. | parallel .. => if workplane.isNone then 1 else 0
  | sameOrientation .. => 1
  | _ => 0

end ConstraintKind

structure Constraint (α : Type) where
  id : ConstraintId
  group : GroupId
  workplane : Option EntityId
  kind : ConstraintKind α
  /-- Measured, never enforced. -/
  reference : Bool := false
  deriving Repr, Inhabited

instance : Keyed ConstraintId (Constraint α) := ⟨Constraint.id⟩

namespace Constraint

def helpers (c : Constraint α) : List ParamId :=
  (List.range (c.kind.helperCount c.workplane)).map (.constraint c.id ·)

def references (c : Constraint α) : List EntityId := c.kind.references ++ c.workplane.toList

end Constraint
end Drafting
