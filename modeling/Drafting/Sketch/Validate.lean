import Drafting.Sketch.Residual
/-! Which constraints may be added: every name stands for an entity of its class, and nothing that a
residual divides by is zero. -/
namespace Drafting

namespace ConstraintKind

def directionLines : ConstraintKind α → List EntityId
  | projectedDistance _ _ along _ => [along]
  | pointLineDistance _ line _ | pointOnLine _ line | symmetricLine _ _ line
  | arcLineLengthRatio _ line _ | arcLineTangent _ line _ | cubicLineTangent _ line _ => [line]
  | lengthRatio _ b _ => [b]
  | equalLengthPointLineDistance _ _ other => [other]
  | equalPointLineDistances _ la _ lb => [la, lb]
  | angle a b _ _ | parallel a b | perpendicular a b => [a, b]
  | equalAngle a b c d _ => [a, b, c, d]
  | _ => []

def radiusArcs : ConstraintKind α → List EntityId
  | equalLineArcLength _ arc | arcLineLengthRatio arc _ _ | arcLineDifference arc _ _
  | arcLineTangent arc _ _ => [arc]
  | arcArcLengthRatio a b _ | arcArcDifference a b _ => [a, b]
  | _ => []

def tangentTips : ConstraintKind α → List (EntityId × ArcEnd)
  | cubicLineTangent cubic _ tip => [(cubic, tip)]
  | curveCurveTangent a b ends => [(a, ends.first), (b, ends.second)]
  | _ => []

end ConstraintKind

namespace Sketch
variable [Scalar α]

def degenerateEpsilon : α := 1e-9

def expect (s : Sketch α) (constraint : String) (id : EntityId) (c : EntityClass) :
    Except ConstraintError Unit := do
  if !(← s.entity id).isA c then
    throw (.wrongEntity constraint id c)

def checkEntities (s : Sketch α) (kind : ConstraintKind α) : Except ConstraintError Unit := do
  let point (id : EntityId) := s.expect kind.typeName id .point
  let line (id : EntityId) := s.expect kind.typeName id .line
  let arc (id : EntityId) := s.expect kind.typeName id .arc
  let round (id : EntityId) := s.expect kind.typeName id .round
  let plane (id : EntityId) := s.expect kind.typeName id .plane
  match kind with
  | .pointsCoincident a b | .pointPointDistance a b _ =>
    point a
    point b
  | .projectedDistance a b along _ =>
    point a
    point b
    line along
  | .pointPlaneDistance p pl _ | .pointInPlane p pl =>
    point p
    plane pl
  | .pointFaceDistance p face _ | .pointOnFace p face =>
    point p
    s.expect kind.typeName face .face
  | .pointLineDistance p l _ | .pointOnLine p l | .atMidpoint p l =>
    point p
    line l
  | .pointOnCircle p circle =>
    point p
    round circle
  | .equalLengthLines a b | .lengthRatio a b _ | .lengthDifference a b _ | .angle a b _ _
  | .parallel a b | .perpendicular a b =>
    line a
    line b
  | .equalLengthPointLineDistance l p otherLine =>
    line l
    point p
    line otherLine
  | .equalPointLineDistances pointA lineA pointB lineB =>
    point pointA
    line lineA
    point pointB
    line lineB
  | .equalLineArcLength l a | .arcLineLengthRatio a l _ | .arcLineDifference a l _ | .arcLineTangent a l _ =>
    line l
    arc a
  | .arcArcLengthRatio a b _ | .arcArcDifference a b _ =>
    arc a
    arc b
  | .equalRadius a b =>
    round a
    round b
  | .diameter circle _ => round circle
  | .symmetric a b pl =>
    point a
    point b
    plane pl
  | .symmetricHorizontal a b | .symmetricVertical a b =>
    point a
    point b
  | .symmetricLine a b l =>
    point a
    point b
    line l
  | .horizontal l | .vertical l => line l
  | .sameOrientation a b =>
    s.expect kind.typeName a .normal
    s.expect kind.typeName b .normal
  | .equalAngle a b c d _ => [a, b, c, d].forM line
  | .cubicLineTangent cubic l _ =>
    s.expect kind.typeName cubic .cubic
    line l
  | .curveCurveTangent a b _ =>
    s.expect kind.typeName a .smooth
    s.expect kind.typeName b .smooth
  | .whereDragged p =>
    point p
    if (← s.entity p).kind.ownParams.isEmpty then
      throw (.notDraggable p)
  | .comment _ => return

def checkDegenerate (s : Sketch α) (c : Setting α) (kind : ConstraintKind α) :
    Except ConstraintError Unit := do
  kind.directionLines.forM fun line => do
    let length := c.value (← c.lineLength line)
    if !decide (degenerateEpsilon < length) then
      throw (.zeroLength line)
  kind.radiusArcs.forM fun arc => do
    let radius ← s.radius arc
    if !decide (degenerateEpsilon < radius) then
      throw (.zeroRadius arc)
  kind.tangentTips.forM fun (curve, tip) => do
    let t := (c.project (← c.endTangent curve tip)).eval s.valueOf
    if !decide (degenerateEpsilon < t.length) then
      throw (.noDirection curve tip)

def validate (s : Sketch α) (group : GroupId) (workplane : Option EntityId) (kind : ConstraintKind α) :
    Except ConstraintError Unit := do
  let _ ← s.group group
  match workplane with
  | some w => s.expect kind.typeName w .workplane
  | none =>
    if kind.requiresWorkplane then
      throw (.workplaneRequired kind.typeName)
  s.checkEntities kind
  s.checkDegenerate (← Setting.of s ⟨⟨0⟩, group, workplane, kind, true⟩) kind

end Sketch
end Drafting
