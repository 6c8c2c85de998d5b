import Drafting.Proofs.Result
import Drafting.Sketch.Validate
/-! What a kind of constraint names, each name with the class of entity that belongs there. The references, the points
and the checks on a constraint before it is added are tables of their own, and all agree with this one. -/
namespace Drafting

namespace ConstraintKind

def slots : ConstraintKind α → List (EntityClass × EntityId)
  | pointsCoincident a b | pointPointDistance a b _ | symmetricHorizontal a b | symmetricVertical a b =>
    [(.point, a), (.point, b)]
  | projectedDistance a b along _ => [(.point, a), (.point, b), (.line, along)]
  | pointPlaneDistance point plane _ | pointInPlane point plane => [(.point, point), (.plane, plane)]
  | pointFaceDistance point face _ | pointOnFace point face => [(.point, point), (.face, face)]
  | pointLineDistance point line _ | pointOnLine point line | atMidpoint point line =>
    [(.point, point), (.line, line)]
  | pointOnCircle point circle => [(.point, point), (.round, circle)]
  | equalLengthLines a b | lengthRatio a b _ | lengthDifference a b _ | angle a b _ _ | parallel a b
  | perpendicular a b => [(.line, a), (.line, b)]
  | equalLengthPointLineDistance line point otherLine =>
    [(.line, line), (.point, point), (.line, otherLine)]
  | equalPointLineDistances pointA lineA pointB lineB =>
    [(.point, pointA), (.line, lineA), (.point, pointB), (.line, lineB)]
  | equalLineArcLength line arc | arcLineLengthRatio arc line _ | arcLineDifference arc line _
  | arcLineTangent arc line _ => [(.line, line), (.arc, arc)]
  | arcArcLengthRatio a b _ | arcArcDifference a b _ => [(.arc, a), (.arc, b)]
  | equalRadius a b => [(.round, a), (.round, b)]
  | diameter circle _ => [(.round, circle)]
  | symmetric a b plane => [(.point, a), (.point, b), (.plane, plane)]
  | symmetricLine a b line => [(.point, a), (.point, b), (.line, line)]
  | horizontal line | vertical line => [(.line, line)]
  | sameOrientation a b => [(.normal, a), (.normal, b)]
  | equalAngle a b c d _ => [(.line, a), (.line, b), (.line, c), (.line, d)]
  | cubicLineTangent cubic line _ => [(.cubic, cubic), (.line, line)]
  | curveCurveTangent a b _ => [(.smooth, a), (.smooth, b)]
  | whereDragged point => [(.point, point)]
  | comment _ => []

theorem referencesSlots (k : ConstraintKind α) : k.references = k.slots.map Prod.snd := by
  cases k <;> rfl

theorem pointsSlots (k : ConstraintKind α) :
    k.points = k.slots.filterMap fun (c, e) => if c = .point then some e else none := by
  cases k <;> rfl

end ConstraintKind

namespace Sketch

def checkDragged (s : Sketch α) : ConstraintKind α → Except ConstraintError Unit
  | .whereDragged p => do
    if (← s.entity p).kind.ownParams.isEmpty then
      throw (.notDraggable p)
  | _ => return

theorem checkEntitiesSlots (s : Sketch α) (kind : ConstraintKind α) : s.checkEntities kind = (do
    kind.slots.forM fun (c, id) => s.expect kind.typeName id c
    s.checkDragged kind) := by
  cases kind <;> simp [checkEntities, checkDragged, ConstraintKind.slots]

end Sketch
end Drafting
