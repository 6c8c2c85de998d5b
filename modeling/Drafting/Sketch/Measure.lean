import Drafting.Sketch.Residual
/-! What a constraint reads off the geometry as it is: the value of a dimension, a first guess for its
own parameter, and the tangency that fits two curves. -/
namespace Drafting

namespace Sketch
variable [Scalar α]

/-- The kind of a constraint with the value that holds now. An angle above 90 degrees is kept as its
supplement; kinds without a value stay as they are. -/
def measured (s : Sketch α) (c : Constraint α) : Except ConstraintError (ConstraintKind α) := do
  match c.kind with
  | .angle a b _ _ =>
    let setting ← Setting.of s c
    let cosine := setting.value ((← setting.lineDirection a).directionCosine (← setting.lineDirection b))
    let theta := Scalar.degrees (Scalar.acos (Arith.clamp cosine (-1.0) 1.0))
    return if 90.0 < theta then .angle a b (180.0 - theta) true else .angle a b theta false
  | kind =>
    if kind.isDimensional then
      match ← s.measuredEquations { c with kind := kind.setValue 0.0 } with
      | first :: _ => return kind.setValue (first.expr.eval s.valueOf)
      | [] => return kind
    else
      return kind

def linePositions (s : Sketch α) (line : EntityId) : Except ConstraintError (Vec3 α × Vec3 α) := do
  match (← s.entity line).kind with
  | .line a b => return (← s.position a, ← s.position b)
  | _ => throw (.wrongEntity "Initial guess" line .line)

def guess (s : Sketch α) (kind : ConstraintKind α) : Except ConstraintError (Option α) := do
  match kind with
  | .pointOnLine point line =>
    let (a, b) ← s.linePositions line
    let p ← s.position point
    let d := b - a
    let size := d.lengthSquared
    return some (if 0.0 < size then (p - a).dot d / size else 0.0)
  | .parallel a b =>
    let (a0, a1) ← s.linePositions a
    let (b0, b1) ← s.linePositions b
    let d := b1 - b0
    let size := d.lengthSquared
    return some (if 0.0 < size then (a1 - a0).dot d / size else 1.0)
  | .sameOrientation a b =>
    let na := (← s.orientation a).rotate .unitZ
    let nb := (← s.orientation b).rotate .unitZ
    return some (na.dot nb)
  | _ => return none

def sharedEpsilon : α := 1e-6

def sharedEnds (s : Sketch α) : List ((EntityId × ArcEnd) × (EntityId × ArcEnd)) →
    Except ConstraintError TangentEnds
  | [] => throw .noSharedEndpoint
  | ((p, endP), (q, endQ)) :: rest => do
    let a ← s.position p
    let b ← s.position q
    if a.distance b < sharedEpsilon then
      return ⟨endP, endQ⟩
    s.sharedEnds rest

def tangentBetween (s : Sketch α) (a b : EntityId) : Except ConstraintError (ConstraintKind α) := do
  let ea ← s.entity a
  let eb ← s.entity b
  let (a0, a1) ← found .noSharedEndpoint ea.kind.ends?
  let (b0, b1) ← found .noSharedEndpoint eb.kind.ends?
  let ends ← s.sharedEnds [((a0, .start), (b0, .start)), ((a0, .start), (b1, .finish)),
    ((a1, .finish), (b0, .start)), ((a1, .finish), (b1, .finish))]
  match ea.kind, eb.kind with
  | .line .., .line .. => throw .twoLines
  | .arc .., .line .. => return .arcLineTangent a b ends.first
  | .line .., .arc .. => return .arcLineTangent b a ends.second
  | _, .line .. => return .cubicLineTangent a b ends.first
  | .line .., _ => return .cubicLineTangent b a ends.second
  | _, _ => return .curveCurveTangent a b ends

end Sketch
end Drafting
