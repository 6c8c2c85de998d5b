import Drafting.Curve.Bezier
import Drafting.Curve.Parametric
import Drafting.Sketch.Evaluate
/-! The curves of entities at the current values. -/
namespace Drafting.Sketch

variable [Scalar α]

def pieces (s : Sketch α) (id : EntityId) : Except SketchError (List (Bezier α)) := do
  match (← s.entity id).kind with
  | .line a b => return [.line (← s.position a) (← s.position b)]
  | .cubic p0 p1 p2 p3 =>
    return [.cubic (← s.position p0) (← s.position p1) (← s.position p2) (← s.position p3)]
  | .circle center normal _ =>
    let q ← s.orientation normal
    return Bezier.arc (← s.position center) (q.rotate .unitX) (q.rotate .unitY) (← s.radius id) 0.0
      Scalar.tau
  | .arc center _ _ normal =>
    let q ← s.orientation normal
    let angles ← s.arcAngles id
    return Bezier.arc (← s.position center) (q.rotate .unitX) (q.rotate .unitY) (← s.radius id)
      angles.start angles.sweep
  | _ => throw (.wrongKind id .curve)

def parametric (s : Sketch α) (id : EntityId) (reverse : Bool) : Except SketchError (Parametric α) := do
  match (← s.entity id).kind with
  | .line a b =>
    let p0 ← s.position a
    let p1 ← s.position b
    return if reverse then .line p1 p0 else .line p0 p1
  | .arc center _ _ normal =>
    let q ← s.orientation normal
    let angles ← s.arcAngles id
    let (theta0, dtheta) := if reverse then (angles.finish, -angles.sweep) else (angles.start, angles.sweep)
    return .arc (← s.position center) (← s.radius id) theta0 dtheta (q.rotate .unitX) (q.rotate .unitY)
  | _ => throw (.wrongKind id .lineOrArc)

end Drafting.Sketch
