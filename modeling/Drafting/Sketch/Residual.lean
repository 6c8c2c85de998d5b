import Drafting.Sketch.Evaluate
/-! The residuals of a constraint. A constraint with a workplane measures what is projected into it;
one without measures in space, with a parameter of its own where a single number cannot say it. -/
namespace Drafting

structure Basis (α : Type) where
  origin : Vec3 (Expr α)
  u : Vec3 (Expr α)
  v : Vec3 (Expr α)

structure Setting (α : Type) where
  sketch : Sketch α
  constraint : ConstraintId
  name : String
  basis : Option (Basis α)

def Vec3.planarCross [Sub β] [Mul β] (a b : Vec3 β) : β := a.x * b.y - a.y * b.x

def Vec3.directionCosine [Scalar α] (a b : Vec3 (Expr α)) : Expr α :=
  a.dot b / (a.magnitude * b.magnitude)

namespace Setting
variable [Scalar α]

def of (s : Sketch α) (c : Constraint α) : Except ConstraintError (Setting α) := do
  match c.workplane with
  | none => return ⟨s, c.id, c.kind.typeName, none⟩
  | some w =>
    let plane ← s.planeExpr w
    return ⟨s, c.id, c.kind.typeName,
      some ⟨plane.origin, plane.orientation.imageU, plane.orientation.imageV⟩⟩

def helper (c : Setting α) : Expr α := .param (.constraint c.constraint 0)

def value (c : Setting α) (e : Expr α) : α := e.eval c.sketch.valueOf

def wrong (c : Setting α) (entity : EntityId) (expected : EntityClass) : Except ConstraintError τ :=
  throw (.wrongEntity c.name entity expected)

def point (c : Setting α) (id : EntityId) : Except ConstraintError (Vec3 (Expr α)) :=
  c.sketch.pointExpr id

def project (c : Setting α) (v : Vec3 (Expr α)) : Vec3 (Expr α) :=
  match c.basis with
  | some b => ⟨v.dot b.u, v.dot b.v, .const 0.0⟩
  | none => v

def coordinates (c : Setting α) (id : EntityId) : Except ConstraintError (Vec3 (Expr α)) := do
  let p ← c.point id
  match c.basis with
  | some b => return c.project (p - b.origin)
  | none => return p

/-- The residuals that say a vector is zero: two in a workplane, three in space. -/
def vanishes (c : Setting α) (d : Vec3 (Expr α)) : List (Expr α) :=
  let d := c.project d
  if c.basis.isSome then [d.x, d.y] else d.toList

def line (c : Setting α) (id : EntityId) :
    Except ConstraintError (Vec3 (Expr α) × Vec3 (Expr α)) := do
  match (← c.sketch.entity id).kind with
  | .line a b => return (← c.point a, ← c.point b)
  | _ => c.wrong id .line

def lineDirection (c : Setting α) (id : EntityId) : Except ConstraintError (Vec3 (Expr α)) := do
  let (a, b) ← c.line id
  return c.project (b - a)

def lineLength (c : Setting α) (id : EntityId) : Except ConstraintError (Expr α) :=
  return (← c.lineDirection id).magnitude

def pointLineDistance (c : Setting α) (point line : EntityId) : Except ConstraintError (Expr α) := do
  let (a, b) ← c.line line
  let p ← c.point point
  let d := c.project (b - a)
  let w := c.project (p - a)
  return (if c.basis.isSome then d.planarCross w else (w.cross d).magnitude) / d.magnitude

/-- An expression or its negation, whichever is not negative at the current values. -/
def positive (c : Setting α) (e : Expr α) : Expr α := if c.value e < 0.0 then -e else e

def planeHeight (c : Setting α) (point plane : EntityId) : Except ConstraintError (Expr α) := do
  let origin ← c.sketch.planePointExpr plane
  let n ← c.sketch.planeNormalExpr plane
  return ((← c.point point) - origin).dot n

def planeAxes (c : Setting α) (plane : EntityId) (n : Vec3 (Expr α)) :
    Except ConstraintError (Vec3 (Expr α) × Vec3 (Expr α)) := do
  match (← c.sketch.entity plane).kind with
  | .workplane _ normal | .face _ (.normal normal) =>
    let q ← c.sketch.normalExpr normal
    return (q.imageU, q.imageV)
  | .face _ (.sweep source target _) =>
    let u := ((← c.point target) - (← c.point source)).withMagnitude (.const 1.0)
    return (u, n.cross u)
  | _ => c.wrong plane .plane

/-- Radius times angle, on the side of the half turn where the arc is now. -/
def arcLength (c : Setting α) (id : EntityId) : Except ConstraintError (Expr α) := do
  match (← c.sketch.entity id).kind with
  | .arc center start finish _ =>
    let o ← c.point center
    let a := (← c.point start) - o
    let b := (← c.point finish) - o
    let theta := (a.dot b / (a.magnitude * b.magnitude)).acos
    let sweep := (← c.sketch.arcAngles id).sweep
    return a.magnitude * if Scalar.pi < sweep then .const Scalar.tau - theta else theta
  | _ => c.wrong id .arc

def endTangent (c : Setting α) (curve : EntityId) (tip : ArcEnd) :
    Except ConstraintError (Vec3 (Expr α)) := do
  match (← c.sketch.entity curve).kind with
  | .arc center start finish normal =>
    let n := (← c.sketch.normalExpr normal).imageN
    let radial := (← c.point (match tip with | .start => start | .finish => finish)) - (← c.point center)
    return n.cross radial
  | .cubic p0 p1 p2 p3 =>
    match tip with
    | .start => return (← c.point p1) - (← c.point p0)
    | .finish => return (← c.point p3) - (← c.point p2)
  | .line a b => return (← c.point b) - (← c.point a)
  | _ => c.wrong curve .openCurve

def residuals (c : Setting α) : ConstraintKind α → Except ConstraintError (List (Expr α))
  | .pointsCoincident a b => return c.vanishes ((← c.point a) - (← c.point b))
  | .pointPointDistance a b x =>
    return [(c.project ((← c.point a) - (← c.point b))).magnitude - .const x]
  | .projectedDistance a b along x => do
    let (p, q) ← c.line along
    let unit := (q - p).withMagnitude (.const 1.0)
    return [((← c.point b) - (← c.point a)).dot unit - .const x]
  | .pointPlaneDistance p plane x | .pointFaceDistance p plane x =>
    return [(← c.planeHeight p plane) - .const x]
  | .pointInPlane p plane | .pointOnFace p plane => return [← c.planeHeight p plane]
  | .pointLineDistance p line x => return [(← c.pointLineDistance p line) - .const x]
  | .pointOnLine p line => do
    if c.basis.isSome then
      return [← c.pointLineDistance p line]
    let (a, b) ← c.line line
    return (a + (b - a).scale c.helper - (← c.point p)).toList
  | .pointOnCircle p circle => do
    let normal ← c.sketch.normalExpr (← c.sketch.normalOf circle)
    let center ← c.point (← c.sketch.centerOf circle)
    let d := (← c.point p) - center
    let du := d.dot normal.imageU
    let dv := d.dot normal.imageV
    return [(du.square + dv.square).sqrt - (← c.sketch.radiusExpr circle)]
  | .equalLengthLines a b => return [(← c.lineLength a) - (← c.lineLength b)]
  | .lengthRatio a b x => return [(← c.lineLength a) / (← c.lineLength b) - .const x]
  | .lengthDifference a b x => return [(← c.lineLength a) - (← c.lineLength b) - .const x]
  | .equalLengthPointLineDistance line p other => do
    let d ← c.pointLineDistance p other
    return [(← c.lineLength line) - c.positive d]
  | .equalPointLineDistances pa la pb lb => do
    let a ← c.pointLineDistance pa la
    let b ← c.pointLineDistance pb lb
    return [c.positive a - c.positive b]
  | .equalLineArcLength line arc => return [(← c.lineLength line) - (← c.arcLength arc)]
  | .arcArcLengthRatio a b x => return [(← c.arcLength a) / (← c.arcLength b) - .const x]
  | .arcLineLengthRatio arc line x => return [(← c.arcLength arc) / (← c.lineLength line) - .const x]
  | .arcArcDifference a b x => return [(← c.arcLength a) - (← c.arcLength b) - .const x]
  | .arcLineDifference arc line x => return [(← c.arcLength arc) - (← c.lineLength line) - .const x]
  | .equalRadius a b => return [(← c.sketch.radiusExpr a) - (← c.sketch.radiusExpr b)]
  | .diameter circle x => return [.const 2.0 * (← c.sketch.radiusExpr circle) - .const x]
  | .symmetric a b plane => do
    let pa ← c.point a
    let pb ← c.point b
    let origin ← c.sketch.planePointExpr plane
    let n ← c.sketch.planeNormalExpr plane
    let middle := (pa + pb).scale (.const 0.5)
    let height := (middle - origin).dot n
    let d := pa - pb
    if c.basis.isSome then
      return [height, (c.project d).planarCross (c.project n)]
    let (u, v) ← c.planeAxes plane n
    return [height, d.dot u, d.dot v]
  | .symmetricHorizontal a b => do
    let p ← c.coordinates a
    let q ← c.coordinates b
    return [p.x + q.x, p.y - q.y]
  | .symmetricVertical a b => do
    let p ← c.coordinates a
    let q ← c.coordinates b
    return [p.y + q.y, p.x - q.x]
  | .symmetricLine a b line => do
    let (p, q) ← c.line line
    let along := c.project (q - p)
    let pa ← c.point a
    let pb ← c.point b
    let middle := (pa + pb).scale (.const 0.5)
    return [along.planarCross (c.project (middle - p)), (c.project (pa - pb)).dot along]
  | .atMidpoint p line => do
    let (a, b) ← c.line line
    return c.vanishes ((← c.point p) - (a + b).scale (.const 0.5))
  | .horizontal line => return [(← c.lineDirection line).y]
  | .vertical line => return [(← c.lineDirection line).x]
  | .sameOrientation a b => do
    let qa ← c.sketch.normalExpr a
    let qb ← c.sketch.normalExpr b
    let d := qa.imageN - qb.imageN.scale c.helper
    let twistV := qa.imageU.dot qb.imageV
    let twistU := qa.imageU.dot qb.imageU
    let twist := if Arith.abs (c.value twistV) < Arith.abs (c.value twistU) then twistV else twistU
    return d.toList ++ [twist]
  | .angle a b degrees supplementary => do
    let da ← c.lineDirection a
    let db ← c.lineDirection b
    return [(if supplementary then -da else da).directionCosine db -
      .const (Scalar.cos (Scalar.radians degrees))]
  | .equalAngle a b d e supplementary => do
    let da ← c.lineDirection a
    let first := (if supplementary then -da else da).directionCosine (← c.lineDirection b)
    return [first - (← c.lineDirection d).directionCosine (← c.lineDirection e)]
  | .parallel a b => do
    let da ← c.lineDirection a
    let db ← c.lineDirection b
    return if c.basis.isSome then [da.planarCross db] else (da - db.scale c.helper).toList
  | .perpendicular a b => return [(← c.lineDirection a).directionCosine (← c.lineDirection b)]
  | .arcLineTangent arc line tip => do
    match (← c.sketch.entity arc).kind with
    | .arc center start finish _ =>
      let contact ← c.point (match tip with | .start => start | .finish => finish)
      let radial := c.project (contact - (← c.point center))
      return [radial.directionCosine (← c.lineDirection line)]
    | _ => c.wrong arc .arc
  | .cubicLineTangent cubic line tip => do
    if !(← c.sketch.entity cubic).isA .cubic then
      c.wrong cubic .cubic
    let t := c.project (← c.endTangent cubic tip)
    return [t.planarCross (← c.lineDirection line)]
  | .curveCurveTangent a b ends => do
    let ta := c.project (← c.endTangent a ends.first)
    let tb := c.project (← c.endTangent b ends.second)
    return [ta.planarCross tb]
  | .whereDragged p => do
    return (← c.sketch.entity p).kind.ownParams.map fun q => .param q - .const (c.sketch.valueOf q)
  | .comment _ => return []

end Setting

namespace Sketch
variable [Scalar α]

def measuredEquations (s : Sketch α) (c : Constraint α) :
    Except ConstraintError (List (Equation α)) := do
  let residuals ← (← Setting.of s c).residuals c.kind
  return residuals.mapIdx fun i r => ⟨.constraint c.id i, r⟩

def constraintEquations (s : Sketch α) (c : Constraint α) :
    Except ConstraintError (List (Equation α)) :=
  if c.reference then return [] else s.measuredEquations c

end Sketch
end Drafting
