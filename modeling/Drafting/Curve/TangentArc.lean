import Drafting.Config
import Drafting.Curve.Parametric
/-! Fitting an arc between two curves that leave a common corner. The curves are taken as straight at
their present trim points; the arc of the wanted radius that touches both straight lines gives the next
trim points. -/
namespace Drafting

inductive RadiusPolicy (α : Type) where
  | fixed (radius : α)
  | auto (viewScale : α)
  deriving Repr

def Vec3.meet [Scalar α] (a0 da b0 db : Vec3 α) : Vec3 α :=
  let w := a0 - b0
  let a := da.dot da
  let b := da.dot db
  let c := db.dot db
  let d := da.dot w
  let e := db.dot w
  a0 + da.scale ((b * e - c * d) / (a * c - b * b))

def Vec3.resized [Scalar α] (v : Vec3 α) (length : α) : Vec3 α := v.normalizeOrZero.scale length

structure TangentArc (α : Type) where
  first : α
  second : α
  radius : α
  apex : Vec3 α
  /-- Negative where the second curve leaves to the right of the first, seen against the normal. -/
  turn : α

namespace TangentArc
variable [Scalar α]

def initial : TangentArc α := ⟨0.0, 0.0, 0.0, .zero, 0.0⟩

def wanted (policy : RadiusPolicy α) (a b : Parametric α) (theta : α) : α :=
  match policy with
  | .fixed r => r
  | .auto viewScale =>
    Arith.min (Arith.min (200.0 / viewScale) (a.autoLength * Scalar.tan (theta / 2.0)))
      (b.autoLength * Scalar.tan (theta / 2.0))

def advance (t : α) (p d target : Vec3 α) : α := t + (target - p).dot d / d.lengthSquared

/-- One step toward the arc; the radius grows to its full size over a number of steps. -/
def improve (config : RoundingConfig α) (policy : RadiusPolicy α) (a b : Parametric α) (normal : Vec3 α)
    (fit : TangentArc α) (i : Nat) : TangentArc α :=
  let p := a.pointAt fit.first
  let q := b.pointAt fit.second
  let d := a.tangentAt fit.first
  let e := b.tangentAt fit.second
  let apex := Vec3.meet p d q e
  let theta := Scalar.acos (Arith.clamp (d.normalizeOrZero.dot e.normalizeOrZero) (-1.0) 1.0)
  let full := wanted policy a b theta
  let radius := if i < config.iterations
    then full * (0.1 + 0.9 * Arith.ofNat i / Arith.ofNat config.iterations) else full
  let reach := radius / Scalar.tan (theta / 2.0)
  { first := advance fit.first p d (apex + d.resized reach)
    second := advance fit.second q e (apex + e.resized reach)
    radius, apex, turn := e.dot (normal.cross d).normalizeOrZero }

def settled (config : RoundingConfig α) (before now : α) : Bool :=
  Arith.isFinite now && decide (Arith.abs (before - now) ≤ config.convergence) &&
    decide (config.minT ≤ now) && decide (now ≤ config.maxT)

/-- The arc between two curves that leave a common corner, if the steps settle. -/
def fit? (config : RoundingConfig α) (policy : RadiusPolicy α) (a b : Parametric α) (normal : Vec3 α) :
    Option (TangentArc α) :=
  let (before, now) := (List.range (config.iterations + config.polishIterations)).foldl
    (fun (_, now) i => (now, improve config policy a b normal now i)) ((initial, initial) : TangentArc α × TangentArc α)
  if settled config before.first now.first && settled config before.second now.second then some now
  else none

end TangentArc
end Drafting
