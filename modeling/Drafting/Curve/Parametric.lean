import Drafting.Geometry.Vector
/-! Lines and arcs by their parametric equations, the parameter running from 0 to 1. -/
namespace Drafting

inductive Parametric (α : Type) where
  | line (p0 p1 : Vec3 α)
  | arc (center : Vec3 α) (radius theta0 dtheta : α) (u v : Vec3 α)
  deriving Repr, Inhabited

namespace Parametric
variable [Scalar α]

def pointAt (t : α) : Parametric α → Vec3 α
  | line p0 p1 => p0 + (p1 - p0).scale t
  | arc center radius theta0 dtheta u v =>
    let theta := theta0 + dtheta * t
    center + (u.scale (Scalar.cos theta) + v.scale (Scalar.sin theta)).scale radius

def tangentAt (t : α) : Parametric α → Vec3 α
  | line p0 p1 => p1 - p0
  | arc _ radius theta0 dtheta u v =>
    let theta := theta0 + dtheta * t
    (u.scale (-Scalar.sin theta) + v.scale (Scalar.cos theta)).scale (radius * dtheta)

/-- How much of a curve an automatic radius may eat into: a third of a line, a twentieth of an arc. -/
def autoLength : Parametric α → α
  | line p0 p1 => p0.distance p1 / 3.0
  | arc _ radius _ dtheta _ _ => Arith.abs dtheta * radius / 20.0

end Parametric
end Drafting
