import Drafting.Geometry.Vector
/-! Rotations of space as quaternions. -/
namespace Drafting

structure Quat (β : Type) where
  x : β
  y : β
  z : β
  w : β
  deriving Repr, BEq, Inhabited

namespace Quat

def map (f : β → γ) (q : Quat β) : Quat γ := ⟨f q.x, f q.y, f q.z, f q.w⟩

section Scalar
variable [Scalar α]

def identity : Quat α := ⟨0.0, 0.0, 0.0, 1.0⟩

def length (q : Quat α) : α := Scalar.sqrt (q.x * q.x + q.y * q.y + q.z * q.z + q.w * q.w)

def normalize (q : Quat α) : Quat α :=
  let r := 1.0 / q.length
  q.map (· * r)

def rotate (q : Quat α) (v : Vec3 α) : Vec3 α :=
  let b : Vec3 α := ⟨q.x, q.y, q.z⟩
  v.scale (q.w * q.w - b.dot b) + b.scale (v.dot b * 2.0) + (b.cross v).scale (q.w * 2.0)

def ofAxisAngle (axis : Vec3 α) (angle : α) : Quat α :=
  let half := angle * 0.5
  let s := Scalar.sin half
  ⟨axis.x * s, axis.y * s, axis.z * s, Scalar.cos half⟩

def orthogonal (v : Vec3 α) : Vec3 α :=
  let sign := Scalar.signOne v.z
  let a := -1.0 / (sign + v.z)
  ⟨v.x * v.y * a, sign + v.y * v.y * a, -v.y⟩

def between (source target : Vec3 α) : Quat α :=
  let nearOne : α := 1.0 - 2.0 * 2.220446049250313e-16
  let d := source.dot target
  if nearOne < d then identity
  else if d < -nearOne then ofAxisAngle (orthogonal source) Scalar.pi
  else
    let c := source.cross target
    normalize ⟨c.x, c.y, c.z, 1.0 + d⟩

end Scalar
end Quat
end Drafting
