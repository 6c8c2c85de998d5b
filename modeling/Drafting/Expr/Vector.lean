import Drafting.Geometry.Rotation
import Drafting.Expr.Basic
/-! Vectors and quaternions of expressions. -/
namespace Drafting

namespace Vec3
variable [Scalar α]

def ofParams (p : Vec3 ParamId) : Vec3 (Expr α) := p.map .param
def toExpr (v : Vec3 α) : Vec3 (Expr α) := v.map .const

def magnitude (v : Vec3 (Expr α)) : Expr α := (v.x.square + v.y.square + v.z.square).sqrt

def withMagnitude (v : Vec3 (Expr α)) (length : Expr α) : Vec3 (Expr α) :=
  v.scale (length / v.magnitude)

def eval (value : ParamId → α) (v : Vec3 (Expr α)) : Vec3 α := v.map (·.eval value)

end Vec3

namespace Quat
variable [Scalar α]

def ofParams (p : Quat ParamId) : Quat (Expr α) := p.map .param
def toExpr (q : Quat α) : Quat (Expr α) := q.map .const

def aboutAxis (axis : Vec3 (Expr α)) (angle : Expr α) : Quat (Expr α) :=
  let half := angle / .const 2.0
  let s := half.sin
  { w := half.cos, x := axis.x * s, y := axis.y * s, z := axis.z * s }

def twice (a b : Expr α) : Expr α := .const 2.0 * (a * b)

def imageU (q : Quat (Expr α)) : Vec3 (Expr α) :=
  ⟨q.w.square + q.x.square - q.y.square - q.z.square,
   twice q.w q.z + twice q.x q.y,
   twice q.x q.z - twice q.w q.y⟩

def imageV (q : Quat (Expr α)) : Vec3 (Expr α) :=
  ⟨twice q.x q.y - twice q.w q.z,
   q.w.square - q.x.square + q.y.square - q.z.square,
   twice q.w q.x + twice q.y q.z⟩

def imageN (q : Quat (Expr α)) : Vec3 (Expr α) :=
  ⟨twice q.w q.y + twice q.x q.z,
   twice q.y q.z - twice q.w q.x,
   q.w.square - q.x.square - q.y.square + q.z.square⟩

def apply (q : Quat (Expr α)) (p : Vec3 (Expr α)) : Vec3 (Expr α) :=
  q.imageU.scale p.x + q.imageV.scale p.y + q.imageN.scale p.z

/-- The product of two quaternions: the right one turns first. -/
def times (a b : Quat (Expr α)) : Quat (Expr α) where
  w := a.w * b.w - a.x * b.x - a.y * b.y - a.z * b.z
  x := a.w * b.x + a.x * b.w + a.y * b.z - a.z * b.y
  y := a.w * b.y - a.x * b.z + a.y * b.w + a.z * b.x
  z := a.w * b.z + a.x * b.y - a.y * b.x + a.z * b.w

def magnitudeSquared (q : Quat (Expr α)) : Expr α :=
  q.w.square + q.x.square + q.y.square + q.z.square

def eval (value : ParamId → α) (q : Quat (Expr α)) : Quat α := q.map (·.eval value)

end Quat
end Drafting
