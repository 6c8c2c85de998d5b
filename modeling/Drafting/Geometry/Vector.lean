import Drafting.Scalar.Basic
/-! Vectors of the plane and of space. Sums and products are written over any type that has them,
so the same definitions serve numbers and symbolic terms. -/
namespace Drafting

structure Vec2 (β : Type) where
  x : β
  y : β
  deriving Repr, BEq, Inhabited

structure Vec3 (β : Type) where
  x : β
  y : β
  z : β
  deriving Repr, BEq, Inhabited

namespace Vec2

instance [Add β] : Add (Vec2 β) := ⟨fun a b => ⟨a.x + b.x, a.y + b.y⟩⟩
instance [Sub β] : Sub (Vec2 β) := ⟨fun a b => ⟨a.x - b.x, a.y - b.y⟩⟩

def scale [Mul β] (v : Vec2 β) (s : β) : Vec2 β := ⟨v.x * s, v.y * s⟩
def dot [Add β] [Mul β] (a b : Vec2 β) : β := a.x * b.x + a.y * b.y

def perpDot [Sub β] [Mul β] (a b : Vec2 β) : β := a.x * b.y - a.y * b.x

def lengthSquared [Add β] [Mul β] (v : Vec2 β) : β := v.dot v
def distance [Scalar α] (a b : Vec2 α) : α := Scalar.sqrt (a - b).lengthSquared

end Vec2

namespace Vec3

def map (f : β → γ) (v : Vec3 β) : Vec3 γ := ⟨f v.x, f v.y, f v.z⟩
def toList (v : Vec3 β) : List β := [v.x, v.y, v.z]

instance [Add β] : Add (Vec3 β) := ⟨fun a b => ⟨a.x + b.x, a.y + b.y, a.z + b.z⟩⟩
instance [Sub β] : Sub (Vec3 β) := ⟨fun a b => ⟨a.x - b.x, a.y - b.y, a.z - b.z⟩⟩
instance [Neg β] : Neg (Vec3 β) := ⟨fun v => ⟨-v.x, -v.y, -v.z⟩⟩

@[specialize] def scale [Mul β] (v : Vec3 β) (s : β) : Vec3 β := ⟨v.x * s, v.y * s, v.z * s⟩
@[specialize] def unscale [Div β] (v : Vec3 β) (s : β) : Vec3 β := ⟨v.x / s, v.y / s, v.z / s⟩
@[specialize] def dot [Add β] [Mul β] (a b : Vec3 β) : β := a.x * b.x + a.y * b.y + a.z * b.z

@[specialize] def cross [Sub β] [Mul β] (a b : Vec3 β) : Vec3 β :=
  ⟨a.y * b.z - a.z * b.y, a.z * b.x - a.x * b.z, a.x * b.y - a.y * b.x⟩

@[specialize] def lengthSquared [Add β] [Mul β] (v : Vec3 β) : β := v.dot v

section Arith
variable [Arith α]

def zero : Vec3 α := ⟨0.0, 0.0, 0.0⟩
def unitX : Vec3 α := ⟨1.0, 0.0, 0.0⟩
def unitY : Vec3 α := ⟨0.0, 1.0, 0.0⟩
def unitZ : Vec3 α := ⟨0.0, 0.0, 1.0⟩
@[specialize] def distanceSquared (a b : Vec3 α) : α := (a - b).lengthSquared
@[specialize] def lerp (a b : Vec3 α) (s : α) : Vec3 α := a.scale (1.0 - s) + b.scale s
def min (a b : Vec3 α) : Vec3 α := ⟨Arith.min a.x b.x, Arith.min a.y b.y, Arith.min a.z b.z⟩
def max (a b : Vec3 α) : Vec3 α := ⟨Arith.max a.x b.x, Arith.max a.y b.y, Arith.max a.z b.z⟩

end Arith

section Scalar
variable [Scalar α]

@[specialize] def length (v : Vec3 α) : α := Scalar.sqrt v.lengthSquared
@[specialize] def distance (a b : Vec3 α) : α := (a - b).length
@[specialize] def normalize (v : Vec3 α) : Vec3 α := v.scale (1.0 / v.length)

/-- The unit vector of the same direction; zero where the length has no usable reciprocal. -/
@[specialize] def normalizeOrZero (v : Vec3 α) : Vec3 α :=
  let r := 1.0 / v.length
  if Arith.isFinite r && decide (0.0 < r) then v.scale r else zero

end Scalar
end Vec3
end Drafting
