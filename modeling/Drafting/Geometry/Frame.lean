import Drafting.Geometry.Rotation
/-! Coordinate frames of planes, and axes. -/
namespace Drafting

structure Frame (α : Type) where
  origin : Vec3 α
  orientation : Quat α
  deriving Repr, Inhabited

namespace Frame
variable [Scalar α]

def u (f : Frame α) : Vec3 α := f.orientation.rotate .unitX
def v (f : Frame α) : Vec3 α := f.orientation.rotate .unitY
def normal (f : Frame α) : Vec3 α := f.orientation.rotate .unitZ

def project (f : Frame α) (p : Vec3 α) : Vec2 α :=
  let d := p - f.origin
  ⟨d.dot f.u, d.dot f.v⟩

def unproject (f : Frame α) (p : Vec2 α) : Vec3 α := f.origin + f.u.scale p.x + f.v.scale p.y

def height (f : Frame α) (p : Vec3 α) : α := (p - f.origin).dot f.normal

end Frame

structure Axis (α : Type) where
  origin : Vec3 α
  direction : Vec3 α
  deriving Repr, Inhabited

namespace Axis
variable [Scalar α]

/-- The axis through a point; a direction without length gives a zero direction. -/
def through (origin direction : Vec3 α) : Axis α := ⟨origin, direction.normalizeOrZero⟩

def x : Axis α := through .zero .unitX
def y : Axis α := through .zero .unitY
def z : Axis α := through .zero .unitZ

def project (a : Axis α) (p : Vec3 α) : Vec3 α :=
  a.origin + a.direction.scale ((p - a.origin).dot a.direction)

end Axis
end Drafting
