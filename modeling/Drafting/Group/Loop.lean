import Drafting.Geometry.Frame
import Drafting.Sketch.Error
import Drafting.Solid.Sweep
/-! Closed loops of a drawing, in the coordinates of its plane. -/
namespace Drafting

structure Loop (α : Type) where
  points : List (Vec2 α)
  curves : List EntityId
  deriving Repr, Inhabited

/-- Signed area, positive when counter-clockwise. -/
def Loop.area [Arith α] (l : Loop α) : α := Polygon.signedArea l.points / 2.0

structure LoopSet (α : Type) where
  frame : Frame α
  loops : List (Loop α)
  deriving Repr, Inhabited

def LoopSet.isEmpty (s : LoopSet α) : Bool := s.loops.isEmpty

def LoopSet.profile [Scalar α] (s : LoopSet α) : Profile α :=
  ⟨s.frame.origin, s.frame.u, s.frame.v, s.loops.map Loop.points⟩

inductive LoopError (α : Type) where
  | notClosed (place : Vec3 α)
  | notCoplanar (entity : EntityId)
  | zeroLength (entity : EntityId)
  | notSampled (entity : EntityId) (reason : SketchError)
  deriving Repr

def LoopError.message : LoopError α → String
  | notClosed _ => "Curves do not close"
  | notCoplanar entity => s!"Curve {entity} leaves the workplane"
  | zeroLength entity => s!"Curve {entity} has zero length"
  | notSampled entity reason => s!"Curve {entity} cannot be sampled: {reason.message}"

def LoopError.label : LoopError α → String
  | notClosed _ => "NotClosed"
  | notCoplanar _ => "NotCoplanar"
  | zeroLength _ => "ZeroLengthEdge"
  | notSampled .. => "NotSampled"

def LoopError.place? : LoopError α → Option (Vec3 α)
  | notClosed place => some place
  | _ => none

end Drafting
