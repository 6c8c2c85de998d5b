import Drafting.Geometry.Frame
import Drafting.Solid.Error
/-! The kinds of group: drawings, and operations on the geometry of an earlier group. -/
namespace Drafting

inductive Sides where
  | oneSided
  | twoSided
  deriving DecidableEq, Repr, Inhabited

inductive CombineAs where
  | union
  | difference
  | assemble
  | intersection
  deriving DecidableEq, Repr, Inhabited

def CombineAs.boolean? : CombineAs → Option BooleanType
  | union => some .union
  | difference => some .subtract
  | intersection => some .intersect
  | assemble => none

inductive GroupKind (α : Type) where
  | drawing3d
  | drawingWorkplane (origin : Vec3 α) (orientation : Quat α)
  | extrude (sides : Sides) (lockToWorkplane : Bool)
  | lathe (axis : Axis α)
  | revolve (axis : Axis α)
  | rotate (center axis : Vec3 α) (copies : Nat) (sides : Sides) (skipFirst : Bool)
  | translate (copies : Nat) (sides : Sides) (skipFirst : Bool)
  | linked (points : List (Vec3 α)) (shell : Option ShellId)
  deriving Repr, Inhabited

namespace GroupKind

def inPlane [Scalar α] (origin : Vec3 α) (orientation : Quat α) : GroupKind α :=
  drawingWorkplane origin orientation.normalize

def inXY [Scalar α] : GroupKind α := inPlane .zero .identity

def straightExtrude : GroupKind α := extrude .oneSided true

def copiesAlong (copies : Nat) : GroupKind α := translate copies .oneSided true

def typeName : GroupKind α → String
  | drawing3d => "Sketch (3D)"
  | drawingWorkplane .. => "Sketch in Workplane"
  | extrude .. => "Extrude"
  | lathe _ => "Lathe"
  | revolve _ => "Revolve"
  | rotate .. => "Rotate"
  | translate .. => "Translate"
  | linked .. => "Linked Part"

def isDerived : GroupKind α → Bool
  | extrude .. | lathe _ | revolve _ | rotate .. | translate .. => true
  | _ => false

def isSolid : GroupKind α → Bool
  | linked .. => true
  | k => k.isDerived

def isStepAndRepeat : GroupKind α → Bool
  | rotate .. | translate .. => true
  | _ => false

end GroupKind

/-- The multiples of a step at which copies stand: on from the source, or about it. -/
def Sides.multiples [Arith α] (sides : Sides) (copies : Nat) (skipFirst : Bool) : List α :=
  let n := Nat.max copies 1
  (List.range n).map fun k => match sides with
    | .oneSided => Arith.ofNat (k + if skipFirst then 1 else 0)
    | .twoSided => Arith.ofNat k - Arith.ofNat (n - 1) / 2.0

end Drafting
