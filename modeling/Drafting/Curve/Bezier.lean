import Drafting.Geometry.Vector
/-! Rational Bézier curves: lines, circular arcs and cubics share one evaluator. A curve is a first
control point and the ones after it, so it is never without points. -/
namespace Drafting

structure Control (α : Type) where
  point : Vec3 α
  weight : α
  deriving Repr, Inhabited

structure Bezier (α : Type) where
  first : Control α
  rest : List (Control α)
  deriving Repr, Inhabited

structure Homogeneous (α : Type) where
  point : Vec3 α
  weight : α
  deriving Repr, Inhabited

namespace Homogeneous
variable [Arith α]

@[specialize] def ofControl (c : Control α) : Homogeneous α := ⟨c.point.scale c.weight, c.weight⟩
@[specialize] def toPoint (h : Homogeneous α) : Vec3 α := h.point.unscale h.weight
@[specialize] def toControl (h : Homogeneous α) : Control α := ⟨h.toPoint, h.weight⟩

@[specialize] def mix (t : α) (a b : Homogeneous α) : Homogeneous α :=
  ⟨a.point.scale (1.0 - t) + b.point.scale t, a.weight * (1.0 - t) + b.weight * t⟩

@[specialize] def mixRow (t : α) : Homogeneous α → List (Homogeneous α) → List (Homogeneous α)
  | _, [] => []
  | a, b :: rest => mix t a b :: mixRow t b rest

@[simp] theorem length_mixRow (t : α) (a : Homogeneous α) (r : List (Homogeneous α)) :
    (mixRow t a r).length = r.length := by
  induction r generalizing a with
  | nil => rfl
  | cons b r ih => simp [mixRow, ih]

@[specialize] def reduce (t : α) (a : Homogeneous α) : List (Homogeneous α) → Homogeneous α
  | [] => a
  | b :: rest => reduce t (mix t a b) (mixRow t b rest)
termination_by r => r.length
decreasing_by simp

@[specialize] def firsts (t : α) (a : Homogeneous α) : List (Homogeneous α) → List (Homogeneous α)
  | [] => []
  | b :: rest => mix t a b :: firsts t (mix t a b) (mixRow t b rest)
termination_by r => r.length
decreasing_by simp

@[specialize] def lasts (t : α) (a : Homogeneous α) : List (Homogeneous α) → List (Homogeneous α)
  | [] => [a]
  | b :: rest => lasts t (mix t a b) (mixRow t b rest) ++ [(b :: rest).getLast (by simp)]
termination_by r => r.length
decreasing_by simp

end Homogeneous

namespace Bezier
open Homogeneous (ofControl)

def lengthEpsilon [Arith α] : α := 1e-6

section Arith
variable [Arith α]

def line (a b : Vec3 α) : Bezier α := ⟨⟨a, 1.0⟩, [⟨b, 1.0⟩]⟩

def conic (p0 p1 : Vec3 α) (w : α) (p2 : Vec3 α) : Bezier α := ⟨⟨p0, 1.0⟩, [⟨p1, w⟩, ⟨p2, 1.0⟩]⟩

def cubic (p0 p1 p2 p3 : Vec3 α) : Bezier α := ⟨⟨p0, 1.0⟩, [⟨p1, 1.0⟩, ⟨p2, 1.0⟩, ⟨p3, 1.0⟩]⟩

def controls (c : Bezier α) : List (Control α) := c.first :: c.rest
def degree (c : Bezier α) : Nat := c.rest.length
def start (c : Bezier α) : Vec3 α := c.first.point
def finish (c : Bezier α) : Vec3 α := (c.rest.getLastD c.first).point
def isRational (c : Bezier α) : Bool := c.controls.any fun k => decide (1e-12 < Arith.abs (k.weight - 1.0))

@[specialize] def pointAt (c : Bezier α) (t : α) : Vec3 α :=
  (Homogeneous.reduce t (ofControl c.first) (c.rest.map ofControl)).toPoint

@[specialize] def tangentAt (c : Bezier α) (t : α) : Vec3 α :=
  let h : α := 1e-7
  let a := Arith.max (t - h) 0.0
  let b := Arith.min (t + h) 1.0
  (c.pointAt b - c.pointAt a).unscale (b - a)

@[specialize] def bendAt (c : Bezier α) (t : α) : Vec3 α :=
  let h : α := 1e-4
  let a := Arith.clamp (t - h) 0.0 (1.0 - 2.0 * h)
  (c.pointAt a - (c.pointAt (a + h)).scale 2.0 + c.pointAt (a + 2.0 * h)).unscale (h * h)

def splitAt (c : Bezier α) (t : α) : Bezier α × Bezier α :=
  let a := ofControl c.first
  let r := c.rest.map ofControl
  let last := (Homogeneous.reduce t a r).toControl
  let left := (Homogeneous.firsts t a r).map Homogeneous.toControl
  match (Homogeneous.lasts t a r).map Homogeneous.toControl with
  | [] => (⟨a.toControl, left⟩, ⟨last, []⟩)
  | k :: ks => (⟨a.toControl, left⟩, ⟨k, ks⟩)

@[specialize] def halve (c : Bezier α) (p : Vec3 α) (t best : α) : Nat → α → Option (α × α)
  | 0, _ => none
  | tries + 1, step =>
    let next := Arith.clamp (t - step) 0.0 1.0
    let distance := (c.pointAt next).distanceSquared p
    if distance < best then some (next, distance) else c.halve p t best tries (step * 0.5)

/-- Newton on the squared distance, Gauss and Newton where it is not convex. -/
@[specialize] def descend (c : Bezier α) (p : Vec3 α) : Nat → α → α → α
  | 0, t, _ => t
  | steps + 1, t, best =>
    let d := c.tangentAt t
    let len2 := d.lengthSquared
    if len2 < 1e-30 then t
    else
      let offset := c.pointAt t - p
      let hessian := len2 + offset.dot (c.bendAt t)
      let step := offset.dot d / (if 0.0 < hessian then hessian else len2)
      if Arith.abs step < 1e-14 then t
      else match c.halve p t best 30 step with
        | some (next, distance) => c.descend p steps next distance
        | none => t

/-- The parameter of a near point, sought from a parameter; never farther away than where it began. -/
@[specialize] def projectFrom (c : Bezier α) (p : Vec3 α) (t : α) : α :=
  c.descend p 24 t ((c.pointAt t).distanceSquared p)

@[specialize] def parameters (segments : Nat) : List α :=
  (List.range (segments + 1)).map fun i => Arith.ofNat i / Arith.ofNat segments

def sampleCount : Nat := 64

end Arith

section Scalar
variable [Scalar α]

/-- A circular arc in conic pieces of at most a quarter turn, angles measured from u toward v. -/
def arc (center u v : Vec3 α) (radius theta0 dtheta : α) : List (Bezier α) :=
  let pieces := Nat.max (Scalar.ceilNat (Arith.abs dtheta / Scalar.halfPi)) 1
  let step := dtheta / Arith.ofNat pieces
  let onCircle (theta r : α) := center + (u.scale (Scalar.cos theta) + v.scale (Scalar.sin theta)).scale r
  let w := Scalar.cos (step / 2.0)
  (List.range pieces).map fun i =>
    let a := theta0 + step * Arith.ofNat i
    conic (onCircle a radius) (onCircle (a + step / 2.0) (radius / w)) w (onCircle (a + step) radius)

@[specialize] def closest (c : Bezier α) (p : Vec3 α) : α :=
  let reach (t : α) := (c.pointAt t).distanceSquared p
  let start := (parameters sampleCount).foldl (fun (best : α × α) t =>
    let d := reach t
    if Scalar.totalLt d best.2 then (t, d) else best) (0.0, reach 0.0)
  c.projectFrom p start.1

def secondDifferences : List (Vec3 α) → List (Vec3 α)
  | a :: b :: c :: rest => (a - b.scale 2.0 + c) :: secondDifferences (b :: c :: rest)
  | _ => []

/-- How many chords stay within a tolerance of the curve, however many those are. -/
def chordsNeeded (c : Bezier α) (chordTolerance : α) : Nat :=
  let bend := ((secondDifferences (c.controls.map Control.point)).map Vec3.length).foldl Arith.max 0.0
  let spread := c.controls.foldl (fun m k => Arith.max m (1.0 / k.weight)) 1.0
  let n := Scalar.sqrt (Arith.ofNat (c.degree * (c.degree - 1)) * bend * spread /
    (8.0 * Arith.max chordTolerance 1e-12))
  Nat.max (Scalar.ceilNat n) 1

def segmentCount (c : Bezier α) (chordTolerance : α) (maxSegments : Nat) : Nat :=
  if c.degree = 1 then 1 else Nat.min (c.chordsNeeded chordTolerance) (Nat.max maxSegments 1)

def polyline (c : Bezier α) (chordTolerance : α) (maxSegments : Nat) : List (Vec3 α) :=
  (parameters (c.segmentCount chordTolerance maxSegments)).map c.pointAt

end Scalar
end Bezier
end Drafting
