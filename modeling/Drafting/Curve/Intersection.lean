import Drafting.Curve.Bezier
/-! Where two curves meet: pairs of chords that come close start a search by turns on each curve. -/
namespace Drafting
open Bezier (lengthEpsilon)

structure Chord (α : Type) where
  place : Nat
  start : Vec3 α
  finish : Vec3 α
  length : α
  deriving Repr, Inhabited

namespace Chord
variable [Scalar α]

@[specialize] def between (place : Nat) : List (Vec3 α) → List (Chord α)
  | a :: b :: rest => ⟨place, a, b, a.distance b⟩ :: between (place + 1) (b :: rest)
  | _ => []

@[specialize] def ofCurve (c : Bezier α) : List (Chord α) :=
  between 0 ((Bezier.parameters Bezier.sampleCount).map c.pointAt)

@[specialize] def closest (p q : Chord α) : α × α :=
  let tiny : α := 1e-30
  let d1 := p.finish - p.start
  let d2 := q.finish - q.start
  let r := p.start - q.start
  let a := d1.lengthSquared
  let e := d2.lengthSquared
  let f := d2.dot r
  if a < tiny && e < tiny then (0.0, 0.0)
  else if a < tiny then (0.0, Arith.clamp (f / e) 0.0 1.0)
  else
    let c := d1.dot r
    if e < tiny then (Arith.clamp (-c / a) 0.0 1.0, 0.0)
    else
      let b := d1.dot d2
      let denom := a * e - b * b
      let s := if tiny < denom then Arith.clamp ((b * f - c * e) / denom) 0.0 1.0 else 0.0
      let t := (b * s + f) / e
      if t < 0.0 then (Arith.clamp (-c / a) 0.0 1.0, 0.0)
      else if 1.0 < t then (Arith.clamp ((b - c) / a) 0.0 1.0, 1.0)
      else (s, t)

@[specialize] def pointAt (c : Chord α) (s : α) : Vec3 α := c.start.lerp c.finish s

@[specialize] def parameter (c : Chord α) (s : α) : α :=
  (Arith.ofNat c.place + s) / Arith.ofNat Bezier.sampleCount

end Chord

namespace Bezier
variable [Scalar α]

@[specialize] def approach (a b : Bezier α) : Nat → α → α → α × α
  | 0, ta, tb => (ta, tb)
  | turns + 1, ta, tb =>
    let ta := a.projectFrom (b.pointAt tb) ta
    let pa := a.pointAt ta
    let tb := b.projectFrom pa tb
    if pa.distance (b.pointAt tb) < lengthEpsilon * 1e-3 then (ta, tb) else approach a b turns ta tb

@[specialize] def meeting? (a b : Bezier α) (ta tb : α) : Option (Vec3 α) :=
  let (ta, tb) := approach a b 100 ta tb
  let pa := a.pointAt ta
  let pb := b.pointAt tb
  if pa.distance pb < lengthEpsilon then some ((pa + pb).unscale 2.0) else none

@[specialize] def tryChords (a b : Bezier α) (ca : Chord α) (found : List (Vec3 α)) (cb : Chord α) :
    List (Vec3 α) :=
  let (s, t) := ca.closest cb
  let reach := Arith.max ca.length cb.length
  if Arith.max reach lengthEpsilon < (ca.pointAt s).distance (cb.pointAt t) then found
  else match meeting? a b (ca.parameter s) (cb.parameter t) with
    | some p => if found.any fun q => decide (q.distance p < lengthEpsilon * 10.0) then found else found ++ [p]
    | none => found

@[specialize] def meetPair (found : List (Vec3 α)) (a b : Bezier α) : List (Vec3 α) :=
  let cbs := Chord.ofCurve b
  (Chord.ofCurve a).foldl (fun found ca => cbs.foldl (tryChords a b ca) found) found

@[specialize] def intersections (a b : List (Bezier α)) : List (Vec3 α) :=
  a.foldl (fun found pa => b.foldl (fun found pb => meetPair found pa pb) found) []

end Bezier
end Drafting
