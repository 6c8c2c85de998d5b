import Mathlib.Algebra.Order.Ring.Rat
import Mathlib.Tactic.FieldSimp
import Mathlib.Tactic.NormNum
import Mathlib.Tactic.Ring
import Drafting.Curve.Bezier
import Drafting.Scalar.Field
/-! Splitting a curve over an exact field. Mixing a row of points, and the rows that come of it, gives a triangle of
points. Its left edge is the row of the part before the parameter: mixing that edge gives the left edge of the row that
was mixed at the product of both parameters. The right edge is the left edge of the row turned around. -/
namespace Drafting
variable {K : Type} [Field K] [LinearOrder K]

attribute [local instance] Arith.exact

theorem exactWhole [IsStrictOrderedRing K] : (1.0 : K) = 1 := by
  change ((10 : Nat) : K) / 10 ^ 1 = 1
  norm_num

namespace Homogeneous

section Mix
variable [IsStrictOrderedRing K]

theorem mixParts (t : K) (a b : Homogeneous K) : mix t a b =
    ⟨⟨a.point.x * (1 - t) + b.point.x * t, a.point.y * (1 - t) + b.point.y * t,
      a.point.z * (1 - t) + b.point.z * t⟩, a.weight * (1 - t) + b.weight * t⟩ := by
  unfold mix
  rw [exactWhole]
  rfl

theorem mixSwap (t : K) (a b : Homogeneous K) : mix (1 - t) b a = mix t a b := by
  simp only [mixParts, mk.injEq, Vec3.mk.injEq]
  refine ⟨⟨?_, ?_, ?_⟩, ?_⟩ <;> ring

theorem mixOnward (s t : K) (a b : Homogeneous K) : mix s a (mix t a b) = mix (t * s) a b := by
  simp only [mixParts, mk.injEq, Vec3.mk.injEq]
  refine ⟨⟨?_, ?_, ?_⟩, ?_⟩ <;> ring

/- Of three points it does not matter which parameter comes first. -/
theorem mixCommutes (s t : K) (a b c : Homogeneous K) :
    mix s (mix t a b) (mix t b c) = mix t (mix s a b) (mix s b c) := by
  simp only [mixParts, mk.injEq, Vec3.mk.injEq]
  refine ⟨⟨?_, ?_, ?_⟩, ?_⟩ <;> ring

end Mix

def below (t : K) : List (Homogeneous K) → List (Homogeneous K)
  | [] => []
  | a :: rest => mixRow t a rest

def bottom? (t : K) : List (Homogeneous K) → Option (Homogeneous K)
  | [] => none
  | a :: rest => some (reduce t a rest)

def leftEdge (t : K) : List (Homogeneous K) → List (Homogeneous K)
  | [] => []
  | a :: rest => a :: firsts t a rest

def rightEdge (t : K) : List (Homogeneous K) → List (Homogeneous K)
  | [] => []
  | a :: rest => lasts t a rest

theorem belowCons (t : K) (a b : Homogeneous K) (rest : List (Homogeneous K)) :
    below t (a :: b :: rest) = mix t a b :: below t (b :: rest) := by
  rw [below, mixRow, below]

theorem belowLength (t : K) (row : List (Homogeneous K)) : (below t row).length = row.length - 1 := by
  cases row with
  | nil => rfl
  | cons a rest => rw [below, length_mixRow, List.length_cons, Nat.add_sub_cancel]

@[elab_as_elim] theorem triangle (t : K) {P : List (Homogeneous K) → Prop} (none : P [])
    (next : ∀ a rest, P (below t (a :: rest)) → P (a :: rest)) : ∀ row, P row
  | [] => none
  | a :: rest => next a rest (triangle t none next (below t (a :: rest)))
termination_by row => row.length
decreasing_by simp [belowLength]

theorem bottomBelow (t : K) {row : List (Homogeneous K)} (long : 1 < row.length) : bottom? t row = bottom? t (below t row) := by
  match row with
  | [] | [_] => simp at long
  | a :: b :: rest => rw [belowCons, bottom?, reduce, below, bottom?]

theorem leftEdgeCons (t : K) (a : Homogeneous K) (rest : List (Homogeneous K)) :
    leftEdge t (a :: rest) = a :: leftEdge t (below t (a :: rest)) := by
  cases rest with
  | nil => rw [leftEdge, firsts, below, mixRow, leftEdge]
  | cons b rest => rw [leftEdge, firsts, belowCons, leftEdge, below]

theorem rightEdgeCons (t : K) (a : Homogeneous K) (rest : List (Homogeneous K)) :
    rightEdge t (a :: rest) = rightEdge t (below t (a :: rest)) ++ (a :: rest).getLast?.toList := by
  cases rest with
  | nil =>
    rw [rightEdge, lasts, below, mixRow, rightEdge]
    rfl
  | cons b rest =>
    rw [rightEdge, lasts, belowCons, rightEdge, below, List.getLast?_eq_some_getLast (List.cons_ne_nil a (b :: rest))]
    rfl

theorem leftEdgeLength (t : K) (row : List (Homogeneous K)) : (leftEdge t row).length = row.length := by
  induction row using triangle t with
  | none => rfl
  | next a rest ih => rw [leftEdgeCons, List.length_cons, ih, belowLength, List.length_cons, Nat.add_sub_cancel]

theorem leftEdgeFirst (t : K) (row : List (Homogeneous K)) : (leftEdge t row).head? = row.head? := by
  cases row <;> rfl

theorem leftEdgeLast (t : K) (row : List (Homogeneous K)) : (leftEdge t row).getLast? = bottom? t row := by
  induction row using triangle t with
  | none => rfl
  | next a rest ih =>
    rw [leftEdgeCons, List.getLast?_cons, ih]
    cases rest with
    | nil =>
      rw [below, mixRow, bottom?, bottom?, reduce]
      rfl
    | cons b rest =>
      have long : 1 < (a :: b :: rest).length := by simp
      rw [bottomBelow t long, belowCons, bottom?]
      rfl

theorem belowAppend (t : K) (row : List (Homogeneous K)) (a b : Homogeneous K) :
    below t (row ++ [a, b]) = below t (row ++ [a]) ++ [mix t a b] := by
  induction row with
  | nil => rfl
  | cons c row ih => cases row <;> simpa [belowCons] using ih

section Exact
variable [IsStrictOrderedRing K]

theorem belowReverse (t : K) (row : List (Homogeneous K)) : below (1 - t) row.reverse = (below t row).reverse := by
  induction row with
  | nil => rfl
  | cons a rest ih =>
    cases rest with
    | nil => rfl
    | cons b rest =>
      rw [List.reverse_cons] at ih
      rw [List.reverse_cons, List.reverse_cons, List.append_assoc, List.singleton_append, belowAppend, ih, mixSwap, belowCons,
        List.reverse_cons]

theorem bottomReverse (t : K) (row : List (Homogeneous K)) : bottom? (1 - t) row.reverse = bottom? t row := by
  induction row using triangle t with
  | none => rfl
  | next a rest ih =>
    cases rest with
    | nil => simp [bottom?, reduce]
    | cons b rest => rw [bottomBelow t (by simp), bottomBelow (1 - t) (by simp), belowReverse, ih]

theorem rightEdgeReverse (t : K) (row : List (Homogeneous K)) :
    rightEdge t row = (leftEdge (1 - t) row.reverse).reverse := by
  induction row using triangle t with
  | none => rfl
  | next a rest ih =>
    obtain ⟨z, others, turned⟩ := List.exists_cons_of_ne_nil (List.reverse_ne_nil_iff.mpr (List.cons_ne_nil a rest))
    have last : (a :: rest).getLast? = some z := by rw [← List.head?_reverse, turned]; rfl
    rw [rightEdgeCons, ih, ← belowReverse, last, turned, leftEdgeCons, List.reverse_cons]
    rfl

theorem rightEdgeLength (t : K) (row : List (Homogeneous K)) : (rightEdge t row).length = row.length := by
  rw [rightEdgeReverse, List.length_reverse, leftEdgeLength, List.length_reverse]

theorem rightEdgeFirst (t : K) (row : List (Homogeneous K)) : (rightEdge t row).head? = bottom? t row := by
  rw [rightEdgeReverse, List.head?_reverse, leftEdgeLast, bottomReverse]

theorem rightEdgeLast (t : K) (row : List (Homogeneous K)) : (rightEdge t row).getLast? = row.getLast? := by
  rw [rightEdgeReverse, List.getLast?_reverse, leftEdgeFirst, List.head?_reverse]

/- It does not matter at which of two parameters a row is mixed first. -/
theorem belowCommutes (s t : K) (row : List (Homogeneous K)) : below s (below t row) = below t (below s row) := by
  match row with
  | [] | [_] | [_, _] => rfl
  | a :: b :: c :: rest =>
    have onward := belowCommutes s t (b :: c :: rest)
    simp only [belowCons] at onward ⊢
    rw [onward, mixCommutes]

theorem belowLeftEdge (s t : K) (row : List (Homogeneous K)) :
    below s (leftEdge t row) = leftEdge t (below (t * s) row) := by
  induction row using triangle t with
  | none => rfl
  | next a rest ih =>
    cases rest with
    | nil => simp [leftEdge, firsts, below, mixRow]
    | cons b rest =>
      calc below s (leftEdge t (a :: b :: rest))
        _ = below s (a :: leftEdge t (below t (a :: b :: rest))) := by rw [leftEdgeCons]
        _ = mix (t * s) a b :: below s (leftEdge t (below t (a :: b :: rest))) := by
          rw [belowCons t a, leftEdgeCons, belowCons, mixOnward]
        _ = mix (t * s) a b :: leftEdge t (below t (below (t * s) (a :: b :: rest))) := by rw [ih, belowCommutes]
        _ = leftEdge t (below (t * s) (a :: b :: rest)) := by rw [belowCons (t * s) a, leftEdgeCons]

theorem leftEdgeBottom (s t : K) (row : List (Homogeneous K)) : bottom? s (leftEdge t row) = bottom? (t * s) row := by
  induction row using triangle (t * s) with
  | none => rfl
  | next a rest ih =>
    cases rest with
    | nil => simp [leftEdge, firsts, bottom?, reduce]
    | cons b rest =>
      rw [bottomBelow s (by simp [leftEdgeLength]), belowLeftEdge, ih, ← bottomBelow _ (by simp)]

theorem rightEdgeBottom (s t : K) (row : List (Homogeneous K)) :
    bottom? s (rightEdge t row) = bottom? (t + (1 - t) * s) row := by
  have far : 1 - (t + (1 - t) * s) = (1 - t) * (1 - s) := by ring
  have turned := bottomReverse (1 - s) (leftEdge (1 - t) row.reverse)
  rw [sub_sub_cancel] at turned
  rw [rightEdgeReverse, turned, leftEdgeBottom, ← far, bottomReverse]

end Exact

theorem ofToControl {h : Homogeneous K} (usable : h.weight ≠ 0) : ofControl h.toControl = h := by
  rcases h with ⟨⟨x, y, z⟩, w⟩
  simp only [toControl, toPoint, ofControl, Vec3.scale, Vec3.unscale, mk.injEq, Vec3.mk.injEq, and_true]
  exact ⟨div_mul_cancel₀ x usable, div_mul_cancel₀ y usable, div_mul_cancel₀ z usable⟩

theorem pointOfControl {k : Control K} (usable : k.weight ≠ 0) : (ofControl k).toPoint = k.point := by
  rcases k with ⟨⟨x, y, z⟩, w⟩
  simp only [toPoint, ofControl, Vec3.scale, Vec3.unscale, Vec3.mk.injEq]
  exact ⟨mul_div_cancel_right₀ x usable, mul_div_cancel_right₀ y usable, mul_div_cancel_right₀ z usable⟩

end Homogeneous

namespace Bezier
open Homogeneous
variable {c : Bezier K} {s t : K}

def row (c : Bezier K) : List (Homogeneous K) := c.controls.map ofControl

theorem pointAtBottom (c : Bezier K) (t : K) : some (c.pointAt t) = (bottom? t c.row).map toPoint := rfl

theorem startHead {α : Type} (c : Bezier α) : some c.start = c.controls.head?.map Control.point := rfl

theorem finishLast {α : Type} (c : Bezier α) : some c.finish = c.controls.getLast?.map Control.point := by
  rw [controls, List.getLast?_cons, finish, List.getLastD_eq_getLast?]
  rfl

theorem splitLeft (c : Bezier K) (t : K) : (c.splitAt t).1.controls = (leftEdge t c.row).map toControl := by
  unfold splitAt
  dsimp only
  split <;> rfl

theorem splitRight [IsStrictOrderedRing K] (c : Bezier K) (t : K) :
    (c.splitAt t).2.controls = (rightEdge t c.row).map toControl := by
  unfold splitAt
  dsimp only
  split
  · rename_i none
    have points : (rightEdge t c.row).length = 0 := List.length_eq_zero_iff.mpr (List.map_eq_nil_iff.mp none)
    rw [rightEdgeLength] at points
    cases points
  · rename_i some
    exact some.symm

section Part
variable {edge : List (Homogeneous K)} (same : c.controls = edge.map toControl)
include same

theorem rowOfEdge (usable : ∀ k ∈ c.controls, k.weight ≠ 0) : c.row = edge := by
  rw [row, same, List.map_map]
  refine (List.map_congr_left fun h member => ?_).trans (List.map_id edge)
  exact ofToControl (usable h.toControl (same ▸ List.mem_map_of_mem member))

theorem degreeOfEdge : c.degree + 1 = edge.length := by
  rw [← List.length_map (f := toControl), ← same]
  rfl

theorem startOfEdge : some c.start = edge.head?.map toPoint := by
  rw [startHead, same, List.head?_map, Option.map_map]
  rfl

theorem finishOfEdge : some c.finish = edge.getLast?.map toPoint := by
  rw [finishLast, same, List.getLast?_map, Option.map_map]
  rfl

end Part

theorem startOfRow (usable : ∀ h, c.row.head? = some h → h.weight ≠ 0) : some c.start = c.row.head?.map toPoint := by
  rw [startHead, row, List.head?_map]
  exact congrArg some (pointOfControl (usable _ rfl)).symm

theorem finishOfRow (usable : ∀ h, c.row.getLast? = some h → h.weight ≠ 0) :
    some c.finish = c.row.getLast?.map toPoint := by
  rw [row, List.getLast?_map] at usable
  rw [finishLast, row, List.getLast?_map]
  cases last : c.controls.getLast? with
  | none => rfl
  | some k =>
    rw [last] at usable
    exact congrArg some (pointOfControl (usable _ rfl)).symm

/- Where no control point of the two parts of a split curve has a weight of zero, the first part runs along the curve up to
the parameter and the second from there on, both evenly in the parameter. They have the degree of the curve, share its
ends and meet at the point of the parameter. -/
theorem splitKeepsShape [IsStrictOrderedRing K] (c : Bezier K) (t s : K)
    (first : ∀ k ∈ (c.splitAt t).1.controls, k.weight ≠ 0) (second : ∀ k ∈ (c.splitAt t).2.controls, k.weight ≠ 0) :
    let left := (c.splitAt t).1
    let right := (c.splitAt t).2
    left.pointAt s = c.pointAt (t * s) ∧ right.pointAt s = c.pointAt (t + (1 - t) * s) ∧
    left.degree = c.degree ∧ right.degree = c.degree ∧ left.start = c.start ∧ right.finish = c.finish ∧
    left.finish = c.pointAt t ∧ right.start = c.pointAt t := by
  intro left right
  have leftControls : left.controls = (leftEdge t c.row).map toControl := splitLeft c t
  have rightControls : right.controls = (rightEdge t c.row).map toControl := splitRight c t
  have degree : c.degree + 1 = c.row.length := by
    rw [row, List.length_map]
    rfl
  refine ⟨Option.some.inj ?_, Option.some.inj ?_, Nat.succ.inj ?_, Nat.succ.inj ?_, Option.some.inj ?_, Option.some.inj ?_,
    Option.some.inj ?_, Option.some.inj ?_⟩
  · rw [pointAtBottom, rowOfEdge leftControls first, leftEdgeBottom, pointAtBottom]
  · rw [pointAtBottom, rowOfEdge rightControls second, rightEdgeBottom, pointAtBottom]
  · exact (degreeOfEdge leftControls).trans ((leftEdgeLength t c.row).trans degree.symm)
  · exact (degreeOfEdge rightControls).trans ((rightEdgeLength t c.row).trans degree.symm)
  · rw [startOfEdge leftControls, leftEdgeFirst]
    refine (startOfRow fun h head => first h.toControl ?_).symm
    rw [← leftEdgeFirst t] at head
    exact leftControls ▸ List.mem_map_of_mem (List.mem_of_mem_head? head)
  · rw [finishOfEdge rightControls, rightEdgeLast]
    refine (finishOfRow fun h last => second h.toControl ?_).symm
    rw [← rightEdgeLast t] at last
    exact rightControls ▸ List.mem_map_of_mem (List.mem_of_getLast? last)
  · rw [finishOfEdge leftControls, leftEdgeLast, pointAtBottom]
  · rw [startOfEdge rightControls, rightEdgeFirst, pointAtBottom]

def weightedCubic : Bezier ℚ :=
  ⟨⟨⟨0, 0, 0⟩, 1⟩, [⟨⟨1, 3, 0⟩, 2⟩, ⟨⟨3, 3, 1⟩, 1 / 2⟩, ⟨⟨4, 0, 1⟩, 3⟩]⟩

theorem weightedCubicSplits : ∃ t s : ℚ, (∀ k ∈ (weightedCubic.splitAt t).1.controls, k.weight ≠ 0) ∧
    (∀ k ∈ (weightedCubic.splitAt t).2.controls, k.weight ≠ 0) ∧
    (weightedCubic.splitAt t).1.pointAt s = weightedCubic.pointAt (t * s) ∧
    (weightedCubic.splitAt t).2.pointAt s = weightedCubic.pointAt (t + (1 - t) * s) ∧
    (weightedCubic.splitAt t).2.degree = 3 ∧ (weightedCubic.splitAt t).2.finish = ⟨4, 0, 1⟩ := by
  have first : ∀ k ∈ (weightedCubic.splitAt (1 / 3)).1.controls, k.weight ≠ 0 := by
    rw [splitLeft]
    norm_num [weightedCubic, row, controls, leftEdge, firsts, mixRow, mixParts, ofControl, toControl]
  have second : ∀ k ∈ (weightedCubic.splitAt (1 / 3)).2.controls, k.weight ≠ 0 := by
    rw [splitRight]
    norm_num [weightedCubic, row, controls, rightEdge, lasts, mixRow, mixParts, ofControl, toControl]
  obtain ⟨before, after, _, degree, _, finish, _, _⟩ := splitKeepsShape weightedCubic (1 / 3) (1 / 4) first second
  exact ⟨1 / 3, 1 / 4, first, second, before, after, degree, finish⟩

end Bezier
end Drafting
