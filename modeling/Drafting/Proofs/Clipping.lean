import Mathlib.Data.List.Rotate
import Mathlib.Data.Multiset.Bind
import Drafting.Proofs.Result
import Drafting.Solid.Sweep
/-! Ear clipping and directed edges. Cutting off an ear puts one edge in place of two, and the ear has the two and the
new one backwards. So whichever ears are found, the edges of all triangles are those of the polygon and every
cut once in either direction. -/
namespace Drafting

/-- Every edge is there as often as the edge back. -/
def Balanced (edges : Multiset (β × β)) : Prop := edges.map Prod.swap = edges

/-- Some edges are others together with edges that are taken in both directions. -/
def Bordered (edges border : Multiset (β × β)) : Prop := Balanced (edges + border.map Prod.swap)

section Edges
variable {e e' b b' c : Multiset (β × β)}

theorem swapTwice (e : Multiset (β × β)) : (e.map Prod.swap).map Prod.swap = e := by
  rw [Multiset.map_map, Prod.swap_swap_eq, Multiset.map_id]

namespace Balanced

theorem add (first : Balanced e) (second : Balanced e') : Balanced (e + e') := by
  rw [Balanced, Multiset.map_add, first, second]

theorem reverse (h : Balanced e) : Balanced (e.map Prod.swap) := congrArg (Multiset.map Prod.swap) h

theorem back (h : Balanced e) {x : β × β} (there : x ∈ e) : x.swap ∈ e := by
  rw [← h]
  exact Multiset.mem_map_of_mem _ there

theorem cancel (both : Balanced (e + e')) (second : Balanced e') : Balanced e := by
  rw [Balanced, Multiset.map_add, second] at both
  exact add_right_cancel both

theorem map (h : Balanced e) (f : β → γ) : Balanced (e.map (Prod.map f f)) := by
  have image := congrArg (Multiset.map (Prod.map f f)) h
  rw [Multiset.map_map] at image
  rw [Balanced, Multiset.map_map]
  exact image

theorem pairs (e : Multiset (β × β)) : Balanced (e + e.map Prod.swap) := by
  rw [Balanced, Multiset.map_add, swapTwice, add_comm]

end Balanced

namespace Bordered

theorem refl (e : Multiset (β × β)) : Bordered e e := Balanced.pairs e

theorem trans (first : Bordered e b) (next : Bordered b c) : Bordered e c := by
  have both := Balanced.add first next
  rw [show e + b.map Prod.swap + (b + c.map Prod.swap) = e + c.map Prod.swap + (b + b.map Prod.swap) by ac_rfl] at both
  exact both.cancel (.pairs b)

theorem add (first : Bordered e b) (second : Bordered e' b') : Bordered (e + e') (b + b') := by
  have both := Balanced.add first second
  rwa [show e + b.map Prod.swap + (e' + b'.map Prod.swap) = e + e' + (b + b').map Prod.swap by
    rw [Multiset.map_add]
    ac_rfl] at both

theorem reverse (h : Bordered e b) : Bordered (e.map Prod.swap) (b.map Prod.swap) := by
  rw [Bordered, ← Multiset.map_add]
  exact congrArg (Multiset.map Prod.swap) h

theorem map (h : Bordered e b) (f : β → γ) : Bordered (e.map (Prod.map f f)) (b.map (Prod.map f f)) := by
  have image := Balanced.map h f
  rw [Multiset.map_add, Multiset.map_map] at image
  rw [Bordered, Multiset.map_map]
  exact image

theorem drop (h : Balanced c) : Bordered (e + c) e := by
  rw [Bordered, show e + c + e.map Prod.swap = e + e.map Prod.swap + c by ac_rfl]
  exact (Balanced.pairs e).add h

theorem none : Bordered e 0 ↔ Balanced e := by
  rw [Bordered, Multiset.map_zero, add_zero]

theorem balanced (h : Bordered e b) (closed : Balanced b) : Balanced e := Balanced.cancel h closed.reverse

theorem border (h : Bordered e b) (closed : Balanced e) : Balanced b := by
  rw [Bordered, add_comm] at h
  have rest := (Balanced.cancel h closed).reverse
  rwa [swapTwice] at rest

theorem ofBalanced (first : Balanced e) (second : Balanced b) : Bordered e b := first.add second.reverse

end Bordered
end Edges

namespace Polygon

theorem edgesRotate (l : List β) : edges l = l.zip (l.rotate 1) := by
  cases l <;> simp [edges]

theorem edgesMap (f : β → γ) (l : List β) : edges (l.map f) = (edges l).map (Prod.map f f) := by
  rw [edgesRotate, edgesRotate, ← List.map_rotate, List.zip_map]

theorem zipRotate {l : List β} {r : List γ} (same : l.length = r.length) (k : Nat) :
    (l.rotate k).zip (r.rotate k) = (l.zip r).rotate k := by
  rw [List.zip_eq_zipWith, List.zip_eq_zipWith, List.zipWith_rotate_distrib _ _ _ _ same]

theorem rotateEdges (l : List β) (k : Nat) : edges (l.rotate k) = (edges l).rotate k := by
  rw [edgesRotate, edgesRotate, List.rotate_rotate, Nat.add_comm k, ← List.rotate_rotate,
    zipRotate (List.length_rotate ..).symm]

theorem edgeStarts (l : List β) : (edges l).map Prod.fst = l := by
  rw [edgesRotate, List.map_fst_zip (List.length_rotate ..).ge]

theorem edgeFinishes (l : List β) : ((edges l).map Prod.snd).Perm l := by
  rw [edgesRotate, List.map_snd_zip (List.length_rotate ..).le]
  exact List.rotate_perm l 1

theorem zipTail (x y : β) (l : List β) :
    (x :: l).zip (l ++ [y]) = (x :: l).zip l ++ [((x :: l).getLast (List.cons_ne_nil x l), y)] := by
  induction l generalizing x with
  | nil => rfl
  | cons z l ih =>
    rw [List.cons_append, List.zip_cons_cons, ih z]
    rfl

theorem edgesCons (x : β) (l : List β) :
    (edges (x :: l)).Perm (((x :: l).getLast (List.cons_ne_nil x l), x) :: (x :: l).zip l) := by
  rw [edgesRotate, List.rotate_cons_succ, List.rotate_zero, zipTail]
  exact List.perm_append_singleton ..

theorem wedgesRotate (l : List β) : wedges l = (l.rotate (l.length - 1)).zip (l.zip (l.rotate 1)) := by
  rw [← edgesRotate, List.rotate_eq_drop_append_take (Nat.sub_le ..), ← List.dropLast_eq_take]
  rcases l.eq_nil_or_concat with rfl | ⟨l, x, rfl⟩
  · rfl
  · simp [wedges, edges]

theorem rotateWedges (l : List β) (k : Nat) : wedges (l.rotate k) = (wedges l).rotate k := by
  rw [wedgesRotate, wedgesRotate, List.length_rotate, List.rotate_rotate, List.rotate_rotate, Nat.add_comm k,
    Nat.add_comm k, ← List.rotate_rotate, ← List.rotate_rotate, zipRotate (by simp), zipRotate (by simp)]

theorem swapEdges (l r : List β) : (edges (l ++ r)).Perm (edges (r ++ l)) := by
  rw [← List.rotate_append_length_eq l r, rotateEdges]
  exact (List.rotate_perm ..).symm

theorem wedgeInside {l : List β} {i : Nat} {w : β × β × β} (here : (wedges l)[i]? = some w) : i < l.length := by
  have bound := (List.getElem?_eq_some_iff.mp here).1
  simpa [wedgesRotate] using bound

theorem wedgeTurned {l : List β} {i : Nat} {a b c : β} (few : 2 ≤ l.length) (here : (wedges l)[i]? = some (a, b, c)) :
    ∃ others, l.rotate i = b :: c :: others ∧ l.drop (i + 1) ++ l.take i = c :: others ∧
      (c :: others).getLast (List.cons_ne_nil c others) = a := by
  have inside := wedgeInside here
  have turned : l.rotate i = l[i] :: (l.drop (i + 1) ++ l.take i) := by
    rw [List.rotate_eq_drop_append_take inside.le, List.drop_eq_getElem_cons inside, List.cons_append]
  have first : (wedges (l.rotate i)).head? = some (a, b, c) := by
    rw [rotateWedges, List.head?_rotate (List.getElem?_eq_some_iff.mp here).1, here]
  have left : (l.drop (i + 1) ++ l.take i).length = l.length - 1 := by simp; omega
  rw [turned] at first
  rw [turned]
  generalize l.drop (i + 1) ++ l.take i = around at first left
  rcases around with _ | ⟨x, others⟩
  · simp at left
    omega
  have ends : (x :: others).getLast (List.cons_ne_nil x others) = a ∧ l[i] = b ∧ x = c := by
    simpa [wedges, List.getLast?_eq_some_getLast (List.cons_ne_nil x others)] using first
  obtain ⟨rfl, rfl, rfl⟩ := ends
  exact ⟨others, rfl, rfl, rfl⟩

theorem cutEdges {l : List β} {i : Nat} {a b c : β} (few : 2 ≤ l.length) (here : (wedges l)[i]? = some (a, b, c)) :
    ∃ rest : Multiset (β × β), (edges l : Multiset (β × β)) = (a, b) ::ₘ (b, c) ::ₘ rest ∧
      (edges (l.eraseIdx i) : Multiset (β × β)) = (a, c) ::ₘ rest := by
  obtain ⟨others, turned, left, last⟩ := wedgeTurned few here
  have cut : (edges (l.eraseIdx i)).Perm (edges (c :: others)) := by
    rw [List.eraseIdx_eq_take_drop_succ, ← left]
    exact swapEdges ..
  have whole : (edges (b :: c :: others)).Perm (edges l) := by
    rw [← turned, rotateEdges]
    exact List.rotate_perm ..
  obtain rfl := last
  exact ⟨(c :: others).zip others, Multiset.coe_eq_coe.mpr (whole.symm.trans (edgesCons ..)),
    Multiset.coe_eq_coe.mpr (cut.trans (edgesCons ..))⟩

def perimeter : β × β × β → List (β × β)
  | (a, b, c) => [(a, b), (b, c), (c, a)]

def sides (ts : List (β × β × β)) : Multiset (β × β) := ts.flatMap perimeter

theorem sidesCons (t : β × β × β) (ts : List (β × β × β)) : sides (t :: ts) = perimeter t + sides ts := by
  simp only [sides, List.flatMap_cons, Multiset.coe_add]

theorem sidesMap (f : β → γ) (ts : List (β × β × β)) :
    sides (ts.map (Prod.map f (Prod.map f f))) = (sides ts).map (Prod.map f f) := by
  induction ts with
  | nil => rfl
  | cons t ts ih =>
    rw [List.map_cons, sidesCons, sidesCons, ih, Multiset.map_add]
    rfl

section Clip
variable [Arith α] {ears : Nat} {l : List (Corner α)} {ts : List (Corner α × Corner α × Corner α)}

theorem clipStep (size : l.length = ears + 1 + 3) (ok : clip (ears + 1) l = some ts) : ∃ i ear rest,
    (wedges l)[i]? = some ear ∧ (l.eraseIdx i).length = ears + 3 ∧ clip ears (l.eraseIdx i) = some rest ∧
      ts = ear :: rest := by
  obtain ⟨i, _, ok⟩ := Option.bind_eq_some_iff.mp ok
  obtain ⟨ear, here, ok⟩ := Option.bind_eq_some_iff.mp ok
  obtain ⟨rest, others, ok⟩ := Option.bind_eq_some_iff.mp ok
  refine ⟨i, ear, rest, here, ?_, others, (Option.some.inj ok).symm⟩
  rw [List.length_eraseIdx_of_lt (wedgeInside here), size]
  rfl

theorem clipCount (size : l.length = ears + 3) (ok : clip ears l = some ts) : ts.length = ears + 1 := by
  induction ears generalizing l ts with
  | zero =>
    obtain ⟨a, b, c, rfl⟩ := List.length_eq_three.mp size
    cases ok
    rfl
  | succ ears ih =>
    obtain ⟨i, ear, rest, _, left, others, rfl⟩ := clipStep size ok
    rw [List.length_cons, ih left others]

theorem clipBordered (size : l.length = ears + 3) (ok : clip ears l = some ts) : Bordered (sides ts) (edges l) := by
  induction ears generalizing l ts with
  | zero =>
    obtain ⟨a, b, c, rfl⟩ := List.length_eq_three.mp size
    cases ok
    exact .refl _
  | succ ears ih =>
    obtain ⟨i, ⟨a, b, c⟩, rest, here, left, others, rfl⟩ := clipStep size ok
    obtain ⟨kept, before, after⟩ := cutEdges (by omega) here
    have cut := ih left others
    rw [after] at cut
    have both := (Bordered.refl (perimeter (a, b, c) : Multiset (Corner α × Corner α))).add cut
    -- the ear has the two edges that are cut off, and the new one backwards
    have ear : (perimeter (a, b, c) : Multiset (Corner α × Corner α)) + (a, c) ::ₘ kept =
        (a, b) ::ₘ (b, c) ::ₘ kept + ({(c, a)} + Multiset.map Prod.swap {(c, a)}) := by
      rw [perimeter, ← Multiset.cons_coe, ← Multiset.cons_coe, Multiset.coe_singleton, Multiset.map_singleton]
      simp only [← Multiset.singleton_add, Prod.swap_prod_mk]
      ac_rfl
    rw [ear] at both
    rw [sidesCons, before]
    exact both.trans (.drop (.pairs _))

end Clip

end Polygon

namespace Profile
open Drafting.Polygon
variable [Scalar α]

theorem capsBordered {l : List (Vec2 α)} {ends : List (Vec2 α × Vec2 α × Vec2 α)} (few : 3 ≤ l.length)
    (ok : caps l = .ok ends) : Bordered (sides ends) (edges l) ∧ ends.length = l.length - 2 := by
  unfold caps at ok
  cases cut : triangulate l with
  | none =>
    rw [cut] at ok
    cases ok
  | some ts =>
    rw [cut] at ok
    cases ok
    have size : (corners l).length = l.length - 3 + 3 := by
      simp only [corners, List.length_map, List.length_zipIdx]
      omega
    have places : (corners l).map Corner.point = l := by
      rw [corners, List.map_map]
      exact List.zipIdx_map_fst 0 l
    have border := (clipBordered size cut).map Corner.point
    rw [← sidesMap, Multiset.map_coe, ← edgesMap, places] at border
    refine ⟨border, ?_⟩
    rw [List.length_map, clipCount size cut]
    omega

end Profile
end Drafting
