import Mathlib.Data.List.Nodup
import Drafting.Proofs.Volume
/-! What ear clipping makes of a polygon, whatever is taken for an ear. Every pass of the loop cuts one corner off, so
the loop comes to three corners or to corners none of which is an ear. The triangles are between corners of the
polygon; their edges are those of the polygon and each cut in both directions, so their areas add up to its area. -/
namespace Drafting.Polygon

/-- Passes of the loop under a test for ears: of more than three corners the first ear is cut off. -/
inductive Clips (ear : List β → β × β × β → Bool) : List β → List (β × β × β) → List β → Prop
  | rest (l : List β) : Clips ear l [] l
  | cut {l left : List β} {i : Nat} {w : β × β × β} {ts : List (β × β × β)} (many : 3 < l.length)
      (first : (wedges l).findIdx? (ear l) = some i) (here : (wedges l)[i]? = some w)
      (more : Clips ear (l.eraseIdx i) ts left) : Clips ear l (w :: ts) left

def Earless (ear : List β → β × β × β → Bool) (l : List β) : Prop := ∀ w ∈ wedges l, ear l w = false

section Passes
variable {ear : List β → β × β × β → Bool} {l left : List β} {ts : List (β × β × β)} {i : Nat} {a b c : β}

theorem erased (here : (wedges l)[i]? = some (a, b, c)) : (l.eraseIdx i).length + 1 = l.length :=
  List.length_eraseIdx_add_one (wedgeInside here)

namespace Clips

theorem count (run : Clips ear l ts left) : ts.length + left.length = l.length := by
  induction run with
  | rest => exact Nat.zero_add _
  | cut many first here more ih =>
    rw [List.length_cons, ← erased here, ← ih]
    omega

theorem enough (run : Clips ear l ts left) (three : 3 ≤ l.length) : 3 ≤ left.length := by
  induction run with
  | rest => exact three
  | cut many first here more ih =>
    have less := erased here
    exact ih (by omega)

theorem ends (ear : List β → β × β × β → Bool) (l : List β) (three : 3 ≤ l.length) :
    ∃ ts left, Clips ear l ts left ∧ (left.length = 3 ∨ 3 < left.length ∧ Earless ear left) := by
  induction size : l.length generalizing l with
  | zero => omega
  | succ n ih =>
    rcases Nat.eq_or_lt_of_le three with done | many
    · exact ⟨[], l, .rest l, .inl done.symm⟩
    · cases first : (wedges l).findIdx? (ear l) with
      | none => exact ⟨[], l, .rest l, .inr ⟨many, List.findIdx?_eq_none_iff.mp first⟩⟩
      | some i =>
        obtain ⟨inside, _⟩ := List.findIdx?_eq_some_iff_getElem.mp first
        have here := List.getElem?_eq_getElem inside
        have less := erased here
        obtain ⟨ts, left, run, stops⟩ := ih (l.eraseIdx i) (by omega) (by omega)
        exact ⟨_ :: ts, left, .cut many first here run, stops⟩

end Clips

theorem wedgeCorners (three : 3 ≤ l.length) (here : (wedges l)[i]? = some (a, b, c)) :
    [a, b, c] ⊆ l ∧ (l.Nodup → [a, b, c].Nodup) := by
  obtain ⟨others, turned, _, last⟩ := wedgeTurned (by omega) here
  have many : others ≠ [] := by
    rintro rfl
    have size := congrArg List.length turned
    simp at size
    omega
  have before : a ∈ others := by
    rw [← last, List.getLast_cons many]
    exact List.getLast_mem many
  constructor
  · intro x member
    have there : x ∈ l.rotate i := by
      rw [turned]
      simp at member ⊢
      rcases member with rfl | rfl | rfl <;> simp [before]
    exact List.mem_rotate.mp there
  · intro once
    have apart := turned ▸ List.nodup_rotate.mpr once
    simp at apart ⊢
    grind

namespace Clips

theorem sublist (run : Clips ear l ts left) : left.Sublist l := by
  induction run with
  | rest l => exact .refl l
  | cut _ _ _ _ ih => exact ih.trans (List.eraseIdx_sublist ..)

theorem corners (run : Clips ear l ts left) : ∀ t ∈ ts, [t.1, t.2.1, t.2.2] ⊆ l ∧ (l.Nodup → [t.1, t.2.1, t.2.2].Nodup) := by
  induction run with
  | rest => exact fun _ member => nomatch member
  | cut many first here more ih =>
    rename_i l _ i _ _
    have smaller : (l.eraseIdx i).Sublist l := List.eraseIdx_sublist ..
    refine List.forall_mem_cons.mpr ⟨wedgeCorners many.le here, fun t member => ?_⟩
    exact ⟨fun x inside => smaller.subset ((ih t member).1 inside), fun once => (ih t member).2 (smaller.nodup once)⟩

theorem borders (run : Clips ear l ts left) : ∃ cuts : Multiset (β × β), cuts.card = ts.length ∧
    sides ts + edges left = edges l + (cuts + cuts.map Prod.swap) := by
  induction run with
  | rest l => exact ⟨0, rfl, by simp [sides]⟩
  | cut many first here more ih =>
    rename_i l left i w ts
    obtain ⟨a, b, c⟩ := w
    obtain ⟨cuts, count, border⟩ := ih
    obtain ⟨kept, before, after⟩ := cutEdges (by omega) here
    refine ⟨(a, c) ::ₘ cuts, by rw [Multiset.card_cons, count, List.length_cons], ?_⟩
    rw [sidesCons, add_assoc, border, after, before, perimeter, ← Multiset.cons_coe, ← Multiset.cons_coe,
      Multiset.coe_singleton, Multiset.map_cons, Prod.swap_prod_mk]
    simp only [← Multiset.singleton_add]
    ac_rfl

end Clips

theorem sidesAppend (ts us : List (β × β × β)) : sides (ts ++ us) = sides ts + sides us := by
  rw [sides, List.flatMap_append, ← Multiset.coe_add]
  rfl

theorem Clips.filled (run : Clips ear l ts [a, b, c]) : ∃ cuts : Multiset (β × β), cuts.card + 3 = l.length ∧
    sides (ts ++ [(a, b, c)]) = edges l + (cuts + cuts.map Prod.swap) := by
  obtain ⟨cuts, count, border⟩ := run.borders
  refine ⟨cuts, count ▸ run.count, ?_⟩
  rw [sidesAppend, ← border]
  rfl

theorem sidesArea (position : β → Vec2 ℝ) (ts : List (β × β × β)) :
    (ts.map fun t => signedArea [position t.1, position t.2.1, position t.2.2]).sum =
      ((sides ts).map fun e => (position e.1).perpDot (position e.2)).sum := by
  induction ts with
  | nil => rfl
  | cons t ts ih =>
    rw [List.map_cons, List.sum_cons, ih, sidesCons, Multiset.map_add, Multiset.sum_add, signedAreaAround]
    rfl

theorem Clips.area (run : Clips ear l ts [a, b, c]) (position : β → Vec2 ℝ) :
    ((ts ++ [(a, b, c)]).map fun t => signedArea [position t.1, position t.2.1, position t.2.2]).sum = signedArea (l.map position) := by
  obtain ⟨cuts, _, border⟩ := run.filled
  have around : Bordered (sides (ts ++ [(a, b, c)])) (edges l) := border ▸ .drop (.pairs cuts)
  rw [sidesArea, around.sum fun e => perpSwap, signedAreaAround, Polygon.around, edgesMap, List.map_map]
  rfl

end Passes

theorem cornersCount (points : List (Vec2 α)) : (corners points).length = points.length := by simp [corners]

theorem cornersPlaces (points : List (Vec2 α)) : (corners points).map Corner.place = List.range points.length := by
  rw [corners, List.map_map, List.range_eq_range']
  exact List.zipIdx_map_snd 0 points

theorem cornersMap (points : List (Vec2 α)) (f : Vec2 α → β) :
    (corners points).map (fun c => f c.point) = points.map f := by
  rw [corners, List.map_map]
  conv_rhs => rw [← List.zipIdx_map_fst 0 points, List.map_map]
  rfl

theorem cornerPoint {points : List (Vec2 α)} {c : Corner α} (member : c ∈ corners points) : points[c.place]? = some c.point := by
  obtain ⟨⟨p, i⟩, there, rfl⟩ := List.mem_map.mp member
  exact List.mem_zipIdx_iff_getElem?.mp there

theorem edgesRange (n : Nat) : edges (List.range n) = (List.range n).map fun i => (i, (i + 1) % n) := by
  rw [edgesRotate]
  refine List.ext_getElem (by simp) fun i _ _ => ?_
  simp [List.getElem_rotate]

section Loop
variable [Arith α] {points : List (Vec2 α)} {l left : List (Corner α)} {ts : List (Corner α × Corner α × Corner α)}
  {ears more : Nat}

theorem clipOfRun (run : Clips isEar l ts left) (size : l.length = ears + 3) (rest : left.length = more + 3) :
    clip ears l = (clip more left).map (ts ++ ·) := by
  induction run generalizing ears with
  | rest l =>
    obtain rfl : ears = more := by omega
    simp
  | @cut l _ i _ _ many first here run ih =>
    obtain ⟨ears, rfl⟩ : ∃ fewer, ears = fewer + 1 := ⟨ears - 1, by omega⟩
    have less := erased here
    have fewer : (l.eraseIdx i).length = ears + 3 := by omega
    simp only [clip, first, here, ih fewer rest, Option.bind_eq_bind, Option.bind_some, Option.pure_def,
      Option.map_eq_bind, Option.bind_assoc]
    rfl

theorem clipStuck (none : Earless isEar l) : clip (ears + 1) l = .none := by
  simp only [clip, List.findIdx?_eq_none_iff.mpr none]
  rfl

theorem triangulateRun (run : Clips isEar (corners points) ts left) (three : 3 ≤ points.length) :
    (∀ a b c, left = [a, b, c] → triangulate points = some (ts ++ [(a, b, c)])) ∧
      (3 < left.length → Earless isEar left → triangulate points = none) := by
  have size : (corners points).length = points.length - 3 + 3 := by
    rw [cornersCount]
    omega
  constructor
  · rintro a b c rfl
    exact clipOfRun run size (rfl : _ = 0 + 3)
  · intro many none
    have cut := clipOfRun run size (by omega : left.length = left.length - 4 + 1 + 3)
    rw [clipStuck none] at cut
    exact cut

end Loop

/-- Triangles fill a polygon: they are two less than it has corners, each between three places of it; their edges
are those from each place to the next and every cut once in either direction; and over exact numbers their areas add
up to the area of the polygon, however its points are read. -/
structure Fills (points : List (Vec2 α)) (ts : List (Corner α × Corner α × Corner α)) : Prop where
  count : ts.length + 2 = points.length
  corners : ∀ t ∈ ts, (∀ c ∈ [t.1, t.2.1, t.2.2], points[c.place]? = some c.point) ∧
    [t.1.place, t.2.1.place, t.2.2.place].Nodup
  border : ∃ cuts : Multiset (Nat × Nat), cuts.card + 3 = points.length ∧
    sides (ts.map fun t => (t.1.place, t.2.1.place, t.2.2.place)) =
      (List.range points.length).map (fun i => (i, (i + 1) % points.length)) + (cuts + cuts.map Prod.swap)
  area : ∀ exact : Vec2 α → Vec2 ℝ,
    (ts.map fun t => signedArea [exact t.1.point, exact t.2.1.point, exact t.2.2.point]).sum = signedArea (points.map exact)

theorem Clips.fills {points : List (Vec2 α)} {ear : List (Corner α) → Corner α × Corner α × Corner α → Bool}
    {ts : List (Corner α × Corner α × Corner α)} {a b c : Corner α} (run : Clips ear (Polygon.corners points) ts [a, b, c]) :
    Fills points (ts ++ [(a, b, c)]) := by
  have size := run.count
  rw [cornersCount] at size
  constructor
  case count =>
    rw [List.length_append]
    exact size
  case corners =>
    have once : (Polygon.corners points).Nodup := .of_map Corner.place (cornersPlaces points ▸ List.nodup_range)
    have triangles : ∀ t ∈ ts ++ [(a, b, c)], [t.1, t.2.1, t.2.2] ⊆ Polygon.corners points ∧ [t.1, t.2.1, t.2.2].Nodup := by
      refine List.forall_mem_append.mpr ⟨fun t member => ?_, ?_⟩
      · obtain ⟨inside, apart⟩ := run.corners t member
        exact ⟨inside, apart once⟩
      · exact List.forall_mem_singleton.mpr ⟨run.sublist.subset, run.sublist.nodup once⟩
    intro t member
    obtain ⟨inside, apart⟩ := triangles t member
    refine ⟨fun c there => cornerPoint (inside there), ?_⟩
    have places : ((Polygon.corners points).map Corner.place).Nodup := cornersPlaces points ▸ List.nodup_range
    exact apart.map_on fun c here d there same => List.inj_on_of_nodup_map places (inside here) (inside there) same
  case border =>
    obtain ⟨cuts, count, border⟩ := run.filled
    refine ⟨cuts.map (Prod.map Corner.place Corner.place), by rw [Multiset.card_map, count, cornersCount], ?_⟩
    have placed := congrArg (Multiset.map (Prod.map Corner.place Corner.place)) border
    rw [← sidesMap, Multiset.map_add, Multiset.map_add, Multiset.map_coe, ← edgesMap, cornersPlaces, edgesRange,
      Multiset.map_map] at placed
    rw [Multiset.map_map]
    exact placed
  case area =>
    intro exact
    have whole := run.area fun c => exact c.point
    rwa [cornersMap] at whole

/- What ear clipping gives fills the polygon. Whatever the outcomes of the tests for ears, the loop ends after at most
as many passes as there are corners beyond three, with triangles that fill the polygon or at corners none of which is an
ear; and clipping is this loop. -/
theorem earsFill [Arith α] (points : List (Vec2 α)) (three : 3 ≤ points.length) :
    (∀ ts, triangulate points = some ts → Fills points ts) ∧
      (∀ ear, ∃ ts left, Clips ear (corners points) ts left ∧
        ((∃ a b c, left = [a, b, c] ∧ Fills points (ts ++ [(a, b, c)])) ∨ 3 < left.length ∧ Earless ear left)) ∧
      (∀ ear ts left, Clips ear (corners points) ts left → ts.length + left.length = points.length ∧ 3 ≤ left.length) ∧
      ∀ ts left, Clips isEar (corners points) ts left →
        (∀ a b c, left = [a, b, c] → triangulate points = some (ts ++ [(a, b, c)])) ∧
        (3 < left.length → Earless isEar left → triangulate points = none) := by
  have enough : 3 ≤ (corners points).length := (cornersCount points).symm ▸ three
  have ends (ear : List (Corner α) → Corner α × Corner α × Corner α → Bool) := Clips.ends ear (corners points) enough
  refine ⟨fun ts found => ?_, fun ear => ?_, fun ear ts left run => ?_, fun ts left run => triangulateRun run three⟩
  · obtain ⟨cut, left, run, done | ⟨many, none⟩⟩ := ends isEar
    · obtain ⟨a, b, c, rfl⟩ := List.length_eq_three.mp done
      obtain rfl : ts = cut ++ [(a, b, c)] := by
        simpa [found] using (triangulateRun run three).1 a b c rfl
      exact run.fills
    · have stuck := (triangulateRun run three).2 many none
      rw [found] at stuck
      cases stuck
  · obtain ⟨ts, left, run, done | stuck⟩ := ends ear
    · obtain ⟨a, b, c, rfl⟩ := List.length_eq_three.mp done
      exact ⟨ts, _, run, .inl ⟨a, b, c, rfl, run.fills⟩⟩
    · exact ⟨ts, left, run, .inr stuck⟩
  · exact ⟨cornersCount points ▸ run.count, run.enough enough⟩

def ell : List (Vec2 Float) := [⟨0, 0⟩, ⟨2, 0⟩, ⟨2, 1⟩, ⟨1, 1⟩, ⟨1, 2⟩, ⟨0, 2⟩]

theorem ellFilled : 3 ≤ ell.length ∧ ∃ ts, triangulate ell = some ts ∧ ts.length = 4 ∧ Fills ell ts := by
  have runs : (triangulate ell).isSome = true := by decide +kernel
  obtain ⟨ts, found⟩ := Option.isSome_iff_exists.mp runs
  have three : 3 ≤ ell.length := by decide
  have fills := (earsFill ell three).1 ts found
  exact ⟨three, ts, found, Nat.add_right_cancel fills.count, fills⟩

end Drafting.Polygon
