import Mathlib.Data.List.Zip
import Mathlib.Tactic.LinearCombination
import Drafting.Proofs.Exact
import Drafting.Proofs.Watertight
/-! Volumes over exact numbers. What an edge adds to the volume of a sweep has the other sign for the edge back, so caps
count by their border alone, and the volume is height times area, whichever way the loops run and the sweep goes. -/
namespace Drafting

section Weights
variable {e b : Multiset (β × β)} {w : β × β → ℝ}

theorem Balanced.sum (h : Balanced e) (odd : ∀ x, w x.swap = -w x) : (e.map w).sum = 0 := by
  have opposite : (e.map w).sum = -(e.map w).sum := by
    rw [← Multiset.sum_map_neg]
    conv_lhs => rw [← h, Multiset.map_map]
    exact congrArg Multiset.sum (Multiset.map_congr rfl fun x _ => odd x)
  exact self_eq_neg.mp opposite

theorem Bordered.sum (h : Bordered e b) (odd : ∀ x, w x.swap = -w x) : (e.map w).sum = (b.map w).sum := by
  have none := Balanced.sum h odd
  have back : ((b.map Prod.swap).map w).sum = -(b.map w).sum := by
    rw [Multiset.map_map, ← Multiset.sum_map_neg]
    exact congrArg Multiset.sum (Multiset.map_congr rfl fun x _ => odd x)
  rw [Multiset.map_add, Multiset.sum_add, back] at none
  linarith

end Weights

namespace Polygon

def around (w : β × β → ℝ) (l : List β) : ℝ := ((edges l).map w).sum

theorem aroundMultiset (w : β × β → ℝ) (l : List β) : around w l = ((edges l : Multiset (β × β)).map w).sum := rfl

theorem aroundDifferences (g : β → ℝ) (l : List β) : around (fun e => g e.2 - g e.1) l = 0 := by
  have finishes : (Multiset.map (fun e => g e.2) (edges l : Multiset (β × β))).sum = (l.map g).sum := by
    rw [← ((edgeFinishes l).map g).sum_eq, List.map_map]
    rfl
  have starts : (Multiset.map (fun e => g e.1) (edges l : Multiset (β × β))).sum = (l.map g).sum := by
    conv_rhs => rw [← edgeStarts l, List.map_map]
    rfl
  rw [aroundMultiset, Multiset.sum_map_sub, finishes, starts, sub_self]

theorem reverseEdges (l : List β) : (edges l.reverse).Perm ((edges l).map Prod.swap) := by
  cases l with
  | nil => rfl
  | cons x l =>
    have turned : edges ([x] ++ l.reverse) = ((edges (x :: l)).map Prod.swap).reverse := by
      rw [edgesRotate, edgesRotate, List.zip_swap, List.singleton_append, List.rotate_cons_succ, List.rotate_cons_succ,
        List.rotate_zero, List.rotate_zero, List.zip_eq_zipWith, List.zip_eq_zipWith, List.reverse_zipWith (by simp),
        List.reverse_append, List.reverse_singleton, List.reverse_cons]
      rfl
    rw [List.reverse_cons]
    exact (swapEdges l.reverse [x]).trans (turned ▸ List.reverse_perm _)

noncomputable def shoelace (l : List (Vec2 ℝ)) : ℝ :=
  (List.zipWith (fun p q => p.x * q.y - q.x * p.y) l (l.rotate 1)).sum / 2

variable {l : List (Vec2 ℝ)} {p q : Vec2 ℝ}

theorem perpSwap : q.perpDot p = -p.perpDot q := by
  unfold Vec2.perpDot
  ring

theorem signedAreaAround : signedArea l = around (fun e => e.1.perpDot e.2) l := by
  rw [around, List.sum_eq_foldl, List.foldl_map, signedArea, exactZero]

theorem signedAreaShoelace : signedArea l = 2 * shoelace l := by
  have terms : (fun p q : Vec2 ℝ => p.x * q.y - q.x * p.y) = fun p q => p.perpDot q := by
    funext p q
    rw [Vec2.perpDot, mul_comm q.x]
  rw [signedAreaAround, shoelace, around, edgesRotate, List.zip_eq_zipWith, List.map_zipWith, terms]
  ring

theorem signedAreaReverse : signedArea l.reverse = -signedArea l := by
  rw [signedAreaAround, signedAreaAround, aroundMultiset, Multiset.coe_eq_coe.mpr (reverseEdges l), ← Multiset.map_coe,
    Multiset.map_map, aroundMultiset, ← Multiset.sum_map_neg]
  exact congrArg Multiset.sum (Multiset.map_congr rfl fun e _ => perpSwap)

theorem signedAreaOriented : signedArea (Profile.oriented l) = 2 * |shoelace l| := by
  unfold Profile.oriented
  rw [exactZero, ← abs_two (α := ℝ), ← abs_mul, ← signedAreaShoelace]
  split
  · rename_i negative
    rw [signedAreaReverse, abs_of_neg negative]
  · rename_i other
    exact (abs_of_nonneg (not_lt.mp other)).symm

end Polygon

namespace Triangle

def sixfold (ts : List (Triangle ℝ)) : ℝ := (ts.map fun t => t.a.dot (t.b.cross t.c)).sum

variable {ts us : List (Triangle ℝ)}

theorem sixfoldCons {t : Triangle ℝ} : sixfold (t :: ts) = t.a.dot (t.b.cross t.c) + sixfold ts := List.sum_cons

theorem sixfoldAppend : sixfold (ts ++ us) = sixfold ts + sixfold us := by
  rw [sixfold, List.map_append, List.sum_append]
  rfl

theorem sixfoldPerm (order : ts.Perm us) : sixfold ts = sixfold us := (order.map _).sum_eq

theorem sixfoldFlip : sixfold (ts.map flip) = -sixfold ts := by
  induction ts with
  | nil => exact neg_zero.symm
  | cons t ts ih =>
    have turned : t.flip.a.dot (t.flip.b.cross t.flip.c) = -t.a.dot (t.b.cross t.c) := by
      simp only [flip, Vec3.dot, Vec3.cross]
      ring
    rw [List.map_cons, sixfoldCons, sixfoldCons, turned, ih, neg_add]

theorem sixfoldFlatten {σ : Type} {xs : List σ} {size : σ → ℝ} {parts : List (List (Triangle ℝ))}
    (each : List.Forall₂ (fun x part => sixfold part = size x) xs parts) :
    sixfold parts.flatten = (xs.map size).sum := by
  induction each with
  | nil => rfl
  | cons first _ ih => rw [List.flatten_cons, sixfoldAppend, first, ih, List.map_cons, List.sum_cons]

end Triangle

namespace Profile
open Drafting.Polygon Triangle

section Loop
variable {f g : Vec2 ℝ → Vec3 ℝ} {d : Vec3 ℝ} {l : List (Vec2 ℝ)} {ts : List (Triangle ℝ)}
  {ends : List (Vec2 ℝ × Vec2 ℝ × Vec2 ℝ)}

def spanned (f : Vec2 ℝ → Vec3 ℝ) (d : Vec3 ℝ) (e : Vec2 ℝ × Vec2 ℝ) : ℝ := d.dot ((f e.1).cross (f e.2))

theorem spannedSwap (e : Vec2 ℝ × Vec2 ℝ) : spanned f d e.swap = -spanned f d e := by
  simp only [spanned, Prod.fst_swap, Prod.snd_swap, Vec3.dot, Vec3.cross]
  ring

theorem bandSixfold (across : ∀ q, g q = f q + d) : sixfold (band f g l) = 2 * around (spanned f d) l := by
  rw [band, around]
  induction Polygon.edges l with
  | nil => simp [sixfold]
  | cons e es ih =>
    rw [List.flatMap_cons, sixfoldAppend, ih, List.map_cons, List.sum_cons, mul_add]
    congr 1
    simp only [sixfold, List.map_cons, List.map_nil, List.sum_cons, List.sum_nil, across, spanned]
    rcases f e.1 with ⟨px, py, pz⟩
    rcases f e.2 with ⟨qx, qy, qz⟩
    rcases d with ⟨dx, dy, dz⟩
    simp only [Vec3.mkAdd, Vec3.dot, Vec3.cross]
    ring

theorem capsSixfold (few : 3 ≤ l.length) (ok : caps l = .ok ends) (across : ∀ q, g q = f q + d) :
    sixfold (ends.map (placed g)) - sixfold (ends.map (placed f)) = around (spanned f d) l := by
  have border := (capsBordered few ok).1.sum spannedSwap (w := spanned f d)
  rw [aroundMultiset, ← border]
  clear border ok
  induction ends with
  | nil => simp [sixfold, sides]
  | cons t ends ih =>
    have lifted : (placed g t).a.dot ((placed g t).b.cross (placed g t).c) -
        (placed f t).a.dot ((placed f t).b.cross (placed f t).c) =
        ((perimeter t : Multiset (Vec2 ℝ × Vec2 ℝ)).map (spanned f d)).sum := by
      simp only [placed, perimeter, Multiset.map_coe, Multiset.sum_coe, List.map_cons, List.map_nil, List.sum_cons,
        List.sum_nil, across, spanned]
      rcases f t.1 with ⟨px, py, pz⟩
      rcases f t.2.1 with ⟨qx, qy, qz⟩
      rcases f t.2.2 with ⟨rx, ry, rz⟩
      rcases d with ⟨dx, dy, dz⟩
      simp only [Vec3.mkAdd, Vec3.dot, Vec3.cross]
      ring
    rw [sidesCons, Multiset.map_add, Multiset.sum_add, ← ih, ← lifted, List.map_cons, List.map_cons, sixfoldCons,
      sixfoldCons]
    ring

theorem extrudeLoopSixfold (few : 3 ≤ l.length) (ok : extrudeLoop f g l = .ok ts) (across : ∀ q, g q = f q + d) :
    sixfold ts = 3 * around (spanned f d) l := by
  obtain ⟨ends, capped, order⟩ := extrudeLoopOk ok
  have filled := capsSixfold few capped across
  rw [sixfoldPerm order, sixfoldAppend, sixfoldAppend, sixfoldFlip, bandSixfold across]
  linarith

theorem spannedArea (p : Profile ℝ) (offset d : Vec3 ℝ) (l : List (Vec2 ℝ)) :
    around (spanned (fun q => p.toWorld q + offset) d) l = d.dot p.normal * signedArea l := by
  have terms (e : Vec2 ℝ × Vec2 ℝ) : spanned (fun q => p.toWorld q + offset) d e =
      (d.dot ((p.origin + offset).cross (p.u.scale e.2.x + p.v.scale e.2.y)) -
        d.dot ((p.origin + offset).cross (p.u.scale e.1.x + p.v.scale e.1.y))) +
      d.dot p.normal * e.1.perpDot e.2 := by
    simp only [spanned, toWorld, normal, Vec2.perpDot]
    rcases p with ⟨⟨ox, oy, oz⟩, ⟨ux, uy, uz⟩, ⟨vx, vy, vz⟩, _⟩
    rcases offset with ⟨ax, ay, az⟩
    rcases d with ⟨dx, dy, dz⟩
    simp only [Vec3.mkAdd, Vec3.dot, Vec3.cross, Vec3.scale]
    ring
  have whole := aroundDifferences
    (fun q : Vec2 ℝ => d.dot ((p.origin + offset).cross (p.u.scale q.x + p.v.scale q.y))) l
  rw [aroundMultiset] at whole ⊢
  rw [Multiset.map_congr rfl fun e _ => terms e, Multiset.sum_map_add, whole, zero_add, Multiset.sum_map_mul_left,
    signedAreaAround, aroundMultiset]

end Loop

section Sweeps
variable {p : Profile ℝ} {bottom top : Vec3 ℝ} {ts : List (Triangle ℝ)}

theorem extrudeSixfold (ok : p.extrude bottom top = .ok ts) :
    sixfold ts = 6 * (|(top - bottom).dot p.normal| * (p.loops.map fun l => |shoelace l|).sum) := by
  obtain ⟨parts, swept, rfl⟩ := extrudeOk ok
  have across (q : Vec2 ℝ) : p.toWorld q + top = p.toWorld q + bottom + (top - bottom) := by
    rcases p.toWorld q with ⟨px, py, pz⟩
    rcases top with ⟨qx, qy, qz⟩
    rcases bottom with ⟨rx, ry, rz⟩
    simp only [Vec3.mkAdd, Vec3.mkSub, add_add_sub_cancel]
  have each := swept.imp fun l part ⟨few, made⟩ => by
    have spans := extrudeLoopSixfold (by rwa [orientedLength]) made across
    rw [spannedArea, signedAreaOriented] at spans
    exact spans.trans (show _ = 6 * (top - bottom).dot p.normal * |shoelace l| by ring)
  have whole := sixfoldFlatten each
  rw [List.sum_map_mul_left, mul_assoc] at whole
  rw [exactZero]
  split
  · rename_i against
    rw [sixfoldFlip, whole, abs_of_neg against]
    ring
  · rename_i along
    rw [whole, abs_of_nonneg (not_lt.mp along)]

end Sweeps

end Profile

namespace Mesh

noncomputable def volume (m : Mesh ℝ) : ℝ := (m.triangles.map fun t => t.a.dot (t.b.cross t.c)).sum / 6

end Mesh

namespace Kernel
open Drafting.Polygon
variable {k k' : Kernel ℝ} {p : Profile ℝ} {bottom top : Vec3 ℝ} {s : ShellId}

theorem extrudedVolume (ok : k.extrude p bottom top = .ok (s, k')) : ∃ m, k'.contents s = some m ∧
    m.volume = |(top - bottom).dot (p.u.cross p.v)| * (p.loops.map fun l => |shoelace l|).sum ∧ 0 ≤ m.volume := by
  obtain ⟨ts, made, stored⟩ := extrudeStores ok
  have volume : (Mesh.ofTriangles ts).volume =
      |(top - bottom).dot (p.u.cross p.v)| * (p.loops.map fun l => |shoelace l|).sum := by
    rw [Mesh.volume, Mesh.trianglesOfTriangles]
    refine (congrArg (· / 6) (Profile.extrudeSixfold made)).trans ?_
    exact mul_div_cancel_left₀ _ (by norm_num)
  refine ⟨_, stored, volume, volume ▸ mul_nonneg (abs_nonneg _) (List.sum_nonneg fun x member => ?_)⟩
  obtain ⟨l, _, rfl⟩ := List.mem_map.mp member
  exact abs_nonneg _

noncomputable def arrowhead : Profile ℝ where
  origin := .unitX
  u := .unitX
  v := .unitY
  loops := [[⟨0, 4⟩, ⟨1, 1⟩, ⟨4, 0⟩, ⟨0, 0⟩]]

theorem arrowheadSwept : ∃ ts, arrowhead.extrude .zero ⟨0, 0, -3⟩ = .ok ts := by
  have minus (a b c d : ℝ) : (⟨a, b⟩ - ⟨c, d⟩ : Vec2 ℝ) = ⟨a - c, b - d⟩ := rfl
  have turned : Profile.orient ([⟨0, 4⟩, ⟨1, 1⟩, ⟨4, 0⟩, ⟨0, 0⟩] : List (Vec2 ℝ)) =
      .ok [⟨0, 0⟩, ⟨4, 0⟩, ⟨1, 1⟩, ⟨0, 4⟩] := by
    norm_num [Profile.orient, signedArea, edges, Vec2.perpDot]
  have outer : arrowhead.outerLoops = .ok [[⟨0, 0⟩, ⟨4, 0⟩, ⟨1, 1⟩, ⟨0, 4⟩]] := by
    rw [Profile.outerLoops, arrowhead]
    simp [turned, Profile.nested]
    rfl
  have filled : (triangulate ([⟨0, 0⟩, ⟨4, 0⟩, ⟨1, 1⟩, ⟨0, 4⟩] : List (Vec2 ℝ))).isSome := by
    norm_num [triangulate, clip, corners, wedges, List.findIdx?, List.findIdx?.go, isEar, insideTriangle, Vec2.perpDot,
      minus]
  obtain ⟨ends, filled⟩ := Option.isSome_iff_exists.mp filled
  have long : ¬(⟨0, 0, -3⟩ - Vec3.zero : Vec3 ℝ).lengthSquared < Profile.touchEpsilon * Profile.touchEpsilon := by
    norm_num [Vec3.zero, Vec3.mkSub, Vec3.lengthSquared, Vec3.dot, Profile.touchEpsilon]
  unfold Profile.extrude
  dsimp only
  rw [if_neg long, outer]
  simp only [Except.bind, bind, pure, List.mapM_cons, Profile.extrudeLoop, Profile.caps, filled, List.mapM_nil]
  exact ⟨_, rfl⟩

theorem arrowheadVolume : ∃ (k : Kernel ℝ) (s : ShellId) (m : Mesh ℝ),
    ({} : Kernel ℝ).extrude arrowhead .zero ⟨0, 0, -3⟩ = .ok (s, k) ∧ k.contents s = some m ∧ m.volume = 12 := by
  obtain ⟨ts, made⟩ := arrowheadSwept
  have stored : ({} : Kernel ℝ).extrude arrowhead .zero ⟨0, 0, -3⟩ = .ok (({} : Kernel ℝ).store (.ofTriangles ts)) :=
    Result.bindOk.mpr ⟨(), rfl, Result.bindOk.mpr ⟨ts, made, rfl⟩⟩
  obtain ⟨m, there, volume, _⟩ := extrudedVolume stored
  refine ⟨_, _, m, stored, there, volume.trans ?_⟩
  have height : |(⟨0, 0, -3⟩ - Vec3.zero : Vec3 ℝ).dot (arrowhead.u.cross arrowhead.v)| = 3 := by
    norm_num [arrowhead, Vec3.zero, Vec3.mkSub, Vec3.dot, Vec3.cross, Vec3.unitX, Vec3.unitY]
  rw [height]
  norm_num [arrowhead, shoelace]

end Kernel
end Drafting
