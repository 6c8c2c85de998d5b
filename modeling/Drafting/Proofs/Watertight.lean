import Mathlib.Algebra.GroupWithZero.Nat
import Drafting.Proofs.Clipping
import Drafting.Proofs.Meshes
/-! Watertight meshes. The triangles between two rings of points have the edges of the one and those of the other
backwards around them, and the caps have the same: what is put together from rings and caps has each edge in both
directions. -/
namespace Drafting

namespace Triangle
variable {ts us : List (Triangle α)}

def corners (t : Triangle α) : Vec3 α × Vec3 α × Vec3 α := (t.a, t.b, t.c)

def edges (ts : List (Triangle α)) : Multiset (Vec3 α × Vec3 α) := Polygon.sides (ts.map corners)

theorem edgesAppend : edges (ts ++ us) = edges ts + edges us := by
  simp only [edges, Polygon.sides, List.map_append, List.flatMap_append, Multiset.coe_add]

theorem edgesCons {t : Triangle α} : edges (t :: ts) = {(t.a, t.b), (t.b, t.c), (t.c, t.a)} + edges ts :=
  Polygon.sidesCons ..

theorem edgesPerm (order : ts.Perm us) : edges ts = edges us :=
  Multiset.coe_eq_coe.mpr ((order.map _).flatMap_right _)

theorem edgesFlip : edges (ts.map flip) = (edges ts).map Prod.swap := by
  induction ts with
  | nil => rfl
  | cons t ts ih =>
    rw [List.map_cons, edgesCons, edgesCons, ih, Multiset.map_add]
    congr 1
    exact Multiset.coe_eq_coe.mpr (List.reverse_perm [(t.b, t.a), (t.c, t.b), (t.a, t.c)])

theorem edgesFlatten {σ : Type} {xs : List σ} {border : σ → Multiset (Vec3 α × Vec3 α)} {count : σ → Nat}
    {parts : List (List (Triangle α))}
    (each : List.Forall₂ (fun x part => Bordered (edges part) (border x) ∧ part.length = count x) xs parts) :
    Bordered (edges parts.flatten) (xs.map border).sum ∧ parts.flatten.length = (xs.map count).sum := by
  induction each with
  | nil => exact ⟨.refl _, rfl⟩
  | cons first _ ih =>
    rw [List.flatten_cons, edgesAppend, List.length_append, first.2, ih.2]
    exact ⟨first.1.add ih.1, rfl⟩

end Triangle

namespace Mesh

def triangles (m : Mesh α) : List (Triangle α) := m.faces.filterMap fun (a, b, c) => do return ⟨← a.1, ← b.1, ← c.1⟩

/-- Each directed edge of the triangles, from one place to another, is there as often as the edge back, and no triangle
has been left out. -/
structure Watertight (m : Mesh α) : Prop where
  balanced : Balanced (Triangle.edges m.triangles)
  whole : m.triangles.length = m.triangleCount

variable [Scalar α]

theorem pushAppend (m : Mesh α) (t : Triangle α) : m.push t = m.append (({} : Mesh α).push t) := by
  have three {β : Type} (xs : Array β) (a b c : β) : ((xs.push a).push b).push c = xs ++ #[a, b, c] := by
    simp [← Array.toList_inj]
  simp [push, append, three, Nat.add_comm]

theorem WellFormed.trianglesPush {m : Mesh α} (hm : m.WellFormed) (t : Triangle α) :
    (m.push t).triangles = m.triangles ++ [t] := by
  rw [pushAppend, triangles, hm.facesAppend, List.filterMap_append]
  rfl

theorem trianglesOfTriangles (ts : List (Triangle α)) : (ofTriangles ts).triangles = ts := by
  suffices each : ∀ m : Mesh α, m.WellFormed → (ts.foldl push m).triangles = m.triangles ++ ts from
    (each _ emptyWellFormed).trans (List.nil_append ts)
  induction ts with
  | nil => exact fun m _ => (List.append_nil _).symm
  | cons t ts ih =>
    intro m hm
    rw [List.foldl_cons, ih _ (hm.push t), hm.trianglesPush, List.append_assoc]
    rfl

theorem countOfTriangles (ts : List (Triangle α)) : (ofTriangles ts).triangleCount = ts.length := by
  suffices each : ∀ m : Mesh α, (ts.foldl push m).indices.size = m.indices.size + 3 * ts.length by
    rw [triangleCount, ofTriangles, each]
    simp
  induction ts with
  | nil => exact fun m => rfl
  | cons t ts ih =>
    intro m
    rw [List.foldl_cons, ih]
    simp only [push, Array.size_push, List.length_cons]
    omega

theorem watertightOfTriangles {ts : List (Triangle α)} :
    (ofTriangles ts).Watertight ↔ Balanced (Triangle.edges ts) := by
  constructor
  · intro tight
    have balanced := tight.balanced
    rwa [trianglesOfTriangles] at balanced
  · intro balanced
    refine ⟨?_, ?_⟩
    · rwa [trianglesOfTriangles]
    · rw [trianglesOfTriangles, countOfTriangles]

end Mesh

namespace Profile
open Drafting.Polygon Triangle

def band (f g : Vec2 α → Vec3 α) (l : List (Vec2 α)) : List (Triangle α) :=
  (Polygon.edges l).flatMap fun (i, j) => [⟨f i, f j, g j⟩, ⟨f i, g j, g i⟩]

def ringEdges (f : Vec2 α → Vec3 α) (l : List (Vec2 α)) : Multiset (Vec3 α × Vec3 α) :=
  (Polygon.edges l : Multiset (Vec2 α × Vec2 α)).map (Prod.map f f)

def seam (f g : Vec2 α → Vec3 α) (l : List (Vec2 α)) : Multiset (Vec3 α × Vec3 α) :=
  ringEdges f l + (ringEdges g l).map Prod.swap

variable {f g : Vec2 α → Vec3 α} {l : List (Vec2 α)}

theorem quadEdges (es : List (Vec2 α × Vec2 α)) :
    Triangle.edges (es.flatMap fun (i, j) => [⟨f i, f j, g j⟩, ⟨f i, g j, g i⟩]) =
      Multiset.map (Prod.map f f) es + Multiset.map (Prod.swap ∘ Prod.map g g) es +
      (Multiset.map (Prod.map f g) es + Multiset.map (Prod.swap ∘ Prod.map f g) es) +
      (Multiset.map (fun x => (f x, g x)) (es.map Prod.snd) +
        Multiset.map (fun x => (g x, f x)) (es.map Prod.fst)) := by
  induction es with
  | nil => rfl
  | cons e es ih =>
    rw [List.flatMap_cons, edgesAppend, ih]
    simp only [List.map_cons, ← Multiset.cons_coe, ← Multiset.singleton_add, Multiset.map_add, Multiset.map_singleton]
    rw [show Triangle.edges [⟨f e.1, f e.2, g e.2⟩, ⟨f e.1, g e.2, g e.1⟩] = {(f e.1, f e.2)} + {(f e.2, g e.2)} +
      {(g e.2, f e.1)} + {(f e.1, g e.2)} + {(g e.2, g e.1)} + {(g e.1, f e.1)} from rfl]
    simp only [Prod.map, Prod.swap_prod_mk, Function.comp]
    ac_rfl

theorem bandBordered : Bordered (Triangle.edges (band f g l)) (seam f g l) := by
  have diagonals := Balanced.pairs (Multiset.map (Prod.map f g) (Polygon.edges l : Multiset (Vec2 α × Vec2 α)))
  have across := Balanced.pairs (Multiset.map (fun x => (f x, g x)) (l : Multiset (Vec2 α)))
  rw [Multiset.map_map] at diagonals across
  rw [band, quadEdges, edgeStarts, Multiset.coe_eq_coe.mpr (edgeFinishes l), seam, ringEdges, ringEdges,
    Multiset.map_map]
  exact (Bordered.drop across).trans (.drop diagonals)

theorem bandLength : (band f g l).length = 2 * l.length := by
  simp [band, edgesRotate, Nat.mul_comm]

theorem pairsPerm (first second : β → γ) (l : List β) :
    (l.flatMap fun x => [first x, second x]).Perm (l.map first ++ l.map second) := by
  have both := List.map_append_flatMap_perm l first (pure ∘ second)
  rw [List.flatMap_pure_eq_map] at both
  exact both.symm

def placed (f : Vec2 α → Vec3 α) : Vec2 α × Vec2 α × Vec2 α → Triangle α
  | (i, j, k) => ⟨f i, f j, f k⟩

theorem placedEdges (ends : List (Vec2 α × Vec2 α × Vec2 α)) :
    Triangle.edges (ends.map (placed f)) = (sides ends).map (Prod.map f f) := by
  rw [Triangle.edges, List.map_map, ← sidesMap]
  rfl

section Loops
variable [Scalar α] {ends : List (Vec2 α × Vec2 α × Vec2 α)} {ts : List (Triangle α)}

theorem capEdges (few : 3 ≤ l.length) (ok : caps l = .ok ends) :
    Bordered (Triangle.edges (ends.map (placed f))) (ringEdges f l) := by
  rw [placedEdges]
  exact (capsBordered few ok).1.map f

theorem capsClose {around : List (Triangle α)} (few : 3 ≤ l.length) (capped : caps l = .ok ends)
    (border : Bordered (Triangle.edges around) (seam f g l))
    (order : ts.Perm (around ++ ((ends.map (placed f)).map Triangle.flip ++ ends.map (placed g)))) :
    Balanced (Triangle.edges ts) ∧ ts.length = around.length + 2 * (l.length - 2) := by
  have first := (capEdges (f := f) few capped).reverse
  have second := capEdges (f := g) few capped
  rw [← edgesFlip] at first
  rw [edgesPerm order, edgesAppend, edgesAppend]
  refine ⟨(border.add (first.add second)).balanced ?_, ?_⟩
  · rw [show seam f g l + ((ringEdges f l).map Prod.swap + ringEdges g l) =
      ringEdges f l + (ringEdges f l).map Prod.swap + (ringEdges g l + (ringEdges g l).map Prod.swap) by
        rw [seam]
        ac_rfl]
    exact (Balanced.pairs _).add (.pairs _)
  · have filled := (capsBordered few capped).2
    simp only [order.length_eq, List.length_append, List.length_map, filled, Nat.two_mul]

theorem extrudeLoopOk (ok : extrudeLoop f g l = .ok ts) : ∃ ends, caps l = .ok ends ∧
    ts.Perm (band f g l ++ ((ends.map (placed f)).map Triangle.flip ++ ends.map (placed g))) := by
  obtain ⟨ends, capped, made⟩ := Result.bindOk.mp ok
  cases made
  refine ⟨ends, capped, ?_⟩
  have both := (pairsPerm (placed g) (Triangle.flip ∘ placed f) ends).trans List.perm_append_comm
  rw [List.map_map]
  exact List.perm_append_comm.trans (both.append_left _)

theorem extrudeLoopBalanced (few : 3 ≤ l.length) (ok : extrudeLoop f g l = .ok ts) :
    Balanced (Triangle.edges ts) ∧ ts.length = 4 * (l.length - 1) := by
  obtain ⟨ends, capped, order⟩ := extrudeLoopOk ok
  obtain ⟨balanced, count⟩ := capsClose few capped bandBordered order
  rw [bandLength] at count
  exact ⟨balanced, by omega⟩

end Loops

section Sweeps
variable [Scalar α] {p : Profile α} {bottom top : Vec3 α} {ts : List (Triangle α)}

def oriented (l : List (Vec2 α)) : List (Vec2 α) := if signedArea l < 0.0 then l.reverse else l

@[simp] theorem orientedLength : (oriented l).length = l.length := by
  unfold oriented
  split
  · exact l.length_reverse
  · rfl

theorem orientOk {l' : List (Vec2 α)} (ok : orient l = .ok l') : 3 ≤ l.length ∧ oriented l = l' := by
  unfold orient at ok
  split at ok
  · cases ok
  · exact ⟨by omega, Except.ok.inj ok⟩

theorem outerLoopsOk {loops : List (List (Vec2 α))} (ok : p.outerLoops = .ok loops) :
    (∀ l ∈ p.loops, 3 ≤ l.length) ∧ p.loops.map oriented = loops := by
  unfold outerLoops at ok
  split at ok
  · cases ok
  obtain ⟨found, turned, ok⟩ := Result.bindOk.mp ok
  split at ok
  · cases ok
  cases ok
  obtain ⟨few, same⟩ := (List.forall₂_and_left _ _).mp ((Result.mapMEach.mp turned).imp fun _ _ => orientOk)
  rw [← List.forall₂_map_left_iff, List.forall₂_eq_eq_eq] at same
  exact ⟨few, same⟩

theorem outerLoopsSwept {ε : Type} {loops : List (List (Vec2 α))} {sweep : List (Vec2 α) → Except ε (List (Triangle α))}
    {parts : List (List (Triangle α))} (outer : p.outerLoops = .ok loops) (swept : loops.mapM sweep = .ok parts) :
    List.Forall₂ (fun l part => 3 ≤ l.length ∧ sweep (oriented l) = .ok part) p.loops parts := by
  obtain ⟨few, rfl⟩ := outerLoopsOk outer
  have each := List.forall₂_map_left_iff.mp (Result.mapMEach.mp swept)
  exact (List.forall₂_and_left _ _).mpr ⟨few, each⟩

theorem extrudeOk (ok : p.extrude bottom top = .ok ts) : ∃ parts,
    List.Forall₂ (fun l part => 3 ≤ l.length ∧
      extrudeLoop (fun q => p.toWorld q + bottom) (fun q => p.toWorld q + top) (oriented l) = .ok part) p.loops parts ∧
    ts = if (top - bottom).dot p.normal < 0.0 then parts.flatten.map Triangle.flip else parts.flatten := by
  unfold extrude at ok
  dsimp only at ok
  split at ok
  · cases ok
  obtain ⟨loops, outer, ok⟩ := Result.bindOk.mp ok
  obtain ⟨parts, swept, made⟩ := Result.bindOk.mp ok
  exact ⟨parts, outerLoopsSwept outer swept, (Except.ok.inj made).symm⟩

theorem extrudeBalanced (ok : p.extrude bottom top = .ok ts) :
    Balanced (Triangle.edges ts) ∧ ts.length = (p.loops.map fun l => 4 * (l.length - 1)).sum := by
  obtain ⟨parts, swept, rfl⟩ := extrudeOk ok
  obtain ⟨border, count⟩ := edgesFlatten <| swept.imp fun l part ⟨few, made⟩ => by
    obtain ⟨balanced, count⟩ := extrudeLoopBalanced (by rwa [orientedLength]) made
    rw [orientedLength] at count
    exact ⟨Bordered.none.mpr balanced, count⟩
  rw [List.map_const', List.sum_replicate, nsmul_zero, Bordered.none] at border
  split
  · rw [edgesFlip, List.length_map]
    exact ⟨border.reverse, count⟩
  · exact ⟨border, count⟩

end Sweeps

end Profile

namespace Kernel
variable [Scalar α] {k k' : Kernel α} {p : Profile α} {bottom top : Vec3 α} {s : ShellId}

theorem extrudeStores (ok : k.extrude p bottom top = .ok (s, k')) : ∃ ts, p.extrude bottom top = .ok ts ∧
    k'.contents s = some (.ofTriangles ts) := by
  obtain ⟨_, _, ok⟩ := Result.bindOk.mp ok
  obtain ⟨ts, made, stored⟩ := Result.bindOk.mp ok
  exact ⟨ts, made, ((storedGains stored).shells s).trans (if_pos rfl)⟩

theorem extrusionWatertight (ok : k.extrude p bottom top = .ok (s, k')) : ∃ m, k'.contents s = some m ∧ m.Watertight ∧
    m.triangleCount = (p.loops.map fun l => 4 * (l.length - 1)).sum := by
  obtain ⟨ts, made, stored⟩ := extrudeStores ok
  obtain ⟨balanced, count⟩ := Profile.extrudeBalanced made
  refine ⟨_, stored, Mesh.watertightOfTriangles.mpr balanced, ?_⟩
  rw [Mesh.countOfTriangles, count]

def angled : Profile Float where
  origin := .unitZ
  u := .unitX
  v := .unitY
  loops := [[⟨0, 0⟩, ⟨0, 2⟩, ⟨1, 2⟩, ⟨1, 1⟩, ⟨2, 1⟩, ⟨2, 0⟩], [⟨5, 0⟩, ⟨6, 0⟩, ⟨5, 1⟩]]

theorem angledWatertight : ∃ (k : Kernel Float) (s : ShellId) (m : Mesh Float),
    ({} : Kernel Float).extrude angled .zero ⟨0, 0, -3⟩ = .ok (s, k) ∧ k.contents s = some m ∧ m.Watertight ∧
      m.triangleCount = 28 := by
  have runs : (angled.extrude .zero ⟨0, 0, -3⟩).isOk = true := by decide +kernel
  cases made : angled.extrude .zero ⟨0, 0, -3⟩ with
  | error e =>
    rw [made] at runs
    cases runs
  | ok ts =>
    have stored : ({} : Kernel Float).extrude angled .zero ⟨0, 0, -3⟩ =
        .ok (({} : Kernel Float).store (.ofTriangles ts)) :=
      Result.bindOk.mpr ⟨(), rfl, Result.bindOk.mpr ⟨ts, made, rfl⟩⟩
    obtain ⟨m, there, tight, count⟩ := extrusionWatertight stored
    exact ⟨_, _, m, stored, there, tight, count⟩

end Kernel
end Drafting
