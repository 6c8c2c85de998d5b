import Mathlib.Data.List.Chain
import Mathlib.Data.List.Flatten
import Drafting.Group.Assembly
import Drafting.Proofs.Distances
import Drafting.Proofs.Order
/-! Loops put together from drawn curves. A chain goes along whole curves, each one turned around where that is how it
fits, and every curve ends up in one loop: chains only grow by curves that are taken out of those left over. -/
namespace Drafting

theorem pickFound {p : τ → Bool} {xs ys : List τ} {y : τ} (found : pick? p xs = some (y, ys)) :
    p y = true ∧ xs.Perm (y :: ys) := by
  obtain ⟨before, after, rfl, rfl, holds, _⟩ := pickSome found
  exact ⟨holds, List.perm_middle⟩

namespace Edge
variable (e : Edge α)

theorem finishLast : e.points.getLast? = some e.finish := by
  rw [points, finish, List.getLast?_cons, List.getLastD_eq_getLast?]

theorem reversePoints : e.reverse.points = e.points.reverse := by
  unfold reverse
  split
  · rename_i p rest turned
    exact turned.symm
  · rename_i none
    simp [points] at none

theorem reverseStart : e.reverse.start = e.finish := by
  have head : e.reverse.points.head? = some e.finish := by
    rw [reversePoints, List.head?_reverse, finishLast]
  exact Option.some.inj head

theorem reverseFinish : e.reverse.finish = e.start := by
  have last : e.reverse.points.getLast? = some e.start := by
    rw [reversePoints, List.getLast?_reverse]
    rfl
  exact Option.some.inj ((finishLast _).symm.trans last)

theorem reverseEntity : e.reverse.entity = e.entity := by
  unfold reverse
  split <;> rfl

end Edge

variable [Scalar α]

namespace Chain
variable {tolerance : α} {c : Chain α} {edges others : List (Edge α)} {e : Edge α}

theorem closeStuck (opened : c.isOpen tolerance = true) (none : pick? (Edge.touches tolerance c.tip) edges = none) :
    c.close tolerance edges = .error (.notClosed c.tip) := by
  unfold close
  rw [if_pos opened]
  split
  · rfl
  · rename_i found
    cases none.symm.trans found

theorem closeOn (opened : c.isOpen tolerance = true)
    (found : pick? (Edge.touches tolerance c.tip) edges = some (e, others)) :
    c.close tolerance edges = (c.add tolerance e).close tolerance others := by
  rw [close.eq_def, if_pos opened]
  split
  · rename_i none
    cases none.symm.trans found
  · rename_i found'
    cases found'.symm.trans found
    rfl

theorem closeDone (closed : ¬ c.isOpen tolerance = true) : c.close tolerance [] = .ok [c] := by
  rw [close.eq_def, if_neg closed]
  rfl

theorem closeNext (closed : ¬ c.isOpen tolerance = true) :
    c.close tolerance (e :: others) = (do return c :: (← (ofEdge e).close tolerance others)) := by
  rw [close.eq_def, if_neg closed]

def closeAll (tolerance : α) : List (Edge α) → Except (LoopError α) (List (Chain α))
  | [] => .ok []
  | e :: others => (ofEdge e).close tolerance others

end Chain

/-- One place lies within a tolerance of another: not farther from it, and where the tolerance is a number, as near. -/
structure Within (tolerance : α) (p q : Vec3 α) : Prop where
  notBeyond : ¬ tolerance < p.distance q
  near : (tolerance == tolerance) = true → p.distance q ≤ tolerance

structure Tour (α : Type) where
  first : Edge α
  rest : List (Edge α)

namespace Tour

def edges (t : Tour α) : List (Edge α) := t.first :: t.rest
def last (t : Tour α) : Edge α := t.rest.getLastD t.first

omit [Scalar α] in
theorem lastOf (t : Tour α) : t.edges.getLast? = some t.last := by
  rw [edges, last, List.getLast?_cons, List.getLastD_eq_getLast?]

omit [Scalar α] in
theorem lastMember (t : Tour α) : t.last ∈ t.edges := List.mem_of_getLast? t.lastOf

def points (t : Tour α) : List (Vec3 α) := t.first.points ++ t.rest.flatMap Edge.rest

def Joined (tolerance : α) (t : Tour α) : Prop := t.edges.IsChain fun e e' => Within tolerance e'.start e.finish

end Tour

structure Tour.Along (tolerance : α) (t : Tour α) (c : Chain α) : Prop where
  origin : c.origin = t.first.start
  tip : c.tip = t.last.finish
  points : c.points = t.points
  curves : c.curves = t.edges.map Edge.entity
  joined : t.Joined tolerance

structure Tour.Gives (tolerance : α) (frame : Frame α) (t : Tour α) (l : Loop α) : Prop where
  joined : t.Joined tolerance
  closed : Within tolerance t.last.finish t.first.start
  points : l.points = t.points.dropLast.map frame.project
  curves : l.curves = t.edges.map Edge.entity

namespace Tour
variable {tolerance : α} {t : Tour α} {c : Chain α} {e : Edge α}

theorem alongEdge (tolerance : α) (e : Edge α) : (⟨e, []⟩ : Tour α).Along tolerance (Chain.ofEdge e) where
  origin := rfl
  tip := rfl
  points := (List.append_nil _).symm
  curves := rfl
  joined := .singleton _

theorem Along.extend (h : t.Along tolerance c) (here : Within tolerance e.start c.tip) :
    (⟨t.first, t.rest ++ [e]⟩ : Tour α).Along tolerance
      { c with tip := e.finish, points := c.points ++ e.rest, curves := c.curves ++ [e.entity] } where
  origin := h.origin
  tip := by simp [last]
  points := by simp [h.points, Tour.points]
  curves := by simp [h.curves, edges]
  joined := by
    have all : (⟨t.first, t.rest ++ [e]⟩ : Tour α).edges = t.edges ++ [e] := rfl
    rw [Joined, all]
    refine List.isChain_append.mpr ⟨h.joined, .singleton _, fun x final y first => ?_⟩
    cases first
    obtain rfl := Option.some.inj (t.lastOf.symm.trans final)
    exact h.tip ▸ here

end Tour

section Lawful
variable [LawfulDistance α] {tolerance : α} {c : Chain α} {edges : List (Edge α)} {chains : List (Chain α)}
  {P : Edge α → Prop}

theorem Within.ofNotBeyond {p q : Vec3 α} (first : p.Finite) (second : q.Finite) (near : ¬ tolerance < p.distance q) :
    Within tolerance p q :=
  ⟨near, fun number => (LawfulDistance.decides first second number).resolve_left near⟩

theorem Within.ofNear {p q : Vec3 α} (near : p.distance q ≤ tolerance) : Within tolerance p q :=
  ⟨LawfulDistance.excludes near, fun _ => near⟩

theorem addAlong {t : Tour α} (h : t.Along tolerance c) {e : Edge α} (touches : e.touches tolerance c.tip = true)
    (finite : e.start.Finite) (tip : c.tip.Finite) : ∃ e', (e' = e ∨ e' = e.reverse) ∧
      (⟨t.first, t.rest ++ [e']⟩ : Tour α).Along tolerance (c.add tolerance e) := by
  unfold Chain.add
  by_cases beyond : tolerance < e.start.distance c.tip
  · simp only [beyond, if_true]
    refine ⟨e.reverse, .inr rfl, ?_⟩
    have near : e.finish.distance c.tip ≤ tolerance := by
      rcases Bool.or_eq_true_iff.mp touches with start | finish
      · exact absurd beyond (LawfulDistance.excludes (of_decide_eq_true start))
      · exact of_decide_eq_true finish
    exact h.extend (.ofNear (e.reverseStart ▸ near))
  · simp only [beyond, if_false]
    exact ⟨e, .inl rfl, h.extend (.ofNotBeyond finite tip beyond)⟩

theorem closeTours (turned : ∀ e, P e → P e.reverse) (finite : ∀ e, P e → e.start.Finite ∧ e.finish.Finite)
    (t : Tour α) (along : t.Along tolerance c) (ours : ∀ e ∈ t.edges, P e) (others : ∀ e ∈ edges, P e)
    (ok : c.close tolerance edges = .ok chains) :
    (∀ d ∈ chains, ∃ t : Tour α, t.Along tolerance d ∧ ¬ tolerance < d.tip.distance d.origin ∧ ∀ e ∈ t.edges, P e) ∧
      (chains.flatMap Chain.curves).Perm (c.curves ++ edges.map Edge.entity) := by
  induction c, edges using Chain.close.induct tolerance generalizing t chains with
  | case1 c edges opened none => exact nomatch (Chain.closeStuck opened none).symm.trans ok
  | case2 c edges opened e others' found ih =>
    obtain ⟨touches, order⟩ := pickFound found
    rw [Chain.closeOn opened found] at ok
    have mine : P e := others e (order.mem_iff.mpr List.mem_cons_self)
    have left : ∀ x ∈ others', P x := fun x member => others x (order.mem_iff.mpr (List.mem_cons_of_mem _ member))
    have tip : c.tip.Finite := along.tip ▸ (finite _ (ours _ t.lastMember)).2
    obtain ⟨e', way, further⟩ := addAlong along touches (finite e mine).1 tip
    have allowed : ∀ x ∈ (⟨t.first, t.rest ++ [e']⟩ : Tour α).edges, P x := by
      intro x member
      have member : x ∈ t.edges ++ [e'] := member
      rcases List.mem_append.mp member with before | new
      · exact ours x before
      · obtain rfl := List.mem_singleton.mp new
        rcases way with rfl | rfl
        · exact mine
        · exact turned e mine
    obtain ⟨tours, all⟩ := ih _ further allowed left ok
    have curves : (c.add tolerance e).curves = c.curves ++ [e.entity] := by
      unfold Chain.add
      split
      · simp [Edge.reverseEntity]
      · rfl
    refine ⟨tours, all.trans ?_⟩
    rw [curves, List.append_assoc]
    exact ((order.map Edge.entity).symm).append_left _
  | case3 c closed =>
    rw [Chain.closeDone closed] at ok
    cases ok
    have near : ¬ tolerance < c.tip.distance c.origin := fun beyond => closed (decide_eq_true beyond)
    exact ⟨by simpa using ⟨t, along, near, ours⟩, by simp⟩
  | case4 c closed e others' ih =>
    rw [Chain.closeNext closed] at ok
    obtain ⟨rest, later, last⟩ := Result.bindOk.mp ok
    cases last
    obtain ⟨first, others⟩ := List.forall_mem_cons.mp others
    have near : ¬ tolerance < c.tip.distance c.origin := fun beyond => closed (decide_eq_true beyond)
    obtain ⟨tours, all⟩ := ih ⟨e, []⟩ (Tour.alongEdge tolerance e) (by simpa [Tour.edges] using first) others later
    refine ⟨List.forall_mem_cons.mpr ⟨⟨t, along, near, ours⟩, tours⟩, ?_⟩
    exact all.append_left _

theorem closeAllTours (turned : ∀ e, P e → P e.reverse) (finite : ∀ e, P e → e.start.Finite ∧ e.finish.Finite)
    (others : ∀ e ∈ edges, P e) (ok : Chain.closeAll tolerance edges = .ok chains) :
    (∀ d ∈ chains, ∃ t : Tour α, t.Along tolerance d ∧ ¬ tolerance < d.tip.distance d.origin ∧ ∀ e ∈ t.edges, P e) ∧
      (chains.flatMap Chain.curves).Perm (edges.map Edge.entity) := by
  cases edges with
  | nil =>
    cases ok
    simp
  | cons e others' =>
    obtain ⟨first, others⟩ := List.forall_mem_cons.mp others
    exact closeTours turned finite ⟨e, []⟩ (Tour.alongEdge tolerance e) (by simpa [Tour.edges] using first) others ok

omit [LawfulDistance α] in
theorem Tour.Along.gives {t : Tour α} (along : t.Along tolerance c) (closed : Within tolerance t.last.finish t.first.start)
    (frame : Frame α) : t.Gives tolerance frame (c.toLoop frame) where
  joined := along.joined
  closed := closed
  points := by rw [Chain.toLoop, along.points]
  curves := along.curves

end Lawful

/-- An edge drawn by a curve: sampled, in the plane of a frame, and longer than what is joined. -/
structure Edge.Drawn (s : Sketch α) (frame : Frame α) (config : LoopConfig α) (id : EntityId) (e : Edge α) : Prop where
  entity : e.entity = id
  sampled : s.sample config id = .ok e.points
  flat : ∀ p ∈ e.points, ¬ Arith.max config.joinTolerance 1e-9 < Arith.abs (frame.height p)
  long : ¬ e.length ≤ config.joinTolerance

namespace Sketch
variable {s : Sketch α} {group : GroupId} {frame : Frame α} {config : LoopConfig α} {edges : List (Edge α)}

theorem edgeDrawn {id : EntityId} {e : Edge α} : s.edge frame config id = .ok e ↔ e.Drawn s frame config id := by
  unfold edge
  constructor
  · intro ok
    obtain ⟨points, sampled, ok⟩ := Result.bindOk.mp ok
    cases points with
    | nil => exact nomatch ok
    | cons start rest =>
      dsimp only at ok
      split at ok
      · exact nomatch ok
      · rename_i flat
        split at ok
        · exact nomatch ok
        · rename_i long
          cases ok
          exact ⟨rfl, sampled, fun p member beyond => flat (List.any_eq_true.mpr ⟨p, member, decide_eq_true beyond⟩), long⟩
  · intro ⟨entity, sampled, flat, long⟩
    refine Result.bindOk.mpr ⟨e.points, sampled, ?_⟩
    have within : ¬ (e.points.any fun p =>
        decide (Arith.max config.joinTolerance 1e-9 < Arith.abs (frame.height p))) = true := by
      intro beyond
      obtain ⟨p, member, far⟩ := List.any_eq_true.mp beyond
      exact flat p member (of_decide_eq_true far)
    subst entity
    rw [if_neg within]
    exact if_neg long

theorem eachDrawn {ids : List EntityId} : ids.mapM (s.edge frame config) = .ok edges ↔
    List.Forall₂ (fun id e => e.Drawn s frame config id) ids edges := by
  simp only [Result.mapMEach, edgeDrawn]

def curvesOf (s : Sketch α) (group : GroupId) : List EntityId := (s.entities.toList.filter (outlines group)).map Entity.id

theorem assembleRun (drawn : (s.curvesOf group).mapM (s.edge frame config) = .ok edges) : s.assemble group frame config =
    (Chain.closeAll config.joinTolerance (edges.filter fun e => !e.isRing config.joinTolerance)).map fun chains =>
      ⟨frame, ((edges.filter (·.isRing config.joinTolerance)).map Chain.ofEdge ++ chains).map (Chain.toLoop frame)⟩ := by
  unfold curvesOf at drawn
  unfold assemble
  dsimp only
  rw [drawn]
  simp only [bind, Except.bind, List.partition_eq_filter_filter]
  have left : edges.filter (Bool.not ∘ fun e : Edge α => e.isRing config.joinTolerance) =
      edges.filter fun e => !e.isRing config.joinTolerance := rfl
  rw [left]
  cases edges.filter fun e => !e.isRing config.joinTolerance with
  | nil => rfl
  | cons e others =>
    dsimp only [Chain.closeAll]
    cases (Chain.ofEdge e).close config.joinTolerance others <;> rfl

theorem assembleOk {set : LoopSet α} (ok : s.assemble group frame config = .ok set) : ∃ edges chains,
    (s.curvesOf group).mapM (s.edge frame config) = .ok edges ∧
    Chain.closeAll config.joinTolerance (edges.filter fun e => !e.isRing config.joinTolerance) = .ok chains ∧
    set.loops = ((edges.filter (·.isRing config.joinTolerance)).map Chain.ofEdge ++ chains).map (Chain.toLoop frame) := by
  obtain ⟨edges, drawn, _⟩ := Result.bindOk.mp ok
  rw [assembleRun drawn] at ok
  cases closed : Chain.closeAll config.joinTolerance (edges.filter fun e => !e.isRing config.joinTolerance) with
  | error cause =>
    rw [closed] at ok
    exact nomatch ok
  | ok chains =>
    rw [closed] at ok
    cases ok
    exact ⟨edges, chains, drawn, closed, rfl⟩

def Sampled (s : Sketch α) (config : LoopConfig α) (e : Edge α) : Prop :=
  ∃ points, s.sample config e.entity = .ok points ∧ (e.points = points ∨ e.points = points.reverse)

structure Taken (s : Sketch α) (config : LoopConfig α) (e : Edge α) : Prop where
  sampled : s.Sampled config e
  finite : ∀ p ∈ e.points, p.Finite

theorem Taken.reverse {e : Edge α} (h : s.Taken config e) : s.Taken config e.reverse where
  sampled := by
    obtain ⟨points, sampled, way⟩ := h.sampled
    refine ⟨points, e.reverseEntity.symm ▸ sampled, ?_⟩
    rw [e.reversePoints]
    rcases way with same | same
    · exact .inr (same ▸ rfl)
    · exact .inl (by rw [same, List.reverse_reverse])
  finite p member := h.finite p (List.mem_reverse.mp (e.reversePoints ▸ member))

theorem Taken.ends {e : Edge α} (h : s.Taken config e) : e.start.Finite ∧ e.finish.Finite :=
  ⟨h.finite _ List.mem_cons_self, h.finite _ (List.mem_of_getLast? e.finishLast)⟩

theorem drawnEntities {ids : List EntityId} (drawn : List.Forall₂ (fun id e => e.Drawn s frame config id) ids edges) :
    edges.map Edge.entity = ids := by
  induction drawn with
  | nil => rfl
  | cons first _ ih => rw [List.map_cons, first.entity, ih]

def lineEnd (p q : Vec3 α) (k : Nat) : Vec3 α :=
  (Homogeneous.mix (Arith.ofNat k / Arith.ofNat 1) (.ofControl ⟨p, 1.0⟩) (.ofControl ⟨q, 1.0⟩)).toPoint

theorem lineSampled {id a b : EntityId} {e : Entity α} {p q : Vec3 α} (config : LoopConfig α)
    (found : s.entities.get? id = some e) (kind : e.kind = .line a b) (start : s.position a = .ok p)
    (finish : s.position b = .ok q) : s.sample config id = .ok [lineEnd p q 0, lineEnd p q 1] := by
  have pieces : s.pieces id = .ok [.line p q] := by
    rw [pieces, entityFound.mpr found]
    simp only [bind, Except.bind, kind, start, finish]
    rfl
  have place (t : α) : (Bezier.line p q).pointAt t =
      (Homogeneous.mix t (.ofControl ⟨p, 1.0⟩) (.ofControl ⟨q, 1.0⟩)).toPoint := by
    simp [Bezier.pointAt, Bezier.line, Homogeneous.reduce, Homogeneous.mixRow]
  have polyline (chord : α) (most : Nat) : (Bezier.line p q).polyline chord most = [lineEnd p q 0, lineEnd p q 1] := by
    have single : (Bezier.line p q).segmentCount chord most = 1 := if_pos rfl
    rw [Bezier.polyline, single]
    simp [Bezier.parameters, List.range_succ, place, lineEnd]
  rw [sample, pieces]
  simp only [List.map_cons, List.map_nil, polyline]
  rfl

theorem copyPlaced {id : EntityId} {e : Entity α} {p : Vec3 α} (found : s.entities.get? id = some e)
    (kind : e.kind = .pointCopy p .identity) : s.position id = .ok p := by
  rw [position, pointExpr, pointFrom, entityFound.mpr found]
  simp only [bind, Except.bind, kind]
  rfl

namespace TwoLines

def point (n : Nat) (p : Vec3 Float) : Entity Float :=
  { id := .request ⟨n⟩ 0, group := ⟨1⟩, kind := .pointCopy p .identity }
def line (n : Nat) : Entity Float :=
  { id := .request ⟨n⟩ 0, group := ⟨1⟩, kind := .line (.request ⟨1⟩ 0) (.request ⟨2⟩ 0) }

def sketch : Sketch Float :=
  { ({} : Sketch Float) with entities := Registry.ofList [point 1 .zero, point 2 .unitX, line 3, line 4] }

def edge (n : Nat) : Edge Float := ⟨(line n).id, lineEnd .zero .unitX 0, [lineEnd .zero .unitX 1]⟩

theorem consistent : sketch.entities.Consistent := Registry.ofListConsistent (by decide)

theorem lineDrawn (n : Nat) (member : line n ∈ sketch.entities.toList) :
    (edge n).Drawn sketch ⟨.zero, .identity⟩ .standard (line n).id := by
  have start : sketch.position (point 1 .zero).id = .ok .zero := copyPlaced (consistent.getOfMem (by simp [sketch])) rfl
  have finish : sketch.position (point 2 .unitX).id = .ok .unitX := copyPlaced (consistent.getOfMem (by simp [sketch])) rfl
  refine ⟨rfl, lineSampled .standard (consistent.getOfMem member) rfl start finish, ?_, ?_⟩
  · simp only [edge, Edge.points]
    decide +kernel
  · simp only [edge, Edge.length, Edge.points]
    decide +kernel

theorem drawn :
    List.Forall₂ (fun id e => e.Drawn sketch ⟨.zero, .identity⟩ .standard id) (sketch.curvesOf ⟨1⟩) [edge 3, edge 4] :=
  .cons (lineDrawn 3 (by simp [sketch])) (.cons (lineDrawn 4 (by simp [sketch])) .nil)

end TwoLines

/- Loops lose no curve and take none twice, and go along all the samples of theirs. -/
theorem loopsFromCurves [LawfulDistance α] (h : s.entities.Consistent)
    (finite : ∀ id ∈ s.curvesOf group, ∀ points, s.sample config id = .ok points → ∀ p ∈ points, p.Finite)
    {set : LoopSet α} (ok : s.assemble group frame config = .ok set) :
    (set.loops.flatMap Loop.curves).Perm (s.curvesOf group) ∧ (set.loops.flatMap Loop.curves).Nodup ∧
      ∀ l ∈ set.loops, ∃ t : Tour α, t.Gives config.joinTolerance frame l ∧ ∀ e ∈ t.edges, s.Sampled config e := by
  obtain ⟨edges, chains, drawn, closed, loops⟩ := assembleOk ok
  have taken (e : Edge α) (member : e ∈ edges) : s.Taken config e := by
    obtain ⟨id, curve, read⟩ := Result.mapMOk drawn e member
    have this := edgeDrawn.mp read
    exact ⟨⟨e.points, this.entity.symm ▸ this.sampled, .inl rfl⟩, finite id curve _ this.sampled⟩
  obtain ⟨tours, order⟩ := closeAllTours (P := s.Taken config) (fun _ => Taken.reverse) (fun _ => Taken.ends)
    (fun e member => taken e (List.mem_filter.mp member).1) closed
  have all : (set.loops.flatMap Loop.curves).Perm (s.curvesOf group) := by
    have rings : (set.loops.flatMap Loop.curves) =
        (edges.filter (·.isRing config.joinTolerance)).map Edge.entity ++ chains.flatMap Chain.curves := by
      rw [loops, List.flatMap_map, List.flatMap_append, List.flatMap_map, List.map_eq_flatMap]
      rfl
    rw [rings, ← drawnEntities (eachDrawn.mp drawn)]
    refine (order.append_left _).trans ?_
    rw [← List.map_append]
    exact (List.filter_append_perm _ edges).map Edge.entity
  refine ⟨all, all.nodup_iff.mpr ((List.filter_sublist.map Entity.id).nodup h.keysNodup), fun l member => ?_⟩
  rw [loops] at member
  obtain ⟨c, inside, rfl⟩ := List.mem_map.mp member
  rcases List.mem_append.mp inside with ring | chain
  · obtain ⟨e, isRing, rfl⟩ := List.mem_map.mp ring
    obtain ⟨member, near⟩ := List.mem_filter.mp isRing
    have back : e.finish.distance e.start ≤ config.joinTolerance :=
      LawfulDistance.symm e.start e.finish ▸ of_decide_eq_true near
    refine ⟨⟨e, []⟩, (Tour.alongEdge _ e).gives (.ofNear back) frame, ?_⟩
    simpa [Tour.edges] using (taken e member).sampled
  · obtain ⟨t, along, near, ours⟩ := tours c chain
    refine ⟨t, along.gives ?_ frame, fun e member => (ours e member).sampled⟩
    rw [along.tip, along.origin] at near
    exact .ofNotBeyond (ours _ t.lastMember).ends.2 (ours _ List.mem_cons_self).ends.1 near

theorem twoLinesLoop : ∃ set, TwoLines.sketch.assemble ⟨1⟩ ⟨.zero, .identity⟩ .standard = .ok set ∧
    (set.loops.flatMap Loop.curves).Perm [(TwoLines.line 3).id, (TwoLines.line 4).id] ∧
    ∀ l ∈ set.loops, ∃ t : Tour Float, t.Gives LoopConfig.standard.joinTolerance ⟨.zero, .identity⟩ l := by
  have opened : (Chain.ofEdge (TwoLines.edge 3)).isOpen LoopConfig.standard.joinTolerance = true := by decide +kernel
  have found : pick? (Edge.touches LoopConfig.standard.joinTolerance (Chain.ofEdge (TwoLines.edge 3)).tip) [TwoLines.edge 4] =
      some (TwoLines.edge 4, []) := by
    rw [pick?, if_pos (by decide +kernel)]
  have back : ¬ ((Chain.ofEdge (TwoLines.edge 3)).add LoopConfig.standard.joinTolerance (TwoLines.edge 4)).isOpen
      LoopConfig.standard.joinTolerance = true := by decide +kernel
  have straight : ∀ e ∈ [TwoLines.edge 3, TwoLines.edge 4], (!e.isRing LoopConfig.standard.joinTolerance) = true := by
    intro e member
    rcases List.mem_pair.mp member with rfl | rfl <;> decide +kernel
  obtain ⟨set, ok⟩ : ∃ set, TwoLines.sketch.assemble ⟨1⟩ ⟨.zero, .identity⟩ .standard = .ok set := by
    rw [assembleRun (eachDrawn.mpr TwoLines.drawn), List.filter_eq_self.mpr straight, Chain.closeAll,
      Chain.closeOn opened found, Chain.closeDone back]
    exact ⟨_, rfl⟩
  have finite : ∀ id ∈ TwoLines.sketch.curvesOf ⟨1⟩, ∀ points, TwoLines.sketch.sample .standard id = .ok points →
      ∀ p ∈ points, p.Finite := by
    intro id curve points sampled p member
    have ends : points = [lineEnd .zero .unitX 0, lineEnd .zero .unitX 1] := by
      rcases List.mem_pair.mp curve with rfl | rfl
      · exact Except.ok.inj (sampled.symm.trans (TwoLines.lineDrawn 3 (by simp [TwoLines.sketch])).sampled)
      · exact Except.ok.inj (sampled.symm.trans (TwoLines.lineDrawn 4 (by simp [TwoLines.sketch])).sampled)
    rcases List.mem_pair.mp (ends ▸ member) with rfl | rfl <;>
      exact ⟨by decide +kernel, by decide +kernel, by decide +kernel⟩
  obtain ⟨all, _, loops⟩ := loopsFromCurves TwoLines.consistent finite ok
  refine ⟨set, ok, all, fun l member => ?_⟩
  obtain ⟨t, gives, _⟩ := loops l member
  exact ⟨t, gives⟩

end Sketch
end Drafting
