import Mathlib.Algebra.Ring.Parity
import Drafting.Proofs.Chains
/-! When loops close. Going on along a curve pairs an end of it with the end of the chain, so of no class of places does
the number of ends left over change between odd and even; a chain gets stuck only where that number is odd. -/
namespace Drafting

def Edge.ends (e : Edge α) : List (Vec3 α) := [e.start, e.finish]

theorem Edge.reverseEnds (e : Edge α) : e.reverse.ends.Perm e.ends := by
  rw [ends, ends, reverseStart, reverseFinish]
  exact .swap _ _ _

def Chain.ends (c : Chain α) (edges : List (Edge α)) : List (Vec3 α) := c.origin :: c.tip :: edges.flatMap Edge.ends

def Redrawn (edges edges' : List (Edge α)) : Prop :=
  ∃ turned, List.Forall₂ (fun e e' => e'.ends = e.ends ∨ e'.ends = e.reverse.ends) edges turned ∧ turned.Perm edges'

theorem turnedEnds {e e' : Edge α} (turned : e'.ends = e.ends ∨ e'.ends = e.reverse.ends) : e'.ends.Perm e.ends := by
  rcases turned with same | same
  · rw [same]
  · exact same ▸ e.reverseEnds

theorem redrawnEnds {edges edges' : List (Edge α)} (redrawn : Redrawn edges edges') :
    (edges'.flatMap Edge.ends).Perm (edges.flatMap Edge.ends) := by
  obtain ⟨turned, each, order⟩ := redrawn
  refine (order.flatMap_right Edge.ends).symm.trans ?_
  clear order
  induction each with
  | nil => exact .nil
  | cons first _ ih => exact (turnedEnds first).append ih

variable [Scalar α]

/-- Places fall into classes: to be within a tolerance is an equivalence on them. -/
def Classes (tolerance : α) (places : List (Vec3 α)) : Prop :=
  Equivalence fun p q : { p // p ∈ places } => p.1.distance q.1 ≤ tolerance

def shared (tolerance : α) (places : List (Vec3 α)) (p : Vec3 α) : Nat :=
  places.countP fun q => decide (p.distance q ≤ tolerance)

def openEnds (tolerance : α) (edges : List (Edge α)) : List (Vec3 α) :=
  (edges.filter fun e => !e.isRing tolerance).flatMap Edge.ends

variable {tolerance : α} {places others : List (Vec3 α)} {p q r : Vec3 α} {c : Chain α} {e e' : Edge α}
  {edges edges' : List (Edge α)}

theorem sharedPerm (order : places.Perm others) : shared tolerance places p = shared tolerance others p := order.countP_eq _

theorem openEndsOf : openEnds tolerance edges ⊆ edges.flatMap Edge.ends := by
  intro p member
  obtain ⟨e, inside, here⟩ := List.mem_flatMap.mp member
  exact List.mem_flatMap.mpr ⟨e, List.mem_of_mem_filter inside, here⟩

section Lawful
variable [LawfulDistance α]

namespace Classes

omit [LawfulDistance α] in
theorem sub (h : Classes tolerance places) (inside : others ⊆ places) : Classes tolerance others where
  refl p := h.refl ⟨p.1, inside p.2⟩
  symm {p q} near := h.symm (x := ⟨p.1, inside p.2⟩) (y := ⟨q.1, inside q.2⟩) near
  trans {p q r} near next := h.trans (x := ⟨p.1, inside p.2⟩) (y := ⟨q.1, inside q.2⟩) (z := ⟨r.1, inside r.2⟩) near next

omit [LawfulDistance α] in
theorem ofApart (self : ∀ p ∈ places, p.distance p ≤ tolerance)
    (apart : ∀ p ∈ places, ∀ q ∈ places, p.distance q ≤ tolerance → p = q) : Classes tolerance places where
  refl p := self p.1 p.2
  symm {p q} near := apart p.1 p.2 q.1 q.2 near ▸ near
  trans {p q _} near next := apart p.1 p.2 q.1 q.2 near ▸ next

theorem within (h : Classes tolerance places) (first : p ∈ places) (second : q ∈ places)
    (near : ¬ tolerance < p.distance q) : p.distance q ≤ tolerance := by
  obtain ⟨finite, number⟩ := LawfulDistance.ofSelf (h.refl ⟨p, first⟩)
  exact (LawfulDistance.decides finite (LawfulDistance.ofSelf (h.refl ⟨q, second⟩)).1 number).resolve_left near

theorem alike (h : Classes tolerance places) (here : p ∈ places) (first : q ∈ places) (second : r ∈ places)
    (near : q.distance r ≤ tolerance) : p.distance q ≤ tolerance ↔ p.distance r ≤ tolerance :=
  ⟨fun this => h.trans (x := ⟨p, here⟩) (y := ⟨q, first⟩) (z := ⟨r, second⟩) this near,
   fun this => h.trans (x := ⟨p, here⟩) (y := ⟨r, second⟩) (z := ⟨q, first⟩) this (LawfulDistance.symm q r ▸ near)⟩

theorem pair (h : Classes tolerance places) (here : p ∈ places) (first : q ∈ places) (second : r ∈ places)
    (near : q.distance r ≤ tolerance) :
    Even (shared tolerance (q :: r :: others) p) ↔ Even (shared tolerance others p) := by
  have same := h.alike here first second near
  by_cases within : p.distance r ≤ tolerance
  · simp [shared, same.mpr within, within, Nat.even_add_one]
  · simp [shared, mt same.mp within, within]

end Classes

theorem addPairs (h : Classes tolerance places) (start : e.start ∈ places) (tip : c.tip ∈ places)
    (touches : e.touches tolerance c.tip = true) : ∃ p, p.distance c.tip ≤ tolerance ∧
      e.ends.Perm [p, (c.add tolerance e).tip] ∧ (c.add tolerance e).origin = c.origin := by
  unfold Chain.add
  by_cases beyond : tolerance < e.start.distance c.tip
  · simp only [beyond, if_true, e.reverseFinish]
    refine ⟨e.finish, ?_, .swap _ _ _, trivial⟩
    rcases Bool.or_eq_true_iff.mp touches with near | near
    · exact absurd beyond (LawfulDistance.excludes (of_decide_eq_true near))
    · exact of_decide_eq_true near
  · simp only [beyond, if_false]
    exact ⟨e.start, h.within start tip beyond, .refl _, trivial⟩

theorem stuckAlone (h : Classes tolerance places) (tip : c.tip ∈ places) (opened : c.isOpen tolerance = true)
    (none : pick? (Edge.touches tolerance c.tip) edges = none) : shared tolerance (c.ends edges) c.tip = 1 := by
  have self : c.tip.distance c.tip ≤ tolerance := h.refl ⟨c.tip, tip⟩
  have away : ¬ c.tip.distance c.origin ≤ tolerance := fun near => LawfulDistance.excludes near (of_decide_eq_true opened)
  have left : shared tolerance (edges.flatMap Edge.ends) c.tip = 0 := by
    refine List.countP_eq_zero.mpr fun p member near => ?_
    obtain ⟨e, inside, here⟩ := List.mem_flatMap.mp member
    have near : p.distance c.tip ≤ tolerance := LawfulDistance.symm p c.tip ▸ of_decide_eq_true near
    have apart := Bool.or_eq_false_iff.mp (pickNone none e inside)
    rcases List.mem_pair.mp here with rfl | rfl
    · exact of_decide_eq_false apart.1 near
    · exact of_decide_eq_false apart.2 near
  rw [Chain.ends, shared, List.countP_cons_of_neg (by simpa using away), List.countP_cons_of_pos (by simpa using self)]
  exact congrArg (· + 1) left

/- A chain that is closed ends where it starts, so what matters is what is left over. -/
theorem closedPair (h : Classes tolerance places) (ours : c.ends edges ⊆ places) (closed : ¬ c.isOpen tolerance = true)
    (here : p ∈ places) :
    Even (shared tolerance (c.ends edges) p) ↔ Even (shared tolerance (edges.flatMap Edge.ends) p) := by
  have origin : c.origin ∈ places := ours (by simp [Chain.ends])
  have tip : c.tip ∈ places := ours (by simp [Chain.ends])
  have near := h.within tip origin fun beyond => closed (decide_eq_true beyond)
  exact h.pair here origin tip (LawfulDistance.symm c.tip c.origin ▸ near)

theorem closeParity (h : Classes tolerance places) (ours : c.ends edges ⊆ places) :
    ((∃ chains, c.close tolerance edges = .ok chains) ∧ ∀ p ∈ places, Even (shared tolerance (c.ends edges) p)) ∨
    ∃ p ∈ places, c.close tolerance edges = .error (.notClosed p) ∧ ¬ Even (shared tolerance (c.ends edges) p) := by
  induction c, edges using Chain.close.induct tolerance with
  | case1 c edges opened none =>
    have tip : c.tip ∈ places := ours (by simp [Chain.ends])
    refine .inr ⟨c.tip, tip, Chain.closeStuck opened none, ?_⟩
    rw [stuckAlone h tip opened none]
    exact Nat.not_even_one
  | case2 c edges opened e others found ih =>
    obtain ⟨touches, order⟩ := pickFound found
    have start : e.start ∈ places :=
      ours (by simp [Chain.ends, order.flatMap_right Edge.ends |>.mem_iff, Edge.ends])
    have tip : c.tip ∈ places := ours (by simp [Chain.ends])
    obtain ⟨p, near, pair, origin⟩ := addPairs h start tip touches
    have order : (c.ends edges).Perm (p :: c.tip :: (c.add tolerance e).ends others) := by
      have left : (edges.flatMap Edge.ends).Perm (p :: (c.add tolerance e).tip :: others.flatMap Edge.ends) :=
        (order.flatMap_right Edge.ends).trans (pair.append_right _)
      rw [Chain.ends, Chain.ends, origin]
      exact ((left.cons c.tip).cons c.origin).trans ((List.reverse_perm [p, c.tip, c.origin]).append_right _)
    have inside : ∀ q ∈ p :: c.tip :: (c.add tolerance e).ends others, q ∈ places := fun q member =>
      ours (order.mem_iff.mpr member)
    have same (q : Vec3 α) (here : q ∈ places) : Even (shared tolerance (c.ends edges) q) ↔
        Even (shared tolerance ((c.add tolerance e).ends others) q) := by
      rw [sharedPerm order]
      exact h.pair here (inside p List.mem_cons_self) tip near
    rw [Chain.closeOn opened found]
    rcases ih fun q member => inside q (List.mem_cons_of_mem _ (List.mem_cons_of_mem _ member)) with
      ⟨closes, even⟩ | ⟨q, here, fails, odd⟩
    · exact .inl ⟨closes, fun q here => (same q here).mpr (even q here)⟩
    · exact .inr ⟨q, here, fails, mt (same q here).mp odd⟩
  | case3 c closed =>
    exact .inl ⟨⟨_, Chain.closeDone closed⟩, fun p here => (closedPair h ours closed here).mpr Even.zero⟩
  | case4 c closed e others ih =>
    rw [Chain.closeNext closed]
    rcases ih fun q member => ours (List.mem_cons_of_mem _ (List.mem_cons_of_mem _ member)) with
      ⟨⟨chains, closes⟩, even⟩ | ⟨q, here, fails, odd⟩
    · rw [closes]
      exact .inl ⟨⟨_, rfl⟩, fun q here => (closedPair h ours closed here).mpr (even q here)⟩
    · rw [fails]
      exact .inr ⟨q, here, rfl, mt (closedPair h ours closed here).mp odd⟩

theorem closeAllParity (h : Classes tolerance places) (ours : edges.flatMap Edge.ends ⊆ places) :
    ((∃ chains, Chain.closeAll tolerance edges = .ok chains) ∧
      ∀ p ∈ places, Even (shared tolerance (edges.flatMap Edge.ends) p)) ∨
    ∃ p ∈ places, Chain.closeAll tolerance edges = .error (.notClosed p) ∧
      ¬ Even (shared tolerance (edges.flatMap Edge.ends) p) := by
  cases edges with
  | nil => exact .inl ⟨⟨[], rfl⟩, fun _ _ => Even.zero⟩
  | cons e others => exact closeParity h ours

theorem turnedRing (turned : e'.ends = e.ends ∨ e'.ends = e.reverse.ends) : e'.isRing tolerance = e.isRing tolerance := by
  simp only [Edge.ends, e.reverseStart, e.reverseFinish, List.cons.injEq, and_true] at turned
  unfold Edge.isRing
  rcases turned with ⟨start, finish⟩ | ⟨start, finish⟩
  · rw [start, finish]
  · rw [start, finish, LawfulDistance.symm]

theorem redrawnOpenEnds (redrawn : Redrawn edges edges') :
    (openEnds tolerance edges').Perm (openEnds tolerance edges) := by
  obtain ⟨turned, each, order⟩ := redrawn
  refine ((order.filter _).flatMap_right Edge.ends).symm.trans ?_
  clear order
  induction each with
  | nil => exact .nil
  | @cons e e' _ _ first _ ih =>
    rw [openEnds, List.filter_cons, List.filter_cons, turnedRing first]
    split
    · exact (turnedEnds first).append ih
    · exact ih

end Lawful

namespace Sketch
variable [LawfulDistance α] {s : Sketch α} {group : GroupId} {frame : Frame α} {config : LoopConfig α}

theorem assembleParity (drawn : List.Forall₂ (fun id e => e.Drawn s frame config id) (s.curvesOf group) edges)
    (h : Classes config.joinTolerance (edges.flatMap Edge.ends)) :
    ((∃ set, s.assemble group frame config = .ok set) ∧
      ∀ p ∈ edges.flatMap Edge.ends, Even (shared config.joinTolerance (openEnds config.joinTolerance edges) p)) ∨
    ∃ p ∈ edges.flatMap Edge.ends, s.assemble group frame config = .error (.notClosed p) ∧
      ¬ Even (shared config.joinTolerance (openEnds config.joinTolerance edges) p) := by
  rw [assembleRun (eachDrawn.mpr drawn)]
  rcases closeAllParity h openEndsOf with ⟨⟨chains, closes⟩, even⟩ | ⟨p, here, fails, odd⟩
  · rw [closes]
    exact .inl ⟨⟨_, rfl⟩, even⟩
  · rw [fails]
    exact .inr ⟨p, here, rfl, odd⟩

theorem closesIff (drawn : List.Forall₂ (fun id e => e.Drawn s frame config id) (s.curvesOf group) edges)
    (h : Classes config.joinTolerance (edges.flatMap Edge.ends)) : (∃ set, s.assemble group frame config = .ok set) ↔
      ∀ p ∈ edges.flatMap Edge.ends, Even (shared config.joinTolerance (openEnds config.joinTolerance edges) p) := by
  rcases assembleParity drawn h with ⟨closes, even⟩ | ⟨p, here, fails, odd⟩
  · exact ⟨fun _ => even, fun _ => closes⟩
  · exact ⟨fun ⟨_, ok⟩ => (nomatch ok.symm.trans fails), fun even => absurd (even p here) odd⟩

/- Curves close to loops just where no class of their ends has an odd number of them, whatever the order and the direction
that they are drawn in, and where they do not, such a class is named. -/
theorem closesByParity (drawn : List.Forall₂ (fun id e => e.Drawn s frame config id) (s.curvesOf group) edges)
    (h : Classes config.joinTolerance (edges.flatMap Edge.ends)) :
    ((∃ set, s.assemble group frame config = .ok set) ↔
      ∀ p ∈ edges.flatMap Edge.ends, Even (shared config.joinTolerance (openEnds config.joinTolerance edges) p)) ∧
    (∀ cause, s.assemble group frame config = .error cause → ∃ p ∈ edges.flatMap Edge.ends, cause = .notClosed p ∧
      Odd (shared config.joinTolerance (openEnds config.joinTolerance edges) p)) ∧
    ∀ (s' : Sketch α) (group' : GroupId) (frame' : Frame α) (edges' : List (Edge α)),
      List.Forall₂ (fun id e => e.Drawn s' frame' config id) (s'.curvesOf group') edges' → Redrawn edges edges' →
      ((∃ set, s'.assemble group' frame' config = .ok set) ↔ ∃ set, s.assemble group frame config = .ok set) := by
  refine ⟨closesIff drawn h, fun cause fails => ?_, fun s' group' frame' edges' drawn' redrawn => ?_⟩
  · rcases assembleParity drawn h with ⟨⟨set, ok⟩, _⟩ | ⟨p, here, stuck, odd⟩
    · exact nomatch ok.symm.trans fails
    · exact ⟨p, here, Except.error.inj (fails.symm.trans stuck), Nat.not_even_iff_odd.mp odd⟩
  · have ends := redrawnEnds redrawn
    have h' : Classes config.joinTolerance (edges'.flatMap Edge.ends) := h.sub ends.subset
    have same (p : Vec3 α) : shared config.joinTolerance (openEnds config.joinTolerance edges') p =
        shared config.joinTolerance (openEnds config.joinTolerance edges) p := sharedPerm (redrawnOpenEnds redrawn)
    rw [closesIff drawn' h', closesIff drawn h]
    simp only [ends.mem_iff, same]

namespace TwoLines

def ends : List (Vec3 Float) := [edge 3, edge 4].flatMap Edge.ends

theorem endsCases {p : Vec3 Float} (member : p ∈ ends) : p = lineEnd .zero .unitX 0 ∨ p = lineEnd .zero .unitX 1 := by
  have member : p ∈ [(edge 3).start, (edge 3).finish] ++ [(edge 4).start, (edge 4).finish] := member
  rcases List.mem_append.mp member with one | other
  · exact List.mem_pair.mp one
  · exact List.mem_pair.mp other

theorem classes : Classes LoopConfig.standard.joinTolerance ends := by
  have apart : ¬ (lineEnd .zero .unitX 0 : Vec3 Float).distance (lineEnd .zero .unitX 1) ≤
      LoopConfig.standard.joinTolerance := by decide +kernel
  refine .ofApart (fun p member => ?_) fun p first q second near => ?_
  · rcases endsCases member with rfl | rfl <;> decide +kernel
  · rcases endsCases first with rfl | rfl <;> rcases endsCases second with rfl | rfl
    · rfl
    · exact absurd near apart
    · exact absurd (LawfulDistance.symm (α := Float) _ _ ▸ near) apart
    · rfl

end TwoLines

theorem twoLinesClose : Classes LoopConfig.standard.joinTolerance TwoLines.ends ∧
    ∃ set, TwoLines.sketch.assemble ⟨1⟩ ⟨.zero, .identity⟩ .standard = .ok set := by
  refine ⟨TwoLines.classes, (closesByParity TwoLines.drawn TwoLines.classes).1.mpr fun p member => ?_⟩
  rcases TwoLines.endsCases member with rfl | rfl <;> decide +kernel

end Sketch
end Drafting
