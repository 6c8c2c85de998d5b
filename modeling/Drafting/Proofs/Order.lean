import Drafting.Proofs.Registry
import Drafting.Proofs.Result
import Drafting.Regeneration.Order
import Mathlib.Data.Fintype.EquivFin
import Mathlib.Data.Fintype.Sets
import Mathlib.Logic.Relation
import Mathlib.Order.WellFounded
/-! The order of regeneration. Taking the first group that is ready, again and again, comes to an end
exactly when no group builds upon itself through others; the order it gives has every group once, each
after those it builds upon, and is the first of all such orders by number. -/
namespace Drafting

theorem pickSome {p : τ → Bool} {xs ys : List τ} {y : τ} (h : pick? p xs = some (y, ys)) :
    ∃ before after, xs = before ++ y :: after ∧ ys = before ++ after ∧ p y = true ∧
      ∀ x ∈ before, p x = false := by
  induction xs generalizing ys with
  | nil => simp [pick?] at h
  | cons x xs ih =>
    simp only [pick?] at h
    split at h
    · rename_i ready
      obtain ⟨rfl, rfl⟩ := by simpa using h
      exact ⟨[], xs, rfl, rfl, ready, by simp⟩
    · rename_i unready
      obtain ⟨⟨z, zs⟩, found, same⟩ := Option.map_eq_some_iff.mp h
      obtain ⟨rfl, rfl⟩ := by simpa using same
      obtain ⟨before, after, rfl, rfl, ready, first⟩ := ih found
      refine ⟨x :: before, after, rfl, rfl, ready, ?_⟩
      intro w member
      rcases List.mem_cons.mp member with rfl | inside
      · simpa using unready
      · exact first w inside

theorem pickNone {p : τ → Bool} {xs : List τ} (h : pick? p xs = none) : ∀ x ∈ xs, p x = false := by
  induction xs with
  | nil => simp
  | cons x xs ih =>
    simp only [pick?] at h
    split at h
    · cases h
    · rename_i unready
      intro w member
      rcases List.mem_cons.mp member with rfl | inside
      · simpa using unready
      · exact ih (by simpa using h) w inside

def ReadyOrder (needs : GroupId → List GroupId) : List GroupId → List GroupId → Prop
  | _, [] => True
  | done, g :: rest => (∀ h ∈ needs g, h ∈ done) ∧ ReadyOrder needs (g :: done) rest

def GroupId.Before (a b : GroupId) : Prop := a.number < b.number

section Greedy
variable {needs : GroupId → List GroupId}

theorem readyAfter {done order : List GroupId} (h : ReadyOrder needs done order)
    {before rest : List GroupId} {g : GroupId} (split : order = before ++ g :: rest) :
    ∀ d ∈ needs g, d ∈ done ∨ d ∈ before := by
  induction before generalizing done order with
  | nil =>
    subst split
    exact fun d need => .inl (h.1 d need)
  | cons x before ih =>
    subst split
    intro d need
    rcases ih h.2 rfl d need with inside | earlier
    · rcases List.mem_cons.mp inside with rfl | inside
      · exact .inr List.mem_cons_self
      · exact .inl inside
    · exact .inr (List.mem_cons_of_mem _ earlier)

theorem readyOfAfter {done order : List GroupId}
    (h : ∀ before g rest, order = before ++ g :: rest → ∀ d ∈ needs g, d ∈ done ∨ d ∈ before) :
    ReadyOrder needs done order := by
  induction order generalizing done with
  | nil => trivial
  | cons x order ih =>
    refine ⟨fun d need => by simpa using h [] x order rfl d need, ih ?_⟩
    intro before g rest split d need
    rcases h (x :: before) g rest (by rw [split]; rfl) d need with inside | earlier
    · exact .inl (List.mem_cons_of_mem _ inside)
    · rcases List.mem_cons.mp earlier with rfl | earlier
      · exact .inl List.mem_cons_self
      · exact .inr earlier

theorem readyReached {order : List GroupId} (ready : ReadyOrder needs [] order) {r : GroupId → GroupId → Prop}
    (asks : ∀ g h, r g h → h ∈ needs g) {g d : GroupId} (reached : Relation.TransGen r g d) {before rest : List GroupId}
    (split : order = before ++ g :: rest) : d ∈ before := by
  induction reached with
  | single step => simpa using readyAfter ready split _ (asks _ _ step)
  | @tail b _ _ step ih =>
    obtain ⟨early, late, rfl⟩ := List.append_of_mem ih
    have place : order = early ++ b :: (late ++ g :: rest) := by rw [split, List.append_assoc, List.cons_append]
    have earlier := readyAfter ready place _ (asks _ _ step)
    exact List.mem_append_left _ (by simpa using earlier)

theorem orderFromReady {done pending order : List GroupId}
    (ok : Sketch.orderFrom needs done pending = .ok order) :
    order.Perm pending ∧ ReadyOrder needs done order := by
  fun_induction Sketch.orderFrom needs done pending generalizing order with
  | case1 done pending g rest found ih =>
    obtain ⟨before, after, rfl, rfl, ready, _⟩ := pickSome found
    cases tail : Sketch.orderFrom needs (g :: done) (before ++ after) with
    | error e => simp [tail, bind, Except.bind] at ok
    | ok others =>
      obtain rfl : g :: others = order := by simpa [tail, bind, Except.bind, pure, Except.pure] using ok
      obtain ⟨same, rest⟩ := ih tail
      refine ⟨(same.cons g).trans List.perm_middle.symm, ?_, rest⟩
      simpa using ready
  | case2 done found =>
    obtain rfl : [] = order := by simpa [pure, Except.pure] using ok
    exact ⟨.refl _, trivial⟩
  | case3 done stuck rest found => cases ok

/- The argument that the greedy choice is least: the first of another order is ready too, so the choice,
being the first ready one in ascending order, is not above it. -/
theorem orderFromLeast {done pending order other : List GroupId}
    (ok : Sketch.orderFrom needs done pending = .ok order) (ascending : pending.Pairwise GroupId.Before)
    (same : other.Perm pending) (ready : ReadyOrder needs done other) :
    order = other ∨ List.Lex GroupId.Before order other := by
  fun_induction Sketch.orderFrom needs done pending generalizing order other with
  | case1 done pending g rest found ih =>
    obtain ⟨before, after, rfl, rfl, chosen, first⟩ := pickSome found
    cases tail : Sketch.orderFrom needs (g :: done) (before ++ after) with
    | error e => simp [tail, bind, Except.bind] at ok
    | ok others =>
      obtain rfl : g :: others = order := by simpa [tail, bind, Except.bind, pure, Except.pure] using ok
      cases other with
      | nil => exact absurd same.length_eq (by simp)
      | cons x xs =>
        have readyX : ((needs x).all done.contains) = true := by simpa using ready.1
        have member : x ∈ before ++ g :: after := same.mem_iff.mp List.mem_cons_self
        obtain ⟨_, ascendingRest, _⟩ := List.pairwise_append.mp ascending
        rcases List.mem_append.mp member with early | late
        · exact absurd readyX (by simp [first x early])
        · rcases List.mem_cons.mp late with rfl | later
          · have restSame : xs.Perm (before ++ after) := (same.trans List.perm_middle).cons_inv
            have restAscending : (before ++ after).Pairwise GroupId.Before :=
              ascending.sublist ((List.sublist_cons_self _ after).append_left before)
            rcases ih tail restAscending restSame ready.2 with rfl | less
            · exact .inl rfl
            · exact .inr (.cons less)
          · exact .inr (.rel ((List.pairwise_cons.mp ascendingRest).1 x later))
  | case2 done found =>
    obtain rfl : [] = order := by simpa [pure, Except.pure] using ok
    exact .inl same.eq_nil.symm
  | case3 done stuck rest found => cases ok

theorem orderFromStops {done pending : List GroupId} {e : RegenError}
    (stops : Sketch.orderFrom needs done pending = .error e)
    (closed : ∀ g ∈ pending, ∀ h ∈ needs g, h ∈ done ∨ h ∈ pending) :
    ∃ order c rest, e = .cycle c ∧ (order ++ c :: rest).Perm pending ∧ (c :: rest).Sublist pending ∧
      ReadyOrder needs done order ∧ ∀ g ∈ c :: rest, ∃ h ∈ needs g, h ∈ c :: rest := by
  fun_induction Sketch.orderFrom needs done pending with
  | case1 done pending g rest found ih =>
    obtain ⟨before, after, rfl, rfl, ready, _⟩ := pickSome found
    cases tail : Sketch.orderFrom needs (g :: done) (before ++ after) with
    | ok others => simp [tail, bind, Except.bind, pure, Except.pure] at stops
    | error e' =>
      obtain rfl : e' = e := by simpa [tail, bind, Except.bind] using stops
      have closed' : ∀ x ∈ before ++ after, ∀ h ∈ needs x, h ∈ g :: done ∨ h ∈ before ++ after := by
        intro x member h need
        have := closed x (by simp at member ⊢; tauto) h need
        simp at this ⊢
        tauto
      obtain ⟨order, c, left, same, all, apart, sorted, needy⟩ := ih tail closed'
      refine ⟨g :: order, c, left, same, (all.cons g).trans List.perm_middle.symm, ?_, ⟨?_, sorted⟩, needy⟩
      · exact apart.trans ((List.sublist_cons_self g after).append_left before)
      · simpa using ready
  | case2 done found => cases stops
  | case3 done stuck rest found =>
    obtain rfl : .cycle stuck = e := by simpa [throw, throwThe, MonadExceptOf.throw] using stops
    refine ⟨[], stuck, rest, rfl, .refl _, .refl _, trivial, ?_⟩
    intro g member
    have unready := pickNone found g member
    obtain ⟨h, need, missing⟩ : ∃ h ∈ needs g, h ∉ done := by simpa using unready
    exact ⟨h, need, (closed g member h need).resolve_left missing⟩

theorem orderFromStuck {done pending : List GroupId} {e : RegenError}
    (stops : Sketch.orderFrom needs done pending = .error e)
    (closed : ∀ g ∈ pending, ∀ h ∈ needs g, h ∈ done ∨ h ∈ pending) :
    ∃ c stuck, e = .cycle c ∧ stuck ≠ [] ∧ (∀ g ∈ stuck, g ∈ pending) ∧
      ∀ g ∈ stuck, ∃ h ∈ needs g, h ∈ stuck := by
  obtain ⟨_, c, rest, same, _, apart, _, needy⟩ := orderFromStops stops closed
  exact ⟨c, c :: rest, same, List.cons_ne_nil c rest, fun _ member => apart.subset member, needy⟩

theorem cycleOfStuck {r : GroupId → GroupId → Prop} {stuck : List GroupId} (some : stuck ≠ [])
    (next : ∀ g ∈ stuck, ∃ h ∈ stuck, r g h) : ∃ g, Relation.TransGen r g g := by
  by_contra acyclic
  let down (a b : {g // g ∈ stuck}) : Prop := Relation.TransGen r b.val a.val
  have : Finite {g // g ∈ stuck} := Finite.of_fintype _
  have : IsTrans _ down := ⟨fun _ _ _ ab bc => bc.trans ab⟩
  have : Std.Irrefl down := ⟨fun a loop => acyclic ⟨a.val, loop⟩⟩
  have founded : WellFounded down := Finite.wellFounded_of_trans_of_irrefl down
  obtain ⟨g, member⟩ := List.exists_mem_of_ne_nil stuck some
  obtain ⟨least, _, minimal⟩ := founded.has_min Set.univ ⟨⟨g, member⟩, trivial⟩
  obtain ⟨h, inside, step⟩ := next least.val least.property
  exact minimal ⟨h, inside⟩ trivial (.single step)

theorem eraseDupsMem {l : List GroupId} {g : GroupId} : g ∈ l.eraseDups ↔ g ∈ l := by
  simp

theorem eraseDupsAscending {l : List GroupId} (h : l.Pairwise fun a b => a.number ≤ b.number) :
    l.eraseDups.Pairwise GroupId.Before := by
  match l with
  | [] => simp
  | x :: xs =>
    obtain ⟨low, tail⟩ := List.pairwise_cons.mp h
    rw [List.eraseDups_cons]
    refine List.pairwise_cons.mpr ⟨?_, eraseDupsAscending (tail.sublist List.filter_sublist)⟩
    intro y member
    obtain ⟨inside, other⟩ := List.mem_filter.mp (eraseDupsMem.mp member)
    have : y.number ≠ x.number := by
      intro same
      have : y = x := by cases y; cases x; simpa using same
      simp [this] at other
    exact lt_of_le_of_ne (low y inside) this.symm
termination_by l.length
decreasing_by simp only [List.length_cons]; exact Nat.lt_succ_of_le (List.length_filter_le _ _)

end Greedy

namespace Sketch

/-- A group of the sketch builds directly upon another one. -/
def Upstream (s : Sketch α) (g h : GroupId) : Prop := g ∈ s.groups.keys ∧ h ∈ s.dependenciesOf g

def Acyclic (s : Sketch α) : Prop := ∀ g, ¬ Relation.TransGen s.Upstream g g

/-- Every group once, each after all it builds upon. -/
structure IsOrder (s : Sketch α) (order : List GroupId) : Prop where
  once : order.Nodup
  every : ∀ g, g ∈ order ↔ g ∈ s.groups.keys
  after : ∀ before g rest, order = before ++ g :: rest → ∀ h ∈ s.dependenciesOf g, h ∈ before

section Order
variable {s : Sketch α}

theorem memGroupIds {g : GroupId} : g ∈ s.groupIds ↔ g ∈ s.groups.keys := by
  rw [groupIds, eraseDupsMem, List.mem_mergeSort]

theorem groupIdsAscending : s.groupIds.Pairwise GroupId.Before := by
  have sorted := @List.pairwise_mergeSort _ (fun a b : GroupId => decide (a.number ≤ b.number))
    (fun a b c ab bc => by simp only [decide_eq_true_eq] at *; omega)
    (fun a b => by simp only [Bool.or_eq_true, decide_eq_true_eq]; omega) s.groups.keys
  exact eraseDupsAscending (sorted.imp fun le => by simpa using le)

theorem groupIdsNodup : s.groupIds.Nodup :=
  groupIdsAscending.imp fun {a b} less => by
    rintro rfl
    exact Nat.lt_irrefl _ less

theorem dependenciesRegistered
    (sources : ∀ g ∈ s.groups.toList, ∀ p ∈ g.predecessors, p ∈ s.groups.keys)
    (owners : ∀ e ∈ s.entities.toList, e.group ∈ s.groups.keys) (g : GroupId) :
    ∀ h ∈ s.dependenciesOf g, h ∈ s.groups.keys := by
  intro h member
  rw [dependenciesOf] at member
  cases found : s.groups.get? g with
  | none => simp [found] at member
  | some record =>
    rw [found] at member
    obtain ⟨inside, _⟩ := List.mem_filter.mp member
    rcases List.mem_append.mp inside with before | named
    · exact sources record (Registry.memOfGet found) h before
    · obtain ⟨e, _, owner⟩ := List.mem_filterMap.mp named
      obtain ⟨entity, there, rfl⟩ := Option.map_eq_some_iff.mp owner
      exact owners entity (Registry.memOfGet there)

theorem regenerationOrderFrom {order : List GroupId} (ok : s.regenerationOrder = .ok order) :
    orderFrom s.dependenciesOf [] s.groupIds = .ok order := by
  obtain ⟨_, _, greedy⟩ := Result.bindOk.mp ok
  exact greedy

theorem regenerationOrderRegistered (indexed : s.groups.Indexed)
    (sources : ∀ g ∈ s.groups.toList, ∀ p ∈ g.predecessors, p ∈ s.groups.keys) :
    s.regenerationOrder = orderFrom s.dependenciesOf [] s.groupIds := by
  have checked : (s.groups.toList.forM fun g => g.predecessors.forM fun p =>
      if s.groups.contains p then return else throw (RegenError.groupNotFound p) :
        Except RegenError Unit) = .ok () := by
    refine Result.forMOk fun g there => Result.forMOk fun p before => ?_
    rw [if_pos (indexed.complete p (sources g there p before))]
    rfl
  rw [regenerationOrder, checked]
  rfl

theorem isOrderOfReady {order : List GroupId} (same : order.Perm s.groupIds)
    (ready : ReadyOrder s.dependenciesOf [] order) : s.IsOrder order where
  once := same.nodup_iff.mpr groupIdsNodup
  every g := same.mem_iff.trans memGroupIds
  after before g rest split h need := by simpa using readyAfter ready split h need

theorem regenerationOrderIsOrder {order : List GroupId} (ok : s.regenerationOrder = .ok order) :
    s.IsOrder order := by
  obtain ⟨same, ready⟩ := orderFromReady (regenerationOrderFrom ok)
  exact isOrderOfReady same ready

theorem onceInOrder {done rest : List GroupId} {id : GroupId} (once : (done ++ id :: rest).Nodup) :
    id ∉ done ∧ id ∉ rest ∧ ∀ x ∈ done, x ∉ rest := by
  rw [List.nodup_append, List.nodup_cons] at once
  refine ⟨fun again => once.2.2 id again id List.mem_cons_self rfl, once.2.1.1, fun x early late => ?_⟩
  exact once.2.2 x early x (List.mem_cons_of_mem _ late) rfl

namespace IsOrder
variable {order : List GroupId}

theorem perm (h : s.IsOrder order) : order.Perm s.groupIds := by
  refine (List.perm_ext_iff_of_nodup h.once groupIdsNodup).mpr fun g => ?_
  rw [h.every, memGroupIds]

theorem ready (h : s.IsOrder order) : ReadyOrder s.dependenciesOf [] order :=
  readyOfAfter fun before g rest split d need => .inr (h.after before g rest split d need)

theorem reachedBefore (h : s.IsOrder order) {g d : GroupId} (reached : Relation.TransGen s.Upstream g d)
    {before rest : List GroupId} (split : order = before ++ g :: rest) : d ∈ before :=
  readyReached h.ready (fun _ _ step => step.2) reached split

theorem acyclic (h : s.IsOrder order) : s.Acyclic := by
  intro g loop
  obtain ⟨_, ⟨start, _⟩, _⟩ := Relation.TransGen.head'_iff.mp loop
  obtain ⟨before, rest, split⟩ := List.append_of_mem ((h.every g).mpr start)
  have again := h.reachedBefore loop split
  exact (onceInOrder (split ▸ h.once)).1 again

end IsOrder

theorem regenerationOrderCanonical (s : Sketch α) (indexed : s.groups.Indexed)
    (sources : ∀ g ∈ s.groups.toList, ∀ p ∈ g.predecessors, p ∈ s.groups.keys)
    (owners : ∀ e ∈ s.entities.toList, e.group ∈ s.groups.keys) :
    ((∃ order, s.regenerationOrder = .ok order) ↔ s.Acyclic) ∧
      (¬ s.Acyclic → ∃ c, s.regenerationOrder = .error (.cycle c)) ∧
      ∀ order, s.regenerationOrder = .ok order → s.IsOrder order ∧
        ∀ other, s.IsOrder other → order = other ∨ List.Lex GroupId.Before order other := by
  have greedy := regenerationOrderRegistered indexed sources
  have registered := dependenciesRegistered sources owners
  have stops : ∀ e, s.regenerationOrder = .error e → (∃ c, e = .cycle c) ∧ ¬ s.Acyclic := by
    intro e failed
    obtain ⟨c, stuck, rfl, some, inside, next⟩ := orderFromStuck (greedy ▸ failed)
      fun g _ h need => .inr (memGroupIds.mpr (registered g h need))
    refine ⟨⟨c, rfl⟩, fun acyclic => ?_⟩
    obtain ⟨g, loop⟩ := cycleOfStuck (r := s.Upstream) some fun g member => by
      obtain ⟨h, need, there⟩ := next g member
      exact ⟨h, there, memGroupIds.mp (inside g member), need⟩
    exact acyclic g loop
  have acyclicOfOk : ∀ order, s.regenerationOrder = .ok order → s.Acyclic := fun order ok =>
    (regenerationOrderIsOrder ok).acyclic
  refine ⟨⟨fun ⟨order, ok⟩ => acyclicOfOk order ok, fun acyclic => ?_⟩, fun cyclic => ?_, ?_⟩
  · cases result : s.regenerationOrder with
    | ok order => exact ⟨order, rfl⟩
    | error e => exact absurd acyclic (stops e result).2
  · cases result : s.regenerationOrder with
    | ok order => exact absurd (acyclicOfOk order result) cyclic
    | error e =>
      obtain ⟨⟨c, rfl⟩, _⟩ := stops e result
      exact ⟨c, rfl⟩
  · intro order ok
    refine ⟨regenerationOrderIsOrder ok, fun other h => ?_⟩
    exact orderFromLeast (regenerationOrderFrom ok) groupIdsAscending h.perm h.ready

def extrusionBeforeDrawing : Sketch Nat where
  groups := .ofList [
    { id := ⟨1⟩, name := "extrusion", kind := .straightExtrude, source := some ⟨2⟩ },
    { id := ⟨2⟩, name := "drawing", kind := .drawing3d }]

theorem extrusionAfterItsDrawing : extrusionBeforeDrawing.groups.Indexed ∧
    ((∃ order, extrusionBeforeDrawing.regenerationOrder = .ok order) ↔ extrusionBeforeDrawing.Acyclic) ∧
      (¬ extrusionBeforeDrawing.Acyclic →
        ∃ c, extrusionBeforeDrawing.regenerationOrder = .error (.cycle c)) ∧
      ∀ order, extrusionBeforeDrawing.regenerationOrder = .ok order →
        extrusionBeforeDrawing.IsOrder order ∧ ∀ other, extrusionBeforeDrawing.IsOrder other →
          order = other ∨ List.Lex GroupId.Before order other := by
  have indexed : extrusionBeforeDrawing.groups.Indexed := Registry.ofListIndexed _
  refine ⟨indexed, regenerationOrderCanonical extrusionBeforeDrawing indexed ?_ ?_⟩
  · simp [extrusionBeforeDrawing, Group.predecessors, Registry.keys, Keyed.key]
  · simp [extrusionBeforeDrawing, Registry.toList]

end Order
end Sketch
end Drafting
