import Drafting.Proofs.Order
/-! Which group a cycle is reported through. What is left when no group is ready is what builds upon a cycle, on it or
behind it, so the group that is named is the one of least number among these. It need not lie on a cycle itself. -/
namespace Drafting.Sketch
open Relation

def Looped (s : Sketch α) (g : GroupId) : Prop := TransGen s.Upstream g g

/-- A group builds upon one that builds upon itself, or is one. -/
def Tangled (s : Sketch α) (g : GroupId) : Prop := ∃ k, ReflTransGen s.Upstream g k ∧ s.Looped k

/-- The first by number of the groups that build upon a cycle. -/
structure FirstTangled (s : Sketch α) (c : GroupId) : Prop where
  tangled : s.Tangled c
  first : ∀ g, s.Tangled g → c = g ∨ c.Before g

theorem firstEqual {a b : GroupId} (first : a = b ∨ a.Before b) (second : b = a ∨ b.Before a) : a = b := by
  rcases first with same | early
  · exact same
  · rcases second with same | late
    · exact same.symm
    · exact absurd (early : a.number < b.number) (Nat.lt_asymm late)

section Cycle
variable {s : Sketch α} {g c : GroupId} {order stuck : List GroupId}

theorem tangledRegistered (tangled : s.Tangled g) : g ∈ s.groups.keys := by
  obtain ⟨k, leads, loop⟩ := tangled
  obtain ⟨_, ⟨registered, _⟩, _⟩ := TransGen.head'_iff.mp (TransGen.trans_right leads loop)
  exact registered

theorem stuckTangled (next : ∀ g ∈ stuck, ∃ h ∈ stuck, s.Upstream g h) (member : g ∈ stuck) : s.Tangled g := by
  classical
  -- the cycle is looked for among what the group leads to
  let step (a b : GroupId) : Prop := s.Upstream a b ∧ ReflTransGen s.Upstream g a
  let within := stuck.filter fun h => ReflTransGen s.Upstream g h
  have here : g ∈ within := List.mem_filter.mpr ⟨member, by simp [ReflTransGen.refl]⟩
  obtain ⟨k, loop⟩ := cycleOfStuck (r := step) (List.ne_nil_of_mem here) fun a inside => by
    obtain ⟨there, leads⟩ := List.mem_filter.mp inside
    have leads : ReflTransGen s.Upstream g a := by simpa using leads
    obtain ⟨b, left, need⟩ := next a there
    exact ⟨b, List.mem_filter.mpr ⟨left, by simpa using leads.tail need⟩, need, leads⟩
  obtain ⟨_, ⟨_, leads⟩, _⟩ := TransGen.head'_iff.mp loop
  exact ⟨k, leads, TransGen.mono (fun _ _ taken => taken.1) k k loop⟩

theorem orderedUntangled (ready : ReadyOrder s.dependenciesOf [] order) (once : order.Nodup) (member : g ∈ order) :
    ¬ s.Tangled g := by
  intro ⟨k, leads, loop⟩
  have asks (a b : GroupId) (step : s.Upstream a b) : b ∈ s.dependenciesOf a := step.2
  have inside : k ∈ order := by
    rcases reflTransGen_iff_eq_or_transGen.mp leads with rfl | leads
    · exact member
    · obtain ⟨before, rest, rfl⟩ := List.append_of_mem member
      exact List.mem_append_left _ (readyReached ready asks leads rfl)
  obtain ⟨before, rest, rfl⟩ := List.append_of_mem inside
  exact (onceInOrder once).1 (readyReached ready asks loop rfl)

theorem acyclicUntangled (acyclic : s.Acyclic) : ¬ s.Tangled g := fun ⟨k, _, loop⟩ => acyclic k loop

theorem orderFromNames {e : RegenError} (registered : ∀ g, ∀ h ∈ s.dependenciesOf g, h ∈ s.groups.keys)
    (stops : orderFrom s.dependenciesOf [] s.groupIds = .error e) :
    ∃ c, e = .cycle c ∧ s.FirstTangled c := by
  obtain ⟨order, c, rest, rfl, all, apart, ready, needy⟩ := orderFromStops stops
    fun g _ h need => .inr (memGroupIds.mpr (registered g h need))
  have next : ∀ g ∈ c :: rest, ∃ h ∈ c :: rest, s.Upstream g h := by
    intro g member
    obtain ⟨h, need, left⟩ := needy g member
    exact ⟨h, left, memGroupIds.mp (apart.subset member), need⟩
  refine ⟨c, rfl, stuckTangled next List.mem_cons_self, fun g tangled => ?_⟩
  · have once : order.Nodup := (List.nodup_append.mp (all.nodup_iff.mpr groupIdsNodup)).1
    have listed : g ∈ order ++ c :: rest := all.mem_iff.mpr (memGroupIds.mpr (tangledRegistered tangled))
    have left : g ∈ c :: rest := (List.mem_append.mp listed).resolve_left fun early =>
      orderedUntangled ready once early tangled
    rcases List.mem_cons.mp left with rfl | later
    · exact .inl rfl
    · exact .inr ((List.pairwise_cons.mp (groupIdsAscending.sublist apart)).1 g later)

/- The group that is named is the first of those that build upon a cycle. It lies on one itself just where none of
these comes before all that do. -/
theorem cycleNamed (s : Sketch α) (indexed : s.groups.Indexed)
    (sources : ∀ g ∈ s.groups.toList, ∀ p ∈ g.predecessors, p ∈ s.groups.keys)
    (owners : ∀ e ∈ s.entities.toList, e.group ∈ s.groups.keys) (c : GroupId) :
    (s.regenerationOrder = .error (.cycle c) ↔ s.FirstTangled c) ∧
      (s.regenerationOrder = .error (.cycle c) →
        (s.Looped c ↔ ∀ g, s.Tangled g → ∃ k, s.Looped k ∧ (k = g ∨ k.Before g))) := by
  have named {e : RegenError} (stops : s.regenerationOrder = .error e) : ∃ c, e = .cycle c ∧ s.FirstTangled c :=
    orderFromNames (dependenciesRegistered sources owners) (regenerationOrderRegistered indexed sources ▸ stops)
  have least (stops : s.regenerationOrder = .error (.cycle c)) : s.FirstTangled c := by
    obtain ⟨_, same, first⟩ := named stops
    cases same
    exact first
  refine ⟨⟨least, fun ⟨tangled, first⟩ => ?_⟩, fun stops => ⟨fun loop g tangled => ?_, fun before => ?_⟩⟩
  · cases result : s.regenerationOrder with
    | ok order => exact absurd tangled (acyclicUntangled (regenerationOrderIsOrder result).acyclic)
    | error e =>
      obtain ⟨c', rfl, other⟩ := named result
      rw [firstEqual (first c' other.tangled) (other.first c tangled)]
  · exact ⟨c, loop, (least stops).first g tangled⟩
  · obtain ⟨tangled, first⟩ := least stops
    obtain ⟨k, loop, earliest⟩ := before c tangled
    rwa [firstEqual (first k ⟨k, .refl, loop⟩) earliest]

def behindCycle : Sketch Nat where
  groups := .ofList [
    { id := ⟨1⟩, name := "behind", kind := .drawing3d, source := some ⟨2⟩ },
    { id := ⟨2⟩, name := "first", kind := .drawing3d, source := some ⟨3⟩ },
    { id := ⟨3⟩, name := "second", kind := .drawing3d, source := some ⟨2⟩ }]

theorem behindCycleIndexed : behindCycle.groups.Indexed := Registry.ofListIndexed _

theorem behindCycleUpstream : behindCycle.Upstream g c ↔ (g, c) ∈ [((⟨1⟩, ⟨2⟩) : GroupId × GroupId), (⟨2⟩, ⟨3⟩), (⟨3⟩, ⟨2⟩)] := by
  have consistent : behindCycle.groups.Consistent := Registry.ofListConsistent (by decide)
  have keys : behindCycle.groups.keys = [⟨1⟩, ⟨2⟩, ⟨3⟩] := rfl
  have needs {r : Group Nat} (there : r ∈ behindCycle.groups.toList) :
      behindCycle.dependenciesOf r.id = behindCycle.dependencies r := by
    rw [dependenciesOf, show behindCycle.groups.get? r.id = some r from consistent.getOfMem there]
  have first : behindCycle.dependenciesOf ⟨1⟩ = [⟨2⟩] := needs (.head _)
  have second : behindCycle.dependenciesOf ⟨2⟩ = [⟨3⟩] := needs (.tail _ (.head _))
  have third : behindCycle.dependenciesOf ⟨3⟩ = [⟨2⟩] := needs (.tail _ (.tail _ (.head _)))
  rw [Upstream, keys]
  constructor
  · rintro ⟨registered, need⟩
    simp only [List.mem_cons, List.not_mem_nil, or_false] at registered
    rcases registered with rfl | rfl | rfl
    · simp [first] at need
      simp [need]
    · simp [second] at need
      simp [need]
    · simp [third] at need
      simp [need]
  · intro pair
    simp only [List.mem_cons, List.not_mem_nil, or_false, Prod.mk.injEq] at pair
    rcases pair with ⟨rfl, rfl⟩ | ⟨rfl, rfl⟩ | ⟨rfl, rfl⟩
    · simp [first]
    · simp [second]
    · simp [third]

theorem behindCycleNamed : behindCycle.regenerationOrder = .error (.cycle ⟨1⟩) ∧ ¬ behindCycle.Looped ⟨1⟩ := by
  constructor
  · refine (cycleNamed behindCycle behindCycleIndexed ?_ ?_ ⟨1⟩).1.mpr ⟨⟨⟨2⟩, ?_, ?_⟩, fun g tangled => ?_⟩
    · simp [behindCycle, Group.predecessors, Registry.keys, Keyed.key]
    · simp [behindCycle, Registry.toList]
    · exact .single (behindCycleUpstream.mpr (by decide))
    · exact .tail (.single (behindCycleUpstream.mpr (by decide : ((⟨2⟩ : GroupId), (⟨3⟩ : GroupId)) ∈ _)))
        (behindCycleUpstream.mpr (by decide))
    · have registered := tangledRegistered tangled
      change g ∈ [(⟨1⟩ : GroupId), ⟨2⟩, ⟨3⟩] at registered
      simp only [List.mem_cons, List.not_mem_nil, or_false] at registered
      rcases registered with rfl | rfl | rfl
      · exact .inl rfl
      · exact .inr (by decide : 1 < 2)
      · exact .inr (by decide : 1 < 3)
  · intro loop
    obtain ⟨before, _, step⟩ := TransGen.tail'_iff.mp loop
    simp [behindCycleUpstream] at step

end Cycle
end Drafting.Sketch
