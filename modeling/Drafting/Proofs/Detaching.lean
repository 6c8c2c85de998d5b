import Drafting.Proofs.Failing
import Drafting.Proofs.Resolved
import Drafting.Proofs.Typing
/-! Points taken out of their coincidences. Those that a point held together are strung together instead, one after
another, so who is connected with whom stays the same for all but the point itself. -/
namespace Drafting
open Relation (ReflTransGen)

/-! A star, and a string of what is around it. -/

section Strings
variable {R T : ρ → ρ → Prop} {p x y : ρ} {around : List ρ}

theorem strung [Std.Symm T] (next : ∀ x y, (x, y) ∈ around.zip (around.drop 1) → T x y) (first : x ∈ around)
    (last : y ∈ around) : ReflTransGen T x y := by
  induction around generalizing x y with
  | nil => cases first
  | cons a rest ih =>
    have ahead : ∀ z ∈ rest, ReflTransGen T a z := by
      intro z member
      cases rest with
      | nil => cases member
      | cons b more =>
        have step : T a b := next a b List.mem_cons_self
        exact .head step (ih (fun x y pair => next x y (List.mem_cons_of_mem _ pair)) List.mem_cons_self member)
    have whole : ∀ z ∈ a :: rest, ReflTransGen T a z := List.forall_mem_cons.mpr ⟨.refl, ahead⟩
    exact (ReflTransGen.stdSymm.symm _ _ (whole x first)).trans (whole y last)

/-- One relation relates a point to just the members of a list. Another leaves the point out and relates each of
those to the next instead. -/
structure Bypass (R T : ρ → ρ → Prop) (p : ρ) (around : List ρ) : Prop where
  star : ∀ x, R p x ↔ x ∈ around
  apart : p ∉ around
  only : ∀ x y, T x y ↔ R x y ∧ x ≠ p ∧ y ≠ p ∨ (x, y) ∈ around.zip (around.drop 1) ∨ (y, x) ∈ around.zip (around.drop 1)

theorem Bypass.leaves (h : Bypass R T p around) (x : ρ) : ¬ T p x := by
  intro step
  rcases (h.only p x).mp step with ⟨_, other, _⟩ | pair | pair
  · exact other rfl
  · exact h.apart (List.of_mem_zip pair).1
  · exact h.apart (List.mem_of_mem_drop (List.of_mem_zip pair).2)

theorem Bypass.walk [Std.Symm R] [Std.Symm T] (h : Bypass R T p around) (apart : x ≠ p) (chain : ReflTransGen R x y) :
    (y ≠ p → ReflTransGen T x y) ∧ (y = p → ∃ o ∈ around, ReflTransGen T x o) := by
  induction chain with
  | refl => exact ⟨fun _ => .refl, fun same => absurd same apart⟩
  | @tail a b _ step ih =>
    by_cases atPoint : a = p
    · -- It leaves the point again, for another place on the string.
      subst atPoint
      have member : b ∈ around := (h.star b).mp step
      have other : b ≠ a := fun same => h.apart (same ▸ member)
      obtain ⟨o, inside, walked⟩ := ih.2 rfl
      have along : ReflTransGen T o b := strung (fun x y pair => (h.only x y).mpr (.inr (.inl pair))) inside member
      exact ⟨fun _ => walked.trans along, fun same => absurd same other⟩
    · refine ⟨fun other => (ih.1 atPoint).tail ((h.only a b).mpr (.inl ⟨step, atPoint, other⟩)), ?_⟩
      rintro rfl
      exact ⟨a, (h.star a).mp (Std.Symm.symm _ _ step), ih.1 atPoint⟩

theorem Bypass.connects [Std.Symm R] [Std.Symm T] (h : Bypass R T p around) (apart : x ≠ p) (apart' : y ≠ p) :
    ReflTransGen T x y ↔ ReflTransGen R x y := by
  -- A step along the string is two steps through the point.
  have along {a b : ρ} (pair : (a, b) ∈ around.zip (around.drop 1)) : ReflTransGen R a b := by
    obtain ⟨left, right⟩ := List.of_mem_zip pair
    have back : R a p := Std.Symm.symm _ _ ((h.star a).mpr left)
    exact .head back (.single ((h.star b).mpr (List.mem_of_mem_drop right)))
  have each : T ≤ ReflTransGen R := by
    intro a b step
    rcases (h.only a b).mp step with ⟨old, _⟩ | pair | pair
    · exact .single old
    · exact along pair
    · exact ReflTransGen.stdSymm.symm _ _ (along pair)
  exact ⟨Relation.reflTransGen_closed each x y, fun chain => (h.walk apart chain).1 apart'⟩

end Strings

namespace ConstraintKind

def Joins (k : ConstraintKind α) (a b : EntityId) : Prop := k = .pointsCoincident a b ∨ k = .pointsCoincident b a

variable {k : ConstraintKind α} {a b c d : EntityId}

theorem Joins.symm (h : k.Joins a b) : k.Joins b a := Or.symm h

theorem Joins.ends (h : k.Joins a b) (other : k.Joins c d) : a = c ∨ b = c := by
  rcases h with rfl | rfl <;> rcases other with same | same <;> cases same <;> simp

end ConstraintKind

namespace Sketch
variable {s t u : Sketch α} {e : Entity α} {g : GroupId} {p a b : EntityId}

def Coincide (s : Sketch α) (g : GroupId) (a b : EntityId) : Prop :=
  ∃ c k, s.constraints.get? c = some k ∧ k.group = g ∧ k.kind.Joins a b

instance (s : Sketch α) (g : GroupId) : Std.Symm (s.Coincide g) where
  symm _ _ := fun ⟨c, k, found, group, joins⟩ => ⟨c, k, found, group, joins.symm⟩

theorem partnerJoins {c : Constraint α} : partner? p c = some a ↔ c.kind.Joins p a := by
  unfold partner? ConstraintKind.Joins
  split
  · rename_i x y kind
    rw [kind]
    simp only [ConstraintKind.pointsCoincident.injEq]
    split
    · rename_i same
      subst same
      simp
      grind
    · split <;> grind
  · rename_i other
    simp only [reduceCtorEq, false_iff, not_or]
    exact ⟨fun same => other _ _ same, fun same => other _ _ same⟩

def through (s : Sketch α) (g : GroupId) (p : EntityId) : List (ConstraintId × EntityId) :=
  s.constraints.toList.filterMap fun c => if c.group = g then (partner? p c).map (c.id, ·) else none

theorem memThrough (h : s.Consistent) {c : ConstraintId} : (c, a) ∈ s.through g p ↔
    ∃ k, s.constraints.get? c = some k ∧ k.group = g ∧ k.kind.Joins p a := by
  rw [through, List.mem_filterMap]
  constructor
  · rintro ⟨k, member, entry⟩
    split at entry
    · rename_i group
      obtain ⟨o, joined, same⟩ := Option.map_eq_some_iff.mp entry
      cases same
      exact ⟨k, h.constraints.getOfMem member, group, partnerJoins.mp joined⟩
    · cases entry
  · rintro ⟨k, found, group, joins⟩
    have named : k.id = c := h.constraints.keyOfGet found
    refine ⟨k, Registry.memOfGet found, ?_⟩
    rw [if_pos group, partnerJoins.mpr joins, named]
    rfl

variable [Scalar α]

theorem Adjustments.has (steps : Adjustments s t) {k : EntityClass} {id : EntityId} : t.Has k id ↔ s.Has k id := by
  unfold Has
  rw [steps.entities]

theorem deletedGet (h : s.Consistent) (ids : List ConstraintId) (c : ConstraintId) :
    (s.deleteConstraints ids).constraints.get? c = if c ∈ ids then none else s.constraints.get? c := by
  induction ids generalizing s with
  | nil => simp [deleteConstraints]
  | cons i rest ih =>
    have first : ((deleteConstraint i).attempt s).constraints.get? c = if c = i then none else s.constraints.get? c := by
      rw [deleteConstraintAttempt]
      cases found : s.constraints.get? i with
      | none =>
        dsimp only
        split
        · rename_i same
          exact same ▸ found
        · rfl
      | some k => exact h.constraints.getRemove i c
    have after : ((deleteConstraint i).attempt s).Consistent := Adjustments.consistent (deleteConstraintGradual i s) h
    refine (ih after).trans ?_
    rw [first]
    simp only [List.mem_cons]
    split <;> split <;> simp_all

section Joining
open Attempt Edit

structure Rejoins (s : Sketch α) (g : GroupId) (plane : Option EntityId) : Prop where
  furnished : s.Furnished
  group : ∃ r, s.groups.get? g = some r
  plane : ∀ w, plane = some w → s.Has .workplane w

variable {plane : Option EntityId}

theorem Rejoins.adjusted (h : s.Rejoins g plane) (steps : Adjustments s t) : t.Rejoins g plane where
  furnished := steps.changes.furnished h.furnished
  group := by
    obtain ⟨r, found⟩ := h.group
    exact (Changes.steady heldLasting steps.changes h.furnished.toConsistent).keepsGroups g r found
  plane w lies := steps.has.mpr (h.plane w lies)

theorem joinValid (h : s.Rejoins g plane) (first : s.Has .point a) (second : s.Has .point b) :
    s.validate g plane (.pointsCoincident a b) = .ok () := by
  obtain ⟨r, found⟩ := h.group
  have fits : s.checkEntities (.pointsCoincident a b) = .ok () := by
    refine slotsPass (fun slot member => ?_) rfl
    simp only [ConstraintKind.slots, List.mem_cons, List.not_mem_nil, or_false] at member
    rcases member with rfl | rfl
    · exact first
    · exact second
  cases plane with
  | none => exact validInSpace found rfl fits fun _ => rfl
  | some w =>
    obtain ⟨e, there, is⟩ := h.plane w rfl
    obtain ⟨x, placed⟩ := planeThere h.furnished.toIntact h.furnished.grounded there is
    refine Result.bindOk.mpr ⟨r, by rw [groupFound.mpr found]; rfl, ?_⟩
    refine Result.bindOk.mpr ⟨(), expectOk.mpr ⟨e, there, is⟩, ?_⟩
    refine Result.bindOk.mpr ⟨(), fits, ?_⟩
    have set : ∃ d, Setting.of s ⟨⟨0⟩, g, some w, .pointsCoincident a b, true⟩ = .ok d :=
      ⟨_, Result.bindOk.mpr ⟨x, Setting.liftedOk placed, rfl⟩⟩
    obtain ⟨d, set⟩ := set
    exact Result.bindOk.mpr ⟨d, set, rfl⟩

omit [Scalar α] in
def joined (s : Sketch α) (g : GroupId) (plane : Option EntityId) (a b : EntityId) : Sketch α :=
  Sketch.markDirty { s with
    nextConstraint := s.nextConstraint + 1
    constraints := s.constraints.add ⟨⟨s.nextConstraint⟩, g, plane, .pointsCoincident a b, false⟩ } g

theorem plainEntered (h : s.constraints.Consistent) {kind : ConstraintKind α} (plain : kind.helperCount plane = 0)
    (valid : s.validate g plane kind = .ok ()) : addConstraint g plane kind false s = (.ok ⟨s.nextConstraint⟩,
      Sketch.markDirty { s with
        nextConstraint := s.nextConstraint + 1
        constraints := s.constraints.add ⟨⟨s.nextConstraint⟩, g, plane, kind, false⟩ } g) := by
  obtain ⟨r, found, _⟩ := Result.bindOk.mp valid
  have found : s.group g = .ok r := by
    cases there : s.group g with
    | error e =>
      rw [there] at found
      cases found
    | ok r' =>
      rw [there] at found
      cases found
      rfl
  let c : Constraint α := ⟨⟨s.nextConstraint⟩, g, plane, kind, false⟩
  have there : (s.constraints.add c).get? c.id = some c := h.getAddSelf c
  have none : Constraint.helpers (⟨⟨s.nextConstraint⟩, g, plane, kind, false⟩ : Constraint α) = [] := by
    rw [Constraint.helpers, plain]
    rfl
  refine bindOk.mpr ⟨r, s, readOk.mpr ⟨found, rfl⟩, ?_⟩
  refine bindOk.mpr ⟨(), s, readOk.mpr ⟨valid, rfl⟩, ?_⟩
  rw [getBind]
  dsimp only
  rw [none]
  refine bindOk.mpr ⟨(), _, modifyOk.mpr rfl, ?_⟩
  refine bindOk.mpr ⟨(), _, tryOfOk ?_, rfl⟩
  refine bindOk.mpr ⟨c, _, readOk.mpr ⟨constraintFound.mpr there, rfl⟩, ?_⟩
  rw [none]
  rfl

theorem joinEntered (h : s.constraints.Consistent) (valid : s.validate g plane (.pointsCoincident a b) = .ok ()) :
    addConstraint g plane (.pointsCoincident a b) false s = (.ok ⟨s.nextConstraint⟩, s.joined g plane a b) :=
  plainEntered h rfl valid

theorem addRefused {kind : ConstraintKind α} {reference : Bool} (refused : s.validate g plane kind ≠ .ok ()) :
    (addConstraint g plane kind reference).attempt s = s := by
  unfold addConstraint Edit.attempt
  rw [runBind, runRead]
  cases s.group g with
  | error e => rfl
  | ok r =>
    dsimp only
    rw [runBind, runRead]
    cases valid : s.validate g plane kind with
    | error e => rfl
    | ok _ => exact absurd valid refused

theorem addedValid {kind : ConstraintKind α} {reference : Bool} {i : ConstraintId}
    (ok : addConstraint g plane kind reference s = (.ok i, t)) : s.validate g plane kind = .ok () := by
  obtain ⟨_, _, registered, checked⟩ := bindOk.mp ok
  obtain ⟨_, _, valid, _⟩ := bindOk.mp checked
  obtain ⟨_, rfl⟩ := readOk.mp registered
  exact (readOk.mp valid).1

theorem joinRun (h : s.Rejoins g plane) (first : s.Has .point a) (second : s.Has .point b) :
    addConstraint g plane (.pointsCoincident a b) false s = (.ok ⟨s.nextConstraint⟩, s.joined g plane a b) :=
  joinEntered h.furnished.constraints (joinValid h first second)

theorem validJoin (valid : s.validate g plane (.pointsCoincident a b) = .ok ()) : s.Has .point a ∧ s.Has .point b := by
  have names := (validNames valid).2
  exact ⟨names (.point, a) (by simp [ConstraintKind.slots]), names (.point, b) (by simp [ConstraintKind.slots])⟩

theorem joinRefused (missing : ¬ (s.Has .point a ∧ s.Has .point b)) :
    (addConstraint g plane (.pointsCoincident a b) false).attempt s = s :=
  addRefused fun valid => missing (validJoin valid)

structure Joined (g : GroupId) (pairs : List (EntityId × EntityId)) (s t : Sketch α) : Prop where
  kept : ∀ c k, s.constraints.get? c = some k → t.constraints.get? c = some k
  added : ∀ c k, t.constraints.get? c = some k → s.constraints.get? c = some k ∨
    ∃ pair ∈ pairs, k.kind = .pointsCoincident pair.1 pair.2
  all : ∀ pair ∈ pairs, t.Coincide g pair.1 pair.2

omit [Scalar α] in
theorem Joined.trans {first next : List (EntityId × EntityId)} (early : Joined g first s t) (late : Joined g next t u) :
    Joined g (first ++ next) s u where
  kept c k found := late.kept c k (early.kept c k found)
  added c k found := by
    rcases late.added c k found with before | ⟨pair, member, kind⟩
    · rcases early.added c k before with there | ⟨pair, member, kind⟩
      · exact .inl there
      · exact .inr ⟨pair, List.mem_append_left _ member, kind⟩
    · exact .inr ⟨pair, List.mem_append_right _ member, kind⟩
  all pair member := by
    rcases List.mem_append.mp member with inside | inside
    · obtain ⟨c, k, found, joins⟩ := early.all pair inside
      exact ⟨c, k, late.kept c k found, joins⟩
    · exact late.all pair inside

theorem joinOne (h : s.Rejoins g plane) (first : s.Has .point a) (second : s.Has .point b) :
    Joined g [(a, b)] s ((addConstraint g plane (.pointsCoincident a b)).attempt s) := by
  let c : Constraint α := ⟨⟨s.nextConstraint⟩, g, plane, .pointsCoincident a b, false⟩
  have after : ((addConstraint g plane (.pointsCoincident a b)).attempt s).constraints = s.constraints.add c := by
    rw [Edit.attempt, joinRun h first second]
    rfl
  have get (i : ConstraintId) : ((addConstraint g plane (.pointsCoincident a b)).attempt s).constraints.get? i =
      if c.id = i then some c else s.constraints.get? i := by
    rw [after]
    exact h.furnished.constraints.getAdd c i
  refine ⟨fun i k found => ?_, fun i k found => ?_, ?_⟩
  · rw [get, if_neg]
    · exact found
    · rintro rfl
      cases h.furnished.fresh.symm.trans found
  · rw [get] at found
    split at found
    · cases found
      exact .inr ⟨(a, b), List.mem_singleton_self _, rfl⟩
    · exact .inl found
  · intro pair member
    obtain rfl := List.mem_singleton.mp member
    exact ⟨c.id, c, (get c.id).trans (if_pos rfl), rfl, .inl rfl⟩

theorem rejoinAll (h : s.Rejoins g plane) {pairs : List (EntityId × EntityId)}
    (points : ∀ pair ∈ pairs, s.Has .point pair.1 ∧ s.Has .point pair.2) :
    Joined g pairs s (pairs.foldl (fun s (a, b) => (addConstraint g plane (.pointsCoincident a b)).attempt s) s) := by
  induction pairs generalizing s with
  | nil => exact ⟨fun _ _ found => found, fun _ _ found => .inl found, fun _ member => nomatch member⟩
  | cons pair rest ih =>
    obtain ⟨first, second⟩ := points pair List.mem_cons_self
    have step : Adjustments s ((addConstraint g plane (.pointsCoincident pair.1 pair.2)).attempt s) :=
      addConstraintGradual g plane (.pointsCoincident pair.1 pair.2) false s
    refine Joined.trans (joinOne h first second) (ih (h.adjusted step) fun other member => ?_)
    obtain ⟨left, right⟩ := points other (List.mem_cons_of_mem _ member)
    exact ⟨step.has.mpr left, step.has.mpr right⟩

theorem rejoinNone {pairs : List (EntityId × EntityId)}
    (missing : ∀ pair ∈ pairs, ¬ (s.Has .point pair.1 ∧ s.Has .point pair.2)) :
    pairs.foldl (fun s (a, b) => (addConstraint g plane (.pointsCoincident a b)).attempt s) s = s := by
  induction pairs with
  | nil => rfl
  | cons pair rest ih =>
    have refused : (addConstraint g plane (.pointsCoincident pair.1 pair.2)).attempt s = s :=
      joinRefused (missing pair List.mem_cons_self)
    rw [List.foldl_cons]
    dsimp only
    rw [refused]
    exact ih fun other member => missing other (List.mem_cons_of_mem _ member)

end Joining

def freed (s : Sketch α) (g : GroupId) (p : EntityId) : Sketch α := s.deleteConstraints ((s.through g p).map Prod.fst)

def string (s : Sketch α) (g : GroupId) (p : EntityId) : List (EntityId × EntityId) :=
  let others := (s.through g p).map Prod.snd
  others.zip (others.drop 1)

theorem detachRun (found : s.entities.get? p = some e) : s.detachPoint p = (s.string e.group p).foldl (fun s (a, b) =>
    (addConstraint e.group e.workplane (.pointsCoincident a b)).attempt s) (s.freed e.group p) := by
  unfold detachPoint
  rw [found]
  rfl

theorem freedGet (h : s.Consistent) {c : ConstraintId} {k : Constraint α} : (s.freed g p).constraints.get? c = some k ↔
    s.constraints.get? c = some k ∧ ¬ (k.group = g ∧ ∃ o, k.kind.Joins p o) := by
  have doomed : c ∈ (s.through g p).map Prod.fst ↔
      ∃ k, s.constraints.get? c = some k ∧ k.group = g ∧ ∃ o, k.kind.Joins p o := by
    simp only [List.mem_map, Prod.exists, exists_and_right, exists_eq_right, memThrough h]
    constructor
    · rintro ⟨o, k, found, group, joins⟩
      exact ⟨k, found, group, o, joins⟩
    · rintro ⟨k, found, group, o, joins⟩
      exact ⟨o, k, found, group, joins⟩
  rw [freed, deletedGet h]
  split
  · rename_i member
    obtain ⟨k', found, through⟩ := doomed.mp member
    refine ⟨nofun, fun ⟨there, other⟩ => ?_⟩
    cases found.symm.trans there
    exact absurd through other
  · rename_i other
    exact ⟨fun found => ⟨found, fun through => other (doomed.mpr ⟨k, found, through⟩)⟩, And.left⟩

theorem freedCoincide (h : s.Consistent) : (s.freed g p).Coincide g a b ↔ s.Coincide g a b ∧ a ≠ p ∧ b ≠ p := by
  constructor
  · rintro ⟨c, k, now, group, joins⟩
    obtain ⟨found, other⟩ := (freedGet h).mp now
    refine ⟨⟨c, k, found, group, joins⟩, ?_, ?_⟩
    · rintro rfl
      exact other ⟨group, b, joins⟩
    · rintro rfl
      exact other ⟨group, a, joins.symm⟩
  · rintro ⟨⟨c, k, found, group, joins⟩, left, right⟩
    refine ⟨c, k, (freedGet h).mpr ⟨found, fun ⟨_, o, through⟩ => ?_⟩, group, joins⟩
    rcases joins.ends through with same | same
    · exact left same
    · exact right same

structure Detachable (s : Sketch α) (p : EntityId) (e : Entity α) : Prop extends s.Rejoins e.group e.workplane where
  found : s.entities.get? p = some e
  around : ∀ o, s.Coincide e.group p o → s.Has .point o

theorem detachJoins (h : s.Detachable p e) : Joined e.group (s.string e.group p) (s.freed e.group p) (s.detachPoint p) := by
  rw [detachRun h.found]
  have steps : Adjustments s (s.freed e.group p) := deleteConstraintsGradual _ s
  have points : ∀ o ∈ (s.through e.group p).map Prod.snd, (s.freed e.group p).Has .point o := by
    intro o member
    obtain ⟨⟨c, _⟩, inside, rfl⟩ := List.mem_map.mp member
    obtain ⟨k, found, group, joins⟩ := (memThrough h.furnished.toConsistent).mp inside
    exact steps.has.mpr (h.around _ ⟨c, k, found, group, joins⟩)
  refine rejoinAll (h.toRejoins.adjusted steps) fun (a, b) pair => ?_
  obtain ⟨left, right⟩ := List.of_mem_zip pair
  exact ⟨points a left, points b (List.mem_of_mem_drop right)⟩

theorem detachBypasses (h : s.Detachable p e) (apart : ¬ s.Coincide e.group p p) :
    Bypass (s.Coincide e.group) ((s.detachPoint p).Coincide e.group) p ((s.through e.group p).map Prod.snd) := by
  have consistent := h.furnished.toConsistent
  have star (o : EntityId) : s.Coincide e.group p o ↔ o ∈ (s.through e.group p).map Prod.snd := by
    simp only [List.mem_map, Prod.exists, exists_eq_right, memThrough consistent]
    exact Iff.rfl
  have joined := detachJoins h
  refine ⟨star, fun member => apart ((star p).mpr member), fun a b => ⟨?_, ?_⟩⟩
  · rintro ⟨c, k, now, group, joins⟩
    rcases joined.added c k now with before | ⟨pair, member, kind⟩
    · exact .inl ((freedCoincide consistent).mp ⟨c, k, before, group, joins⟩)
    · rcases joins with same | same <;> cases kind.symm.trans same
      · exact .inr (.inl member)
      · exact .inr (.inr member)
  · rintro (old | pair | pair)
    · obtain ⟨c, k, found, group, joins⟩ := (freedCoincide consistent).mpr old
      exact ⟨c, k, joined.kept c k found, group, joins⟩
    · exact joined.all _ pair
    · exact Std.Symm.symm _ _ (joined.all _ pair)

/-- In a group nothing is joined to a point any more, all else is connected as before, and no other constraint has
changed. -/
structure TakenOut (g : GroupId) (p : EntityId) (s t : Sketch α) : Prop where
  free : ∀ o, ¬ t.Coincide g p o
  connected : ∀ a b, a ≠ p → b ≠ p → (ReflTransGen (t.Coincide g) a b ↔ ReflTransGen (s.Coincide g) a b)
  kept : ∀ c k, s.constraints.get? c = some k → ¬ (k.group = g ∧ ∃ o, k.kind.Joins p o) →
    t.constraints.get? c = some k

theorem takenOut (h : s.Detachable p e) (apart : ¬ s.Coincide e.group p p) : TakenOut e.group p s (s.detachPoint p) where
  free o := (detachBypasses h apart).leaves o
  connected _ _ other other' := (detachBypasses h apart).connects other other'
  kept c k found other := (detachJoins h).kept c k ((freedGet h.furnished.toConsistent).mpr ⟨found, other⟩)

end Sketch

namespace Session
open Sketch

section Curve

def bent : Request := ⟨⟨1⟩, ⟨1⟩, none, .cubic, false⟩

structure Linked (s : Sketch Float) (joins : List (EntityId × EntityId)) : Prop where
  curve : s.requests.get? bent.id = some bent
  constraints : s.constraints.toList =
    joins.zipIdx.map fun (pair, n) => ⟨⟨n + 1⟩, ⟨1⟩, none, .pointsCoincident pair.1 pair.2, false⟩
  next : s.nextConstraint = joins.length + 1

variable {s : Sketch Float} {joins : List (EntityId × EntityId)} {a b : EntityId}

theorem Linked.coincide (known : Linked s joins) (h : s.Consistent) :
    s.Coincide ⟨1⟩ a b ↔ (a, b) ∈ joins ∨ (b, a) ∈ joins := by
  have listed (pair : EntityId × EntityId) : pair ∈ joins ↔ ∃ k ∈ s.constraints.toList, k.group = ⟨1⟩ ∧
      k.kind = .pointsCoincident pair.1 pair.2 := by
    rw [known.constraints]
    constructor
    · intro member
      obtain ⟨n, bound, rfl⟩ := List.getElem_of_mem member
      refine ⟨_, List.mem_map.mpr ⟨(joins[n], n), ?_, rfl⟩, rfl, rfl⟩
      exact List.mk_mem_zipIdx_iff_getElem?.mpr (List.getElem?_eq_getElem bound)
    · rintro ⟨k, member, -, kind⟩
      obtain ⟨⟨other, n⟩, place, rfl⟩ := List.mem_map.mp member
      obtain ⟨left, right⟩ := ConstraintKind.pointsCoincident.inj kind
      exact Prod.ext left right ▸ List.fst_mem_of_mem_zipIdx place
  rw [listed (a, b), listed (b, a)]
  constructor
  · rintro ⟨c, k, found, group, same | same⟩
    · exact .inl ⟨k, Registry.memOfGet found, group, same⟩
    · exact .inr ⟨k, Registry.memOfGet found, group, same⟩
  · rintro (⟨k, member, group, same⟩ | ⟨k, member, group, same⟩)
    · exact ⟨k.id, k, h.constraints.getOfMem member, group, .inl same⟩
    · exact ⟨k.id, k, h.constraints.getOfMem member, group, .inr same⟩

theorem Linked.point (known : Linked s joins) (h : s.Intact) {n : Nat} (few : n < 4) : ∃ e,
    s.entities.get? (bent.point n) = some e ∧ e.isA .point = true ∧ e.group = ⟨1⟩ ∧ e.workplane = none := by
  obtain ⟨e, part, named, is⟩ := Sketch.Request.pointThere (α := Float) bent n few
  have drawn := Request.drawn part
  exact ⟨e, named ▸ h.present _ bent known.curve e part, is, drawn.group, drawn.workplane⟩

theorem Linked.hasPoint (known : Linked s joins) (h : s.Intact) {n : Nat} (few : n < 4) : s.Has .point (bent.point n) := by
  obtain ⟨e, found, is, _⟩ := known.point h few
  exact ⟨e, found, is⟩

theorem Linked.rejoins (known : Linked s joins) (h : s.Furnished) : s.Rejoins ⟨1⟩ none where
  furnished := h
  group := h.requestGroups _ bent known.curve
  plane _ none := nomatch none

theorem Linked.noPoint (known : Linked s joins) (h : s.Intact) :
    (∃ e, s.entities.get? bent.entity = some e) ∧ ¬ s.Has .point bent.entity := by
  let curve : Entity Float := bent.part bent.entity (.cubic (bent.point 0) (bent.point 1) (bent.point 2) (bent.point 3))
  have whole : s.entities.get? bent.entity = some curve :=
    h.present _ bent known.curve curve (by simp [Request.entities, bent, curve])
  refine ⟨⟨curve, whole⟩, ?_⟩
  rintro ⟨e, there, is⟩
  cases whole.symm.trans there
  cases is

def ends (links : List (Fin 4 × Fin 4)) : List (EntityId × EntityId) := links.map fun (i, j) => (bent.point i, bent.point j)

theorem linkedReached (links : List (Fin 4 × Fin 4)) :
    ∃ t : Session Float, Reached .standard t ∧ Linked t.sketch (ends links) := by
  induction links using List.reverseRecOn with
  | nil =>
    have drawing : oneDrawing.groups.get? ⟨1⟩ = some drawingGroup := by
      rw [oneDrawingGroups]
      exact Sketch.startIntact.groups.getAddSelf drawingGroup
    have allowed : oneDrawing.checkRequest ⟨1⟩ .cubic none = .ok () :=
      Result.bindOk.mpr ⟨_, groupFound.mpr drawing, rfl⟩
    obtain ⟨u, drawn, requests, constraints, next⟩ : ∃ u : Sketch Float,
        addRequest ⟨1⟩ .cubic none false oneDrawing = (.ok ⟨1⟩, u) ∧ u.requests = oneDrawing.requests.add bent ∧
          u.constraints = {} ∧ u.nextConstraint = 1 := by
      refine ⟨_, addRequestRun allowed false, ?_⟩
      dsimp only
      rw [enterRequestRecords]
      exact ⟨rfl, rfl, rfl⟩
    refine ⟨_, oneDrawingFitted.reached.edited (c := .addRequest ⟨1⟩ .cubic none false) rfl drawn, ?_⟩
    change Linked u []
    refine ⟨?_, by rw [constraints]; rfl, next⟩
    rw [requests]
    exact (Sketch.startIntact (α := Float)).requests.getAddSelf bent
  | append_singleton links link ih =>
    obtain ⟨s, reached, known⟩ := ih
    have furnished := (reachedFurnished reached).1
    have run := joinRun (known.rejoins furnished) (known.hasPoint furnished.toIntact link.1.isLt)
      (known.hasPoint furnished.toIntact link.2.isLt)
    let kind : ConstraintKind Float := .pointsCoincident (bent.point link.1) (bent.point link.2)
    have more : ends (links ++ [link]) = ends links ++ [(bent.point link.1, bent.point link.2)] := List.map_append
    refine ⟨_, reached.edited (c := .addConstraint ⟨1⟩ none kind false) rfl run, ?_⟩
    refine ⟨known.curve, ?_, ?_⟩
    · have absent := furnished.constraints.getNone.mp furnished.fresh
      refine ((furnished.constraints.toListAdd _).trans (if_neg absent)).trans ?_
      rw [known.constraints, known.next, more, List.zipIdx_append, List.map_append, Nat.zero_add]
      rfl
    · change s.sketch.nextConstraint + 1 = _
      rw [known.next, more, List.length_append]
      rfl

theorem Linked.replaced (known : Linked s joins) (old new : EntityId) : Linked (s.replacePoint old new).2
    (joins.map fun (a, b) => (if a = old then new else a, if b = old then new else b)) := by
  have marked {t : Sketch Float} {joins : List (EntityId × EntityId)} (known : Linked t joins) (ids : List GroupId) :
      Linked (ids.foldl markDirty t) joins := by
    induction ids generalizing t with
    | nil => exact known
    | cons g rest ih => exact ih (t := t.markDirty g) ⟨known.curve, known.constraints, known.next⟩
  let t := { s with constraints := s.constraints.map fun c =>
    { c with kind := c.kind.mapPoints fun p => if p = old then new else p } }
  have moved : Linked t (joins.map fun (a, b) => (if a = old then new else a, if b = old then new else b)) := by
    refine ⟨known.curve, ?_, ?_⟩
    · rw [Registry.toListMap, known.constraints, List.map_map, List.zipIdx_map, List.map_map]
      rfl
    · rw [List.length_map]
      exact known.next
  exact marked moved _

end Curve

theorem detachKeepsTogether [Scalar α] {config : EngineConfig α} {s : Session α} (h : Reached config s) {p : EntityId}
    {e : Entity α} (found : s.sketch.entities.get? p = some e)
    (plane : ∀ w, e.workplane = some w → ∃ e', s.sketch.entities.get? w = some e')
    (around : ∀ o, s.sketch.Coincide e.group p o → s.sketch.Has .point o) (apart : ¬ s.sketch.Coincide e.group p p) :
    TakenOut e.group p s.sketch (s.sketch.detachPoint p) := by
  have furnished := (reachedFurnished h).1
  refine Sketch.takenOut { furnished, found, around, group := furnished.owner found, plane := fun w lies => ?_ } apart
  obtain ⟨e', there⟩ := plane w lies
  exact ⟨e', there, liesInPlane h found lies there⟩

theorem stringKeepsTogether : ∃ (s : Session Float) (p : EntityId) (e : Entity Float), Reached .standard s ∧
    s.sketch.entities.get? p = some e ∧ (∃ a b, a ≠ b ∧ s.sketch.Coincide e.group p a ∧ s.sketch.Coincide e.group b p) ∧
      TakenOut e.group p s.sketch (s.sketch.detachPoint p) := by
  obtain ⟨s, reached, known⟩ := linkedReached [(0, 1), (2, 0)]
  have intact := (reachedIntact reached).sketch
  have coincide {a b : EntityId} := known.coincide (a := a) (b := b) intact.toConsistent
  obtain ⟨e, found, _, group, space⟩ := known.point intact (n := 0) (by decide)
  refine ⟨s, bent.point 0, e, reached, found, ⟨bent.point 1, bent.point 2, by decide, ?_, ?_⟩, ?_⟩
  · rw [group, coincide]
    decide
  · rw [group, coincide]
    decide
  · refine detachKeepsTogether reached found (fun w lies => nomatch space.symm.trans lies) (fun o joined => ?_) ?_
    · rw [group, coincide] at joined
      simp only [ends, List.map_cons, List.map_nil, List.mem_cons, List.not_mem_nil, or_false, Prod.mk.injEq] at joined
      rcases joined with (⟨-, rfl⟩ | ⟨-, rfl⟩) | ⟨rfl, -⟩ | ⟨rfl, -⟩
      · exact known.hasPoint intact (n := 1) (by decide)
      · exact known.hasPoint intact (n := 0) (by decide)
      · exact known.hasPoint intact (n := 0) (by decide)
      · exact known.hasPoint intact (n := 2) (by decide)
    · rw [group, coincide]
      decide

theorem otherSortParts : ∃ (s : Session Float) (p : EntityId) (e : Entity Float) (a b : EntityId), Reached .standard s ∧
    s.sketch.entities.get? p = some e ∧ e.isA .point = true ∧ e.workplane = none ∧
    (∀ o, s.sketch.Coincide e.group p o → ∃ e', s.sketch.entities.get? o = some e') ∧
    ¬ s.sketch.Coincide e.group p p ∧ s.sketch.Has .point a ∧ s.sketch.Has .point b ∧ a ≠ p ∧ b ≠ p ∧
    ReflTransGen (s.sketch.Coincide e.group) a b ∧
    ¬ ReflTransGen ((s.sketch.detachPoint p).Coincide e.group) a b := by
  obtain ⟨s, reached, joined⟩ := linkedReached [(0, 1), (0, 3), (0, 2)]
  let t := (s.sketch.replacePoint (bent.point 3) bent.entity).2
  have reached : Reached .standard (s.withSketch t) := by
    have done : perform id (.replacePoint (bent.point 3) bent.entity) s = (.ok (.count _), s.withSketch t) := rfl
    exact .step reached done
  have known : Linked t [(bent.point 0, bent.point 1), (bent.point 0, bent.entity), (bent.point 0, bent.point 2)] :=
    joined.replaced (bent.point 3) bent.entity
  have intact : t.Intact := (reachedIntact reached).sketch
  have coincide {a b : EntityId} := known.coincide (a := a) (b := b) intact.toConsistent
  obtain ⟨e, found, is, group, space⟩ := known.point intact (n := 0) (by decide)
  obtain ⟨⟨curve, whole⟩, noPoint⟩ := known.noPoint intact
  -- Nothing is left of the coincidences.
  have around : t.through ⟨1⟩ (bent.point 0) = [(⟨1⟩, bent.point 1), (⟨2⟩, bent.entity), (⟨3⟩, bent.point 2)] := by
    rw [through, known.constraints]
    rfl
  have pairs : t.string ⟨1⟩ (bent.point 0) = [(bent.point 1, bent.entity), (bent.entity, bent.point 2)] := by
    rw [string, around]
    rfl
  have steps : Adjustments t (t.freed ⟨1⟩ (bent.point 0)) := deleteConstraintsGradual _ t
  have alone : t.detachPoint (bent.point 0) = t.freed ⟨1⟩ (bent.point 0) := by
    rw [detachRun found, group, pairs]
    refine rejoinNone fun pair member => ?_
    simp only [List.mem_cons, List.not_mem_nil, or_false] at member
    rcases member with rfl | rfl
    · exact fun both => noPoint (steps.has.mp both.2)
    · exact fun both => noPoint (steps.has.mp both.1)
  have none (a b : EntityId) : ¬ (t.detachPoint (bent.point 0)).Coincide ⟨1⟩ a b := by
    rw [alone, freedCoincide intact.toConsistent, coincide]
    rintro ⟨joined, left, right⟩
    simp [left, right] at joined
  refine ⟨s.withSketch t, bent.point 0, e, bent.point 1, bent.point 2, reached, found, is, space, ?_⟩
  have left : t.Coincide ⟨1⟩ (bent.point 1) (bent.point 0) := coincide.mpr (by decide)
  have right : t.Coincide ⟨1⟩ (bent.point 0) (bent.point 2) := coincide.mpr (by decide)
  rw [group]
  refine ⟨fun o joined => ?_, fun joined => absurd (coincide.mp joined) (by decide), known.hasPoint intact (by decide),
    known.hasPoint intact (by decide), by decide, by decide, .head left (.single right), fun chain => ?_⟩
  · obtain ⟨c, k, there, ours, joins⟩ := joined
    have member := (memThrough intact.toConsistent).mpr ⟨k, there, ours, joins⟩
    simp only [around, List.mem_cons, List.not_mem_nil, or_false, Prod.mk.injEq] at member
    obtain ⟨first, firstThere, _⟩ := known.hasPoint intact (n := 1) (by decide)
    obtain ⟨last, lastThere, _⟩ := known.hasPoint intact (n := 2) (by decide)
    rcases member with ⟨_, rfl⟩ | ⟨_, rfl⟩ | ⟨_, rfl⟩
    · exact ⟨first, firstThere⟩
    · exact ⟨curve, whole⟩
    · exact ⟨last, lastThere⟩
  · rcases chain.cases_head with same | ⟨_, step, _⟩
    · exact absurd same (by decide)
    · exact none _ _ step

end Session
end Drafting
