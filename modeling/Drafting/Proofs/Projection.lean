import Mathlib
import Drafting.Curve.Bezier
import Drafting.Proofs.Comparing
import Drafting.Proofs.Exact
/-! The search for a near point of a curve. A step is only taken to a parameter that is nearer, and only to one that was
kept within the curve, so neither matters what the derivatives are that the steps come from. -/
namespace Drafting

/-- Evenly spaced parameters begin at zero and are those of a curve. -/
class LawfulSpacing (α : Type) [Scalar α] : Prop where
  first : Arith.ofNat 0 / Arith.ofNat Bezier.sampleCount = (0.0 : α)
  within : ∀ i ≤ Bezier.sampleCount, (0.0 : α) ≤ Arith.ofNat i / Arith.ofNat Bezier.sampleCount ∧
    (Arith.ofNat i / Arith.ofNat Bezier.sampleCount : α) ≤ 1.0

instance : LawfulSpacing ℝ where
  first := by
    change ((0 : ℕ) : ℝ) / (64 : ℕ) = 0.0
    rw [Nat.cast_zero, zero_div, exactZero]
  within i few := by
    change (0.0 : ℝ) ≤ (i : ℝ) / (64 : ℕ) ∧ (i : ℝ) / (64 : ℕ) ≤ 1.0
    have most : (i : ℝ) ≤ (64 : ℕ) := Nat.cast_le.mpr few
    have some : (0 : ℝ) < (64 : ℕ) := Nat.cast_pos.mpr (by decide)
    rw [exactZero, exactOne, div_le_one some]
    exact ⟨div_nonneg (Nat.cast_nonneg i) some.le, most⟩

instance : LawfulSpacing Float where
  first := rfl
  within i few := by
    have each : ∀ i : Fin 65, (0.0 : Float) ≤ Arith.ofNat i / Arith.ofNat Bezier.sampleCount ∧
      (Arith.ofNat i / Arith.ofNat Bezier.sampleCount : Float) ≤ 1.0 := by decide +kernel
    exact each ⟨i, Nat.lt_succ_of_le few⟩

variable [Scalar α]

section Reckoning
variable [LawfulReckoning α]

theorem Vec3.definedDistance {p q : Vec3 α} (defined : Defined (p.distanceSquared q)) : Defined p.x :=
  (LawfulReckoning.ofSub (LawfulReckoning.ofMul (LawfulReckoning.ofAdd (LawfulReckoning.ofAdd defined).1).1).1).1

theorem Homogeneous.reduceDefined {t : α} (a b : Homogeneous α) (rest : List (Homogeneous α))
    (defined : Defined (reduce t a (b :: rest)).point.x) : Defined t := by
  match rest with
  | [] =>
    rw [reduce, mixRow, reduce] at defined
    exact (LawfulReckoning.ofMul (LawfulReckoning.ofAdd defined).2).2
  | c :: rest =>
    rw [reduce, mixRow] at defined
    exact reduceDefined _ _ _ defined
termination_by rest.length
decreasing_by simp

end Reckoning

namespace Bezier

abbrev reach (c : Bezier α) (p : Vec3 α) (t : α) : α := (c.pointAt t).distanceSquared p

def halved : Nat → α → α
  | 0, step => step
  | n + 1, step => halved n (step * 0.5)

structure Nearer (c : Bezier α) (p : Vec3 α) (t next : α) : Prop where
  tried : ∃ step, ∃ n < 30, next = Arith.clamp (t - halved n step) 0.0 1.0
  nearer : c.reach p next < c.reach p t

/-- A search that has ended: within the curve, after few steps each of which came nearer, and so not farther away. -/
structure Approach (c : Bezier α) (p : Vec3 α) (t r : α) : Prop where
  low : 0.0 ≤ r
  high : r ≤ 1.0
  least : c.reach p r ≤ c.reach p t
  path : ∃ path : List α, path.length ≤ 24 ∧ (t :: path).IsChain (c.Nearer p) ∧ r = path.getLastD t

variable {c : Bezier α} {p : Vec3 α} {t best step next distance r : α}

theorem halveNearer {tries : Nat} (found : c.halve p t best tries step = some (next, distance)) :
    (∃ n < tries, next = Arith.clamp (t - halved n step) 0.0 1.0) ∧ distance = c.reach p next ∧ distance < best := by
  induction tries generalizing step with
  | zero => cases found
  | succ tries ih =>
    rw [halve] at found
    split at found
    · rename_i less
      cases found
      exact ⟨⟨0, Nat.succ_pos tries, rfl⟩, rfl, less⟩
    · obtain ⟨⟨n, few, clamped⟩, last⟩ := ih found
      exact ⟨⟨n + 1, Nat.succ_lt_succ few, clamped⟩, last⟩

def stride (c : Bezier α) (p : Vec3 α) (t : α) : α :=
  let d := c.tangentAt t
  let offset := c.pointAt t - p
  let hessian := d.lengthSquared + offset.dot (c.bendAt t)
  offset.dot d / (if 0.0 < hessian then hessian else d.lengthSquared)

theorem descendNext (c : Bezier α) (p : Vec3 α) (steps : Nat) (t best : α) : c.descend p (steps + 1) t best =
    if (c.tangentAt t).lengthSquared < 1e-30 then t
    else if Arith.abs (c.stride p t) < 1e-14 then t
    else match c.halve p t best 30 (c.stride p t) with
      | some (next, distance) => c.descend p steps next distance
      | none => t := rfl

theorem descendPath (c : Bezier α) (p : Vec3 α) (steps : Nat) (t : α) : ∃ path : List α, path.length ≤ steps ∧
    (t :: path).IsChain (c.Nearer p) ∧ c.descend p steps t (c.reach p t) = path.getLastD t := by
  have ends (steps : Nat) (t : α) : ∃ path : List α, path.length ≤ steps ∧ (t :: path).IsChain (c.Nearer p) ∧
    t = path.getLastD t := ⟨[], Nat.zero_le steps, .singleton t, rfl⟩
  induction steps generalizing t with
  | zero => exact ends 0 t
  | succ steps ih =>
    rw [descendNext]
    split
    · exact ends _ t
    split
    · exact ends _ t
    split
    · rename_i next distance found
      obtain ⟨⟨n, few, clamped⟩, rfl, less⟩ := halveNearer found
      obtain ⟨path, short, chain, last⟩ := ih next
      refine ⟨next :: path, Nat.succ_le_succ short, List.isChain_cons_cons.mpr ⟨⟨⟨_, n, few, clamped⟩, less⟩, chain⟩, ?_⟩
      rw [last, List.getLastD_cons]
    · exact ends _ t

section Search
variable [LawfulComparison α] [LawfulReckoning α]

omit [LawfulComparison α] in
theorem reachDefined (moves : c.rest ≠ []) (defined : Defined (c.reach p t)) : Defined t := by
  obtain ⟨first, rest⟩ := c
  obtain ⟨k, ks, rfl⟩ := List.exists_cons_of_ne_nil moves
  exact Homogeneous.reduceDefined _ _ _ (LawfulReckoning.ofDiv (Vec3.definedDistance defined)).1

omit [LawfulReckoning α] in
theorem Nearer.moves (nearer : c.Nearer p t next) : c.rest ≠ [] := by
  intro single
  have same : c.reach p next = c.reach p t := by
    simp only [reach, pointAt, single, List.map_nil, Homogeneous.reduce]
  exact LawfulComparison.irrefl _ (same ▸ nearer.nearer)

theorem Nearer.within (nearer : c.Nearer p t next) (wide : (0.0 : α) ≤ 1.0) : 0.0 ≤ next ∧ next ≤ 1.0 := by
  have defined : Defined next :=
    reachDefined nearer.moves (LawfulComparison.compared (LawfulComparison.least nearer.nearer)).1
  obtain ⟨step, n, _, rfl⟩ := nearer.tried
  exact clampBetween defined wide

theorem chainWithin {path : List α} (chain : (t :: path).IsChain (c.Nearer p)) (low : 0.0 ≤ t) (high : t ≤ 1.0)
    (defined : Defined (c.reach p t)) :
    0.0 ≤ path.getLastD t ∧ path.getLastD t ≤ 1.0 ∧ c.reach p (path.getLastD t) ≤ c.reach p t := by
  induction path generalizing t with
  | nil => exact ⟨low, high, atMostSelf defined⟩
  | cons next path ih =>
    obtain ⟨nearer, onward⟩ := List.isChain_cons_cons.mp chain
    obtain ⟨above, below⟩ := nearer.within (LawfulComparison.trans low high)
    have less := LawfulComparison.least nearer.nearer
    rw [List.getLastD_cons]
    obtain ⟨first, last, least⟩ := ih onward above below (LawfulComparison.compared less).1
    exact ⟨first, last, LawfulComparison.trans least less⟩

theorem projectFromApproach (low : 0.0 ≤ t) (high : t ≤ 1.0) (defined : Defined (c.reach p t)) :
    c.Approach p t (c.projectFrom p t) := by
  obtain ⟨path, short, chain, last⟩ := c.descendPath p 24 t
  have ends : c.projectFrom p t = path.getLastD t := last
  obtain ⟨first, final, least⟩ := chainWithin chain low high defined
  rw [ends]
  exact ⟨first, final, least, path, short, chain, rfl⟩

end Search

def nearest (c : Bezier α) (p : Vec3 α) (best : α × α) (t : α) : α × α :=
  if Scalar.totalLt (c.reach p t) best.2 then (t, c.reach p t) else best

theorem nearestEither (best : α × α) (t : α) : c.nearest p best t = (t, c.reach p t) ∨ c.nearest p best t = best := by
  unfold nearest
  split
  · exact .inl rfl
  · exact .inr rfl

theorem nearestSample (samples : List α) {best : α × α} (reached : best.2 = c.reach p best.1) :
    (samples.foldl (c.nearest p) best).1 ∈ best.1 :: samples ∧
      (samples.foldl (c.nearest p) best).2 = c.reach p (samples.foldl (c.nearest p) best).1 := by
  induction samples generalizing best with
  | nil => exact ⟨List.mem_singleton_self _, reached⟩
  | cons t samples ih =>
    rw [List.foldl_cons]
    rcases nearestEither (c := c) (p := p) best t with same | same <;> rw [same]
    · obtain ⟨member, last⟩ := @ih (t, c.reach p t) rfl
      exact ⟨List.mem_cons_of_mem _ member, last⟩
    · obtain ⟨member, last⟩ := ih reached
      refine ⟨(List.mem_cons.mp member).elim (fun first => first ▸ List.mem_cons_self) fun later => ?_, last⟩
      exact List.mem_cons_of_mem _ (List.mem_cons_of_mem _ later)

theorem nearestLeast [LawfulComparison α] {samples : List α} (best : α × α) (known : Defined best.2)
    (defined : ∀ t ∈ samples, Defined (c.reach p t)) :
    (samples.foldl (c.nearest p) best).2 ≤ best.2 ∧
      ∀ t ∈ samples, (samples.foldl (c.nearest p) best).2 ≤ c.reach p t := by
  induction samples generalizing best with
  | nil => exact ⟨atMostSelf known, fun t none => absurd none List.not_mem_nil⟩
  | cons t samples ih =>
    have here := defined t List.mem_cons_self
    have better : (c.nearest p best t).2 ≤ best.2 ∧ (c.nearest p best t).2 ≤ c.reach p t := by
      unfold nearest
      split
      · rename_i less
        exact ⟨LawfulComparison.ofTotalLt here known less, atMostSelf here⟩
      · rename_i most
        exact ⟨atMostSelf known, LawfulComparison.ofNotTotalLt here known (Bool.eq_false_of_not_eq_true most)⟩
    obtain ⟨least, each⟩ := ih _ (LawfulComparison.compared better.1).1 fun s member =>
      defined s (List.mem_cons_of_mem t member)
    refine ⟨LawfulComparison.trans least better.1, fun s member => ?_⟩
    rcases List.mem_cons.mp member with rfl | later
    · exact LawfulComparison.trans least better.2
    · exact each s later

theorem closestNearest (c : Bezier α) (p : Vec3 α) : c.closest p =
    c.projectFrom p ((parameters sampleCount).foldl (c.nearest p) (0.0, c.reach p 0.0)).1 := rfl

theorem parameterWithin [LawfulSpacing α] : (0.0 : α) ∈ parameters sampleCount ∧
    ∀ t ∈ parameters (α := α) sampleCount, 0.0 ≤ t ∧ t ≤ 1.0 := by
  refine ⟨List.mem_map.mpr ⟨0, List.mem_range.mpr (Nat.succ_pos _), LawfulSpacing.first⟩, fun t member => ?_⟩
  obtain ⟨i, place, rfl⟩ := List.mem_map.mp member
  exact LawfulSpacing.within i (Nat.le_of_lt_succ (List.mem_range.mp place))

/- Where the distance that a search begins with is defined, it ends within the curve and not farther away, after at most 24
steps that each came nearer by halving at most 29 times. Where the distances of all 65 samples are, the search from the
nearest of them ends no farther away than any. -/
theorem searchNeverAway [LawfulComparison α] [LawfulReckoning α] [LawfulSpacing α] (c : Bezier α) (p : Vec3 α) :
    (∀ t, 0.0 ≤ t → t ≤ 1.0 → Defined (c.reach p t) → c.Approach p t (c.projectFrom p t)) ∧
    ((∀ s ∈ parameters sampleCount, Defined (c.reach p s)) → 0.0 ≤ c.closest p ∧ c.closest p ≤ 1.0 ∧
      ∀ s ∈ parameters sampleCount, c.reach p (c.closest p) ≤ c.reach p s) := by
  refine ⟨fun t low high defined => projectFromApproach low high defined, fun defined => ?_⟩
  obtain ⟨first, within⟩ := parameterWithin (α := α)
  rw [closestNearest]
  generalize parameters (α := α) sampleCount = samples at defined first within ⊢
  have begins : ((0.0, c.reach p 0.0) : α × α).2 = c.reach p 0.0 := rfl
  obtain ⟨member, reached⟩ := nearestSample samples begins
  obtain ⟨_, each⟩ := nearestLeast (0.0, c.reach p 0.0) (defined 0.0 first) defined
  have sample := (List.mem_cons.mp member).elim (fun same => same ▸ first) id
  obtain ⟨low, high⟩ := within _ sample
  have approach := projectFromApproach low high (defined _ sample)
  exact ⟨approach.low, approach.high, fun s other => LawfulComparison.trans approach.least (reached ▸ each s other)⟩

def hump : Bezier α := cubic ⟨0.0, 0.0, 0.0⟩ ⟨0.0, 5.0, 0.0⟩ ⟨5.0, 5.0, 0.0⟩ ⟨5.0, 0.0, 0.0⟩

theorem humpSearched : hump.Approach (⟨2.5, 40.0, 0.0⟩ : Vec3 Float) 0.25 (hump.projectFrom ⟨2.5, 40.0, 0.0⟩ 0.25) ∧
    ∀ s ∈ parameters sampleCount, hump.reach (⟨2.5, 40.0, 0.0⟩ : Vec3 ℝ) (hump.closest ⟨2.5, 40.0, 0.0⟩) ≤
      hump.reach ⟨2.5, 40.0, 0.0⟩ s :=
  ⟨(searchNeverAway (hump : Bezier Float) ⟨2.5, 40.0, 0.0⟩).1 0.25 (by decide +kernel) (by decide +kernel)
      (by decide +kernel),
    ((searchNeverAway (hump : Bezier ℝ) ⟨2.5, 40.0, 0.0⟩).2 fun _ _ => definedReal _).2.2⟩

end Bezier
end Drafting
