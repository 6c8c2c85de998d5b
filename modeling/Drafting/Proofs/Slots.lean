import Drafting.Group.Remap
/-! Tables of slots as they grow. A slot once given out stays with its key, no two keys share one, and the slots in
use are the first ones without a gap. -/
namespace Drafting.RemapTable
variable {t u : RemapTable} {key : RemapKey} {s : Nat}

/-- Slots in use lie below the next one, and each belongs to one key. -/
structure Proper (t : RemapTable) : Prop where
  below : ∀ key s, t.get? key = some s → s < t.next
  once : ∀ a b s, t.get? a = some s → t.get? b = some s → a = b

structure Packed (t : RemapTable) : Prop extends Proper t where
  filled : ∀ s, s < t.next → ∃ key, t.get? key = some s
  counted : t.size = t.next

/-- Every slot of one table is also in another, which is proper or packed if the first is. -/
structure Extends (a b : RemapTable) : Prop where
  found : ∀ key s, a.get? key = some s → b.get? key = some s
  proper : a.Proper → b.Proper
  packed : a.Packed → b.Packed

theorem Extends.refl (a : RemapTable) : a.Extends a := ⟨fun _ _ found => found, fun h => h, fun h => h⟩

theorem Extends.trans {a b c : RemapTable} (first : a.Extends b) (next : b.Extends c) : a.Extends c :=
  ⟨fun key s found => next.found key s (first.found key s found), fun h => next.proper (first.proper h),
    fun h => next.packed (first.packed h)⟩

theorem emptyProper : ({} : RemapTable).Proper := by
  constructor
  · intro key s found
    simp [get?] at found
  · intro a b s found
    simp [get?] at found

theorem slotGiven (t : RemapTable) (key : RemapKey) : (t.slot key).2.get? key = some (t.slot key).1 := by
  unfold slot
  cases found : t.slots[key]? with
  | some s => exact found
  | none => simp [get?]

theorem slotNew (absent : t.get? key = none) (other : RemapKey) :
    (t.slot key).2.get? other = (if key = other then some t.next else t.get? other) ∧
      (t.slot key).2.next = t.next + 1 := by
  have none : t.slots[key]? = none := absent
  unfold slot
  rw [none]
  refine ⟨?_, rfl⟩
  simp [get?, Std.HashMap.getElem?_insert]

theorem slotAgain (found : t.get? key = some s) (h : t.Extends u) : u.slot key = (s, u) := by
  have there : u.slots[key]? = some s := h.found key s found
  unfold slot
  rw [there]

theorem slotProper (h : t.Proper) (key : RemapKey) : (t.slot key).2.Proper := by
  cases found : t.get? key with
  | some s =>
    rw [slotAgain found (.refl t)]
    exact h
  | none =>
    have read := slotNew found
    have fresh (other : RemapKey) (there : t.get? other = some t.next) : False :=
      absurd (h.below other t.next there) (Nat.lt_irrefl _)
    constructor
    · intro other s there
      rw [(read other).1] at there
      rw [(read other).2]
      split at there
      · exact Option.some.inj there ▸ Nat.lt_succ_self _
      · exact Nat.lt_succ_of_lt (h.below other s there)
    · intro a b s first second
      rw [(read a).1] at first
      rw [(read b).1] at second
      split at first
      · rename_i here
        split at second
        · rename_i same
          exact here.symm.trans same
        · exact (fresh b (second.trans first.symm)).elim
      · split at second
        · exact (fresh a (first.trans second.symm)).elim
        · exact h.once a b s first second

theorem slotKept (found : t.get? key = some s) (other : RemapKey) : (t.slot other).2.get? key = some s := by
  cases given : t.get? other with
  | some _ =>
    rw [slotAgain given (.refl t)]
    exact found
  | none =>
    rw [(slotNew given key).1, if_neg]
    · exact found
    · intro same
      exact nomatch (same ▸ given).symm.trans found

theorem emptyPacked : ({} : RemapTable).Packed where
  toProper := emptyProper
  filled s below := absurd below s.not_lt_zero
  counted := rfl

theorem slotPacked (h : t.Packed) (key : RemapKey) : (t.slot key).2.Packed := by
  cases found : t.get? key with
  | some s =>
    rw [slotAgain found (.refl t)]
    exact h
  | none =>
    have read := slotNew found
    refine ⟨slotProper h.toProper key, fun s below => ?_, ?_⟩
    · rw [(read key).2] at below
      rcases Nat.lt_succ_iff_lt_or_eq.mp below with old | rfl
      · obtain ⟨other, there⟩ := h.filled s old
        exact ⟨other, slotKept there key⟩
      · exact ⟨key, by rw [(read key).1, if_pos rfl]⟩
    · have absent : key ∉ t.slots := by
        rw [Std.HashMap.mem_iff_isSome_getElem?]
        simp [show t.slots[key]? = none from found]
      have size : (t.slot key).2.size = t.size + 1 := by
        unfold slot
        rw [show t.slots[key]? = none from found]
        exact Std.HashMap.size_insert.trans (if_neg absent)
      rw [size, (read key).2, h.counted]

theorem slotExtends (t : RemapTable) (key : RemapKey) : t.Extends (t.slot key).2 where
  found _ _ given := slotKept given key
  proper h := slotProper h key
  packed h := slotPacked h key

end Drafting.RemapTable
