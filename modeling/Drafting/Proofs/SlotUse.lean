import Drafting.Proofs.Slots
import Mathlib.Algebra.Group.Nat.Defs
import Mathlib.Data.List.Dedup
import Mathlib.Data.List.Induction
/-! Tables of slots over all their uses. Keys are asked for, and now and then the table is written out and
read in again, where the next slot is worked out from the entries. The slots in use stay the first ones,
so the number worked out is the right one. -/
namespace Drafting.RemapTable
variable {t u : RemapTable} {key : RemapKey} {s : Nat}

theorem memToList (t : RemapTable) (key : RemapKey) (s : Nat) : (key, s) ∈ t.toList ↔ t.get? key = some s := by
  rw [toList, (List.mergeSort_perm _ _).mem_iff]
  exact Std.HashMap.mem_toList_iff_getElem?_eq_some

theorem toListKeys (t : RemapTable) : (t.toList.map Prod.fst).Perm t.slots.keys := by
  rw [← Std.HashMap.map_fst_toList_eq_keys]
  exact (List.mergeSort_perm _ _).map Prod.fst

theorem insertsMany (m : Std.HashMap RemapKey Nat) (entries : List (RemapKey × Nat)) :
    entries.foldl (fun m (k, s) => m.insert k s) m = m.insertMany entries := by
  induction entries generalizing m with
  | nil => exact Std.HashMap.insertMany_nil.symm
  | cons e rest ih => exact (ih _).trans Std.HashMap.insertMany_cons.symm

theorem ofListGet {entries : List (RemapKey × Nat)} (distinct : (entries.map Prod.fst).Nodup) :
    (ofList entries).get? key = some s ↔ (key, s) ∈ entries := by
  have apart : entries.Pairwise fun a b => (a.1 == b.1) = false :=
    (List.pairwise_map.mp distinct).imp fun differs => beq_eq_false_iff_ne.mpr differs
  rw [get?, ofList, insertsMany]
  constructor
  · intro found
    by_cases listed : key ∈ entries.map Prod.fst
    · obtain ⟨⟨key', s'⟩, member, same⟩ := List.mem_map.mp listed
      obtain rfl : key' = key := same
      rw [Std.HashMap.getElem?_insertMany_list_of_mem (beq_self_eq_true key') apart member] at found
      exact Option.some.inj found ▸ member
    · have absent : (entries.map Prod.fst).contains key = false := by simpa using listed
      rw [Std.HashMap.getElem?_insertMany_list_of_contains_eq_false absent] at found
      simp at found
  · exact Std.HashMap.getElem?_insertMany_list_of_mem (beq_self_eq_true key) apart

theorem ofListNext (entries : List (RemapKey × Nat)) (n : Nat) :
    (ofList entries).next ≤ n ↔ ∀ e ∈ entries, e.2 < n := by
  have above (m : Nat) : entries.foldl (fun n (_, s) => Nat.max n (s + 1)) m ≤ n ↔
      m ≤ n ∧ ∀ e ∈ entries, e.2 < n := by
    induction entries generalizing m with
    | nil => simp
    | cons e rest ih =>
      rw [List.foldl_cons, ih, Nat.max_le, List.forall_mem_cons, Nat.succ_le_iff, and_assoc]
  exact (above 0).trans (and_iff_right n.zero_le)

theorem reloadGet (t : RemapTable) (key : RemapKey) : (ofList t.toList).get? key = t.get? key := by
  apply Option.ext
  intro s
  rw [ofListGet (t.toListKeys.nodup_iff.mpr t.slots.nodup_keys), memToList]

theorem reloadNext (t : RemapTable) (n : Nat) :
    (ofList t.toList).next ≤ n ↔ ∀ key s, t.get? key = some s → s < n := by
  rw [ofListNext]
  simp only [Prod.forall, memToList]

theorem Proper.keyOfIff (h : t.Proper) : t.keyOf? s = some key ↔ t.get? key = some s := by
  rw [keyOf?, ← memToList]
  constructor
  · intro found
    obtain ⟨⟨key', s'⟩, first, same⟩ := Option.map_eq_some_iff.mp found
    obtain rfl : key' = key := same
    obtain rfl : s' = s := by simpa using List.find?_some first
    exact List.mem_of_find?_eq_some first
  · intro member
    cases first : t.toList.find? fun e => e.2 == s with
    | none => exact absurd (List.find?_eq_none.mp first (key, s) member) (by simp)
    | some e =>
      obtain ⟨key', s'⟩ := e
      obtain rfl : s' = s := by simpa using List.find?_some first
      have there := (memToList t key' s').mp (List.mem_of_find?_eq_some first)
      exact congrArg some (h.once key' key s' there ((memToList t key s').mp member))

theorem reloadEquiv (t : RemapTable) : (ofList t.toList).slots.Equiv t.slots :=
  Std.HashMap.Equiv.of_forall_getElem?_eq (reloadGet t)

theorem Packed.reloadSame (h : t.Packed) : (ofList t.toList).next = t.next := by
  apply Nat.le_antisymm ((reloadNext t _).mpr h.below)
  apply Nat.le_of_not_lt
  intro less
  obtain ⟨key, found⟩ := h.filled _ less
  exact Nat.lt_irrefl _ ((reloadNext t _).mp (Nat.le_refl _) key _ found)

theorem reloadProper (h : t.Proper) : (ofList t.toList).Proper := by
  refine ⟨fun key s found => ?_, fun a b s first second => ?_⟩
  · exact (reloadNext t _).mp (Nat.le_refl _) key s ((reloadGet t key).symm.trans found)
  · exact h.once a b s ((reloadGet t a).symm.trans first) ((reloadGet t b).symm.trans second)

theorem Packed.reload (h : t.Packed) : (ofList t.toList).Packed where
  toProper := reloadProper h.toProper
  filled s below := by
    obtain ⟨key, found⟩ := h.filled s (h.reloadSame ▸ below)
    exact ⟨key, (reloadGet t key).trans found⟩
  counted := (reloadEquiv t).size_eq.trans (h.counted.trans h.reloadSame.symm)

theorem reloadExtends (t : RemapTable) : t.Extends (ofList t.toList) where
  found key _ given := (reloadGet t key).trans given
  proper := reloadProper
  packed := Packed.reload

inductive Use where
  | slot (key : RemapKey)
  | reload

def Use.on (t : RemapTable) : Use → RemapTable
  | .slot key => (t.slot key).2
  | .reload => ofList t.toList

def Use.key? : Use → Option RemapKey
  | .slot key => some key
  | .reload => none

def after (uses : List Use) : RemapTable := uses.foldl Use.on {}

def asked (uses : List Use) : List RemapKey := uses.filterMap Use.key?

theorem useExtends (t : RemapTable) (use : Use) : t.Extends (use.on t) := by
  cases use with
  | slot key => exact slotExtends t key
  | reload => exact reloadExtends t

theorem usePacked (h : t.Packed) (use : Use) : (use.on t).Packed := by
  cases use with
  | slot key => exact slotPacked h key
  | reload => exact h.reload

theorem useKnown (t : RemapTable) (use : Use) (other : RemapKey) :
    (∃ s, (use.on t).get? other = some s) ↔ (∃ s, t.get? other = some s) ∨ use.key? = some other := by
  cases use with
  | slot key =>
    cases found : t.get? key with
    | some s =>
      have same : Use.on t (.slot key) = t := by rw [Use.on, slotAgain found (.refl t)]
      rw [same]
      refine ⟨.inl, Or.rec id ?_⟩
      rintro ⟨⟩
      exact ⟨s, found⟩
    | none =>
      simp only [Use.on, Use.key?, (slotNew found other).1, Option.some.injEq]
      split
      · rename_i same
        simp [same]
      · rename_i differs
        simp [differs]
  | reload => simp [Use.on, Use.key?, reloadGet]

theorem afterAppend (uses more : List Use) : after (uses ++ more) = more.foldl Use.on (after uses) :=
  List.foldl_append

theorem afterExtends (uses more : List Use) : (after uses).Extends (after (uses ++ more)) := by
  rw [afterAppend]
  generalize after uses = t
  induction more generalizing t with
  | nil => exact .refl t
  | cons use rest ih => exact (useExtends t use).trans (ih (use.on t))

theorem afterPacked (uses : List Use) : (after uses).Packed := by
  induction uses using List.reverseRecOn with
  | nil => exact emptyPacked
  | append_singleton uses use ih =>
    rw [afterAppend]
    exact usePacked ih use

theorem afterKnown (uses : List Use) (key : RemapKey) : (∃ s, (after uses).get? key = some s) ↔ key ∈ asked uses := by
  induction uses using List.reverseRecOn with
  | nil => simp [after, asked, get?]
  | append_singleton uses use ih =>
    rw [afterAppend, List.foldl_cons, List.foldl_nil, useKnown, ih, asked, asked, List.filterMap_append, List.mem_append]
    simp [eq_comm]

theorem afterCounted (uses : List Use) : (after uses).next = (asked uses).dedup.length := by
  rw [← (afterPacked uses).counted]
  have same : (after uses).slots.keys.Perm (asked uses).dedup := by
    refine (List.perm_ext_iff_of_nodup Std.HashMap.nodup_keys (List.nodup_dedup _)).mpr fun key => ?_
    rw [Std.HashMap.mem_keys, List.mem_dedup, ← afterKnown, Std.HashMap.mem_iff_isSome_getElem?, Option.isSome_iff_exists]
    rfl
  rw [← same.length_eq, Std.HashMap.length_keys]
  rfl

/-- What may be relied on after some uses of a table. With fewer than 2 ^ 32 keys every number fits a word. -/
structure Relied (uses : List Use) : Prop where
  injective : ∀ a b s, (after uses).get? a = some s → (after uses).get? b = some s → a = b
  exact : ∀ s, (∃ key, (after uses).get? key = some s) ↔ s < (after uses).size
  reload : (ofList (after uses).toList).slots.Equiv (after uses).slots ∧
    (ofList (after uses).toList).next = (after uses).next
  named : ∀ key, (after (uses ++ [.slot key])).keyOf? ((after uses).slot key).1 = some key
  again : ∀ key more, ((after (uses ++ .slot key :: more)).slot key).1 = ((after uses).slot key).1
  fresh : ∀ key, key ∉ asked uses → ∀ earlier other later, uses = earlier ++ .slot other :: later →
    ((after uses).slot key).1 ≠ ((after earlier).slot other).1
  small : (asked uses).dedup.length < 2 ^ 32 → (after uses).next < 2 ^ 32

theorem calledSlot (uses : List Use) (key : RemapKey) (more : List Use) :
    (after (uses ++ .slot key :: more)).get? key = some ((after uses).slot key).1 := by
  have given : (after (uses ++ [.slot key])).get? key = some ((after uses).slot key).1 := by
    rw [afterAppend]
    exact slotGiven (after uses) key
  have later : (after (uses ++ [.slot key] ++ more)).get? key = some ((after uses).slot key).1 :=
    (afterExtends (uses ++ [Use.slot key]) more).found key _ given
  rwa [List.append_assoc] at later

theorem usesRelied (uses : List Use) : Relied uses := by
  have packed := afterPacked uses
  constructor
  case injective => exact packed.once
  case exact =>
    intro s
    rw [packed.counted]
    constructor
    · intro given
      obtain ⟨key, found⟩ := given
      exact packed.below key s found
    · exact packed.filled s
  case reload => exact ⟨reloadEquiv (after uses), packed.reloadSame⟩
  case named =>
    intro key
    exact (afterPacked _).keyOfIff.mpr (calledSlot uses key [])
  case again =>
    intro key more
    rw [slotAgain (calledSlot uses key more) (.refl _)]
  case fresh =>
    intro key never earlier other later split same
    have mine := calledSlot uses key []
    have before : (after uses).get? other = some ((after earlier).slot other).1 := split ▸ calledSlot earlier other later
    have still := (afterExtends uses [Use.slot key]).found other _ before
    have one := (afterPacked (uses ++ [Use.slot key])).once key other _ mine (same ▸ still)
    exact never ((afterKnown uses key).mp ⟨_, one ▸ before⟩)
  case small =>
    intro few
    exact (afterCounted uses).symm ▸ few

end Drafting.RemapTable
