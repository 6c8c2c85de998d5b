import Drafting.Registry
import Mathlib.Data.List.InsertIdx
import Mathlib.Data.List.Nodup
/-! Registries as maps that keep the order in which records were added. The index is right when it
names the place of every record and nothing else; every change keeps it right, and what a change does
is said by the list of records and by the look-up of a key. -/
namespace Drafting.Registry

variable {κ τ : Type} [DecidableEq κ] [Hashable κ] [Keyed κ τ]

/-- The index names records of the key it is asked for, and every key of a record has an entry. Keys
may be repeated. -/
structure Indexed (r : Registry κ τ) : Prop where
  sound : ∀ (k : κ) (i : Nat), r.index[k]? = some i → r.keys[i]? = some k
  complete : ∀ k ∈ r.keys, r.contains k = true

/-- The index gives the place of each key, so no two records have one key. -/
def Consistent (r : Registry κ τ) : Prop :=
  ∀ (k : κ) (i : Nat), r.index[k]? = some i ↔ r.keys[i]? = some k

theorem Consistent.indexed {r : Registry κ τ} (h : r.Consistent) : r.Indexed where
  sound k i found := (h k i).mp found
  complete k member := by
    obtain ⟨i, place⟩ := List.mem_iff_getElem?.mp member
    rw [contains, Std.HashMap.contains_eq_isSome_getElem?, (h k i).mpr place]
    rfl

theorem Indexed.containsIff {r : Registry κ τ} (h : r.Indexed) (k : κ) :
    r.contains k = true ↔ k ∈ r.keys := by
  constructor
  · intro has
    rw [contains, Std.HashMap.contains_eq_isSome_getElem?] at has
    obtain ⟨i, found⟩ := Option.isSome_iff_exists.mp has
    exact List.mem_of_getElem? (h.sound k i found)
  · exact h.complete k

theorem memKeys {r : Registry κ τ} {k : κ} : k ∈ r.keys ↔ ∃ x ∈ r.toList, Keyed.key x = k := by
  rw [keys, List.mem_map]

omit [Keyed κ τ] in
theorem memOfGet {r : Registry κ τ} {k : κ} {x : τ} (h : r.get? k = some x) : x ∈ r.toList := by
  obtain ⟨i, _, place⟩ := Option.bind_eq_some_iff.mp h
  exact List.mem_of_getElem? (Array.getElem?_toList ▸ place)

section Lookup
variable {r : Registry κ τ}

theorem Consistent.keysNodup (h : r.Consistent) : r.keys.Nodup := by
  rw [List.nodup_iff_getElem?_ne_getElem?]
  intro i j before bound same
  have atJ := List.getElem?_eq_getElem bound
  have left := (h _ i).mpr (same.trans atJ)
  have right := (h _ j).mpr atJ
  have : i = j := Option.some.inj (left.symm.trans right)
  omega

theorem Consistent.getIff (h : r.Consistent) {k : κ} {x : τ} :
    r.get? k = some x ↔ x ∈ r.toList ∧ Keyed.key x = k := by
  rw [get?, Option.bind_eq_some_iff]
  constructor
  · rintro ⟨i, found, place⟩
    have there : r.toList[i]? = some x := Array.getElem?_toList ▸ place
    have keyed := (h k i).mp found
    rw [keys, List.getElem?_map, there] at keyed
    exact ⟨List.mem_of_getElem? there, Option.some.inj keyed⟩
  · rintro ⟨member, same⟩
    obtain ⟨i, place⟩ := List.mem_iff_getElem?.mp member
    refine ⟨i, (h k i).mpr ?_, Array.getElem?_toList ▸ place⟩
    rw [keys, List.getElem?_map, place, Option.map_some, same]

theorem Consistent.getNone (h : r.Consistent) {k : κ} : r.get? k = none ↔ k ∉ r.keys := by
  rw [← Option.not_isSome_iff_eq_none, not_iff_not, Option.isSome_iff_exists, memKeys]
  simp only [h.getIff]

theorem Consistent.containsIff (h : r.Consistent) {k : κ} :
    r.contains k = true ↔ ∃ x, r.get? k = some x := by
  rw [h.indexed.containsIff, memKeys]
  simp only [h.getIff]

theorem Consistent.getOfMem (h : r.Consistent) {x : τ} (member : x ∈ r.toList) :
    r.get? (Keyed.key x) = some x := h.getIff.mpr ⟨member, rfl⟩

theorem Consistent.keyOfGet (h : r.Consistent) {k : κ} {x : τ} (found : r.get? k = some x) :
    Keyed.key x = k := (h.getIff.mp found).2

theorem Consistent.ofKeys {q : Registry κ τ} (h : r.Consistent) (index : q.index = r.index)
    (keys : q.keys = r.keys) : q.Consistent := by
  intro k i
  rw [index, keys]
  exact h k i

theorem getCongr {q : Registry κ τ} {k : κ} (hr : r.Consistent) (hq : q.Consistent)
    (same : ∀ x, Keyed.key x = k → (x ∈ r.toList ↔ x ∈ q.toList)) : r.get? k = q.get? k := by
  apply Option.ext
  intro x
  rw [hr.getIff, hq.getIff]
  constructor
  · rintro ⟨member, keyed⟩
    exact ⟨(same x keyed).mp member, keyed⟩
  · rintro ⟨member, keyed⟩
    exact ⟨(same x keyed).mpr member, keyed⟩

end Lookup

section Built

theorem emptyConsistent : ({} : Registry κ τ).Consistent := by
  intro k i
  simp [keys, toList]

/- Entries are made from the front; a later record of the same key would take the entry over, so
the statement needs distinct keys. -/
theorem enterGet {items : List τ} (distinct : (items.map Keyed.key).Nodup)
    (index : Std.HashMap κ Nat) (start : Nat) (k : κ) (i : Nat) :
    (enter index start items)[k]? = some i ↔
      (∃ j, (items.map Keyed.key)[j]? = some k ∧ i = start + j) ∨
        (k ∉ items.map Keyed.key ∧ index[k]? = some i) := by
  induction items generalizing index start with
  | nil => simp [enter]
  | cons head rest ih =>
    obtain ⟨fresh, distinct⟩ := List.nodup_cons.mp distinct
    rw [enter, ih distinct]
    constructor
    · rintro (⟨j, place, rfl⟩ | ⟨absent, found⟩)
      · exact .inl ⟨j + 1, place, by omega⟩
      · rw [Std.HashMap.getElem?_insert] at found
        split at found
        · rename_i eq
          exact .inl ⟨0, by simpa using eq, by simpa using found.symm⟩
        · rename_i other
          have differs : k ≠ Keyed.key head := fun eq => other (by simp [eq])
          exact .inr ⟨List.not_mem_cons_of_ne_of_not_mem differs absent, found⟩
    · rintro (⟨j, place, rfl⟩ | ⟨absent, found⟩)
      · cases j with
        | zero =>
          obtain rfl : Keyed.key head = k := by simpa using place
          exact .inr ⟨fresh, by simp⟩
        | succ j => exact .inl ⟨j, by simpa using place, by omega⟩
      · obtain ⟨other, absent⟩ := not_or.mp (by simpa only [List.map_cons, List.mem_cons] using absent)
        exact .inr ⟨absent, by simp [Std.HashMap.getElem?_insert, Ne.symm other, found]⟩

@[simp] theorem toListOfList (items : List τ) : (ofList items).toList = items := rfl

theorem ofListConsistent {items : List τ} (distinct : (items.map Keyed.key).Nodup) :
    (ofList items).Consistent := by
  intro k i
  show (enter {} 0 items)[k]? = some i ↔ (items.map Keyed.key)[i]? = some k
  rw [enterGet distinct]
  constructor
  · rintro (⟨j, place, rfl⟩ | ⟨_, found⟩)
    · simpa using place
    · simp at found
  · intro place
    exact .inl ⟨i, place, by omega⟩

theorem enterSound {items : List τ} {index : Std.HashMap κ Nat} {start i : Nat} {k : κ}
    (found : (enter index start items)[k]? = some i) :
    (k ∉ items.map Keyed.key ∧ index[k]? = some i) ∨ ∃ j, i = start + j ∧ (items.map Keyed.key)[j]? = some k := by
  induction items generalizing index start with
  | nil => exact .inl ⟨List.not_mem_nil, found⟩
  | cons x xs ih =>
    rcases ih found with ⟨absent, before⟩ | ⟨j, place, keyed⟩
    · rw [Std.HashMap.getElem?_insert] at before
      split at before
      · rename_i same
        refine .inr ⟨0, by simpa using before.symm, ?_⟩
        simpa using same
      · rename_i other
        have differs : k ≠ Keyed.key x := fun eq => other (by simp [eq])
        exact .inl ⟨List.not_mem_cons_of_ne_of_not_mem differs absent, before⟩
    · exact .inr ⟨j + 1, by omega, by simpa using keyed⟩

theorem enterComplete {items : List τ} {index : Std.HashMap κ Nat} {start : Nat} {k : κ}
    (there : k ∈ index ∨ k ∈ items.map Keyed.key) : k ∈ enter index start items := by
  induction items generalizing index start with
  | nil => simpa [enter] using there
  | cons x xs ih =>
    apply ih
    rw [List.map_cons, List.mem_cons] at there
    rw [Std.HashMap.mem_insert]
    rcases there with old | rfl | later
    · exact .inl (.inr old)
    · exact .inl (.inl (by simp))
    · exact .inr later

theorem ofListIndexed (items : List τ) : (ofList items).Indexed where
  sound k i found := by
    rcases enterSound found with ⟨-, before⟩ | ⟨j, place, keyed⟩
    · simp at before
    · rw [place, Nat.zero_add]
      exact keyed
  complete k member := Std.HashMap.contains_iff_mem.mpr (enterComplete (.inr member))

end Built

section Changes
variable {r : Registry κ τ}

theorem Consistent.indexNone (h : r.Consistent) {k : κ} : r.index[k]? = none ↔ k ∉ r.keys := by
  rw [← h.indexed.containsIff, contains, Std.HashMap.contains_eq_isSome_getElem?]
  simp

theorem Consistent.writeAt (h : r.Consistent) {k : κ} {i : Nat} (found : r.index[k]? = some i)
    (f : τ → τ) : r.toList.modify i f = r.toList.map fun y => if Keyed.key y = k then f y else y := by
  apply List.ext_getElem?
  intro j
  rw [List.getElem?_modify, List.getElem?_map]
  cases place : r.toList[j]? with
  | none => rfl
  | some y =>
    have only : Keyed.key y = k ↔ i = j := by
      have keyed : r.keys[j]? = some (Keyed.key y) := by rw [keys, List.getElem?_map, place]; rfl
      constructor
      · intro eq
        exact Option.some.inj (found.symm.trans ((h k j).mpr (eq ▸ keyed)))
      · rintro rfl
        exact Option.some.inj (keyed.symm.trans ((h k i).mp found))
    by_cases eq : i = j <;> simp [eq, only]

theorem Consistent.toListModify (h : r.Consistent) (k : κ) (f : τ → τ) :
    (r.modify k f).toList = r.toList.map fun y => if Keyed.key y = k then f y else y := by
  rw [modify]
  cases found : r.index[k]? with
  | none =>
    have absent := h.indexNone.mp found
    have untouched : ∀ y ∈ r.toList, (if Keyed.key y = k then f y else y) = y := by
      intro y member
      exact if_neg fun same => absent (memKeys.mpr ⟨y, member, same⟩)
    rw [List.map_congr_left untouched, List.map_id']
  | some i =>
    rw [← h.writeAt found]
    exact Array.toList_modify

theorem Consistent.keysModify (h : r.Consistent) (k : κ) {f : τ → τ}
    (keeps : ∀ x, Keyed.key x = k → Keyed.key (f x) = k) : (r.modify k f).keys = r.keys := by
  rw [keys, h.toListModify, List.map_map, keys]
  apply List.map_congr_left
  intro y _
  by_cases eq : Keyed.key y = k
  · simp [eq, keeps y eq]
  · simp [eq]

omit [Keyed κ τ] in
theorem indexModify (k : κ) (f : τ → τ) : (r.modify k f).index = r.index := by
  rw [modify]
  split <;> rfl

theorem Consistent.modify (h : r.Consistent) (k : κ) {f : τ → τ}
    (keeps : ∀ x, Keyed.key x = k → Keyed.key (f x) = k) : (r.modify k f).Consistent :=
  h.ofKeys (indexModify k f) (h.keysModify k keeps)

theorem Consistent.getModify (h : r.Consistent) (k : κ) {f : τ → τ}
    (keeps : ∀ x, Keyed.key x = k → Keyed.key (f x) = k) (k' : κ) :
    (r.modify k f).get? k' = if k' = k then (r.get? k).map f else r.get? k' := by
  apply Option.ext
  intro x
  rw [(h.modify k keeps).getIff, h.toListModify, List.mem_map]
  split
  · rename_i eq
    subst eq
    rw [Option.map_eq_some_iff]
    constructor
    · rintro ⟨⟨y, member, rfl⟩, same⟩
      by_cases eq : Keyed.key y = k'
      · exact ⟨y, h.getIff.mpr ⟨member, eq⟩, by simp [eq]⟩
      · exact absurd same (by simp [eq])
    · rintro ⟨y, found, rfl⟩
      obtain ⟨member, same⟩ := h.getIff.mp found
      exact ⟨⟨y, member, by simp [same]⟩, keeps y same⟩
  · rename_i other
    rw [h.getIff]
    constructor
    · rintro ⟨⟨y, member, rfl⟩, same⟩
      by_cases eq : Keyed.key y = k
      · simp only [eq, if_true, keeps y eq] at same
        exact absurd same.symm other
      · simp only [eq, if_false] at same ⊢
        exact ⟨member, same⟩
    · rintro ⟨member, same⟩
      exact ⟨⟨x, member, by simp [same, other]⟩, same⟩

omit [Keyed κ τ] in
@[simp] theorem toListMap (f : τ → τ) : (r.map f).toList = r.toList.map f := by
  simp [map, toList]

theorem Consistent.map (h : r.Consistent) {f : τ → τ} (keeps : ∀ x, Keyed.key (f x) = Keyed.key x) :
    (r.map f).Consistent := by
  refine h.ofKeys (q := r.map f) rfl ?_
  rw [keys, toListMap, List.map_map, keys]
  exact List.map_congr_left fun x _ => keeps x

theorem Consistent.getMap (h : r.Consistent) {f : τ → τ} (keeps : ∀ x, Keyed.key (f x) = Keyed.key x)
    (k : κ) : (r.map f).get? k = (r.get? k).map f := by
  apply Option.ext
  intro x
  rw [(h.map keeps).getIff, toListMap, List.mem_map, Option.map_eq_some_iff]
  constructor
  · rintro ⟨⟨y, member, rfl⟩, same⟩
    exact ⟨y, h.getIff.mpr ⟨member, (keeps y).symm.trans same⟩, rfl⟩
  · rintro ⟨y, found, rfl⟩
    obtain ⟨member, same⟩ := h.getIff.mp found
    exact ⟨⟨y, member, rfl⟩, (keeps y).trans same⟩

theorem Consistent.toListAdd (h : r.Consistent) (x : τ) : (r.add x).toList =
    if Keyed.key x ∈ r.keys then r.toList.map fun y => if Keyed.key y = Keyed.key x then x else y
    else r.toList ++ [x] := by
  rw [add, insert]
  cases found : r.index[Keyed.key x]? with
  | none => simp [h.indexNone.mp found, toList]
  | some i =>
    have present : Keyed.key x ∈ r.keys := List.mem_of_getElem? ((h _ i).mp found)
    rw [if_pos present, ← h.writeAt found]
    show (r.items.setIfInBounds i x).toList = _
    rw [Array.toList_setIfInBounds, List.set_eq_modify]
    rfl

theorem Consistent.keysAddNew (h : r.Consistent) {x : τ} (absent : Keyed.key x ∉ r.keys) :
    (r.add x).keys = r.keys ++ [Keyed.key x] := by
  rw [keys, h.toListAdd, if_neg absent, List.map_append]
  rfl

theorem Consistent.add (h : r.Consistent) (x : τ) : (r.add x).Consistent := by
  cases found : r.index[Keyed.key x]? with
  | none =>
    have absent := h.indexNone.mp found
    have keysAdd := h.keysAddNew absent
    have index : (r.add x).index = r.index.insert (Keyed.key x) r.keys.length := by
      simp [Registry.add, insert, found, keys, toList]
    intro k i
    rw [keysAdd, index, Std.HashMap.getElem?_insert, List.getElem?_append]
    split
    · rename_i eq
      obtain rfl : Keyed.key x = k := by simpa using eq
      split
      · rename_i inside
        have differs : r.keys[i]? ≠ some (Keyed.key x) := fun there => absent (List.mem_of_getElem? there)
        constructor
        · intro same
          have : r.keys.length = i := Option.some.inj same
          omega
        · exact fun there => absurd there differs
      · rename_i outside
        rw [List.getElem?_singleton]
        constructor
        · intro same
          have : r.keys.length = i := Option.some.inj same
          simp [this]
        · intro there
          have : i - r.keys.length = 0 := by
            by_contra other
            simp [other] at there
          congr 1
          omega
    · rename_i other
      have differs : Keyed.key x ≠ k := fun eq => other (by simp [eq])
      rw [h k i]
      split
      · rfl
      · rename_i outside
        rw [List.getElem?_eq_none_iff.mpr (by omega), List.getElem?_singleton]
        constructor
        · intro impossible
          cases impossible
        · intro there
          split at there
          · exact absurd (Option.some.inj there) differs
          · cases there
  | some i =>
    have present : Keyed.key x ∈ r.keys := List.mem_of_getElem? ((h _ i).mp found)
    apply h.ofKeys
    · simp [Registry.add, insert, found]
    · rw [keys, h.toListAdd, if_pos present, List.map_map, keys]
      apply List.map_congr_left
      intro y _
      by_cases eq : Keyed.key y = Keyed.key x <;> simp [eq]

theorem Consistent.memAdd (h : r.Consistent) {x y : τ} :
    y ∈ (r.add x).toList ↔ y = x ∨ (y ∈ r.toList ∧ Keyed.key y ≠ Keyed.key x) := by
  rw [h.toListAdd]
  split
  · rename_i present
    obtain ⟨z, there, same⟩ := memKeys.mp present
    constructor
    · intro member
      obtain ⟨w, inside, rfl⟩ := List.mem_map.mp member
      split
      · exact .inl rfl
      · exact .inr ⟨inside, by assumption⟩
    · rintro (rfl | ⟨inside, differs⟩)
      · exact List.mem_map.mpr ⟨z, there, by simp [same]⟩
      · exact List.mem_map.mpr ⟨y, inside, by simp [differs]⟩
  · rename_i absent
    rw [List.mem_append, List.mem_singleton]
    constructor
    · rintro (inside | rfl)
      · exact .inr ⟨inside, fun same => absent (memKeys.mpr ⟨y, inside, same⟩)⟩
      · exact .inl rfl
    · rintro (rfl | ⟨inside, _⟩)
      · exact .inr rfl
      · exact .inl inside

theorem Consistent.getAdd (h : r.Consistent) (x : τ) (k : κ) :
    (r.add x).get? k = if Keyed.key x = k then some x else r.get? k := by
  apply Option.ext
  intro y
  rw [(h.add x).getIff, h.memAdd]
  split
  · rename_i eq
    constructor
    · rintro ⟨rfl | ⟨_, differs⟩, same⟩
      · rfl
      · exact absurd (same.trans eq.symm) differs
    · intro same
      cases same
      exact ⟨.inl rfl, eq⟩
  · rename_i other
    rw [h.getIff]
    constructor
    · rintro ⟨rfl | ⟨inside, _⟩, same⟩
      · exact absurd same other
      · exact ⟨inside, same⟩
    · rintro ⟨inside, same⟩
      exact ⟨.inr ⟨inside, fun eq => other (eq.symm.trans same)⟩, same⟩

theorem Consistent.getAddSelf (h : r.Consistent) (x : τ) : (r.add x).get? (Keyed.key x) = some x := by
  rw [h.getAdd, if_pos rfl]

@[simp] theorem toListFilter (keep : τ → Bool) : (r.filter keep).toList = r.toList.filter keep := rfl

theorem Consistent.filter (h : r.Consistent) (keep : τ → Bool) : (r.filter keep).Consistent :=
  ofListConsistent ((List.filter_sublist.map Keyed.key).nodup h.keysNodup)

theorem Consistent.getFilter (h : r.Consistent) (keep : τ → Bool) (k : κ) :
    (r.filter keep).get? k = (r.get? k).filter keep := by
  apply Option.ext
  intro x
  rw [(h.filter keep).getIff, toListFilter, List.mem_filter, Option.filter_eq_some_iff, h.getIff]
  tauto

theorem eraseInside {k : κ} {i : Nat} (found : r.index[k]? = some i) (bound : i < r.items.size) :
    (r.remove k).toList = r.toList.eraseIdx i ∧
      (r.remove k).index = enter (r.index.erase k) i (r.toList.drop (i + 1)) := by
  have erased : (r.items.eraseIdxIfInBounds i).toList = r.toList.eraseIdx i := by
    rw [Array.eraseIdxIfInBounds, dif_pos bound, Array.toList_eraseIdx]
    rfl
  simp only [remove, erase, found]
  refine ⟨erased, ?_⟩
  have length : (r.toList.take i).length = i := by
    rw [List.length_take, toList, Array.length_toList, Nat.min_eq_left (Nat.le_of_lt bound)]
  rw [erased, List.eraseIdx_eq_take_drop_succ, List.drop_append_of_le_length (by omega)]
  rw [List.drop_eq_nil_of_le (by omega), List.nil_append]

theorem Consistent.eraseAt (h : r.Consistent) {k : κ} {i : Nat} (found : r.index[k]? = some i) :
    (r.remove k).toList = r.toList.eraseIdx i ∧
      (r.remove k).index = enter (r.index.erase k) i (r.toList.drop (i + 1)) := by
  refine eraseInside found ?_
  have := (List.getElem?_eq_some_iff.mp ((h k i).mp found)).1
  simpa [keys, toList] using this

theorem Consistent.remove (h : r.Consistent) (k : κ) : (r.remove k).Consistent := by
  cases found : r.index[k]? with
  | none => simpa only [Registry.remove, erase, found] using h
  | some i =>
    obtain ⟨items, index⟩ := h.eraseAt found
    have place := (h k i).mp found
    have keysRemove : (r.remove k).keys = r.keys.eraseIdx i := by
      rw [keys, items, keys, List.eraseIdx_map]
    have later : (r.toList.drop (i + 1)).map Keyed.key = r.keys.drop (i + 1) := List.map_drop
    intro k' j
    rw [keysRemove, index, enterGet (later ▸ (List.drop_sublist _ _).nodup h.keysNodup), later,
      List.getElem?_eraseIdx, Std.HashMap.getElem?_erase]
    simp only [List.getElem?_drop]
    constructor
    · rintro (⟨d, there, rfl⟩ | ⟨absent, entry⟩)
      · rw [if_neg (by omega)]
        exact (by rw [show i + d + 1 = i + 1 + d by omega]; exact there)
      · split at entry
        · cases entry
        · have there := (h k' j).mp entry
          by_cases before : j < i
          · rwa [if_pos before]
          · rename_i other
            have differs : j ≠ i := by
              rintro rfl
              exact other (by simpa using (Option.some.inj (there.symm.trans place)).symm)
            refine absurd (List.mem_of_getElem? (i := j - (i + 1)) ?_) absent
            rw [List.getElem?_drop, show i + 1 + (j - (i + 1)) = j by omega]
            exact there
    · intro there
      split at there
      · rename_i before
        have differs : k ≠ k' := by
          rintro rfl
          have : i = j := Option.some.inj (found.symm.trans ((h k j).mpr there))
          omega
        refine .inr ⟨?_, ?_⟩
        · intro member
          obtain ⟨d, place'⟩ := List.mem_iff_getElem?.mp member
          rw [List.getElem?_drop] at place'
          have : j = i + 1 + d := Option.some.inj (((h k' j).mpr there).symm.trans ((h k' _).mpr place'))
          omega
        · simpa [differs] using (h k' j).mpr there
      · exact .inl ⟨j - i, by rw [show i + 1 + (j - i) = j + 1 by omega]; exact there, by omega⟩

theorem Consistent.toListRemove (h : r.Consistent) (k : κ) :
    (r.remove k).toList = r.toList.filter fun x => Keyed.key x != k := by
  cases found : r.index[k]? with
  | none =>
    have absent := h.indexNone.mp found
    simp only [Registry.remove, erase, found]
    symm
    rw [List.filter_eq_self]
    intro x member
    simpa using fun same => absent (memKeys.mpr ⟨x, member, same⟩)
  | some i =>
    rw [(h.eraseAt found).1]
    have place := (h k i).mp found
    obtain ⟨x, there, same⟩ := by simpa only [keys, List.getElem?_map, Option.map_eq_some_iff] using place
    obtain ⟨bound, atI⟩ := List.getElem?_eq_some_iff.mp there
    have split : r.toList = r.toList.take i ++ x :: r.toList.drop (i + 1) := by
      rw [← atI, ← List.drop_eq_getElem_cons bound, List.take_append_drop]
    have others : ∀ y ∈ r.toList.take i ++ r.toList.drop (i + 1), (Keyed.key y != k) = true := by
      intro y member
      have distinct := h.keysNodup
      rw [keys, split, List.map_append, List.map_cons, List.nodup_append] at distinct
      obtain ⟨_, tail, apart⟩ := distinct
      rw [bne_iff_ne]
      rcases List.mem_append.mp member with before | after
      · exact same ▸ apart _ (List.mem_map_of_mem before) _ List.mem_cons_self
      · intro eq
        exact (List.nodup_cons.mp tail).1 (same.trans eq.symm ▸ List.mem_map_of_mem after)
    rw [List.eraseIdx_eq_take_drop_succ]
    conv_rhs => rw [split]
    rw [List.filter_append, List.filter_cons_of_neg (by simp [same]), ← List.filter_append,
      List.filter_eq_self.mpr others]

theorem Consistent.getRemove (h : r.Consistent) (k k' : κ) :
    (r.remove k).get? k' = if k' = k then none else r.get? k' := by
  apply Option.ext
  intro x
  rw [(h.remove k).getIff, h.toListRemove, List.mem_filter, bne_iff_ne]
  split
  · rename_i eq
    constructor
    · rintro ⟨⟨_, other⟩, same⟩
      exact absurd (same.trans eq) other
    · intro impossible
      cases impossible
  · rename_i other
    rw [h.getIff]
    constructor
    · rintro ⟨⟨member, _⟩, same⟩
      exact ⟨member, same⟩
    · rintro ⟨member, same⟩
      exact ⟨⟨member, same ▸ other⟩, same⟩

theorem Consistent.foundModify (h : r.Consistent) (k : κ) {f : τ → τ}
    (keeps : ∀ x, Keyed.key x = k → Keyed.key (f x) = k) {k' : κ} {x : τ} :
    (r.modify k f).get? k' = some x ↔ ∃ y, r.get? k' = some y ∧ (if k' = k then f y else y) = x := by
  rw [h.getModify k keeps]
  split
  · rename_i same
    rw [same, Option.map_eq_some_iff]
  · simp

theorem Consistent.presentModify (h : r.Consistent) (k : κ) {f : τ → τ}
    (keeps : ∀ x, Keyed.key x = k → Keyed.key (f x) = k) (k' : κ) :
    (∃ x, (r.modify k f).get? k' = some x) ↔ ∃ x, r.get? k' = some x := by
  constructor
  · rintro ⟨_, found⟩
    obtain ⟨y, before, _⟩ := (h.foundModify k keeps).mp found
    exact ⟨y, before⟩
  · rintro ⟨y, found⟩
    exact ⟨_, (h.foundModify k keeps).mpr ⟨y, found, rfl⟩⟩

theorem Consistent.foundAdd (h : r.Consistent) {x y : τ} {k : κ} (found : (r.add x).get? k = some y) :
    (Keyed.key x = k ∧ x = y) ∨ r.get? k = some y := by
  rw [h.getAdd] at found
  split at found
  · rename_i same
    exact .inl ⟨same, Option.some.inj found⟩
  · exact .inr found

theorem Consistent.keptAdd (h : r.Consistent) {x y : τ} {k : κ} (absent : r.get? (Keyed.key x) = none)
    (found : r.get? k = some y) : (r.add x).get? k = some y := by
  rw [h.getAdd, if_neg]
  · exact found
  · rintro rfl
    exact nomatch absent.symm.trans found

theorem Consistent.foundFilter (h : r.Consistent) {keep : τ → Bool} {k : κ} {x : τ} :
    (r.filter keep).get? k = some x ↔ r.get? k = some x ∧ keep x = true := by
  rw [h.getFilter, Option.filter_eq_some_iff]

theorem Consistent.foundRemove (h : r.Consistent) {k k' : κ} {x : τ} :
    (r.remove k).get? k' = some x ↔ k' ≠ k ∧ r.get? k' = some x := by
  rw [h.getRemove]
  split
  · rename_i same
    simp [same]
  · rename_i other
    simp [other]

theorem Consistent.addAll (h : r.Consistent) (xs : List τ) : (xs.foldl Registry.add r).Consistent := by
  induction xs generalizing r with
  | nil => exact h
  | cons x xs ih => exact ih (h.add x)

theorem Consistent.toListAddAll (h : r.Consistent) {xs : List τ} (distinct : (xs.map Keyed.key).Nodup)
    (fresh : ∀ x ∈ xs, Keyed.key x ∉ r.keys) : (xs.foldl Registry.add r).toList = r.toList ++ xs := by
  induction xs generalizing r with
  | nil => simp
  | cons x xs ih =>
    obtain ⟨first, distinct⟩ := List.nodup_cons.mp distinct
    have absent := fresh x List.mem_cons_self
    rw [List.foldl_cons, ih (h.add x) distinct, h.toListAdd, if_neg absent, List.append_assoc, List.singleton_append]
    intro y member there
    rw [h.keysAddNew absent, List.mem_append, List.mem_singleton] at there
    rcases there with old | same
    · exact fresh y (List.mem_cons_of_mem _ member) old
    · exact first (same ▸ List.mem_map_of_mem member)

theorem Consistent.getAddAll (h : r.Consistent) (xs : List τ) (k : κ) :
    (xs.foldl Registry.add r).get? k = (xs.reverse.find? fun x => Keyed.key x = k).or (r.get? k) := by
  induction xs generalizing r with
  | nil => simp
  | cons x xs ih =>
    rw [List.foldl_cons, ih (h.add x), h.getAdd, List.reverse_cons, List.find?_append, Option.or_assoc]
    congr 1
    by_cases same : Keyed.key x = k
    · simp [same]
    · simp [same]

theorem Consistent.foundAddAll (h : r.Consistent) {xs : List τ} {k : κ} {x : τ}
    (found : (xs.foldl Registry.add r).get? k = some x) : (x ∈ xs ∧ Keyed.key x = k) ∨ r.get? k = some x := by
  rw [h.getAddAll] at found
  cases last : xs.reverse.find? fun x => Keyed.key x = k with
  | none =>
    rw [last] at found
    exact .inr found
  | some y =>
    rw [last] at found
    obtain rfl : y = x := Option.some.inj found
    exact .inl ⟨List.mem_reverse.mp (List.mem_of_find?_eq_some last), by simpa using List.find?_some last⟩

theorem Consistent.getAddAllOther (h : r.Consistent) {xs : List τ} {k : κ} (absent : k ∉ xs.map Keyed.key) :
    (xs.foldl Registry.add r).get? k = r.get? k := by
  rw [h.getAddAll]
  have none : (xs.reverse.find? fun x => Keyed.key x = k) = none := by
    rw [List.find?_eq_none]
    intro x member
    have keyed : Keyed.key x ≠ k := fun same =>
      absent (List.mem_map.mpr ⟨x, List.mem_reverse.mp member, same⟩)
    simp [keyed]
  rw [none, Option.none_or]

theorem Consistent.addAllPresent (h : r.Consistent) {xs : List τ} {x : τ} (member : x ∈ xs) :
    ∃ y ∈ xs, Keyed.key y = Keyed.key x ∧ (xs.foldl Registry.add r).get? (Keyed.key x) = some y := by
  rw [h.getAddAll]
  cases last : xs.reverse.find? fun z => Keyed.key z = Keyed.key x with
  | none =>
    rw [List.find?_eq_none] at last
    exact absurd (last x (List.mem_reverse.mpr member)) (by simp)
  | some z =>
    exact ⟨z, List.mem_reverse.mp (List.mem_of_find?_eq_some last), by simpa using List.find?_some last, rfl⟩

theorem Consistent.getAddAllMem (h : r.Consistent) {xs : List τ} (distinct : (xs.map Keyed.key).Nodup) {x : τ}
    (member : x ∈ xs) : (xs.foldl Registry.add r).get? (Keyed.key x) = some x := by
  obtain ⟨y, there, same, found⟩ := h.addAllPresent member
  rw [found, List.inj_on_of_nodup_map distinct there member same]

theorem addsAppend {name : τ → σ} {P : τ → Prop} {early late : List σ} {before between after : Registry κ τ}
    (first : ∃ xs : List τ, xs.map name = early ∧ (∀ x ∈ xs, P x) ∧ between = xs.foldl Registry.add before)
    (next : ∃ ys : List τ, ys.map name = late ∧ (∀ y ∈ ys, P y) ∧ after = ys.foldl Registry.add between) :
    ∃ zs : List τ, zs.map name = early ++ late ∧ (∀ z ∈ zs, P z) ∧ after = zs.foldl Registry.add before := by
  obtain ⟨xs, rfl, ours, rfl⟩ := first
  obtain ⟨ys, rfl, ours', rfl⟩ := next
  exact ⟨xs ++ ys, List.map_append, List.forall_mem_append.mpr ⟨ours, ours'⟩, List.foldl_append.symm⟩

theorem getFilled {xs : List τ} (distinct : (xs.map Keyed.key).Nodup) {k : κ} {x : τ} :
    (xs.foldl Registry.add {}).get? k = some x ↔ x ∈ xs ∧ Keyed.key x = k := by
  constructor
  · intro found
    rcases emptyConsistent.foundAddAll found with there | none
    · exact there
    · simp [Registry.get?] at none
  · rintro ⟨member, rfl⟩
    exact emptyConsistent.getAddAllMem distinct member

theorem Consistent.flatMapNodup (h : r.Consistent) {f : τ → List β} (owner : β → γ) {tag : κ → γ}
    (injective : Function.Injective tag) (each : ∀ x ∈ r.toList, (f x).Nodup)
    (owned : ∀ x ∈ r.toList, ∀ y ∈ f x, owner y = tag (Keyed.key x)) : (r.toList.flatMap f).Nodup := by
  have apart : r.toList.Pairwise fun x y => Keyed.key x ≠ Keyed.key y := List.pairwise_map.mp h.keysNodup
  refine List.nodup_flatMap.mpr ⟨each, apart.imp_of_mem fun {x y} left right differs z first second => ?_⟩
  exact differs (injective ((owned x left z first).symm.trans (owned y right z second)))

omit [DecidableEq κ] [Hashable κ] [Keyed κ τ] in
theorem filterMapOther {f : τ → τ} {keep : τ → Bool} {xs : List τ}
    (apart : ∀ x ∈ xs, f x = x ∨ keep x = false ∧ keep (f x) = false) : (xs.map f).filter keep = xs.filter keep := by
  induction xs with
  | nil => rfl
  | cons x xs ih =>
    have later := ih fun y member => apart y (List.mem_cons_of_mem _ member)
    rw [List.map_cons, List.filter_cons, List.filter_cons, later]
    rcases apart x List.mem_cons_self with same | ⟨before, after⟩
    · rw [same]
    · simp [before, after]

omit [DecidableEq κ] [Hashable κ] [Keyed κ τ] in
theorem filterOther {keep kept : τ → Bool} {xs : List τ} (apart : ∀ x ∈ xs, kept x = false → keep x = false) :
    (xs.filter kept).filter keep = xs.filter keep := by
  rw [List.filter_filter]
  refine List.filter_congr fun x member => ?_
  cases there : kept x with
  | true => rw [Bool.and_true]
  | false => rw [apart x member there, Bool.and_false]

theorem Consistent.removeOther (h : r.Consistent) {k : κ} {keep : τ → Bool} (apart : ∀ x, r.get? k = some x → keep x = false) :
    (r.remove k).toList.filter keep = r.toList.filter keep := by
  rw [h.toListRemove]
  refine filterOther fun x member gone => ?_
  have named : Keyed.key x = k := bne_eq_false_iff_eq.mp gone
  exact apart x (named ▸ h.getOfMem member)

theorem Consistent.modifyOther (h : r.Consistent) {k : κ} {f : τ → τ} {keep : τ → Bool}
    (apart : ∀ x, r.get? k = some x → keep x = false ∧ keep (f x) = false) :
    (r.modify k f).toList.filter keep = r.toList.filter keep := by
  rw [h.toListModify]
  refine filterMapOther fun x member => ?_
  by_cases same : Keyed.key x = k
  · rw [if_pos same]
    exact .inr (apart x (same ▸ h.getOfMem member))
  · exact .inl (if_neg same)

theorem Consistent.addOther (h : r.Consistent) {x : τ} {keep : τ → Bool} (dropped : keep x = false)
    (apart : ∀ y, r.get? (Keyed.key x) = some y → keep y = false) :
    (r.add x).toList.filter keep = r.toList.filter keep := by
  rw [h.toListAdd]
  split
  · refine filterMapOther fun y member => ?_
    by_cases same : Keyed.key y = Keyed.key x
    · rw [if_pos same]
      exact .inr ⟨apart y (same ▸ h.getOfMem member), dropped⟩
    · exact .inl (if_neg same)
  · rw [List.filter_append, List.filter_cons_of_neg (by simp [dropped]), List.filter_nil, List.append_nil]

theorem Consistent.addAllOther (h : r.Consistent) {xs : List τ} {keep : τ → Bool}
    (dropped : ∀ x ∈ xs, keep x = false) (apart : ∀ x ∈ xs, ∀ y, r.get? (Keyed.key x) = some y → keep y = false) :
    (xs.foldl Registry.add r).toList.filter keep = r.toList.filter keep := by
  induction xs generalizing r with
  | nil => rfl
  | cons x xs ih =>
    rw [List.foldl_cons]
    refine (ih (h.add x) (fun y member => dropped y (List.mem_cons_of_mem _ member)) ?_).trans
      (h.addOther (dropped x List.mem_cons_self) (apart x List.mem_cons_self))
    intro y member z found
    rcases h.foundAdd found with ⟨_, rfl⟩ | before
    · exact dropped x List.mem_cons_self
    · exact apart y (List.mem_cons_of_mem _ member) z before

theorem Consistent.listAddNew (h : r.Consistent) {x : τ} (absent : r.get? (Keyed.key x) = none) :
    (r.add x).toList.filter (fun y => Keyed.key y != Keyed.key x) = r.toList := by
  refine Eq.trans (h.addOther ?_ ?_) ?_
  · exact bne_eq_false_iff_eq.mpr rfl
  · exact fun y found => nomatch absent.symm.trans found
  refine List.filter_eq_self.mpr fun y member => bne_iff_ne.mpr fun same => ?_
  have found := h.getOfMem member
  rw [same, absent] at found
  cases found

end Changes

section Same
variable {r q : Registry κ τ}

structure Same (r q : Registry κ τ) : Prop where
  list : q.toList = r.toList
  places : ∀ k, q.position? k = r.position? k

omit [Keyed κ τ] in
theorem Same.refl (r : Registry κ τ) : Same r r := ⟨rfl, fun _ => rfl⟩

omit [Keyed κ τ] in
theorem Same.get (h : Same r q) (k : κ) : q.get? k = r.get? k := by
  have items : q.items = r.items := Array.toList_inj.mp h.list
  have place : q.index[k]? = r.index[k]? := h.places k
  rw [get?, get?, place, items]

theorem Consistent.samePlaces (hr : r.Consistent) (hq : q.Consistent) (keys : q.keys = r.keys) (k : κ) :
    q.position? k = r.position? k := by
  apply Option.ext
  intro i
  change q.index[k]? = some i ↔ r.index[k]? = some i
  rw [hq k i, hr k i, keys]

theorem Consistent.same (hr : r.Consistent) (hq : q.Consistent) (list : q.toList = r.toList) : Same r q :=
  ⟨list, hr.samePlaces hq (by rw [keys, list, keys])⟩

theorem Consistent.sameRemoved (h : r.Consistent) {x : τ} (absent : r.get? (Keyed.key x) = none) :
    Same r ((r.add x).remove (Keyed.key x)) :=
  h.same ((h.add x).remove _) (((h.add x).toListRemove _).trans (h.listAddNew absent))

end Same
end Drafting.Registry
