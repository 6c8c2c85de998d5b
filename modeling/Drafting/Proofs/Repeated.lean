import Drafting.Proofs.Mapping
import Drafting.Sketch.Basic
/-! Registries made from lists in which keys are repeated. The index knows at most one record of a key, and may lose
it while others of that key stay; what it does know is right, and no call makes it wrong. So a call finds a record
of the key it was given or adds to what is there, and never looks beyond the records. -/
namespace Drafting.Registry
variable {κ τ : Type} [DecidableEq κ] [Hashable κ] [Keyed κ τ]

def Sound (r : Registry κ τ) : Prop := ∀ (k : κ) (i : Nat), r.position? k = some i → r.keys[i]? = some k

structure Known (r : Registry κ τ) (k : κ) (i : Nat) (x : τ) : Prop where
  there : r.toList[i]? = some x
  keyed : Keyed.key x = k
  contains : r.contains k = true
  get : r.get? k = some x
  modify : ∀ f, (r.modify k f).toList = r.toList.set i (f x)
  insert : ∀ y, Keyed.key y = k → (r.insert y).1 = some x ∧ (r.insert y).2.toList = r.toList.set i y
  erase : (r.erase k).1 = some x ∧ (r.erase k).2.toList = r.toList.eraseIdx i

structure Unknown (r : Registry κ τ) (k : κ) : Prop where
  contains : r.contains k = false
  get : r.get? k = none
  modify : ∀ f, r.modify k f = r
  insert : ∀ y, Keyed.key y = k → (r.insert y).1 = none ∧ (r.insert y).2.toList = r.toList ++ [y]
  erase : r.erase k = (none, r)

section Answers
variable {r : Registry κ τ} {k : κ} {i : Nat}

theorem Sound.inside (h : r.Sound) (found : r.position? k = some i) :
    ∃ x, r.toList[i]? = some x ∧ Keyed.key x = k := by
  have keyed := h k i found
  rwa [keys, List.getElem?_map, Option.map_eq_some_iff] at keyed

theorem Sound.bound (h : r.Sound) (found : r.position? k = some i) : i < r.items.size := by
  obtain ⟨x, there, -⟩ := h.inside found
  rw [toList, Array.getElem?_toList] at there
  exact (Array.getElem?_eq_some_iff.mp there).1

theorem Sound.known (h : r.Sound) (found : r.position? k = some i) : ∃ x, r.Known k i x := by
  obtain ⟨x, there, keyed⟩ := h.inside found
  have entry : r.index[k]? = some i := found
  have get : r.get? k = some x := by
    rw [get?, entry, Option.bind_some, ← Array.getElem?_toList]
    exact there
  refine ⟨x, there, keyed, ?_, get, fun f => ?_, fun y same => ⟨?_, ?_⟩, (eraseOld k).trans get,
    (eraseInside entry (h.bound found)).1⟩
  · rw [contains, Std.HashMap.contains_eq_isSome_getElem?, entry, Option.isSome_some]
  · rw [modify, entry]
    refine Array.toList_modify.trans ?_
    rw [List.modify_eq_set_getElem?, ← toList, there]
    rfl
  · rw [insertOld, same, get]
  · subst same
    rw [insert, entry]
    exact Array.toList_setIfInBounds

theorem unknown (missing : r.position? k = none) : r.Unknown k := by
  have entry : r.index[k]? = none := missing
  refine ⟨?_, ?_, fun f => ?_, fun y same => ?_, ?_⟩
  · rw [contains, Std.HashMap.contains_eq_isSome_getElem?, entry, Option.isSome_none]
  · rw [get?, entry, Option.bind_none]
  · rw [modify, entry]
  · subst same
    rw [insert, entry]
    exact ⟨rfl, Array.toList_push⟩
  · rw [erase, entry]

end Answers

section Calls
variable {r : Registry κ τ}

theorem ofListSound (items : List τ) : (ofList items).Sound := (ofListIndexed items).sound

theorem Sound.ofKeys {q : Registry κ τ} (h : r.Sound) (index : q.index = r.index) (keys : q.keys = r.keys) :
    q.Sound := by
  intro k i found
  rw [keys]
  exact h k i (by rwa [position?, ← index])

theorem keysSet {k : κ} {i : Nat} (there : r.keys[i]? = some k) {y : τ} (same : Keyed.key y = k) :
    (r.toList.set i y).map Keyed.key = r.keys := by
  obtain ⟨bound, at_⟩ := List.getElem?_eq_some_iff.mp there
  rw [List.map_set, same, ← at_]
  exact List.set_getElem_self bound

theorem Sound.insert (h : r.Sound) (x : τ) : (r.insert x).2.Sound := by
  cases place : r.position? (Keyed.key x) with
  | some i =>
    obtain ⟨old, known⟩ := h.known place
    have entry : r.index[Keyed.key x]? = some i := place
    refine h.ofKeys (by rw [Registry.insert, entry]) ?_
    rw [keys, (known.insert x rfl).2, keysSet (h _ i place) rfl]
  | none =>
    have entry : r.index[Keyed.key x]? = none := place
    have index : (r.insert x).2.index = r.index.insert (Keyed.key x) r.items.size := by rw [Registry.insert, entry]
    have keysAfter : (r.insert x).2.keys = r.keys ++ [Keyed.key x] := by
      rw [keys, ((unknown place).insert x rfl).2, List.map_append, keys]
      rfl
    intro k i found
    rw [position?, index, Std.HashMap.getElem?_insert] at found
    rw [keysAfter]
    split at found
    · rename_i same
      cases found
      have last : r.items.size = r.keys.length := by simp [keys, toList]
      rw [last, List.getElem?_concat_length, eq_of_beq same]
    · have before := h k i found
      rw [List.getElem?_append_left (List.getElem?_eq_some_iff.mp before).1]
      exact before

theorem Sound.erase (h : r.Sound) (k : κ) : (r.erase k).2.Sound := by
  cases place : r.position? k with
  | none =>
    rw [(unknown place).erase]
    exact h
  | some i =>
    obtain ⟨list, index⟩ := eraseInside place (h.bound place)
    have keysAfter : (r.remove k).keys = r.keys.eraseIdx i := by rw [keys, list, keys, List.eraseIdx_map]
    have later : (r.toList.drop (i + 1)).map Keyed.key = r.keys.drop (i + 1) := List.map_drop
    change (r.remove k).Sound
    intro k' j found
    rw [position?, index] at found
    rw [keysAfter, List.getElem?_eraseIdx]
    rcases enterSound found with ⟨absent, entry⟩ | ⟨d, rfl, there⟩
    · rw [Std.HashMap.getElem?_erase] at entry
      split at entry
      · cases entry
      rename_i other
      have there := h k' j entry
      rw [later] at absent
      rcases Nat.lt_trichotomy j i with before | rfl | after
      · rwa [if_pos before]
      · exact absurd (Option.some.inj ((h k j place).symm.trans there)) fun same => other (by simp [same])
      · refine absurd (List.mem_of_getElem? (i := j - (i + 1)) ?_) absent
        rw [List.getElem?_drop, show i + 1 + (j - (i + 1)) = j by omega]
        exact there
    · rw [later, List.getElem?_drop] at there
      rw [if_neg (by omega), show i + d + 1 = i + 1 + d by omega]
      exact there

theorem Sound.modify (h : r.Sound) (k : κ) {f : τ → τ} (keeps : ∀ x, Keyed.key x = k → Keyed.key (f x) = k) :
    (r.modify k f).Sound := by
  refine h.ofKeys (indexModify k f) ?_
  cases place : r.position? k with
  | none => rw [(unknown place).modify]
  | some i =>
    obtain ⟨x, known⟩ := h.known place
    rw [keys, known.modify, keysSet (h k i place) (keeps x known.keyed)]

theorem Call.sound (h : r.Sound) (call : Call κ τ) : (call.on r).2.Sound := by
  cases call with
  | insert item => exact h.insert item
  | remove key => exact h.erase key
  | retain keep => exact ofListSound _
  | update key f keeps => exact h.modify key keeps
  | updateAll f keeps =>
    refine h.ofKeys (q := r.map f) rfl ?_
    rw [keys, toListMap, List.map_map, keys]
    exact List.map_congr_left fun x _ => keeps x
  | clear => exact emptyConsistent.indexed.sound
  | reload => exact ofListSound _

end Calls

/-- What calls make of a registry that was made from a list. A test with a memory may keep one of two equal records and
not the other, so any part of the records may be what is kept. -/
inductive Loaded (items : List τ) : Registry κ τ → Prop where
  | made : Loaded items (ofList items)
  | call {r} (before : Loaded items r) (call : Call κ τ) : Loaded items (call.on r).2
  | kept {r part} (before : Loaded items r) (among : part.Sublist r.toList) : Loaded items (ofList part)

theorem Loaded.sound {items : List τ} {r : Registry κ τ} (h : Loaded items r) : r.Sound := by
  induction h with
  | made => exact ofListSound items
  | call _ call ih => exact call.sound ih
  | kept => exact ofListSound _

theorem loadedAnswers {items : List τ} {r : Registry κ τ} (h : Loaded items r) (k : κ) :
    (∀ i, r.position? k = some i → ∃ x, r.Known k i x) ∧ (r.position? k = none → r.Unknown k) :=
  ⟨fun _ found => h.sound.known found, unknown⟩

theorem hiddenRecordShows :
    let p : ParamId := .request ⟨1⟩ 0
    let q : ParamId := .request ⟨1⟩ 1
    let first : Param Nat := ⟨p, ⟨1⟩, 5⟩
    let other : Param Nat := ⟨q, ⟨1⟩, 6⟩
    let second : Param Nat := ⟨p, ⟨1⟩, 7⟩
    let r := ofList [first, other, second]
    Loaded [first, other, second] r ∧ r.Known p 2 second ∧ (r.remove p).toList = [first, other] ∧
      (r.remove p).Unknown p ∧ ((r.remove p).filter fun _ => true).Known p 0 first := by
  intro p q first other second r
  have start : Loaded [first, other, second] r := .made
  have removed : Loaded [first, other, second] (r.remove p) := .call start (.remove p)
  have last : r.position? p = some 2 := Std.HashMap.getElem?_insert_self
  obtain ⟨x, known⟩ := (loadedAnswers start p).1 2 last
  obtain rfl : second = x := Option.some.inj known.there
  have list : (r.remove p).toList = [first, other] := known.erase.2
  have lost : (r.remove p).position? p = none := by
    rw [position?, (eraseInside last (by decide)).2]
    exact Std.HashMap.getElem?_erase_self
  have again : (r.remove p).filter (fun _ => true) = ofList [first, other] := by rw [filter, list]; rfl
  have kept : Loaded [first, other, second] (ofList [first, other]) :=
    again ▸ .call removed (.retain fun _ => true)
  have front : (ofList [first, other]).position? p = some 0 :=
    (Std.HashMap.getElem?_insert.trans (if_neg (by decide))).trans Std.HashMap.getElem?_insert_self
  obtain ⟨y, shown⟩ := (loadedAnswers kept p).1 0 front
  obtain rfl : first = y := Option.some.inj shown.there
  exact ⟨start, known, list, (loadedAnswers removed p).2 lost, again ▸ shown⟩

end Drafting.Registry
