import Drafting.Proofs.Registry
/-! Registries against plain lists of records. The list is searched from the front and knows no index;
whatever calls are made on an empty registry, it answers as the list does, call by call, and keeps the
records in the order of the list. -/
namespace Drafting.Registry

section Listing
variable {κ τ : Type} [DecidableEq κ] [Keyed κ τ]

def listFind (key : κ) (items : List τ) : Option τ := items.find? fun x => Keyed.key x = key

def listPlace (key : κ) (items : List τ) : Option Nat := items.findIdx? fun x => Keyed.key x = key

def listUpdate (key : κ) (f : τ → τ) : List τ → List τ
  | [] => []
  | head :: rest => if Keyed.key head = key then f head :: rest else head :: listUpdate key f rest

def listInsert (item : τ) : List τ → List τ
  | [] => [item]
  | head :: rest =>
    if Keyed.key head = Keyed.key item then item :: rest else head :: listInsert item rest

def listRemove (key : κ) (items : List τ) : List τ := items.eraseP fun x => Keyed.key x = key

/- Where keys differ there is one record to write over, so writing over all of the key is the same. -/
theorem listUpdateMap {items : List τ} (distinct : (items.map Keyed.key).Nodup) (key : κ) (f : τ → τ) :
    listUpdate key f items = items.map fun x => if Keyed.key x = key then f x else x := by
  induction items with
  | nil => rfl
  | cons head rest ih =>
    obtain ⟨fresh, distinct⟩ := List.nodup_cons.mp distinct
    rw [listUpdate, List.map_cons]
    by_cases same : Keyed.key head = key
    · have others : ∀ x ∈ rest, (if Keyed.key x = key then f x else x) = x := by
        intro x member
        exact if_neg fun eq => fresh (List.mem_map.mpr ⟨x, member, eq.trans same.symm⟩)
      rw [if_pos same, if_pos same, List.map_congr_left others, List.map_id']
    · rw [if_neg same, if_neg same, ih distinct]

theorem listInsertUpdate (item : τ) (items : List τ) : listInsert item items =
    if Keyed.key item ∈ items.map Keyed.key then listUpdate (Keyed.key item) (fun _ => item) items
    else items ++ [item] := by
  induction items with
  | nil => rfl
  | cons head rest ih =>
    rw [listInsert, List.map_cons, ih]
    by_cases same : Keyed.key head = Keyed.key item
    · simp [listUpdate, same]
    · by_cases there : Keyed.key item ∈ rest.map Keyed.key
      · simp [listUpdate, same, there]
      · rw [if_neg same, if_neg there, if_neg, List.cons_append]
        exact List.not_mem_cons_of_ne_of_not_mem (Ne.symm same) there

theorem listRemoveFilter {items : List τ} (distinct : (items.map Keyed.key).Nodup) (key : κ) :
    listRemove key items = items.filter fun x => Keyed.key x != key := by
  induction items with
  | nil => rfl
  | cons head rest ih =>
    obtain ⟨fresh, distinct⟩ := List.nodup_cons.mp distinct
    by_cases same : Keyed.key head = key
    · have others : ∀ x ∈ rest, (Keyed.key x != key) = true := by
        intro x member
        exact bne_iff_ne.mpr fun eq => fresh (List.mem_map.mpr ⟨x, member, eq.trans same.symm⟩)
      rw [listRemove, List.eraseP_cons_of_pos (by simpa using same),
        List.filter_cons_of_neg (by simpa using same), List.filter_eq_self.mpr others]
    · rw [listRemove, List.eraseP_cons_of_neg (by simpa using same),
        List.filter_cons_of_pos (by simpa using same)]
      exact congrArg (head :: ·) (ih distinct)

end Listing

variable {κ τ : Type} [DecidableEq κ] [Hashable κ] [Keyed κ τ]

/-- One call of a registry. Records are changed in place with their keys kept. As all keys differ, a
test with a memory keeps what some test without one keeps. -/
inductive Call (κ τ : Type) [Keyed κ τ] where
  | insert (item : τ)
  | remove (key : κ)
  | retain (keep : τ → Bool)
  | update (key : κ) (f : τ → τ) (keeps : ∀ x, Keyed.key x = key → Keyed.key (f x) = key)
  | updateAll (f : τ → τ) (keeps : ∀ x, Keyed.key (f x) = Keyed.key x)
  | clear
  | reload

def Call.on (r : Registry κ τ) : Call κ τ → Option τ × Registry κ τ
  | .insert item => r.insert item
  | .remove key => r.erase key
  | .retain keep => (none, r.filter keep)
  | .update key f _ => (r.get? key, r.modify key f)
  | .updateAll f _ => (none, r.map f)
  | .clear => (none, {})
  | .reload => (none, ofList r.toList)

def Call.onList (items : List τ) : Call κ τ → Option τ × List τ
  | .insert item => (listFind (Keyed.key item) items, listInsert item items)
  | .remove key => (listFind key items, listRemove key items)
  | .retain keep => (none, items.filter keep)
  | .update key f _ => (listFind key items, listUpdate key f items)
  | .updateAll f _ => (none, items.map f)
  | .clear => (none, [])
  | .reload => (none, items)

def calls {σ : Type} (on : σ → Call κ τ → Option τ × σ) (state : σ) : List (Call κ τ) → List (Option τ) × σ
  | [] => ([], state)
  | call :: rest =>
    let (old, next) := on state call
    let (olds, last) := calls on next rest
    (old :: olds, last)

/-- Every question about a registry is answered as by a list with distinct keys, and the index holds
the place of each key and nothing else. -/
structure Agrees (r : Registry κ τ) (items : List τ) : Prop where
  listed : r.toList = items
  distinct : (items.map Keyed.key).Nodup
  index : ∀ (k : κ) (i : Nat), r.index[k]? = some i ↔ (items.map Keyed.key)[i]? = some k
  keys : r.keys = items.map Keyed.key
  size : r.size = items.length
  contains : ∀ k, r.contains k = (listFind k items).isSome
  found : ∀ k, r.get? k = listFind k items
  place : ∀ k, r.position? k = listPlace k items

section Answers
variable {r : Registry κ τ}

theorem Consistent.getFind (h : r.Consistent) (k : κ) : r.get? k = listFind k r.toList := by
  cases found : listFind k r.toList with
  | none =>
    rw [h.getNone, memKeys]
    rintro ⟨x, member, same⟩
    exact List.find?_eq_none.mp found x member (by simpa using same)
  | some x =>
    have same : Keyed.key x = k := by simpa using List.find?_some found
    exact h.getIff.mpr ⟨List.mem_of_find?_eq_some found, same⟩

theorem Consistent.placeFind (h : r.Consistent) (k : κ) : r.position? k = listPlace k r.toList := by
  cases first : listPlace k r.toList with
  | none =>
    rw [position?, h.indexNone, memKeys]
    rintro ⟨x, member, same⟩
    have apart := List.findIdx?_eq_none_iff.mp first x member
    simp [same] at apart
  | some i =>
    obtain ⟨bound, same, _⟩ := List.findIdx?_eq_some_iff_getElem.mp first
    rw [position?, h k i, Registry.keys, List.getElem?_map, List.getElem?_eq_getElem bound, Option.map_some]
    exact congrArg some (by simpa using same)

theorem Consistent.agrees (h : r.Consistent) : r.Agrees r.toList where
  listed := rfl
  distinct := h.keysNodup
  index := h
  keys := rfl
  size := Array.length_toList.symm
  contains k := by
    rw [← h.getFind, Bool.eq_iff_iff, h.containsIff, Option.isSome_iff_exists]
  found := h.getFind
  place := h.placeFind

end Answers

section Steps
variable {r : Registry κ τ}

theorem eraseOld (k : κ) : (r.erase k).1 = r.get? k := by
  rw [erase, get?]
  cases r.index[k]? <;> rfl

theorem insertOld (item : τ) : (r.insert item).1 = r.get? (Keyed.key item) := by
  rw [insert, get?]
  cases r.index[Keyed.key item]? <;> rfl

theorem Call.consistent (h : r.Consistent) (call : Call κ τ) : (call.on r).2.Consistent := by
  cases call with
  | insert item => exact h.add item
  | remove key => exact h.remove key
  | retain keep => exact h.filter keep
  | update key f keeps => exact h.modify key keeps
  | updateAll f keeps => exact h.map keeps
  | clear => exact emptyConsistent
  | reload => exact ofListConsistent h.keysNodup

theorem Call.old (h : r.Consistent) (call : Call κ τ) : (call.on r).1 = (call.onList r.toList).1 := by
  cases call with
  | insert item => exact (insertOld item).trans (h.getFind _)
  | remove key => exact (eraseOld key).trans (h.getFind key)
  | update key f keeps => exact h.getFind key
  | _ => rfl

theorem Call.listed (h : r.Consistent) (call : Call κ τ) :
    (call.on r).2.toList = (call.onList r.toList).2 := by
  cases call with
  | insert item =>
    show (r.add item).toList = listInsert item r.toList
    rw [h.toListAdd, listInsertUpdate, listUpdateMap h.keysNodup]
    rfl
  | remove key => exact (h.toListRemove key).trans (listRemoveFilter h.keysNodup key).symm
  | update key f keeps => exact (h.toListModify key f).trans (listUpdateMap h.keysNodup key f).symm
  | updateAll f keeps => exact toListMap f
  | _ => rfl

theorem callsFrom (h : r.Consistent) (row : List (Call κ τ)) :
    (calls Call.on r row).1 = (calls Call.onList r.toList row).1 ∧
      (calls Call.on r row).2.Agrees (calls Call.onList r.toList row).2 := by
  induction row generalizing r with
  | nil => exact ⟨rfl, h.agrees⟩
  | cons call rest ih =>
    obtain ⟨olds, last⟩ := ih (call.consistent h)
    rw [call.listed h] at olds last
    exact ⟨congrArg₂ List.cons (call.old h) olds, last⟩

end Steps

/- The row may end anywhere, so this holds after every call of it. -/
theorem callsAgree (row : List (Call κ τ)) :
    (calls Call.on ({} : Registry κ τ) row).1 = (calls Call.onList [] row).1 ∧
      (calls Call.on ({} : Registry κ τ) row).2.Agrees (calls Call.onList [] row).2 :=
  callsFrom emptyConsistent row

end Drafting.Registry
