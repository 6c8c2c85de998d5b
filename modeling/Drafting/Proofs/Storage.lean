import Mathlib.Tactic.Common
import Drafting.Linear.Banded
/-! Storage of a banded system. The places of two entries never meet, so an entry that is stored is the only one to
change, and a system that is entered reads as it was. -/
namespace Drafting.Linear.Banded
variable {α : Type} {m : Banded α} {n below above i j i' j' : Nat}

structure Shaped (m : Banded α) (n below above : Nat) : Prop where
  size : m.size = n
  left : m.left = below
  right : m.right = above
  wide : tailWidth < n
  lower : 0 < below
  band : m.band.size = n * (below + above + 1)
  tail : m.tail.size = n * tailWidth
  rhs : m.rhs.size = n

def Inside (m : Banded α) : Cell → Prop
  | .band k => k < m.band.size
  | .tail k => k < m.tail.size

theorem rowMajorInside {n w i u : Nat} (row : i < n) (column : u < w) : i * w + u < n * w :=
  calc
    i * w + u < i * w + w := Nat.add_lt_add_left column _
    _ = (i + 1) * w := (Nat.succ_mul i w).symm
    _ ≤ n * w := Nat.mul_le_mul_right w row

theorem rowMajorApart {w i i' u u' : Nat} (column : u < w) (column' : u' < w) (same : i * w + u = i' * w + u') :
    i = i' ∧ u = u' := by
  have some : 0 < w := Nat.zero_lt_of_lt column
  have split (i : Nat) {u : Nat} (column : u < w) : (i * w + u) / w = i ∧ (i * w + u) % w = u :=
    (Nat.div_mod_unique some).mpr ⟨by rw [Nat.add_comm, Nat.mul_comm], column⟩
  obtain ⟨row, rest⟩ := split i column
  obtain ⟨row', rest'⟩ := split i' column'
  rw [same] at row rest
  exact ⟨row.symm.trans row', rest.symm.trans rest'⟩

theorem Shaped.fitsIff (shape : Shaped m n below above) :
    m.fits i j ↔ n ≤ j + tailWidth ∨ i ≤ j + below ∧ j ≤ i + above := by
  rw [fits, tailStart, shape.size, shape.left, shape.right]
  simp only [Bool.or_eq_true, Bool.and_eq_true, decide_eq_true_eq, Nat.sub_le_iff_le_add]

theorem cellInside (shape : Shaped m n below above) (row : i < n) (column : j < n) (place : m.fits i j) :
    m.Inside (m.cell i j) := by
  have place := shape.fitsIff.mp place
  have wide := shape.wide
  unfold cell tailStart
  rw [shape.size, shape.left, shape.right]
  unfold tailWidth at *
  split
  · change _ < m.tail.size
    rw [shape.tail]
    exact rowMajorInside row (by omega)
  · change _ < m.band.size
    rw [shape.band]
    exact rowMajorInside row (by omega)

theorem cellApart (shape : Shaped m n below above) (column : j < n) (column' : j' < n) (place : m.fits i j)
    (place' : m.fits i' j') (same : m.cell i j = m.cell i' j') : i = i' ∧ j = j' := by
  have place := shape.fitsIff.mp place
  have place' := shape.fitsIff.mp place'
  have wide := shape.wide
  unfold cell tailStart at same
  rw [shape.size, shape.left, shape.right] at same
  unfold tailWidth at *
  split at same
  · split at same
    · obtain ⟨row, rest⟩ := rowMajorApart (by omega) (by omega) (Cell.tail.inj same)
      exact ⟨row, by omega⟩
    · cases same
  · split at same
    · cases same
    · obtain ⟨row, rest⟩ := rowMajorApart (by omega) (by omega) (Cell.band.inj same)
      exact ⟨row, by omega⟩

theorem storePlaced [Arith α] (place : m.fits i j) (x : α) : m.store i j x = (true, m.write (m.cell i j) x) := if_pos place

theorem storeDropped [Arith α] (absent : ¬ m.fits i j) (x : α) : m.store i j x = (false, m) := if_neg absent

theorem storeTells [Arith α] (m : Banded α) (i j : Nat) (x : α) : (m.store i j x).1 = m.fits i j := by
  by_cases place : m.fits i j
  · rw [storePlaced place, place]
  · rw [storeDropped place, Bool.eq_false_iff.mpr place]

theorem Shaped.set [Arith α] (shape : Shaped m n below above) (i j : Nat) (x : α) :
    Shaped (m.set i j x) n below above := by
  unfold Banded.set
  by_cases place : m.fits i j
  · rw [storePlaced place]
    unfold write
    split
    · exact { shape with band := Array.size_setIfInBounds.trans shape.band }
    · exact { shape with tail := Array.size_setIfInBounds.trans shape.tail }
  · rw [storeDropped place]
    exact shape

theorem Shaped.setRhs (shape : Shaped m n below above) (i : Nat) (x : α) : Shaped (m.setRhs i x) n below above :=
  { shape with rhs := Array.size_setIfInBounds.trans shape.rhs }

theorem rhsSet [Arith α] (m : Banded α) (i j : Nat) (x : α) : (m.set i j x).rhs = m.rhs := by
  unfold set
  by_cases place : m.fits i j
  · rw [storePlaced place]
    unfold write
    split <;> rfl
  · rw [storeDropped place]

theorem getSetRhs [Arith α] (m : Banded α) (k : Nat) (x : α) (i j : Nat) : (m.setRhs k x).get i j = m.get i j := rfl

theorem getDSet {xs : Array α} {k : Nat} (inside : k < xs.size) (k' : Nat) (x d : α) :
    (xs.setIfInBounds k x).getD k' d = if k' = k then x else xs.getD k' d := by
  rw [Array.getD_eq_getD_getElem?, Array.getD_eq_getD_getElem?, Array.getElem?_setIfInBounds]
  by_cases same : k = k'
  · rw [if_pos same, if_pos same.symm, if_pos inside, Option.getD_some]
  · rw [if_neg same, if_neg (Ne.symm same)]

theorem readWrite [Arith α] {c : Cell} (inside : m.Inside c) (c' : Cell) (x : α) :
    (m.write c x).read c' = if c' = c then x else m.read c' := by
  cases c with
  | band k =>
    cases c' with
    | band k' =>
      simp only [Cell.band.injEq]
      exact getDSet inside k' x _
    | tail k' => rfl
  | tail k =>
    cases c' with
    | band k' => rfl
    | tail k' =>
      simp only [Cell.tail.injEq]
      exact getDSet inside k' x _

theorem getSet [Arith α] (shape : Shaped m n below above) (row : i < n) (column : j < n) (place : m.fits i j) (x : α)
    (i' : Nat) (column' : j' < n) :
    (m.set i j x).get i' j' = if i' = i ∧ j' = j then x else m.get i' j' := by
  have fits : (m.set i j x).fits i' j' = m.fits i' j' := by
    rw [Bool.eq_iff_iff, (shape.set i j x).fitsIff, shape.fitsIff]
  have cell : (m.set i j x).cell i' j' = m.cell i' j' := by
    have again := shape.set i j x
    simp only [Banded.cell, tailStart, again.size, again.left, again.right, shape.size, shape.left, shape.right]
  unfold get
  rw [fits, cell, set, storePlaced place]
  split
  · rename_i place'
    rw [readWrite (cellInside shape row column place)]
    refine ite_congr (propext ⟨cellApart shape column' column place' place, ?_⟩) (fun _ => rfl) fun _ => rfl
    rintro ⟨rfl, rfl⟩
    rfl
  · rename_i absent
    rw [if_neg]
    rintro ⟨rfl, rfl⟩
    exact absent place

theorem memBandColumns (shape : Shaped m n below above) {start : Nat} (onward : i ≤ start) :
    j ∈ m.bandColumns i start ↔ start ≤ j ∧ j + tailWidth < n ∧ j ≤ i + above := by
  have wide := shape.wide
  unfold bandColumns tailStart
  rw [shape.size, shape.right]
  unfold tailWidth at *
  split
  · rw [List.mem_range'_1]
    omega
  · rename_i last
    refine ⟨fun absent => absurd absent List.not_mem_nil, fun inside => ?_⟩
    omega

theorem memTailColumns (shape : Shaped m n below above) : j ∈ m.tailColumns ↔ n ≤ j + tailWidth ∧ j < n := by
  have wide := shape.wide
  unfold tailColumns tailStart
  rw [shape.size, List.mem_range'_1]
  unfold tailWidth at *
  omega

def columns (m : Banded α) (i start : Nat) : List Nat :=
  m.bandColumns i start ++ m.tailColumns.filter (start ≤ ·)

theorem memColumns (shape : Shaped m n below above) {start : Nat} (onward : i ≤ start) :
    j ∈ m.columns i start ↔ start ≤ j ∧ j < n ∧ m.fits i j := by
  rw [columns, List.mem_append, memBandColumns shape onward, List.mem_filter, memTailColumns shape, shape.fitsIff,
    decide_eq_true_eq]
  unfold tailWidth
  omega

theorem columnsOnce (shape : Shaped m n below above) {start : Nat} (onward : i ≤ start) :
    (m.columns i start).Nodup := by
  have band : (m.bandColumns i start).Nodup := by
    unfold bandColumns
    split
    · exact List.nodup_range'
    · exact List.nodup_nil
  refine List.nodup_append.mpr ⟨band, List.filter_sublist.nodup List.nodup_range', ?_⟩
  rintro j early _ late rfl
  have early := (memBandColumns shape onward).mp early
  have late := (memTailColumns shape).mp (List.mem_filter.mp late).1
  omega

theorem columnsReached (shape : Shaped m n below above) {k : Nat} (later : i < k) (near : k ≤ i + below)
    (member : j ∈ m.columns i i) : j < n ∧ m.fits k j := by
  obtain ⟨onward, inside, place⟩ := (memColumns shape (Nat.le_refl i)).mp member
  refine ⟨inside, shape.fitsIff.mpr ?_⟩
  have place := shape.fitsIff.mp place
  omega

section Rows
variable [Arith α]

def takeOff (i k : Nat) (factor : α) (m : Banded α) (columns : List Nat) : Banded α :=
  columns.foldl (fun m j => m.set k j (m.get k j - factor * m.get i j)) m

/- The induction is on the columns that are left: each is read as it was, since it is written but once. -/
theorem takeOffGives (shape : Shaped m n below above) {k : Nat} (other : k < n) (factor : α)
    {columns : List Nat} (once : columns.Nodup) (places : ∀ j ∈ columns, j < n ∧ m.fits k j) :
    Shaped (m.takeOff i k factor columns) n below above ∧ (m.takeOff i k factor columns).rhs = m.rhs ∧
      ∀ r c, c < n → (m.takeOff i k factor columns).get r c =
        if r = k ∧ c ∈ columns then m.get k c - factor * m.get i c else m.get r c := by
  induction columns generalizing m with
  | nil =>
    refine ⟨shape, rfl, fun r c _ => ?_⟩
    rw [if_neg (fun taken => absurd taken.2 List.not_mem_nil)]
    rfl
  | cons j rest ih =>
    obtain ⟨new, once⟩ := List.nodup_cons.mp once
    obtain ⟨column, place⟩ := places j List.mem_cons_self
    have shaped := shape.set k j (m.get k j - factor * m.get i j)
    have stored (r c : Nat) (inside : c < n) :=
      getSet shape other column place (m.get k j - factor * m.get i j) r inside
    obtain ⟨shape', rhs, gives⟩ := ih shaped once fun c member =>
      have ⟨inside, there⟩ := places c (.tail _ member)
      ⟨inside, shaped.fitsIff.mpr (shape.fitsIff.mp there)⟩
    refine ⟨shape', rhs.trans (rhsSet ..), fun r c inside => (gives r c inside).trans ?_⟩
    rw [stored k c inside, stored i c inside, stored r c inside]
    by_cases row : r = k
    · by_cases here : c = j
      · simp [row, here, new]
      · simp [row, here]
    · simp [row]

theorem reduceRowTakes (shape : Shaped m n below above) {k : Nat} (later : i < k) (inside : k < n)
    (near : k ≤ i + below) (lead : α) (some : ¬ m.get k i / lead == 0.0) :
    reduceRow i lead m k = (m.takeOff i k (m.get k i / lead) (m.columns i i)).setRhs k
      (m.rhs.getD k 0.0 - m.get k i / lead * m.rhs.getD i 0.0) := by
  have all : m.columns i i = m.bandColumns i i ++ m.tailColumns := by
    rw [columns, List.filter_eq_self.mpr]
    intro j tail
    have tail := (memTailColumns shape).mp tail
    unfold tailWidth at tail
    exact decide_eq_true (by omega)
  have once := columnsOnce shape (Nat.le_refl i)
  have places (j : Nat) := columnsReached (j := j) shape later near
  obtain ⟨-, rhs, -⟩ := takeOffGives (i := i) shape inside (m.get k i / lead) once places
  rw [all] at once places
  obtain ⟨shape', -, -⟩ := takeOffGives (i := i) shape inside (m.get k i / lead) (List.nodup_append.mp once).1
    fun j member => places j (List.mem_append_left _ member)
  have tail : (m.takeOff i k (m.get k i / lead) (m.bandColumns i i)).tailColumns = m.tailColumns := by
    rw [tailColumns, tailColumns, tailStart, tailStart, shape.size, shape'.size]
  have taken : (m.takeOff i k (m.get k i / lead) (m.bandColumns i i)).takeOff i k (m.get k i / lead) m.tailColumns =
      m.takeOff i k (m.get k i / lead) (m.columns i i) := by
    rw [all]
    exact List.foldl_append.symm
  rw [← rhs, ← taken, ← tail]
  exact if_neg some

end Rows

section Entering
variable [Arith α]

def kept (x : α) : α := if x == 0.0 then 0.0 else x

theorem enterRowCons {x : α} {rest : List α} {m' : Banded α} (ok : enterRow i j (x :: rest) m = some m')
    (shape : Shaped m n below above) (row : i < n) (column : j < n) (blank : m.get i j = 0.0) :
    ∃ entered : Banded α, enterRow i (j + 1) rest entered = some m' ∧ Shaped entered n below above ∧
      entered.get i j = kept x ∧ ∀ r c, c < n → r ≠ i ∨ c ≠ j → entered.get r c = m.get r c := by
  unfold enterRow at ok
  unfold kept
  split at ok
  · rename_i zero
    exact ⟨m, ok, shape, by rw [blank, if_pos zero], fun _ _ _ _ => rfl⟩
  · rename_i zero
    by_cases place : m.fits i j
    · have stored : m.set i j x = m.write (m.cell i j) x := by rw [set, storePlaced place]
      rw [storePlaced place] at ok
      refine ⟨m.set i j x, stored ▸ ok, shape.set i j x, ?_, fun r c inside apart => ?_⟩
      · rw [getSet shape row column place x i column, if_pos ⟨rfl, rfl⟩, if_neg zero]
      · rw [getSet shape row column place x r inside, if_neg (by omega)]
    · rw [storeDropped place] at ok
      cases ok

theorem enterRowGives {xs : List α} {m' : Banded α} (ok : enterRow i j xs m = some m')
    (shape : Shaped m n below above) (row : i < n) (short : j + xs.length ≤ n)
    (blank : ∀ c, j ≤ c → c < n → m.get i c = 0.0) :
    Shaped m' n below above ∧ (∀ k x, xs[k]? = some x → m'.get i (j + k) = kept x) ∧
      ∀ r c, c < n → r ≠ i ∨ c < j → m'.get r c = m.get r c := by
  induction xs generalizing j m with
  | nil =>
    cases ok
    exact ⟨shape, by simp, fun _ _ _ _ => rfl⟩
  | cons x rest ih =>
    rw [List.length_cons] at short
    obtain ⟨entered, ok, shape, here, same⟩ := enterRowCons ok shape row (by omega) (blank j (Nat.le_refl j) (by omega))
    obtain ⟨shaped, given, others⟩ := ih ok shape (by omega) fun c onward inside =>
      (same i c inside (.inr (by omega))).trans (blank c (by omega) inside)
    refine ⟨shaped, fun k y there => ?_, fun r c inside apart =>
      (others r c inside (by omega)).trans (same r c inside (by omega))⟩
    cases k with
    | zero =>
      cases there
      exact (others i j (by omega) (.inr (by omega))).trans here
    | succ k =>
      rw [Nat.add_comm k, ← Nat.add_assoc]
      exact given k y there

theorem enterRowsGive {rows : List (List α)} {m' : Banded α} (ok : enterRows i rows m = some m')
    (shape : Shaped m n below above) (count : i + rows.length ≤ n) (widths : ∀ row ∈ rows, row.length ≤ n)
    (blank : ∀ r c, i ≤ r → c < n → m.get r c = 0.0) :
    Shaped m' n below above ∧
      (∀ k row, rows[k]? = some row → ∀ j x, row[j]? = some x → m'.get (i + k) j = kept x) ∧
      ∀ r c, r < i → c < n → m'.get r c = m.get r c := by
  induction rows generalizing i m with
  | nil =>
    cases ok
    exact ⟨shape, by simp, fun _ _ _ _ => rfl⟩
  | cons row rest ih =>
    rw [List.length_cons] at count
    obtain ⟨entered, first, ok⟩ := Option.bind_eq_some_iff.mp ok
    have width := widths row List.mem_cons_self
    obtain ⟨shape, given, others⟩ := enterRowGives first shape (by omega) (by omega)
      fun c _ inside => blank i c (Nat.le_refl _) inside
    obtain ⟨shaped, later, before⟩ := ih ok shape (by omega) (fun r member => widths r (.tail _ member))
      fun r c onward inside => by rw [others r c inside (by omega), blank r c (by omega) inside]
    refine ⟨shaped, fun k r there j x entry => ?_, fun r c earlier inside => ?_⟩
    · cases k with
      | zero =>
        cases there
        have column := (List.getElem?_eq_some_iff.mp entry).1
        rw [Nat.add_zero, before i j (by omega) (by omega), ← given j x entry, Nat.zero_add]
      | succ k =>
        rw [Nat.add_comm k, ← Nat.add_assoc]
        exact later k r there j x entry
    · rw [before r c (by omega) inside, others r c inside (by omega)]

theorem zeroShaped {m : Banded α} (ok : zero? n below above = some m) : Shaped m n below above := by
  unfold zero? at ok
  split at ok
  · cases ok
  · rename_i enough
    simp only [Bool.or_eq_true, decide_eq_true_eq, not_or, Nat.not_le] at enough
    cases ok
    exact ⟨rfl, rfl, rfl, enough.1, Nat.pos_of_ne_zero enough.2, Array.size_replicate, Array.size_replicate,
      Array.size_replicate⟩

theorem zeroBlank {m : Banded α} (ok : zero? n below above = some m) (i j : Nat) : m.get i j = 0.0 := by
  unfold zero? at ok
  split at ok
  · cases ok
  · cases ok
    have zeros (size k : Nat) : (Array.replicate size (0.0 : α)).getD k 0.0 = 0.0 := by
      rw [Array.getD_eq_getD_getElem?, Array.getElem?_replicate]
      split <;> rfl
    unfold get
    split
    · cases cell _ i j with
      | band k => exact zeros _ k
      | tail k => exact zeros _ k
    · rfl

theorem ofDenseGives {a : List (List α)} {b : List α} (ok : ofDense? a b below above = some m)
    (count : a.length ≤ b.length) (widths : ∀ row ∈ a, row.length ≤ b.length) :
    Shaped m b.length below above ∧
      (∀ i row, a[i]? = some row → ∀ j x, row[j]? = some x → m.get i j = kept x) ∧ m.rhs = b.toArray := by
  simp only [ofDense?, bind, pure, Option.bind_eq_some_iff] at ok
  obtain ⟨blank, made, entered, rows, last⟩ := ok
  cases last
  obtain ⟨shape, given, -⟩ := enterRowsGive rows (zeroShaped made) (by omega) widths fun r c _ _ => zeroBlank made r c
  refine ⟨{ shape with rhs := List.size_toArray }, fun i row there j x entry => ?_, rfl⟩
  rw [← given i row there j x entry, Nat.zero_add]
  rfl

end Entering
end Drafting.Linear.Banded
