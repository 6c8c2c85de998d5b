import Mathlib.Algebra.Field.Rat
import Mathlib.Algebra.Order.Ring.Rat
import Drafting.Proofs.Storage
import Drafting.Scalar.Field
/-! Access to a banded system. The positions that the band and the full columns reach have a place each, within the
arrays; a store changes one entry or tells that it has no place; rows are refused where a nonzero entry has none, and
else read as they were. Elimination is run again with strict reading and storing, which stop at a position outside the
system, at one without a place and beyond the arrays: it never stops and gives the same answer. -/
namespace Drafting.Linear.Banded
variable {α : Type} {m : Banded α} {n below above i j : Nat}

def read? (m : Banded α) (i j : Nat) : Option α :=
  if i < m.size ∧ j < m.size ∧ m.fits i j then
    match m.cell i j with
    | .band k => m.band[k]?
    | .tail k => m.tail[k]?
  else none

section Strict
variable [Arith α]

def store? (m : Banded α) (i j : Nat) (x : α) : Option (Banded α) := (m.read? i j).map fun _ => m.set i j x

def takeOff? (i row : Nat) (factor : α) (m : Banded α) (j : Nat) : Option (Banded α) := do
  m.store? row j ((← m.read? row j) - factor * (← m.read? i j))

def reduceRow? (i : Nat) (lead : α) (m : Banded α) (row : Nat) : Option (Banded α) := do
  let factor := (← m.read? row i) / lead
  if factor == 0.0 then some m
  else do
    let m ← (m.bandColumns i i).foldlM (takeOff? i row factor) m
    let m ← m.tailColumns.foldlM (takeOff? i row factor) m
    some (m.setRhs row ((← m.rhs[row]?) - factor * (← m.rhs[i]?)))

def eliminate? (m : Banded α) (i : Nat) : Option (Except BandedError (Banded α)) := do
  let lead ← m.read? i i
  if Arith.abs lead < pivotEpsilon then some (.error (.singularPivot i))
  else ((m.rowsBelow i).foldlM (reduceRow? i lead) m).map .ok

def eliminateAll? : List Nat → Banded α → Option (Except BandedError (Banded α))
  | [], m => some (.ok m)
  | i :: rest, m => do
    match ← m.eliminate? i with
    | .error e => some (.error e)
    | .ok m => eliminateAll? rest m

def takeKnown? (m : Banded α) (x : Array α) (i : Nat) (sum : α) (j : Nat) : Option α := do
  some (sum - (← m.read? i j) * (← x[j]?))

def unknown? (m : Banded α) (x : Array α) (i : Nat) : Option (Array α) := do
  let sum ← (m.bandColumns i (i + 1)).foldlM (m.takeKnown? x i) (← m.rhs[i]?)
  let sum ← (m.tailColumns.filter (i < ·)).foldlM (m.takeKnown? x i) sum
  let lead ← m.read? i i
  x[i]?.map fun _ => x.setIfInBounds i (sum / lead)

def solve? (m : Banded α) : Option (Except BandedError (List α)) := do
  match ← eliminateAll? (List.range m.size) m with
  | .error e => some (.error e)
  | .ok m =>
    let x ← (List.range m.size).reverse.foldlM m.unknown? (Array.replicate m.size 0.0)
    some (.ok x.toList)

theorem foldSome {β γ : Type} {P : β → Prop} {f : β → γ → Option β} {g : β → γ → β} {xs : List γ} {b : β}
    (start : P b) (step : ∀ b, P b → ∀ x ∈ xs, f b x = some (g b x) ∧ P (g b x)) :
    xs.foldlM f b = some (xs.foldl g b) ∧ P (xs.foldl g b) := by
  induction xs generalizing b with
  | nil => exact ⟨rfl, start⟩
  | cons x xs ih =>
    obtain ⟨first, kept⟩ := step b start x List.mem_cons_self
    obtain ⟨rest, last⟩ := ih kept fun b holds y member => step b holds y (.tail _ member)
    refine ⟨?_, last⟩
    rw [List.foldlM_cons, first]
    exact rest

theorem arrayRead {xs : Array α} {k : Nat} (inside : k < xs.size) : xs[k]? = some (xs.getD k 0.0) := by
  rw [Array.getD_eq_getD_getElem?, Array.getElem?_eq_getElem inside, Option.getD_some]

theorem readStrict (shape : Shaped m n below above) (row : i < n) (column : j < n) (place : m.fits i j) :
    m.read? i j = some (m.get i j) := by
  have inside := cellInside shape row column place
  unfold read? get
  rw [if_pos ⟨shape.size.symm ▸ row, shape.size.symm ▸ column, place⟩, if_pos place]
  cases cell : m.cell i j with
  | band k =>
    rw [cell] at inside
    exact arrayRead inside
  | tail k =>
    rw [cell] at inside
    exact arrayRead inside

theorem readRhs (shape : Shaped m n below above) (row : i < n) : m.rhs[i]? = some (m.rhs.getD i 0.0) :=
  arrayRead (shape.rhs.symm ▸ row)

theorem storeStrict (shape : Shaped m n below above) (row : i < n) (column : j < n) (place : m.fits i j) (x : α) :
    m.store? i j x = some (m.set i j x) := by
  rw [store?, readStrict shape row column place, Option.map_some]

theorem takeOffStrict {k : Nat} {columns : List Nat} (shape : Shaped m n below above) (later : i < k) (inside : k < n)
    (near : k ≤ i + below) (factor : α)
    (reached : ∀ j ∈ columns, j < n ∧ (n ≤ j + tailWidth ∨ i ≤ j ∧ j ≤ i + above)) :
    columns.foldlM (takeOff? i k factor) m = some (m.takeOff i k factor columns) ∧
      Shaped (m.takeOff i k factor columns) n below above := by
  refine foldSome (P := fun m => Shaped m n below above) shape fun m shape j member => ⟨?_, shape.set ..⟩
  obtain ⟨column, there⟩ := reached j member
  have above : m.fits i j := shape.fitsIff.mpr (by omega)
  have own : m.fits k j := shape.fitsIff.mpr (by omega)
  unfold takeOff?
  rw [readStrict shape inside column own, readStrict shape (by omega) column above]
  exact storeStrict shape inside column own _

theorem reduceRowStrict {k : Nat} (shape : Shaped m n below above) (later : i < k) (inside : k < n)
    (near : k ≤ i + below) (lead : α) :
    reduceRow? i lead m k = some (reduceRow i lead m k) ∧ Shaped (reduceRow i lead m k) n below above := by
  have read := readStrict shape inside (Nat.lt_trans later inside) (shape.fitsIff.mpr (by omega))
  unfold reduceRow? reduceRow
  rw [read]
  by_cases clear : m.get k i / lead == 0.0
  · dsimp only
    rw [if_pos clear]
    exact ⟨if_pos clear, shape⟩
  · obtain ⟨band, shaped⟩ := takeOffStrict shape later inside near (m.get k i / lead)
      fun j (member : j ∈ m.bandColumns i i) => by
        have member := (memBandColumns shape le_rfl).mp member
        omega
    obtain ⟨tail, whole⟩ := takeOffStrict shaped later inside near (m.get k i / lead)
      fun j (member : j ∈ (m.takeOff i k (m.get k i / lead) (m.bandColumns i i)).tailColumns) => by
        have member := (memTailColumns shaped).mp member
        omega
    have own := readRhs whole inside
    have pivot := readRhs whole (Nat.lt_trans later inside)
    rw [Option.bind_eq_bind, Option.bind_some]
    dsimp only
    rw [if_neg clear, if_neg clear, band, Option.bind_eq_bind, Option.bind_some, tail, Option.bind_some, own, pivot]
    exact ⟨rfl, whole.setRhs ..⟩

theorem eliminateStrict (shape : Shaped m n below above) (row : i < n) :
    m.eliminate? i = some (m.eliminate i) ∧ ∀ m', m.eliminate i = .ok m' → Shaped m' n below above := by
  have read := readStrict shape row row (shape.fitsIff.mpr (by omega))
  have rows := foldSome (P := fun m => Shaped m n below above) (f := reduceRow? i (m.get i i))
    (g := reduceRow i (m.get i i)) shape fun m' shape' k (member : k ∈ m.rowsBelow i) => by
      rw [rowsBelow, List.mem_range'_1, shape.left, shape.size] at member
      exact reduceRowStrict shape' (by omega) (by omega) (by omega) _
  unfold eliminate? eliminate
  rw [read, Option.bind_eq_bind, Option.bind_some]
  dsimp only
  split
  · exact ⟨rfl, fun m' failed => nomatch failed⟩
  · refine ⟨by rw [rows.1, Option.map_some], fun m' ok => ?_⟩
    cases ok
    exact rows.2

theorem eliminateAllStrict {columns : List Nat} (shape : Shaped m n below above) (inside : ∀ i ∈ columns, i < n) :
    eliminateAll? columns m = some (columns.foldlM eliminate m) ∧
      ∀ m', columns.foldlM eliminate m = .ok m' → Shaped m' n below above := by
  induction columns generalizing m with
  | nil =>
    refine ⟨rfl, fun m' ok => ?_⟩
    cases ok
    exact shape
  | cons i rest ih =>
    obtain ⟨first, kept⟩ := eliminateStrict shape (inside i List.mem_cons_self)
    unfold eliminateAll?
    rw [first, List.foldlM_cons, Option.bind_eq_bind, Option.bind_some]
    cases step : m.eliminate i with
    | error e => exact ⟨rfl, fun m' failed => nomatch failed⟩
    | ok m' => exact ih (kept m' step) fun i member => inside i (.tail _ member)

/-! Back substitution. -/

theorem unknownStrict {x : Array α} (shape : Shaped m n below above) (count : x.size = n) (row : i < n) :
    m.unknown? x i = some (m.unknown x i) ∧ (m.unknown x i).size = n := by
  have known {columns : List Nat} (sum : α) (inside : ∀ j ∈ columns, j < n ∧ m.fits i j) :
      columns.foldlM (m.takeKnown? x i) sum = some (columns.foldl (fun sum j => sum - m.get i j * x.getD j 0.0) sum) :=
    (foldSome (P := fun _ => True) trivial fun sum _ j member => by
      obtain ⟨column, place⟩ := inside j member
      unfold takeKnown?
      rw [readStrict shape row column place, arrayRead (count.symm ▸ column)]
      exact ⟨rfl, trivial⟩).1
  have band := known (m.rhs.getD i 0.0) fun j (member : j ∈ m.bandColumns i (i + 1)) => by
    have member := (memBandColumns shape (Nat.le_succ i)).mp member
    exact ⟨by omega, shape.fitsIff.mpr (by omega)⟩
  have tail (sum : α) := known sum fun j (member : j ∈ m.tailColumns.filter (i < ·)) => by
    have member := (memTailColumns shape).mp (List.mem_filter.mp member).1
    exact ⟨member.2, shape.fitsIff.mpr (.inl member.1)⟩
  have lead := readStrict shape row row (shape.fitsIff.mpr (by omega))
  have here : x[i]? = some (x.getD i 0.0) := arrayRead (count.symm ▸ row)
  unfold unknown? unknown
  rw [readRhs shape row, lead, here]
  simp only [Option.bind_eq_bind, Option.bind_some, band, tail, Option.map_some]
  exact ⟨trivial, Array.size_setIfInBounds.trans count⟩

theorem solveStrict (shape : Shaped m n below above) : m.solve? = some m.solve := by
  obtain ⟨steps, kept⟩ := eliminateAllStrict shape fun i (member : i ∈ List.range m.size) =>
    shape.size ▸ List.mem_range.mp member
  unfold solve? solve
  rw [steps, Option.bind_eq_bind, Option.bind_some]
  cases done : (List.range m.size).foldlM eliminate m with
  | error e => rfl
  | ok last =>
    have shape := kept last done
    have blank : (Array.replicate last.size (0.0 : α)).size = n := Array.size_replicate.trans shape.size
    have unknowns := foldSome (P := fun x : Array α => x.size = n) (f := last.unknown?) (g := last.unknown) blank
      fun x count i (member : i ∈ (List.range last.size).reverse) =>
        unknownStrict shape count (shape.size ▸ List.mem_range.mp (List.mem_reverse.mp member))
    dsimp only
    rw [unknowns.1]
    rfl

end Strict

def Reached (n below above i j : Nat) : Prop := n ≤ j + tailWidth ∨ i ≤ j + below ∧ j ≤ i + above

instance : Decidable (Reached n below above i j) := inferInstanceAs (Decidable (_ ∨ _))

/-- An entry is kept within its array. On the way there no difference falls below zero and no sum exceeds the size of
the band. -/
structure Placed (m : Banded α) (i j : Nat) : Prop where
  inside : m.Inside (m.cell i j)
  start : m.tailStart + tailWidth = m.size
  offset : ∃ u, j = m.tailStart + u ∧ m.cell i j = .tail (i * tailWidth + u) ∨
    j + m.left = i + u ∧ m.cell i j = .band (i * (m.left + m.right + 1) + u)
  column : j + m.left < m.band.size
  row : i + m.right < m.band.size

theorem placed (shape : Shaped m n below above) (row : i < n) (column : j < n) (place : m.fits i j) : m.Placed i j := by
  have start : m.tailStart + tailWidth = m.size := by
    have wide := shape.wide
    rw [tailStart, shape.size]
    omega
  have within {k u : Nat} (inside : k < n) (offset : u < below + above + 1) : k + u < m.band.size :=
    calc
      k + u ≤ k * (below + above + 1) + u := Nat.add_le_add_right (Nat.le_mul_of_pos_right k (Nat.succ_pos _)) u
      _ < n * (below + above + 1) := rowMajorInside inside offset
      _ = m.band.size := shape.band.symm
  refine ⟨cellInside shape row column place, start, ?_, ?_, ?_⟩
  · have place := shape.fitsIff.mp place
    have size := shape.size
    have left := shape.left
    unfold cell
    split
    · exact ⟨j - m.tailStart, .inl ⟨by omega, rfl⟩⟩
    · exact ⟨j + m.left - i, .inr ⟨by omega, rfl⟩⟩
  · rw [shape.left]
    exact within column (by omega)
  · rw [shape.right]
    exact within row (by omega)

theorem storeGet [Arith α] {i' j' : Nat} (shape : Shaped m n below above) (row : i < n) (column : j < n) (x : α)
    (column' : j' < n) :
    (m.store i j x).2.get i' j' = if m.fits i j ∧ i' = i ∧ j' = j then x else m.get i' j' := by
  by_cases place : m.fits i j
  · refine (getSet shape row column place x i' column').trans ?_
    simp only [place, true_and]
  · rw [storeDropped place]
    simp only [place, Bool.false_eq_true, false_and, if_false]

section Refusal
variable [Arith α]

theorem zeroNone : (zero? n below above : Option (Banded α)) = none ↔ n ≤ tailWidth ∨ below = 0 := by
  unfold zero?
  split
  · rename_i small
    simpa using small
  · rename_i enough
    simpa using enough

theorem existsCons {β : Type} {P : Nat → β → Prop} {x : β} {rest : List β} :
    (∃ k y, (x :: rest)[k]? = some y ∧ P k y) ↔ P 0 x ∨ ∃ k y, rest[k]? = some y ∧ P (k + 1) y := by
  constructor
  · rintro ⟨_ | k, y, there, holds⟩
    · cases there
      exact .inl holds
    · exact .inr ⟨k, y, there, holds⟩
  · rintro (holds | ⟨k, y, there, holds⟩)
    · exact ⟨0, x, rfl, holds⟩
    · exact ⟨k + 1, y, there, holds⟩

def Astray (n below above i j : Nat) (x : α) : Prop := ¬ x == 0.0 ∧ ¬ Reached n below above i j

theorem enterRowStep (shape : Shaped m n below above) (i j : Nat) (x : α) (rest : List α) :
    Astray n below above i j x ∧ enterRow i j (x :: rest) m = none ∨
      ¬ Astray n below above i j x ∧
        ∃ m', Shaped m' n below above ∧ enterRow i j (x :: rest) m = enterRow i (j + 1) rest m' := by
  rw [enterRow]
  by_cases zero : x == 0.0
  · exact .inr ⟨fun astray => astray.1 zero, m, shape, if_pos zero⟩
  · rw [if_neg zero]
    by_cases place : m.fits i j
    · have stored := shape.set i j x
      rw [Banded.set, storePlaced place] at stored
      rw [storePlaced place]
      exact .inr ⟨fun astray => astray.2 (shape.fitsIff.mp place), _, stored, rfl⟩
    · rw [storeDropped place]
      exact .inl ⟨⟨zero, fun reached => place (shape.fitsIff.mpr reached)⟩, rfl⟩

theorem enterRowEnds (shape : Shaped m n below above) (i j : Nat) (xs : List α) :
    (enterRow i j xs m = none ↔ ∃ k x, xs[k]? = some x ∧ Astray n below above i (j + k) x) ∧
      ∀ m', enterRow i j xs m = some m' → Shaped m' n below above := by
  induction xs generalizing j m with
  | nil =>
    refine ⟨by simp [enterRow], fun m' ok => ?_⟩
    cases ok
    exact shape
  | cons x rest ih =>
    rw [existsCons]
    rcases enterRowStep shape i j x rest with ⟨astray, ends⟩ | ⟨fine, m', shape', goes⟩
    · rw [ends]
      exact ⟨iff_of_true rfl (.inl astray), fun m' ok => nomatch ok⟩
    · rw [goes]
      obtain ⟨refused, kept⟩ := ih shape' (j + 1)
      refine ⟨refused.trans ?_, kept⟩
      simp only [Nat.add_right_comm j 1, Nat.add_assoc, Nat.add_zero, fine, false_or]

theorem enterRowsNone (shape : Shaped m n below above) (i : Nat) (rows : List (List α)) :
    enterRows i rows m = none ↔
      ∃ k row, rows[k]? = some row ∧ ∃ j x, row[j]? = some x ∧ Astray n below above (i + k) j x := by
  induction rows generalizing i m with
  | nil => simp [enterRows]
  | cons row rest ih =>
    obtain ⟨refused, kept⟩ := enterRowEnds shape i 0 row
    rw [existsCons, enterRows]
    cases first : enterRow i 0 row m with
    | none =>
      have astray := refused.mp first
      simp only [Nat.zero_add] at astray
      exact iff_of_true rfl (.inl astray)
    | some m' =>
      have fine : ¬ ∃ j x, row[j]? = some x ∧ Astray n below above i j x := by
        intro astray
        simp only [Nat.zero_add] at refused
        cases (refused.mpr astray).symm.trans first
      rw [Option.bind_some, ih (kept m' first) (i + 1)]
      simp only [Nat.add_right_comm i 1, Nat.add_assoc, Nat.add_zero, fine, false_or]

def entry? (a : List (List α)) (i j : Nat) : Option α := a[i]?.bind (·[j]?)

theorem ofDenseNone {a : List (List α)} {b : List α} :
    ofDense? a b below above = none ↔ b.length ≤ tailWidth ∨ below = 0 ∨
      ∃ i j x, entry? a i j = some x ∧ Astray b.length below above i j x := by
  simp only [ofDense?, bind, pure]
  cases made : (zero? b.length below above : Option (Banded α)) with
  | none =>
    exact iff_of_true rfl ((zeroNone.mp made).imp_right .inl)
  | some blank =>
    have enough : ¬ (b.length ≤ tailWidth ∨ below = 0) := fun small => by cases made.symm.trans (zeroNone.mpr small)
    have refused := enterRowsNone (zeroShaped made) 0 a
    have ends : ((enterRows 0 a blank).bind fun m => some { m with rhs := b.toArray }) = none ↔
        enterRows 0 a blank = none := by
      cases enterRows 0 a blank <;> simp
    rw [Option.bind_some, ends, refused, ← or_assoc, or_iff_right enough]
    constructor
    · rintro ⟨i, row, there, j, x, inside, astray⟩
      rw [Nat.zero_add] at astray
      exact ⟨i, j, x, Option.bind_eq_some_iff.mpr ⟨row, there, inside⟩, astray⟩
    · rintro ⟨i, j, x, there, astray⟩
      obtain ⟨row, there, inside⟩ := Option.bind_eq_some_iff.mp there
      rw [← Nat.zero_add i] at astray
      exact ⟨i, row, there, j, x, inside, astray⟩

end Refusal

structure Sized (n : Nat) (a : List (List α)) (b : List α) : Prop where
  constants : b.length = n
  rows : a.length ≤ n
  widths : ∀ row ∈ a, row.length ≤ n

section Made
variable [Arith α]

/-- A system made blank or from rows, in which entries and constants have been stored. -/
inductive Made (n below above : Nat) : Banded α → Prop where
  | blank {m : Banded α} (ok : zero? n below above = some m) : Made n below above m
  | dense {m : Banded α} {a : List (List α)} {b : List α} (sized : Sized n a b)
      (ok : ofDense? a b below above = some m) : Made n below above m
  | stored {m : Banded α} {i j : Nat} (before : Made n below above m) (row : i < n) (column : j < n) (x : α) :
      Made n below above (m.store i j x).2
  | constant {m : Banded α} {i : Nat} (before : Made n below above m) (row : i < n) (x : α) :
      Made n below above (m.setRhs i x)

theorem Made.shaped (h : Made n below above m) : Shaped m n below above := by
  induction h with
  | blank ok => exact zeroShaped ok
  | dense sized ok =>
    obtain ⟨rfl, rows, widths⟩ := sized
    exact (ofDenseGives ok rows widths).1
  | stored _ _ _ x ih => exact ih.set _ _ x
  | constant _ _ x ih => exact ih.setRhs _ x

theorem storageFaithful (n below above : Nat) :
    ((zero? n below above : Option (Banded α)) = none ↔ n ≤ tailWidth ∨ below = 0) ∧
    (∀ m : Banded α, Made n below above m →
      (∀ i j, i < n → j < n → (m.fits i j ↔ Reached n below above i j) ∧ (m.fits i j → m.Placed i j) ∧
        ∀ i' j', i' < n → j' < n → m.fits i j → m.fits i' j' → m.cell i j = m.cell i' j' → i = i' ∧ j = j') ∧
      (∀ i j x, i < n → j < n → (m.store i j x).1 = m.fits i j ∧ ∀ i' j', i' < n → j' < n →
        (m.store i j x).2.get i' j' = if m.fits i j ∧ i' = i ∧ j' = j then x else m.get i' j') ∧
      m.solve? = some m.solve) ∧
    ∀ (a : List (List α)) (b : List α), Sized n a b →
      (ofDense? a b below above = none ↔ n ≤ tailWidth ∨ below = 0 ∨
        ∃ i j x, entry? a i j = some x ∧ Astray n below above i j x) ∧
      ∀ m, ofDense? a b below above = some m → m.rhs = b.toArray ∧
        ∀ i j x, entry? a i j = some x → m.get i j = if x == 0.0 then 0.0 else x := by
  refine ⟨zeroNone, fun m made => ?_, fun a b sized => ?_⟩
  · have shape := made.shaped
    refine ⟨fun i j row column => ⟨shape.fitsIff, placed shape row column, fun i' j' _ column' => ?_⟩,
      fun i j x row column => ⟨storeTells m i j x, fun i' j' _ column' => storeGet shape row column x column'⟩,
      solveStrict shape⟩
    exact cellApart shape column column'
  · obtain ⟨rfl, rows, widths⟩ := sized
    refine ⟨ofDenseNone, fun m ok => ?_⟩
    obtain ⟨-, given, rhs⟩ := ofDenseGives ok rows widths
    refine ⟨rhs, fun i j x there => ?_⟩
    obtain ⟨row, there, inside⟩ := Option.bind_eq_some_iff.mp there
    exact given i row there j x inside

end Made

section Corner
attribute [local instance] Arith.exact

theorem cornerRefused :
    let a : List (List ℚ) := [[2, 0, 0, 1], [1, 2, 0, 0], [1, 1, 2, 0], [0, 1, 0, 2]]
    let b : List ℚ := [3, 3, 4, 3]
    (∃ m, ofDense? a b 2 0 = some m ∧ Made 4 2 0 m ∧ m.Placed 3 1 ∧ m.cell 3 1 ≠ m.cell 2 0 ∧ m.get 3 1 = 1 ∧
      ((m.store 3 1 7).1 = true ∧ (m.store 3 1 7).2.get 3 1 = 7) ∧ m.solve? = some (.ok [1, 1, 1, 1])) ∧
      Sized 4 (a.set 3 [1, 1, 0, 2]) b ∧ ofDense? (a.set 3 [1, 1, 0, 2]) b 2 0 = none := by
  intro a b
  have sized : Sized 4 a b := ⟨rfl, by decide, by decide⟩
  have sized' : Sized 4 (a.set 3 [1, 1, 0, 2]) b := ⟨rfl, by decide, by decide⟩
  have solved : (ofDense? a b 2 0).map solve = some (.ok [1, 1, 1, 1]) := by decide +kernel
  obtain ⟨m, ok, solution⟩ := Option.map_eq_some_iff.mp solved
  have made : Made 4 2 0 m := .dense sized ok
  obtain ⟨-, stores, enters⟩ := storageFaithful (α := ℚ) 4 2 0
  obtain ⟨places, keeps, strict⟩ := stores m made
  obtain ⟨reached, placed, apart⟩ := places 3 1 (by decide) (by decide)
  have fits : m.fits 3 1 := reached.mpr (by decide)
  have fits' : m.fits 2 0 := (places 2 0 (by decide) (by decide)).1.mpr (by decide)
  obtain ⟨tells, reads⟩ := keeps 3 1 7 (by decide) (by decide)
  refine ⟨⟨m, ok, made, placed fits, fun same => ?_, ?_, ⟨tells.trans fits, ?_⟩, solution ▸ strict⟩, sized',
    (enters _ b sized').1.mpr (.inr (.inr ⟨3, 0, 1, rfl, by decide +kernel, by decide⟩))⟩
  · exact absurd (apart 2 0 (by decide) (by decide) fits fits' same).1 (by decide)
  · exact (((enters a b sized).2 m ok).2 3 1 1 rfl).trans (if_neg (by decide +kernel))
  · rw [reads 3 1 (by decide) (by decide), if_pos ⟨fits, rfl, rfl⟩]

end Corner
end Drafting.Linear.Banded
