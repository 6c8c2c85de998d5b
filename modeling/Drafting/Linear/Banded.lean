import Drafting.Linear.Dense
/-! Square systems whose entries lie in a band about the diagonal and in the last two columns,
solved by elimination without pivoting. Where that fails, dense elimination takes over. -/
namespace Drafting.Linear

def tailWidth : Nat := 2

inductive BandedError where
  | singularPivot (row : Nat)
  deriving DecidableEq, Repr

def BandedError.message : BandedError → String
  | .singularPivot row => s!"Singular pivot at row {row}"

structure Banded (α : Type) where
  size : Nat
  left : Nat
  right : Nat
  band : Array α
  tail : Array α
  rhs : Array α
  deriving Repr

inductive Cell where
  | band (index : Nat)
  | tail (index : Nat)
  deriving DecidableEq, Repr

namespace Banded

/-- The zero system; none below three rows or without a lower band. -/
def zero? [Arith α] (size left right : Nat) : Option (Banded α) :=
  if size ≤ tailWidth || left = 0 then none
  else some
    { size, left, right
      band := Array.replicate (size * (left + right + 1)) 0.0
      tail := Array.replicate (size * tailWidth) 0.0
      rhs := Array.replicate size 0.0 }

def tailStart (m : Banded α) : Nat := m.size - tailWidth

def fits (m : Banded α) (i j : Nat) : Bool :=
  decide (m.tailStart ≤ j) || (decide (i ≤ j + m.left) && decide (j ≤ i + m.right))

def cell (m : Banded α) (i j : Nat) : Cell :=
  if m.tailStart ≤ j then .tail (i * tailWidth + (j - m.tailStart))
  else .band (i * (m.left + m.right + 1) + (j + m.left - i))

variable [Arith α]

@[specialize] def read (m : Banded α) : Cell → α
  | .band k => m.band.getD k 0.0
  | .tail k => m.tail.getD k 0.0

def write (m : Banded α) (c : Cell) (x : α) : Banded α :=
  match c with
  | .band k => { m with band := m.band.setIfInBounds k x }
  | .tail k => { m with tail := m.tail.setIfInBounds k x }

@[specialize] def get (m : Banded α) (i j : Nat) : α :=
  if m.fits i j then m.read (m.cell i j) else 0.0

/-- Stores an entry, and tells whether it has a place; one without is dropped. -/
@[inline] def store (m : Banded α) (i j : Nat) (x : α) : Bool × Banded α :=
  if m.fits i j then (true, m.write (m.cell i j) x) else (false, m)

def set (m : Banded α) (i j : Nat) (x : α) : Banded α := (m.store i j x).2

def setRhs (m : Banded α) (i : Nat) (x : α) : Banded α :=
  { m with rhs := m.rhs.setIfInBounds i x }

@[specialize] def enterRow (i : Nat) : Nat → List α → Banded α → Option (Banded α)
  | _, [], m => some m
  | j, x :: rest, m =>
    if x == 0.0 then enterRow i (j + 1) rest m
    else
      match m.store i j x with
      | (true, m) => enterRow i (j + 1) rest m
      | (false, _) => none

@[specialize] def enterRows : Nat → List (List α) → Banded α → Option (Banded α)
  | _, [], m => some m
  | i, row :: rest, m => (enterRow i 0 row m).bind (enterRows (i + 1) rest)

@[specialize] def ofDense? (a : List (List α)) (b : List α) (left right : Nat) : Option (Banded α) := do
  let m ← zero? b.length left right
  let m ← enterRows 0 a m
  return { m with rhs := b.toArray }

def bandColumns (m : Banded α) (i start : Nat) : List Nat :=
  if i < m.tailStart then List.range' start (Min.min (i + m.right) (m.tailStart - 1) + 1 - start) else []

def tailColumns (m : Banded α) : List Nat := List.range' m.tailStart tailWidth

def rowsBelow (m : Banded α) (i : Nat) : List Nat :=
  List.range' (i + 1) (Min.min (i + m.left) (m.size - 1) - i)

@[specialize] def reduceRow (i : Nat) (lead : α) (m : Banded α) (row : Nat) : Banded α :=
  let factor := m.get row i / lead
  if factor == 0.0 then m
  else
    let take (m : Banded α) (j : Nat) := m.set row j (m.get row j - factor * m.get i j)
    let m := (m.bandColumns i i).foldl take m
    let m := m.tailColumns.foldl take m
    m.setRhs row (m.rhs.getD row 0.0 - factor * m.rhs.getD i 0.0)

@[specialize] def eliminate (m : Banded α) (i : Nat) : Except BandedError (Banded α) :=
  let lead := m.get i i
  if Arith.abs lead < pivotEpsilon then .error (.singularPivot i)
  else .ok ((m.rowsBelow i).foldl (reduceRow i lead) m)

@[specialize] def unknown (m : Banded α) (x : Array α) (i : Nat) : Array α :=
  let take (sum : α) (j : Nat) := sum - m.get i j * x.getD j 0.0
  let sum := (m.bandColumns i (i + 1)).foldl take (m.rhs.getD i 0.0)
  let sum := (m.tailColumns.filter (i < ·)).foldl take sum
  x.setIfInBounds i (sum / m.get i i)

@[specialize] def solve (m : Banded α) : Except BandedError (List α) := do
  let m ← (List.range m.size).foldlM eliminate m
  return ((List.range m.size).reverse.foldl m.unknown (Array.replicate m.size 0.0)).toList

end Banded

/-- Solves in the band where the system fits it and the answer is finite, else densely. -/
@[specialize] def solve [Arith α] (a : List (List α)) (b : List α) (left right : Nat) : Option (List α) :=
  match (Banded.ofDense? a b left right).map Banded.solve with
  | some (.ok x) => if x.all Arith.isFinite then some x else denseSolve a b
  | _ => denseSolve a b

end Drafting.Linear
