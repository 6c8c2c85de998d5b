import Drafting.Decimal.Rounding
/-! The fewest decimal digits that are read back as the same binary word. The reals that round to a
word form an interval, closed when its mantissa is even; of the decimal grids 10^k from coarse to
fine, the first with a point in the interval gives the digits. -/
namespace Drafting.Decimal
open Binary64

structure Span where
  low : Nat
  value : Nat
  high : Nat
  denominator : Nat
  closed : Bool
  deriving Repr

/-- Below the least mantissa of an exponent the words lie twice as close, but for the least exponent. -/
def span (d : Word) : Span :=
  let boundary := d.mantissa = Nat.pow 2 52 ∧ d.exponent ≠ -1074
  let unit := Nat.pow 2 d.exponent.toNat
  { low := (4 * d.mantissa - if boundary then 1 else 2) * unit
    value := 4 * d.mantissa * unit
    high := (4 * d.mantissa + 2) * unit
    denominator := 4 * Nat.pow 2 (-d.exponent).toNat
    closed := d.mantissa % 2 = 0 }

def Span.holds (s : Span) (power : Int) (units : Nat) : Bool :=
  let x := units * s.denominator * Nat.pow 10 power.toNat
  let scale := Nat.pow 10 (-power).toNat
  if s.closed then s.low * scale ≤ x && x ≤ s.high * scale
  else s.low * scale < x && x < s.high * scale

/-- The neighbour of the word on the grid 10^power that lies in the interval, the nearer of two, the
upper one where both are equally near. -/
def Span.onGrid (s : Span) (power : Int) : Option Nat :=
  let top := s.value * Nat.pow 10 (-power).toNat
  let bottom := s.denominator * Nat.pow 10 power.toNat
  let below := top / bottom
  let above := below + 1
  match s.holds power below && below != 0, s.holds power above with
  | true, true => some (if 2 * (top % bottom) < bottom then below else above)
  | true, false => some below
  | false, true => some above
  | false, false => none

/-- Tries grids from a power downward. Seventeen digits always suffice. -/
def Span.search (s : Span) : Nat → Int → Nat × Int
  | 0, power => (s.value * Nat.pow 10 (-power).toNat / (s.denominator * Nat.pow 10 power.toNat), power)
  | tries + 1, power =>
    match s.onGrid power with
    | some units => (units, power)
    | none => s.search tries (power - 1)

def shortest (d : Word) : Nat × Int :=
  if d.mantissa = 0 then (0, 0) else (span d).search 18 (magnitude (ratio d) + 1)

def positional (d : Word) : String :=
  let (units, power) := shortest d
  (if d.negative then "-" else "") ++
    if 0 ≤ power then writePlaces 1 (units * Nat.pow 10 (power.toNat + 1))
    else writePlaces (-power).toNat units

def exact (x : Float) : String := write positional x

end Drafting.Decimal
