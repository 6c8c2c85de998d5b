import Drafting.Scalar.Binary64
/-! Decimal digits of an exact binary value: with a fixed number of places, or with a fixed number
of digits before a power of ten. A half goes to the even neighbour. -/
namespace Drafting.Decimal
open Binary64

/-- A quotient rounded to the nearest whole number, a half to the even one. -/
def roundDiv (top bottom : Nat) : Nat :=
  let q := top / bottom
  let r := 2 * (top % bottom)
  if r < bottom then q else if bottom < r then q + 1 else if q % 2 = 0 then q else q + 1

def ratio (d : Word) : Nat × Nat :=
  (d.mantissa * Nat.pow 2 d.exponent.toNat, Nat.pow 2 (-d.exponent).toNat)

def shift (q : Nat × Nat) (power : Int) : Nat × Nat :=
  (q.1 * Nat.pow 10 power.toNat, q.2 * Nat.pow 10 (-power).toNat)

/-- The power of ten of the leading digit: the last power, searched from an estimate by the lengths
of both numbers, that does not exceed the ratio. -/
def magnitude (q : Nat × Nat) : Int :=
  let low : Int := (Nat.toDigits 10 q.1).length - (Nat.toDigits 10 q.2).length - 1
  let reached (power : Int) : Bool :=
    let s := shift q (-power)
    decide (s.2 ≤ s.1)
  if reached (low + 1) then low + 1 else low

def padLeft (width : Nat) (digits : List Char) : List Char :=
  List.replicate (width - digits.length) '0' ++ digits

def writePlaces (places : Nat) (units : Nat) : String :=
  let digits := padLeft (places + 1) (Nat.toDigits 10 units)
  let whole := digits.length - places
  String.ofList (digits.take whole) ++
    (if places = 0 then "" else "." ++ String.ofList (digits.drop whole))

def writePower (digits : List Char) (power : Int) : String :=
  match digits with
  | [] => ""
  | d :: rest =>
    String.ofList [d] ++ (if rest.isEmpty then "" else "." ++ String.ofList rest) ++ "e" ++ toString power

def fixed (places : Nat) (d : Word) : String :=
  let q := shift (ratio d) places
  (if d.negative then "-" else "") ++ writePlaces places (roundDiv q.1 q.2)

/-- Rounding may carry into one more digit, which raises the power. -/
def scientific (places : Nat) (d : Word) : String :=
  let sign := if d.negative then "-" else ""
  if d.mantissa = 0 then sign ++ writePower (List.replicate (places + 1) '0') 0
  else
    let power := magnitude (ratio d)
    let q := shift (ratio d) (places - power)
    let units := roundDiv q.1 q.2
    if units < Nat.pow 10 (places + 1) then sign ++ writePower (Nat.toDigits 10 units) power
    else sign ++ writePower (Nat.toDigits 10 (units / 10)) (power + 1)

def write (finite : Word → String) (x : Float) : String :=
  match parts x with
  | .undefined => "NaN"
  | .infinite negative => if negative then "-inf" else "inf"
  | .finite d => finite d

/-- A length or coordinate: six places below a million, then nine digits and a power of ten; zero has no sign. -/
def measure (x : Float) : String :=
  let text := write (if x.abs < 1e6 then fixed 6 else scientific 8) x
  if text = "-0.000000" then "0.000000" else text

def precise (x : Float) : String := write (scientific 11) x

end Drafting.Decimal
