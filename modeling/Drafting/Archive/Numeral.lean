import Drafting.Archive.Quoted
import Drafting.Scalar.Basic
/-! Numerals. A natural number has digits of a base, with underscores between them; a decimal has
digits, a point and a power of ten, or is one of the words for what is not finite. -/
namespace Drafting.Archive

def digits? (base : Nat) (cs : List Char) : Option Nat :=
  match cs with
  | [] | '_' :: _ => none
  | cs => (cs.filter (· != '_')).foldlM (fun n c =>
      (hexDigit? c).bind fun d => if d < base then some (base * n + d) else none) 0

inductive Numeral where
  | undefined
  | infinite (negative : Bool)
  | finite (negative : Bool) (digits : Nat) (scale : Int)
  deriving DecidableEq, Repr

namespace Numeral

def value [Scalar α] : Numeral → α
  | undefined => Scalar.undefined
  | infinite negative => if negative then -1.0 / 0.0 else 1.0 / 0.0
  | finite negative digits scale =>
    let x : α := OfScientific.ofScientific digits (decide (scale < 0)) scale.natAbs
    if negative then -x else x

def words : List (String × Numeral) :=
  [("inf", infinite false), ("+inf", infinite false), ("-inf", infinite true), ("NaN", undefined),
   ("+NaN", undefined), ("-NaN", undefined)]

def plainDigits? (cs : List Char) : Option Nat :=
  if cs.all Char.isDigit then some (cs.foldl (fun n c => 10 * n + (c.toNat - '0'.toNat)) 0) else none

def power? : List Char → Option Int
  | [] => some 0
  | c :: cs =>
    if c != 'e' && c != 'E' then none
    else match cs with
      | '-' :: d :: ds => (plainDigits? (d :: ds)).map fun n => -(n : Int)
      | '+' :: d :: ds => (plainDigits? (d :: ds)).map Int.ofNat
      | d :: ds => (plainDigits? (d :: ds)).map Int.ofNat
      | [] => none

/-- A decimal without sign. Powers beyond a few thousand places are cut off: the number is zero or
not finite either way. -/
def unsigned? (negative : Bool) (cs : List Char) : Option Numeral := do
  let whole := cs.takeWhile Char.isDigit
  let rest := cs.dropWhile Char.isDigit
  let (fraction, rest) := match rest with
    | '.' :: rest => (rest.takeWhile Char.isDigit, rest.dropWhile Char.isDigit)
    | rest => ([], rest)
  if whole.isEmpty && fraction.isEmpty then none
  let digits ← plainDigits? (whole ++ fraction)
  let exponent ← power? rest
  let limit : Int := 2000 + (whole ++ fraction).length
  return finite negative digits (max (-limit) (min limit exponent) - fraction.length)

def ofChars? : List Char → Option Numeral
  | '-' :: cs => unsigned? true cs
  | '+' :: cs => unsigned? false cs
  | cs => unsigned? false cs

end Numeral

namespace Scan

def isDigitPart (c : Char) : Bool := isHexDigit c || c == '_'
def isDecimalPart (c : Char) : Bool := c.isDigit || c ∈ ['e', 'E', '.', '+', '-', '_']

/-- A natural number; a letter after a zero gives another base than ten. -/
def natural : Scan Nat := fun cs =>
  let (base, body) := match cs with
    | '0' :: 'x' :: cs => (16, cs)
    | '0' :: 'b' :: cs => (2, cs)
    | '0' :: 'o' :: cs => (8, cs)
    | cs => (10, cs)
  (digits? base (body.takeWhile isDigitPart)).map (·, body.dropWhile isDigitPart)

def decimal : Scan Numeral := fun cs =>
  match Numeral.words.find? (startsWord ·.1 cs) with
  | some (w, x) => some (x, cs.drop w.length)
  | none => (Numeral.ofChars? (cs.takeWhile isDecimalPart)).map (·, cs.dropWhile isDecimalPart)

def naturalBelow (bound : Nat) : Scan Unit := do
  if (← natural) < bound then pure () else failure

/-- A number of which nothing else is known: an integer of 64 bits, or else a decimal. It is taken for
a decimal at once if that reaches further. -/
def skipNumber : Scan Unit := fun cs =>
  let (bound, body) := match cs with
    | '-' :: cs => (0x8000000000000001, cs)
    | '+' :: cs => (0x8000000000000000, cs)
    | cs => (0x10000000000000000, cs)
  let skipDecimal : Option (Unit × List Char) := (decimal cs).map fun (_, rest) => ((), rest)
  if (body.takeWhile isDigitPart).length < (body.takeWhile isDecimalPart).length then skipDecimal
  else naturalBelow bound body <|> skipDecimal

end Scan
end Drafting.Archive
