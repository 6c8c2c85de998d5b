import Drafting.Scalar.Basic
/-! Binary words of 64 bits as scalars. A finite word is a signed mantissa times a power of two;
the remainder is taken on these integers, so it is exact. -/
namespace Drafting.Binary64

/-- A finite word: mantissa times two to the exponent, with the sign of zero kept. -/
structure Word where
  negative : Bool
  mantissa : Nat
  exponent : Int
  deriving DecidableEq, Repr

inductive Parts where
  | undefined
  | infinite (negative : Bool)
  | finite (value : Word)
  deriving DecidableEq, Repr

def parts (x : Float) : Parts :=
  let bits := x.toBits.toNat
  let negative := decide (bits / Nat.pow 2 63 = 1)
  let exponent : Nat := bits / Nat.pow 2 52 % 2048
  let fraction := bits % Nat.pow 2 52
  if exponent = 2047 then
    if fraction = 0 then .infinite negative else .undefined
  else if exponent = 0 then .finite ⟨negative, fraction, -1074⟩
  else .finite ⟨negative, fraction + Nat.pow 2 52, (exponent : Int) - 1075⟩

def ofWord (d : Word) : Float :=
  let size := (Float.ofNat d.mantissa).scaleB d.exponent
  if d.negative then -size else size

def Word.rem (a m : Word) : Word :=
  let e := Min.min a.exponent m.exponent
  let top := a.mantissa * Nat.pow 2 (a.exponent - e).toNat
  let bottom := m.mantissa * Nat.pow 2 (m.exponent - e).toNat
  if top < bottom then a else ⟨a.negative, top % bottom, e⟩

def rem (a m : Float) : Float :=
  match parts a, parts m with
  | .finite _, .infinite _ => a
  | .finite x, .finite y => if y.mantissa = 0 then 0.0 / 0.0 else ofWord (x.rem y)
  | _, _ => 0.0 / 0.0

def remEuclid (a m : Float) : Float :=
  let r := rem a m
  if r < 0.0 then r + m.abs else r

def orderKey (x : Float) : Int :=
  let bits := x.toBits.toNat
  if bits / Nat.pow 2 63 = 1 then -1 - (bits - Nat.pow 2 63 : Nat) else bits

instance : Scalar Float where
  decLt := Float.decLt
  decLe := Float.decLe
  abs := Float.abs
  ofNat := Float.ofNat
  isFinite := Float.isFinite
  sqrt := Float.sqrt
  sin := Float.sin
  cos := Float.cos
  tan := Float.tan
  asin := Float.asin
  acos := Float.acos
  atan2 := Float.atan2
  remEuclid := remEuclid
  ceilNat x := x.ceil.toUInt64.toNat
  pi := 3.141592653589793
  undefined := 0.0 / 0.0
  totalLt a b := orderKey a < orderKey b
  same a b := a.toBits == b.toBits
  signOne x := if x.toBits.toNat / Nat.pow 2 63 = 1 then -1.0 else 1.0

end Drafting.Binary64
