import Mathlib.Algebra.Order.Field.Basic
import Drafting.Scalar.Basic
/-! Ordered fields as numbers: nothing is rounded, and every number is finite. -/
namespace Drafting

@[reducible] def Arith.exact (K : Type) [Field K] [LinearOrder K] : Arith K where
  decLt _ _ := inferInstance
  decLe _ _ := inferInstance
  beq a b := decide (a = b)
  abs a := |a|
  ofNat n := n
  isFinite _ := true
  ofScientific mantissa small exponent := if small then mantissa / 10 ^ exponent else mantissa * 10 ^ exponent

end Drafting
