import Mathlib.Analysis.SpecialFunctions.Complex.Arg
import Mathlib.Analysis.SpecialFunctions.Trigonometric.Inverse
import Drafting.Scalar.Basic
/-! The real numbers. Nothing runs over them: they say what a definition comes to where no rounding is done. -/
namespace Drafting

noncomputable instance : Scalar ℝ where
  decLt _ _ := inferInstance
  decLe _ _ := inferInstance
  beq a b := decide (a = b)
  abs := abs
  ofNat n := n
  isFinite _ := true
  sqrt := Real.sqrt
  sin := Real.sin
  cos := Real.cos
  tan := Real.tan
  asin := Real.arcsin
  acos := Real.arccos
  atan2 y x := Complex.arg ⟨x, y⟩
  remEuclid x m := x - |m| * ⌊x / |m|⌋
  ceilNat x := ⌈x⌉₊
  pi := Real.pi
  undefined := 0
  totalLt x y := decide (x < y)
  same x y := decide (x = y)
  signOne x := if 0 ≤ x then 1 else -1

end Drafting
