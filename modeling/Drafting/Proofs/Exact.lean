import Mathlib.Tactic.LinearCombination
import Mathlib.Tactic.NormNum
import Mathlib.Tactic.Ring
import Drafting.Scalar.Exact
import Drafting.Scalar.Field
import Drafting.Sketch.Residual
/-! What expressions are worth over exact numbers. Folding while building changes no value, so an expression is
worth what the operations it was built with make of its parts. -/
namespace Drafting

@[simp] theorem exactZero : (0.0 : ℝ) = 0 := by norm_num

@[simp] theorem exactOne : (1.0 : ℝ) = 1 := by norm_num

@[simp] theorem exactTwo : (2.0 : ℝ) = 2 := by norm_num

@[simp] theorem exactHalf : (0.5 : ℝ) = 1 / 2 := by norm_num

@[simp] theorem exactSame {x y : ℝ} : (x == y) = true ↔ x = y := decide_eq_true_iff

theorem realArith : (Scalar.toArith : Arith ℝ) = Arith.exact ℝ := by
  unfold Arith.exact
  change Arith.mk _ _ _ _ _ = _
  congr 1
  refine congrArg OfScientific.mk ?_
  funext mantissa small exponent
  refine (NNRatCast.ofScientific_eq_ite ..).trans ?_
  cases small <;> simp

namespace Expr
variable {a b : Expr ℝ} {v : ParamId → ℝ}

theorem ofConst {α : Type} {a : Expr α} {x : α} (known : a.const? = some x) : a = .const x := by
  cases a <;> cases known
  rfl

@[simp] theorem evalConst (x : ℝ) : (const x).eval v = x := rfl

@[simp] theorem evalParam (p : ParamId) : (param p).eval v = v p := rfl

@[simp] theorem evalNegate : (-a).eval v = -a.eval v := by
  change (negate a).eval v = _
  cases a with
  | negation a => exact (neg_neg _).symm
  | _ => rfl

@[simp] theorem evalAdd : (a + b).eval v = a.eval v + b.eval v := by
  change (plus a b).eval v = _
  unfold plus
  split
  · rename_i first second
    rw [ofConst first, ofConst second]
    rfl
  · rename_i first _
    rw [ofConst first]
    split
    · simp_all
    · rfl
  · rename_i second
    rw [ofConst second]
    split
    · simp_all
    · rfl
  · rfl

@[simp] theorem evalSub : (a - b).eval v = a.eval v - b.eval v := by
  change (minus a b).eval v = _
  unfold minus
  split
  · rename_i first second
    rw [ofConst first, ofConst second]
    rfl
  · rename_i second
    rw [ofConst second]
    split
    · simp_all
    · rfl
  · rename_i first _
    rw [ofConst first]
    split
    · change (-b).eval v = _
      simp_all
    · rfl
  · rfl

theorem evalTimesConst {whole : Expr ℝ} {x : ℝ} (is : whole.eval v = x * a.eval v) :
    (timesConst whole x a).eval v = x * a.eval v := by
  unfold timesConst
  split
  · simp_all
  split
  · simp_all
  split
  · rename_i minus
    change (-a).eval v = _
    have negative : x = -1 := by simpa using minus
    rw [evalNegate, negative, neg_one_mul]
  · exact is

@[simp] theorem evalMul : (a * b).eval v = a.eval v * b.eval v := by
  change (times a b).eval v = _
  unfold times
  split
  · rename_i first second
    rw [ofConst first, ofConst second]
    rfl
  · rename_i first _
    rw [ofConst first]
    exact evalTimesConst rfl
  · rename_i second
    rw [ofConst second, evalConst, mul_comm]
    exact evalTimesConst (mul_comm _ _)
  · rfl

@[simp] theorem evalDiv : (a / b).eval v = a.eval v / b.eval v := by
  change (dividedBy a b).eval v = _
  unfold dividedBy
  split
  · rename_i first second
    rw [ofConst first, ofConst second]
    rfl
  · rename_i second
    rw [ofConst second]
    split
    · simp_all
    · rfl
  · rename_i first _
    rw [ofConst first]
    split
    · simp_all
    · rfl
  · rfl

theorem evalFold {f : ℝ → ℝ} {node : Expr ℝ → Expr ℝ} (whole : (node a).eval v = f (a.eval v)) :
    (a.foldOr f node).eval v = f (a.eval v) := by
  unfold foldOr
  split
  · rename_i known
    rw [ofConst known]
    rfl
  · exact whole

@[simp] theorem evalSqrt : a.sqrt.eval v = Real.sqrt (a.eval v) := evalFold rfl

@[simp] theorem evalSquare : a.square.eval v = a.eval v * a.eval v := evalFold (f := fun x => x * x) rfl

@[simp] theorem evalSin : a.sin.eval v = Real.sin (a.eval v) := evalFold rfl

@[simp] theorem evalCos : a.cos.eval v = Real.cos (a.eval v) := evalFold rfl

@[simp] theorem evalAsin : a.asin.eval v = Real.arcsin (a.eval v) := evalFold rfl

@[simp] theorem evalAcos : a.acos.eval v = Real.arccos (a.eval v) := evalFold rfl

end Expr

namespace Vec3

theorem mkAdd (a b c d e f : ℝ) : (⟨a, b, c⟩ + ⟨d, e, f⟩ : Vec3 ℝ) = ⟨a + d, b + e, c + f⟩ := rfl

theorem mkSub (a b c d e f : ℝ) : (⟨a, b, c⟩ - ⟨d, e, f⟩ : Vec3 ℝ) = ⟨a - d, b - e, c - f⟩ := rfl

section Eval
variable {a b : Vec3 (Expr ℝ)} {v : ParamId → ℝ}

@[simp] theorem evalAdd : (a + b).eval v = a.eval v + b.eval v := by
  change (⟨(a.x + b.x).eval v, (a.y + b.y).eval v, (a.z + b.z).eval v⟩ : Vec3 ℝ) = _
  simp only [Expr.evalAdd]
  rfl

@[simp] theorem evalSub : (a - b).eval v = a.eval v - b.eval v := by
  change (⟨(a.x - b.x).eval v, (a.y - b.y).eval v, (a.z - b.z).eval v⟩ : Vec3 ℝ) = _
  simp only [Expr.evalSub]
  rfl

@[simp] theorem evalNeg : (-a).eval v = -a.eval v := by
  change (⟨(-a.x).eval v, (-a.y).eval v, (-a.z).eval v⟩ : Vec3 ℝ) = _
  simp only [Expr.evalNegate]
  rfl

@[simp] theorem evalScale {s : Expr ℝ} : (a.scale s).eval v = (a.eval v).scale (s.eval v) := by
  change (⟨(a.x * s).eval v, (a.y * s).eval v, (a.z * s).eval v⟩ : Vec3 ℝ) = _
  simp only [Expr.evalMul]
  rfl

@[simp] theorem evalCross : (a.cross b).eval v = (a.eval v).cross (b.eval v) := by
  simp only [cross, eval, map, Expr.evalSub, Expr.evalMul]

@[simp] theorem evalDot : (a.dot b).eval v = (a.eval v).dot (b.eval v) := by
  simp only [dot, eval, map, Expr.evalAdd, Expr.evalMul]

@[simp] theorem evalPlanarCross : (a.planarCross b).eval v = (a.eval v).planarCross (b.eval v) := by
  simp only [planarCross, eval, map, Expr.evalSub, Expr.evalMul]

@[simp] theorem evalMagnitude : a.magnitude.eval v = (a.eval v).length := by
  simp only [magnitude, Expr.evalSqrt, Expr.evalAdd, Expr.evalSquare]
  rfl

end Eval

end Vec3

namespace Quat
variable {q : Quat (Expr ℝ)} {v : ParamId → ℝ}

theorem evalImages : q.imageU.eval v = (q.eval v).rotate .unitX ∧ q.imageV.eval v = (q.eval v).rotate .unitY ∧
    q.imageN.eval v = (q.eval v).rotate .unitZ := by
  simp only [imageU, imageV, imageN, twice, rotate, Vec3.eval, eval, Vec3.map, map, Vec3.scale, Vec3.cross, Vec3.dot,
    Vec3.unitX, Vec3.unitY, Vec3.unitZ, Vec3.mkAdd, Expr.evalAdd, Expr.evalSub, Expr.evalMul, Expr.evalSquare,
    Expr.evalConst, exactZero, exactOne, exactTwo, Vec3.mk.injEq]
  refine ⟨⟨?_, ?_, ?_⟩, ⟨?_, ?_, ?_⟩, ?_, ?_, ?_⟩ <;> ring

@[simp] theorem evalImageU : q.imageU.eval v = (q.eval v).rotate .unitX := evalImages.1

@[simp] theorem evalImageV : q.imageV.eval v = (q.eval v).rotate .unitY := evalImages.2.1

@[simp] theorem evalImageN : q.imageN.eval v = (q.eval v).rotate .unitZ := evalImages.2.2

end Quat

end Drafting
