import Mathlib.Analysis.SpecialFunctions.Sqrt
import Mathlib.Analysis.SpecialFunctions.Trigonometric.InverseDeriv
import Mathlib.Topology.Algebra.Module.ModuleTopology
import Drafting.Proofs.Folding
/-! Slopes of expressions over exact numbers. Where no divisor vanishes and roots and inverse functions are taken
within their domains, the expression that differentiation builds can be evaluated as well, under the same
conditions, and is worth the slope. One lemma for each operation puts the slope together from those of its parts. -/
namespace Drafting.Expr

variable {v : ParamId → ℝ} {p : ParamId} {e a b a' b' : Expr ℝ}

/-- At some values the second expression can be evaluated and is worth the slope of the first in one parameter. -/
structure Slope (v : ParamId → ℝ) (p : ParamId) (e e' : Expr ℝ) : Prop where
  smooth : e'.Smooth v
  slope : HasDerivAt (fun x => e.eval (Function.update v p x)) (e'.eval v) (v p)

theorem overOthers {α : Type} {e : Expr α} : e.dependsOn p = false ↔ e.Over (· ≠ p) := by
  induction e with
  | const x => simp [dependsOn, Over]
  | param q => simp [dependsOn, Over]
  | sum a b iha ihb | difference a b iha ihb | product a b iha ihb | quotient a b iha ihb =>
    rw [dependsOn, Bool.or_eq_false_iff, iha, ihb, Over]
  | negation a ih | root a ih | squared a ih | sine a ih | cosine a ih | arcsine a ih | arccosine a ih =>
    rw [dependsOn, ih, Over]

theorem constSlope (x : ℝ) : Slope v p (const x) (const 0.0) := by
  refine ⟨trivial, ?_⟩
  rw [evalConst, exactZero]
  exact hasDerivAt_const _ _

theorem paramSlope (q : ParamId) : Slope v p (param q) (const (if q = p then 1.0 else 0.0)) := by
  refine ⟨trivial, ?_⟩
  rw [evalConst, exactOne, exactZero]
  split
  · rename_i same
    rw [same]
    refine (hasDerivAt_id (v p)).congr_of_eventuallyEq (.of_forall fun x => ?_)
    exact Function.update_self p x v
  · rename_i other
    refine (hasDerivAt_const (v p) (v q)).congr_of_eventuallyEq (.of_forall fun x => ?_)
    exact Function.update_of_ne other x v

theorem cutSlope (whole : Slope v p e a') : Slope v p e (if e.dependsOn p then a' else const 0.0) := by
  split
  · exact whole
  · rename_i apart
    have level (x : ℝ) : e.eval (Function.update v p x) = e.eval v :=
      evalCongr (overOthers.mp (Bool.eq_false_iff.mpr apart)) fun q other => Function.update_of_ne other x v
    refine ⟨trivial, ?_⟩
    rw [evalConst, exactZero]
    exact (hasDerivAt_const (v p) (e.eval v)).congr_of_eventuallyEq (.of_forall level)

theorem evalUnmoved (e : Expr ℝ) : e.eval (Function.update v p (v p)) = e.eval v := by rw [Function.update_eq_self]

theorem sumSlope (ha : Slope v p a a') (hb : Slope v p b b') : Slope v p (sum a b) (a' + b') := by
  refine ⟨withinAdd ha.smooth hb.smooth, ?_⟩
  rw [evalAdd]
  exact ha.slope.add hb.slope

theorem differenceSlope (ha : Slope v p a a') (hb : Slope v p b b') : Slope v p (difference a b) (a' - b') := by
  refine ⟨withinSub ha.smooth hb.smooth, ?_⟩
  rw [evalSub]
  exact ha.slope.sub hb.slope

theorem productSlope (within : (product a b).Smooth v) (ha : Slope v p a a') (hb : Slope v p b b') :
    Slope v p (product a b) (a' * b + a * b') := by
  refine ⟨withinAdd (withinMul ha.smooth within.2) (withinMul within.1 hb.smooth), ?_⟩
  have slope := ha.slope.mul hb.slope
  rw [evalUnmoved, evalUnmoved] at slope
  rw [evalAdd, evalMul, evalMul]
  exact slope

theorem quotientSlope (within : (quotient a b).Smooth v) (ha : Slope v p a a') (hb : Slope v p b b') :
    Slope v p (quotient a b) ((a' * b - a * b') / b.square) := by
  obtain ⟨top, bottom, divisor⟩ := within
  constructor
  · refine withinDiv (withinSub (withinMul ha.smooth bottom) (withinMul top hb.smooth)) (withinFold bottom) ?_
    rw [evalSquare]
    exact mul_ne_zero divisor divisor
  · have slope := ha.slope.div hb.slope (by rwa [evalUnmoved])
    rw [evalUnmoved, evalUnmoved, pow_two] at slope
    rw [evalDiv, evalSub, evalMul, evalMul, evalSquare]
    exact slope

theorem negationSlope (ha : Slope v p a a') : Slope v p (negation a) (-a') := by
  refine ⟨withinNegate ha.smooth, ?_⟩
  rw [evalNegate]
  exact ha.slope.neg

theorem rootSlope (within : (root a).Smooth v) (ha : Slope v p a a') :
    Slope v p (root a) (a' / (const 2.0 * root a)) := by
  have positive : 0 < a.eval v := within.2
  constructor
  · refine withinDiv ha.smooth (withinMul (withinConst _) within) ?_
    rw [evalMul, evalConst, exactTwo]
    exact mul_ne_zero two_ne_zero (Real.sqrt_pos.mpr positive).ne'
  · have slope := ha.slope.sqrt (by rw [evalUnmoved]; exact positive.ne')
    rw [evalUnmoved] at slope
    rw [evalDiv, evalMul, evalConst, exactTwo]
    exact slope

theorem squaredSlope (within : (squared a).Smooth v) (ha : Slope v p a a') :
    Slope v p (squared a) (const 2.0 * a * a') := by
  refine ⟨withinMul (withinMul (withinConst _) within) ha.smooth, ?_⟩
  refine (ha.slope.mul ha.slope).congr_deriv ?_
  rw [evalUnmoved, evalMul, evalMul, evalConst, exactTwo]
  ring

theorem sineSlope (within : (sine a).Smooth v) (ha : Slope v p a a') : Slope v p (sine a) (a.cos * a') := by
  refine ⟨withinMul (withinFold within) ha.smooth, ?_⟩
  have slope := ha.slope.sin
  rw [evalUnmoved] at slope
  rw [evalMul, evalCos]
  exact slope

theorem cosineSlope (within : (cosine a).Smooth v) (ha : Slope v p a a') : Slope v p (cosine a) (-(a.sin * a')) := by
  refine ⟨withinNegate (withinMul (withinFold within) ha.smooth), ?_⟩
  have slope := ha.slope.cos
  rw [evalUnmoved, neg_mul] at slope
  rw [evalNegate, evalMul, evalSin]
  exact slope

theorem legPositive {x : ℝ} (inside : x ∈ Domain.interior.inverse) : 0 < 1 - x * x := by
  obtain ⟨low, high⟩ := inside
  nlinarith

theorem legSmooth (ha : a.Smooth v) (inside : a.eval v ∈ Domain.interior.inverse) :
    (const 1.0 - a.square).sqrt.Smooth v ∧ (const 1.0 - a.square).sqrt.eval v = Real.sqrt (1 - a.eval v ^ 2) ∧
      Real.sqrt (1 - a.eval v ^ 2) ≠ 0 := by
  have positive := legPositive inside
  have leg : (const 1.0 - a.square).eval v = 1 - a.eval v * a.eval v := by
    rw [evalSub, evalConst, exactOne, evalSquare]
  refine ⟨withinFold ⟨withinSub (withinConst _) (withinFold ha), ?_⟩, ?_, ?_⟩
  · rw [leg]
    exact positive
  · rw [evalSqrt, leg, pow_two]
  · rw [pow_two]
    exact (Real.sqrt_pos.mpr positive).ne'

theorem arcsineSlope (within : (arcsine a).Smooth v) (ha : Slope v p a a') :
    Slope v p (arcsine a) (a' / (const 1.0 - a.square).sqrt) := by
  obtain ⟨inner, low, high⟩ := within
  obtain ⟨smooth, leg, apart⟩ := legSmooth inner ⟨low, high⟩
  refine ⟨withinDiv ha.smooth smooth (leg ▸ apart), ?_⟩
  have outer := Real.hasDerivAt_arcsin low.ne' high.ne
  rw [← evalUnmoved (v := v) (p := p) a] at outer
  have slope := outer.comp (v p) ha.slope
  rw [evalUnmoved, one_div_mul_eq_div] at slope
  rw [evalDiv, leg]
  exact slope

theorem arccosineSlope (within : (arccosine a).Smooth v) (ha : Slope v p a a') :
    Slope v p (arccosine a) (-(a' / (const 1.0 - a.square).sqrt)) := by
  obtain ⟨inner, low, high⟩ := within
  obtain ⟨smooth, leg, apart⟩ := legSmooth inner ⟨low, high⟩
  refine ⟨withinNegate (withinDiv ha.smooth smooth (leg ▸ apart)), ?_⟩
  have outer := Real.hasDerivAt_arccos low.ne' high.ne
  rw [← evalUnmoved (v := v) (p := p) a] at outer
  have slope := outer.comp (v p) ha.slope
  rw [evalUnmoved, neg_mul, one_div_mul_eq_div] at slope
  rw [evalNegate, evalDiv, leg]
  exact slope

theorem partialSlope (within : e.Smooth v) : Slope v p e (e.partialIn p) := by
  induction e with
  | const x => exact constSlope x
  | param q => exact paramSlope q
  | sum a b iha ihb => exact cutSlope (sumSlope (iha within.1) (ihb within.2))
  | difference a b iha ihb => exact cutSlope (differenceSlope (iha within.1) (ihb within.2))
  | product a b iha ihb => exact cutSlope (productSlope within (iha within.1) (ihb within.2))
  | quotient a b iha ihb => exact cutSlope (quotientSlope within (iha within.1) (ihb within.2.1))
  | negation a ih => exact cutSlope (negationSlope (ih within))
  | root a ih => exact cutSlope (rootSlope within (ih within.1))
  | squared a ih => exact cutSlope (squaredSlope within (ih within))
  | sine a ih => exact cutSlope (sineSlope within (ih within))
  | cosine a ih => exact cutSlope (cosineSlope within (ih within))
  | arcsine a ih => exact cutSlope (arcsineSlope within (ih within.1))
  | arccosine a ih => exact cutSlope (arccosineSlope within (ih within.1))

theorem derivativesExact (p : ParamId) (smooth : e.Smooth v) :
    (e.partialIn p).Smooth v ∧
      HasDerivAt (fun x => e.eval (Function.update v p x)) ((e.partialIn p).eval v) (v p) := by
  obtain ⟨again, slope⟩ := partialSlope (p := p) smooth
  exact ⟨again, slope⟩

theorem distanceSlope :
    let x : ParamId := .request ⟨1⟩ 0
    let e : Expr ℝ := .root (.sum (.squared (.param x)) (.const 9))
    let v : ParamId → ℝ := fun _ => 4
    e.Smooth v ∧ HasDerivAt (fun t => e.eval (Function.update v x t)) (4 / 5) 4 := by
  intro x e v
  have length : Real.sqrt (4 * 4 + 9) = 5 := by
    rw [show (4 * 4 + 9 : ℝ) = 5 ^ 2 by norm_num]
    exact Real.sqrt_sq (by norm_num)
  have positive : (sum (squared (param x)) (const 9)).eval v ∈ Domain.interior.root := by
    change (0 : ℝ) < 4 * 4 + 9
    norm_num
  have smooth : e.Smooth v := ⟨⟨trivial, trivial⟩, positive⟩
  obtain ⟨_, slope⟩ := derivativesExact x smooth
  refine ⟨smooth, slope.congr_deriv ?_⟩
  have built : e.partialIn x =
      (const 2.0 * param x * const 1.0 + const 0.0) / (const 2.0 * root (.sum (.squared (.param x)) (.const 9))) := by
    simp [e, partialIn, dependsOn]
  have whole : e.eval v = Real.sqrt (4 * 4 + 9) := rfl
  rw [built, evalDiv, evalAdd, evalMul, evalMul, evalMul, evalConst, evalConst, evalConst, evalParam, exactTwo,
    exactOne, exactZero, show (root (.sum (.squared (.param x)) (.const 9))).eval v = _ from whole, length]
  change (2 * 4 * 1 + 0) / (2 * 5 : ℝ) = 4 / 5
  norm_num

end Drafting.Expr
