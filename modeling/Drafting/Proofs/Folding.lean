import Mathlib.Order.Interval.Set.Basic
import Drafting.Proofs.Exact
import Drafting.Proofs.Expression
/-! Folding over exact numbers. Where an expression can be evaluated, so can whatever is built in the same way
with known values put in and with folding operations in place of plain ones, and it is worth the same. Folding
drops parts and works out constants; it never brings in a division, a root or an inverse of its own. -/
namespace Drafting.Expr

structure Domain where
  root : Set ℝ
  inverse : Set ℝ

def Domain.closed : Domain := ⟨Set.Ici 0, Set.Icc (-1) 1⟩

def Domain.interior : Domain := ⟨Set.Ioi 0, Set.Ioo (-1) 1⟩

def Within (d : Domain) (v : ParamId → ℝ) : Expr ℝ → Prop
  | const _ | param _ => True
  | sum a b | difference a b | product a b => a.Within d v ∧ b.Within d v
  | quotient a b => a.Within d v ∧ b.Within d v ∧ b.eval v ≠ 0
  | negation a | squared a | sine a | cosine a => a.Within d v
  | root a => a.Within d v ∧ a.eval v ∈ d.root
  | arcsine a | arccosine a => a.Within d v ∧ a.eval v ∈ d.inverse

/-- Evaluation meets no zero divisor, no root of a negative number and no inverse of a number beyond one. -/
def Defined (v : ParamId → ℝ) (e : Expr ℝ) : Prop := e.Within .closed v

/-- No divisor is zero, every root is of a positive number and every inverse of a number strictly below one. -/
def Smooth (v : ParamId → ℝ) (e : Expr ℝ) : Prop := e.Within .interior v

section Within
variable {d : Domain} {v : ParamId → ℝ} {a b : Expr ℝ}

theorem withinConst (x : ℝ) : (const x).Within d v := trivial

theorem withinNegate (ha : a.Within d v) : (-a).Within d v := by
  refine negateCases withinConst (fun c inner => ?_) ha
  rw [inner] at ha
  exact ha

theorem withinAdd (ha : a.Within d v) (hb : b.Within d v) : (a + b).Within d v := addCases withinConst ha hb ⟨ha, hb⟩

theorem withinSub (ha : a.Within d v) (hb : b.Within d v) : (a - b).Within d v :=
  subCases withinConst ha (withinNegate hb) ⟨ha, hb⟩

theorem withinMul (ha : a.Within d v) (hb : b.Within d v) : (a * b).Within d v :=
  mulCases withinConst ha (withinNegate ha) hb (withinNegate hb) ⟨ha, hb⟩

theorem withinDiv (ha : a.Within d v) (hb : b.Within d v) (divisor : b.eval v ≠ 0) : (a / b).Within d v :=
  divCases withinConst ha ⟨ha, hb, divisor⟩

theorem withinFold {f : ℝ → ℝ} {node : Expr ℝ → Expr ℝ} (whole : (node a).Within d v) : (a.foldOr f node).Within d v :=
  foldCases withinConst whole

end Within

/-- The second expression is built as the first is, with known values put in for parameters, and with a folding
operation in place of a plain one wherever one likes. -/
inductive Folds (known : ParamId → Option ℝ) : Expr ℝ → Expr ℝ → Prop where
  | const (x) : Folds known (const x) (const x)
  | known {p x} (value : known p = some x) : Folds known (param p) (const x)
  | param {p} (unknown : known p = none) : Folds known (param p) (param p)
  | sum {a b a' b' e} (left : Folds known a a') (right : Folds known b b')
      (built : e = sum a' b' ∨ e = a' + b') : Folds known (sum a b) e
  | difference {a b a' b' e} (left : Folds known a a') (right : Folds known b b')
      (built : e = difference a' b' ∨ e = a' - b') : Folds known (difference a b) e
  | product {a b a' b' e} (left : Folds known a a') (right : Folds known b b')
      (built : e = product a' b' ∨ e = a' * b') : Folds known (product a b) e
  | quotient {a b a' b' e} (left : Folds known a a') (right : Folds known b b')
      (built : e = quotient a' b' ∨ e = a' / b') : Folds known (quotient a b) e
  | negation {a a' e} (inner : Folds known a a') (built : e = negation a' ∨ e = -a') : Folds known (negation a) e
  | root {a a' e} (inner : Folds known a a') (built : e = root a' ∨ e = a'.sqrt) : Folds known (root a) e
  | squared {a a' e} (inner : Folds known a a') (built : e = squared a' ∨ e = a'.square) : Folds known (squared a) e
  | sine {a a' e} (inner : Folds known a a') (built : e = sine a' ∨ e = a'.sin) : Folds known (sine a) e
  | cosine {a a' e} (inner : Folds known a a') (built : e = cosine a' ∨ e = a'.cos) : Folds known (cosine a) e
  | arcsine {a a' e} (inner : Folds known a a') (built : e = arcsine a' ∨ e = a'.asin) : Folds known (arcsine a) e
  | arccosine {a a' e} (inner : Folds known a a') (built : e = arccosine a' ∨ e = a'.acos) :
      Folds known (arccosine a) e

def Folded (e f : Expr ℝ) : Prop := Folds (fun _ => none) e f

theorem substituteFolds (known : ParamId → Option ℝ) (e : Expr ℝ) : Folds known e (e.substitute known) := by
  induction e with
  | const x => exact .const x
  | param p =>
    unfold substitute
    cases value : known p with
    | none => exact .param value
    | some x => exact .known value
  | sum a b iha ihb => exact .sum iha ihb (.inr rfl)
  | difference a b iha ihb => exact .difference iha ihb (.inr rfl)
  | product a b iha ihb => exact .product iha ihb (.inr rfl)
  | quotient a b iha ihb => exact .quotient iha ihb (.inr rfl)
  | negation a ih => exact .negation ih (.inr rfl)
  | root a ih => exact .root ih (.inr rfl)
  | squared a ih => exact .squared ih (.inr rfl)
  | sine a ih => exact .sine ih (.inr rfl)
  | cosine a ih => exact .cosine ih (.inr rfl)
  | arcsine a ih => exact .arcsine ih (.inr rfl)
  | arccosine a ih => exact .arccosine ih (.inr rfl)

theorem foldFolds (e : Expr ℝ) : Folded e e.fold := substituteFolds _ e

def completed (known : ParamId → Option ℝ) (rest : ParamId → ℝ) (p : ParamId) : ℝ := (known p).getD (rest p)

structure Keeps (d : Domain) (v w : ParamId → ℝ) (e f : Expr ℝ) : Prop where
  within : f.Within d w
  value : f.eval w = e.eval v

variable {d : Domain} {known : ParamId → Option ℝ} {rest : ParamId → ℝ} {e f : Expr ℝ}

/- The induction is on how the second expression was built: in each case the parts keep their values, and folding
them changes neither the value of the whole nor what it takes to evaluate it. -/
theorem Folds.keeps (h : Folds known e f) (within : e.Within d (completed known rest)) :
    Keeps d (completed known rest) rest e f := by
  induction h with
  | const x => exact ⟨trivial, rfl⟩
  | known value => exact ⟨trivial, by simp only [eval, completed, value, Option.getD_some]⟩
  | param unknown => exact ⟨trivial, by simp only [eval, completed, unknown, Option.getD_none]⟩
  | sum _ _ built iha ihb =>
    obtain ⟨ha, same⟩ := iha within.1
    obtain ⟨hb, same'⟩ := ihb within.2
    rcases built with rfl | rfl
    · exact ⟨⟨ha, hb⟩, by simp only [eval, same, same']⟩
    · exact ⟨withinAdd ha hb, by simp only [evalAdd, eval, same, same']⟩
  | difference _ _ built iha ihb =>
    obtain ⟨ha, same⟩ := iha within.1
    obtain ⟨hb, same'⟩ := ihb within.2
    rcases built with rfl | rfl
    · exact ⟨⟨ha, hb⟩, by simp only [eval, same, same']⟩
    · exact ⟨withinSub ha hb, by simp only [evalSub, eval, same, same']⟩
  | product _ _ built iha ihb =>
    obtain ⟨ha, same⟩ := iha within.1
    obtain ⟨hb, same'⟩ := ihb within.2
    rcases built with rfl | rfl
    · exact ⟨⟨ha, hb⟩, by simp only [eval, same, same']⟩
    · exact ⟨withinMul ha hb, by simp only [evalMul, eval, same, same']⟩
  | quotient _ _ built iha ihb =>
    obtain ⟨ha, same⟩ := iha within.1
    obtain ⟨hb, same'⟩ := ihb within.2.1
    have divisor := same' ▸ within.2.2
    rcases built with rfl | rfl
    · exact ⟨⟨ha, hb, divisor⟩, by simp only [eval, same, same']⟩
    · exact ⟨withinDiv ha hb divisor, by simp only [evalDiv, eval, same, same']⟩
  | negation _ built ih =>
    obtain ⟨ha, same⟩ := ih within
    rcases built with rfl | rfl
    · exact ⟨ha, by simp only [eval, same]⟩
    · exact ⟨withinNegate ha, by simp only [evalNegate, eval, same]⟩
  | root _ built ih =>
    obtain ⟨ha, same⟩ := ih within.1
    have there := same ▸ within.2
    rcases built with rfl | rfl
    · exact ⟨⟨ha, there⟩, by simp only [eval, same]⟩
    · exact ⟨withinFold ⟨ha, there⟩, by rw [evalSqrt, same]; rfl⟩
  | squared _ built ih =>
    obtain ⟨ha, same⟩ := ih within
    rcases built with rfl | rfl
    · exact ⟨ha, by simp only [eval, same]⟩
    · exact ⟨withinFold ha, by simp only [evalSquare, eval, same]⟩
  | sine _ built ih =>
    obtain ⟨ha, same⟩ := ih within
    rcases built with rfl | rfl
    · exact ⟨ha, by simp only [eval, same]⟩
    · exact ⟨withinFold ha, by rw [evalSin, same]; rfl⟩
  | cosine _ built ih =>
    obtain ⟨ha, same⟩ := ih within
    rcases built with rfl | rfl
    · exact ⟨ha, by simp only [eval, same]⟩
    · exact ⟨withinFold ha, by rw [evalCos, same]; rfl⟩
  | arcsine _ built ih =>
    obtain ⟨ha, same⟩ := ih within.1
    have there := same ▸ within.2
    rcases built with rfl | rfl
    · exact ⟨⟨ha, there⟩, by simp only [eval, same]⟩
    · exact ⟨withinFold ⟨ha, there⟩, by rw [evalAsin, same]; rfl⟩
  | arccosine _ built ih =>
    obtain ⟨ha, same⟩ := ih within.1
    have there := same ▸ within.2
    rcases built with rfl | rfl
    · exact ⟨⟨ha, there⟩, by simp only [eval, same]⟩
    · exact ⟨withinFold ⟨ha, there⟩, by rw [evalAcos, same]; rfl⟩

theorem foldingKeepsMeaning (e : Expr ℝ) (v : ParamId → ℝ) :
    (∀ known, e.Defined (completed known v) →
      (e.substitute known).Defined v ∧ (e.substitute known).eval v = e.eval (completed known v)) ∧
    (e.Defined v → e.fold.Defined v ∧ e.fold.eval v = e.eval v) ∧
    ∀ f, Folded e f → e.Defined v → f.Defined v ∧ f.eval v = e.eval v := by
  have folded {f : Expr ℝ} (h : Folded e f) (defined : e.Defined v) : f.Defined v ∧ f.eval v = e.eval v := by
    obtain ⟨within, value⟩ : Keeps _ _ v e f := h.keeps defined
    exact ⟨within, value⟩
  refine ⟨fun known defined => ?_, folded (foldFolds e), fun f => folded⟩
  obtain ⟨within, value⟩ := (substituteFolds known e).keeps defined
  exact ⟨within, value⟩

theorem knownDivisorDropped :
    let x : ParamId := .request ⟨1⟩ 0
    let y : ParamId := .request ⟨1⟩ 1
    let e : Expr ℝ := .quotient (.product (.param x) (.root (.param x))) (.difference (.param y) (.const 2))
    let known (p : ParamId) : Option ℝ := if p = y then some 3 else none
    e.Defined (completed known fun _ => 4) ∧ (e.substitute known).Defined (fun _ => 4) ∧
      (e.substitute known).eval (fun _ => 4) = 8 := by
  intro x y e known
  have first : completed known (fun _ => 4) x = 4 := rfl
  have second : completed known (fun _ => 4) y = 3 := rfl
  have rooted : (param x).eval (completed known fun _ => 4) ∈ Domain.closed.root := by
    change 0 ≤ completed known (fun _ => 4) x
    rw [first]
    norm_num
  have divisor : (difference (param y) (const 2)).eval (completed known fun _ => 4) ≠ 0 := by
    change completed known (fun _ => 4) y - 2 ≠ 0
    rw [second]
    norm_num
  have defined : e.Defined (completed known fun _ => 4) :=
    ⟨⟨trivial, trivial, rooted⟩, ⟨trivial, trivial⟩, divisor⟩
  obtain ⟨stays, value⟩ := (foldingKeepsMeaning e fun _ => 4).1 known defined
  refine ⟨defined, stays, value.trans ?_⟩
  have root : Real.sqrt 4 = 2 := by
    rw [show (4 : ℝ) = 2 ^ 2 by norm_num]
    exact Real.sqrt_sq (by norm_num)
  change completed known (fun _ => 4) x * Real.sqrt (completed known (fun _ => 4) x) /
    (completed known (fun _ => 4) y - 2) = 8
  rw [first, second, root]
  norm_num

end Drafting.Expr
