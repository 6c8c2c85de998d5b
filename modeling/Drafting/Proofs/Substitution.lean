import Drafting.Proofs.Expression
import Drafting.Scalar.Binary64
/-! Substitution over any arithmetic. No law of the numbers is used, and the tests for zero, one and minus one
may answer as they like: what is folded stays as it is, has no more nodes and mentions nothing new, and where
every parameter is known what is left is the value. -/
namespace Drafting.Expr
variable [Scalar α]

/-- Nothing is left to fold: an operation built again from its parts is the plain term. -/
def Normal : Expr α → Prop
  | const _ | param _ => True
  | sum a b => a.Normal ∧ b.Normal ∧ a + b = sum a b
  | difference a b => a.Normal ∧ b.Normal ∧ a - b = difference a b
  | product a b => a.Normal ∧ b.Normal ∧ a * b = product a b
  | quotient a b => a.Normal ∧ b.Normal ∧ a / b = quotient a b
  | negation a => a.Normal ∧ -a = negation a
  | root a => a.Normal ∧ a.sqrt = root a
  | squared a => a.Normal ∧ a.square = squared a
  | sine a => a.Normal ∧ a.sin = sine a
  | cosine a => a.Normal ∧ a.cos = cosine a
  | arcsine a => a.Normal ∧ a.asin = arcsine a
  | arccosine a => a.Normal ∧ a.acos = arccosine a

theorem Normal.fold {e : Expr α} (h : e.Normal) : e.fold = e := by
  unfold Expr.fold
  induction e with
  | const v => rfl
  | param p => rfl
  | sum a b iha ihb | difference a b iha ihb | product a b iha ihb | quotient a b iha ihb =>
    rw [substitute, iha h.1, ihb h.2.1]
    exact h.2.2
  | negation a ih | root a ih | squared a ih | sine a ih | cosine a ih | arcsine a ih | arccosine a ih =>
    rw [substitute, ih h.1]
    exact h.2

structure Compact (n : Nat) (e : Expr α) : Prop where
  normal : e.Normal
  count : e.nodeCount ≤ n

section Build
variable {a b built plain : Expr α} {m n : Nat}

theorem Compact.within (h : a.Compact m) (more : m ≤ n) : a.Compact n := ⟨h.normal, Nat.le_trans h.count more⟩

theorem compactConst (v : α) (some : 0 < n) : (const v).Compact n := ⟨trivial, some⟩

theorem compactNegate (ha : a.Compact n) : (-a).Compact (1 + n) := by
  refine negateCases (Q := fun e => -a = e → e.Compact (1 + n)) (fun v _ => compactConst v (by omega))
    (fun c inner _ => ?_) (fun stands => ⟨⟨ha.normal, stands⟩, Nat.add_le_add_left ha.count 1⟩) rfl
  subst inner
  have count : 1 + c.nodeCount ≤ n := ha.count
  exact ⟨ha.normal.1, by omega⟩

theorem compactUnary {f : α → α} {node : Expr α → Expr α} (ha : a.Compact n)
    (count : (node a).nodeCount = 1 + a.nodeCount) (normal : a.foldOr f node = node a → a.Normal → (node a).Normal) :
    (a.foldOr f node).Compact (1 + n) :=
  foldCases (Q := fun e => a.foldOr f node = e → e.Compact (1 + n)) (fun v _ => compactConst v (by omega))
    (fun stands => ⟨normal stands ha.normal, count ▸ Nat.add_le_add_left ha.count 1⟩) rfl

theorem compactBinary (ha : a.Compact m) (hb : b.Compact n)
    (cases : ∀ {Q : Expr α → Prop}, (∀ x, Q (const x)) → Q a → Q (-a) → Q b → Q (-b) → Q plain → Q built)
    (count : plain.nodeCount = 1 + a.nodeCount + b.nodeCount)
    (normal : built = plain → a.Normal → b.Normal → plain.Normal) : built.Compact (1 + m + n) := by
  have counts : plain.nodeCount ≤ 1 + m + n := by
    have left := ha.count
    have right := hb.count
    omega
  exact cases (Q := fun e => built = e → e.Compact (1 + m + n)) (fun v _ => compactConst v (by omega))
    (fun _ => ha.within (by omega)) (fun _ => (compactNegate ha).within (by omega))
    (fun _ => hb.within (by omega)) (fun _ => (compactNegate hb).within (by omega))
    (fun stands => ⟨normal stands ha.normal hb.normal, counts⟩) rfl

end Build

theorem substituteCompact (known : ParamId → Option α) (e : Expr α) : (e.substitute known).Compact e.nodeCount := by
  induction e with
  | const v => exact compactConst v Nat.one_pos
  | param p =>
    unfold substitute
    split
    · exact compactConst _ Nat.one_pos
    · exact ⟨trivial, Nat.le_refl 1⟩
  | sum a b iha ihb =>
    exact compactBinary iha ihb (fun constant left _ right _ => addCases constant left right) rfl
      fun stands na nb => ⟨na, nb, stands⟩
  | difference a b iha ihb =>
    exact compactBinary iha ihb (fun constant left _ _ opposite => subCases constant left opposite) rfl
      fun stands na nb => ⟨na, nb, stands⟩
  | product a b iha ihb => exact compactBinary iha ihb mulCases rfl fun stands na nb => ⟨na, nb, stands⟩
  | quotient a b iha ihb =>
    exact compactBinary iha ihb (fun constant left _ _ _ => divCases constant left) rfl
      fun stands na nb => ⟨na, nb, stands⟩
  | negation a ih => exact compactNegate ih
  | root a ih => exact compactUnary ih rfl fun stands na => ⟨na, stands⟩
  | squared a ih => exact compactUnary ih rfl fun stands na => ⟨na, stands⟩
  | sine a ih => exact compactUnary ih rfl fun stands na => ⟨na, stands⟩
  | cosine a ih => exact compactUnary ih rfl fun stands na => ⟨na, stands⟩
  | arcsine a ih => exact compactUnary ih rfl fun stands na => ⟨na, stands⟩
  | arccosine a ih => exact compactUnary ih rfl fun stands na => ⟨na, stands⟩

theorem substituteKnown {known : ParamId → Option α} {v : ParamId → α} {e : Expr α}
    (h : e.Over fun p => known p = some (v p)) : e.substitute known = const (e.eval v) := by
  induction e with
  | const x => rfl
  | param p =>
    unfold substitute
    rw [show known p = some (v p) from h]
    rfl
  | sum a b iha ihb | difference a b iha ihb | product a b iha ihb | quotient a b iha ihb =>
    rw [substitute, iha h.1, ihb h.2]
    rfl
  | negation a ih | root a ih | squared a ih | sine a ih | cosine a ih | arcsine a ih | arccosine a ih =>
    rw [substitute, ih h]
    rfl

theorem substitutionLaws (e : Expr α) :
    e.fold.fold = e.fold ∧
    (∀ known, (e.substitute known).fold = e.substitute known ∧ (e.substitute known).nodeCount ≤ e.nodeCount ∧
      (∀ p ∈ (e.substitute known).params, p ∈ e.params ∧ known p = none) ∧
      ∀ v, (∀ p ∈ e.params, known p = some (v p)) → e.substitute known = const (e.eval v)) ∧
    ∀ p, ∀ q ∈ (e.partialIn p).params, q ∈ e.params := by
  have own : e.Over (· ∈ e.params) := overIff.mpr fun _ member => member
  have compact (known : ParamId → Option α) := substituteCompact known e
  refine ⟨(compact _).normal.fold, fun known => ⟨(compact known).normal.fold, (compact known).count, ?_, ?_⟩,
    fun p => overIff.mp (overPartial p own)⟩
  · exact overIff.mp (overSubstitute own fun p there unknown => ⟨there, unknown⟩)
  · exact fun v all => substituteKnown (overIff.mpr all)

theorem zeroDivisorKept :
    let x : ParamId := .request ⟨1⟩ 0
    let y : ParamId := .request ⟨1⟩ 1
    let e : Expr Float := .quotient (.product (.param x) (.param x)) (.difference (.param y) (.const 2.0))
    let given (p : ParamId) : Option Float := if p = y then some 3.0 else none
    let values (p : ParamId) : Float := if p = x then 4.0 else 2.0
    (x ∈ (e.substitute given).params ∧ x ∈ e.params ∧ given x = none) ∧
      e.substitute (fun p => some (values p)) = const (4.0 * 4.0 / (2.0 - 2.0)) ∧
      x ∈ (e.partialIn y).params ∧ x ∈ e.params := by
  intro x y e given values
  obtain ⟨-, known, slopes⟩ := substitutionLaws e
  have left : x ∈ (e.substitute given).params := by decide +kernel
  have slope : x ∈ (e.partialIn y).params := by decide +kernel
  exact ⟨⟨left, (known given).2.2.1 x left⟩, (known _).2.2.2 values fun _ _ => rfl, slope, slopes y x slope⟩

end Drafting.Expr
