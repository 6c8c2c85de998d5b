import Drafting.Scalar.Basic
import Drafting.Handle
/-! Symbolic expressions over parameters. Residuals of constraints are written in them; they are
evaluated, differentiated and partly substituted. The operations +, -, *, / on expressions fold
constants as they build. -/
namespace Drafting

inductive Expr (α : Type) where
  | const (value : α)
  | param (id : ParamId)
  | sum (a b : Expr α)
  | difference (a b : Expr α)
  | product (a b : Expr α)
  | quotient (a b : Expr α)
  | negation (a : Expr α)
  | root (a : Expr α)
  | squared (a : Expr α)
  | sine (a : Expr α)
  | cosine (a : Expr α)
  | arcsine (a : Expr α)
  | arccosine (a : Expr α)
  deriving Repr, Inhabited

namespace Expr

def const? : Expr α → Option α
  | const v => some v
  | _ => none

section Build
variable [Scalar α]

def negate : Expr α → Expr α
  | const v => const (-v)
  | negation a => a
  | a => negation a

def plus (a b : Expr α) : Expr α :=
  match a.const?, b.const? with
  | some x, some y => const (x + y)
  | some x, none => if x == 0.0 then b else sum a b
  | none, some y => if y == 0.0 then a else sum a b
  | none, none => sum a b

def minus (a b : Expr α) : Expr α :=
  match a.const?, b.const? with
  | some x, some y => const (x - y)
  | none, some y => if y == 0.0 then a else difference a b
  | some x, none => if x == 0.0 then b.negate else difference a b
  | none, none => difference a b

/-- A product with a known factor of zero is zero, of one or minus one the other factor or its negation. -/
def timesConst (whole : Expr α) (x : α) (a : Expr α) : Expr α :=
  if x == 0.0 then const 0.0
  else if x == 1.0 then a
  else if x == -1.0 then a.negate
  else whole

def times (a b : Expr α) : Expr α :=
  match a.const?, b.const? with
  | some x, some y => const (x * y)
  | some x, none => timesConst (product a b) x b
  | none, some y => timesConst (product a b) y a
  | none, none => product a b

def dividedBy (a b : Expr α) : Expr α :=
  match a.const?, b.const? with
  | some x, some y => const (x / y)
  | none, some y => if y == 1.0 then a else quotient a b
  | some x, none => if x == 0.0 then const 0.0 else quotient a b
  | none, none => quotient a b

def foldOr (f : α → α) (node : Expr α → Expr α) (a : Expr α) : Expr α :=
  match a.const? with
  | some v => const (f v)
  | none => node a

def sqrt (a : Expr α) : Expr α := a.foldOr Scalar.sqrt root
def square (a : Expr α) : Expr α := a.foldOr (fun v => v * v) squared
def sin (a : Expr α) : Expr α := a.foldOr Scalar.sin sine
def cos (a : Expr α) : Expr α := a.foldOr Scalar.cos cosine
def asin (a : Expr α) : Expr α := a.foldOr Scalar.asin arcsine
def acos (a : Expr α) : Expr α := a.foldOr Scalar.acos arccosine

instance : Add (Expr α) := ⟨plus⟩
instance : Sub (Expr α) := ⟨minus⟩
instance : Mul (Expr α) := ⟨times⟩
instance : Div (Expr α) := ⟨dividedBy⟩
instance : Neg (Expr α) := ⟨negate⟩

end Build

def eval [Scalar α] (value : ParamId → α) : Expr α → α
  | const v => v
  | param p => value p
  | sum a b => a.eval value + b.eval value
  | difference a b => a.eval value - b.eval value
  | product a b => a.eval value * b.eval value
  | quotient a b => a.eval value / b.eval value
  | negation a => -a.eval value
  | root a => Scalar.sqrt (a.eval value)
  | squared a => let v := a.eval value; v * v
  | sine a => Scalar.sin (a.eval value)
  | cosine a => Scalar.cos (a.eval value)
  | arcsine a => Scalar.asin (a.eval value)
  | arccosine a => Scalar.acos (a.eval value)

def dependsOn (p : ParamId) : Expr α → Bool
  | const _ => false
  | param q => q == p
  | sum a b | difference a b | product a b | quotient a b => a.dependsOn p || b.dependsOn p
  | negation a | root a | squared a | sine a | cosine a | arcsine a | arccosine a => a.dependsOn p

def collect : Expr α → List ParamId → List ParamId
  | const _, seen => seen
  | param p, seen => if p ∈ seen then seen else seen ++ [p]
  | sum a b, seen | difference a b, seen | product a b, seen | quotient a b, seen =>
    b.collect (a.collect seen)
  | negation a, seen | root a, seen | squared a, seen | sine a, seen | cosine a, seen
  | arcsine a, seen | arccosine a, seen => a.collect seen

def params (e : Expr α) : List ParamId := e.collect []

/-- The derivative in one parameter. Parts without the parameter are cut off before any rule applies. -/
def partialIn [Scalar α] (p : ParamId) : Expr α → Expr α
  | const _ => const 0.0
  | param q => const (if q = p then 1.0 else 0.0)
  | e@(sum a b) => if e.dependsOn p then a.partialIn p + b.partialIn p else const 0.0
  | e@(difference a b) => if e.dependsOn p then a.partialIn p - b.partialIn p else const 0.0
  | e@(product a b) =>
    if e.dependsOn p then a.partialIn p * b + a * b.partialIn p else const 0.0
  | e@(quotient a b) =>
    if e.dependsOn p then (a.partialIn p * b - a * b.partialIn p) / b.square else const 0.0
  | e@(negation a) => if e.dependsOn p then -a.partialIn p else const 0.0
  | e@(root a) => if e.dependsOn p then a.partialIn p / (const 2.0 * e) else const 0.0
  | e@(squared a) => if e.dependsOn p then const 2.0 * a * a.partialIn p else const 0.0
  | e@(sine a) => if e.dependsOn p then a.cos * a.partialIn p else const 0.0
  | e@(cosine a) => if e.dependsOn p then -(a.sin * a.partialIn p) else const 0.0
  | e@(arcsine a) =>
    if e.dependsOn p then a.partialIn p / (const 1.0 - a.square).sqrt else const 0.0
  | e@(arccosine a) =>
    if e.dependsOn p then -(a.partialIn p / (const 1.0 - a.square).sqrt) else const 0.0

def substitute [Scalar α] (known : ParamId → Option α) : Expr α → Expr α
  | const v => const v
  | param p => match known p with
    | some v => const v
    | none => param p
  | sum a b => a.substitute known + b.substitute known
  | difference a b => a.substitute known - b.substitute known
  | product a b => a.substitute known * b.substitute known
  | quotient a b => a.substitute known / b.substitute known
  | negation a => -a.substitute known
  | root a => (a.substitute known).sqrt
  | squared a => (a.substitute known).square
  | sine a => (a.substitute known).sin
  | cosine a => (a.substitute known).cos
  | arcsine a => (a.substitute known).asin
  | arccosine a => (a.substitute known).acos

def fold [Scalar α] (e : Expr α) : Expr α := e.substitute fun _ => none

def nodeCount : Expr α → Nat
  | const _ | param _ => 1
  | sum a b | difference a b | product a b | quotient a b => 1 + a.nodeCount + b.nodeCount
  | negation a | root a | squared a | sine a | cosine a | arcsine a | arccosine a =>
    1 + a.nodeCount

def render (number : α → String) : Expr α → String
  | const v => number v
  | param p => toString p
  | sum a b => s!"(+ {a.render number} {b.render number})"
  | difference a b => s!"(- {a.render number} {b.render number})"
  | product a b => s!"(* {a.render number} {b.render number})"
  | quotient a b => s!"(/ {a.render number} {b.render number})"
  | negation a => s!"(neg {a.render number})"
  | root a => s!"(sqrt {a.render number})"
  | squared a => s!"(sq {a.render number})"
  | sine a => s!"(sin {a.render number})"
  | cosine a => s!"(cos {a.render number})"
  | arcsine a => s!"(asin {a.render number})"
  | arccosine a => s!"(acos {a.render number})"

end Expr
end Drafting
