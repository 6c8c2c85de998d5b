/-! The numbers the geometry is written over. `Arith` is what elimination, folding and curve
splitting need; `Scalar` adds the functions of trigonometry. Neither class carries laws: the same
definitions run over binary words and are reasoned about over an exact field. -/
namespace Drafting

class Arith (α : Type) extends Add α, Sub α, Mul α, Div α, Neg α, LT α, LE α, BEq α,
    OfScientific α where
  decLt : (a b : α) → Decidable (a < b)
  decLe : (a b : α) → Decidable (a ≤ b)
  abs : α → α
  ofNat : Nat → α
  isFinite : α → Bool

instance Arith.decidableLt [Arith α] (a b : α) : Decidable (a < b) := Arith.decLt a b
instance Arith.decidableLe [Arith α] (a b : α) : Decidable (a ≤ b) := Arith.decLe a b

namespace Arith

/-- The smaller of two; an undefined operand gives way to the other. -/
@[specialize] def min [Arith α] (a b : α) : α :=
  if a == a then if b < a then b else a else b

@[specialize] def max [Arith α] (a b : α) : α :=
  if a == a then if a < b then b else a else b

/-- Into the range from low to high; an undefined value stays undefined. -/
@[specialize] def clamp [Arith α] (x low high : α) : α :=
  if x < low then low else if high < x then high else x

@[specialize] def square [Arith α] (x : α) : α := x * x

end Arith

class Scalar (α : Type) extends Arith α where
  sqrt : α → α
  sin : α → α
  cos : α → α
  tan : α → α
  asin : α → α
  acos : α → α
  atan2 : α → α → α
  /-- The remainder of least size with the sign of the modulus left out: never negative. -/
  remEuclid : α → α → α
  /-- The least natural number not below the value, 0 where the value is undefined. -/
  ceilNat : α → Nat
  pi : α
  undefined : α
  /-- A strict total order that agrees with the usual one and separates what has another written form. -/
  totalLt : α → α → Bool
  same : α → α → Bool
  signOne : α → α

namespace Scalar

def tau [Scalar α] : α := 2.0 * pi
def halfPi [Scalar α] : α := pi / 2.0
def radians [Scalar α] (degrees : α) : α := degrees * (pi / 180.0)
def degrees [Scalar α] (radians : α) : α := radians * (180.0 / pi)

end Scalar
end Drafting
