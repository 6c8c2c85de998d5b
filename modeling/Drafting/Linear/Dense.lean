import Drafting.Scalar.Basic
/-! Elimination with partial pivoting. A system is a list of rows; each step takes one row out and
one column off the others, so what is left is a system again. -/
namespace Drafting.Linear

def pivotEpsilon [Arith α] : α := 1e-12

structure Row (α : Type) where
  coeffs : List α
  rhs : α
  deriving Repr, Inhabited

variable [Arith α]

@[specialize] def Row.lead (r : Row α) : α := r.coeffs.headD 0.0

@[specialize] def pivot (best : Nat × α) (place : Nat) : List (Row α) → Nat × α
  | [] => best
  | r :: rest =>
    let size := Arith.abs r.lead
    pivot (if best.2 < size then (place, size) else best) (place + 1) rest

def bringUp (first : Row α) (rest : List (Row α)) : Nat → Row α × List (Row α)
  | 0 => (first, rest)
  | k + 1 => (rest.getD k first, rest.set k first)

@[specialize] def Row.reduce (p r : Row α) : Row α :=
  let factor := r.lead / p.lead
  if factor == 0.0 then ⟨r.coeffs.tail, r.rhs⟩
  else ⟨List.zipWith (fun x y => x - factor * y) r.coeffs.tail p.coeffs.tail, r.rhs - factor * p.rhs⟩

@[specialize] def echelon : Nat → List (Row α) → Option (List (Row α))
  | 0, _ => some []
  | _ + 1, [] => some []
  | steps + 1, r :: rest =>
    let (k, size) := pivot (0, Arith.abs r.lead) 1 rest
    if pivotEpsilon ≤ size then
      let (p, others) := bringUp r rest k
      (echelon steps (others.map p.reduce)).map (p :: ·)
    else none

@[specialize] def backSubstitute : List (Row α) → List α
  | [] => []
  | r :: rest =>
    let known := backSubstitute rest
    (List.zipWith Prod.mk r.coeffs.tail known).foldl (fun sum (a, x) => sum - a * x) r.rhs / r.lead :: known

/-- The solution of a square system, unless a step finds no usable pivot. -/
@[specialize] def denseSolve (a : List (List α)) (b : List α) : Option (List α) :=
  (echelon b.length (List.zipWith Row.mk a b)).map backSubstitute

end Drafting.Linear
