import Drafting.Scalar.Basic
/-! The rank of a list of rows: how many of them are not, within a tolerance, combinations of those
before. -/
namespace Drafting.Rank

variable [Scalar α]

@[specialize] def dot (a b : Array α) : α := (Array.zipWith (· * ·) a b).foldl (· + ·) 0.0
@[specialize] def norm (a : Array α) : α := Scalar.sqrt (dot a a)

@[specialize] def project (v b : Array α) : Array α :=
  let d := dot v b
  Array.zipWith (fun x y => x - d * y) v b

/-- Adds the direction that a row has beyond a basis, if it has one; two rounds keep it accurate. -/
@[specialize] def extend (tolerance : α) (basis : Array (Array α)) (row : Array α) : Array (Array α) :=
  let scale := norm row
  if scale == 0.0 || !Arith.isFinite scale then basis
  else
    let v := basis.foldl project (basis.foldl project row)
    let left := norm v
    if tolerance * scale < left && (1e-14 : α) < left then basis.push (v.map (· / left)) else basis

@[specialize] def basis (tolerance : α) (rows : List (Array α)) : Array (Array α) :=
  rows.foldl (extend tolerance) #[]

@[specialize] def of (tolerance : α) (rows : List (Array α)) : Nat := (basis tolerance rows).size

end Drafting.Rank
