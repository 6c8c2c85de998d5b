import Drafting.Scalar.Binary64
/-! What the geometry relies on of its numbers, whatever they are, and that binary words have it. -/
namespace Drafting

/-- A number of a size below a bound is finite, and numbers that are the same are equal. -/
class LawfulScalar (α : Type) [Scalar α] : Prop where
  finiteOfBelow : ∀ {x bound : α}, Arith.abs x < bound → Arith.isFinite x = true
  eqOfSame : ∀ {x y : α}, Scalar.same x y = true → x = y

namespace Binary64
open Float.Model (UnpackedFloat)

theorem infinityNotBelow (b : UnpackedFloat) : (UnpackedFloat.infinity .positive).lt b = false := by
  cases b with
  | infinity sign => cases sign <;> rfl
  | _ => rfl

theorem absOfInfinite {x : Float} (infinite : x.isFinite = false) :
    x.abs.toModel.unpack = .notANumber ∨ x.abs.toModel.unpack = .infinity .positive := by
  change x.toModel.unpack.isFinite = false at infinite
  change (Float.Model.pack x.toModel.unpack.abs).unpack = _ ∨ (Float.Model.pack x.toModel.unpack.abs).unpack = _
  cases unpacked : x.toModel.unpack with
  | notANumber => exact .inl rfl
  | infinity sign =>
    right
    change UnpackedFloat.unpack .binary64 (UnpackedFloat.pack .binary64 (.infinity .positive)) = _
    rfl
  | zero | finite =>
    rw [unpacked] at infinite
    change true = false at infinite
    cases infinite

theorem finiteOfAbsBelow {x bound : Float} (below : x.abs < bound) : x.isFinite = true := by
  have less : x.abs.toModel.unpack.lt bound.toModel.unpack = true := by
    have decided : decide (x.abs.toModel.unpack.lt bound.toModel.unpack = true) = true := below
    simpa using decided
  cases finite : x.isFinite with
  | true => rfl
  | false =>
    rcases absOfInfinite finite with undefined | unbounded
    · rw [undefined] at less
      cases less
    · rw [unbounded, infinityNotBelow] at less
      cases less

instance : LawfulScalar Float where
  finiteOfBelow := finiteOfAbsBelow
  eqOfSame {x y} same := by
    have bits : x.toModel.toBits = y.toModel.toBits := eq_of_beq same
    obtain ⟨⟨a, _⟩⟩ := x
    obtain ⟨⟨b, _⟩⟩ := y
    obtain rfl : a = b := bits
    rfl

end Binary64
end Drafting
