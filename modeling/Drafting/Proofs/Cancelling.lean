import Drafting.Proofs.Distances
/-! What measuring a dimension relies on of its numbers, and that binary words have it: a finite number less itself is
zero, and less zero it is the number. A finite word is read and written back unchanged, whether its leading bit is
stored or not. -/
namespace Drafting

/-- A finite number less itself is zero, and less zero it is the number. Of all numbers only finite ones are finite when
zero is taken from them. -/
class LawfulDifference (α : Type) [Scalar α] : Prop where
  lessSelf : ∀ {x : α}, Arith.isFinite x = true → (x - x == 0.0) = true
  lessZero : ∀ {x : α}, Arith.isFinite x = true → x - 0.0 = x
  ofLessZero : ∀ {x : α}, Arith.isFinite (x - 0.0) = true → Arith.isFinite x = true

namespace Binary64
open Float.Model (UnpackedFloat Format)
open Float.Model.UnpackedFloat

theorem componentsOfWord (b : BitVec Format.binary64.numBits) :
    packComponents .binary64 (Sign.ofBitVec (unpackSign b)) (unpackExponent b) (unpackMantissa b) = b := by
  have sign (v : BitVec 1) : (Sign.ofBitVec v).toBitVec = v := by
    revert v
    decide
  rw [packComponents, sign]
  simp only [unpackSign, unpackExponent, unpackMantissa, BitVec.extractLsb]
  ext i below
  grind

theorem exponentWritten (s : Sign) {m : Nat} {e : Int} (pos : 0 < m) (bounded : (e + 1023 + 52).toNat < 2047) :
    pack .binary64 (.finite s m e pos) = packComponents .binary64 s
      (if m.log2 = 52 then BitVec.ofNat 11 (e + 1023 + 52).toNat else 0#11) (BitVec.ofNat 52 m) := by
  have within : ¬ 2 ^ 11 ≤ (e + 1023 + 52).toNat + 1 := by omega
  refine (if_neg within).trans ?_
  by_cases leading : m.log2 = 52
  · rw [if_pos leading]
    exact if_pos (congrArg Nat.succ leading)
  · rw [if_neg leading]
    exact if_neg fun same => leading (Nat.succ.inj same)

theorem smallWritten (m : BitVec 52) (s : Sign) (pos : 0 < m.toNat) :
    pack .binary64 (.finite s m.toNat (0 - (1023 + 52) + 1) pos) = packComponents .binary64 s 0#11 m := by
  have short : m.toNat.log2 ≠ 52 := fun same => by
    have bound := (Nat.le_log2 pos.ne').mp same.ge
    exact absurd m.isLt (Nat.not_lt.mpr bound)
  rw [exponentWritten s pos (by decide), if_neg short, BitVec.ofNat_toNat, BitVec.setWidth_eq]

theorem leadingWritten (e : BitVec 11) (m : BitVec 52) (s : Sign) (finite : e ≠ -1#11) (pos : 0 < (1#1 ++ m).toNat) :
    pack .binary64 (.finite s (1#1 ++ m).toNat (e.toNat - (1023 + 52)) pos) = packComponents .binary64 s e m := by
  have whole : (1#1 ++ m).toNat = 2 ^ 52 + m.toNat := by
    rw [BitVec.toNat_append, ← Nat.shiftLeft_add_eq_or_of_lt m.isLt]
    rfl
  have below : e.toNat < 2047 := by
    refine Nat.lt_of_le_of_ne (Nat.le_of_lt_succ e.isLt) fun same => finite ?_
    exact BitVec.toNat_inj.mp same
  have stored : (((e.toNat : Int) - (1023 + 52)) + 1023 + 52).toNat = e.toNat := by omega
  have long : (1#1 ++ m).toNat.log2 = 52 := by
    rw [whole, Nat.log2_eq_iff (by omega)]
    have size := m.isLt
    omega
  rw [exponentWritten s pos (by omega), if_pos long, stored, whole, BitVec.ofNat_toNat, BitVec.setWidth_eq]
  refine congrArg (packComponents .binary64 s e) (BitVec.toNat_inj.mp ?_)
  rw [BitVec.toNat_ofNat, Nat.add_mod_left, Nat.mod_eq_of_lt m.isLt]

theorem componentsWritten (s : Sign) (e : BitVec 11) (m : BitVec 52)
    (finite : (unpack .binary64 (packComponents .binary64 s e m)).isFinite = true) :
    pack .binary64 (unpack .binary64 (packComponents .binary64 s e m)) = packComponents .binary64 s e m := by
  simp only [unpack, unpackMantissa_packComponents, unpackExponent_packComponents, unpackSign_packComponents,
    Sign.ofBitVec_toBitVec] at finite ⊢
  split at finite
  · split at finite <;> cases finite
  rename_i bounded
  rw [if_neg bounded]
  by_cases small : e = 0#11
  · rw [if_pos small]
    subst small
    by_cases none : m = 0#52
    · subst none
      rfl
    · rw [dif_neg none]
      exact smallWritten m s _
  · rw [if_neg small]
    exact leadingWritten e m s bounded _

theorem writtenBack (b : BitVec Format.binary64.numBits) (finite : (unpack .binary64 b).isFinite = true) :
    pack .binary64 (unpack .binary64 b) = b := by
  rw [← componentsOfWord b] at finite ⊢
  exact componentsWritten _ _ _ finite

theorem wordWrittenBack {x : Float} (finite : x.isFinite = true) : Float.ofModel (Float.Model.pack (number x)) = x := by
  obtain ⟨⟨bits, valid⟩⟩ := x
  have same := writtenBack bits.toBitVec finite
  simp only [number, Float.Model.pack, Float.Model.unpack, same]

theorem numberZero : number 0.0 = .zero .positive := rfl

theorem lessZero {u : UnpackedFloat} (finite : u.isFinite = true) : sub .binary64 u (.zero .positive) = u := by
  cases u with
  | notANumber | infinity => cases finite
  | zero s => cases s <;> rfl
  | finite => rfl

theorem lessSelf {u : UnpackedFloat} (finite : u.isFinite = true) : sub .binary64 u u = .zero .positive := by
  cases u with
  | notANumber | infinity => cases finite
  | zero s => cases s <;> rfl
  | finite s m e pos => simp [sub, UnpackedFloat.normalize]

theorem unboundedLessZero {u : UnpackedFloat} (unbounded : u.isFinite = false) :
    (stored (sub .binary64 u (.zero .positive))).isFinite = false := by
  cases u with
  | notANumber => rfl
  | infinity s => cases s <;> rfl
  | zero | finite => cases unbounded

instance : LawfulDifference Float where
  lessSelf {x} finite := by
    change (UnpackedFloat.compare (stored (sub .binary64 (number x) (number x))) (number 0.0) == some .eq) = true
    rw [lessSelf finite]
    rfl
  lessZero {x} finite := by
    change Float.ofModel (Float.Model.pack (sub .binary64 (number x) (number 0.0))) = x
    rw [numberZero, lessZero finite]
    exact wordWrittenBack finite
  ofLessZero {x} finite := by
    change (stored (sub .binary64 (number x) (number 0.0))).isFinite = true at finite
    rw [numberZero] at finite
    change (number x).isFinite = true
    cases unbounded : (number x).isFinite with
    | true => rfl
    | false =>
      rw [unboundedLessZero unbounded] at finite
      cases finite

end Binary64
end Drafting
