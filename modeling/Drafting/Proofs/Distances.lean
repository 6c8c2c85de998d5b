import Mathlib
import Drafting.Geometry.Vector
import Drafting.Scalar.Binary64
/-! What joining ends of curves relies on of distances, and that distances between binary words have it. A distance
does not depend on the direction it is taken in, and of two finite places it can be compared with every number. -/
namespace Drafting

structure Vec3.Finite [Arith α] (p : Vec3 α) : Prop where
  x : Arith.isFinite p.x = true
  y : Arith.isFinite p.y = true
  z : Arith.isFinite p.z = true

/-- Distances are the same both ways, those of finite places compare with whatever equals itself, and a place that has a
distance from itself is finite. -/
class LawfulDistance (α : Type) [Scalar α] : Prop where
  symm : ∀ p q : Vec3 α, p.distance q = q.distance p
  decides : ∀ {p q : Vec3 α} {x : α}, p.Finite → q.Finite → (x == x) = true → x < p.distance q ∨ p.distance q ≤ x
  excludes : ∀ {p q : Vec3 α} {x : α}, p.distance q ≤ x → ¬ x < p.distance q
  ofSelf : ∀ {p : Vec3 α} {x : α}, p.distance p ≤ x → p.Finite ∧ (x == x) = true

namespace Binary64
open Float.Model (UnpackedFloat Format)
open Float.Model.UnpackedFloat

def signed (s : Sign) : UnpackedFloat → UnpackedFloat
  | .notANumber => .notANumber
  | .infinity _ => .infinity s
  | .zero _ => .zero s
  | .finite _ m e pos => .finite s m e pos

def stored (u : UnpackedFloat) : UnpackedFloat := unpack .binary64 (pack .binary64 u)

theorem readSigned (s : Sign) (e : BitVec 11) (m : BitVec 52) : unpack .binary64 (packComponents .binary64 s e m) =
    signed s (unpack .binary64 (packComponents .binary64 .positive e m)) := by
  simp only [unpack, unpackMantissa_packComponents, unpackExponent_packComponents, unpackSign_packComponents,
    Sign.ofBitVec_toBitVec]
  split_ifs <;> rfl

theorem readNumber {e : BitVec 11} {m : BitVec 52} (plain : e ≠ -1#11 ∨ m = 0#52) (s : Sign) :
    unpack .binary64 (packComponents .binary64 s e m) ≠ .notANumber := by
  simp only [unpack, unpackMantissa_packComponents, unpackExponent_packComponents]
  split_ifs <;> simp_all

theorem storedComponents (u : UnpackedFloat) (number : u ≠ .notANumber) : ∃ (e : BitVec 11) (m : BitVec 52),
    (e ≠ -1#11 ∨ m = 0#52) ∧ ∀ s, stored (signed s u) = unpack .binary64 (packComponents .binary64 s e m) := by
  cases u with
  | notANumber => exact absurd rfl number
  | infinity => exact ⟨-1#11, 0#52, .inr rfl, fun _ => rfl⟩
  | zero => exact ⟨0#11, 0#52, .inr rfl, fun _ => rfl⟩
  | finite t m e pos =>
    let biased := (e + (Format.binary64.exponentBias : Int) + 52).toNat
    by_cases unbounded : 2 ^ 11 ≤ biased + 1
    · refine ⟨-1#11, 0#52, .inr rfl, fun s => congrArg (unpack .binary64) ?_⟩
      exact if_pos unbounded
    · by_cases normal : m.log2 + 1 = Format.binary64.mantissaBits
      · refine ⟨BitVec.ofNat 11 biased, BitVec.ofNat 52 m, .inl fun same => ?_, fun s => congrArg (unpack .binary64) ?_⟩
        · have small := congrArg BitVec.toNat same
          rw [BitVec.toNat_ofNat, Nat.mod_eq_of_lt (by omega)] at small
          simp at small
          omega
        · exact (if_neg unbounded).trans (if_pos normal)
      · refine ⟨0#11, BitVec.ofNat 52 m, .inl (by decide), fun s => congrArg (unpack .binary64) ?_⟩
        exact (if_neg unbounded).trans (if_neg normal)

theorem signedSelf (u : UnpackedFloat) : ∃ s, signed s u = u := by
  cases u with
  | notANumber => exact ⟨.positive, rfl⟩
  | infinity s | zero s | finite s => exact ⟨s, rfl⟩

theorem signedTwice (s t : Sign) (u : UnpackedFloat) : signed s (signed t u) = signed s u := by
  cases u <;> rfl

theorem storedNumber {u : UnpackedFloat} (number : u ≠ .notANumber) : stored u ≠ .notANumber := by
  obtain ⟨e, m, plain, read⟩ := storedComponents u number
  obtain ⟨s, same⟩ := signedSelf u
  rw [← same, read]
  exact readNumber plain s

theorem storedUndefined : stored .notANumber = .notANumber := rfl

theorem storedSigned (s : Sign) (u : UnpackedFloat) : stored (signed s u) = signed s (stored u) := by
  by_cases number : u = .notANumber
  · subst number
    rw [signed, storedUndefined]
    rfl
  · obtain ⟨e, m, plain, read⟩ := storedComponents u number
    obtain ⟨t, same⟩ := signedSelf u
    have here := read t
    rw [same] at here
    rw [here, read, readSigned s, readSigned t, signedTwice]

structure Size (u : UnpackedFloat) : Prop where
  number : u ≠ .notANumber
  positive : signed .positive u = u

theorem Size.stored {u : UnpackedFloat} (size : Size u) : Size (stored u) :=
  ⟨storedNumber size.number, by rw [← storedSigned, size.positive]⟩

theorem roundSigned (s t : Sign) (m : Nat) (e : Int) (accuracy : Accuracy) :
    signed t (roundWithAccuracy .binary64 s m e accuracy) = roundWithAccuracy .binary64 t m e accuracy := by
  simp only [roundWithAccuracy]
  split_ifs <;> rfl

theorem roundNumber (s : Sign) (m : Nat) (e : Int) (accuracy : Accuracy) :
    roundWithAccuracy .binary64 s m e accuracy ≠ .notANumber := by
  simp only [roundWithAccuracy]
  split_ifs <;> simp

theorem roundSize (m : Nat) (e : Int) (accuracy : Accuracy) : Size (roundWithAccuracy .binary64 .positive m e accuracy) :=
  ⟨roundNumber _ _ _ _, roundSigned _ _ _ _ _⟩

theorem squareSign (s : Sign) : s * s = .positive := by
  cases s <;> rfl

theorem squareSize {u : UnpackedFloat} (number : u ≠ .notANumber) : Size (mul .binary64 u u) := by
  cases u with
  | notANumber => exact absurd rfl number
  | infinity s => exact ⟨by simp [mul], by simp [mul, squareSign, signed]⟩
  | zero s => exact ⟨by simp [mul], by simp [mul, squareSign, signed]⟩
  | finite s m e pos =>
    simp only [mul, squareSign]
    exact roundSize ..

theorem squareSigned (s : Sign) (u : UnpackedFloat) : mul .binary64 (signed s u) (signed s u) = mul .binary64 u u := by
  cases u with
  | notANumber => rfl
  | infinity | zero | finite => simp only [signed, mul, squareSign]

theorem normalizeSize (m : Nat) (e : Int) : Size (UnpackedFloat.normalize .binary64 m e .positive) := by
  simp only [UnpackedFloat.normalize]
  split
  · rename_i less
    exact absurd (Int.compare_eq_lt.mp less) (by omega)
  · exact ⟨by simp, rfl⟩
  · exact roundSize ..

theorem Size.cases {u : UnpackedFloat} (size : Size u) : u = .infinity .positive ∨ u = .zero .positive ∨
    ∃ m e pos, u = .finite .positive m e pos := by
  obtain ⟨number, positive⟩ := size
  cases u with
  | notANumber => exact absurd rfl number
  | infinity s => exact .inl positive.symm
  | zero s => exact .inr (.inl positive.symm)
  | finite s m e pos => exact .inr (.inr ⟨m, e, pos, positive.symm⟩)

theorem addSize {u v : UnpackedFloat} (first : Size u) (second : Size v) : Size (add .binary64 u v) := by
  rcases first.cases with rfl | rfl | ⟨m, e, pos, rfl⟩
  · rcases second.cases with rfl | rfl | ⟨n, k, pos', rfl⟩ <;> exact first
  · rcases second.cases with rfl | rfl | ⟨n, k, pos', rfl⟩ <;> exact second
  · rcases second.cases with rfl | rfl | ⟨n, k, pos', rfl⟩
    · exact second
    · exact first
    · simp only [add, Sign.apply, ← Int.natCast_add]
      exact normalizeSize ..

theorem sqrtSize {u : UnpackedFloat} (size : Size u) : Size (sqrt .binary64 u) := by
  rcases size.cases with rfl | rfl | ⟨m, e, pos, rfl⟩
  · exact size
  · exact size
  · exact roundSize ..

theorem normalizeSigned (m : Int) (e : Int) : signed .positive (UnpackedFloat.normalize .binary64 (-m) e .positive) =
    signed .positive (UnpackedFloat.normalize .binary64 m e .positive) := by
  have flip (k : Nat) : signed .positive (UnpackedFloat.round .binary64 .negative k e) =
      signed .positive (UnpackedFloat.round .binary64 .positive k e) := by
    simp only [UnpackedFloat.round, roundSigned]
  rcases Int.lt_trichotomy m 0 with below | rfl | above
  · rw [UnpackedFloat.normalize, UnpackedFloat.normalize, Int.compare_eq_lt.mpr below, Int.compare_eq_gt.mpr (by omega)]
    exact (flip _).symm
  · rfl
  · rw [UnpackedFloat.normalize, UnpackedFloat.normalize, Int.compare_eq_gt.mpr above, Int.compare_eq_lt.mpr (by omega)]
    dsimp only
    rw [Int.neg_neg]
    exact flip _

theorem subSigned (u v : UnpackedFloat) : signed .positive (sub .binary64 u v) = signed .positive (sub .binary64 v u) := by
  cases u with
  | notANumber => cases v <;> rfl
  | infinity s =>
    cases v with
    | infinity t => cases s <;> cases t <;> rfl
    | _ => rfl
  | zero s =>
    cases v with
    | zero t => cases s <;> cases t <;> rfl
    | _ => rfl
  | finite s m e pos =>
    cases v with
    | finite t n k pos' =>
      simp only [sub, Int.min_comm k e]
      rw [← normalizeSigned, Int.neg_sub]
    | _ => rfl

theorem compareSwap (u v : UnpackedFloat) : UnpackedFloat.compare v u = (UnpackedFloat.compare u v).map Ordering.swap := by
  cases u with
  | finite s m e pos =>
    cases v with
    | finite t n k pos' =>
      cases s <;> cases t <;>
        simp [UnpackedFloat.compare, Ordering.swap_then, Int.compare_swap, Nat.compare_swap]
    | infinity t | zero t => cases s <;> cases t <;> rfl
    | notANumber => cases s <;> rfl
  | infinity s | zero s =>
    cases v with
    | infinity t | zero t | finite t => cases s <;> cases t <;> rfl
    | notANumber => cases s <;> rfl
  | notANumber => cases v <;> rfl

theorem compareNumbers {u v : UnpackedFloat} (first : u ≠ .notANumber) (second : v ≠ .notANumber) :
    ∃ o, UnpackedFloat.compare u v = some o := by
  cases u with
  | notANumber => exact absurd rfl first
  | infinity s | zero s | finite s =>
    cases v with
    | notANumber => exact absurd rfl second
    | infinity t | zero t | finite t => cases s <;> cases t <;> exact ⟨_, rfl⟩

theorem numbersOfCompare {u v : UnpackedFloat} {o : Ordering} (compared : UnpackedFloat.compare u v = some o) :
    u ≠ .notANumber ∧ v ≠ .notANumber := by
  constructor
  · rintro rfl
    exact nomatch compared
  · rintro rfl
    cases u <;> exact nomatch compared

theorem compareSelf {u : UnpackedFloat} (number : u ≠ .notANumber) : UnpackedFloat.compare u u = some .eq := by
  obtain ⟨o, compared⟩ := compareNumbers number number
  have other := compareSwap u u
  rw [compared] at other
  cases o with
  | eq => exact compared
  | lt | gt => cases Option.some.inj other

abbrev number (x : Float) : UnpackedFloat := x.toModel.unpack

theorem numberFinite {x : Float} (finite : x.isFinite = true) : number x ≠ .notANumber ∧ ∀ s, number x ≠ .infinity s := by
  change (number x).isFinite = true at finite
  cases unpacked : number x with
  | notANumber | infinity =>
    rw [unpacked] at finite
    cases finite
  | zero | finite => simp

theorem normalizeNumber (m : Int) (e : Int) : UnpackedFloat.normalize .binary64 m e .positive ≠ .notANumber := by
  simp only [UnpackedFloat.normalize]
  split
  · exact roundNumber _ _ _ _
  · simp
  · exact roundNumber _ _ _ _

theorem subNumber {u v : UnpackedFloat} (first : u ≠ .notANumber ∧ ∀ s, u ≠ .infinity s)
    (second : v ≠ .notANumber ∧ ∀ s, v ≠ .infinity s) : sub .binary64 u v ≠ .notANumber := by
  cases u with
  | notANumber => exact absurd rfl first.1
  | infinity s => exact absurd rfl (first.2 s)
  | zero s =>
    cases v with
    | notANumber => exact absurd rfl second.1
    | infinity t => exact absurd rfl (second.2 t)
    | zero t =>
      simp only [sub]
      split <;> simp
    | finite t => simp [sub]
  | finite s m e pos =>
    cases v with
    | notANumber => exact absurd rfl second.1
    | infinity t => exact absurd rfl (second.2 t)
    | zero t => simp [sub]
    | finite t n k pos' => exact normalizeNumber _ _

theorem squareSymm (a b : Float) : (a - b) * (a - b) = (b - a) * (b - a) := by
  have sizes : signed .positive (stored (sub .binary64 (number a) (number b))) =
      signed .positive (stored (sub .binary64 (number b) (number a))) := by
    rw [← storedSigned, subSigned, storedSigned]
  have squares : mul .binary64 (number (a - b)) (number (a - b)) = mul .binary64 (number (b - a)) (number (b - a)) := by
    rw [← squareSigned .positive (number (a - b)), ← squareSigned .positive (number (b - a))]
    exact congrArg (fun u => mul .binary64 u u) sizes
  exact congrArg (fun u => Float.ofModel (Float.Model.pack u)) squares

theorem squareOfFinite {a b : Float} (first : a.isFinite = true) (second : b.isFinite = true) :
    Size (number ((a - b) * (a - b))) :=
  (squareSize (storedNumber (subNumber (numberFinite first) (numberFinite second)))).stored

theorem distanceSize {p q : Vec3 Float} (first : p.Finite) (second : q.Finite) : Size (number (p.distance q)) :=
  have x := squareOfFinite first.x second.x
  have y := squareOfFinite first.y second.y
  have z := squareOfFinite first.z second.z
  (sqrtSize (addSize (addSize x y).stored z).stored).stored

theorem lessIff {x y : Float} : x < y ↔ UnpackedFloat.compare (number x) (number y) = some .lt := by
  change decide ((UnpackedFloat.compare (number x) (number y) == some .lt) = true) = true ↔ _
  rw [decide_eq_true_iff, beq_iff_eq]

theorem atMostIff {x y : Float} : x ≤ y ↔ ∃ o, UnpackedFloat.compare (number x) (number y) = some o ∧ o ≠ .gt := by
  change decide ((UnpackedFloat.compare (number x) (number y)).any (·.isLE) = true) = true ↔ _
  rw [decide_eq_true_iff]
  cases UnpackedFloat.compare (number x) (number y) with
  | none => simp
  | some o => cases o <;> simp

theorem sameIff {x : Float} : (x == x) = true ↔ number x ≠ .notANumber := by
  change (UnpackedFloat.compare (number x) (number x) == some .eq) = true ↔ _
  rw [beq_iff_eq]
  exact ⟨fun equal => (numbersOfCompare equal).1, compareSelf⟩

/-! What is undefined makes all that is reckoned from it undefined. -/

theorem addUndefined {a b : Float} (undefined : number a = .notANumber ∨ number b = .notANumber) :
    number (a + b) = .notANumber := by
  change stored (add .binary64 (number a) (number b)) = _
  rcases undefined with first | second
  · rw [first]
    exact storedUndefined
  · rw [second]
    cases number a <;> exact storedUndefined

theorem squareUndefined {a : Float} (unbounded : ¬ a.isFinite = true) : number ((a - a) * (a - a)) = .notANumber := by
  have difference : number (a - a) = .notANumber := by
    change ¬ (number a).isFinite = true at unbounded
    change stored (sub .binary64 (number a) (number a)) = _
    cases unpacked : number a with
    | notANumber => rfl
    | infinity s => cases s <;> rfl
    | zero | finite =>
      rw [unpacked] at unbounded
      exact absurd rfl unbounded
  change stored (mul .binary64 (number (a - a)) (number (a - a))) = _
  rw [difference]
  rfl

theorem finiteOfSelf {p : Vec3 Float} (defined : number (p.distance p) ≠ .notANumber) : p.Finite := by
  have squares : number ((p.x - p.x) * (p.x - p.x) + (p.y - p.y) * (p.y - p.y) + (p.z - p.z) * (p.z - p.z)) ≠
      .notANumber := by
    intro undefined
    refine defined ?_
    change stored (sqrt .binary64 (number ((p.x - p.x) * (p.x - p.x) + (p.y - p.y) * (p.y - p.y) +
      (p.z - p.z) * (p.z - p.z)))) = _
    rw [undefined]
    exact storedUndefined
  by_contra unbounded
  have some : ¬ p.x.isFinite = true ∨ ¬ p.y.isFinite = true ∨ ¬ p.z.isFinite = true := by
    by_contra none
    simp only [not_or, not_not] at none
    exact unbounded ⟨none.1, none.2.1, none.2.2⟩
  refine squares (addUndefined ?_)
  rcases some with x | y | z
  · exact .inl (addUndefined (.inl (squareUndefined x)))
  · exact .inl (addUndefined (.inr (squareUndefined y)))
  · exact .inr (squareUndefined z)

instance : LawfulDistance Float where
  symm p q := by
    change Float.sqrt ((p.x - q.x) * (p.x - q.x) + (p.y - q.y) * (p.y - q.y) + (p.z - q.z) * (p.z - q.z)) = _
    rw [squareSymm p.x q.x, squareSymm p.y q.y, squareSymm p.z q.z]
    rfl
  decides {p q x} first second same := by
    obtain ⟨o, compared⟩ := compareNumbers (sameIff.mp same) (distanceSize first second).number
    cases o with
    | lt => exact .inl (lessIff.mpr compared)
    | eq | gt =>
      refine .inr (atMostIff.mpr ⟨_, (compareSwap _ _).trans (congrArg (Option.map Ordering.swap) compared), ?_⟩)
      simp
  excludes {p q x} most less := by
    obtain ⟨o, compared, different⟩ := atMostIff.mp most
    have other := compareSwap (number x) (number (p.distance q))
    rw [lessIff.mp less, compared] at other
    exact different (Option.some.inj other)
  ofSelf {p x} near := by
    obtain ⟨o, compared, _⟩ := atMostIff.mp near
    obtain ⟨distance, bound⟩ := numbersOfCompare compared
    exact ⟨finiteOfSelf distance, sameIff.mpr bound⟩

end Binary64
end Drafting
