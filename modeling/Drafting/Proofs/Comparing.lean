import Drafting.Proofs.Cancelling
import Drafting.Scalar.Exact
/-! What a search for the least of some numbers relies on: numbers that are defined are in a total order, and what is
reckoned from an undefined number is undefined. Real numbers have it and so do binary words, which are in the order of
the places that their sizes have on either side of zero. -/
namespace Drafting

abbrev Defined [Arith α] (x : α) : Prop := (x == x) = true

/-- Numbers that are defined are in a total order, which the strict order of all numbers agrees with. -/
class LawfulComparison (α : Type) [Scalar α] : Prop where
  irrefl : ∀ x : α, ¬ x < x
  least : ∀ {x y : α}, x < y → x ≤ y
  trans : ∀ {x y z : α}, x ≤ y → y ≤ z → x ≤ z
  total : ∀ {x y : α}, Defined x → Defined y → x < y ∨ y ≤ x
  compared : ∀ {x y : α}, x ≤ y → Defined x ∧ Defined y
  ofTotalLt : ∀ {x y : α}, Defined x → Defined y → Scalar.totalLt x y = true → x ≤ y
  ofNotTotalLt : ∀ {x y : α}, Defined x → Defined y → Scalar.totalLt x y = false → y ≤ x

/-- What is reckoned is defined only if all that it is reckoned from is. -/
class LawfulReckoning (α : Type) [Scalar α] : Prop where
  ofAdd : ∀ {x y : α}, Defined (x + y) → Defined x ∧ Defined y
  ofSub : ∀ {x y : α}, Defined (x - y) → Defined x ∧ Defined y
  ofMul : ∀ {x y : α}, Defined (x * y) → Defined x ∧ Defined y
  ofDiv : ∀ {x y : α}, Defined (x / y) → Defined x ∧ Defined y

section Comparison
variable [Scalar α] [LawfulComparison α] {x low high : α}

theorem atMostSelf (defined : Defined x) : x ≤ x :=
  (LawfulComparison.total defined defined).resolve_left (LawfulComparison.irrefl x)

theorem clampBetween (defined : Defined (Arith.clamp x low high)) (wide : low ≤ high) :
    low ≤ Arith.clamp x low high ∧ Arith.clamp x low high ≤ high := by
  obtain ⟨first, last⟩ := LawfulComparison.compared wide
  unfold Arith.clamp at defined ⊢
  split
  · exact ⟨atMostSelf first, wide⟩
  rename_i above
  rw [if_neg above] at defined
  split
  · exact ⟨wide, atMostSelf last⟩
  rename_i below
  rw [if_neg below] at defined
  exact ⟨(LawfulComparison.total defined first).resolve_left above,
    (LawfulComparison.total last defined).resolve_left below⟩

end Comparison

theorem definedReal (x : ℝ) : Defined x := decide_eq_true rfl

instance : LawfulComparison ℝ where
  irrefl := lt_irrefl
  least := le_of_lt
  trans := le_trans
  total _ _ := lt_or_ge _ _
  compared _ := ⟨definedReal _, definedReal _⟩
  ofTotalLt _ _ less := le_of_lt (of_decide_eq_true less)
  ofNotTotalLt _ _ most := not_lt.mp (of_decide_eq_false most)

instance : LawfulReckoning ℝ where
  ofAdd _ := ⟨definedReal _, definedReal _⟩
  ofSub _ := ⟨definedReal _, definedReal _⟩
  ofMul _ := ⟨definedReal _, definedReal _⟩
  ofDiv _ := ⟨definedReal _, definedReal _⟩

namespace Binary64
open Float.Model (UnpackedFloat Format)
open Float.Model.UnpackedFloat

inductive Sized : UnpackedFloat → Nat → Prop
  | zero : Sized (.zero .positive) 0
  | finite {m k : Nat} (pos : 0 < m) (short : m < 2 ^ 53) (lead : 0 < k → 2 ^ 52 ≤ m) (bounded : k < 2046) :
      Sized (.finite .positive m (k - 1074) pos) (k * 2 ^ 52 + m)
  | infinity : Sized (.infinity .positive) (2047 * 2 ^ 52)

def size (e : BitVec 11) (m : BitVec 52) : Nat := e.toNat * 2 ^ 52 + m.toNat

theorem sizedWord {e : BitVec 11} {m : BitVec 52} (plain : e ≠ -1#11 ∨ m = 0#52) :
    Sized (unpack .binary64 (packComponents .binary64 .positive e m)) (size e m) := by
  have short := m.isLt
  simp only [unpack, unpackMantissa_packComponents, unpackExponent_packComponents, unpackSign_packComponents,
    Sign.ofBitVec_toBitVec]
  by_cases full : e = -1#11
  · obtain rfl := plain.resolve_left (not_not.mpr full)
    rw [if_pos full, if_pos rfl, full]
    exact .infinity
  rw [if_neg full]
  have below : e.toNat < 2047 := by
    refine Nat.lt_of_le_of_ne (Nat.le_of_lt_succ e.isLt) fun same => full ?_
    exact BitVec.toNat_inj.mp same
  by_cases small : e = 0#11
  · rw [if_pos small]
    subst small
    by_cases none : m = 0#52
    · subst none
      exact .zero
    · rw [dif_neg none]
      have pos : 0 < m.toNat := Nat.pos_of_ne_zero fun same => none (BitVec.toNat_inj.mp same)
      exact .finite (k := 0) pos (by omega) (fun some => absurd some (Nat.lt_irrefl 0)) (by omega)
  · rw [if_neg small]
    have some : 0 < e.toNat := Nat.pos_of_ne_zero fun same => small (BitVec.toNat_inj.mp same)
    have whole : (1#1 ++ m).toNat = 2 ^ 52 + m.toNat := by
      rw [BitVec.toNat_append, ← Nat.shiftLeft_add_eq_or_of_lt m.isLt]
      rfl
    have lead : 2 ^ 52 ≤ (1#1 ++ m).toNat := by omega
    have sized := Sized.finite (m := (1#1 ++ m).toNat) (k := e.toNat - 1) (by omega) (by omega) (fun _ => lead) (by omega)
    have exponent : ((e.toNat - 1 : Nat) : Int) - 1074 = e.toNat - (1023 + 52) := by omega
    have sum : (e.toNat - 1) * 2 ^ 52 + (1#1 ++ m).toNat = size e m := by
      unfold size
      omega
    rw [sum, exponent] at sized
    exact sized

theorem digitsCompared {m n k l : Nat} (short : m < 2 ^ 53) (lead : 0 < k → 2 ^ 52 ≤ m) (short' : n < 2 ^ 53)
    (lead' : 0 < l → 2 ^ 52 ≤ n) :
    (compare ((k : Int) - 1074) (l - 1074)).then (compare m n) = compare (k * 2 ^ 52 + m) (l * 2 ^ 52 + n) := by
  rcases Nat.lt_trichotomy k l with less | rfl | more
  · have sizes : k * 2 ^ 52 + m < l * 2 ^ 52 + n := by omega
    rw [Int.compare_eq_lt.mpr (by omega), Nat.compare_eq_lt.mpr sizes]
    rfl
  · rw [Int.compare_eq_eq.mpr rfl]
    rcases Nat.lt_trichotomy m n with less | rfl | more
    · rw [Nat.compare_eq_lt.mpr less, Nat.compare_eq_lt.mpr (Nat.add_lt_add_left less _)]
      rfl
    · rw [Nat.compare_eq_eq.mpr rfl, Nat.compare_eq_eq.mpr rfl]
      rfl
    · rw [Nat.compare_eq_gt.mpr more, Nat.compare_eq_gt.mpr (Nat.add_lt_add_left more _)]
      rfl
  · have sizes : l * 2 ^ 52 + n < k * 2 ^ 52 + m := by omega
    rw [Int.compare_eq_gt.mpr (by omega), Nat.compare_eq_gt.mpr sizes]
    rfl

theorem sizesCompared {u v : UnpackedFloat} {a b : Nat} (first : Sized u a) (second : Sized v b) :
    UnpackedFloat.compare u v = some (compare a b) := by
  cases first with
  | zero =>
    cases second with
    | zero => rfl
    | finite pos => exact congrArg some (Nat.compare_eq_lt.mpr (by omega)).symm
    | infinity => rfl
  | finite pos short lead bounded =>
    cases second with
    | zero => exact congrArg some (Nat.compare_eq_gt.mpr (by omega)).symm
    | finite pos' short' lead' bounded' => exact congrArg some (digitsCompared short lead short' lead')
    | infinity => exact congrArg some (Nat.compare_eq_lt.mpr (by omega)).symm
  | infinity =>
    cases second with
    | zero => rfl
    | finite pos short lead bounded => exact congrArg some (Nat.compare_eq_gt.mpr (by omega)).symm
    | infinity => rfl

theorem negativesCompared (u v : UnpackedFloat) : UnpackedFloat.compare (signed .negative u) (signed .negative v) =
    UnpackedFloat.compare (signed .positive v) (signed .positive u) := by
  cases u with
  | finite s m e pos =>
    cases v with
    | finite t n k pos' => simp [signed, UnpackedFloat.compare, Ordering.swap_then, Int.compare_swap, Nat.compare_swap]
    | _ => rfl
  | _ => cases v <;> rfl

theorem signsCompared {u v : UnpackedFloat} {a b : Nat} (first : Sized u a) (second : Sized v b) :
    UnpackedFloat.compare (signed .negative u) (signed .positive v) = some (compare (-a : Int) b) := by
  have less (some : 0 < a ∨ 0 < b) : compare (-a : Int) b = .lt := Int.compare_eq_lt.mpr (by omega)
  cases first with
  | zero =>
    cases second with
    | zero => rfl
    | finite pos => exact congrArg some (less (.inr (by omega))).symm
    | infinity => rfl
  | finite pos =>
    rw [less (.inl (by omega))]
    cases second <;> rfl
  | infinity =>
    rw [less (.inl (by omega))]
    cases second <;> rfl

def place (s : Sign) (n : Nat) : Int := s.apply n

theorem placesCompared {u v : UnpackedFloat} {a b : Nat} (s t : Sign) (first : Sized u a) (second : Sized v b) :
    UnpackedFloat.compare (signed s u) (signed t v) = some (compare (place s a) (place t b)) := by
  have casts (m n : Nat) : compare (m : Int) n = compare m n := by
    rcases Nat.lt_trichotomy m n with less | rfl | more
    · rw [Nat.compare_eq_lt.mpr less, Int.compare_eq_lt.mpr (Int.ofNat_lt.mpr less)]
    · rw [Nat.compare_eq_eq.mpr rfl, Int.compare_eq_eq.mpr rfl]
    · rw [Nat.compare_eq_gt.mpr more, Int.compare_eq_gt.mpr (Int.ofNat_lt.mpr more)]
  have plain {u v : UnpackedFloat} {a b : Nat} (first : Sized u a) (second : Sized v b) :
      UnpackedFloat.compare (signed .positive u) (signed .positive v) = some (compare (a : Int) b) := by
    have positive : signed .positive u = u := by cases first <;> rfl
    have positive' : signed .positive v = v := by cases second <;> rfl
    rw [positive, positive', sizesCompared first second, casts]
  have turned (m n : Int) : compare (-m) (-n) = compare n m := by
    rcases Int.lt_trichotomy m n with less | rfl | more
    · rw [Int.compare_eq_gt.mpr less, Int.compare_eq_gt.mpr (Int.neg_lt_neg less)]
    · rw [Int.compare_eq_eq.mpr rfl, Int.compare_eq_eq.mpr rfl]
    · rw [Int.compare_eq_lt.mpr more, Int.compare_eq_lt.mpr (Int.neg_lt_neg more)]
  cases s with
  | positive =>
    cases t with
    | positive => exact plain first second
    | negative =>
      rw [compareSwap, signsCompared second first, Option.map_some, Int.compare_swap]
      rfl
  | negative =>
    cases t with
    | positive => exact signsCompared first second
    | negative =>
      rw [negativesCompared, plain second first, ← turned]
      rfl

def keyOf : Sign → Nat → Int
  | .positive, n => n
  | .negative, n => -1 - n

structure Placed (x : Float) (s : Sign) (n : Nat) : Prop where
  sized : ∃ u, Sized u n ∧ number x = signed s u
  key : orderKey x = keyOf s n

theorem wordSize (s : Sign) (e : BitVec 11) (m : BitVec 52) :
    (packComponents .binary64 s e m).toNat = s.toBitVec.toNat * 2 ^ 63 + size e m := by
  change ((s.toBitVec ++ e) ++ m).toNat = _
  rw [BitVec.toNat_append, BitVec.toNat_append, ← Nat.shiftLeft_add_eq_or_of_lt m.isLt,
    ← Nat.shiftLeft_add_eq_or_of_lt e.isLt, Nat.shiftLeft_eq, Nat.shiftLeft_eq, size]
  omega

theorem placedOfNumber {x : Float} (defined : number x ≠ .notANumber) : ∃ s n, Placed x s n := by
  let b : BitVec Format.binary64.numBits := x.toModel.toBits.toBitVec
  let s := Sign.ofBitVec (unpackSign b)
  let e := unpackExponent b
  let m := unpackMantissa b
  have word : packComponents .binary64 s e m = b := componentsOfWord b
  have read : number x = signed s (unpack .binary64 (packComponents .binary64 .positive e m)) :=
    (congrArg (unpack .binary64) word.symm).trans (readSigned s e m)
  have plain : e ≠ -1#11 ∨ m = 0#52 := by
    by_contra other
    rw [not_or, not_not] at other
    refine defined (read.trans ?_)
    simp only [unpack, unpackMantissa_packComponents, unpackExponent_packComponents]
    rw [if_pos other.1, if_neg other.2]
    rfl
  have bits : x.toBits.toNat = s.toBitVec.toNat * 2 ^ 63 + size e m := by
    rw [← wordSize, word]
    rfl
  have bound : size e m < 2 ^ 63 := by
    have exponent : e.toNat < 2 ^ 11 := e.isLt
    have mantissa : m.toNat < 2 ^ 52 := m.isLt
    unfold size
    omega
  refine ⟨s, size e m, ⟨_, sizedWord plain, read⟩, ?_⟩
  change (if x.toBits.toNat / 2 ^ 63 = 1 then -1 - ((x.toBits.toNat - 2 ^ 63 : Nat) : Int) else x.toBits.toNat) = _
  rw [bits]
  generalize size e m = n at bound
  cases s with
  | positive =>
    have zero : Sign.positive.toBitVec.toNat = 0 := rfl
    rw [zero, if_neg (by omega), keyOf]
    omega
  | negative =>
    have one : Sign.negative.toBitVec.toNat = 1 := rfl
    rw [one, if_pos (by omega), keyOf]
    omega

theorem placedDefined {x : Float} (defined : Defined x) : ∃ s n, Placed x s n := placedOfNumber (sameIff.mp defined)

section Placed
variable {x y : Float} {s t : Sign} {m n : Nat}

theorem comparePlaced (first : Placed x s m) (second : Placed y t n) :
    UnpackedFloat.compare (number x) (number y) = some (compare (place s m) (place t n)) := by
  obtain ⟨u, sized, read⟩ := first.sized
  obtain ⟨v, sized', read'⟩ := second.sized
  rw [read, read', placesCompared s t sized sized']

theorem atMostPlaced (first : Placed x s m) (second : Placed y t n) : x ≤ y ↔ place s m ≤ place t n := by
  rw [atMostIff, comparePlaced first second]
  simp only [Option.some.injEq, exists_eq_left', ne_eq, Int.compare_eq_gt, not_lt]

theorem lessPlaced (first : Placed x s m) (second : Placed y t n) : x < y ↔ place s m < place t n := by
  rw [lessIff, comparePlaced first second, Option.some.injEq, Int.compare_eq_lt]

theorem placeOfKey (first : Placed x s m) (second : Placed y t n) (most : orderKey x ≤ orderKey y) : x ≤ y := by
  rw [atMostPlaced first second]
  rw [first.key, second.key] at most
  cases s <;> cases t <;> simp only [place, keyOf, Sign.apply] at most ⊢ <;> omega

end Placed

theorem definedOfAtMost {x y : Float} (most : x ≤ y) : Defined x ∧ Defined y := by
  obtain ⟨_, compared, _⟩ := atMostIff.mp most
  obtain ⟨first, second⟩ := numbersOfCompare compared
  exact ⟨sameIff.mpr first, sameIff.mpr second⟩

instance : LawfulComparison Float where
  irrefl x less := by
    have compared := lessIff.mp less
    rw [compareSelf (numbersOfCompare compared).1] at compared
    cases compared
  least less := atMostIff.mpr ⟨_, lessIff.mp less, by simp⟩
  trans {x y z} most most' := by
    obtain ⟨_, _, first⟩ := placedDefined (definedOfAtMost most).1
    obtain ⟨_, _, second⟩ := placedDefined (definedOfAtMost most).2
    obtain ⟨_, _, third⟩ := placedDefined (definedOfAtMost most').2
    rw [atMostPlaced first second] at most
    rw [atMostPlaced second third] at most'
    exact (atMostPlaced first third).mpr (most.trans most')
  total {x y} defined defined' := by
    obtain ⟨_, _, first⟩ := placedDefined defined
    obtain ⟨_, _, second⟩ := placedDefined defined'
    rw [lessPlaced first second, atMostPlaced second first]
    exact lt_or_ge _ _
  compared := definedOfAtMost
  ofTotalLt {x y} defined defined' less := by
    obtain ⟨_, _, first⟩ := placedDefined defined
    obtain ⟨_, _, second⟩ := placedDefined defined'
    exact placeOfKey first second (Int.le_of_lt (of_decide_eq_true less))
  ofNotTotalLt {x y} defined defined' most := by
    obtain ⟨_, _, first⟩ := placedDefined defined
    obtain ⟨_, _, second⟩ := placedDefined defined'
    exact placeOfKey second first (Int.not_lt.mp (of_decide_eq_false most))

theorem definedOperands (op : UnpackedFloat → UnpackedFloat → UnpackedFloat)
    (left : ∀ v, op .notANumber v = .notANumber) (right : ∀ u, op u .notANumber = .notANumber) {x y z : Float}
    (result : number z = stored (op (number x) (number y))) (defined : Defined z) : Defined x ∧ Defined y := by
  rw [Defined, sameIff, result] at defined
  rw [Defined, Defined, sameIff, sameIff]
  constructor
  · intro undefined
    rw [undefined, left] at defined
    exact defined storedUndefined
  · intro undefined
    rw [undefined, right] at defined
    exact defined storedUndefined

instance : LawfulReckoning Float where
  ofAdd := definedOperands (add .binary64) (fun _ => rfl) (fun u => by cases u <;> rfl) rfl
  ofSub := definedOperands (sub .binary64) (fun _ => rfl) (fun u => by cases u <;> rfl) rfl
  ofMul := definedOperands (mul .binary64) (fun _ => rfl) (fun u => by cases u <;> rfl) rfl
  ofDiv := definedOperands (div .binary64) (fun _ => rfl) (fun u => by cases u <;> rfl) rfl

end Binary64
end Drafting
