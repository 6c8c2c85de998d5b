import Drafting.Scalar.Basic
/-! The data of a persisted document: numbers, texts, words, lists, tuples and records. A constant
around a value or before fields is the name of a tuple or a record; those of a type have none. -/
namespace Drafting.Archive

inductive Value (α : Type) where
  | integer (n : Nat)
  | number (x : α)
  | text (s : String)
  | word (name : String)
  | list (items : List (Value α))
  | tuple (name : String) (items : List (Value α))
  | record (name : String) (fields : List (String × Value α))
  deriving Inhabited

namespace Value

def flag (b : Bool) : Value α := word (if b then "true" else "false")
def wrap (v : Value α) : Value α := tuple "" [v]
def named (name : String) (v : Value α) : Value α := tuple name [v]

def optional (write : τ → Value α) : Option τ → Value α
  | some x => named "Some" (write x)
  | none => word "None"

def integer? : Value α → Option Nat
  | integer n => some n
  | _ => none

def below? (bound : Nat) (v : Value α) : Option Nat := v.integer?.filter (· < bound)

def short? (v : Value α) : Option Nat := v.below? 0x100000000

def long? (v : Value α) : Option Nat := v.below? 0x10000000000000000

def number? [Scalar α] : Value α → Option α
  | number x => some x
  | integer n => some (OfScientific.ofScientific n false 0)
  | _ => none

def text? : Value α → Option String
  | text s => some s
  | _ => none

def flag? : Value α → Option Bool
  | word "true" => some true
  | word "false" => some false
  | _ => none

def optional? (read : Value α → Option τ) : Value α → Option (Option τ)
  | word "None" => some none
  | tuple "Some" [v] => (read v).map some
  | _ => none

def list? (read : Value α → Option τ) : Value α → Option (List τ)
  | list vs => vs.mapM read
  | _ => none

def tuple? : Value α → Option (List (Value α))
  | tuple "" vs => some vs
  | _ => none

def unwrap? : Value α → Option (Value α)
  | tuple "" [v] => some v
  | _ => none

def record? : Value α → Option (List (String × Value α))
  | record "" fs => some fs
  | _ => none

def field (fs : List (String × Value α)) (key : String) (read : Value α → Option τ) : Option τ :=
  match fs.filter (·.1 == key) with
  | [(_, v)] => read v
  | _ => none

/-- A field that may be missing but not stand twice. -/
def fieldD (fs : List (String × Value α)) (key : String) (standard : τ) (read : Value α → Option τ) :
    Option τ :=
  match fs.filter (·.1 == key) with
  | [] => some standard
  | [(_, v)] => read v
  | _ => none

def ofConst [BEq τ] (table : List (τ × String)) (x : τ) : Value α := word ((table.lookup x).getD "")

def const? (table : List (τ × String)) : Value α → Option τ
  | word w => (table.find? (·.2 == w)).map Prod.fst
  | _ => none

mutual

def same [DecidableEq α] : Value α → Value α → Bool
  | integer m, integer n => m == n
  | number x, number y => x == y
  | text s, text t => s == t
  | word v, word w => v == w
  | list vs, list ws => allSame vs ws
  | tuple m vs, tuple n ws => m == n && allSame vs ws
  | record m fs, record n gs => m == n && fieldsSame fs gs
  | _, _ => false

def allSame [DecidableEq α] : List (Value α) → List (Value α) → Bool
  | [], [] => true
  | v :: vs, w :: ws => v.same w && allSame vs ws
  | _, _ => false

def fieldsSame [DecidableEq α] : List (String × Value α) → List (String × Value α) → Bool
  | [], [] => true
  | (k, v) :: fs, (l, w) :: gs => k == l && v.same w && fieldsSame fs gs
  | _, _ => false

end

mutual

theorem sameIff [DecidableEq α] (v w : Value α) : v.same w ↔ v = w := by
  cases v with
  | list vs => cases w <;> simp [same, allSameIff vs]
  | tuple m vs => cases w <;> simp [same, allSameIff vs]
  | record m fs => cases w <;> simp [same, fieldsSameIff fs]
  | _ => cases w <;> simp [same]

theorem allSameIff [DecidableEq α] (vs ws : List (Value α)) : allSame vs ws ↔ vs = ws := by
  cases vs with
  | nil => cases ws <;> simp [allSame]
  | cons v vs => cases ws <;> simp [allSame, sameIff v, allSameIff vs]

theorem fieldsSameIff [DecidableEq α] (fs gs : List (String × Value α)) : fieldsSame fs gs ↔ fs = gs := by
  cases fs with
  | nil => cases gs <;> simp [fieldsSame]
  | cons f fs => cases gs <;> simp [fieldsSame, sameIff f.2, fieldsSameIff fs, Prod.ext_iff]

end

instance [DecidableEq α] : DecidableEq (Value α) := fun v w => decidable_of_iff _ (sameIff v w)

end Value
end Drafting.Archive
