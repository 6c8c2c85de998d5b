import Std.Data.HashMap
/-! Records in the order they were added, found again by key. The index is kept beside the records:
where a list with repeated keys was read in, it names the last record of each key. -/
namespace Drafting

class Keyed (κ : outParam Type) (τ : Type) where
  key : τ → κ

structure Registry (κ τ : Type) [BEq κ] [Hashable κ] where
  items : Array τ := #[]
  index : Std.HashMap κ Nat := {}

namespace Registry

variable {κ τ : Type} [BEq κ] [Hashable κ]

instance : Inhabited (Registry κ τ) := ⟨{}⟩

def size (r : Registry κ τ) : Nat := r.items.size
def isEmpty (r : Registry κ τ) : Bool := r.items.isEmpty
def contains (r : Registry κ τ) (key : κ) : Bool := r.index.contains key
def position? (r : Registry κ τ) (key : κ) : Option Nat := r.index[key]?
def get? (r : Registry κ τ) (key : κ) : Option τ := r.index[key]?.bind fun i => r.items[i]?
def toList (r : Registry κ τ) : List τ := r.items.toList

def modify (r : Registry κ τ) (key : κ) (f : τ → τ) : Registry κ τ :=
  match r.index[key]? with
  | some i => { r with items := r.items.modify i f }
  | none => r

def map (r : Registry κ τ) (f : τ → τ) : Registry κ τ := { r with items := r.items.map f }

variable [Keyed κ τ]

def keys (r : Registry κ τ) : List κ := r.toList.map Keyed.key

def enter (index : Std.HashMap κ Nat) (start : Nat) : List τ → Std.HashMap κ Nat
  | [] => index
  | item :: rest => enter (index.insert (Keyed.key item) start) (start + 1) rest

def ofList (items : List τ) : Registry κ τ := ⟨items.toArray, enter {} 0 items⟩

/-- Adds a record at the end, or in place of the one with its key, which is given back. -/
def insert (r : Registry κ τ) (item : τ) : Option τ × Registry κ τ :=
  match r.index[Keyed.key item]? with
  | some i => (r.items[i]?, { r with items := r.items.setIfInBounds i item })
  | none => (none, ⟨r.items.push item, r.index.insert (Keyed.key item) r.items.size⟩)

def add (r : Registry κ τ) (item : τ) : Registry κ τ := (r.insert item).2

def erase (r : Registry κ τ) (key : κ) : Option τ × Registry κ τ :=
  match r.index[key]? with
  | none => (none, r)
  | some i =>
    let items := r.items.eraseIdxIfInBounds i
    (r.items[i]?, ⟨items, enter (r.index.erase key) i (items.toList.drop i)⟩)

def remove (r : Registry κ τ) (key : κ) : Registry κ τ := (r.erase key).2

def filter (r : Registry κ τ) (keep : τ → Bool) : Registry κ τ := ofList (r.toList.filter keep)

end Registry
end Drafting
