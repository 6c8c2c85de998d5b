import Std.Data.HashMap
import Drafting.Handle
/-! Slots of derived entities. A slot is given to a source, a role and a copy once and never again,
so a derived handle keeps its meaning as long as the group lives. -/
namespace Drafting

inductive RemapRole where
  | copy | top | bottom | pointToLine | lineToFace | latheStart | latheEnd | pointToArc
  | pointToNormal | latheArcCenter | latheRadius
  deriving DecidableEq, Hashable, Repr, Inhabited

inductive RemapSource where
  | entity (id : EntityId)
  | imported (index : Nat)
  deriving DecidableEq, Hashable, Repr, Inhabited

structure RemapKey where
  source : RemapSource
  role : RemapRole
  copy : Nat
  deriving DecidableEq, Hashable, Repr, Inhabited

structure RemapTable where
  slots : Std.HashMap RemapKey Nat := {}
  next : Nat := 0

namespace RemapTable

instance : Inhabited RemapTable := ⟨{}⟩

def get? (t : RemapTable) (key : RemapKey) : Option Nat := t.slots[key]?

def slot (t : RemapTable) (key : RemapKey) : Nat × RemapTable :=
  match t.slots[key]? with
  | some s => (s, t)
  | none => (t.next, ⟨t.slots.insert key t.next, t.next + 1⟩)

def size (t : RemapTable) : Nat := t.slots.size
def isEmpty (t : RemapTable) : Bool := t.slots.isEmpty

def toList (t : RemapTable) : List (RemapKey × Nat) :=
  t.slots.toList.mergeSort fun a b => a.2 ≤ b.2

def keyOf? (t : RemapTable) (slot : Nat) : Option RemapKey :=
  (t.toList.find? fun e => e.2 == slot).map Prod.fst

/-- Of entries with one key the last counts; slots go on after the highest one listed. -/
def ofList (entries : List (RemapKey × Nat)) : RemapTable where
  slots := entries.foldl (fun m (k, s) => m.insert k s) {}
  next := entries.foldl (fun n (_, s) => Nat.max n (s + 1)) 0

end RemapTable
end Drafting
