import Drafting.Proofs.Detaching
import Drafting.Proofs.Documents
import Drafting.Proofs.SlotUse
/-! Sketches that are saved and loaded. Registries and tables of slots are written as lists and built anew from
them; what makes them come out the same are the invariants of a sketch that operations have led to. -/
namespace Drafting
open Archive Value

namespace RemapTable
variable {t : RemapTable}

theorem toListOrdered (t : RemapTable) : t.toList.Pairwise fun a b => a.2 ≤ b.2 := by
  let le (a b : RemapKey × Nat) : Bool := a.2 ≤ b.2
  have trans (a b c : RemapKey × Nat) (first : le a b) (next : le b c) : le a c :=
    decide_eq_true (Nat.le_trans (of_decide_eq_true first) (of_decide_eq_true next))
  have total (a b : RemapKey × Nat) : le a b || le b a := by simpa [le] using Nat.le_total a.2 b.2
  have ordered : t.toList.Pairwise fun a b => le a b := List.pairwise_mergeSort trans total t.slots.toList
  exact ordered.imp of_decide_eq_true

/- As no two keys share a slot, the slots leave one order only. -/
theorem Proper.rereadList (h : t.Proper) : t.reread.toList = t.toList := by
  refine List.Perm.eq_of_pairwise ?_ (toListOrdered _) (toListOrdered _) ?_
  · intro (a, s) (b, u) first second less more
    obtain rfl : s = u := Nat.le_antisymm less more
    have there : t.get? a = some s := (reloadGet t a).symm.trans ((memToList _ a s).mp first)
    rw [h.once a b s there ((memToList _ b s).mp second)]
  · exact (List.mergeSort_perm _ _).trans ((reloadEquiv t).toList_perm.trans (List.mergeSort_perm _ _).symm)

end RemapTable

namespace Group
variable {g : Group α}

/-- A group has come back: all that was asked for is as it was, each key has its slot, the next slot is the same,
and nothing is left of what regeneration had made. -/
structure Persists (g h : Group α) : Prop where
  asked : h = { g with
    remap := h.remap, clean := false, solved := {}, loops := none, shell := none, runningShell := none,
    failures := [], fingerprint := none }
  slots : ∀ key, h.remap.get? key = g.remap.get? key
  next : h.remap.next = g.remap.next

theorem rereadPersists (packed : g.remap.Packed) : g.Persists g.reread where
  asked := rfl
  slots := RemapTable.reloadGet g.remap
  next := packed.reloadSame

theorem rereadValue (packed : g.remap.Packed) : g.reread.toValue = g.toValue := by
  have list := packed.rereadList
  simp only [toValue, RemapTable.toValue, reread, list]

end Group

theorem Registry.readBack [BEq κ] [Hashable κ] [Keyed κ τ] {write : τ → Value α} {read : Value α → Option τ}
    (h : ReadBack write read) {r : Registry κ τ} (short : (r.toValue write).Short) :
    Registry.ofValue? read (r.toValue write) = some (ofList r.toList) :=
  mapGives (listReadBack h r.toList short)

theorem Registry.Consistent.rereadSame [DecidableEq κ] [Hashable κ] [Keyed κ τ] {r : Registry κ τ}
    (h : r.Consistent) : r.Same (ofList r.toList) :=
  h.same (ofListConsistent h.keysNodup) rfl

namespace Sketch
variable {s : Sketch α}

/-- Numbers are as large as a document can hold: 32 bits, and 128 for a shell. -/
structure Storable (s : Sketch α) : Prop where
  short : s.toValue.Short
  shells : ∀ g ∈ s.groups.toList, g.kind.ShellFits

/-- A sketch has come back: records stand in the same order and are found under the same handles, and handles go on
from the same numbers. -/
structure Persists (s t : Sketch α) : Prop where
  version : t.version = s.version
  groups : List.Forall₂ Group.Persists s.groups.toList t.groups.toList
  places : ∀ k, t.groups.position? k = s.groups.position? k
  found : ∀ k, Option.Rel Group.Persists (s.groups.get? k) (t.groups.get? k)
  requests : s.requests.Same t.requests
  constraints : s.constraints.Same t.constraints
  entities : s.entities.Same t.entities
  params : s.params.Same t.params
  nextGroup : t.nextGroup = s.nextGroup
  nextRequest : t.nextRequest = s.nextRequest
  nextConstraint : t.nextConstraint = s.nextConstraint

def reread (s : Sketch α) : Sketch α where
  version := s.version
  groups := .ofList (s.groups.toList.map Group.reread)
  requests := .ofList s.requests.toList
  constraints := .ofList s.constraints.toList
  entities := .ofList s.entities.toList
  params := .ofList s.params.toList
  nextGroup := s.nextGroup
  nextRequest := s.nextRequest
  nextConstraint := s.nextConstraint

theorem readBack [Scalar α] (storable : s.Storable) : ofValue? s.toValue = some s.reread := by
  obtain ⟨version, groups, requests, constraints, entities, params, nextGroup, nextRequest, nextConstraint, _⟩ :=
    storable.short
  have listed : list? Group.ofValue? (.list (s.groups.toList.map Group.toValue)) =
      some (s.groups.toList.map Group.reread) :=
    listGives fun g member => g.readBack (allShort.mp groups _ (List.mem_map_of_mem member)) (storable.shells g member)
  have back : Registry.ofValue? Group.ofValue? (s.groups.toValue Group.toValue) =
      some (.ofList (s.groups.toList.map Group.reread)) := mapGives listed
  exact bindGives (shortGives (α := α) version) (bindGives back
    (bindGives (Registry.readBack Request.readBack requests)
      (bindGives (Registry.readBack Constraint.readBack constraints)
        (bindGives (Registry.readBack Entity.readBack entities)
          (bindGives (Registry.readBack Param.readBack params)
            (bindGives (shortGives (α := α) nextGroup) (bindGives (shortGives (α := α) nextRequest)
              (bindGives (shortGives (α := α) nextConstraint) rfl))))))))

theorem Intact.packed (h : s.Intact) {g : Group α} (member : g ∈ s.groups.toList) : g.remap.Packed :=
  h.slots _ g (h.groups.getOfMem member)

theorem Intact.rereadGroups (h : s.Intact) : (s.groups.map Group.reread).Same s.reread.groups := by
  have same := (h.groups.map (f := Group.reread) fun _ => rfl).rereadSame
  rwa [Registry.toListMap] at same

theorem Intact.rereadPersists (h : s.Intact) : s.Persists s.reread where
  version := rfl
  groups := by
    have each : ∀ g ∈ s.groups.toList, g.Persists g.reread := fun _ member => Group.rereadPersists (h.packed member)
    exact List.forall₂_map_right_iff.mpr (List.forall₂_same.mpr each)
  places k := h.rereadGroups.places k
  found k := by
    rw [h.rereadGroups.get, h.groups.getMap (f := Group.reread) fun _ => rfl]
    cases found : s.groups.get? k with
    | none => exact .none
    | some g => exact .some (Group.rereadPersists (h.slots k g found))
  requests := h.requests.rereadSame
  constraints := h.constraints.rereadSame
  entities := h.entities.rereadSame
  params := h.params.rereadSame
  nextGroup := rfl
  nextRequest := rfl
  nextConstraint := rfl

theorem Intact.rereadValue (h : s.Intact) : s.reread.toValue = s.toValue := by
  have groups : s.reread.groups.toValue Group.toValue = s.groups.toValue Group.toValue := by
    change Value.list ((s.groups.toList.map Group.reread).map Group.toValue) = _
    rw [List.map_map]
    exact congrArg Value.list (List.map_congr_left fun g member => Group.rereadValue (h.packed member))
  rw [toValue, groups]
  rfl

end Sketch

namespace Session

/- If the text is read as the data it was printed from, nothing that a document keeps is lost, and the next document
says the same. -/
theorem savedSketchLoads {config : EngineConfig Float} {s : Session Float} (reached : Reached config s)
    (storable : s.sketch.Storable)
    (faithful : parse Sketch.shape (print s.sketch.toValue) = some s.sketch.toValue) :
    ∃ t, Sketch.read s.sketch.write = .ok t ∧ s.sketch.Persists t ∧ t.toValue = s.sketch.toValue ∧
      t.write = s.sketch.write := by
  have intact : s.sketch.Intact := (reachedIntact reached).sketch
  have same := intact.rereadValue
  refine ⟨s.sketch.reread, ?_, intact.rereadPersists, same, congrArg print same⟩
  rw [Sketch.read, Sketch.write, faithful, Option.bind_some, Sketch.readBack storable]
  rfl

section Tied
open Sketch

/-! A part is linked into a sketch, and a point that is drawn beside it is joined with the one of the part. -/

def stampSlots : RemapTable := ⟨({} : Std.HashMap RemapKey Nat).insert stampKey 0, 1⟩

def stampKept : Group Float := { stamp with remap := stampSlots }

def stampPoint : Entity Float :=
  { id := .derived ⟨1⟩ 0, group := ⟨1⟩, kind := .pointCopy .zero (.linked stamp.linkOffset stamp.linkRotation) }

def stampValues : List (Param Float) :=
  [⟨.group ⟨1⟩ 0, ⟨1⟩, 0.0⟩, ⟨.group ⟨1⟩ 1, ⟨1⟩, 0.0⟩, ⟨.group ⟨1⟩ 2, ⟨1⟩, 0.0⟩, ⟨.group ⟨1⟩ 3, ⟨1⟩, 1.0⟩,
    ⟨.group ⟨1⟩ 4, ⟨1⟩, 0.0⟩, ⟨.group ⟨1⟩ 5, ⟨1⟩, 0.0⟩, ⟨.group ⟨1⟩ 6, ⟨1⟩, 0.0⟩]

def spot : Request := ⟨⟨1⟩, ⟨1⟩, none, .datumPoint, false⟩

def spotPoint : Entity Float := spot.part (spot.point 0) (.pointIn3d ⟨spot.param 0, spot.param 1, spot.param 2⟩)

def spotValues : List (Param Float) := [⟨spot.param 0, ⟨1⟩, 0.0⟩, ⟨spot.param 1, ⟨1⟩, 0.0⟩, ⟨spot.param 2, ⟨1⟩, 0.0⟩]

def tie : Constraint Float := ⟨⟨1⟩, ⟨1⟩, none, .pointsCoincident (spot.point 0) stampPoint.id, false⟩

structure Listed (s : Sketch Float) (rs : List Request) (cs : List (Constraint Float)) (es : List (Entity Float))
    (ps : List (Param Float)) : Prop where
  version : s.version = 1
  groups : s.groups.toList = [stampKept]
  requests : s.requests.toList = rs
  constraints : s.constraints.toList = cs
  entities : s.entities.toList = es
  params : s.params.toList = ps
  nextGroup : s.nextGroup = 2
  nextRequest : s.nextRequest = rs.length + 1
  nextConstraint : s.nextConstraint = cs.length + 1

theorem stampSlotted : stampCopies = ⟨stampSlots, #[stampPoint]⟩ := by
  have slot : ({} : RemapTable).slot stampKey = (0, stampSlots) := by simp [RemapTable.slot, stampSlots]
  rw [stampCopies, slot]
  rfl

theorem stampParams : stamped.params.toList = stampValues := by
  have entered : stamped.params = (blank.groupParams stamp).foldl (fun r (p, x) =>
      r.add ⟨p, ⟨1⟩, ({} : Std.HashMap ParamId Float)[p]?.getD x⟩) ({} : Registry ParamId (Param Float)) := rfl
  have values : stamped.params = stampValues.foldl Registry.add {} := by
    simp only [entered, Std.HashMap.getElem?_empty, Option.getD_none]
    rfl
  rw [values]
  exact Sketch.startIntact.params.toListAddAll (by decide) fun _ _ => List.not_mem_nil

theorem stampListed : Listed stamped [] [] [stampPoint] stampValues where
  version := rfl
  groups := by
    have listed : (({} : Sketch Float).groups.add stamp).toList = [stamp] := by
      rw [Sketch.startIntact.groups.toListAdd, if_neg (by decide)]
      rfl
    rw [stampRegrown.groups, stampSlotted]
    change ((({} : Sketch Float).groups.add stamp).modify ⟨1⟩ _).toList = _
    rw [(Sketch.startIntact.groups.add stamp).toListModify, listed]
    rfl
  requests := congrArg Registry.toList stampRegrown.requests
  constraints := congrArg Registry.toList stampRegrown.constraints
  entities := by
    rw [stampRegrown.entities, stampSlotted]
    exact (Sketch.startIntact.entities.filter _).toListAddAll (by decide) fun _ _ => List.not_mem_nil
  params := stampParams
  nextGroup := rfl
  nextRequest := rfl
  nextConstraint := rfl

theorem spotListed : ∃ s : Session Float, Reached .standard s ∧
    Listed s.sketch [spot] [] [stampPoint, spotPoint] (stampValues ++ spotValues) := by
  have known := stampListed
  have reached : Reached .standard ((start .standard).withSketch stamped) :=
    Reached.start.edited (c := .addGroup "stamp" stamp.kind none) rfl stampAdded
  generalize stamped = s at known reached
  have intact : s.Intact := (reachedIntact reached).sketch
  have found : s.groups.get? ⟨1⟩ = some stampKept :=
    intact.groups.getOfMem (x := stampKept) (known.groups ▸ List.mem_singleton_self _)
  have allowed : s.checkRequest ⟨1⟩ .datumPoint none = .ok () := Result.bindOk.mpr ⟨_, groupFound.mpr found, rfl⟩
  have run := addRequestRun allowed false
  have next : s.nextRequest = 1 := known.nextRequest
  rw [next] at run
  refine ⟨_, reached.edited (c := .addRequest ⟨1⟩ .datumPoint none false) rfl run, ?_⟩
  have records := enterRequestRecords { s with nextRequest := 2 } (fun _ => none) spot
  have unused : ∀ p ∈ spot.params (α := Float), p.1 ∉ s.params.keys := by
    rw [Registry.keys, known.params]
    decide
  have params := enterRequestFresh (s := { s with nextRequest := 2 }) (q := spot) intact.params (by decide) unused
  change Listed (let t := { s with nextRequest := 2 }.enterRequest (fun _ => none) spot
    { t with requests := t.requests.add spot }.markDirty ⟨1⟩) _ _ _ _
  generalize { s with nextRequest := 2 }.enterRequest (fun _ => none) spot = t at records params
  rw [records]
  constructor
  case version => exact known.version
  case groups =>
    change (s.groups.modify ⟨1⟩ _).toList = _
    rw [intact.groups.toListModify, known.groups]
    rfl
  case requests =>
    change (s.requests.add spot).toList = _
    have absent : Keyed.key spot ∉ s.requests.keys := by
      rw [Registry.keys, known.requests]
      decide
    rw [intact.requests.toListAdd, if_neg absent, known.requests]
    rfl
  case constraints => exact known.constraints
  case entities =>
    change ((spot.entities (α := Float)).foldl Registry.add s.entities).toList = _
    rw [intact.entities.toListAddAll (by decide), known.entities]
    · rfl
    · rw [Registry.keys, known.entities]
      decide
  case params =>
    refine params.trans ?_
    rw [known.params]
    rfl
  case nextGroup => exact known.nextGroup
  case nextRequest => rfl
  case nextConstraint => exact known.nextConstraint

theorem tieListed : ∃ s : Session Float, Reached .standard s ∧
    Listed s.sketch [spot] [tie] [stampPoint, spotPoint] (stampValues ++ spotValues) := by
  obtain ⟨s, reached, known⟩ := spotListed
  have intact : s.sketch.Intact := (reachedIntact reached).sketch
  have found : s.sketch.groups.get? ⟨1⟩ = some stampKept :=
    intact.groups.getOfMem (x := stampKept) (known.groups ▸ List.mem_singleton_self _)
  have listed : ∀ e ∈ [stampPoint, spotPoint], e ∈ s.sketch.entities.toList := by
    rw [known.entities]
    exact fun _ member => member
  have first : s.sketch.Has .point (spot.point 0) :=
    ⟨spotPoint, intact.entities.getOfMem (listed spotPoint (by simp)), rfl⟩
  have second : s.sketch.Has .point stampPoint.id :=
    ⟨stampPoint, intact.entities.getOfMem (listed stampPoint (by simp)), rfl⟩
  have rejoins : s.sketch.Rejoins ⟨1⟩ none := ⟨(reachedFurnished reached).1, ⟨_, found⟩, nofun⟩
  have run := joinRun rejoins first second
  refine ⟨_, reached.edited (c := .addConstraint ⟨1⟩ none tie.kind false) rfl run, ?_⟩
  have next : s.sketch.nextConstraint = 1 := known.nextConstraint
  constructor
  case version => exact known.version
  case groups =>
    change (s.sketch.groups.modify ⟨1⟩ _).toList = _
    rw [intact.groups.toListModify, known.groups]
    rfl
  case requests => exact known.requests
  case constraints =>
    change (s.sketch.constraints.add ⟨⟨s.sketch.nextConstraint⟩, _, _, _, _⟩).toList = _
    have absent : Keyed.key tie ∉ s.sketch.constraints.keys := by
      rw [Registry.keys, known.constraints]
      decide
    rw [next]
    exact (intact.constraints.toListAdd tie).trans (by rw [if_neg absent, known.constraints]; rfl)
  case entities => exact known.entities
  case params => exact known.params
  case nextGroup => exact known.nextGroup
  case nextRequest => exact known.nextRequest
  case nextConstraint => exact congrArg (· + 1) next

def tiedValue : Value Float :=
  record "" [("version", integer 1),
    ("groups", .list [record "" [("id", numberedId 1), ("name", text "stamp"), ("kind", stamp.kind.toValue),
      ("op_a", word "None"), ("op_b", word "None"), ("workplane", word "None"), ("combine", word "Union"),
      ("visible", flag true), ("suppress", flag false), ("relax_constraints", flag false),
      ("allow_redundant", flag false), ("all_dims_reference", flag false),
      ("remap", .list [tuple "" [stampKey.toValue, integer 0]])]]),
    ("requests", .list [spot.toValue]), ("constraints", .list [tie.toValue]),
    ("entities", .list [stampPoint.toValue, spotPoint.toValue]),
    ("params", .list ((stampValues ++ spotValues).map Param.toValue)),
    ("next_group", integer 2), ("next_request", integer 2), ("next_constraint", integer 2)]

theorem stampSlotsListed : stampSlots.toList = [(stampKey, 0)] := by
  have entries : stampSlots.slots.toList.Perm [(stampKey, 0)] := by
    refine List.Perm.trans (Std.HashMap.toList_insert_perm) ?_
    simp
  exact List.perm_singleton.mp ((List.mergeSort_perm _ _).trans entries)

theorem Listed.value {s : Sketch Float}
    (known : Listed s [spot] [tie] [stampPoint, spotPoint] (stampValues ++ spotValues)) : s.toValue = tiedValue := by
  have slots : stampKept.remap.toValue (α := Float) = .list [tuple "" [stampKey.toValue, integer 0]] := by
    rw [RemapTable.toValue, show stampKept.remap.toList = _ from stampSlotsListed]
    rfl
  simp only [Sketch.toValue, Registry.toValue, known.version, known.groups, known.requests, known.constraints,
    known.entities, known.params, known.nextGroup, known.nextRequest, known.nextConstraint, List.map_cons, List.map_nil,
    Group.toValue, slots]
  rfl

theorem tiedShort : tiedValue.Short := by decide

theorem tiedParsed : parse Sketch.shape (print tiedValue) = some tiedValue := by
  unfold parse
  rw [printMarks]
  decide +kernel

theorem tiedComesBack : ∃ s : Session Float, Reached .standard s ∧
    Listed s.sketch [spot] [tie] [stampPoint, spotPoint] (stampValues ++ spotValues) ∧
    ∃ t, Sketch.read s.sketch.write = .ok t ∧ s.sketch.Persists t ∧ t.toValue = s.sketch.toValue ∧
      t.write = s.sketch.write := by
  obtain ⟨s, reached, known⟩ := tieListed
  have storable : s.sketch.Storable := by
    refine ⟨by rw [known.value]; exact tiedShort, fun g member => ?_⟩
    rw [known.groups, List.mem_singleton] at member
    rw [member]
    trivial
  have faithful : parse Sketch.shape (print s.sketch.toValue) = some s.sketch.toValue := by
    rw [known.value]
    exact tiedParsed
  exact ⟨s, reached, known, savedSketchLoads reached storable faithful⟩

end Tied
end Session
end Drafting
