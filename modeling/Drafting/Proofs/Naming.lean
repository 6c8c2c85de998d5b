import Drafting.Proofs.Resolved
/-! What constraints name. The table of all names, that of the points and that of the classes agree in a constraint
that may be added, so what changes by the points that are named changes by all names of a point. -/
namespace Drafting

namespace EntityKind
variable {k : EntityKind α} {c : EntityClass}

theorem pointOnly (point : k.isA .point = true) (holds : k.isA c = true) : c = .point ∨ c = .copyable := by
  cases k with
  | pointIn3d | pointIn2d | pointCopy => simpa [isA, classes] using holds
  | _ => cases point

end EntityKind

namespace ConstraintKind
variable {k : ConstraintKind α} {e : EntityId}

def on : ConstraintKind α → List EntityId → ConstraintKind α
  | pointsCoincident _ _, [a, b] => pointsCoincident a b
  | pointPointDistance _ _ x, [a, b] => pointPointDistance a b x
  | projectedDistance _ _ _ x, [a, b, along] => projectedDistance a b along x
  | pointPlaneDistance _ _ x, [point, plane] => pointPlaneDistance point plane x
  | pointFaceDistance _ _ x, [point, face] => pointFaceDistance point face x
  | pointLineDistance _ _ x, [point, line] => pointLineDistance point line x
  | pointInPlane _ _, [point, plane] => pointInPlane point plane
  | pointOnFace _ _, [point, face] => pointOnFace point face
  | pointOnLine _ _, [point, line] => pointOnLine point line
  | pointOnCircle _ _, [point, circle] => pointOnCircle point circle
  | equalLengthLines _ _, [a, b] => equalLengthLines a b
  | lengthRatio _ _ x, [a, b] => lengthRatio a b x
  | lengthDifference _ _ x, [a, b] => lengthDifference a b x
  | equalLengthPointLineDistance _ _ _, [line, point, other] => equalLengthPointLineDistance line point other
  | equalPointLineDistances _ _ _ _, [p, line, q, other] => equalPointLineDistances p line q other
  | equalLineArcLength _ _, [line, arc] => equalLineArcLength line arc
  | arcArcLengthRatio _ _ x, [a, b] => arcArcLengthRatio a b x
  | arcLineLengthRatio _ _ x, [line, arc] => arcLineLengthRatio arc line x
  | arcArcDifference _ _ x, [a, b] => arcArcDifference a b x
  | arcLineDifference _ _ x, [line, arc] => arcLineDifference arc line x
  | equalRadius _ _, [a, b] => equalRadius a b
  | diameter _ x, [circle] => diameter circle x
  | symmetric _ _ _, [a, b, plane] => symmetric a b plane
  | symmetricHorizontal _ _, [a, b] => symmetricHorizontal a b
  | symmetricVertical _ _, [a, b] => symmetricVertical a b
  | symmetricLine _ _ _, [a, b, line] => symmetricLine a b line
  | atMidpoint _ _, [point, line] => atMidpoint point line
  | horizontal _, [line] => horizontal line
  | vertical _, [line] => vertical line
  | sameOrientation _ _, [a, b] => sameOrientation a b
  | angle _ _ x s, [a, b] => angle a b x s
  | equalAngle _ _ _ _ s, [a, b, c, d] => equalAngle a b c d s
  | parallel _ _, [a, b] => parallel a b
  | perpendicular _ _, [a, b] => perpendicular a b
  | arcLineTangent _ _ tip, [line, arc] => arcLineTangent arc line tip
  | cubicLineTangent _ _ tip, [cubic, line] => cubicLineTangent cubic line tip
  | curveCurveTangent _ _ ends, [a, b] => curveCurveTangent a b ends
  | whereDragged _, [point] => whereDragged point
  | k, _ => k

theorem slotClass (k : ConstraintKind α) : ∀ slot ∈ k.slots, slot.1 ≠ .copyable := by
  cases k <;> simp [slots]

theorem memPoints : e ∈ k.points ↔ (.point, e) ∈ k.slots := by
  rw [pointsSlots, List.mem_filterMap]
  constructor
  · intro found
    obtain ⟨⟨c, e'⟩, member, same⟩ := found
    dsimp only at same
    split at same
    · rename_i point
      obtain rfl := Option.some.inj same
      exact point ▸ member
    · cases same
  · intro member
    exact ⟨(.point, e), member, if_pos rfl⟩

theorem slotsOfMapPoints (f : EntityId → EntityId) (k : ConstraintKind α) :
    (k.mapPoints f).slots = k.slots.map fun (c, e) => (c, if c = .point then f e else e) := by
  cases k <;> rfl

theorem mapPointsOn (f : EntityId → EntityId) (k : ConstraintKind α) :
    k.mapPoints f = k.on (k.slots.map fun (c, e) => if c = .point then f e else e) := by
  cases k <;> rfl

theorem onReferences (f : EntityId → EntityId) (k : ConstraintKind α) :
    (k.on (k.references.map f)).references = k.references.map f := by
  cases k <;> rfl

end ConstraintKind

namespace Sketch
variable {s t : Sketch α} {p old new : EntityId}

theorem Has.pointOnly {c : EntityClass} (point : s.Has .point p) (has : s.Has c p) : c = .point ∨ c = .copyable := by
  obtain ⟨e, found, isPoint⟩ := point
  obtain ⟨e', found', is⟩ := has
  obtain rfl := Option.some.inj (found.symm.trans found')
  exact EntityKind.pointOnly isPoint is

theorem pointsNamed {kind : ConstraintKind α} (names : ∀ slot ∈ kind.slots, s.Has slot.1 slot.2) (e : EntityId) :
    e ∈ kind.points ↔ e ∈ kind.references ∧ s.Has .point e := by
  rw [ConstraintKind.memPoints, ConstraintKind.referencesSlots, List.mem_map]
  constructor
  · intro member
    exact ⟨⟨_, member, rfl⟩, names _ member⟩
  · intro both
    obtain ⟨⟨slot, member, rfl⟩, point⟩ := both
    rcases point.pointOnly (names slot member) with same | copyable
    · exact same ▸ member
    · exact absurd copyable (kind.slotClass slot member)

/-- What a constraint names is there and of the class that belongs there. -/
structure Proper (s : Sketch α) (c : Constraint α) : Prop where
  plane : ∀ w, c.workplane = some w → s.Has .workplane w
  names : ∀ slot ∈ c.kind.slots, s.Has slot.1 slot.2

variable {c : Constraint α}

/- A point is not a workplane, so the kind alone can name it. -/
theorem Proper.noPlane (h : s.Proper c) (point : s.Has .point p) : p ∉ c.workplane.toList := by
  intro member
  rcases point.pointOnly (h.plane p (Option.mem_toList.mp member)) with same | same <;> cases same

theorem Proper.count (h : s.Proper c) (point : s.Has .point p) : c.kind.points.count p = c.references.count p := by
  rw [Constraint.references, List.count_append, List.count_eq_zero_of_not_mem (h.noPlane point), Nat.add_zero]
  rw [ConstraintKind.pointsSlots, ConstraintKind.referencesSlots, List.count_filterMap, List.count_eq_countP, List.countP_map]
  refine List.countP_congr fun slot member => ?_
  have asPoint : slot.2 = p → slot.1 = .point := by
    intro same
    rcases point.pointOnly (same ▸ h.names slot member) with is | copyable
    · exact is
    · exact absurd copyable (c.kind.slotClass slot member)
  simpa using asPoint

theorem Proper.points (h : s.Proper c) (point : s.Has .point p) : p ∈ c.kind.points ↔ p ∈ c.references := by
  rw [← List.count_pos_iff, h.count point, List.count_pos_iff]

theorem Proper.noPoints (h : s.Proper c) (other : ¬ s.Has .point p) : p ∉ c.kind.points :=
  fun member => other ((pointsNamed h.names p).mp member).2

theorem Proper.moved (h : s.Proper c) (point : s.Has .point old) (new : EntityId) :
    (c.kind.mapPoints fun e => if e = old then new else e) =
      c.kind.on (c.kind.references.map fun e => if e = old then new else e) := by
  have same : (c.kind.slots.map fun (c, e) => if c = .point then (if e = old then new else e) else e) =
      c.kind.references.map fun e => if e = old then new else e := by
    rw [ConstraintKind.referencesSlots, List.map_map]
    refine List.map_congr_left fun slot member => ?_
    by_cases asPoint : slot.1 = .point
    · exact if_pos asPoint
    · have other : slot.2 ≠ old := by
        intro same
        rcases point.pointOnly (same ▸ h.names slot member) with is | is
        · exact asPoint is
        · exact c.kind.slotClass slot member is
      exact (if_neg asPoint).trans (if_neg other).symm
  rw [ConstraintKind.mapPointsOn, same]

theorem deletedList (h : s.constraints.Consistent) (ids : List ConstraintId) :
    (s.deleteConstraints ids).constraints.toList = s.constraints.toList.filter (·.id ∉ ids) := by
  induction ids generalizing s with
  | nil => simp [deleteConstraints]
  | cons i rest ih =>
    let t := (deleteConstraint i).attempt s
    have first : t.constraints.Consistent ∧ t.constraints.toList = s.constraints.toList.filter fun c => c.id != i := by
      cases found : s.constraints.get? i with
      | none =>
        have same : t = s := (deleteConstraintAttempt i).trans (by rw [found])
        have absent : ∀ c ∈ s.constraints.toList, (c.id != i) = true := by
          intro c member
          refine bne_iff_ne.mpr fun named => ?_
          subst named
          cases found.symm.trans (h.getOfMem member)
        rw [same, List.filter_eq_self.mpr absent]
        exact ⟨h, rfl⟩
      | some c =>
        have gone : t.constraints = s.constraints.remove i :=
          congrArg Sketch.constraints ((deleteConstraintAttempt i).trans (by rw [found]))
        rw [gone]
        exact ⟨h.remove i, h.toListRemove i⟩
    change (t.deleteConstraints rest).constraints.toList = _
    rw [ih first.1, first.2, List.filter_filter]
    refine List.filter_congr fun c _ => ?_
    rw [Bool.eq_iff_iff]
    simp [and_comm]

theorem removedList (h : s.constraints.Consistent) (pick : Constraint α → Bool) :
    (s.deleteConstraints ((s.constraints.toList.filter pick).map Constraint.id)).constraints.toList =
      s.constraints.toList.filter (!pick ·) := by
  rw [deletedList h]
  refine List.filter_congr fun c member => ?_
  have listed : c.id ∈ (s.constraints.toList.filter pick).map Constraint.id ↔ pick c = true := by
    constructor
    · intro inside
      obtain ⟨c', other, same⟩ := List.mem_map.mp inside
      obtain ⟨there, picked⟩ := List.mem_filter.mp other
      have found := h.getOfMem there
      rw [show Keyed.key c' = Keyed.key c from same] at found
      exact Option.some.inj (found.symm.trans (h.getOfMem member)) ▸ picked
    · intro picked
      exact List.mem_map_of_mem (List.mem_filter.mpr ⟨member, picked⟩)
  rw [Bool.eq_iff_iff, decide_eq_true_iff, listed, Bool.not_eq_true', Bool.not_eq_true]

theorem removedCount (s : Sketch α) (p : EntityId) :
    (s.removeConstraintsFor p).1 = s.constraints.toList.countP (·.kind.points.contains p) := by
  rw [removeConstraintsFor, List.length_map, List.countP_eq_length_filter]

theorem replacedCount (s : Sketch α) (old new : EntityId) :
    (s.replacePoint old new).1 = (s.constraints.toList.flatMap (·.kind.points)).count old := by
  rw [replacePoint]
  dsimp only
  rw [List.length_flatMap, List.count_flatMap]
  congr 1
  refine List.map_congr_left fun c _ => ?_
  rw [List.length_map, Function.comp_apply, List.count_eq_length_filter]

theorem dirtyKeeps {f : Sketch α → β} (keeps : ∀ s g, f (s.markDirty g) = f s) (groups : List GroupId) (s : Sketch α) :
    f (groups.foldl markDirty s) = f s := by
  induction groups generalizing s with
  | nil => rfl
  | cons g rest ih => exact (ih (s.markDirty g)).trans (keeps s g)

theorem dirtyConstraints (groups : List GroupId) (s : Sketch α) : (groups.foldl markDirty s).constraints = s.constraints :=
  dirtyKeeps (fun _ _ => rfl) groups s

variable [Scalar α]

def Valid (s : Sketch α) : Prop := ∀ c ∈ s.constraints.toList, s.validate c.group c.workplane c.kind = .ok ()

theorem Valid.proper (valid : s.Valid) {c : Constraint α} (member : c ∈ s.constraints.toList) : s.Proper c :=
  ⟨(validNames (valid c member)).1, (validNames (valid c member)).2⟩

theorem removesNaming (valid : s.Valid) (h : s.constraints.Consistent) (point : s.Has .point p) :
    (s.removeConstraintsFor p).2.constraints.toList = s.constraints.toList.filter (p ∉ ·.references) ∧
      (s.removeConstraintsFor p).1 = s.constraints.toList.countP (p ∈ ·.references) := by
  have named (c : Constraint α) (member : c ∈ s.constraints.toList) :
      c.kind.points.contains p = decide (p ∈ c.references) := by
    rw [Bool.eq_iff_iff, List.contains_iff_mem, decide_eq_true_iff]
    exact (valid.proper member).points point
  constructor
  · refine (removedList h fun c => c.kind.points.contains p).trans (List.filter_congr fun c member => ?_)
    rw [named c member, decide_not]
  · rw [removedCount]
    exact List.countP_congr fun c member => by rw [named c member]

theorem removesNone (valid : s.Valid) (other : ¬ s.Has .point p) : s.removeConstraintsFor p = (0, s) := by
  have none : (s.constraints.toList.filter (·.kind.points.contains p)).map Constraint.id = [] := by
    rw [List.map_eq_nil_iff, List.filter_eq_nil_iff]
    intro c member
    rw [List.contains_iff_mem]
    exact (valid.proper member).noPoints other
  rw [removeConstraintsFor, none]
  rfl

theorem replacesNaming (valid : s.Valid) (point : s.Has .point old) (new : EntityId) :
    (s.replacePoint old new).1 = (s.constraints.toList.flatMap Constraint.references).count old ∧
    (s.replacePoint old new).2.constraints.toList = s.constraints.toList.map fun c =>
      { c with kind := c.kind.on (c.kind.references.map fun e => if e = old then new else e) } := by
  constructor
  · rw [replacedCount, List.count_flatMap, List.count_flatMap]
    exact congrArg List.sum (List.map_congr_left fun c member => (valid.proper member).count point)
  · rw [replacePoint]
    dsimp only
    rw [dirtyConstraints, Registry.toListMap]
    refine List.map_congr_left fun c member => ?_
    rw [(valid.proper member).moved point]

theorem replacesAll (valid : s.Valid) (point : s.Has .point old) (other : old ≠ new) :
    ∀ c ∈ (s.replacePoint old new).2.constraints.toList, old ∉ c.references := by
  rw [(replacesNaming valid point new).2]
  intro c member
  obtain ⟨before, there, rfl⟩ := List.mem_map.mp member
  rw [Constraint.references, ConstraintKind.onReferences, List.mem_append]
  intro named
  rcases named with kindly | plane
  · obtain ⟨e, _, same⟩ := List.mem_map.mp kindly
    split at same
    · exact other same.symm
    · rename_i differs
      exact differs same
  · exact (valid.proper there).noPlane point plane

theorem fieldTablesAgree (s : Sketch α) :
    (∀ group workplane kind, s.validate group workplane kind = .ok () →
      ∀ e, e ∈ kind.points ↔ e ∈ kind.references ∧ s.Has .point e) ∧
    (s.Valid → s.constraints.Consistent → ∀ p,
      (s.Has .point p → (s.removeConstraintsFor p).2.constraints.toList = s.constraints.toList.filter (p ∉ ·.references) ∧
        (s.removeConstraintsFor p).1 = s.constraints.toList.countP (p ∈ ·.references)) ∧
      (¬ s.Has .point p → s.removeConstraintsFor p = (0, s))) ∧
    (s.Valid → ∀ old new, s.Has .point old → old ≠ new →
      (∀ c ∈ (s.replacePoint old new).2.constraints.toList, old ∉ c.references) ∧
      (s.replacePoint old new).1 = (s.constraints.toList.flatMap Constraint.references).count old ∧
      (s.replacePoint old new).2.constraints.toList = s.constraints.toList.map fun c =>
        { c with kind := c.kind.on (c.kind.references.map fun e => if e = old then new else e) }) := by
  refine ⟨fun _ _ _ valid => pointsNamed (validNames valid).2, fun valid h p => ?_, fun valid old new point other => ?_⟩
  · exact ⟨removesNaming valid h, removesNone valid⟩
  · exact ⟨replacesAll valid point other, replacesNaming valid point new⟩

section Noted

def spot (n : Nat) : Entity Float :=
  { id := .request ⟨n⟩ 0, group := ⟨1⟩, kind := .pointIn3d ⟨.request ⟨n⟩ 0, .request ⟨n⟩ 1, .request ⟨n⟩ 2⟩ }

def noted (comment : ConstraintId) : Sketch Float :=
  { loaded [spot 1, spot 2, spot 3] with
    constraints := .ofList [⟨⟨1⟩, ⟨1⟩, none, .pointsCoincident (spot 1).id (spot 2).id, false⟩,
      ⟨comment, ⟨1⟩, none, .comment "", false⟩] }

theorem notedPoint (comment : ConstraintId) : ∀ e ∈ [spot 1, spot 2, spot 3], (noted comment).Has .point e.id := by
  intro e member
  refine loadedHas (by decide) member ?_
  simp only [List.mem_cons, List.not_mem_nil, or_false] at member
  rcases member with rfl | rfl | rfl <;> rfl

theorem notedValid (comment : ConstraintId) : (noted comment).Valid := by
  have drawing : (loaded [spot 1, spot 2, spot 3]).groups.get? ⟨1⟩ = some drawingGroup := loadedGroup
  have valid (kind : ConstraintKind Float) (free : kind.requiresWorkplane = false)
      (fits : (noted comment).checkEntities kind = .ok ()) (sound : ∀ c, (noted comment).checkDegenerate c kind = .ok ()) :
      (noted comment).validate ⟨1⟩ none kind = .ok () := validInSpace drawing free fits sound
  intro c member
  rw [noted, Registry.toListOfList] at member
  simp only [List.mem_cons, List.not_mem_nil, or_false] at member
  rcases member with rfl | rfl
  · refine valid _ rfl (slotsPass (fun slot member => ?_) rfl) fun _ => rfl
    simp only [ConstraintKind.slots, List.mem_cons, List.not_mem_nil, or_false] at member
    rcases member with rfl | rfl
    · exact notedPoint comment (spot 1) (by simp)
    · exact notedPoint comment (spot 2) (by simp)
  · exact valid _ rfl rfl fun _ => rfl

theorem notedTablesAgree : ∃ s : Sketch Float, ∃ p q : EntityId, s.Valid ∧ s.constraints.Consistent ∧ s.Has .point p ∧ p ≠ q ∧
    ((s.removeConstraintsFor p).1 = 1 ∧ (s.removeConstraintsFor p).2.constraints.toList.length = 1) ∧
      (s.replacePoint p q).1 = 1 := by
  have consistent : (noted ⟨2⟩).constraints.Consistent := Registry.ofListConsistent (by decide)
  have point := notedPoint ⟨2⟩ (spot 1) (by simp)
  have agree := fieldTablesAgree (noted ⟨2⟩)
  have removed := (agree.2.1 (notedValid ⟨2⟩) consistent (spot 1).id).1 point
  have replaced := agree.2.2 (notedValid ⟨2⟩) (spot 1).id (spot 3).id point (by decide)
  refine ⟨noted ⟨2⟩, (spot 1).id, (spot 3).id, notedValid ⟨2⟩, consistent, point, by decide, ⟨?_, ?_⟩, ?_⟩
  · rw [removed.2]
    rfl
  · rw [removed.1]
    rfl
  · rw [replaced.2.1]
    rfl

theorem sharedHandleKeeps : ∃ s : Sketch Float, s.Valid ∧ ∃ p, s.Has .point p ∧
    ∃ c ∈ (s.removeConstraintsFor p).2.constraints.toList, p ∈ c.references := by
  refine ⟨noted ⟨1⟩, notedValid ⟨1⟩, (spot 1).id, notedPoint ⟨1⟩ (spot 1) (by simp), ?_⟩
  let joined : Constraint Float := ⟨⟨1⟩, ⟨1⟩, none, .pointsCoincident (spot 1).id (spot 2).id, false⟩
  refine ⟨joined, ?_, List.mem_cons_self⟩
  -- Of the two records the handle finds the last.
  have last : (noted ⟨1⟩).constraints.index[(⟨1⟩ : ConstraintId)]? = some 1 :=
    Std.HashMap.getElem?_insert_self
  have found : (noted ⟨1⟩).constraints.get? ⟨1⟩ = some ⟨⟨1⟩, ⟨1⟩, none, .comment "", false⟩ := by
    rw [Registry.get?, last]
    rfl
  have left : ((noted ⟨1⟩).removeConstraintsFor (spot 1).id).2.constraints.toList = [joined] := by
    change ((deleteConstraint ⟨1⟩).attempt (noted ⟨1⟩)).constraints.toList = _
    rw [deleteConstraintAttempt, found]
    change ((noted ⟨1⟩).constraints.remove ⟨1⟩).toList = _
    simp only [Registry.remove, Registry.erase, last]
    simp [Registry.toList, noted, Registry.ofList, joined]
  rw [left]
  exact List.mem_singleton_self _

end Noted

end Sketch
end Drafting
