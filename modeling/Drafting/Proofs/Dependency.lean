import Drafting.Proofs.Residual
import Drafting.Proofs.Session
/-! Whatever the equations of a group mention belongs to the group itself or to one it builds upon. Through
however many entities a parameter is reached, each way from one group to the next is a dependency. -/
namespace Drafting
open Relation (TransGen)
open Result

namespace Sketch

def BuildsOn (s : Sketch α) (g k : GroupId) : Prop := k = g ∨ TransGen s.Upstream g k

def Settled (s : Sketch α) (g : GroupId) (p : ParamId) : Prop := ∃ k, s.ownerOf? p = some k ∧ s.BuildsOn g k

section Edges
variable {s : Sketch α} {g k : GroupId}

theorem BuildsOn.trans {l : GroupId} (first : s.BuildsOn g k) (next : s.BuildsOn k l) : s.BuildsOn g l := by
  rcases first with same | first
  · exact same ▸ next
  · rcases next with same | next
    · exact same ▸ .inr first
    · exact .inr (first.trans next)

theorem buildsOnNamed (h : s.Intact) {record : Group α} (found : s.groups.get? g = some record) {id : EntityId}
    (named : record.workplane = some id ∨ (∃ c ∈ s.constraints.toList, c.group = g ∧ id ∈ c.references) ∨
      ∃ r ∈ s.requests.toList, r.group = g ∧ r.workplane = some id) {e : Entity α} (there : s.entities.get? id = some e) :
    s.BuildsOn g e.group := by
  have key : record.id = g := h.groups.keyOfGet found
  by_cases same : e.group = g
  · exact .inl same
  refine .inr (.single ⟨?_, ?_⟩)
  · exact (Registry.memKeys).mpr ⟨record, Registry.memOfGet found, key⟩
  · simp only [dependenciesOf, found, dependencies, List.mem_filter, List.mem_append]
    refine ⟨.inr (List.mem_filterMap.mpr ⟨id, ?_, by simp [groupOf?, there]⟩), by simp [key, same]⟩
    rcases named with lies | ⟨c, member, ours, inside⟩ | ⟨r, member, ours, lies⟩
    · exact List.mem_append_left _ (List.mem_append_left _ (by simp [lies]))
    · refine List.mem_append_left _ (List.mem_append_right _ (List.mem_flatMap.mpr ⟨c, ?_, inside⟩))
      exact List.mem_filter.mpr ⟨member, by simp [ours, key]⟩
    · refine List.mem_append_right _ (List.mem_flatMap.mpr ⟨r, ?_, by simp [lies]⟩)
      exact List.mem_filter.mpr ⟨member, by simp [ours, key]⟩

theorem settledOfReads (h : s.Intact) {id : EntityId} {e : Entity α} (found : s.entities.get? id = some e)
    (near : s.BuildsOn g e.group) {p : ParamId} (reads : s.Reads e p) : s.Settled g p := by
  obtain ⟨k, ⟨owner, _⟩, same | ⟨w, plane, lies, there, same⟩⟩ := reads
  · exact ⟨k, owner, same ▸ near⟩
  · refine ⟨k, owner, near.trans ?_⟩
    rcases h.origin found with ⟨q, drawn, part⟩ | ⟨_, _, made⟩
    · have whole := Request.drawn part
      obtain ⟨record, registered⟩ := h.requestGroups q.id q drawn
      rw [whole.group, same]
      exact buildsOnNamed h registered
        (.inr (.inr ⟨q, Registry.memOfGet drawn, rfl, whole.workplane.symm.trans lies⟩)) there
    · rw [made.workplane] at lies
      exact nomatch lies

theorem settledWithin (h : s.Intact) {id : EntityId} (near : ∀ e, s.entities.get? id = some e → s.BuildsOn g e.group) :
    s.Within (s.Settled g) id :=
  fun e found _ reads => settledOfReads h found (near e found) reads

end Edges

section Equations
variable [Scalar α] {s : Sketch α} {g : GroupId}

theorem constraintSettled (h : s.Intact) {c : Constraint α} (member : c ∈ s.constraints.toList) :
    All (fun qs => ∀ q ∈ qs, Expr.Over (s.Settled c.group) q.expr) (s.constraintEquations c) := by
  have found := h.constraints.getOfMem member
  refine constraintEquationsOver h ?_ ?_
  · intro id named
    obtain ⟨record, registered⟩ := h.constraintGroups _ c found
    exact settledWithin h fun e there => buildsOnNamed h registered (.inr (.inl ⟨c, member, rfl, named⟩)) there
  · intro p helper
    refine ⟨c.group, ownerOfName h ?_ (h.helped _ c found p helper), .inl rfl⟩
    simp only [OwnedBy, helperOwner helper]
    exact ⟨c, found, rfl⟩

theorem constraintsSettled (h : s.Intact) (g : GroupId) (dims : Bool) :
    ∀ q ∈ System.constraintEquations s g dims, Expr.Over (s.Settled g) q.expr := by
  intro q member
  obtain ⟨c, active, inside⟩ := List.mem_flatMap.mp member
  obtain ⟨there, ours⟩ := List.mem_filter.mp active
  have group : c.group = g := by
    rw [Bool.and_eq_true] at ours
    simpa using ours.1
  cases written : s.constraintEquations c with
  | error e =>
    rw [written] at inside
    exact nomatch inside
  | ok qs =>
    rw [written] at inside
    exact group ▸ constraintSettled h there qs written q inside

theorem entitiesSettled (h : s.Intact) (g : GroupId) :
    All (fun qs => ∀ q ∈ qs, Expr.Over (s.Settled g) q.expr) (s.entityEquations g) := by
  intro qs ok q member
  obtain ⟨e, there, group, x, computed, rfl⟩ := entityEquationsOk ok q member
  have found : s.entities.get? e.id = some e := h.entities.getOfMem there
  have covers := entityResidualAll (h.coveredBy (s.Settled g)) found (fun e' found' p reads => by
    obtain rfl := Option.some.inj (found.symm.trans found')
    exact settledOfReads h found (.inl group) reads) (some x) computed
  exact covers x rfl

theorem groupResidualsOver {P : ParamId → Prop} {record : Group α} (own : ∀ n, P (record.param n))
    {plane : Option (PlaneExpr α)} (placed : ∀ b, plane = some b → b.Over P) :
    ∀ r ∈ groupResiduals record plane, r.Over P := by
  have vector (n : Nat) : (Vec3.ofParams (record.paramVec n) : Vec3 (Expr α)).Over P := ⟨own n, own (n + 1), own (n + 2)⟩
  have one : (Expr.const (1.0 : α)).Over P := Expr.overConst _
  have link : (Quat.ofParams record.linkRotation : Quat (Expr α)).Over P := ⟨own 4, own 5, own 6, own 3⟩
  have unit := Expr.overSub (Vec3.overDot (vector 3) (vector 3)) one
  intro r member
  unfold groupResiduals at member
  dsimp only at member
  split at member
  · rename_i b _
    have turned := (placed b rfl).orientation
    simp only [List.mem_cons, List.not_mem_nil, or_false] at member
    rcases member with same | same
    · exact same ▸ Vec3.overDot (vector 0) (Quat.overImageU turned)
    · exact same ▸ Vec3.overDot (vector 0) (Quat.overImageV turned)
  · rename_i b _
    rw [List.mem_singleton.mp member]
    exact Vec3.overDot (vector 0) (Quat.overImageN (placed b rfl).orientation)
  · rcases List.mem_append.mp member with upright | last
    · split at upright
      · rename_i b
        have turned := (placed b rfl).orientation
        simp only [List.mem_cons, List.not_mem_nil, or_false] at upright
        rcases upright with same | same | same
        · exact same ▸ Vec3.overDot (vector 3) (Quat.overImageU turned)
        · exact same ▸ Vec3.overDot (vector 3) (Quat.overImageV turned)
        · exact same ▸ Vec3.overDot (Vec3.overSub (vector 0) (placed b rfl).origin) (Quat.overImageN turned)
      · exact nomatch upright
    · exact List.mem_singleton.mp last ▸ unit
  · exact List.mem_singleton.mp member ▸ Expr.overSub (Quat.overMagnitudeSquared link) one
  · exact nomatch member

theorem groupSettled (h : s.Intact) (g : GroupId) :
    All (fun qs => ∀ q ∈ qs, Expr.Over (s.Settled g) q.expr) (s.groupEquations g) := by
  intro qs ok
  obtain ⟨record, plane, found, placed, rfl⟩ := groupEquationsOk ok
  have key : record.id = g := h.groups.keyOfGet found
  have own (n : Nat) : s.Settled g (record.param n) := ⟨g, ownerOfGroup h (by rw [← key]; rfl), .inl rfl⟩
  have settled (b : PlaneExpr α) (same : plane = some b) : b.Over (s.Settled g) := by
    obtain ⟨w, lies, computed⟩ := placed b same
    have near (e : Entity α) (there : s.entities.get? w = some e) := buildsOnNamed h found (.inl lies) there
    exact (h.coveredBy _).plane _ (settledWithin h near) b computed
  intro q member
  obtain ⟨i, bound, same⟩ := List.mem_mapIdx.mp member
  rw [← same]
  exact groupResidualsOver own settled _ (List.getElem_mem bound)

theorem allEquationsSettled (h : s.Intact) (g : GroupId) (dims : Bool) :
    All (fun qs => ∀ q ∈ qs, Expr.Over (s.Settled g) q.expr) (System.allEquations s g dims) := by
  intro qs ok
  obtain ⟨entities, fromEntities, rest⟩ := bindOk.mp ok
  obtain ⟨own, fromGroup, last⟩ := bindOk.mp rest
  cases last
  intro q member
  rcases List.mem_append.mp member with earlier | inside
  · rcases List.mem_append.mp earlier with inside | inside
    · exact constraintsSettled h g dims q inside
    · exact entitiesSettled h g entities fromEntities q inside
  · exact groupSettled h g own fromGroup q inside

end Equations

theorem solvedAfterDependencies [Scalar α] {config : EngineConfig α} {t : Session α} (reached : Session.Reached config t)
    {g : GroupId} {dims : Bool} {qs : List (Equation α)} (written : System.allEquations t.sketch g dims = .ok qs)
    {q : Equation α} (member : q ∈ qs) {p : ParamId} (mentioned : p ∈ q.expr.params) :
    ∃ k, t.sketch.ownerOf? p = some k ∧ (k = g ∨ (TransGen t.sketch.Upstream g k ∧
      ∀ order, t.sketch.regenerationOrder = .ok order →
        ∃ before rest, order = before ++ g :: rest ∧ k ∈ before ∧ g ∉ before)) := by
  have intact := (Session.reachedIntact reached).sketch
  have settled := allEquationsSettled intact g dims qs written q member
  obtain ⟨k, owner, same | reaches⟩ := Expr.overIff.mp settled p mentioned
  · exact ⟨k, owner, .inl same⟩
  · refine ⟨k, owner, .inr ⟨reaches, fun order ok => ?_⟩⟩
    have sorted := regenerationOrderIsOrder ok
    obtain ⟨_, ⟨registered, _⟩, _⟩ := TransGen.head'_iff.mp reaches
    obtain ⟨before, rest, split⟩ := List.append_of_mem ((sorted.every g).mpr registered)
    refine ⟨before, rest, split, sorted.reachedBefore reaches split, ?_⟩
    intro again
    exact (List.nodup_append.mp (split ▸ sorted.once)).2.2 g again g List.mem_cons_self rfl

/-! A shift of copies within a workplane that is drawn in the group they are copied from. -/

section Shift

def drawingGroup : Group Float := { id := ⟨1⟩, name := "drawing", kind := .drawing3d }
def shiftGroup : Group Float := { id := ⟨2⟩, name := "shift", kind := .copiesAlong 1, source := some ⟨1⟩ }
def tilted : Request := ⟨⟨1⟩, ⟨1⟩, none, .workplane, false⟩

structure Bare (s : Sketch Float) : Prop where
  first : s.groups.get? ⟨1⟩ = some drawingGroup
  second : s.groups.get? ⟨2⟩ = some shiftGroup
  requests : s.requests = {}
  constraints : s.constraints = {}
  entities : s.entities.toList = []
  nextRequest : s.nextRequest = 1

def oneDrawing : Sketch Float := (({} : Sketch Float).withGroup "drawing" .drawing3d none).regrown drawingGroup ⟨{}, #[]⟩

theorem oneDrawingGroups : oneDrawing.groups = ({} : Sketch Float).groups.add drawingGroup :=
  (regrownSpec (s := ({} : Sketch Float).withGroup "drawing" .drawing3d none) startIntact.params
    (fitsNone drawingGroup)).groups

theorem oneDrawingFitted : Session.Fitted (α := Float) .standard ((Session.start .standard).withSketch oneDrawing) := by
  have added : addGroup "drawing" .drawing3d none {} = (.ok ⟨1⟩, oneDrawing) :=
    addGroupRun startIntact.groups rfl (startIntact.groups.getAddSelf drawingGroup) rfl
  have done := Session.performEdited id (s := .start .standard) (c := .addGroup "drawing" .drawing3d none)
    rfl added
  exact .step .start (by simp [Command.Refits]) done

theorem bareFitted : ∃ t : Session Float, Session.Fitted .standard t ∧ Bare t.sketch ∧
    t.sketch.groups.keys = [⟨1⟩, ⟨2⟩] := by
  obtain ⟨s, fitted, one, empty, requests, constraints, next, nextGroup⟩ :
      ∃ s : Sketch Float, Session.Fitted .standard ((Session.start .standard).withSketch s) ∧
        s.groups = ({} : Sketch Float).groups.add drawingGroup ∧ s.entities.toList = [] ∧
        s.requests = {} ∧ s.constraints = {} ∧ s.nextRequest = 1 ∧ s.nextGroup = 2 :=
    ⟨oneDrawing, oneDrawingFitted, oneDrawingGroups, rfl, rfl, rfl, rfl, rfl⟩
  have intact : s.Intact := (Session.reachedIntact fitted.reached).sketch
  have named : s.groups.get? ⟨1⟩ = some drawingGroup := by
    rw [one]
    exact startIntact.groups.getAddSelf drawingGroup
  let t := s.withGroup "shift" (.copiesAlong 1) (some ⟨1⟩)
  have two : t.groups = s.groups.add shiftGroup := by
    simp only [t, withGroup, startingWorkplane, GroupKind.copiesAlong, Option.bind_some, named, drawingGroup, nextGroup]
    rfl
  have copied : t.copied shiftGroup = .ok ⟨{}, #[]⟩ := by
    have sources : (t.redrawn shiftGroup).entities.toList = [] := by
      have own : t.requestsOf shiftGroup = [] := by
        change List.filter _ s.requests.toList = []
        rw [requests]
        rfl
      rw [redrawnRecords, own]
      change List.filter _ s.entities.toList = []
      rw [empty]
      rfl
    change (t.redrawn shiftGroup).copies shiftGroup = _
    have read : (t.redrawn shiftGroup).sources shiftGroup = .ok [] := by
      change Except.ok (List.filter _ (t.redrawn shiftGroup).entities.toList) = _
      rw [sources]
      rfl
    rw [copies, read]
    rfl
  have allowed : s.checkGroup (.copiesAlong 1) (some ⟨1⟩) = .ok () := by
    have there : s.groups.contains ⟨1⟩ = true := intact.groups.containsIff.mpr ⟨_, named⟩
    simp only [checkGroup, there, if_true]
    rfl
  have registered : t.groups.get? ⟨s.nextGroup⟩ = some shiftGroup := by
    rw [nextGroup, two]
    exact intact.groups.getAddSelf shiftGroup
  have run := addGroupRun intact.groups allowed registered copied
  have fits : Fits shiftGroup ⟨{}, #[]⟩ := fitsNone shiftGroup
  have new := regrownSpec (s := t) intact.params fits
  refine ⟨(Session.start .standard).withSketch (t.regrown shiftGroup ⟨{}, #[]⟩), ?_, ?_, ?_⟩
  · have done := Session.performEdited id (s := (Session.start .standard).withSketch s)
      (c := .addGroup "shift" (.copiesAlong 1) (some ⟨1⟩)) rfl run
    exact .step fitted (by simp [Command.Refits]) done
  · have keeps : ∀ g : Group Float, g.id = ⟨2⟩ → ({ g with remap := {} } : Group Float).id = ⟨2⟩ := fun _ same => same
    have both := intact.groups.add shiftGroup
    constructor
    case first =>
      change (t.regrown shiftGroup ⟨{}, #[]⟩).groups.get? _ = _
      rw [new.groups, two]
      change ((s.groups.add shiftGroup).modify ⟨2⟩ _).get? _ = _
      rw [both.getModify ⟨2⟩ keeps, if_neg (by decide), intact.groups.getAdd, if_neg (by decide), named]
    case second =>
      change (t.regrown shiftGroup ⟨{}, #[]⟩).groups.get? _ = _
      rw [new.groups, two]
      change ((s.groups.add shiftGroup).modify ⟨2⟩ _).get? _ = _
      rw [both.getModify ⟨2⟩ keeps, if_pos rfl]
      rw [show (s.groups.add shiftGroup).get? ⟨2⟩ = some shiftGroup from intact.groups.getAddSelf shiftGroup]
      rfl
    case requests => exact new.requests.trans requests
    case constraints => exact new.constraints.trans constraints
    case nextRequest => exact new.nextRequest.trans next
    case entities =>
      change (t.regrown shiftGroup ⟨{}, #[]⟩).entities.toList = _
      have own : t.content shiftGroup ⟨{}, #[]⟩ = [] := by
        have drawn : t.requestsOf shiftGroup = [] := by
          change List.filter _ s.requests.toList = []
          rw [requests]
          rfl
        rw [content, drawn]
        rfl
      rw [new.entities, own]
      change List.filter _ s.entities.toList = []
      rw [empty]
      rfl
  · have both := intact.groups.add shiftGroup
    have alone : s.groups.keys = [⟨1⟩] := by
      rw [one]
      exact startIntact.groups.keysAddNew List.not_mem_nil
    change (t.regrown shiftGroup ⟨{}, #[]⟩).groups.keys = _
    rw [new.groups, two]
    refine (both.keysModify (f := ({ · with remap := {} })) ⟨2⟩ fun _ same => same).trans ?_
    rw [intact.groups.keysAddNew (by rw [alone]; decide), alone]
    rfl

structure Paired (r : Registry GroupId (Group Float)) : Prop where
  first : r.get? ⟨1⟩ = some drawingGroup
  second : r.get? ⟨2⟩ = some shiftGroup
  keys : r.keys = [⟨1⟩, ⟨2⟩]

theorem Paired.dirty {r : Registry GroupId (Group Float)} (h : Paired r) (consistent : r.Consistent) :
    Paired (r.modify ⟨1⟩ ({ · with clean := false })) := by
  have keeps : ∀ g : Group Float, g.id = ⟨1⟩ → ({ g with clean := false } : Group Float).id = ⟨1⟩ := fun _ same => same
  refine ⟨?_, ?_, (consistent.keysModify ⟨1⟩ keeps).trans h.keys⟩
  · rw [consistent.getModify ⟨1⟩ keeps, if_pos rfl, h.first]
    rfl
  · rw [consistent.getModify ⟨1⟩ keeps, if_neg (by decide), h.second]

structure Planed (s : Sketch Float) : Prop where
  groups : Paired s.groups
  requests : s.requests = ({} : Sketch Float).requests.add tilted
  constraints : s.constraints = {}
  entities : ∀ e ∈ s.entities.toList, e.group = ⟨1⟩
  nextRequest : s.nextRequest = 2

theorem planedFitted : ∃ t : Session Float, Session.Fitted .standard t ∧ Planed t.sketch := by
  obtain ⟨t, fitted, bare, keys⟩ := bareFitted
  have intact : t.sketch.Intact := (Session.reachedIntact fitted.reached).sketch
  obtain ⟨v, drawn, groups, requests, constraints, entities, next⟩ : ∃ v : Sketch Float,
      addRequest ⟨1⟩ .workplane none false t.sketch = (.ok ⟨1⟩, v) ∧
      v.groups = t.sketch.groups.modify ⟨1⟩ ({ · with clean := false }) ∧
      v.requests = t.sketch.requests.add tilted ∧ v.constraints = t.sketch.constraints ∧
      v.entities = tilted.entities.foldl Registry.add t.sketch.entities ∧ v.nextRequest = 2 := by
    have allowed : t.sketch.checkRequest ⟨1⟩ .workplane none = .ok () :=
      Result.bindOk.mpr ⟨_, groupFound.mpr bare.first, rfl⟩
    have run := addRequestRun allowed false
    rw [bare.nextRequest] at run
    refine ⟨_, run, ?_⟩
    dsimp only
    rw [enterRequestRecords]
    exact ⟨rfl, rfl, rfl, rfl, rfl⟩
  have done := Session.performEdited id (c := .addRequest ⟨1⟩ .workplane none false) rfl drawn
  refine ⟨t.withSketch v, .step fitted (by simp [Command.Refits]) done, ?_⟩
  constructor
  case groups =>
    change Paired v.groups
    rw [groups]
    exact Paired.dirty ⟨bare.first, bare.second, keys⟩ intact.groups
  case requests => exact requests.trans (by rw [bare.requests])
  case constraints => exact constraints.trans bare.constraints
  case entities =>
    change ∀ e ∈ v.entities.toList, _
    rw [entities]
    intro e member
    have found := (intact.entities.addAll tilted.entities).getOfMem member
    rcases intact.entities.foundAddAll found with ⟨part, _⟩ | before
    · exact (Request.drawn part).group
    · have inside := Registry.memOfGet before
      rw [bare.entities] at inside
      exact nomatch inside
  case nextRequest => exact next

structure Tilted (s : Sketch Float) : Prop where
  second : s.groups.get? ⟨2⟩ = some { shiftGroup with workplane := some tilted.entity }
  request : s.requests.get? tilted.id = some tilted
  constraints : s.constraints = {}
  entities : ∀ e ∈ s.entities.toList, e.group = ⟨1⟩

theorem tiltedFitted : ∃ t : Session Float, Session.Fitted .standard t ∧ Tilted t.sketch := by
  obtain ⟨t, fitted, planed⟩ := planedFitted
  have intact : t.sketch.Intact := (Session.reachedIntact fitted.reached).sketch
  let shifted : Group Float := { shiftGroup with workplane := some tilted.entity }
  refine ⟨t.withSketch (t.sketch.modifyGroup ⟨2⟩ fun _ => shifted), ?_, ?_⟩
  · have changed : (do
        let g ← Edit.read (·.group ⟨2⟩)
        modify (·.modifyGroup ⟨2⟩ fun _ => [GroupChange.workplane (some tilted.entity)].foldl GroupChange.apply g) :
        Edit Float SketchError Unit) t.sketch = (.ok (), t.sketch.modifyGroup ⟨2⟩ fun _ => shifted) :=
      Attempt.bindOk.mpr ⟨_, _, Edit.readOk.mpr ⟨groupFound.mpr planed.groups.second, rfl⟩, Attempt.modifyOk.mpr rfl⟩
    have done := Session.performEdited id (c := .changeGroup ⟨2⟩ [.workplane (some tilted.entity)]) rfl changed
    exact .step fitted (by simp [Command.Refits]) done
  · constructor
    case second =>
      change (t.sketch.groups.modify _ _).get? _ = _
      rw [intact.groups.getModify ⟨2⟩ (fun _ _ => rfl), if_pos rfl, planed.groups.second]
      rfl
    case request =>
      change t.sketch.requests.get? _ = _
      rw [planed.requests]
      exact startIntact.requests.getAddSelf tilted
    case constraints => exact planed.constraints
    case entities => exact planed.entities

theorem shiftWithinDrawnWorkplane : ∃ (t : Session Float) (qs : List (Equation Float)) (q : Equation Float),
    Session.Reached .standard t ∧ System.allEquations t.sketch ⟨2⟩ false = .ok qs ∧ q ∈ qs ∧
    tilted.param 3 ∈ q.expr.params ∧ t.sketch.ownerOf? (tilted.param 3) = some ⟨1⟩ ∧
    TransGen t.sketch.Upstream ⟨2⟩ ⟨1⟩ ∧ ∀ order, t.sketch.regenerationOrder = .ok order →
      ∃ before rest, order = before ++ ⟨2⟩ :: rest ∧ ⟨1⟩ ∈ before ∧ ⟨2⟩ ∉ before := by
  obtain ⟨t, fitted, known⟩ := tiltedFitted
  have reached := fitted.reached
  have intact : t.sketch.Intact := (Session.reachedIntact reached).sketch
  have plane := planeOfRequest intact known.request rfl
  let orientation : Quat (Expr Float) := .ofParams
    { w := tilted.param 3, x := tilted.param 4, y := tilted.param 5, z := tilted.param 6 }
  let within : Equation Float :=
    ⟨.group ⟨2⟩ 0, (Vec3.ofParams shiftGroup.delta : Vec3 (Expr Float)).dot orientation.imageN⟩
  have drawn : t.sketch.entityEquations ⟨2⟩ = .ok [] := by
    have none : t.sketch.entities.toList.filter (fun e => e.group == ⟨2⟩ && e.id.isFromRequest) = [] := by
      refine List.filter_eq_nil_iff.mpr fun e member => ?_
      rw [known.entities e member]
      simp
    rw [entityEquations, none]
    rfl
  have own : t.sketch.groupEquations ⟨2⟩ = .ok [within] := by
    rw [groupEquations, groupFound.mpr known.second]
    change (do
      let x ← t.sketch.planeExpr tilted.entity
      pure ((groupResiduals _ (some x)).mapIdx _) : Except SketchError (List (Equation Float))) = _
    rw [plane]
    rfl
  have written : System.allEquations t.sketch ⟨2⟩ false = .ok [within] := by
    rw [System.allEquations, drawn, own]
    change Except.ok ((t.sketch.constraints.toList.filter _).flatMap _ ++ [] ++ [within]) = _
    rw [known.constraints]
    rfl
  have mentioned : tilted.param 3 ∈ within.expr.params := by decide
  obtain ⟨k, owner, before⟩ := solvedAfterDependencies reached written (List.mem_singleton_self _) mentioned
  have first : t.sketch.ownerOf? (tilted.param 3) = some ⟨1⟩ := by
    have part := intact.present tilted.id tilted known.request (tilted.normalPart 3) (by simp [Request.entities, tilted,
      Request.coordinates])
    exact (ownHeld intact part (by simp [Request.normalPart, Request.part, tilted, EntityKind.ownParams])).owner
  obtain rfl := Option.some.inj (owner.symm.trans first)
  exact ⟨t, _, within, reached, written, List.mem_singleton_self _, mentioned, first,
    before.resolve_left (by decide)⟩

end Shift
end Sketch
end Drafting
