import Drafting.Proofs.Closed
import Drafting.Proofs.Workplanes
/-! Which handles stand for workplanes. A number is drawn under once, and a slot belongs to one key for good. So
whatever stands under a handle, now or after any edits and passes, is always a workplane or never one, and what is
drawn in a workplane lies in one as long as anything stands there. -/
namespace Drafting

namespace EntityKind
variable {k k' : EntityKind α}

def otherClasses : List EntityClass := [.point, .normal, .distance, .line, .round, .cubic, .face]

theorem planeOrOther (k : EntityKind α) : .workplane ∈ k.classes ∨ ∃ c ∈ otherClasses, c ∈ k.classes := by
  cases k <;> simp [classes, otherClasses]

theorem noPlane {c : EntityClass} (other : c ∈ otherClasses) (holds : k.isA c = true) : k.isA .workplane = false := by
  cases k with
  | workplane =>
    simp only [otherClasses, List.mem_cons, List.not_mem_nil, or_false] at other
    rcases other with rfl | rfl | rfl | rfl | rfl | rfl | rfl <;> cases holds
  | _ => rfl

theorem planeOfClasses (all : ∀ c ∈ k.classes, k'.isA c = true) : k'.isA .workplane = k.isA .workplane := by
  rcases planeOrOther k with plane | ⟨c, other, listed⟩
  · rw [all _ plane, isA, List.contains_iff_mem.mpr plane]
  · rw [noPlane other (all c listed), noPlane other (List.contains_iff_mem.mpr listed)]

end EntityKind

theorem Request.planePart (q : Request) : ∀ e ∈ q.entities (α := α),
    e.isA .workplane = (q.kind == .workplane && e.id.index == 0) := by
  rcases q with ⟨id, group, workplane, kind, construction⟩
  cases workplane <;> cases kind <;> simp [entities, pointParts, part, normalPart, point, normal, distance, entity,
    EntityId.request, pointIndex, normalIndex, distanceIndex, Entity.isA, EntityKind.isA, EntityKind.classes,
    List.range_succ]

theorem fixturePlane [Scalar α] (g : Group α) : ∀ e ∈ Sketch.fixtures g, e.id.origin = .predefined g.id ∧
    e.isA .workplane = (e.id.index == 0) := by
  unfold Sketch.fixtures
  split <;> simp [EntityId.predefined, Entity.isA, EntityKind.isA, EntityKind.classes]

namespace Copying

def Follows (sources : List (Entity α)) (planned : Planned) : Prop :=
  (∃ e ∈ sources, planned.1.whole? = some e.id ∧ planned.2 = e.kind.classes) ∨
    planned.1.whole? = none ∧ ∃ c ∈ EntityKind.otherClasses, c ∈ planned.2

theorem planFollows [Scalar α] {s : Sketch α} {g : Group α} {sources : List (Entity α)} {planned : Planned}
    (member : planned ∈ plan s g sources) : Follows sources planned := by
  have path {axis : Axis α} {closed : Bool} {e : Entity α} (inside : planned ∈ planPath s axis closed e) :
      Follows sources planned := by
    refine .inr ?_
    unfold planPath at inside
    split at inside
    · cases closed <;> simp at inside <;> rcases inside with rfl | rfl | rfl | rfl <;>
        simp [RemapKey.whole?, EntityKind.otherClasses]
    · cases inside
  have swept {e : Entity α} (inside : planned ∈ planEdge e ++ planFace e) : Follows sources planned := by
    refine .inr ?_
    unfold planEdge planFace at inside
    split at inside <;> split at inside <;> simp at inside
    · rcases inside with rfl | rfl <;> simp [RemapKey.whole?, EntityKind.otherClasses]
    all_goals simp [inside, RemapKey.whole?, EntityKind.otherClasses]
  unfold plan at member
  cases kind : g.kind with
  | drawing3d | drawingWorkplane =>
    rw [kind] at member
    cases member
  | extrude =>
    rw [kind] at member
    obtain ⟨e, source, inside⟩ := List.mem_flatMap.mp member
    rcases List.mem_cons.mp inside with rfl | inside
    · exact .inl ⟨e, source, rfl, rfl⟩
    rcases List.mem_cons.mp inside with rfl | inside
    · exact .inl ⟨e, source, rfl, rfl⟩
    · exact swept inside
  | lathe =>
    rw [kind] at member
    obtain ⟨e, source, inside⟩ := List.mem_flatMap.mp member
    rcases List.mem_cons.mp inside with rfl | inside
    · exact .inl ⟨e, source, rfl, rfl⟩
    · exact path inside
  | revolve =>
    rw [kind] at member
    obtain ⟨e, source, inside⟩ := List.mem_flatMap.mp member
    simp only [List.mem_cons] at inside
    rcases inside with rfl | rfl | inside
    · exact .inl ⟨e, source, rfl, rfl⟩
    · exact .inl ⟨e, source, rfl, rfl⟩
    · exact path inside
  | translate | rotate =>
    rw [kind] at member
    obtain ⟨step, _, inside⟩ := List.mem_flatMap.mp member
    obtain ⟨e, source, rfl⟩ := List.mem_map.mp inside
    exact .inl ⟨e, source, rfl, rfl⟩
  | linked =>
    rw [kind] at member
    obtain ⟨step, _, rfl⟩ := List.mem_map.mp member
    exact .inr ⟨rfl, .point, by simp [EntityKind.otherClasses], List.mem_singleton_self _⟩

end Copying

namespace Sketch
variable {s t u : Sketch α} {planes planes' : RequestId → Bool} {id : EntityId} {a b : Bool}

/-- Whether a handle stands for a workplane, given which requests were ones for workplanes. A whole copy is what its
source is. -/
inductive Typed (s : Sketch α) (planes : RequestId → Bool) : EntityId → Bool → Prop
  | drawn {id : EntityId} {r : RequestId} (origin : id.origin = .request r) (old : r.number < s.nextRequest) :
      Typed s planes id (planes r && id.index == 0)
  | fixture {id : EntityId} {k : GroupId} (origin : id.origin = .predefined k) : Typed s planes id (id.index == 0)
  | whole {id source : EntityId} {k : GroupId} {g : Group α} {key : RemapKey} {b : Bool}
      (origin : id.origin = .derived k) (there : s.groups.get? k = some g) (given : g.remap.get? key = some id.index)
      (copied : key.whole? = some source) (typed : Typed s planes source b) : Typed s planes id b
  | path {id : EntityId} {k : GroupId} {g : Group α} {key : RemapKey} (origin : id.origin = .derived k)
      (there : s.groups.get? k = some g) (given : g.remap.get? key = some id.index) (path : key.whole? = none) :
      Typed s planes id false

theorem Typed.unique (proper : ∀ k g, s.groups.get? k = some g → g.remap.Proper) (first : s.Typed planes id a)
    (second : s.Typed planes id b) : a = b := by
  have oneKey {id : EntityId} {k k' : GroupId} {g g' : Group α} {key key' : RemapKey} (origin : id.origin = .derived k)
      (there : s.groups.get? k = some g) (given : g.remap.get? key = some id.index) (origin' : id.origin = .derived k')
      (there' : s.groups.get? k' = some g') (given' : g'.remap.get? key' = some id.index) : key = key' := by
    obtain rfl := EntityOrigin.derived.inj (origin.symm.trans origin')
    obtain rfl := Option.some.inj (there.symm.trans there')
    exact (proper k g there).once key key' _ given given'
  induction first generalizing b with
  | drawn origin old =>
    cases second with
    | drawn origin' =>
      obtain rfl := EntityOrigin.request.inj (origin.symm.trans origin')
      rfl
    | fixture origin' => exact nomatch origin.symm.trans origin'
    | whole origin' => exact nomatch origin.symm.trans origin'
    | path origin' => exact nomatch origin.symm.trans origin'
  | fixture origin =>
    cases second with
    | fixture => rfl
    | drawn origin' => exact nomatch origin.symm.trans origin'
    | whole origin' => exact nomatch origin.symm.trans origin'
    | path origin' => exact nomatch origin.symm.trans origin'
  | whole origin there given copied typed ih =>
    cases second with
    | whole origin' there' given' copied' typed' =>
      obtain rfl := oneKey origin there given origin' there' given'
      obtain rfl := Option.some.inj (copied.symm.trans copied')
      exact ih typed'
    | path origin' there' given' path =>
      obtain rfl := oneKey origin there given origin' there' given'
      exact nomatch copied.symm.trans path
    | drawn origin' => exact nomatch origin.symm.trans origin'
    | fixture origin' => exact nomatch origin.symm.trans origin'
  | path origin there given path =>
    cases second with
    | path => rfl
    | whole origin' there' given' copied' typed' =>
      obtain rfl := oneKey origin there given origin' there' given'
      exact nomatch path.symm.trans copied'
    | drawn origin' => exact nomatch origin.symm.trans origin'
    | fixture origin' => exact nomatch origin.symm.trans origin'

/-- Numbers and slots that were given out stay so. -/
structure Remembers (s t : Sketch α) : Prop where
  numbers : s.nextRequest ≤ t.nextRequest
  slots : ∀ k g, s.groups.get? k = some g → ∃ g', t.groups.get? k = some g' ∧ g.remap.Extends g'.remap

theorem Steady.remembers (step : Steady Group.remap s t) (numbers : s.nextRequest ≤ t.nextRequest) : Remembers s t where
  numbers := numbers
  slots k g found := by
    obtain ⟨g', there, same⟩ := step.kept found
    exact ⟨g', there, same ▸ .refl _⟩

theorem Typed.later (h : s.Typed planes id b) (grown : Remembers s t)
    (agree : ∀ r, r.number < s.nextRequest → planes' r = planes r) : t.Typed planes' id b := by
  induction h with
  | drawn origin old => exact agree _ old ▸ .drawn origin (Nat.lt_of_lt_of_le old grown.numbers)
  | fixture origin => exact .fixture origin
  | whole origin there given copied _ ih =>
    obtain ⟨g', there', more⟩ := grown.slots _ _ there
    exact .whole origin there' (more.found _ _ given) copied ih
  | path origin there given path =>
    obtain ⟨g', there', more⟩ := grown.slots _ _ there
    exact .path origin there' (more.found _ _ given) path

structure Sorted (s : Sketch α) (planes : RequestId → Bool) : Prop where
  there : ∀ id e, s.entities.get? id = some e → s.Typed planes id (e.isA .workplane)
  within : ∀ r q w, s.requests.get? r = some q → q.workplane = some w → s.Typed planes w true

theorem Sorted.fewer (h : s.Sorted planes) (grown : Remembers s t)
    (entities : ∀ id e, t.entities.get? id = some e → ∃ e', s.entities.get? id = some e' ∧ e'.kind = e.kind)
    (requests : ∀ r q, t.requests.get? r = some q → ∃ q', s.requests.get? r = some q' ∧ q'.workplane = q.workplane) :
    t.Sorted planes where
  there id e found := by
    obtain ⟨e', before, same⟩ := entities id e found
    have typed : t.Typed planes id (e'.isA .workplane) := (h.there id e' before).later grown fun _ _ => rfl
    rwa [Entity.isA, same] at typed
  within r q w found lies := by
    obtain ⟨q', before, same⟩ := requests r q found
    exact (h.within r q' w before (same.trans lies)).later grown fun _ _ => rfl

theorem Sorted.plane (h : s.Sorted planes) (intact : s.Intact) {e e' : Entity α} {w : EntityId}
    (found : s.entities.get? id = some e) (lies : e.workplane = some w) (there : s.entities.get? w = some e') :
    e'.isA .workplane = true := by
  rcases intact.origin found with ⟨q, registered, part⟩ | ⟨k, _, made⟩
  · have drawnIn : q.workplane = some w := (Request.drawn part).workplane.symm.trans lies
    have typed := h.within q.id q w registered drawnIn
    exact (h.there w e' there).unique (fun k g found => (intact.slots k g found).toProper) typed
  · exact nomatch made.workplane.symm.trans lies

theorem startSorted : ({} : Sketch α).Sorted planes where
  there _ _ found := by simp [Registry.get?] at found
  within _ _ _ found := by simp [Registry.get?] at found

section Steps
variable [Scalar α]

theorem Sorted.drawn (h : s.Sorted planes) (intact : s.Intact) {r : Request} (fresh : r.id = ⟨s.nextRequest⟩)
    (allowed : s.checkRequest r.group r.kind r.workplane = .ok ()) (step : Change s t)
    (requests : t.requests = s.requests.add r) (entities : t.entities = r.entities.foldl Registry.add s.entities)
    (number : t.nextRequest = s.nextRequest + 1) :
    t.Sorted (Function.update planes r.id (r.kind == .workplane)) := by
  have grown : Remembers s t :=
    (step.unmarked (f := Group.remap) (fun _ _ => rfl) intact.toConsistent).remembers (number ▸ Nat.le_succ _)
  have old {id : EntityId} {b : Bool} (typed : s.Typed planes id b) :
      t.Typed (Function.update planes r.id (r.kind == .workplane)) id b := by
    refine typed.later grown fun r' below => Function.update_of_ne ?_ _ _
    rintro rfl
    rw [fresh] at below
    exact Nat.lt_irrefl _ below
  refine ⟨fun id e found => ?_, fun r' q w found lies => ?_⟩
  · rw [entities] at found
    rcases intact.entities.foundAddAll found with ⟨part, keyed⟩ | before
    · have below : r.id.number < t.nextRequest := by
        rw [number, fresh]
        exact Nat.lt_succ_self _
      have drawn : t.Typed (Function.update planes r.id (r.kind == .workplane)) e.id
        (Function.update planes r.id (r.kind == .workplane) r.id && e.id.index == 0) :=
        .drawn (Request.drawn part).origin below
      rw [Function.update_self, ← r.planePart e part] at drawn
      exact (show e.id = id from keyed) ▸ drawn
    · exact old (h.there id e before)
  · rw [requests] at found
    rcases intact.requests.foundAdd found with ⟨_, rfl⟩ | before
    · obtain ⟨e, there, plane⟩ := checkRequestPlane allowed lies
      exact old (plane ▸ h.there w e there)
    · exact old (h.within r' q w before lies)

theorem Adjustments.sorted (steps : Adjustments s t) (h : s.Sorted planes) (intact : s.Intact) : t.Sorted planes := by
  have numbers : t.nextRequest = s.nextRequest := by
    induction steps with
    | refl => rfl
    | tail _ step ih => exact .trans (by cases step <;> rfl) ih
  have steady : Steady Group.remap s t := Changes.unmarked (fun _ _ => rfl) steps.changes intact.toConsistent
  refine h.fewer (steady.remembers numbers.ge) (fun id e found => ?_) fun r q found => ?_
  · exact ⟨e, steps.entities ▸ found, rfl⟩
  · exact ⟨q, steps.requests ▸ found, rfl⟩

theorem Change.sorted (step : Change s t) (h : s.Sorted planes) (intact : s.Intact) : ∃ planes', t.Sorted planes' := by
  have steady : Steady Group.remap s t := step.unmarked (fun _ _ => rfl) intact.toConsistent
  cases step with
  | adjusted step => exact ⟨planes, Adjustments.sorted (.single step) h intact⟩
  | @drawn r fresh allowed =>
    refine ⟨_, h.drawn intact fresh allowed (.drawn fresh allowed) ?_ ?_ ?_⟩
    all_goals
      dsimp only
      rw [enterRequestRecords]
      rfl
  | @construction id r there b =>
    have keeps : ∀ e : Entity α, Keyed.key (if e.id.request? = some id then { e with construction := b } else e) = Keyed.key e := by
      intro e
      split <;> rfl
    refine ⟨planes, h.fewer (steady.remembers (Nat.le_refl _)) (fun i e found => ?_) fun r' q found => ?_⟩
    · obtain ⟨e', before, same⟩ := Option.map_eq_some_iff.mp ((intact.entities.getMap keeps i).symm.trans found)
      refine ⟨e', before, ?_⟩
      rw [← same]
      split <;> rfl
    · obtain ⟨q', before, same⟩ :=
        (intact.requests.foundModify id (f := ({ · with construction := b })) fun _ same => same).mp found
      refine ⟨q', before, ?_⟩
      rw [← same]
      split <;> rfl
  | @erased id r there =>
    refine ⟨planes, h.fewer (steady.remembers (Nat.le_refl _)) (fun i e found => ?_) fun r' q found => ?_⟩
    · exact ⟨e, (intact.entities.foundFilter.mp found).1, rfl⟩
    · exact ⟨q, (intact.requests.foundRemove.mp found).2, rfl⟩

theorem Sorted.redrawn (h : s.Sorted planes) (intact : s.Intact) {g : Group α} {id : EntityId} {e : Entity α}
    (found : (s.redrawn g).entities.get? id = some e) : s.Typed planes id (e.isA .workplane) := by
  rw [redrawnRecords] at found
  rcases (intact.entities.filter _).foundAddAll found with ⟨member, keyed⟩ | kept
  · rw [← show e.id = id from keyed]
    rcases List.mem_append.mp member with fixture | part
    · obtain ⟨origin, plane⟩ := fixturePlane g e fixture
      exact plane ▸ .fixture origin
    · obtain ⟨q, mine, part⟩ := List.mem_flatMap.mp part
      have registered := intact.requests.getOfMem (List.mem_filter.mp mine).1
      exact h.there e.id e (intact.present _ q registered e part)
  · exact h.there id e (intact.entities.foundFilter.mp kept).1

theorem Sorted.copied (h : s.Sorted planes) (intact : s.Intact) {g : Group α} {c : Copies α} (ok : s.copied g = .ok c)
    (grown : Remembers s t) (there : t.groups.get? g.id = some { g with remap := c.remap }) :
    ∀ e ∈ c.made, t.Typed planes e.id (e.isA .workplane) := by
  intro e member
  unfold Sketch.copied at ok
  split at ok
  · obtain ⟨sources, read, run⟩ := copiesRun ok
    have makes : Copying.Makes g.id (fun _ _ => True) g.remap (Copying.plan (s.redrawn g) g sources) (fun _ _ => True)
        (Copying.all (s.redrawn g) g sources) := Copying.makesAll (fun _ _ _ _ => trivial) fun _ _ _ _ _ _ => trivial
    obtain ⟨_, _, made, all, filed⟩ := makes _ _ _ (.refl _) run
    rw [← Array.mem_toList_iff, all] at member
    obtain ⟨planned, listed, filed⟩ := (partners filed).2 e member
    obtain ⟨slot, given, named⟩ := filed.named
    have origin : e.id.origin = .derived g.id := congrArg EntityId.origin named
    have index : slot = e.id.index := (congrArg EntityId.index named).symm
    subst index
    rcases Copying.planFollows listed with ⟨source, inside, whole, classes⟩ | ⟨path, cls, flat, listed⟩
    · have before := h.redrawn intact (sourceThere (redrawnConsistent intact.entities g) read source inside)
      have plane : e.isA .workplane = source.isA .workplane :=
        EntityKind.planeOfClasses fun cls member => filed.classes cls (classes ▸ member)
      exact plane ▸ .whole origin there given whole (before.later grown fun _ _ => rfl)
    · have plane : e.isA .workplane = false := EntityKind.noPlane flat (filed.classes cls listed)
      exact plane ▸ .path origin there given path
  · cases ok
    simp at member

theorem generateGroupSorted (h : s.Sorted planes) (intact : s.Intact) {id : GroupId}
    (ok : generateGroup id s = (.ok (), t)) : t.Sorted planes := by
  obtain ⟨g, c, found, rfl, made, rfl⟩ := generateGroupOk intact.groups ok
  have fits := copiedFits intact.entities made
  have new := regrownSpec intact.params fits
  have groups := regrownGroup intact.groups found fits new
  have grown : Remembers s (s.regrown g c) := by
    refine ⟨new.nextRequest.ge, fun k g' there => ?_⟩
    rw [groups]
    split
    · rename_i same
      obtain rfl := Option.some.inj (found.symm.trans (same ▸ there))
      exact ⟨_, rfl, fits.slots⟩
    · exact ⟨g', there, .refl _⟩
  refine ⟨fun id e there => ?_, fun r q w there lies => ?_⟩
  · rw [new.entities, content, List.foldl_append] at there
    have drawn : (s.redrawn g).entities.Consistent := redrawnConsistent intact.entities g
    rw [redrawnRecords] at drawn
    rcases drawn.foundAddAll there with ⟨copy, keyed⟩ | kept
    · rw [← show e.id = id from keyed]
      exact h.copied intact made grown ((groups g.id).trans (if_pos rfl)) e (Array.mem_toList_iff.mp copy)
    · refine (h.redrawn intact (g := g) ?_).later grown fun _ _ => rfl
      rw [redrawnRecords]
      exact kept
  · rw [new.requests] at there
    exact (h.within r q w there lies).later grown fun _ _ => rfl

omit [Scalar α] in
theorem withGroupSorted (h : s.Sorted planes) (intact : s.Intact) (name : String) (kind : GroupKind α)
    (source : Option GroupId) : (s.withGroup name kind source).Sorted planes := by
  refine h.fewer ⟨Nat.le_refl _, fun k g found => ⟨g, ?_, .refl _⟩⟩ (fun id e found => ⟨e, found, rfl⟩)
    fun r q found => ⟨q, found, rfl⟩
  unfold withGroup
  rw [intact.groups.getAdd, if_neg]
  · exact found
  · rintro rfl
    exact Nat.lt_irrefl _ (intact.groupNumbers _ g found)

omit [Scalar α] in
theorem Sorted.record (h : s.Sorted planes) (intact : s.Intact) (id : GroupId) {f : Group α → Group α}
    (keeps : ∀ g, g.id = id → (f g).id = id) (slots : ∀ g, s.groups.get? id = some g → (f g).remap = g.remap) :
    (s.modifyGroup id f).Sorted planes :=
  h.fewer ((steadyRecord intact.toConsistent id keeps slots).remembers (Nat.le_refl _))
    (fun _ e found => ⟨e, found, rfl⟩) fun _ q found => ⟨q, found, rfl⟩

theorem solveGroupSorted (h : s.Sorted planes) (intact : s.Intact) (group : GroupId) (config : SolverConfig α)
    (clock : Nat → Nat) : (s.solveGroup group config clock).2.Sorted planes := by
  cases found : s.groups.get? group with
  | none => exact (solveGroupMissing found).symm ▸ h
  | some g =>
    obtain ⟨u, outcome, steps, result⟩ := solveGroupSteps intact.toConsistent found config clock
    rw [result]
    exact (steps.sorted h intact).record (steps.intact intact) group (fun _ same => same) fun _ _ => rfl

end Steps

structure Classed (s : Sketch α) : Prop extends s.Furnished where
  sorted : ∃ planes, s.Sorted planes

end Sketch

namespace Session
open Sketch (Classed)
variable [Scalar α] {s : Session α}

theorem classedLasting : Lasting (α := α) (fun _ => True) Classed where
  start := ⟨Sketch.startFurnished, fun _ => false, Sketch.startSorted⟩
  changes steps h := by
    induction steps with
    | refl => exact h
    | tail _ step ih =>
      obtain ⟨planes, sorted⟩ := ih.sorted
      exact ⟨Sketch.Changes.furnished (.single step) ih.toFurnished, step.sorted sorted ih.toIntact⟩
  added {s t name kind source id} h ok := by
    obtain ⟨planes, sorted⟩ := h.sorted
    obtain ⟨_, made⟩ := Sketch.addGroupOk ok
    have entered := Sketch.withGroupFurnished h.toFurnished name kind source
    have sorted := Sketch.withGroupSorted sorted h.toIntact name kind source
    exact ⟨Sketch.generateGroupFurnished entered made, planes, Sketch.generateGroupSorted sorted entered.toIntact made⟩
  changed {s group g list} h may found := by
    obtain ⟨planes, sorted⟩ := h.sorted
    have named := GroupChange.allKeep (f := Group.id) (fun _ c => by cases c <;> rfl) list g
    have kept := GroupChange.allKeep (f := Group.remap) (fun _ c => by cases c <;> rfl) list g
    refine ⟨furnishedLasting.changed h.toFurnished may found, planes, sorted.record h.toIntact group ?_ ?_⟩
    · exact fun _ _ => named.trans (h.groups.keyOfGet found)
    · intro g' there
      cases found.symm.trans there
      exact kept
  solved group config clock h := by
    obtain ⟨planes, sorted⟩ := h.sorted
    exact ⟨Sketch.solveGroupFurnished h.toFurnished group config clock, planes,
      Sketch.solveGroupSorted sorted h.toIntact group config clock⟩
  rebuilt {config clock s t id} h step := by
    obtain ⟨planes, sorted⟩ := h.sorted
    refine ⟨Sketch.rebuiltFurnished h.toFurnished step, planes, ?_⟩
    obtain ⟨u, loops, shell, running, failures, made, rfl⟩ := step
    have made' := Sketch.generateGroupIntact h.toIntact made
    have solved := Sketch.solveGroupSorted (Sketch.generateGroupSorted sorted h.toIntact made) made' id config.solver clock
    exact solved.record (Regen.solveGroupIntact made' id config.solver clock) id (fun _ same => same) fun _ _ => rfl

theorem reachedClassed {config : EngineConfig α} (h : Reached config s) : s.Throughout Classed := by
  induction h with
  | start => exact ⟨classedLasting.start, fun _ member => nomatch member⟩
  | step _ ok ih => exact performLasting classedLasting ih trivial ok

theorem liesInPlane {config : EngineConfig α} (h : Reached config s) {e e' : Entity α} {id w : EntityId}
    (found : s.sketch.entities.get? id = some e) (lies : e.workplane = some w)
    (there : s.sketch.entities.get? w = some e') : e'.isA .workplane = true := by
  obtain ⟨planes, sorted⟩ := (reachedClassed h).1.sorted
  exact sorted.plane (reachedClassed h).1.toIntact found lies there

end Session
end Drafting
