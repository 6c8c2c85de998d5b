import Drafting.Proofs.Endings
/-! Edits that fail. What is checked before the first change leaves nothing to undo, and what can still fail
after it is undone or cannot fail: a request that may be drawn can be placed, and a constraint that cannot be
evaluated is taken back with its parameters. -/
namespace Drafting

def Group.Marked (g g' : Group α) : Prop := g' = g ∨ g' = { g with clean := false }

def RequestKind.pointCount : RequestKind → Nat
  | datumPoint | workplane | circle => 1
  | line => 2
  | arc => 3
  | cubic => 4

namespace Edit
open Attempt
variable {R : Sketch α → Sketch α → Prop} {s : Sketch α}

/-- An edit that fails on a sketch leaves one that stands in a relation to it. -/
def FailsTo (R : Sketch α → Sketch α → Prop) (e : Edit α ε τ) (s : Sketch α) : Prop :=
  ∀ cause t, e s = (.error cause, t) → R s t

abbrev Spares (e : Edit α ε τ) (s : Sketch α) : Prop := FailsTo Eq e s

def Succeeds (e : Edit α ε τ) (s : Sketch α) : Prop := ∃ x t, e s = (.ok x, t)

theorem Succeeds.failsTo {e : Edit α ε τ} (h : Succeeds e s) : FailsTo R e s := by
  obtain ⟨x, u, ok⟩ := h
  intro cause t failed
  cases ok.symm.trans failed

theorem Spares.failsTo {e : Edit α ε τ} (h : Spares e s) (stays : R s s) : FailsTo R e s := by
  intro cause t failed
  exact h cause t failed ▸ stays

theorem succeedsPure (x : τ) : Succeeds (pure x : Edit α ε τ) s := ⟨x, s, rfl⟩

theorem succeedsModify (f : Sketch α → Sketch α) : Succeeds (modify f : Edit α ε Unit) s := ⟨(), f s, rfl⟩

theorem succeedsBind {e : Edit α ε σ} {k : σ → Edit α ε τ} {x : σ} {t : Sketch α} (first : e s = (.ok x, t))
    (next : Succeeds (k x) t) : Succeeds (e >>= k) s := by
  obtain ⟨y, u, ok⟩ := next
  exact ⟨y, u, bindOk.mpr ⟨x, t, first, ok⟩⟩

theorem succeedsModifyBind {f : Sketch α → Sketch α} {k : Unit → Edit α ε τ} (next : Succeeds (k ()) (f s)) :
    Succeeds (modify f >>= k) s := succeedsBind (runModify f) next

theorem succeedsGetBind {k : Sketch α → Edit α ε τ} (next : Succeeds (k s) s) : Succeeds (get >>= k) s :=
  succeedsBind runGet next

theorem failsThrow (cause : ε) (stays : R s s) : FailsTo R (throw cause : Edit α ε τ) s := by
  intro e t failed
  cases failed
  exact stays

theorem failsBind {e : Edit α ε σ} {k : σ → Edit α ε τ} (first : FailsTo R e s)
    (next : ∀ x t, e s = (.ok x, t) → ∀ cause u, k x t = (.error cause, u) → R s u) : FailsTo R (e >>= k) s := by
  intro cause t failed
  rcases bindError.mp failed with early | ⟨x, u, ok, late⟩
  · exact first cause t early
  · exact next x u ok cause t late

theorem failsThen {e : Edit α ε σ} {k : σ → Edit α ε τ} (first : FailsTo R e s)
    (next : ∀ x t, e s = (.ok x, t) → Succeeds (k x) t) : FailsTo R (e >>= k) s := by
  refine failsBind first fun x t ok cause u late => ?_
  obtain ⟨y, v, fine⟩ := next x t ok
  cases fine.symm.trans late

theorem failsRead [Raises ε ε'] {f : Sketch α → Except ε τ} (stays : R s s) : FailsTo R (read f : Edit α ε' τ) s := by
  intro cause t failed
  rw [runRead] at failed
  cases result : f s with
  | error e =>
    rw [result] at failed
    cases failed
    exact stays
  | ok x =>
    rw [result] at failed
    cases failed

theorem failsReadBind [Raises ε ε'] {f : Sketch α → Except ε σ} {k : σ → Edit α ε' τ} (stays : R s s)
    (next : ∀ x, f s = .ok x → FailsTo R (k x) s) : FailsTo R (read f >>= k) s := by
  refine failsBind (failsRead stays) fun x t ok => ?_
  obtain ⟨read, rfl⟩ := readOk.mp ok
  exact next x read

theorem failsFoundBind {cause : ε} {o : Option σ} {k : σ → Edit α ε τ} (stays : R s s)
    (next : ∀ x, o = some x → FailsTo R (k x) s) : FailsTo R (found cause o >>= k) s := by
  cases o with
  | none => exact failsThrow cause stays
  | some x => exact next x rfl

abbrev Looks (e : Edit α ε τ) : Prop := Gradual (fun _ _ => False) e

theorem sparesLookBind {e : Edit α ε σ} {k : σ → Edit α ε τ} (looks : Looks e) (next : ∀ x, Spares (k x) s) :
    Spares (e >>= k) s := by
  have same {t : Sketch α} (steps : Relation.ReflTransGen (fun _ _ => False) s t) : s = t := by
    cases steps with
    | refl => rfl
    | tail _ step => exact step.elim
  have still := same (looks s)
  refine failsBind (fun cause t failed => ?_) fun x t ok cause u late => ?_
  · rw [failed] at still
    exact still
  · rw [ok] at still
    subst still
    exact next x cause u late

theorem lowerOk [Raises ε ε'] {e : Edit α ε τ} {x : τ} {t : Sketch α} (ok : (lower e : Edit α ε' τ) s = (.ok x, t)) :
    e s = (.ok x, t) := by
  rw [lower] at ok
  rcases run : e s with ⟨c | y, u⟩
  · rw [run] at ok
    cases ok
  · rw [run] at ok
    cases ok
    rfl

theorem failsLower [Raises ε ε'] {e : Edit α ε τ} (h : FailsTo R e s) : FailsTo R (lower e : Edit α ε' τ) s := by
  intro cause t failed
  rw [lower] at failed
  rcases run : e s with ⟨c | x, u⟩
  · rw [run] at failed
    cases failed
    exact h c _ run
  · rw [run] at failed
    cases failed

theorem sparesUndone (e : Edit α ε τ) : Spares e.orUndo s := by
  intro cause t failed
  rw [orUndo] at failed
  rcases run : e s with ⟨c | x, u⟩
  · rw [run] at failed
    cases failed
    rfl
  · rw [run] at failed
    cases failed

end Edit

namespace Sketch
open Attempt Edit

/-- The same records, except that groups may have been marked to be made anew. A number for a constraint may
have been used up. -/
structure Unharmed (s t : Sketch α) : Prop where
  version : t.version = s.version
  groups : List.Forall₂ Group.Marked s.groups.toList t.groups.toList
  groupPlaces : ∀ k, t.groups.position? k = s.groups.position? k
  requests : s.requests.Same t.requests
  constraints : s.constraints.Same t.constraints
  entities : s.entities.Same t.entities
  params : s.params.Same t.params
  nextGroup : t.nextGroup = s.nextGroup
  nextRequest : t.nextRequest = s.nextRequest
  nextConstraint : s.nextConstraint ≤ t.nextConstraint

theorem Unharmed.refl (s : Sketch α) : Unharmed s s where
  version := rfl
  groups := List.forall₂_same.mpr fun _ _ => .inl rfl
  groupPlaces _ := rfl
  requests := .refl _
  constraints := .refl _
  entities := .refl _
  params := .refl _
  nextGroup := rfl
  nextRequest := rfl
  nextConstraint := Nat.le_refl _

theorem unharmedDirty {s t : Sketch α} (h : s.groups.Consistent) (kept : Unharmed s t) (same : t.groups = s.groups)
    (id : GroupId) : Unharmed s (t.markDirty id) := by
  have list : (t.markDirty id).groups.toList = s.groups.toList.map fun g => if g.id = id then { g with clean := false } else g := by
    change (t.groups.modify id _).toList = _
    rw [same]
    exact h.toListModify id _
  refine { kept with groups := ?_, groupPlaces := fun k => ?_ }
  · rw [list, List.forall₂_map_right_iff]
    refine List.forall₂_same.mpr fun g _ => ?_
    split
    · exact .inr rfl
    · exact .inl rfl
  · change (t.groups.modify id _).index[k]? = s.groups.index[k]?
    rw [Registry.indexModify, same]

section Values
variable {s : Sketch α}

theorem setParamSpares (p : ParamId) (x : α) : Spares (setParam p x) s := by
  unfold setParam
  intro cause t failed
  rw [getBind] at failed
  exact failsFoundBind rfl (fun r _ => (succeedsModify _).failsTo) cause t failed

theorem setParamSucceeds (h : s.params.Consistent) {p : ParamId} (there : ∃ r, s.params.get? p = some r) (x : α) :
    ∃ t, setParam p x s = (.ok (), t) ∧ t.params.Consistent ∧
      ∀ q, (∃ r, s.params.get? q = some r) → ∃ r, t.params.get? q = some r := by
  obtain ⟨r, found⟩ := there
  have keeps : ∀ y : Param α, y.id = p → ({ y with value := x } : Param α).id = p := fun _ same => same
  refine ⟨Sketch.markDirty { s with params := s.params.modify p ({ · with value := x }) } r.group, ?_,
    h.modify p keeps, fun q there => ?_⟩
  · rw [setParam, getBind, found]
    rfl
  · exact (h.presentModify p keeps q).mpr there

theorem setAllSucceeds (h : s.params.Consistent) (values : List (ParamId × α))
    (there : ∀ v ∈ values, ∃ r, s.params.get? v.1 = some r) : Succeeds (values.forM fun v => setParam v.1 v.2) s := by
  induction values generalizing s with
  | nil => exact succeedsPure ()
  | cons v rest ih =>
    rw [List.forM_eq_forM, List.forM_cons]
    obtain ⟨t, first, consistent, still⟩ := setParamSucceeds h (there v List.mem_cons_self) v.2
    refine succeedsBind first (ih consistent fun u member => ?_)
    exact still u.1 (there u (List.mem_cons_of_mem _ member))

theorem setSpaceSucceeds (h : s.params.Consistent) {p : Vec3 ParamId} (place : Vec3 α)
    (there : ∀ n ∈ p.toList, ∃ r, s.params.get? n = some r) : Succeeds (do
      setParam p.x place.x
      setParam p.y place.y
      setParam p.z place.z) s := by
  have all := setAllSucceeds h [(p.x, place.x), (p.y, place.y), (p.z, place.z)]
    (by simpa [Vec3.toList] using there)
  simpa only [List.forM_eq_forM, List.forM_cons, List.forM_nil, bind_pure_unit] using all

theorem setPlanarSucceeds (h : s.params.Consistent) {p : Vec2 ParamId} (place : Vec2 α)
    (there : ∀ n ∈ [p.x, p.y], ∃ r, s.params.get? n = some r) : Succeeds (do
      setParam p.x place.x
      setParam p.y place.y) s := by
  have all := setAllSucceeds h [(p.x, place.x), (p.y, place.y)] (by simpa using there)
  simpa only [List.forM_eq_forM, List.forM_cons, List.forM_nil, bind_pure_unit] using all

theorem setNormalSucceeds (h : s.params.Consistent) {p : Quat ParamId} (q : Quat α)
    (there : ∀ n ∈ [p.w, p.x, p.y, p.z], ∃ r, s.params.get? n = some r) : Succeeds (do
      setParam p.w q.w
      setParam p.x q.x
      setParam p.y q.y
      setParam p.z q.z) s := by
  have all := setAllSucceeds h [(p.w, q.w), (p.x, q.x), (p.y, q.y), (p.z, q.z)] (by simpa using there)
  simpa only [List.forM_eq_forM, List.forM_cons, List.forM_nil, bind_pure_unit] using all

theorem ownThere (h : s.Intact) {id : EntityId} {e : Entity α} (found : s.entities.get? id = some e) {p : ParamId}
    (own : p ∈ e.kind.ownParams) : ∃ r, s.params.get? p = some r := by
  rcases h.origin found with ⟨q, there, part⟩ | ⟨g, _, made⟩
  · exact h.expanded q.id q there e part p own
  · rw [made.own] at own
    cases own

theorem forceDistanceSpares (id : EntityId) (x : α) : Spares (forceDistance id x) s := by
  refine failsReadBind rfl fun e _ => ?_
  cases e.kind with
  | distance p => exact setParamSpares p x
  | _ => exact failsThrow _ rfl

variable [Scalar α]

theorem forcePointSpares (h : s.Intact) (id : EntityId) (place : Vec3 α) : Spares (forcePoint id place) s := by
  refine failsReadBind rfl fun e found => ?_
  have own (p : ParamId) (member : p ∈ e.kind.ownParams) := ownThere h (entityFound.mp found) member
  generalize e.kind = kind at own ⊢
  cases kind with
  | pointIn3d p => exact (setSpaceSucceeds h.params place own).failsTo
  | pointIn2d p =>
    refine failsFoundBind rfl fun w _ => failsReadBind rfl fun frame _ => ?_
    exact (setPlanarSucceeds h.params _ own).failsTo
  | _ => exact failsThrow _ rfl

theorem forceNormalSpares (h : s.Intact) (id : EntityId) (q : Quat α) : Spares (forceNormal id q) s := by
  refine failsReadBind rfl fun e found => ?_
  have own (p : ParamId) (member : p ∈ e.kind.ownParams) := ownThere h (entityFound.mp found) member
  generalize e.kind = kind at own ⊢
  cases kind with
  | normalIn3d p => exact (setNormalSucceeds h.params _ own).failsTo
  | _ => exact failsThrow _ rfl

end Values

section Drawing
variable [Scalar α] {s t : Sketch α} {q : Request}

/-- A request is there and so is the workplane that it is drawn in. -/
structure Drawable (q : Request) (s : Sketch α) : Prop where
  furnished : s.Furnished
  there : s.requests.get? q.id = some q
  plane : ∀ w, q.workplane = some w → ∃ e, s.entities.get? w = some e ∧ e.isA .workplane = true

theorem Drawable.adjusted (h : Drawable q s) (steps : Adjustments s t) : Drawable q t where
  furnished := steps.changes.furnished h.furnished
  there := steps.requests ▸ h.there
  plane := steps.entities ▸ h.plane

theorem Drawable.placed (h : Drawable q s) {e : Entity α} (part : e ∈ q.entities) (point : e.isA .point = true)
    (place : Vec3 α) : ∃ t, forcePoint e.id place s = (.ok (), t) ∧ Drawable q t := by
  have intact := h.furnished.toIntact
  have found := intact.present q.id q h.there e part
  have own (p : ParamId) (member : p ∈ e.kind.ownParams) := ownThere intact found member
  have adjusted := forcePointGradual (R := Adjustment) e.id place s
  suffices Succeeds (forcePoint e.id place) s by
    obtain ⟨⟨⟩, t, ok⟩ := this
    rw [ok] at adjusted
    exact ⟨t, ok, h.adjusted adjusted⟩
  refine succeedsBind (readOk.mpr ⟨entityFound.mpr found, rfl⟩) ?_
  rcases q.pointDrawn e part point with ⟨_, p, kind⟩ | ⟨w, p, lies, kind⟩
  · rw [kind] at own ⊢
    exact setSpaceSucceeds intact.params place own
  · rw [kind] at own ⊢
    obtain ⟨plane, stands, isPlane⟩ := h.plane w lies
    obtain ⟨x, placed⟩ := planeThere intact h.furnished.grounded stands isPlane
    have frame : s.frame w = .ok ⟨x.origin.eval s.valueOf, (x.orientation.eval s.valueOf).normalize⟩ := by
      rw [Sketch.frame, placed]
      rfl
    rw [(Request.drawn part).workplane, lies]
    refine succeedsBind (t := s) rfl (succeedsBind (readOk.mpr ⟨frame, rfl⟩) ?_)
    exact setPlanarSucceeds intact.params _ own

omit [Scalar α] in
theorem Request.pointThere (q : Request) : ∀ i < q.kind.pointCount, ∃ e ∈ q.entities (α := α), e.id = q.point i ∧
    e.isA .point = true := by
  intro i few
  have part (count : Nat) (less : i < count) : ∃ e ∈ q.pointParts (α := α) count, e.id = q.point i ∧
      e.isA .point = true := by
    refine ⟨_, List.mem_map.mpr ⟨i, List.mem_range.mpr less, rfl⟩, rfl, ?_⟩
    unfold Request.part
    split <;> rfl
  unfold Request.entities
  generalize q.kind = kind at few ⊢
  cases kind with
  | datumPoint => exact part 1 few
  | _ =>
    obtain ⟨e, member, rest⟩ := part _ few
    exact ⟨e, List.mem_append_left _ member, rest⟩

theorem Drawable.allPlaced (h : Drawable q s) (places : List (Vec3 α × Nat)) (few : ∀ x ∈ places, x.2 < q.kind.pointCount) :
    ∃ t, (places.forM fun (p, i) => forcePoint (q.point i) p) s = (.ok (), t) ∧ Drawable q t := by
  induction places generalizing s with
  | nil => exact ⟨s, rfl, h⟩
  | cons x rest ih =>
    obtain ⟨e, part, named, point⟩ := Request.pointThere q x.2 (few x List.mem_cons_self)
    obtain ⟨u, first, drawable⟩ := h.placed part point x.1
    obtain ⟨t, others, done⟩ := ih drawable fun y member => few y (List.mem_cons_of_mem _ member)
    rw [named] at first
    refine ⟨t, ?_, done⟩
    rw [List.forM_eq_forM, List.forM_cons]
    exact bindOk.mpr ⟨(), u, first, others⟩

theorem drawableAdded (h : s.Furnished) {group : GroupId} {kind : RequestKind} {workplane : Option EntityId}
    (allowed : s.checkRequest group kind workplane = .ok ()) (construction : Bool) :
    ∃ t, addRequest group kind workplane construction s = (.ok ⟨s.nextRequest⟩, t) ∧
      Drawable ⟨⟨s.nextRequest⟩, group, workplane, kind, construction⟩ t := by
  let q : Request := ⟨⟨s.nextRequest⟩, group, workplane, kind, construction⟩
  have run := addRequestRun allowed construction
  refine ⟨_, run, ?_, ?_, ?_⟩
  · exact Changes.furnished (.single (.drawn (r := q) rfl allowed)) h
  · change (({ s with nextRequest := s.nextRequest + 1 }.enterRequest (fun _ => none) q).requests.add q).get? q.id = _
    rw [enterRequestRecords]
    exact h.requests.getAddSelf q
  · intro w lies
    obtain ⟨e, stands, plane⟩ := checkRequestPlane allowed lies
    refine ⟨e, ?_, plane⟩
    change ({ s with nextRequest := s.nextRequest + 1 }.enterRequest (fun _ => none) q).entities.get? w = _
    rw [enterRequestRecords]
    refine (h.entities.getAddAllOther fun member => ?_).trans stands
    -- The request is new, so nothing of it was there before.
    obtain ⟨part, drawn, same⟩ := List.mem_map.mp member
    have origin := (Request.drawn drawn).origin
    rw [show part.id = w from same] at origin
    obtain ⟨q', there, _⟩ := h.drawn w e q.id stands origin
    cases h.absent.symm.trans there

theorem shapeDrawn (h : s.Furnished) {group : GroupId} {kind : RequestKind} {workplane : Option EntityId}
    (allowed : s.checkRequest group kind workplane = .ok ()) (places : List (Vec3 α)) (few : places.length ≤ kind.pointCount) :
    ∃ t, addShape group kind workplane places s = (.ok ⟨⟨s.nextRequest⟩, group, workplane, kind, false⟩, t) ∧
      Drawable ⟨⟨s.nextRequest⟩, group, workplane, kind, false⟩ t := by
  obtain ⟨u, drawn, drawable⟩ := drawableAdded h allowed false
  obtain ⟨t, placed, done⟩ := drawable.allPlaced places.zipIdx fun x member =>
    Nat.lt_of_lt_of_le (by simpa using (List.mem_zipIdx member).2.1) few
  exact ⟨t, bindOk.mpr ⟨_, u, drawn, bindOk.mpr ⟨(), t, placed, rfl⟩⟩, done⟩

theorem shapeSpares (h : s.Furnished) {group : GroupId} {kind : RequestKind} {workplane : Option EntityId}
    {places : List (Vec3 α)} (few : places.length ≤ kind.pointCount) {k : Request → Edit α SketchError τ}
    (next : ∀ q t, q.kind = kind → q.workplane = workplane → Drawable q t → Succeeds (k q) t) :
    Spares (addShape group kind workplane places >>= k) s := by
  cases allowed : s.checkRequest group kind workplane with
  | error e =>
    have refused : addRequest group kind workplane false s = (.error e, s) := by
      rw [addRequest, runBind, runRead, allowed]
      rfl
    intro cause t failed
    rw [runBind, addShape, runBind, refused] at failed
    cases failed
    rfl
  | ok _ =>
    obtain ⟨t, drawn, drawable⟩ := shapeDrawn h allowed places few
    exact (succeedsBind drawn (next _ t rfl rfl drawable)).failsTo

theorem addPointSpares (h : s.Furnished) (group : GroupId) (workplane : Option EntityId) (place : Vec3 α) :
    Spares (addPoint group workplane place) s :=
  shapeSpares h (Nat.le_refl _) fun _ _ _ _ _ => succeedsPure _

theorem addLineSpares (h : s.Furnished) (group : GroupId) (workplane : Option EntityId) (a b : Vec3 α) :
    Spares (addLine group workplane a b) s :=
  shapeSpares h (Nat.le_refl _) fun _ _ _ _ _ => succeedsPure _

theorem addArcSpares (h : s.Furnished) (group : GroupId) (workplane : Option EntityId) (center start finish : Vec3 α) :
    Spares (addArc group workplane center start finish) s :=
  shapeSpares h (Nat.le_refl _) fun _ _ _ _ _ => succeedsPure _

theorem addCubicSpares (h : s.Furnished) (group : GroupId) (workplane : Option EntityId) (p0 p1 p2 p3 : Vec3 α) :
    Spares (addCubic group workplane p0 p1 p2 p3) s :=
  shapeSpares h (Nat.le_refl _) fun _ _ _ _ _ => succeedsPure _

theorem addCircleSpares (h : s.Furnished) (group : GroupId) (workplane : Option EntityId) (center : Vec3 α)
    (radius : α) : Spares (addCircle group workplane center radius) s := by
  refine shapeSpares h (Nat.le_refl _) fun q t kind _ drawable => ?_
  have intact := drawable.furnished.toIntact
  obtain ⟨e, part, named, p, size⟩ : ∃ e ∈ q.entities (α := α), e.id = q.distance ∧ ∃ p, e.kind = .distance p := by
    let radius := q.coordinates + if q.workplane.isSome then 0 else 4
    refine ⟨q.part q.distance (.distance (q.param radius)), ?_, rfl, q.param radius, rfl⟩
    simp [Request.entities, kind, radius]
  have found := intact.present q.id q drawable.there e part
  have own := ownThere intact found (p := p) (by simp [size, EntityKind.ownParams])
  rw [named] at found
  obtain ⟨u, set, _⟩ := setParamSucceeds intact.params own radius
  have forced : forceDistance q.distance radius t = (.ok (), u) := by
    refine bindOk.mpr ⟨e, t, readOk.mpr ⟨entityFound.mpr found, rfl⟩, ?_⟩
    rw [size]
    exact set
  exact succeedsBind forced (succeedsPure _)

theorem addWorkplaneSpares (h : s.Furnished) (group : GroupId) (origin : Vec3 α) (orientation : Quat α) :
    Spares (addWorkplane group origin orientation) s := by
  refine shapeSpares h (Nat.le_refl _) fun q t kind space drawable => ?_
  have intact := drawable.furnished.toIntact
  obtain ⟨e, part, named, p, turned⟩ : ∃ e ∈ q.entities (α := α), e.id = q.normal ∧ ∃ p, e.kind = .normalIn3d p := by
    refine ⟨q.normalPart q.coordinates, by simp [Request.entities, kind], rfl, ?_⟩
    simp [Request.normalPart, Request.part, space]
  have found := intact.present q.id q drawable.there e part
  have own (n : ParamId) (member : n ∈ e.kind.ownParams) := ownThere intact found member
  rw [named] at found
  rw [turned] at own
  obtain ⟨⟨⟩, u, set⟩ := setNormalSucceeds intact.params orientation.normalize own
  have forced : forceNormal q.normal orientation t = (.ok (), u) := by
    refine bindOk.mpr ⟨e, t, readOk.mpr ⟨entityFound.mpr found, rfl⟩, ?_⟩
    rw [turned]
    exact set
  exact succeedsBind forced (succeedsPure _)

end Drawing

section Records
variable {s : Sketch α}

theorem setConstructionSpares (id : RequestId) (construction : Bool) : Spares (setConstruction id construction) s :=
  failsReadBind rfl fun _ _ => (succeedsModify _).failsTo

theorem deleteConstraintSpares (id : ConstraintId) : Spares (deleteConstraint id) s :=
  failsReadBind rfl fun _ _ => (succeedsModify _).failsTo

theorem setConstraintValueSpares (id : ConstraintId) (value : α) : Spares (setConstraintValue id value) s :=
  failsReadBind rfl fun _ _ => Succeeds.failsTo ⟨_, _, rfl⟩

theorem deleteEachSucceeds (h : s.constraints.Consistent) {cs : List (Constraint α)} (distinct : (cs.map Constraint.id).Nodup)
    (there : ∀ c ∈ cs, s.constraints.get? c.id = some c) :
    ∃ t, (cs.forM fun c => deleteConstraint c.id) s = (.ok (), t) := by
  induction cs generalizing s with
  | nil => exact ⟨s, rfl⟩
  | cons c rest ih =>
    obtain ⟨fresh, distinct⟩ := List.nodup_cons.mp distinct
    let u : Sketch α := Sketch.markDirty { s with
      constraints := s.constraints.remove c.id
      params := s.params.filter (·.id.owner != ParamOwner.constraint c.id) } c.group
    have first : deleteConstraint c.id s = (.ok (), u) :=
      bindOk.mpr ⟨c, s, readOk.mpr ⟨constraintFound.mpr (there c List.mem_cons_self), rfl⟩, rfl⟩
    obtain ⟨t, others⟩ := ih (s := u) (h.remove c.id) distinct fun k member => by
      refine (h.getRemove c.id k.id).trans ((if_neg fun same => ?_).trans (there k (List.mem_cons_of_mem _ member)))
      exact fresh (same ▸ List.mem_map_of_mem member)
    refine ⟨t, ?_⟩
    rw [List.forM_eq_forM, List.forM_cons]
    exact bindOk.mpr ⟨(), u, first, others⟩

variable [Scalar α]

theorem addRequestSpares (group : GroupId) (kind : RequestKind) (workplane : Option EntityId) (construction : Bool) :
    Spares (addRequest group kind workplane construction) s :=
  failsReadBind rfl fun _ _ => Succeeds.failsTo ⟨_, _, rfl⟩

theorem deleteRequestSpares (h : s.Consistent) (id : RequestId) : Spares (deleteRequest id) s := by
  refine failsReadBind rfl fun r _ => Succeeds.failsTo ?_
  refine succeedsModifyBind ?_
  have freed := detachPointsGradual (R := Adjustment)
    ((s.entities.toList.filter fun e => e.id.request? == some id && e.isA .point).map Entity.id) s
  generalize List.foldl _ _ _ = u at freed ⊢
  have constraints : u.constraints.Consistent := (Adjustments.consistent freed h).constraints
  obtain ⟨t, done⟩ := deleteEachSucceeds constraints ((List.filter_sublist.map _).nodup constraints.keysNodup)
    fun c member => constraints.getOfMem (List.mem_filter.mp member).1
  exact succeedsGetBind (succeedsBind done (succeedsModify _))

theorem remeasureSpares (id : ConstraintId) : Spares (remeasure id) s :=
  failsReadBind rfl fun _ _ => failsReadBind rfl fun _ _ => (succeedsModify _).failsTo

theorem improveGuessSpares (id : ConstraintId) : Spares (improveGuess id) s := by
  refine failsReadBind rfl fun c _ => ?_
  cases c.helpers.head? with
  | none => exact (succeedsPure _).failsTo
  | some p =>
    refine failsReadBind rfl fun x _ => ?_
    cases x with
    | none => exact (succeedsPure _).failsTo
    | some x => exact failsLower (setParamSpares p x)

end Records

section TakenBack
variable [Scalar α] {s t : Sketch α}

theorem remeasureOk {id : ConstraintId} (ok : remeasure id s = (.ok (), t)) : ∃ (c : Constraint α) (kind : ConstraintKind α),
    s.constraints.get? id = some c ∧ t = { s with constraints := s.constraints.modify id ({ · with kind }) } := by
  obtain ⟨c, _, read, rest⟩ := bindOk.mp ok
  obtain ⟨kind, _, measured, changed⟩ := bindOk.mp rest
  obtain ⟨_, rfl⟩ := readOk.mp measured
  obtain ⟨found, rfl⟩ := readOk.mp read
  exact ⟨c, kind, constraintFound.mp found, modifyOk.mp changed⟩

theorem improveGuessOk {id : ConstraintId} (ok : improveGuess id s = (.ok (), t)) :
    (∃ c, s.constraints.get? id = some c) ∧ t.constraints = s.constraints := by
  obtain ⟨c, _, read, rest⟩ := bindOk.mp ok
  obtain ⟨found, rfl⟩ := readOk.mp read
  refine ⟨⟨c, constraintFound.mp found⟩, ?_⟩
  cases helper : c.helpers.head? with
  | none =>
    rw [helper] at rest
    cases rest
    rfl
  | some p =>
    rw [helper] at rest
    obtain ⟨x, _, guessed, rest⟩ := bindOk.mp rest
    obtain ⟨_, rfl⟩ := readOk.mp guessed
    cases x with
    | none =>
      cases rest
      rfl
    | some x =>
      have set := congrArg Prod.snd (lowerOk rest)
      change (setParam p x).attempt _ = t at set
      rw [← set, setParamAttempt]
      split <;> rfl

structure Added (s : Sketch α) (c : Constraint α) (v : Sketch α) : Prop where
  records : v = { s with
    nextConstraint := s.nextConstraint + 1
    params := c.helpers.foldl (fun ps p => ps.add ⟨p, c.group, 0.0⟩) s.params
    constraints := v.constraints }
  consistent : v.constraints.Consistent
  there : ∃ k, v.constraints.get? c.id = some k
  others : v.constraints.toList.filter (fun k => Keyed.key k != c.id) = s.constraints.toList

theorem Added.modified {c : Constraint α} {v : Sketch α} (new : Added s c v) (kind : ConstraintKind α) :
    Added s c { v with constraints := v.constraints.modify c.id ({ · with kind }) } := by
  obtain ⟨records, consistent, ⟨k, there⟩, others⟩ := new
  have keeps : ∀ y : Constraint α, y.id = c.id → ({ y with kind } : Constraint α).id = c.id := fun _ same => same
  refine ⟨by rw [records], consistent.modify c.id keeps, ⟨{ k with kind }, ?_⟩, ?_⟩
  · refine (consistent.getModify c.id keeps c.id).trans ?_
    rw [if_pos rfl, there]
    rfl
  · refine (consistent.modifyOther fun y found => ?_).trans others
    have named : y.id = c.id := consistent.keyOfGet found
    exact ⟨bne_eq_false_iff_eq.mpr named, bne_eq_false_iff_eq.mpr named⟩

theorem Added.deleted {c : Constraint α} {v : Sketch α} (h : s.Intact) (fresh : c.id = ⟨s.nextConstraint⟩)
    (new : Added s c v) : ∃ t, deleteConstraint c.id v = (.ok (), t) ∧ Unharmed s t := by
  obtain ⟨records, consistent, ⟨k, there⟩, others⟩ := new
  have entered := helpersEntered h.params c
  refine ⟨_, bindOk.mpr ⟨k, v, readOk.mpr ⟨constraintFound.mpr there, rfl⟩, rfl⟩, ?_⟩
  rw [records]
  change Unharmed s (Sketch.markDirty { s with
    nextConstraint := s.nextConstraint + 1
    constraints := v.constraints.remove c.id
    params := (c.helpers.foldl (fun ps p => ps.add ⟨p, c.group, 0.0⟩) s.params).filter
      (·.id.owner != ParamOwner.constraint c.id) } k.group)
  refine unharmedDirty h.groups ?_ ?_ _
  case refine_2 => rfl
  refine { Unharmed.refl s with constraints := ?_, params := ?_, nextConstraint := Nat.le_succ _ }
  · exact h.constraints.same (consistent.remove c.id) ((consistent.toListRemove c.id).trans others)
  · refine h.params.same (entered.consistent.filter _) ?_
    rw [Registry.toListFilter]
    obtain ⟨xs, ids, _, same⟩ := entered.listed
    have helper (x : Param α) (member : x ∈ xs) : x.id.owner = .constraint c.id :=
      helperOwner (ids ▸ List.mem_map_of_mem member)
    rw [same, h.params.addAllOther]
    · refine List.filter_eq_self.mpr fun x member => bne_iff_ne.mpr fun owner => ?_
      have owned := h.owned x.id x (h.params.getOfMem member)
      simp only [OwnedBy, owner] at owned
      obtain ⟨o, found, _⟩ := owned
      rw [fresh, h.fresh] at found
      cases found
    · exact fun x member => bne_eq_false_iff_eq.mpr (helper x member)
    · intro x member y found
      have keyed : y.id = x.id := h.params.keyOfGet found
      exact bne_eq_false_iff_eq.mpr (keyed ▸ helper x member)

theorem addedLast (h : s.Intact) {c : Constraint α} (fresh : c.id = ⟨s.nextConstraint⟩) : Added s c { s with
    nextConstraint := s.nextConstraint + 1
    params := c.helpers.foldl (fun ps p => ps.add ⟨p, c.group, 0.0⟩) s.params
    constraints := s.constraints.add c } := by
  have absent : s.constraints.get? c.id = none := fresh ▸ h.fresh
  exact ⟨rfl, h.constraints.add c, ⟨c, h.constraints.getAddSelf c⟩, h.constraints.listAddNew absent⟩

/- A constraint that cannot be measured or given a first guess is taken back with its parameters. -/
theorem addConstraintUnharmed (h : s.Intact) (group : GroupId) (workplane : Option EntityId) (kind : ConstraintKind α)
    (reference : Bool) : FailsTo Unharmed (addConstraint group workplane kind reference) s := by
  refine failsReadBind (.refl s) fun g found => failsReadBind (.refl s) fun _ _ => ?_
  intro cause t failed
  rw [getBind, runBind, runModify] at failed
  let c : Constraint α := ⟨⟨s.nextConstraint⟩, group, workplane, kind, reference⟩
  have new := addedLast h (c := c) rfl
  generalize ({ s with
    nextConstraint := s.nextConstraint + 1
    params := _
    constraints := _ } : Sketch α) = u at failed new
  rcases bindError.mp failed with taken | ⟨_, v, _, last⟩
  · rw [runTry] at taken
    generalize run : (if reference = true then _ else _ : Edit α ConstraintError Unit) u = result at taken
    rcases result with ⟨e | x, v⟩
    · -- Whatever has failed, the constraint is still there to be deleted.
      have still : Added s c v := by
        cases reference with
        | false => exact improveGuessSpares _ e v run ▸ new
        | true =>
          rcases bindError.mp run with early | ⟨_, w, measured, late⟩
          · exact remeasureSpares _ e v early ▸ new
          · obtain ⟨_, kind, _, rfl⟩ := remeasureOk measured
            exact improveGuessSpares _ e v late ▸ new.modified kind
      obtain ⟨w, gone, unharmed⟩ := still.deleted h rfl
      have lowered : (lower (deleteConstraint c.id) : Edit α ConstraintError Unit) v = (.ok (), w) := by
        rw [lower, gone]
      rcases bindError.mp taken with impossible | ⟨_, _, same, thrown⟩
      · cases lowered.symm.trans impossible
      · cases lowered.symm.trans same
        cases thrown
        exact unharmed
    · cases taken
  · obtain ⟨_, _, marked, rest⟩ := (bindError.mp last).resolve_left (by rintro ⟨⟩)
    cases rest

theorem referenceMeasured (h : s.Intact) {group : GroupId} {workplane : Option EntityId} {kind : ConstraintKind α}
    {id : ConstraintId} (ok : addConstraint group workplane kind true s = (.ok id, t)) :
    ∃ (u : Sketch α) (now : ConstraintKind α), u.entities = s.entities ∧
      u.measured ⟨⟨s.nextConstraint⟩, group, workplane, kind, true⟩ = .ok now := by
  obtain ⟨g, _, registered, checked⟩ := bindOk.mp ok
  obtain ⟨_, _, valid, entered⟩ := bindOk.mp checked
  obtain ⟨_, rfl⟩ := readOk.mp valid
  obtain ⟨_, rfl⟩ := readOk.mp registered
  rw [getBind, runBind, runModify] at entered
  obtain ⟨_, _, tried, _⟩ := bindOk.mp entered
  rcases tryOk tried with body | ⟨_, _, _, handled⟩
  · obtain ⟨_, _, remeasured, _⟩ := bindOk.mp body
    obtain ⟨k, _, read, rest⟩ := bindOk.mp remeasured
    obtain ⟨now, _, measured, _⟩ := bindOk.mp rest
    obtain ⟨ok, rfl⟩ := readOk.mp measured
    obtain ⟨found, rfl⟩ := readOk.mp read
    obtain rfl := Option.some.inj ((h.constraints.getAddSelf _).symm.trans (constraintFound.mp found))
    exact ⟨_, now, by rfl, ok⟩
  · obtain ⟨_, _, _, thrown⟩ := bindOk.mp handled
    cases thrown

theorem joinIfCoincidentUnharmed (h : s.Intact) (point : EntityId) : FailsTo Unharmed (joinIfCoincident point) s := by
  refine failsReadBind (.refl s) fun others _ => ?_
  cases others with
  | nil => exact (succeedsPure _).failsTo
  | cons other _ =>
    refine failsReadBind (.refl s) fun e _ => ?_
    have whole := addConstraintUnharmed h e.group e.workplane (.pointsCoincident point other) false
    intro cause t failed
    dsimp only at failed
    rcases run : addConstraint e.group e.workplane (.pointsCoincident point other) false s with ⟨cause' | x, u⟩
    · rw [run] at failed
      cases failed
      exact whole _ _ run
    · rw [run] at failed
      cases failed

end TakenBack

/-! Rounding and splitting, which are undone as a whole. -/

section Undone
variable [Scalar α] {s : Sketch α}

theorem roundCornerSpares (point : EntityId) (options : RoundingOptions α) : Spares (roundCorner point options) s := by
  refine failsReadBind rfl fun e _ => failsFoundBind rfl fun w _ => failsReadBind rfl fun place _ => ?_
  refine failsReadBind rfl fun corners _ => ?_
  split
  · refine failsReadBind rfl fun _ _ => failsReadBind rfl fun _ _ => failsReadBind rfl fun _ _ => ?_
    exact failsFoundBind rfl fun _ _ => sparesUndone _
  · exact failsThrow _ rfl

theorem splitSpares (selection : SplitSelection) (hint : Vec3 α) : Spares (split selection hint) s := by
  cases selection with
  | atPoint entity point =>
    exact sparesLookBind (requireWorkplaneGradual entity) fun _ => sparesLookBind (requireWorkplaneGradual point) fun _ =>
      sparesLookBind (placeOnGradual entity point) fun _ => sparesUndone _
  | pair a b =>
    exact sparesLookBind (requireWorkplaneGradual a) fun _ => sparesLookBind (requireWorkplaneGradual b) fun _ =>
      sparesLookBind (crossingGradual a b hint) fun _ => sparesUndone _

end Undone

end Sketch

namespace Session
open Attempt Edit Sketch
variable [Scalar α] {s t : Session α} {clock : Nat → Nat}

omit [Scalar α] in
theorem failedEdit {R : Sketch α → Sketch α → Prop} {cause : ε → SessionError α} {give : τ → Answer α}
    {e : Edit α ε τ} {error : SessionError α} (fails : FailsTo R e s.sketch)
    (failed : Work.edit cause give e s = (.error error, t)) : t = s.withSketch t.sketch ∧ R s.sketch t.sketch := by
  unfold Work.edit at failed
  rcases run : e s.sketch with ⟨c | x, u⟩
  · rw [run] at failed
    cases failed
    exact ⟨rfl, fails c u run⟩
  · rw [run] at failed
    cases failed

omit [Scalar α] in
theorem sparedEdit {cause : ε → SessionError α} {give : τ → Answer α} {e : Edit α ε τ} {error : SessionError α}
    (spares : Spares e s.sketch) (failed : Work.edit cause give e s = (.error error, t)) :
    t = s.withSketch t.sketch ∧ s.sketch.Unharmed t.sketch := failedEdit (spares.failsTo (.refl _)) failed

/- A command that fails to draw, constrain, delete or set something changes nothing, apart from marks on groups
and the number of the next constraint. -/
theorem failedEditUnharmed {config : EngineConfig α} {c : Command α} {error : SessionError α}
    (reached : Reached config s) (edit : c.IsEdit) (inGroup : ∀ name kind source, c ≠ .addGroup name kind source)
    (failed : perform clock c s = (.error error, t)) :
    t = s.withSketch t.sketch ∧ s.sketch.Unharmed t.sketch := by
  have furnished := (reachedFurnished reached).1
  have intact := furnished.toIntact
  cases c with
  | addGroup name kind source => exact absurd rfl (inGroup name kind source)
  | addRequest group kind workplane construction =>
    exact sparedEdit (addRequestSpares group kind workplane construction) failed
  | addPoint => exact sparedEdit (addPointSpares furnished _ _ _) failed
  | addLine => exact sparedEdit (addLineSpares furnished _ _ _ _) failed
  | addCircle => exact sparedEdit (addCircleSpares furnished _ _ _ _) failed
  | addArc => exact sparedEdit (addArcSpares furnished _ _ _ _ _) failed
  | addCubic => exact sparedEdit (addCubicSpares furnished _ _ _ _ _ _) failed
  | addWorkplane => exact sparedEdit (addWorkplaneSpares furnished _ _ _) failed
  | addConstraint group workplane kind reference =>
    exact failedEdit (addConstraintUnharmed intact group workplane kind reference) failed
  | addTangent group workplane a b =>
    refine failedEdit (failsReadBind (.refl _) fun kind _ => ?_) failed
    exact addConstraintUnharmed intact group workplane kind false
  | remeasure id =>
    refine sparedEdit (failsThen (remeasureSpares id) fun _ u ok => ?_) failed
    obtain ⟨c, kind, found, rfl⟩ := remeasureOk ok
    have keeps : ∀ y : Constraint α, y.id = id → ({ y with kind } : Constraint α).id = id := fun _ same => same
    refine ⟨{ c with kind }, _, readOk.mpr ⟨constraintFound.mpr ?_, rfl⟩⟩
    refine (intact.constraints.getModify id keeps id).trans ?_
    rw [if_pos rfl, found]
    rfl
  | improveGuess id =>
    refine sparedEdit (failsThen (improveGuessSpares id) fun _ u ok => ?_) failed
    obtain ⟨⟨c, found⟩, same⟩ := improveGuessOk ok
    rw [← same] at found
    exact succeedsBind (readOk.mpr ⟨constraintFound.mpr found, rfl⟩) (succeedsGetBind (succeedsPure _))
  | setValue id value => exact sparedEdit (setConstraintValueSpares id value) failed
  | deleteConstraint id => exact sparedEdit (deleteConstraintSpares id) failed
  | deleteRequest id => exact sparedEdit (deleteRequestSpares intact.toConsistent id) failed
  | setConstruction id construction => exact sparedEdit (setConstructionSpares id construction) failed
  | forcePoint point place => exact sparedEdit (forcePointSpares intact point place) failed
  | forceNormal normal orientation => exact sparedEdit (forceNormalSpares intact normal orientation) failed
  | forceDistance distance value => exact sparedEdit (forceDistanceSpares distance value) failed
  | setParam id value => exact sparedEdit (setParamSpares id value) failed
  | joinIfCoincident point => exact failedEdit (joinIfCoincidentUnharmed intact point) failed
  | roundCorner point options => exact sparedEdit (roundCornerSpares point options) failed
  | split selection hint => exact sparedEdit (splitSpares selection hint) failed
  | markDirty | replacePoint | removeConstraintsFor | detachPoint | prune => exact nomatch failed
  | changeGroup | solve | regenerateAll | regenerateFrom | importPart | withoutKernel | snapshot | restore | reset =>
    exact edit.elim

/- A point whose workplane has been deleted is at no distance from anything, so a constraint that is to measure
one is entered and taken back. -/
theorem lostDistanceTakenBack : ∃ (s t : Session Float) (error : SessionError Float), Reached .standard s ∧
    perform id (.addConstraint ⟨1⟩ none (.pointPointDistance pin.entity pin.entity 0.0) true) s = (.error error, t) ∧
      t = s.withSketch t.sketch ∧ s.sketch.Unharmed t.sketch := by
  obtain ⟨s, reached, known⟩ := strandedReached
  let c : Command Float := .addConstraint ⟨1⟩ none (.pointPointDistance pin.entity pin.entity 0.0) true
  have edit : c.IsEdit := by trivial
  rcases run : perform id c s with ⟨error | answer, t⟩
  · exact ⟨s, t, error, reached, run, failedEditUnharmed reached edit (fun _ _ _ same => nomatch same) run⟩
  have furnished := (reachedFurnished reached).1
  have intact := furnished.toIntact
  have unplaced : s.sketch.pointExpr pin.entity = .error (.entityNotFound tilted.entity) := by
    let spot : Entity Float := pin.part pin.entity (.pointIn2d ⟨pin.param 0, pin.param 1⟩)
    have drawn : s.sketch.entities.get? spot.id = some spot := intact.present pin.id pin (known.pinned intact) spot List.mem_cons_self
    exact (pointFails intact furnished.grounded drawn rfl).mpr ⟨tilted.entity, rfl, .gone (known.gone intact)⟩
  -- Had the constraint been kept, the point would have a place.
  obtain ⟨_, u, kept, _⟩ := editOk run
  obtain ⟨v, now, same, measured⟩ := referenceMeasured intact kept
  obtain ⟨_, equations, _⟩ := Result.bindOk.mp measured
  obtain ⟨_, setting, equations⟩ := Result.bindOk.mp equations
  cases setting
  obtain ⟨_, residuals, _⟩ := Result.bindOk.mp equations
  obtain ⟨p, placed, _⟩ := Result.bindOk.mp residuals
  change (v.pointExpr pin.entity).mapError _ = _ at placed
  rw [pointOfEntities same, unplaced] at placed
  cases placed

end Session
end Drafting
