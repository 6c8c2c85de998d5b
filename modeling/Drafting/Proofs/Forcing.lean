import Drafting.Proofs.SplitPoint
/-! Points that are put to a place. The parameters of a point are its own, and no two of them are the same, so each
takes its coordinate and no other parameter changes. In a workplane the coordinates are read off a frame of unit length
and put back through the axes of the orientation as it is: where that has unit length, the point comes to lie at the
foot of the perpendicular from the place. -/
namespace Drafting
open Attempt Edit

theorem Request.ownDistinct (q : Request) : ∀ e ∈ q.entities (α := α), e.kind.ownParams.Nodup := by
  rcases q with ⟨id, group, workplane, kind, construction⟩
  cases workplane <;> cases kind <;> simp [entities, pointParts, normalPart, part, EntityKind.ownParams, Vec3.toList,
    param, ParamId.request, coordinates, List.range_succ]

namespace Sketch
variable [Scalar α] {s t : Sketch α} {point w : EntityId} {e : Entity α} {place : Vec3 α}

omit [Scalar α] in
theorem ownDistinct (h : s.Intact) (found : s.entities.get? point = some e) : e.kind.ownParams.Nodup := by
  rcases h.origin found with ⟨q, _, part⟩ | ⟨g, _, made⟩
  · exact q.ownDistinct e part
  · rw [made.own]
    exact List.nodup_nil

/-- Some parameters have been given values, and all else that places entities is as it was. -/
structure Assigned (values : List (ParamId × α)) (s t : Sketch α) : Prop where
  given : ∀ v ∈ values, t.valueOf v.1 = v.2
  others : ∀ p, p ∉ values.map Prod.fst → t.params.get? p = s.params.get? p
  entities : t.entities = s.entities

theorem setAllAssigns (h : s.Consistent) {values : List (ParamId × α)} (distinct : (values.map Prod.fst).Nodup)
    (ok : (values.forM fun v => setParam v.1 v.2) s = (.ok (), t)) : Assigned values s t := by
  induction values generalizing s with
  | nil =>
    cases ok
    exact ⟨nofun, fun _ _ => rfl, rfl⟩
  | cons v rest ih =>
    rw [List.forM_eq_forM, List.forM_cons] at ok
    obtain ⟨_, u, first, later⟩ := bindOk.mp ok
    obtain ⟨new, distinct⟩ := List.nodup_cons.mp distinct
    have steps := setParamGradual v.1 v.2 s
    rw [first] at steps
    obtain ⟨set, kept, entities⟩ := setParamOk h first
    have all := ih (Adjustments.consistent steps h) distinct later
    refine ⟨?_, fun p free => ?_, all.entities.trans entities⟩
    · rw [List.forall_mem_cons]
      refine ⟨?_, all.given⟩
      -- What has been set is not set again.
      rw [valueOf, all.others v.1 new]
      exact set
    · have apart := List.ne_of_not_mem_cons free
      exact (all.others p (List.not_mem_of_not_mem_cons free)).trans (kept p apart)

theorem Assigned.value {values : List (ParamId × α)} (assigned : Assigned values s t) {p : ParamId}
    (free : p ∉ values.map Prod.fst) : t.valueOf p = s.valueOf p := by
  rw [valueOf, valueOf, assigned.others p free]

theorem forcePointAssigns (h : s.Intact) (ok : forcePoint point place s = (.ok (), t)) :
    ∃ e, s.entities.get? point = some e ∧
      ((∃ p, e.kind = .pointIn3d p ∧ Assigned [(p.x, place.x), (p.y, place.y), (p.z, place.z)] s t) ∨
        ∃ p w f, e.kind = .pointIn2d p ∧ e.workplane = some w ∧ s.frame w = .ok f ∧
          Assigned [(p.x, (f.project place).x), (p.y, (f.project place).y)] s t) := by
  obtain ⟨e, read, ok⟩ := readThen ok
  have found := entityFound.mp read
  have distinct := ownDistinct h found
  refine ⟨e, found, ?_⟩
  cases kind : e.kind with
  | pointIn3d p =>
    rw [kind] at ok distinct
    refine .inl ⟨p, rfl, setAllAssigns h.toConsistent (by simpa [EntityKind.ownParams, Vec3.toList] using distinct) ?_⟩
    simpa only [List.forM_eq_forM, List.forM_cons, List.forM_nil, bind_pure_unit] using ok
  | pointIn2d p =>
    rw [kind] at ok distinct
    obtain ⟨w, lies, ok⟩ := foundThen ok
    obtain ⟨f, frame, ok⟩ := readThen ok
    refine .inr ⟨p, w, f, rfl, lies, frame,
      setAllAssigns h.toConsistent (by simpa [EntityKind.ownParams] using distinct) ?_⟩
    simpa only [List.forM_eq_forM, List.forM_cons, List.forM_nil, bind_pure_unit] using ok
  | _ =>
    rw [kind] at ok
    exact absurd ok throwOk

/- The workplane of a point is of another request, so it owns no parameter of the point. -/
theorem planeApart (h : s.Intact) (found : s.entities.get? point = some e) (lies : e.workplane = some w) {f : Frame α}
    (frame : s.frame w = .ok f) {p : ParamId} (own : p ∈ e.kind.ownParams) : ¬ w.Owns p := by
  have key : e.id = point := h.entities.keyOfGet found
  rcases h.origin found with ⟨q, there, part⟩ | ⟨g, _, made⟩
  · have drawn := Request.drawn part
    have free := planeFree h there (drawn.workplane.symm.trans lies) frame
    intro owns
    exact owns.free free q.id (drawn.own p own) rfl
  · rw [made.own] at own
    cases own

end Sketch

theorem Quat.normalSquare {q : Quat ℝ} (unit : q.length = 1) : (q.rotate .unitZ).dot (q.rotate .unitZ) = 1 := by
  have square : (q.rotate .unitZ).dot (q.rotate .unitZ) = (q.x * q.x + q.y * q.y + q.z * q.z + q.w * q.w) ^ 2 := by
    simp only [rotate, Vec3.scale, Vec3.cross, Vec3.dot, Vec3.unitZ, Vec3.mkAdd, exactZero, exactOne, exactTwo]
    ring
  rw [square, unitSquares.mp unit, one_pow]

theorem Vec3.addLess (a b : Vec3 ℝ) : a + b - b = a := by
  rcases a with ⟨x, y, z⟩
  rcases b with ⟨bx, bw, bz⟩
  simp only [mkAdd, mkSub, add_sub_cancel_right]

namespace Frame
variable {f : Frame ℝ} {p : Vec3 ℝ}

noncomputable def foot (f : Frame ℝ) (p : Vec3 ℝ) : Vec3 ℝ := p - f.normal.scale (f.height p)

theorem footOfLevel (level : f.height p = 0) : f.foot p = p := by
  rw [foot, level, Vec3.scaleNone]
  rcases p with ⟨x, y, z⟩
  simp only [Vec3.zero, Vec3.mkSub, exactZero, sub_zero]

theorem footLevel (unit : f.orientation.length = 1) : f.height (f.foot p) = 0 := by
  have along : (p - f.normal.scale (f.height p) - f.origin).dot f.normal =
      (p - f.origin).dot f.normal - f.normal.dot f.normal * f.height p := by
    rw [Vec3.subDot, Vec3.subDot, Vec3.subDot, Vec3.scaleDot]
    ring
  have square : f.normal.dot f.normal = 1 := Quat.normalSquare unit
  change (p - f.normal.scale (f.height p) - f.origin).dot f.normal = 0
  rw [along, square, one_mul]
  exact sub_self _

theorem unprojectFoot (unit : f.orientation.length = 1) : f.unproject (f.project p) = f.foot p := by
  have back := Quat.rotateBack unit (p - f.origin)
  change f.origin + f.u.scale ((p - f.origin).dot f.u) + f.v.scale ((p - f.origin).dot f.v) =
    p - f.normal.scale ((p - f.origin).dot f.normal)
  change f.u.scale ((p - f.origin).dot f.u) + f.v.scale ((p - f.origin).dot f.v) +
    f.normal.scale ((p - f.origin).dot f.normal) = p - f.origin at back
  generalize f.u.scale ((p - f.origin).dot f.u) = a, f.v.scale ((p - f.origin).dot f.v) = b,
    f.normal.scale ((p - f.origin).dot f.normal) = c at back ⊢
  -- What leads to the place along the axes and the normal leads to the foot without the normal.
  have whole : f.origin + (a + b + c) = p := Vec3.addEq.mpr back.symm
  rw [← whole, ← Vec3.addAssoc, ← Vec3.addAssoc]
  exact (Vec3.addLess _ c).symm

end Frame

namespace Sketch
variable {s t : Sketch ℝ} {point w : EntityId} {e : Entity ℝ} {place : Vec3 ℝ}

theorem Assigned.inSpace {p : Vec3 ParamId} (assigned : Assigned [(p.x, place.x), (p.y, place.y), (p.z, place.z)] s t)
    (found : s.entities.get? point = some e) (kind : e.kind = .pointIn3d p) : t.position point = .ok place := by
  have given := assigned.given
  simp only [List.forall_mem_cons] at given
  obtain ⟨x, y, z, _⟩ := given
  have there : t.pointExpr point = .ok (.ofParams p) := by
    refine Result.bindOk.mpr ⟨e, entityFound.mpr (assigned.entities ▸ found), ?_⟩
    rw [kind]
    rfl
  refine Result.bindOk.mpr ⟨.ofParams p, there, congrArg Except.ok ?_⟩
  rw [Vec3.evalOfParams, Vec3.map, x, y, z]

theorem Assigned.inPlane {p : Vec2 ParamId} {spot : Vec2 ℝ} (assigned : Assigned [(p.x, spot.x), (p.y, spot.y)] s t)
    (h : s.Intact) (found : s.entities.get? point = some e) (kind : e.kind = .pointIn2d p) (lies : e.workplane = some w)
    {plane : PlaneExpr ℝ} (placed : s.planeExpr w = .ok plane) :
    t.position point = .ok ((plane.frame s.valueOf).unproject spot) := by
  have given := assigned.given
  simp only [List.forall_mem_cons] at given
  obtain ⟨x, y, _⟩ := given
  have frame : s.frame w = .ok (plane.frame s.valueOf).unit := Result.bindOk.mpr ⟨plane, placed, rfl⟩
  have covers := planeOwned h w plane placed
  have same (q : ParamId) (owns : w.Owns q) : t.valueOf q = s.valueOf q := by
    refine assigned.value fun member => planeApart h found lies frame ?_ owns
    simpa [kind, EntityKind.ownParams] using member
  have still : t.planeExpr w = .ok plane := by
    rw [planeExpr, assigned.entities, planeWithinOfEntities assigned.entities]
    exact placed
  refine Result.bindOk.mpr ⟨_, drawnOk (assigned.entities ▸ found) kind lies still, congrArg Except.ok ?_⟩
  rw [PlaneExpr.evalDrawn, Vec3.evalCongr covers.origin same, Quat.evalCongr covers.orientation same, x, y]
  rfl

end Sketch

namespace Session
open Sketch
variable {config : EngineConfig ℝ} {s : Session ℝ}

/- A point that is put to a place lies there if it is a point in space. In a workplane of unit orientation it lies at
the foot of the perpendicular from the place, which is the place itself if that is in the plane: no parameter of the
workplane is one of the point. No parameter but those of the point changes, and no entity. -/
theorem forcedWhereAsked (reached : Reached config s) {point : EntityId} {place : Vec3 ℝ} {t : Sketch ℝ}
    (ok : forcePoint point place s.sketch = (.ok (), t)) : ∃ e, s.sketch.entities.get? point = some e ∧
      t.entities = s.sketch.entities ∧ (∀ p, p ∉ e.kind.ownParams → t.params.get? p = s.sketch.params.get? p) ∧
      ((∃ p, e.kind = .pointIn3d p ∧ t.position point = .ok place) ∨
        ∃ p w plane, e.kind = .pointIn2d p ∧ e.workplane = some w ∧ s.sketch.planeExpr w = .ok plane ∧
          let f := plane.frame s.sketch.valueOf
          (f.orientation.length = 1 → t.position point = .ok (f.foot place) ∧ f.height (f.foot place) = 0 ∧
            (f.height place = 0 → t.position point = .ok place))) := by
  have intact := (reachedIntact reached).sketch
  obtain ⟨e, found, either⟩ := forcePointAssigns intact ok
  refine ⟨e, found, ?_⟩
  rcases either with ⟨p, kind, assigned⟩ | ⟨p, w, f, kind, lies, frame, assigned⟩
  · refine ⟨assigned.entities, fun q free => assigned.others q ?_, .inl ⟨p, kind, assigned.inSpace found kind⟩⟩
    simpa [kind, EntityKind.ownParams, Vec3.toList] using free
  · refine ⟨assigned.entities, fun q free => assigned.others q ?_, .inr ?_⟩
    · simpa [kind, EntityKind.ownParams] using free
    · obtain ⟨plane, placed, same⟩ := Result.bindOk.mp frame
      cases same
      refine ⟨p, w, plane, kind, lies, placed, fun unit => ?_⟩
      have position := assigned.inPlane intact found kind lies placed
      have whole : (plane.frame s.sketch.valueOf).unit = plane.frame s.sketch.valueOf := by
        rw [Frame.unit, Quat.unitNormalized unit]
      change t.position point = .ok ((plane.frame s.sketch.valueOf).unproject
        ((plane.frame s.sketch.valueOf).unit.project place)) at position
      rw [whole, Frame.unprojectFoot unit] at position
      exact ⟨position, Frame.footLevel unit, fun level => Frame.footOfLevel level ▸ position⟩

theorem planeTurned {s : Sketch ℝ} (h : Drawable tilted s) (orientation : Quat ℝ) : ∃ t,
    forceNormal tilted.normal orientation s = (.ok (), t) ∧ Drawable tilted t ∧ Adjustments s t ∧
      ∃ plane, t.planeExpr tilted.entity = .ok plane ∧ (plane.frame t.valueOf).orientation = orientation.normalize := by
  let e : Entity ℝ := tilted.part tilted.normal (.normalIn3d
    { w := tilted.param 3, x := tilted.param 4, y := tilted.param 5, z := tilted.param 6 })
  have part : e ∈ tilted.entities := by
    simp [e, Request.entities, tilted, Request.normalPart, Request.coordinates]
  have intact := h.furnished.toIntact
  have found : s.entities.get? tilted.normal = some e := intact.present _ tilted h.there e part
  let q := orientation.normalize
  let values := [(tilted.param 3, q.w), (tilted.param 4, q.x), (tilted.param 5, q.y), (tilted.param 6, q.z)]
  obtain ⟨⟨⟩, t, set⟩ := setAllSucceeds intact.params values fun v member => by
    refine ownThere intact found ?_
    simp only [values, List.mem_cons, List.not_mem_nil, or_false] at member
    rcases member with rfl | rfl | rfl | rfl <;> simp [e, Request.part, EntityKind.ownParams]
  have assigned := setAllAssigns intact.toConsistent (by simp [values, Request.param, ParamId.request]) set
  simp only [values, List.forM_eq_forM, List.forM_cons, List.forM_nil, bind_pure_unit] at set
  have run : forceNormal tilted.normal orientation s = (.ok (), t) :=
    bindOk.mpr ⟨e, s, readOk.mpr ⟨entityFound.mpr found, rfl⟩, set⟩
  have steps := forceNormalGradual (R := Adjustment) tilted.normal orientation s
  rw [run] at steps
  have turned := h.adjusted steps
  refine ⟨t, run, turned, steps, _, planeOfRequest turned.furnished.toIntact turned.there rfl, ?_⟩
  have given := assigned.given
  simp only [values, List.forall_mem_cons] at given
  obtain ⟨w, x, y, z, _⟩ := given
  change (⟨t.valueOf (tilted.param 4), t.valueOf (tilted.param 5), t.valueOf (tilted.param 6),
    t.valueOf (tilted.param 3)⟩ : Quat ℝ) = q
  rw [w, x, y, z]

theorem centerForced : ∃ (s : Session ℝ) (t : Sketch ℝ) (plane : PlaneExpr ℝ), Reached .standard s ∧
    forcePoint (hoop.point 0) ⟨1, 2, 3⟩ s.sketch = (.ok (), t) ∧ s.sketch.planeExpr tilted.entity = .ok plane ∧
    (plane.frame s.sketch.valueOf).orientation.length = 1 ∧
    t.position (hoop.point 0) = .ok ((plane.frame s.sketch.valueOf).foot ⟨1, 2, 3⟩) := by
  obtain ⟨s, reached, known⟩ := hoopReached (α := ℝ) .standard
  obtain ⟨u, run, _, steps, plane, placed, turned⟩ := planeTurned known.plane ⟨0.6, 0, 0, 0.8⟩
  have circle := known.circle.adjusted steps
  have reached : Reached .standard (s.withSketch u) :=
    reached.edited (c := .forceNormal tilted.normal ⟨0.6, 0, 0, 0.8⟩) rfl run
  have unit : (plane.frame u.valueOf).orientation.length = 1 := by
    have length : (⟨0.6, 0, 0, 0.8⟩ : Quat ℝ).length = 1 := Quat.unitSquares.mpr (by norm_num)
    rw [turned, Quat.unitNormalized length, length]
  let center : Entity ℝ := hoop.part (hoop.point 0) (.pointIn2d ⟨hoop.param 0, hoop.param 1⟩)
  have part : center ∈ hoop.entities := planarPoint hoop rfl (show 0 < 1 by decide)
  obtain ⟨t, forced, _⟩ := circle.placed part rfl ⟨1, 2, 3⟩
  obtain ⟨e, found, _, _, either⟩ := forcedWhereAsked reached forced
  have there := circle.furnished.present _ hoop circle.there center part
  cases there.symm.trans found
  rcases either with ⟨_, kind, _⟩ | ⟨_, w, plane', _, lies, placed', lands⟩
  · cases kind
  · cases lies
    cases placed.symm.trans placed'
    exact ⟨s.withSketch u, t, plane, reached, forced, placed, unit, (lands unit).1⟩

end Session
end Drafting
