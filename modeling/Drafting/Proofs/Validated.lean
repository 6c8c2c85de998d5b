import Drafting.Proofs.Divisors
/-! What validation makes sure of. The lines whose direction a residual needs have some length, and so have the first radii
of arcs. Nothing is divided by zero then, unless it is by something that validation does not look at: the other radius of
an arc, the radius at the contact with a line as it is projected, the area of a swept face or the axis that copies are
turned about. -/
namespace Drafting
open Result

namespace Sketch

inductive Involves (s : Sketch α) (roots : List EntityId) : EntityId → Prop
  | root {id : EntityId} (named : id ∈ roots) : Involves s roots id
  | part {id part : EntityId} {e : Entity α} (whole : Involves s roots id) (found : s.entities.get? id = some e)
    (named : part ∈ e.references) : Involves s roots part

/-- What validation does not look at: that the entities involved are sturdy, that no arc whose length is measured ends
at its center, and that the center of an arc that touches a line is not over the contact. -/
structure Clear (s : Sketch ℝ) (c : Constraint ℝ) : Prop where
  sturdy : ∀ id e, s.Involves c.references id → s.entities.get? id = some e → s.Sturdy s.valueOf e
  finishes : ∀ arc ∈ c.kind.measuredArcs, ∀ o p, s.EndsAt arc .finish o p → p ≠ o
  contact : ∀ arc line tip, c.kind = .arcLineTangent arc line tip → ∀ w x, c.workplane = some w → s.planeExpr w = .ok x →
    ∀ o p, s.EndsAt arc tip o p → (x.frame s.valueOf).project p ≠ (x.frame s.valueOf).project o

section Valid
variable {s : Sketch ℝ} {group : GroupId} {workplane : Option EntityId} {kind : ConstraintKind ℝ}

theorem checkedPositive {x : ℝ} {cause : ConstraintError}
    (ok : (if !decide (degenerateEpsilon < x) then throw cause else pure () : Except ConstraintError Unit) = .ok ()) :
    0 < x := by
  have least : (0 : ℝ) < degenerateEpsilon := by
    change (0 : ℝ) < 1e-9
    norm_num
  split at ok
  · cases ok
  · rename_i above
    exact least.trans (by simpa using above)

theorem oneChecked {x : ℝ} {cause : ConstraintError} (one : x = 1) :
    (if !decide (degenerateEpsilon < x) then throw cause else pure () : Except ConstraintError Unit) = .ok () := by
  have least : degenerateEpsilon < (1 : ℝ) := by
    change (1e-9 : ℝ) < 1
    norm_num
  rw [one, decide_eq_true least]
  rfl

theorem validChecks (valid : s.validate group workplane kind = .ok ()) :
    (kind.requiresWorkplane = true → ∃ w, workplane = some w) ∧
    ∃ d, Setting.of s ⟨⟨0⟩, group, workplane, kind, true⟩ = .ok d ∧ (∀ line ∈ kind.directionLines, d.Long line) ∧
      ∀ arc ∈ kind.radiusArcs, All (0 < ·) (s.radius arc) := by
  obtain ⟨_, _, rest⟩ := bindOk.mp valid
  obtain ⟨there, last⟩ : (kind.requiresWorkplane = true → ∃ w, workplane = some w) ∧
      (do s.checkEntities kind
          s.checkDegenerate (← Setting.of s ⟨⟨0⟩, group, workplane, kind, true⟩) kind) = .ok () := by
    cases workplane with
    | some w =>
      obtain ⟨_, _, rest⟩ := bindOk.mp rest
      exact ⟨fun _ => ⟨w, rfl⟩, rest⟩
    | none =>
      dsimp only at rest
      split at rest
      · cases rest
      · rename_i free
        exact ⟨fun needs => absurd needs free, rest⟩
  obtain ⟨_, _, last⟩ := bindOk.mp last
  obtain ⟨d, setting, checks⟩ := bindOk.mp last
  obtain ⟨_, lines, checks⟩ := bindOk.mp checks
  obtain ⟨_, arcs, _⟩ := bindOk.mp checks
  refine ⟨there, d, setting, fun line member e direction => ?_, fun arc member r radius => ?_⟩
  · obtain ⟨length, there, check⟩ := bindOk.mp (forMEach lines line member)
    obtain ⟨e', direction', same⟩ := bindOk.mp there
    cases direction.symm.trans direction'
    cases same
    have long := checkedPositive check
    rwa [Setting.value, settingSketch setting, Vec3.evalMagnitude, ← settingSketch setting] at long
  · obtain ⟨r', there, check⟩ := bindOk.mp (forMEach arcs arc member)
    cases (Setting.liftedOk radius).symm.trans there
    exact checkedPositive check

theorem measuredRadius {kind : ConstraintKind ℝ} {arc : EntityId} (member : arc ∈ kind.measuredArcs) : arc ∈ kind.radiusArcs := by
  cases kind <;> first | exact member | cases member

theorem settingFounded {c : Constraint ℝ} {d : Setting ℝ} (setting : Setting.of s c = .ok d) (clear : s.Clear c) :
    d.Founded (s.Involves c.references) := by
  have sturdy : s.SturdyOn s.valueOf (s.Involves c.references) :=
    ⟨fun _ _ whole found _ named => .part whole found named, clear.sturdy⟩
  unfold Setting.of at setting
  cases lies : c.workplane with
  | none =>
    rw [lies] at setting
    cases setting
    exact ⟨sturdy, nofun⟩
  | some w =>
    rw [lies] at setting
    obtain ⟨x, placed, last⟩ := bindOk.mp setting
    cases last
    have inside : s.Involves c.references w := .root (List.mem_append_right _ (Option.mem_toList.mpr lies))
    have level := allRenamed (planeDefined sturdy inside) x placed
    refine ⟨sturdy, fun b same => ?_⟩
    cases same
    exact ⟨level.origin, Quat.definedImageU level.orientation, Quat.definedImageV level.orientation⟩

theorem arcsRound {c : Constraint ℝ} (radii : ∀ arc ∈ c.kind.radiusArcs, All (0 < ·) (s.radius arc)) (clear : s.Clear c)
    {arc : EntityId} (member : arc ∈ c.kind.measuredArcs) {tip : ArcEnd} {o p : Vec3 ℝ} (ends : s.EndsAt arc tip o p) :
    p ≠ o := by
  cases tip with
  | finish => exact clear.finishes arc member o p ends
  | start =>
    obtain ⟨e, center, start, finish, normal, found, kind, middle, first⟩ := ends
    obtain ⟨ox, placedO, same⟩ := bindOk.mp middle
    cases same
    obtain ⟨px, placedP, same⟩ := bindOk.mp first
    cases same
    have radius : s.radius arc = .ok ((px - ox).magnitude.eval s.valueOf) := by
      refine bindOk.mpr ⟨_, bindOk.mpr ⟨e, entityFound.mpr found, ?_⟩, rfl⟩
      rw [kind]
      exact bindOk.mpr ⟨px, placedP, bindOk.mpr ⟨ox, placedO, rfl⟩⟩
    have long := radii arc (measuredRadius member) _ radius
    rw [Vec3.evalMagnitude, Vec3.evalSub] at long
    rintro same
    rw [same, Vec3.lengthZero.mpr (Vec3.subSelf.mpr rfl)] at long
    exact lt_irrefl 0 long

theorem validResidualsDefined (valid : s.validate group workplane kind = .ok ()) (id : ConstraintId) (reference : Bool)
    (clear : s.Clear ⟨id, group, workplane, kind, reference⟩) {qs : List (Equation ℝ)}
    (ok : s.measuredEquations ⟨id, group, workplane, kind, reference⟩ = .ok qs) : ∀ q ∈ qs, q.expr.Defined s.valueOf := by
  obtain ⟨d, setting, ok⟩ := bindOk.mp ok
  obtain ⟨rs, written, ok⟩ := bindOk.mp ok
  cases ok
  obtain ⟨needs, probe, there, long, radii⟩ := validChecks valid
  cases there.symm.trans (Setting.renamed setting ⟨0⟩ true)
  have founded := settingFounded setting clear
  have sketch := settingSketch setting
  have round : ∀ arc ∈ kind.measuredArcs, d.Round arc := by
    intro arc member tip o p ends
    exact arcsRound radii clear member (sketch ▸ ends)
  have touching : ∀ arc line tip, kind = .arcLineTangent arc line tip → d.Touching arc tip := by
    rintro arc line tip rfl e center start finish normal o p found kind placedO placedP
    obtain ⟨w, rfl⟩ := needs rfl
    obtain ⟨x, placed, last⟩ := bindOk.mp setting
    cases last
    have plane : s.planeExpr w = .ok x := allRenamed (Q := fun x => s.planeExpr w = .ok x) (fun _ ok => ok) x placed
    exact Setting.projectApart rfl (clear.contact arc line tip rfl w x rfl plane _ _ ⟨e, center, start, finish, normal,
      found, kind, bindOk.mpr ⟨o, placedO, rfl⟩, bindOk.mpr ⟨p, placedP, rfl⟩⟩)
  have defined := Setting.residualsDefined founded (fun id named => .root (List.mem_append_left _ named)) long round
    touching rs written
  intro q member
  obtain ⟨i, small, rfl⟩ := List.mem_mapIdx.mp member
  rw [sketch] at defined
  exact defined _ (List.getElem_mem small)

end Valid

def bowSpot : Vec3 ParamId := ⟨.request ⟨3⟩ 0, .request ⟨3⟩ 1, .request ⟨3⟩ 2⟩

noncomputable def bowParts : List (Entity ℝ) := [numbered 1 (.pointCopy ⟨0, 0, 0⟩ .identity),
  numbered 2 (.pointCopy ⟨1, 0, 0⟩ .identity), numbered 3 (.pointIn3d bowSpot), numbered 4 (.normalCopy .identity .identity),
  numbered 5 (.workplane (.request ⟨1⟩ 0) (.request ⟨4⟩ 0)), numbered 6 (.line (.request ⟨1⟩ 0) (.request ⟨2⟩ 0)),
  numbered 7 (.arc (.request ⟨1⟩ 0) (.request ⟨2⟩ 0) (.request ⟨3⟩ 0) (.request ⟨4⟩ 0))]

noncomputable def bow (place : Vec3 ℝ) : Sketch ℝ where
  groups := Registry.add {} { id := ⟨1⟩, name := "drawing", kind := .drawing3d }
  entities := bowParts.foldl Registry.add {}
  params := [⟨bowSpot.x, ⟨1⟩, place.x⟩, ⟨bowSpot.y, ⟨1⟩, place.y⟩, ⟨bowSpot.z, ⟨1⟩, place.z⟩].foldl Registry.add {}

section Bow
variable {place : Vec3 ℝ}

theorem bowKnown {id : EntityId} {e : Entity ℝ} : (bow place).entities.get? id = some e ↔ e ∈ bowParts ∧ e.id = id :=
  Registry.getFilled (by decide)

variable (place)

theorem bowThere (n : Nat) (kind : EntityKind ℝ) (member : numbered n kind ∈ bowParts) :
    (bow place).entities.get? (.request ⟨n⟩ 0) = some (numbered n kind) := bowKnown.mpr ⟨member, rfl⟩

theorem bowPlane : (bow place).entities.get? (.request ⟨5⟩ 0) = some (numbered 5 (.workplane (.request ⟨1⟩ 0) (.request ⟨4⟩ 0))) :=
  bowThere place 5 _ (by simp [bowParts])

theorem bowChord : (bow place).entities.get? (.request ⟨6⟩ 0) = some (numbered 6 (.line (.request ⟨1⟩ 0) (.request ⟨2⟩ 0))) :=
  bowThere place 6 _ (by simp [bowParts])

theorem bowArc : (bow place).entities.get? (.request ⟨7⟩ 0) =
    some (numbered 7 (.arc (.request ⟨1⟩ 0) (.request ⟨2⟩ 0) (.request ⟨3⟩ 0) (.request ⟨4⟩ 0))) :=
  bowThere place 7 _ (by simp [bowParts])

theorem bowValues : (bow place).valueOf bowSpot.x = place.x ∧ (bow place).valueOf bowSpot.y = place.y := by
  let params : List (Param ℝ) := [⟨bowSpot.x, ⟨1⟩, place.x⟩, ⟨bowSpot.y, ⟨1⟩, place.y⟩, ⟨bowSpot.z, ⟨1⟩, place.z⟩]
  have distinct : (params.map Param.id).Nodup := by
    change [bowSpot.x, bowSpot.y, bowSpot.z].Nodup
    decide
  have given (x : Param ℝ) (member : x ∈ params) : (bow place).valueOf x.id = x.value := by
    have found : (bow place).params.get? x.id = some x := (Registry.getFilled distinct).mpr ⟨member, rfl⟩
    rw [valueOf, found]
    rfl
  exact ⟨given ⟨bowSpot.x, ⟨1⟩, place.x⟩ (by simp [params]), given ⟨bowSpot.y, ⟨1⟩, place.y⟩ (by simp [params])⟩

theorem bowCenter : (bow place).pointExpr (.request ⟨1⟩ 0) = .ok (Vec3.toExpr ⟨0, 0, 0⟩) :=
  pointOfCopy (bowThere place 1 _ (by simp [bowParts])) rfl

theorem bowStart : (bow place).pointExpr (.request ⟨2⟩ 0) = .ok (Vec3.toExpr ⟨1, 0, 0⟩) :=
  pointOfCopy (bowThere place 2 _ (by simp [bowParts])) rfl

theorem bowFinish : (bow place).pointExpr (.request ⟨3⟩ 0) = .ok (.ofParams bowSpot) :=
  bindOk.mpr ⟨_, entityFound.mpr (bowThere place 3 (.pointIn3d bowSpot) (by simp [bowParts])), rfl⟩

theorem bowLevel : (bow place).planeExpr (.request ⟨5⟩ 0) = .ok floorPlane :=
  planeOfCopies (bowPlane place) rfl (bowThere place 1 _ (by simp [bowParts])) rfl (bowThere place 4 _ (by simp [bowParts])) rfl

theorem bowProject {d : Setting ℝ} {a : Vec3 (Expr ℝ)} {v : ParamId → ℝ}
    (basis : d.basis = some ⟨floorPlane.origin, floorPlane.orientation.imageU, floorPlane.orientation.imageV⟩) :
    (d.project a).eval v = ⟨(a.eval v).x, (a.eval v).y, 0⟩ := by
  have turn : floorPlane.orientation.eval v = .identity := rfl
  rw [Setting.evalProject basis, turn, Quat.rotateIdentity, Quat.rotateIdentity]
  simp [Vec3.dot, Vec3.unitX, Vec3.unitY]

def bowKind : ConstraintKind ℝ := .arcLineTangent (.request ⟨7⟩ 0) (.request ⟨6⟩ 0) .finish

noncomputable def bowSetting (place : Vec3 ℝ) (id : ConstraintId) : Setting ℝ where
  sketch := bow place
  constraint := id
  name := bowKind.typeName
  basis := some ⟨floorPlane.origin, floorPlane.orientation.imageU, floorPlane.orientation.imageV⟩

theorem bowSet (id : ConstraintId) (reference : Bool) :
    Setting.of (bow place) ⟨id, ⟨1⟩, some (.request ⟨5⟩ 0), bowKind, reference⟩ = .ok (bowSetting place id) :=
  bindOk.mpr ⟨_, Setting.liftedOk (bowLevel place), rfl⟩

theorem bowLine : (bow place).Joins (.request ⟨6⟩ 0) (Vec3.toExpr ⟨0, 0, 0⟩) (Vec3.toExpr ⟨1, 0, 0⟩) :=
  ⟨_, _, _, bowChord place, rfl, bowCenter place, bowStart place⟩

theorem bowLength : (⟨1, 0, 0⟩ : Vec3 ℝ).length = 1 := by
  change Real.sqrt (1 * 1 + 0 * 0 + 0 * 0) = 1
  norm_num

theorem bowValid : (bow place).validate ⟨1⟩ (some (.request ⟨5⟩ 0)) bowKind = .ok () := by
  have registered : (bow place).groups.get? ⟨1⟩ = some { id := ⟨1⟩, name := "drawing", kind := .drawing3d } :=
    Registry.emptyConsistent.getAddSelf _
  refine bindOk.mpr ⟨_, Setting.liftedOk (groupFound.mpr registered), bindOk.mpr ⟨(), expectOk.mpr ⟨_, bowPlane place, rfl⟩,
    bindOk.mpr ⟨(), slotsPass (fun slot member => ?_) rfl, bindOk.mpr ⟨_, bowSet place ⟨0⟩ true, ?_⟩⟩⟩⟩
  · simp only [bowKind, ConstraintKind.slots, List.mem_cons, List.not_mem_nil, or_false] at member
    rcases member with rfl | rfl
    · exact ⟨_, bowChord place, rfl⟩
    · exact ⟨_, bowArc place, rfl⟩
  · refine bindOk.mpr ⟨(), forMOk fun id member => ?_, bindOk.mpr ⟨(), forMOk fun id member => ?_, rfl⟩⟩
    · obtain rfl := List.mem_singleton.mp member
      refine bindOk.mpr ⟨_, bindOk.mpr ⟨_, Setting.directionOk (bowLine place), rfl⟩, oneChecked ?_⟩
      rw [Setting.value, Vec3.evalMagnitude, bowProject rfl, Vec3.evalSub, Vec3.evalToExpr, Vec3.evalToExpr]
      simpa [Vec3.mkSub] using bowLength
    · obtain rfl := List.mem_singleton.mp member
      have radius : (bow place).radiusExpr (.request ⟨7⟩ 0) =
          .ok (Vec3.toExpr ⟨1, 0, 0⟩ - Vec3.toExpr ⟨0, 0, 0⟩ : Vec3 (Expr ℝ)).magnitude :=
        bindOk.mpr ⟨_, entityFound.mpr (bowArc place), bindOk.mpr ⟨_, bowStart place, bindOk.mpr ⟨_, bowCenter place, rfl⟩⟩⟩
      refine bindOk.mpr ⟨_, Setting.liftedOk (bindOk.mpr ⟨_, radius, rfl⟩), oneChecked ?_⟩
      rw [Vec3.evalMagnitude, Vec3.evalSub, Vec3.evalToExpr, Vec3.evalToExpr]
      simpa [Vec3.mkSub] using bowLength

noncomputable def bowResidual (place : Vec3 ℝ) (id : ConstraintId) : Expr ℝ :=
  ((bowSetting place id).project (.ofParams bowSpot - Vec3.toExpr ⟨0, 0, 0⟩)).directionCosine
    ((bowSetting place id).project (Vec3.toExpr ⟨1, 0, 0⟩ - Vec3.toExpr ⟨0, 0, 0⟩))

theorem bowEquations (id : ConstraintId) (reference : Bool) : ∃ qs,
    (bow place).measuredEquations ⟨id, ⟨1⟩, some (.request ⟨5⟩ 0), bowKind, reference⟩ = .ok qs ∧
      qs.map Equation.expr = [bowResidual place id] := by
  refine measuredOk (bowSet place id reference) (bindOk.mpr ⟨_, Setting.liftedOk (entityFound.mpr (bowArc place)), ?_⟩)
  exact bindOk.mpr ⟨_, Setting.liftedOk (bowFinish place), bindOk.mpr ⟨_, Setting.liftedOk (bowCenter place),
    bindOk.mpr ⟨_, Setting.directionOk (bowLine place), rfl⟩⟩⟩

theorem bowRadius (id : ConstraintId) (v : ParamId → ℝ) :
    ((bowSetting place id).project (.ofParams bowSpot - Vec3.toExpr ⟨0, 0, 0⟩)).eval v = ⟨v bowSpot.x, v bowSpot.y, 0⟩ := by
  rw [bowProject rfl, Vec3.evalSub, Vec3.evalOfParams, Vec3.evalToExpr]
  simp [Vec3.map, Vec3.mkSub]

theorem bowDirection (id : ConstraintId) (v : ParamId → ℝ) :
    ((bowSetting place id).project (Vec3.toExpr ⟨1, 0, 0⟩ - Vec3.toExpr ⟨0, 0, 0⟩)).eval v = ⟨1, 0, 0⟩ := by
  rw [bowProject rfl, Vec3.evalSub, Vec3.evalToExpr, Vec3.evalToExpr]
  simp [Vec3.mkSub]

variable {place}

theorem bowUndefined (x : place.x = 0) (y : place.y = 0) (id : ConstraintId) :
    ¬ (bowResidual place id).Defined (bow place).valueOf := by
  obtain ⟨first, second⟩ := bowValues place
  rw [x] at first
  rw [y] at second
  let aside (p : ParamId) : ℝ := if p = bowSpot.x then 1 else 0
  have ahead : aside bowSpot.x = 1 := if_pos rfl
  have level : aside bowSpot.y = 0 := if_neg (by decide)
  refine Expr.quotientUndefined (w := aside) (u := fun _ => 0) ?_ ?_ ?_
  · rw [Expr.evalMul, Vec3.evalMagnitude, Vec3.evalMagnitude, bowRadius, first, second,
      Vec3.lengthZero.mpr (Vec3.dotSelf.mpr ⟨rfl, rfl, rfl⟩), zero_mul]
  · rw [Expr.evalMul, Vec3.evalMagnitude, Vec3.evalMagnitude, bowRadius, bowDirection, ahead, level, bowLength]
    norm_num
  · rw [Vec3.evalDot, Vec3.evalDot, bowRadius, bowRadius, bowDirection, bowDirection, ahead, level]
    norm_num [Vec3.dot]

theorem bowDivides (x : place.x = 0) (y : place.y = 0) (id : ConstraintId) (reference : Bool) :
    (bow place).validate ⟨1⟩ (some (.request ⟨5⟩ 0)) bowKind = .ok () ∧
    ∃ qs, (bow place).measuredEquations ⟨id, ⟨1⟩, some (.request ⟨5⟩ 0), bowKind, reference⟩ = .ok qs ∧
      ∃ q ∈ qs, ¬ q.expr.Defined (bow place).valueOf := by
  obtain ⟨qs, ok, written⟩ := bowEquations place id reference
  have residual : bowResidual place id ∈ qs.map Equation.expr := written ▸ List.mem_singleton_self _
  obtain ⟨q, member, same⟩ := List.mem_map.mp residual
  exact ⟨bowValid place, qs, ok, q, member, same ▸ bowUndefined x y id⟩

theorem bowEnds {o p : Vec3 ℝ} (ends : (bow place).EndsAt (.request ⟨7⟩ 0) .finish o p) :
    o = ⟨0, 0, 0⟩ ∧ p.x = place.x ∧ p.y = place.y := by
  obtain ⟨e, center, start, finish, normal, found, kind, middle, last⟩ := ends
  obtain rfl := Option.some.inj ((bowArc place).symm.trans found)
  cases kind
  obtain ⟨_, placed, same⟩ := bindOk.mp middle
  obtain rfl := Except.ok.inj ((bowCenter place).symm.trans placed)
  obtain rfl := Except.ok.inj same
  obtain ⟨_, placed, same⟩ := bindOk.mp last
  obtain rfl := Except.ok.inj ((bowFinish place).symm.trans placed)
  obtain rfl := Except.ok.inj same
  obtain ⟨x, y⟩ := bowValues place
  rw [Vec3.evalToExpr, Vec3.evalOfParams]
  simp only [Vec3.map, x, y, and_self]

theorem bowClear (apart : place.x ≠ 0 ∨ place.y ≠ 0) (id : ConstraintId) (reference : Bool) :
    (bow place).Clear ⟨id, ⟨1⟩, some (.request ⟨5⟩ 0), bowKind, reference⟩ where
  sturdy part e _ found := by
    obtain ⟨member, _⟩ := bowKnown.mp found
    simp only [bowParts, List.mem_cons, List.not_mem_nil, or_false] at member
    rcases member with rfl | rfl | rfl | rfl | rfl | rfl | rfl <;> trivial
  finishes arc member := nomatch member
  contact arc line tip same w x lies placed o p ends := by
    cases same
    cases lies
    obtain rfl := Except.ok.inj ((bowLevel place).symm.trans placed)
    obtain ⟨rfl, x, y⟩ := bowEnds ends
    rw [floorProject, floorProject, x, y]
    intro same
    obtain ⟨x, y⟩ := Vec2.mk.inj same
    rcases apart with away | away
    · exact away x
    · exact away y

theorem bowDefined : ∃ (s : Sketch ℝ) (w : EntityId) (kind : ConstraintKind ℝ), s.validate ⟨1⟩ (some w) kind = .ok () ∧
    s.Clear ⟨⟨9⟩, ⟨1⟩, some w, kind, false⟩ ∧ ∃ qs, s.measuredEquations ⟨⟨9⟩, ⟨1⟩, some w, kind, false⟩ = .ok qs ∧
      qs.length = 1 ∧ ∀ q ∈ qs, q.expr.Defined s.valueOf := by
  let place : Vec3 ℝ := ⟨0, 1, 0⟩
  have clear : (bow place).Clear _ := bowClear (.inr one_ne_zero) ⟨9⟩ false
  obtain ⟨qs, ok, written⟩ := bowEquations place ⟨9⟩ false
  have count : qs.length = 1 := by rw [← List.length_map, written, List.length_singleton]
  exact ⟨_, _, _, bowValid place, clear, qs, ok, count, validResidualsDefined (bowValid place) ⟨9⟩ false clear ok⟩

end Bow

end Sketch

end Drafting
