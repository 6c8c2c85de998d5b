import Drafting.Proofs.Dependency
import Drafting.Proofs.Signature
/-! Sketches in which every name stands for an entity of its class. In such a sketch a constraint that may be
added has its residuals, as many as its kind asks for, over what entities hold and parameters of its own. -/
namespace Drafting

namespace Result

def Gives (Q : τ → Prop) (x : Except ε τ) : Prop := ∃ y, x = .ok y ∧ Q y

abbrev Computes (x : Except ε τ) : Prop := Gives (fun _ => True) x

section Gives
variable {P : σ → Prop} {Q : τ → Prop}

theorem givesPure {y : τ} (fits : Q y) : Gives Q (pure y : Except ε τ) := ⟨y, rfl, fits⟩

theorem givesBind {x : Except ε σ} {f : σ → Except ε τ} (first : Gives P x) (next : ∀ a, P a → Gives Q (f a)) :
    Gives Q (x >>= f) := by
  obtain ⟨a, here, fits⟩ := first
  obtain ⟨y, there, last⟩ := next a fits
  exact ⟨y, bindOk.mpr ⟨a, here, there⟩, last⟩

theorem givesOk {x : Except ε σ} {f : σ → Except ε τ} {a : σ} (first : x = .ok a) (next : Gives Q (f a)) :
    Gives Q (x >>= f) := givesBind (P := (· = a)) ⟨a, first, rfl⟩ fun _ same => same ▸ next

theorem givesRenamed {x : Except ε τ} {f : ε → ε'} (h : Gives Q x) : Gives Q (x.mapError f) := by
  obtain ⟨y, rfl, fits⟩ := h
  exact ⟨y, rfl, fits⟩

end Gives

end Result

open Result

namespace EntityKind

def isPlanar : EntityKind α → Bool
  | pointIn2d _ | normalIn2d => true
  | _ => false

def dimension : EntityKind α → Nat
  | pointIn3d _ => 3
  | pointIn2d _ => 2
  | _ => 0

end EntityKind

namespace Sketch

def Has (s : Sketch α) (c : EntityClass) (id : EntityId) : Prop :=
  ∃ e, s.entities.get? id = some e ∧ e.isA c = true

/-- What an entity names is there and of the class that belongs there, and the parts of a workplane lie in no
workplane. -/
structure Resolved (s : Sketch α) : Prop where
  parts : ∀ id e, s.entities.get? id = some e → ∀ role ∈ e.kind.roles, s.Has role.1 role.2
  workplane : ∀ id e w, s.entities.get? id = some e → e.workplane = some w → s.Has .workplane w
  flat : ∀ id e, s.entities.get? id = some e → e.isA .workplane = true → ∀ part ∈ e.kind.parts,
    ∀ e', s.entities.get? part = some e' → e'.workplane = none

def Attached (s : Sketch α) : Prop :=
  ∀ id e, s.entities.get? id = some e → e.kind.isPlanar = true → ∃ w, e.workplane = some w

/-- How many residuals a kind of constraint has, in a workplane or in space. A dragged point has one for each
coordinate of its own. -/
def residualCount (s : Sketch α) (planar : Bool) : ConstraintKind α → Nat
  | .pointsCoincident .. | .atMidpoint .. | .symmetric .. => if planar then 2 else 3
  | .pointOnLine .. | .parallel .. => if planar then 1 else 3
  | .symmetricHorizontal .. | .symmetricVertical .. | .symmetricLine .. => 2
  | .sameOrientation .. => 4
  | .whereDragged p => (s.entities.get? p).elim 0 (·.kind.dimension)
  | .comment _ => 0
  | _ => 1

variable {s : Sketch α} {id : EntityId}

theorem Has.widen {c d : EntityClass} (has : s.Has c id) (wider : ∀ k : EntityKind α, k.isA c = true → k.isA d = true) :
    s.Has d id := by
  obtain ⟨e, found, is⟩ := has
  exact ⟨e, found, wider e.kind is⟩

theorem Has.openCurve {c : EntityClass} (has : s.Has c id) (smooth : c = .smooth ∨ c = .cubic) : s.Has .openCurve id := by
  refine has.widen fun k is => ?_
  rcases smooth with rfl | rfl <;> cases k <;> first | rfl | cases is

theorem expectOk {name : String} {c : EntityClass} : s.expect name id c = .ok () ↔ s.Has c id := by
  unfold expect
  constructor
  · intro ok
    obtain ⟨e, there, rest⟩ := bindOk.mp ok
    cases found : s.entity id with
    | error cause =>
      rw [found] at there
      cases there
    | ok e' =>
      rw [found] at there
      cases there
      refine ⟨e, entityFound.mp found, ?_⟩
      by_contra other
      rw [Bool.not_eq_true] at other
      rw [other] at rest
      cases rest
  · intro has
    obtain ⟨e, found, is⟩ := has
    rw [entityFound.mpr found]
    change (if (!e.isA c) = true then _ else _) = _
    rw [is]
    rfl

variable [Scalar α]

section Places

theorem pointFromComputes {plane : EntityId → Except SketchError (PlaneExpr α)} (has : s.Has .point id)
    (level : ∀ e, s.entities.get? id = some e → e.kind.isPlanar = true → ∃ w, e.workplane = some w ∧ Computes (plane w)) :
    Computes (s.pointFrom plane id) := by
  obtain ⟨e, found, is⟩ := has
  have level := level e found
  refine givesOk (entityFound.mpr found) ?_
  rw [Entity.isA] at is
  generalize e.kind = kind at is level ⊢
  cases kind with
  | pointIn3d p => exact givesPure trivial
  | pointIn2d p =>
    obtain ⟨w, lies, _, placed, _⟩ := level rfl
    rw [lies]
    exact givesOk rfl (givesOk placed (givesPure trivial))
  | pointCopy base transform => exact givesPure trivial
  | _ => cases is

theorem normalFromComputes {plane : EntityId → Except SketchError (PlaneExpr α)} (has : s.Has .normal id)
    (level : ∀ e, s.entities.get? id = some e → e.kind.isPlanar = true → ∃ w, e.workplane = some w ∧ Computes (plane w)) :
    Computes (s.normalFrom plane id) := by
  obtain ⟨e, found, is⟩ := has
  have level := level e found
  refine givesOk (entityFound.mpr found) ?_
  rw [Entity.isA] at is
  generalize e.kind = kind at is level ⊢
  cases kind with
  | normalIn3d q => exact givesPure trivial
  | normalIn2d =>
    obtain ⟨w, lies, _, placed, _⟩ := level rfl
    rw [lies]
    exact givesOk rfl (givesOk placed (givesPure trivial))
  | normalCopy base transform => exact givesPure trivial
  | _ => cases is

omit [Scalar α] in
theorem givesEntity {is : EntityClass} {Q : τ → Prop} {f : Entity α → Except SketchError τ} (h : s.Resolved)
    (has : s.Has is id) (each : ∀ e, e.kind.isA is = true → (∀ role ∈ e.kind.roles, s.Has role.1 role.2) → Gives Q (f e)) :
    Gives Q (s.entity id >>= f) := by
  obtain ⟨e, found, holds⟩ := has
  exact givesOk (entityFound.mpr found) (each e holds (h.parts id e found))

variable (h : s.Resolved)
include h

omit [Scalar α] in
theorem centerGives (has : s.Has .round id) : Gives (s.Has .point) (s.centerOf id) := by
  refine givesEntity h has fun ⟨_, _, _, _, kind⟩ is roles => ?_
  cases kind with
  | circle | arc => exact givesPure (roles _ List.mem_cons_self)
  | _ => cases is

omit [Scalar α] in
theorem roundNormalGives (has : s.Has .round id) : Gives (s.Has .normal) (s.normalOf id) := by
  refine givesEntity h has fun ⟨_, _, _, _, kind⟩ is roles => ?_
  cases kind with
  | circle _ normal | arc _ _ _ normal => exact givesPure (roles (.normal, normal) (by simp))
  | _ => cases is

omit [Scalar α] in
theorem distanceComputes (has : s.Has .distance id) : Computes (s.distanceExpr id) := by
  refine givesEntity h has fun ⟨_, _, _, _, kind⟩ is _ => ?_
  cases kind with
  | distance | distanceCopy => exact givesPure trivial
  | _ => cases is

variable (attached : s.Attached)
include attached

/- The parts of a workplane lie in no other, so its place takes one step. -/
theorem planeComputes (has : s.Has .workplane id) : Computes (s.planeExpr id) := by
  obtain ⟨e, found, is⟩ := has
  have flat (c : EntityClass) (part : EntityId) (named : (c, part) ∈ e.kind.roles) (e' : Entity α)
      (there : s.entities.get? part = some e') (planar : e'.kind.isPlanar = true) :
      ∃ w, e'.workplane = some w ∧ Computes (s.planeWithin s.entities.size w) := by
    obtain ⟨w, lies⟩ := attached part e' there planar
    cases (h.flat id e found is part (EntityKind.rolePart named) e' there).symm.trans lies
  have roles := h.parts id e found
  refine givesOk (entityFound.mpr found) ?_
  rw [Entity.isA] at is
  generalize e.kind = kind at is flat roles ⊢
  cases kind with
  | workplane origin normal =>
    have first : (.point, origin) ∈ (EntityKind.workplane origin normal : EntityKind α).roles := by simp
    have second : (.normal, normal) ∈ (EntityKind.workplane origin normal : EntityKind α).roles := by simp
    exact givesBind (pointFromComputes (roles _ first) (flat _ _ first)) fun o _ =>
      givesBind (normalFromComputes (roles _ second) (flat _ _ second)) fun q _ => givesPure trivial
  | _ => cases is

theorem levelComputes (e : Entity α) (found : s.entities.get? id = some e) (planar : e.kind.isPlanar = true) :
    ∃ w, e.workplane = some w ∧ Computes (s.planeExpr w) := by
  obtain ⟨w, lies⟩ := attached id e found planar
  exact ⟨w, lies, planeComputes h attached (h.workplane id e w found lies)⟩

theorem pointComputes (has : s.Has .point id) : Computes (s.pointExpr id) :=
  pointFromComputes has (levelComputes h attached)

theorem normalComputes (has : s.Has .normal id) : Computes (s.normalExpr id) :=
  normalFromComputes has (levelComputes h attached)

theorem planeNormalComputes (has : s.Has .plane id) : Computes (s.planeNormalExpr id) := by
  refine givesEntity h has fun ⟨_, _, _, _, kind⟩ is roles => ?_
  cases kind with
  | workplane _ normal =>
    have turned := roles (.normal, normal) (by simp)
    exact givesBind (normalComputes h attached turned) fun _ _ => givesPure trivial
  | face _ direction =>
    cases direction with
    | normal n =>
      have turned := roles (.normal, n) (by simp)
      exact givesBind (normalComputes h attached turned) fun _ _ => givesPure trivial
    | sweep source target along =>
      have first := roles (.point, source) (by simp)
      have second := roles (.point, target) (by simp)
      exact givesBind (pointComputes h attached second) fun _ _ =>
        givesBind (pointComputes h attached first) fun _ _ => givesPure trivial
  | _ => cases is

theorem planePointComputes (has : s.Has .plane id) : Computes (s.planePointExpr id) := by
  refine givesEntity h has fun ⟨_, _, _, _, kind⟩ is roles => ?_
  cases kind with
  | workplane => exact pointComputes h attached (roles _ List.mem_cons_self)
  | face _ direction => cases direction <;> exact pointComputes h attached (roles _ List.mem_cons_self)
  | _ => cases is

theorem radiusComputes (has : s.Has .round id) : Computes (s.radiusExpr id) := by
  refine givesEntity h has fun ⟨_, _, _, _, kind⟩ is roles => ?_
  cases kind with
  | circle _ _ radius => exact distanceComputes h (roles (.distance, radius) (by simp))
  | arc center start =>
    have middle := roles (.point, center) (by simp)
    have tip := roles (.point, start) (by simp)
    exact givesBind (pointComputes h attached tip) fun _ _ =>
      givesBind (pointComputes h attached middle) fun _ _ => givesPure trivial
  | _ => cases is

theorem positionComputes (has : s.Has .point id) : Computes (s.position id) :=
  givesBind (pointComputes h attached has) fun _ _ => givesPure trivial

theorem orientationComputes (has : s.Has .normal id) : Computes (s.orientation id) :=
  givesBind (normalComputes h attached has) fun _ _ => givesPure trivial

theorem arcAnglesComputes (has : s.Has .arc id) : Computes (s.arcAngles id) := by
  refine givesEntity h has fun ⟨_, _, _, _, kind⟩ is roles => ?_
  cases kind with
  | arc center start finish normal =>
    have point (p : EntityId) (named : p = center ∨ p = start ∨ p = finish) : Computes (s.position p) := by
      refine positionComputes h attached (roles (.point, p) ?_)
      rcases named with rfl | rfl | rfl <;> simp
    have turned := roles (.normal, normal) (by simp)
    refine givesBind (point center (by simp)) fun _ _ => givesBind (orientationComputes h attached turned) fun _ _ => ?_
    exact givesBind (point start (by simp)) fun _ _ => givesBind (point finish (by simp)) fun _ _ => givesPure trivial
  | _ => cases is

end Places

end Sketch

namespace Setting
open Sketch
variable [Scalar α] {c : Setting α} {id : EntityId}

omit [Scalar α] in
theorem givesNamed {is : EntityClass} {Q : τ → Prop} {f : Entity α → Except ConstraintError τ} (h : c.sketch.Resolved)
    (has : c.sketch.Has is id)
    (each : ∀ e, e.kind.isA is = true → (∀ role ∈ e.kind.roles, c.sketch.Has role.1 role.2) → Gives Q (f e)) :
    Gives Q ((liftM (c.sketch.entity id) : Except ConstraintError (Entity α)) >>= f) := by
  obtain ⟨e, found, holds⟩ := has
  refine givesBind (P := (· = e)) (givesRenamed ⟨e, entityFound.mpr found, rfl⟩) fun _ same => ?_
  exact same ▸ each e holds (h.parts id e found)

theorem vanishesCount (d : Vec3 (Expr α)) : (c.vanishes d).length = if c.basis.isSome then 2 else 3 := by
  unfold vanishes
  dsimp only
  split <;> rfl

omit [Scalar α] in
theorem liftedOk {x : Except SketchError τ} {v : τ} (ok : x = .ok v) : (liftM x : Except ConstraintError τ) = .ok v := by
  rw [ok]
  rfl

omit [Scalar α] in
theorem liftedError {x : Except SketchError τ} {cause : SketchError} (failed : x = .error cause) :
    (liftM x : Except ConstraintError τ) = .error (.sketch cause) := by
  rw [failed]
  rfl

theorem coincidentInSpace {a b : EntityId} {p q : Vec3 (Expr α)} (space : c.basis = none)
    (first : c.sketch.pointExpr a = .ok p) (second : c.sketch.pointExpr b = .ok q) :
    c.residuals (.pointsCoincident a b) = .ok (p - q).toList := by
  refine bindOk.mpr ⟨p, liftedOk first, bindOk.mpr ⟨q, liftedOk second, ?_⟩⟩
  simp only [vanishes, project, space]
  rfl

section Parts
variable (h : c.sketch.Resolved) (attached : c.sketch.Attached)
include h attached

theorem placeComputes (has : c.sketch.Has .point id) : Computes (c.point id) :=
  givesRenamed (pointComputes h attached has)

theorem turnComputes (has : c.sketch.Has .normal id) :
    Computes (liftM (c.sketch.normalExpr id) : Except ConstraintError (Quat (Expr α))) :=
  givesRenamed (normalComputes h attached has)

theorem coordinatesComputes (has : c.sketch.Has .point id) : Computes (c.coordinates id) := by
  refine givesBind (placeComputes h attached has) fun p _ => ?_
  cases c.basis <;> exact givesPure trivial

theorem lineComputes (has : c.sketch.Has .line id) : Computes (c.line id) := by
  refine givesNamed h has fun ⟨_, _, _, _, kind⟩ is roles => ?_
  cases kind with
  | line a b =>
    have first := placeComputes h attached (roles (.point, a) (by simp))
    have second := placeComputes h attached (roles (.point, b) (by simp))
    exact givesBind first fun _ _ => givesBind second fun _ _ => givesPure trivial
  | _ => cases is

theorem lineDirectionComputes (has : c.sketch.Has .line id) : Computes (c.lineDirection id) :=
  givesBind (lineComputes h attached has) fun _ _ => givesPure trivial

theorem lineLengthComputes (has : c.sketch.Has .line id) : Computes (c.lineLength id) :=
  givesBind (lineDirectionComputes h attached has) fun _ _ => givesPure trivial

theorem pointLineDistanceComputes {line : EntityId} (point : c.sketch.Has .point id) (has : c.sketch.Has .line line) :
    Computes (c.pointLineDistance id line) :=
  givesBind (lineComputes h attached has) fun _ _ => givesBind (placeComputes h attached point) fun _ _ => givesPure trivial

theorem planeHeightComputes {plane : EntityId} (point : c.sketch.Has .point id) (has : c.sketch.Has .plane plane) :
    Computes (c.planeHeight id plane) :=
  givesBind (givesRenamed (planePointComputes h attached has)) fun _ _ =>
    givesBind (givesRenamed (planeNormalComputes h attached has)) fun _ _ =>
      givesBind (placeComputes h attached point) fun _ _ => givesPure trivial

theorem planeAxesComputes (has : c.sketch.Has .plane id) (n : Vec3 (Expr α)) : Computes (c.planeAxes id n) := by
  refine givesNamed h has fun ⟨_, _, _, _, kind⟩ is roles => ?_
  cases kind with
  | workplane _ normal =>
    have turned := roles (.normal, normal) (by simp)
    exact givesBind (turnComputes h attached turned) fun _ _ => givesPure trivial
  | face _ direction =>
    cases direction with
    | normal m =>
      have turned := roles (.normal, m) (by simp)
      exact givesBind (turnComputes h attached turned) fun _ _ => givesPure trivial
    | sweep source target along =>
      have first := placeComputes h attached (roles (.point, source) (by simp))
      have second := placeComputes h attached (roles (.point, target) (by simp))
      exact givesBind second fun _ _ => givesBind first fun _ _ => givesPure trivial
  | _ => cases is

theorem arcLengthComputes (has : c.sketch.Has .arc id) : Computes (c.arcLength id) := by
  have angles := arcAnglesComputes h attached has
  refine givesNamed h has fun ⟨_, _, _, _, kind⟩ is roles => ?_
  cases kind with
  | arc center start finish normal =>
    have point (p : EntityId) (named : p = center ∨ p = start ∨ p = finish) : Computes (c.point p) := by
      refine placeComputes h attached (roles (.point, p) ?_)
      rcases named with rfl | rfl | rfl <;> simp
    refine givesBind (point center (by simp)) fun _ _ => givesBind (point start (by simp)) fun _ _ => ?_
    refine givesBind (point finish (by simp)) fun _ _ => ?_
    exact givesBind (givesRenamed angles) fun _ _ => givesPure trivial
  | _ => cases is

theorem endTangentComputes (has : c.sketch.Has .openCurve id) (tip : ArcEnd) : Computes (c.endTangent id tip) := by
  refine givesNamed h has fun ⟨_, _, _, _, kind⟩ is roles => ?_
  have point (p : EntityId) (named : (.point, p) ∈ kind.roles) : Computes (c.point p) :=
    placeComputes h attached (roles _ named)
  cases kind with
  | arc center start finish normal =>
    have turned := roles (.normal, normal) (by simp)
    refine givesBind (turnComputes h attached turned) fun _ _ => givesBind (point _ ?_) fun _ _ => ?_
    · cases tip <;> simp
    · exact givesBind (point center (by simp)) fun _ _ => givesPure trivial
  | cubic p0 p1 p2 p3 =>
    cases tip with
    | start =>
      exact givesBind (point p1 (by simp)) fun _ _ =>
        givesBind (point p0 (by simp)) fun _ _ => givesPure trivial
    | finish =>
      exact givesBind (point p3 (by simp)) fun _ _ =>
        givesBind (point p2 (by simp)) fun _ _ => givesPure trivial
  | line a b =>
    exact givesBind (point b (by simp)) fun _ _ =>
      givesBind (point a (by simp)) fun _ _ => givesPure trivial
  | _ => cases is

theorem arcLineTangentGives {arc line : EntityId} (hasArc : c.sketch.Has .arc arc) (hasLine : c.sketch.Has .line line)
    (tip : ArcEnd) : Gives (·.length = 1) (c.residuals (.arcLineTangent arc line tip)) := by
  refine givesNamed h hasArc fun ⟨_, _, _, _, kind⟩ is roles => ?_
  have point (p : EntityId) (named : (.point, p) ∈ kind.roles) : Computes (c.point p) :=
    placeComputes h attached (roles _ named)
  cases kind with
  | arc center start finish normal =>
    refine givesBind (point _ ?_) fun _ _ => givesBind (point center (by simp)) fun _ _ => ?_
    · cases tip <;> simp
    · exact givesBind (lineDirectionComputes h attached hasLine) fun _ _ => givesPure rfl
  | _ => cases is

theorem cubicLineTangentGives {cubic line : EntityId} (hasCubic : c.sketch.Has .cubic cubic)
    (hasLine : c.sketch.Has .line line) (tip : ArcEnd) :
    Gives (·.length = 1) (c.residuals (.cubicLineTangent cubic line tip)) := by
  refine givesNamed h hasCubic fun e is _ => ?_
  rw [Entity.isA, is]
  exact givesBind (endTangentComputes h attached (hasCubic.openCurve (.inr rfl)) tip) fun _ _ =>
    givesBind (lineDirectionComputes h attached hasLine) fun _ _ => givesPure rfl

theorem symmetricGives {a b plane : EntityId} (hasA : c.sketch.Has .point a) (hasB : c.sketch.Has .point b)
    (hasPlane : c.sketch.Has .plane plane) :
    Gives (·.length = if c.basis.isSome then 2 else 3) (c.residuals (.symmetric a b plane)) := by
  refine givesBind (placeComputes h attached hasA) fun _ _ => givesBind (placeComputes h attached hasB) fun _ _ => ?_
  refine givesBind (givesRenamed (planePointComputes h attached hasPlane)) fun _ _ => ?_
  refine givesBind (givesRenamed (planeNormalComputes h attached hasPlane)) fun n _ => ?_
  cases c.basis with
  | some b => exact givesPure rfl
  | none => exact givesBind (planeAxesComputes h attached hasPlane n) fun _ _ => givesPure rfl

theorem pointOnLineGives {point line : EntityId} (hasPoint : c.sketch.Has .point point)
    (hasLine : c.sketch.Has .line line) :
    Gives (·.length = if c.basis.isSome then 1 else 3) (c.residuals (.pointOnLine point line)) := by
  unfold residuals
  cases c.basis with
  | some b => exact givesBind (pointLineDistanceComputes h attached hasPoint hasLine) fun _ _ => givesPure rfl
  | none =>
    exact givesBind (lineComputes h attached hasLine) fun _ _ =>
      givesBind (placeComputes h attached hasPoint) fun _ _ => givesPure rfl

theorem pointOnCircleGives {point circle : EntityId} (hasPoint : c.sketch.Has .point point)
    (hasCircle : c.sketch.Has .round circle) : Gives (·.length = 1) (c.residuals (.pointOnCircle point circle)) := by
  refine givesBind (givesRenamed (roundNormalGives h hasCircle)) fun _ normal => ?_
  refine givesBind (turnComputes h attached normal) fun _ _ => ?_
  refine givesBind (givesRenamed (centerGives h hasCircle)) fun _ center => ?_
  refine givesBind (placeComputes h attached center) fun _ _ => ?_
  refine givesBind (placeComputes h attached hasPoint) fun _ _ => ?_
  exact givesBind (givesRenamed (radiusComputes h attached hasCircle)) fun _ _ => givesPure rfl

theorem residualsGiven {k : ConstraintKind α} (slots : ∀ slot ∈ k.slots, c.sketch.Has slot.1 slot.2) :
    Gives (·.length = c.sketch.residualCount c.basis.isSome k) (c.residuals k) := by
  have place {id : EntityId} (has : c.sketch.Has .point id) := placeComputes h attached has
  have direction {id : EntityId} (has : c.sketch.Has .line id) := lineDirectionComputes h attached has
  have length {id : EntityId} (has : c.sketch.Has .line id) := lineLengthComputes h attached has
  have arcLength {id : EntityId} (has : c.sketch.Has .arc id) := arcLengthComputes h attached has
  have radius {id : EntityId} (has : c.sketch.Has .round id) :
      Computes (liftM (c.sketch.radiusExpr id) : Except ConstraintError (Expr α)) :=
    givesRenamed (radiusComputes h attached has)
  cases k with
  | comment => exact givesPure rfl
  | whereDragged p =>
    obtain ⟨e, found, is⟩ := slots (.point, p) List.mem_cons_self
    refine givesBind (P := (· = e)) (givesRenamed ⟨e, entityFound.mpr found, rfl⟩) fun _ same => same ▸ givesPure ?_
    rw [List.length_map, residualCount, found]
    rw [Entity.isA] at is
    change e.kind.ownParams.length = e.kind.dimension
    generalize e.kind = kind at is ⊢
    cases kind <;> first | rfl | cases is
  | diameter circle =>
    have has := slots _ List.mem_cons_self
    exact givesBind (radius has) fun _ _ => givesPure rfl
  | horizontal line | vertical line =>
    have has := slots _ List.mem_cons_self
    exact givesBind (direction has) fun _ _ => givesPure rfl
  | pointsCoincident a b =>
    obtain ⟨first, second⟩ : c.sketch.Has .point a ∧ c.sketch.Has .point b := by simpa [ConstraintKind.slots] using slots
    exact givesBind (place first) fun _ _ => givesBind (place second) fun _ _ => givesPure (vanishesCount _)
  | pointPointDistance a b =>
    obtain ⟨first, second⟩ : c.sketch.Has .point a ∧ c.sketch.Has .point b := by simpa [ConstraintKind.slots] using slots
    exact givesBind (place first) fun _ _ => givesBind (place second) fun _ _ => givesPure rfl
  | symmetricHorizontal a b | symmetricVertical a b =>
    obtain ⟨first, second⟩ : c.sketch.Has .point a ∧ c.sketch.Has .point b := by simpa [ConstraintKind.slots] using slots
    exact givesBind (coordinatesComputes h attached first) fun _ _ =>
      givesBind (coordinatesComputes h attached second) fun _ _ => givesPure rfl
  | projectedDistance a b along =>
    obtain ⟨first, second, line⟩ : c.sketch.Has .point a ∧ c.sketch.Has .point b ∧ c.sketch.Has .line along := by
      simpa [ConstraintKind.slots] using slots
    exact givesBind (lineComputes h attached line) fun _ _ => givesBind (place second) fun _ _ =>
      givesBind (place first) fun _ _ => givesPure rfl
  | pointPlaneDistance p plane | pointInPlane p plane =>
    obtain ⟨point, has⟩ : c.sketch.Has .point p ∧ c.sketch.Has .plane plane := by simpa [ConstraintKind.slots] using slots
    exact givesBind (planeHeightComputes h attached point has) fun _ _ => givesPure rfl
  | pointFaceDistance p face | pointOnFace p face =>
    obtain ⟨point, has⟩ : c.sketch.Has .point p ∧ c.sketch.Has .face face := by simpa [ConstraintKind.slots] using slots
    have plane : c.sketch.Has .plane face := has.widen fun k is => by cases k <;> first | rfl | cases is
    exact givesBind (planeHeightComputes h attached point plane) fun _ _ => givesPure rfl
  | pointLineDistance p line =>
    obtain ⟨point, has⟩ : c.sketch.Has .point p ∧ c.sketch.Has .line line := by simpa [ConstraintKind.slots] using slots
    exact givesBind (pointLineDistanceComputes h attached point has) fun _ _ => givesPure rfl
  | pointOnLine p line =>
    obtain ⟨point, has⟩ : c.sketch.Has .point p ∧ c.sketch.Has .line line := by simpa [ConstraintKind.slots] using slots
    exact pointOnLineGives h attached point has
  | atMidpoint p line =>
    obtain ⟨point, has⟩ : c.sketch.Has .point p ∧ c.sketch.Has .line line := by simpa [ConstraintKind.slots] using slots
    exact givesBind (lineComputes h attached has) fun _ _ => givesBind (place point) fun _ _ => givesPure (vanishesCount _)
  | pointOnCircle p circle =>
    obtain ⟨point, has⟩ : c.sketch.Has .point p ∧ c.sketch.Has .round circle := by simpa [ConstraintKind.slots] using slots
    exact pointOnCircleGives h attached point has
  | equalLengthLines a b | lengthRatio a b | lengthDifference a b =>
    obtain ⟨first, second⟩ : c.sketch.Has .line a ∧ c.sketch.Has .line b := by simpa [ConstraintKind.slots] using slots
    exact givesBind (length first) fun _ _ => givesBind (length second) fun _ _ => givesPure rfl
  | angle a b | perpendicular a b =>
    obtain ⟨first, second⟩ : c.sketch.Has .line a ∧ c.sketch.Has .line b := by simpa [ConstraintKind.slots] using slots
    exact givesBind (direction first) fun _ _ => givesBind (direction second) fun _ _ => givesPure rfl
  | parallel a b =>
    obtain ⟨first, second⟩ : c.sketch.Has .line a ∧ c.sketch.Has .line b := by simpa [ConstraintKind.slots] using slots
    refine givesBind (direction first) fun _ _ => givesBind (direction second) fun _ _ => givesPure ?_
    cases plane : c.basis <;> simp [residualCount, Vec3.toList]
  | equalAngle a b d e =>
    obtain ⟨hasA, hasB, hasD, hasE⟩ : c.sketch.Has .line a ∧ c.sketch.Has .line b ∧ c.sketch.Has .line d ∧
      c.sketch.Has .line e := by simpa [ConstraintKind.slots] using slots
    refine givesBind (direction hasA) fun _ _ => givesBind (direction hasB) fun _ _ => ?_
    exact givesBind (direction hasD) fun _ _ => givesBind (direction hasE) fun _ _ => givesPure rfl
  | equalLengthPointLineDistance line p other =>
    obtain ⟨hasLine, point, hasOther⟩ : c.sketch.Has .line line ∧ c.sketch.Has .point p ∧ c.sketch.Has .line other := by
      simpa [ConstraintKind.slots] using slots
    exact givesBind (pointLineDistanceComputes h attached point hasOther) fun _ _ =>
      givesBind (length hasLine) fun _ _ => givesPure rfl
  | equalPointLineDistances pa la pb lb =>
    obtain ⟨pointA, lineA, pointB, lineB⟩ : c.sketch.Has .point pa ∧ c.sketch.Has .line la ∧ c.sketch.Has .point pb ∧
      c.sketch.Has .line lb := by simpa [ConstraintKind.slots] using slots
    exact givesBind (pointLineDistanceComputes h attached pointA lineA) fun _ _ =>
      givesBind (pointLineDistanceComputes h attached pointB lineB) fun _ _ => givesPure rfl
  | equalLineArcLength line arc =>
    obtain ⟨hasLine, hasArc⟩ : c.sketch.Has .line line ∧ c.sketch.Has .arc arc := by
      simpa [ConstraintKind.slots] using slots
    exact givesBind (length hasLine) fun _ _ => givesBind (arcLength hasArc) fun _ _ => givesPure rfl
  | arcLineLengthRatio arc line | arcLineDifference arc line =>
    obtain ⟨hasLine, hasArc⟩ : c.sketch.Has .line line ∧ c.sketch.Has .arc arc := by
      simpa [ConstraintKind.slots] using slots
    exact givesBind (arcLength hasArc) fun _ _ => givesBind (length hasLine) fun _ _ => givesPure rfl
  | arcArcLengthRatio a b | arcArcDifference a b =>
    obtain ⟨first, second⟩ : c.sketch.Has .arc a ∧ c.sketch.Has .arc b := by simpa [ConstraintKind.slots] using slots
    exact givesBind (arcLength first) fun _ _ => givesBind (arcLength second) fun _ _ => givesPure rfl
  | equalRadius a b =>
    obtain ⟨first, second⟩ : c.sketch.Has .round a ∧ c.sketch.Has .round b := by simpa [ConstraintKind.slots] using slots
    exact givesBind (radius first) fun _ _ => givesBind (radius second) fun _ _ => givesPure rfl
  | symmetric a b plane =>
    obtain ⟨first, second, has⟩ : c.sketch.Has .point a ∧ c.sketch.Has .point b ∧ c.sketch.Has .plane plane := by
      simpa [ConstraintKind.slots] using slots
    exact symmetricGives h attached first second has
  | symmetricLine a b line =>
    obtain ⟨first, second, has⟩ : c.sketch.Has .point a ∧ c.sketch.Has .point b ∧ c.sketch.Has .line line := by
      simpa [ConstraintKind.slots] using slots
    exact givesBind (lineComputes h attached has) fun _ _ => givesBind (place first) fun _ _ =>
      givesBind (place second) fun _ _ => givesPure rfl
  | sameOrientation a b =>
    obtain ⟨first, second⟩ : c.sketch.Has .normal a ∧ c.sketch.Has .normal b := by
      simpa [ConstraintKind.slots] using slots
    exact givesBind (turnComputes h attached first) fun _ _ =>
      givesBind (turnComputes h attached second) fun _ _ => givesPure rfl
  | arcLineTangent arc line tip =>
    obtain ⟨hasLine, hasArc⟩ : c.sketch.Has .line line ∧ c.sketch.Has .arc arc := by
      simpa [ConstraintKind.slots] using slots
    exact arcLineTangentGives h attached hasArc hasLine tip
  | cubicLineTangent cubic line tip =>
    obtain ⟨hasCubic, hasLine⟩ : c.sketch.Has .cubic cubic ∧ c.sketch.Has .line line := by
      simpa [ConstraintKind.slots] using slots
    exact cubicLineTangentGives h attached hasCubic hasLine tip
  | curveCurveTangent a b ends =>
    obtain ⟨first, second⟩ : c.sketch.Has .smooth a ∧ c.sketch.Has .smooth b := by
      simpa [ConstraintKind.slots] using slots
    exact givesBind (endTangentComputes h attached (first.openCurve (.inl rfl)) ends.first) fun _ _ =>
      givesBind (endTangentComputes h attached (second.openCurve (.inl rfl)) ends.second) fun _ _ => givesPure rfl

end Parts

end Setting
namespace Sketch
variable [Scalar α] {s : Sketch α}

omit [Scalar α] in
theorem slotsChecked {kind : ConstraintKind α} (ok : s.checkEntities kind = .ok ()) :
    ∀ slot ∈ kind.slots, s.Has slot.1 slot.2 := by
  obtain ⟨_, checked, _⟩ := bindOk.mp (s.checkEntitiesSlots kind ▸ ok)
  intro slot member
  exact expectOk.mp (forMEach checked slot member)

omit [Scalar α] in
theorem slotsPass {kind : ConstraintKind α} (names : ∀ slot ∈ kind.slots, s.Has slot.1 slot.2)
    (still : s.checkDragged kind = .ok ()) : s.checkEntities kind = .ok () := by
  rw [checkEntitiesSlots]
  exact bindOk.mpr ⟨(), forMOk fun slot member => expectOk.mpr (names slot member), still⟩

theorem validNames {group : GroupId} {workplane : Option EntityId} {kind : ConstraintKind α}
    (valid : s.validate group workplane kind = .ok ()) :
    (∀ w, workplane = some w → s.Has .workplane w) ∧ ∀ slot ∈ kind.slots, s.Has slot.1 slot.2 := by
  obtain ⟨_, _, rest⟩ := bindOk.mp valid
  cases workplane with
  | some w =>
    obtain ⟨_, plane, rest⟩ := bindOk.mp rest
    obtain ⟨_, checked, _⟩ := bindOk.mp rest
    exact ⟨fun _ same => Option.some.inj same ▸ expectOk.mp plane, slotsChecked checked⟩
  | none =>
    dsimp only at rest
    split at rest
    · cases rest
    · obtain ⟨_, checked, _⟩ := bindOk.mp rest
      exact ⟨nofun, slotsChecked checked⟩

theorem settingGiven (h : s.Resolved) (attached : s.Attached) {c : Constraint α}
    (plane : ∀ w, c.workplane = some w → s.Has .workplane w) :
    Gives (fun d => d.sketch = s ∧ d.basis.isSome = c.workplane.isSome) (Setting.of s c) := by
  unfold Setting.of
  cases lies : c.workplane with
  | none => exact givesPure ⟨rfl, rfl⟩
  | some w => exact givesBind (givesRenamed (planeComputes h attached (plane w lies))) fun _ _ => givesPure ⟨rfl, rfl⟩

theorem validInSpace {group : GroupId} {g : Group α} {kind : ConstraintKind α} (registered : s.groups.get? group = some g)
    (free : kind.requiresWorkplane = false) (fits : s.checkEntities kind = .ok ())
    (sound : ∀ c, s.checkDegenerate c kind = .ok ()) : s.validate group none kind = .ok () := by
  refine bindOk.mpr ⟨g, ?_, ?_⟩
  · rw [groupFound.mpr registered]
    rfl
  · dsimp only
    rw [free]
    exact bindOk.mpr ⟨(), fits, sound _⟩

/-! A drawing as it may be loaded, whatever its entities name. -/

section Loaded
variable {es : List (Entity Float)}

def loaded (es : List (Entity Float)) : Sketch Float where
  groups := Registry.add {} drawingGroup
  entities := es.foldl Registry.add {}

theorem loadedGroup : (loaded es).groups.get? ⟨1⟩ = some drawingGroup :=
  Registry.emptyConsistent.getAddSelf drawingGroup

theorem loadedEntities (distinct : (es.map Entity.id).Nodup) {id : EntityId} {e : Entity Float} :
    (loaded es).entities.get? id = some e ↔ e ∈ es ∧ e.id = id := Registry.getFilled distinct

theorem loadedHas (distinct : (es.map Entity.id).Nodup) {e : Entity Float} {is : EntityClass} (member : e ∈ es)
    (holds : e.isA is = true) : (loaded es).Has is e.id := ⟨e, (loadedEntities distinct).mpr ⟨member, rfl⟩, holds⟩

theorem loadedResolved (distinct : (es.map Entity.id).Nodup)
    (plain : ∀ e ∈ es, e.kind.roles = [] ∧ e.workplane = none ∧ e.isA .workplane = false) : (loaded es).Resolved where
  parts id e found role named := by
    rw [(plain e ((loadedEntities distinct).mp found).1).1] at named
    cases named
  workplane id e w found lies := by
    cases (plain e ((loadedEntities distinct).mp found).1).2.1.symm.trans lies
  flat id e found is := by
    cases (plain e ((loadedEntities distinct).mp found).1).2.2.symm.trans is

end Loaded

/- A constraint that may be added has its equations under any name, numbered in order. What they mention is a
parameter of the constraint itself or held by an entity. -/
theorem validConstraintCompiles (resolved : s.Resolved) (attached : s.Attached) {group : GroupId}
    {workplane : Option EntityId} {kind : ConstraintKind α} (valid : s.validate group workplane kind = .ok ())
    (id : ConstraintId) (reference : Bool) :
    ∃ qs, s.measuredEquations ⟨id, group, workplane, kind, reference⟩ = .ok qs ∧
      qs.map Equation.id = (List.range (s.residualCount workplane.isSome kind)).map (.constraint id) ∧
      ∀ q ∈ qs, ∀ p ∈ q.expr.params, p ∈ (⟨id, group, workplane, kind, reference⟩ : Constraint α).helpers ∨ s.Held p := by
  let c : Constraint α := ⟨id, group, workplane, kind, reference⟩
  obtain ⟨plane, slots⟩ := validNames valid
  have written : Gives (fun qs => qs.map Equation.id =
      (List.range (s.residualCount workplane.isSome kind)).map (.constraint id)) (s.measuredEquations c) := by
    refine givesBind (settingGiven resolved attached plane) fun d ⟨sketch, planar⟩ => ?_
    subst sketch
    refine givesBind (Setting.residualsGiven resolved attached slots) fun rs count => givesPure ?_
    have count : rs.length = d.sketch.residualCount workplane.isSome kind := count.trans (by rw [planar])
    exact List.ext_getElem (by simp [count]) fun i _ _ => by simp [c]
  obtain ⟨qs, ok, numbered⟩ := written
  refine ⟨qs, ok, numbered, fun q member => Expr.overIff.mp ?_⟩
  have covered := heldCoveredBy (s := s) (P := fun p => p ∈ c.helpers ∨ s.Held p) fun p held => .inr held
  exact measuredEquationsOver covered (fun _ _ => trivial) (fun _ own => .inl own) qs ok q member

theorem orientationsCompile : ∃ (s : Sketch Float) (kind : ConstraintKind Float), s.Resolved ∧ s.Attached ∧
    s.validate ⟨1⟩ none kind = .ok () ∧ ∃ qs, s.measuredEquations ⟨⟨9⟩, ⟨1⟩, none, kind, false⟩ = .ok qs ∧
      qs.map Equation.id = (List.range 4).map (.constraint ⟨9⟩) ∧
      ∀ q ∈ qs, ∀ p ∈ q.expr.params, p ∈ [ParamId.constraint ⟨9⟩ 0] ∨ s.Held p := by
  let turned (r : RequestId) : Entity Float :=
    { id := .request r 0, group := ⟨1⟩, kind := .normalIn3d ⟨.request r 1, .request r 2, .request r 3, .request r 0⟩ }
  let es := [turned ⟨1⟩, turned ⟨2⟩]
  have distinct : (es.map Entity.id).Nodup := by decide
  have resolved : (loaded es).Resolved := loadedResolved distinct (by simp [es, turned, EntityKind.roles, Entity.isA,
    EntityKind.isA, EntityKind.classes])
  have attached : (loaded es).Attached := by
    intro id e found planar
    have member := ((loadedEntities distinct).mp found).1
    simp only [es, List.mem_cons, List.not_mem_nil, or_false] at member
    rcases member with rfl | rfl <;> cases planar
  let kind : ConstraintKind Float := .sameOrientation (turned ⟨1⟩).id (turned ⟨2⟩).id
  have fits : (loaded es).checkEntities kind = .ok () := by
    refine slotsPass (fun slot member => ?_) rfl
    simp only [kind, ConstraintKind.slots, List.mem_cons, List.not_mem_nil, or_false] at member
    rcases member with rfl | rfl
    · exact loadedHas distinct (e := turned ⟨1⟩) (by simp [es]) rfl
    · exact loadedHas distinct (e := turned ⟨2⟩) (by simp [es]) rfl
  have valid : (loaded es).validate ⟨1⟩ none kind = .ok () := validInSpace loadedGroup rfl fits fun _ => rfl
  exact ⟨loaded es, kind, resolved, attached, valid, validConstraintCompiles resolved attached valid ⟨9⟩ false⟩

theorem looseEntitiesAllowed : ∃ s : Sketch Float, s.Resolved ∧
    (∃ kind, s.validate ⟨1⟩ none kind = .ok () ∧
      ∃ qs, s.measuredEquations ⟨⟨9⟩, ⟨1⟩, none, kind, false⟩ = .ok qs ∧ ∃ q ∈ qs, ∃ p ∈ q.expr.params,
        p.owner = .constraint ⟨5⟩ ∧ p ∉ (⟨⟨9⟩, ⟨1⟩, none, kind, false⟩ : Constraint Float).helpers) ∧
    ∃ kind, s.validate ⟨1⟩ none kind = .ok () ∧
      ∃ cause, s.measuredEquations ⟨⟨9⟩, ⟨1⟩, none, kind, false⟩ = .error cause := by
  let spot : Entity Float :=
    { id := .request ⟨1⟩ 0, group := ⟨1⟩, kind := .pointIn3d ⟨.request ⟨1⟩ 0, .request ⟨1⟩ 1, .request ⟨1⟩ 2⟩ }
  let stray : Entity Float :=
    { id := .request ⟨2⟩ 0, group := ⟨1⟩, kind := .pointIn3d ⟨.constraint ⟨5⟩ 0, .constraint ⟨5⟩ 1, .constraint ⟨5⟩ 2⟩ }
  let loose : Entity Float :=
    { id := .request ⟨3⟩ 0, group := ⟨1⟩, kind := .pointIn2d ⟨.request ⟨3⟩ 0, .request ⟨3⟩ 1⟩ }
  let es := [spot, stray, loose]
  have distinct : (es.map Entity.id).Nodup := by decide
  have resolved : (loaded es).Resolved := loadedResolved distinct (by simp [es, spot, stray, loose, EntityKind.roles,
    Entity.isA, EntityKind.isA, EntityKind.classes])
  have there (e : Entity Float) (member : e ∈ es) : (loaded es).entity e.id = .ok e :=
    entityFound.mpr ((loadedEntities distinct).mpr ⟨member, rfl⟩)
  have valid (a b : Entity Float) (ha : a ∈ es) (hb : b ∈ es) (pa : a.isA .point = true) (pb : b.isA .point = true) :
      (loaded es).validate ⟨1⟩ none (.pointsCoincident a.id b.id) = .ok () := by
    refine validInSpace loadedGroup rfl (slotsPass (fun slot member => ?_) rfl) fun _ => rfl
    simp only [ConstraintKind.slots, List.mem_cons, List.not_mem_nil, or_false] at member
    rcases member with rfl | rfl
    · exact loadedHas distinct ha pa
    · exact loadedHas distinct hb pb
  have first : (loaded es).pointExpr spot.id = .ok (.ofParams ⟨.request ⟨1⟩ 0, .request ⟨1⟩ 1, .request ⟨1⟩ 2⟩) := by
    rw [pointExpr, pointFrom, there spot (by simp [es])]
    rfl
  have second : (loaded es).pointExpr stray.id =
      .ok (.ofParams ⟨.constraint ⟨5⟩ 0, .constraint ⟨5⟩ 1, .constraint ⟨5⟩ 2⟩) := by
    rw [pointExpr, pointFrom, there stray (by simp [es])]
    rfl
  have third : (loaded es).pointExpr loose.id = .error (.missingWorkplane loose.id) := by
    rw [pointExpr, pointFrom, there loose (by simp [es])]
    rfl
  let apart (i : Nat) : Equation Float :=
    ⟨.constraint ⟨9⟩ i, .difference (.param (.request ⟨1⟩ i)) (.param (.constraint ⟨5⟩ i))⟩
  refine ⟨loaded es, resolved, ⟨.pointsCoincident spot.id stray.id, ?_, [apart 0, apart 1, apart 2], ?_, apart 0, ?_⟩,
    .pointsCoincident spot.id loose.id, ?_, .sketch (.missingWorkplane loose.id), ?_⟩
  · exact valid spot stray (by simp [es]) (by simp [es]) rfl rfl
  · exact bindOk.mpr ⟨_, rfl, bindOk.mpr ⟨_, Setting.coincidentInSpace rfl first second, rfl⟩⟩
  · exact ⟨List.mem_cons_self, .constraint ⟨5⟩ 0, List.mem_cons_of_mem _ List.mem_cons_self, rfl,
      by simp [Constraint.helpers, ConstraintKind.helperCount]⟩
  · exact valid spot loose (by simp [es]) (by simp [es]) rfl rfl
  · refine bindError.mpr (.inr ⟨⟨loaded es, ⟨9⟩, "Coincident", none⟩, rfl, bindError.mpr (.inl ?_)⟩)
    exact bindError.mpr (.inr ⟨_, Setting.liftedOk first, bindError.mpr (.inl (Setting.liftedError third))⟩)

omit [Scalar α] in
theorem Intact.heldPlain (h : s.Intact) {p : ParamId} (held : s.Held p) (k : ConstraintId) : p.owner ≠ .constraint k := by
  obtain ⟨id, e, found, member⟩ := held
  obtain ⟨_, holds, _⟩ := ownReads h found member
  exact holds.plain k

omit [Scalar α] in
theorem Intact.helperFree (h : s.Intact) {c : Constraint α} {p : ParamId} (own : p ∈ c.helpers) : ¬ s.Held p := by
  obtain ⟨i, _, rfl⟩ := List.mem_map.mp own
  exact fun held => h.heldPlain held c.id rfl

theorem intactMentionsOwn (h : s.Intact) (c : Constraint α) :
    All (fun qs => ∀ q ∈ qs, q.expr.Over fun p => p ∈ c.helpers ∨ ∀ k, p.owner ≠ .constraint k) (s.measuredEquations c) :=
  measuredEquationsOver (heldCoveredBy fun _ held => .inr (h.heldPlain held)) (fun _ _ => trivial) fun _ own => .inl own

end Sketch
end Drafting
