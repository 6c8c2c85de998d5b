import Drafting.Proofs.Cancelling
import Drafting.Proofs.Placing
import Drafting.Proofs.Planar
import Drafting.Proofs.Rotation
import Drafting.Proofs.Workplanes
/-! Dimensions that are measured. The one residual of a dimension is an expression less the number asked for. To
measure it, it is read with the number zero, and what is read is then asked for, so that nothing remains. An angle is
read off the cosine that its residual is about, and above a right angle its supplement is kept. -/
namespace Drafting
open Result

instance : LawfulDifference ℝ where
  lessSelf _ := by simp
  lessZero _ := by simp
  ofLessZero _ := rfl

namespace Expr
variable [Scalar α] {v : ParamId → α}

theorem evalLess (e : Expr α) (x : α) : (e - const x).eval v = e.eval v - x ∨
    (x == 0.0) = true ∧ (e - const x).eval v = e.eval v := by
  change (minus e (const x)).eval v = _ ∨ _ ∧ (minus e (const x)).eval v = _
  unfold minus
  cases known : e.const? with
  | some y =>
    rw [ofConst known]
    exact .inl rfl
  | none =>
    by_cases zero : (x == 0.0) = true
    · exact .inr ⟨zero, by simp only [const?, zero, if_true]⟩
    · refine .inl ?_
      simp only [const?, zero]
      rfl

theorem readAgain [LawfulDifference α] (e : Expr α) {x : α} (read : (e - const 0.0).eval v = x) (finite : Arith.isFinite x = true) :
    ((e - const x).eval v == 0.0) = true := by
  have worth : e.eval v = x := by
    rcases e.evalLess (v := v) 0.0 with less | ⟨_, same⟩
    · rw [less] at read
      have within := LawfulDifference.ofLessZero (read ▸ finite)
      exact (LawfulDifference.lessZero within).symm.trans read
    · exact same.symm.trans read
  rcases e.evalLess (v := v) x with less | ⟨zero, same⟩
  · rw [less, worth]
    exact LawfulDifference.lessSelf finite
  · rw [same, worth]
    exact zero

end Expr

namespace ConstraintKind

def isAngle : ConstraintKind α → Prop
  | angle .. => True
  | _ => False

theorem typeNameOfSetValue (k : ConstraintKind α) (x : α) : (k.setValue x).typeName = k.typeName := by
  cases k <;> rfl

end ConstraintKind

namespace Setting
variable [Scalar α] {c : Setting α}

theorem numberLast {k : ConstraintKind α} (dimension : k.isDimensional = true) (straight : ¬ k.isAngle) {x : α}
    {rs : List (Expr α)} (ok : c.residuals (k.setValue x) = .ok rs) :
    ∃ e, rs = [e - .const x] ∧ ∀ y, c.residuals (k.setValue y) = .ok [e - .const y] := by
  cases k with
  | angle => exact (straight trivial).elim
  | projectedDistance =>
    obtain ⟨first, one, ok⟩ := bindOk.mp ok
    obtain ⟨second, two, ok⟩ := bindOk.mp ok
    obtain ⟨third, three, ok⟩ := bindOk.mp ok
    cases ok
    exact ⟨_, rfl, fun y => bindOk.mpr ⟨first, one, bindOk.mpr ⟨second, two, bindOk.mpr ⟨third, three, rfl⟩⟩⟩⟩
  | pointPointDistance | lengthRatio | arcArcLengthRatio | arcLineLengthRatio | lengthDifference
  | arcArcDifference | arcLineDifference =>
    obtain ⟨first, one, ok⟩ := bindOk.mp ok
    obtain ⟨second, two, ok⟩ := bindOk.mp ok
    cases ok
    exact ⟨_, rfl, fun y => bindOk.mpr ⟨first, one, bindOk.mpr ⟨second, two, rfl⟩⟩⟩
  | pointPlaneDistance | pointFaceDistance | pointLineDistance | diameter =>
    obtain ⟨first, one, ok⟩ := bindOk.mp ok
    cases ok
    exact ⟨_, rfl, fun y => bindOk.mpr ⟨first, one, rfl⟩⟩
  | _ => cases dimension

structure Matches (c d : Setting α) : Prop where
  entities : d.sketch.entities = c.sketch.entities
  params : d.sketch.params = c.sketch.params
  constraint : d.constraint = c.constraint
  name : d.name = c.name
  basis : d.basis = c.basis

namespace Matches
variable {d : Setting α} (same : Matches c d)
include same

omit [Scalar α] in
theorem entity : d.sketch.entity = c.sketch.entity := funext fun id => by
  rw [Sketch.entity, Sketch.entity, same.entities]

theorem values : d.sketch.valueOf = c.sketch.valueOf := funext fun p => by
  rw [Sketch.valueOf, Sketch.valueOf, same.params]

theorem places : d.sketch.pointExpr = c.sketch.pointExpr := funext (Sketch.pointOfEntities same.entities)

theorem directions : d.sketch.normalExpr = c.sketch.normalExpr := funext (Sketch.normalOfEntities same.entities)

theorem point : d.point = c.point := funext fun id => by
  rw [Setting.point, Setting.point, same.places]

theorem project : d.project = c.project := funext fun v => by
  rw [Setting.project, Setting.project, same.basis]

theorem value : d.value = c.value := funext fun e => by
  rw [Setting.value, Setting.value, same.values]

theorem positive : d.positive = c.positive := funext fun e => by
  rw [Setting.positive, Setting.positive]
  simp only [same.value]

theorem line : d.line = c.line := funext fun id => by
  simp only [Setting.line, Setting.wrong, same.entity, same.point, same.name]

theorem lineDirection : d.lineDirection = c.lineDirection := funext fun id => by
  simp only [Setting.lineDirection, same.line, same.project]

theorem lineLength : d.lineLength = c.lineLength := funext fun id => by
  simp only [Setting.lineLength, same.lineDirection]

theorem pointLineDistance : d.pointLineDistance = c.pointLineDistance := funext fun p => funext fun id => by
  simp only [Setting.pointLineDistance, same.line, same.point, same.project, same.basis]

theorem planePoint : d.sketch.planePointExpr = c.sketch.planePointExpr := funext fun id => by
  simp only [Sketch.planePointExpr, same.entity, same.places]

theorem planeNormal : d.sketch.planeNormalExpr = c.sketch.planeNormalExpr := funext fun id => by
  simp only [Sketch.planeNormalExpr, same.entity, same.places, same.directions]

theorem planeHeight : d.planeHeight = c.planeHeight := funext fun p => funext fun id => by
  simp only [Setting.planeHeight, same.point, same.planePoint, same.planeNormal]

theorem planeAxes : d.planeAxes = c.planeAxes := funext fun id => funext fun n => by
  simp only [Setting.planeAxes, Setting.wrong, same.entity, same.point, same.directions, same.name]

theorem radius : d.sketch.radiusExpr = c.sketch.radiusExpr := funext fun id => by
  simp only [Sketch.radiusExpr, Sketch.distanceExpr, same.entity, same.places]

theorem arcLength : d.arcLength = c.arcLength := funext fun id => by
  simp only [Setting.arcLength, Setting.wrong, Sketch.arcAngles, Sketch.position, Sketch.orientation, same.entity,
    same.point, same.places, same.directions, same.values, same.name]

theorem endTangent : d.endTangent = c.endTangent := funext fun id => funext fun tip => by
  simp only [Setting.endTangent, Setting.wrong, same.entity, same.point, same.directions, same.name]

theorem coordinates : d.coordinates = c.coordinates := funext fun id => by
  simp only [Setting.coordinates, same.point, same.project, same.basis]

theorem vanishes : d.vanishes = c.vanishes := funext fun v => by
  simp only [Setting.vanishes, same.project, same.basis]

theorem residuals (k : ConstraintKind α) : d.residuals k = c.residuals k := by
  cases k <;> simp only [Setting.residuals, Setting.helper, Setting.wrong, Sketch.normalOf, Sketch.centerOf, same.entity,
    same.values, same.constraint, same.name, same.basis, same.directions, same.point, same.project, same.value,
    same.positive, same.line, same.lineDirection, same.lineLength, same.pointLineDistance, same.planePoint,
    same.planeNormal, same.planeHeight, same.planeAxes, same.radius, same.arcLength, same.endTangent, same.coordinates,
    same.vanishes]

end Matches

end Setting

theorem Registry.getChanged {κ τ : Type} [BEq κ] [Hashable κ] {r : Registry κ τ} {key : κ} {x : τ}
    (found : r.get? key = some x) (f : τ → τ) : (r.modify key f).get? key = some (f x) := by
  unfold modify get? at *
  cases place : r.index[key]? with
  | none =>
    rw [place] at found
    cases found
  | some i =>
    rw [place] at found
    simp only [Option.bind_some, place] at found ⊢
    rw [Array.getElem?_modify, if_pos rfl, found]
    rfl

namespace Sketch

theorem settingMatches [Scalar α] {s t : Sketch α} (entities : t.entities = s.entities) (params : t.params = s.params)
    {c : Constraint α} {k : ConstraintKind α} (name : k.typeName = c.kind.typeName) {d : Setting α}
    (ok : Setting.of s c = .ok d) : ∃ d', Setting.of t { c with kind := k } = .ok d' ∧ Setting.Matches d d' := by
  unfold Setting.of at ok ⊢
  dsimp only
  cases plane : c.workplane with
  | none =>
    rw [plane] at ok
    cases ok
    exact ⟨_, rfl, entities, params, rfl, name, rfl⟩
  | some w =>
    rw [plane] at ok
    obtain ⟨x, placed, ok⟩ := bindOk.mp ok
    cases ok
    have there : (t.planeExpr w : Except ConstraintError (PlaneExpr α)) = .ok x := by
      rw [planeExpr, entities, planeWithinOfEntities entities]
      exact placed
    exact ⟨_, bindOk.mpr ⟨x, there, rfl⟩, entities, params, rfl, name, rfl⟩

theorem settingSketch [Scalar α] {s : Sketch α} {c : Constraint α} {d : Setting α} (ok : Setting.of s c = .ok d) :
    d.sketch = s := by
  unfold Setting.of at ok
  cases plane : c.workplane with
  | none =>
    rw [plane] at ok
    cases ok
    rfl
  | some w =>
    rw [plane] at ok
    obtain ⟨x, _, ok⟩ := bindOk.mp ok
    cases ok
    rfl

section Measuring
variable [Scalar α] {s t : Sketch α} {id : ConstraintId} {c : Constraint α}

theorem remeasureRecords (found : s.constraints.get? id = some c) (ok : remeasure id s = (.ok (), t)) :
    ∃ k, s.measured c = .ok k ∧ t.constraints.get? id = some { c with kind := k } ∧ t.entities = s.entities ∧
      t.params = s.params := by
  obtain ⟨c', read, ok⟩ := Edit.readThen ok
  obtain rfl := Option.some.inj (found.symm.trans (constraintFound.mp read))
  obtain ⟨k, measured, ok⟩ := Edit.readThen ok
  obtain rfl := Attempt.modifyOk.mp ok
  exact ⟨k, measured, Registry.getChanged found _, rfl, rfl⟩

theorem equationOk {d : Setting α} {e : Expr α} (setting : Setting.of s c = .ok d) (written : d.residuals c.kind = .ok [e]) :
    s.measuredEquations c = .ok [⟨.constraint c.id 0, e⟩] :=
  bindOk.mpr ⟨d, setting, bindOk.mpr ⟨[e], written, rfl⟩⟩

theorem measuredDimension (dimension : c.kind.isDimensional = true) (straight : ¬ c.kind.isAngle) {k : ConstraintKind α}
    (ok : s.measured c = .ok k) : ∃ d e, Setting.of s { c with kind := c.kind.setValue 0.0 } = .ok d ∧
      (∀ y, d.residuals (c.kind.setValue y) = .ok [e - .const y]) ∧
      k = c.kind.setValue ((e - .const 0.0).eval s.valueOf) := by
  unfold measured at ok
  split at ok
  · rename_i angle
    rw [angle] at straight
    exact (straight trivial).elim
  · rw [if_pos dimension] at ok
    obtain ⟨qs, equations, ok⟩ := bindOk.mp ok
    obtain ⟨d, setting, equations⟩ := bindOk.mp equations
    obtain ⟨rs, written, equations⟩ := bindOk.mp equations
    obtain ⟨e, rfl, last⟩ := Setting.numberLast dimension straight written
    cases equations
    cases ok
    exact ⟨d, e, setting, last, rfl⟩

theorem dimensionHolds [LawfulDifference α] (found : s.constraints.get? id = some c) (dimension : c.kind.isDimensional = true)
    (straight : ¬ c.kind.isAngle) (ok : remeasure id s = (.ok (), t)) :
    ∃ x, t.constraints.get? id = some { c with kind := c.kind.setValue x } ∧ (Arith.isFinite x = true →
      ∃ e, t.measuredEquations { c with kind := c.kind.setValue x } = .ok [⟨.constraint c.id 0, e⟩] ∧
        (e.eval t.valueOf == 0.0) = true) := by
  obtain ⟨k, measured, now, entities, params⟩ := remeasureRecords found ok
  obtain ⟨d, e, setting, last, rfl⟩ := measuredDimension dimension straight measured
  have values : t.valueOf = s.valueOf := funext fun p => by rw [valueOf, valueOf, params]
  rw [values]
  refine ⟨_, now, fun finite => ⟨_, ?_, e.readAgain rfl finite⟩⟩
  have name (x : α) : (c.kind.setValue x).typeName = (c.kind.setValue 0.0).typeName :=
    (c.kind.typeNameOfSetValue x).trans (c.kind.typeNameOfSetValue 0.0).symm
  obtain ⟨d', setting', same⟩ := settingMatches entities params (name _) setting
  exact equationOk setting' ((same.residuals _).trans (last _))

end Measuring

end Sketch

theorem exactNinety : (90.0 : ℝ) = 90 := by norm_num

theorem exactStraight : (180.0 : ℝ) = 180 := by norm_num

namespace Vec3

theorem evalCosine {a b : Vec3 (Expr ℝ)} {v : ParamId → ℝ} :
    (a.directionCosine b).eval v = (a.eval v).cosine (b.eval v) := by
  rw [directionCosine, Expr.evalDiv, Expr.evalMul, evalDot, evalMagnitude, evalMagnitude]
  rfl

variable {a b : Vec3 ℝ}

theorem negCosine : (-a).cosine b = -a.cosine b := by
  rw [cosine, cosine, negDot, negLength, neg_div]

theorem dotBound : |a.dot b| ≤ a.length * b.length := by
  refine abs_le_of_sq_le_sq ?_ (mul_nonneg lengthNonneg lengthNonneg)
  have squares : 0 ≤ (a.cross b).dot (a.cross b) := lengthSelf (a := a.cross b) ▸ mul_self_nonneg _
  rw [crossSelf, ← lengthSelf, ← lengthSelf] at squares
  linarith

theorem cosineBound : |a.cosine b| ≤ 1 := by
  rw [cosine, abs_div, abs_of_nonneg (mul_nonneg (lengthNonneg (a := a)) (lengthNonneg (a := b)))]
  exact div_le_one_of_le₀ dotBound (mul_nonneg lengthNonneg lengthNonneg)

theorem cosineNegative : a.cosine b < 0 ↔ a.dot b < 0 := by
  have nonneg := mul_nonneg (lengthNonneg (a := a)) (lengthNonneg (a := b))
  constructor
  · intro negative
    exact lt_of_not_ge fun large => absurd (div_nonneg large nonneg) (not_le.mpr negative)
  · intro negative
    -- Vectors with a product have lengths.
    have long : 0 < a.length * b.length := (abs_pos.mpr negative.ne).trans_le dotBound
    exact div_neg_of_neg_of_pos negative long

end Vec3

theorem radiansDegrees (y : ℝ) : Scalar.radians (Scalar.degrees y) = y := by
  change y * (180.0 / Real.pi) * (Real.pi / 180.0) = y
  rw [exactStraight]
  field_simp

theorem radiansSupplement (y : ℝ) : Scalar.radians (180.0 - Scalar.degrees y) = Real.pi - y := by
  change (180.0 - y * (180.0 / Real.pi)) * (Real.pi / 180.0) = Real.pi - y
  rw [exactStraight]
  field_simp

theorem degreesBetween (y : ℝ) : 0 ≤ Scalar.degrees (Real.arccos y) ∧ Scalar.degrees (Real.arccos y) ≤ 180 := by
  change 0 ≤ Real.arccos y * (180.0 / Real.pi) ∧ Real.arccos y * (180.0 / Real.pi) ≤ 180
  rw [exactStraight, mul_div_assoc', div_le_iff₀ Real.pi_pos]
  have high := Real.arccos_le_pi y
  have low := Real.arccos_nonneg y
  constructor
  · positivity
  · linarith

theorem degreesObtuse (y : ℝ) : 90 < Scalar.degrees (Real.arccos y) ↔ y < 0 := by
  change 90 < Real.arccos y * (180.0 / Real.pi) ↔ y < 0
  rw [exactStraight, mul_div_assoc', lt_div_iff₀ Real.pi_pos, ← not_le (b := y), ← Real.arccos_le_pi_div_two, not_le]
  constructor <;> intro above <;> linarith

theorem clampWithin {y : ℝ} (within : |y| ≤ 1) : Arith.clamp y (-1.0) 1.0 = y := by
  obtain ⟨low, high⟩ := abs_le.mp within
  rw [Arith.clamp, exactOne, if_neg (not_lt.mpr low), if_neg (not_lt.mpr high)]

noncomputable def acute (y : ℝ) : ℝ × Bool :=
  if 90 < Scalar.degrees (Real.arccos y) then (180.0 - Scalar.degrees (Real.arccos y), true)
  else (Scalar.degrees (Real.arccos y), false)

theorem acuteRange (y : ℝ) : 0 ≤ (acute y).1 ∧ (acute y).1 ≤ 90 := by
  obtain ⟨low, high⟩ := degreesBetween y
  unfold acute
  split
  · rename_i obtuse
    rw [exactStraight]
    exact ⟨by linarith, by linarith⟩
  · rename_i sharp
    exact ⟨low, not_lt.mp sharp⟩

theorem acuteSide (y : ℝ) : (acute y).2 = true ↔ y < 0 := by
  rw [← degreesObtuse]
  unfold acute
  split
  · rename_i obtuse
    exact iff_of_true rfl obtuse
  · rename_i sharp
    exact iff_of_false Bool.false_ne_true sharp

theorem acuteCosine {y : ℝ} (within : |y| ≤ 1) :
    Real.cos (Scalar.radians (acute y).1) = if (acute y).2 then -y else y := by
  obtain ⟨low, high⟩ := abs_le.mp within
  unfold acute
  split
  · rw [radiansSupplement, Real.cos_pi_sub, Real.cos_arccos low high]
    rfl
  · rw [radiansDegrees, Real.cos_arccos low high]
    rfl

namespace Sketch
section Angles
variable {s t : Sketch ℝ} {id : ConstraintId} {c : Constraint ℝ} {a b : EntityId} {x : ℝ} {flag : Bool}

theorem measuredAngle (angle : c.kind = .angle a b x flag) {k : ConstraintKind ℝ} (ok : s.measured c = .ok k) :
    ∃ d da db, Setting.of s c = .ok d ∧ d.lineDirection a = .ok da ∧ d.lineDirection b = .ok db ∧
      k = .angle a b (acute (d.value (da.directionCosine db))).1 (acute (d.value (da.directionCosine db))).2 := by
  unfold measured at ok
  rw [angle] at ok
  obtain ⟨d, setting, ok⟩ := bindOk.mp ok
  obtain ⟨da, first, ok⟩ := bindOk.mp ok
  obtain ⟨db, second, ok⟩ := bindOk.mp ok
  have bound : |d.value (da.directionCosine db)| ≤ 1 := by
    rw [Setting.value, Vec3.evalCosine]
    exact Vec3.cosineBound
  dsimp only at ok
  rw [clampWithin bound, exactNinety] at ok
  cases ok
  refine ⟨d, da, db, setting, first, second, ?_⟩
  unfold acute
  change (if 90 < Scalar.degrees (Real.arccos _) then _ else _) = _
  split <;> rfl

theorem angleHolds (found : s.constraints.get? id = some c) (angle : c.kind = .angle a b x flag)
    (ok : remeasure id s = (.ok (), t)) : ∃ degrees other,
      t.constraints.get? id = some { c with kind := .angle a b degrees other } ∧ 0 ≤ degrees ∧ degrees ≤ 90 ∧
      (∃ d da db, Setting.of t { c with kind := .angle a b degrees other } = .ok d ∧ d.lineDirection a = .ok da ∧
        d.lineDirection b = .ok db ∧ (other = true ↔ (da.eval t.valueOf).dot (db.eval t.valueOf) < 0)) ∧
      ∃ e, t.measuredEquations { c with kind := .angle a b degrees other } = .ok [⟨.constraint c.id 0, e⟩] ∧
        e.eval t.valueOf = 0 := by
  obtain ⟨k, measured, now, entities, params⟩ := remeasureRecords found ok
  obtain ⟨d, da, db, setting, first, second, rfl⟩ := measuredAngle angle measured
  have values : t.valueOf = s.valueOf := funext fun p => by rw [valueOf, valueOf, params]
  have read : d.value (da.directionCosine db) = (da.eval t.valueOf).cosine (db.eval t.valueOf) := by
    rw [Setting.value, Vec3.evalCosine, settingSketch setting, values]
  rw [read] at now
  generalize worth : (da.eval t.valueOf).cosine (db.eval t.valueOf) = y at now
  have within : |y| ≤ 1 := worth ▸ Vec3.cosineBound
  have name : (ConstraintKind.angle a b (acute y).1 (acute y).2).typeName = c.kind.typeName := by
    rw [angle]
    rfl
  obtain ⟨d', setting', same⟩ := settingMatches entities params name setting
  rw [← same.lineDirection] at first second
  refine ⟨_, _, now, (acuteRange y).1, (acuteRange y).2, ⟨d', da, db, setting', first, second, ?_⟩, _,
    equationOk setting' (bindOk.mpr ⟨da, first, bindOk.mpr ⟨db, second, rfl⟩⟩), ?_⟩
  · rw [acuteSide, ← worth, Vec3.cosineNegative]
  · have cosine : Scalar.cos (Scalar.radians (acute y).1) = if (acute y).2 then -y else y := acuteCosine within
    rw [Expr.evalSub, Expr.evalConst, cosine, ← worth, Vec3.evalCosine]
    cases (acute ((da.eval t.valueOf).cosine (db.eval t.valueOf))).2 with
    | false => exact sub_self _
    | true =>
      rw [if_pos rfl, if_pos rfl, Vec3.evalNeg, Vec3.negCosine]
      exact sub_self _

end Angles

/- A dimension that has been measured holds: with the number that it was given it has one equation, whose residual is
zero at the current values. For all but angles this takes only that finite numbers cancel. An angle is one from zero to
ninety degrees, taken as the supplement just where the two directions point away from each other. -/
theorem measuredHolds :
    (∀ {α : Type} [Scalar α] [LawfulDifference α] {s t : Sketch α} {id : ConstraintId} {c : Constraint α},
      s.constraints.get? id = some c → c.kind.isDimensional = true → ¬ c.kind.isAngle → remeasure id s = (.ok (), t) →
      ∃ x, t.constraints.get? id = some { c with kind := c.kind.setValue x } ∧ (Arith.isFinite x = true →
        ∃ e, t.measuredEquations { c with kind := c.kind.setValue x } = .ok [⟨.constraint c.id 0, e⟩] ∧
          (e.eval t.valueOf == 0.0) = true)) ∧
    ∀ {s t : Sketch ℝ} {id : ConstraintId} {c : Constraint ℝ} {a b : EntityId} {x : ℝ} {flag : Bool},
      s.constraints.get? id = some c → c.kind = .angle a b x flag → remeasure id s = (.ok (), t) → ∃ degrees other,
      t.constraints.get? id = some { c with kind := .angle a b degrees other } ∧ 0 ≤ degrees ∧ degrees ≤ 90 ∧
      (∃ d da db, Setting.of t { c with kind := .angle a b degrees other } = .ok d ∧ d.lineDirection a = .ok da ∧
        d.lineDirection b = .ok db ∧ (other = true ↔ (da.eval t.valueOf).dot (db.eval t.valueOf) < 0)) ∧
      ∃ e, t.measuredEquations { c with kind := .angle a b degrees other } = .ok [⟨.constraint c.id 0, e⟩] ∧
        e.eval t.valueOf = 0 :=
  ⟨dimensionHolds, angleHolds⟩

theorem remeasureRuns [Scalar α] {s : Sketch α} {id : ConstraintId} {c : Constraint α} {k : ConstraintKind α}
    (found : s.constraints.get? id = some c) (measured : s.measured c = .ok k) : ∃ t, remeasure id s = (.ok (), t) :=
  ⟨_, Attempt.bindOk.mpr ⟨c, s, Edit.readOk.mpr ⟨constraintFound.mpr found, rfl⟩,
    Attempt.bindOk.mpr ⟨k, s, Edit.readOk.mpr ⟨measured, rfl⟩, Attempt.modifyOk.mpr rfl⟩⟩⟩

theorem Joins.ofEntities {s t : Sketch ℝ} {id : EntityId} {p q : Vec3 (Expr ℝ)} (entities : t.entities = s.entities)
    (joins : s.Joins id p q) : t.Joins id p q := by
  obtain ⟨e, a, b, found, kind, first, second⟩ := joins
  exact ⟨e, a, b, entities ▸ found, kind, (pointOfEntities entities a).trans first, (pointOfEntities entities b).trans second⟩

def ringParts : List (Entity Float) :=
  [numbered 1 (.distanceCopy 2.5), numbered 2 (.circle (.request ⟨3⟩ 0) (.request ⟨4⟩ 0) (.request ⟨1⟩ 0))]

def ringDiameter : Constraint Float := ⟨⟨1⟩, ⟨1⟩, none, .diameter (.request ⟨2⟩ 0) 7, true⟩

def ring : Sketch Float where
  entities := ringParts.foldl Registry.add {}
  constraints := Registry.add {} ringDiameter

theorem ringThere {e : Entity Float} (member : e ∈ ringParts) : ring.entities.get? e.id = some e :=
  (Registry.getFilled (by decide)).mpr ⟨member, rfl⟩

theorem ringListed : ring.constraints.get? ringDiameter.id = some ringDiameter := Registry.emptyConsistent.getAddSelf _

theorem ringRead : ring.measured ringDiameter = .ok (ringDiameter.kind.setValue (2.0 * 2.5 - 0.0)) := by
  have circle : ring.entity (.request ⟨2⟩ 0) = .ok _ := entityFound.mpr (ringThere (List.mem_cons_of_mem _ List.mem_cons_self))
  have size : ring.radiusExpr (.request ⟨2⟩ 0) = .ok (.const 2.5) :=
    bindOk.mpr ⟨_, circle, bindOk.mpr ⟨_, entityFound.mpr (ringThere List.mem_cons_self), rfl⟩⟩
  exact bindOk.mpr ⟨_, equationOk (c := { ringDiameter with kind := ringDiameter.kind.setValue 0.0 }) rfl
    (bindOk.mpr ⟨_, Setting.liftedOk size, rfl⟩), rfl⟩

noncomputable def cornerParts : List (Entity ℝ) := [numbered 1 (.pointCopy ⟨0, 0, 0⟩ .identity),
  numbered 2 (.pointCopy ⟨1, 0, 0⟩ .identity), numbered 3 (.pointCopy ⟨-1, 1, 0⟩ .identity),
  numbered 4 (.line (.request ⟨1⟩ 0) (.request ⟨2⟩ 0)), numbered 5 (.line (.request ⟨1⟩ 0) (.request ⟨3⟩ 0))]

noncomputable def cornerAngle : Constraint ℝ := ⟨⟨1⟩, ⟨1⟩, none, .angle (.request ⟨4⟩ 0) (.request ⟨5⟩ 0) 30 false, true⟩

noncomputable def corner : Sketch ℝ where
  entities := cornerParts.foldl Registry.add {}
  constraints := Registry.add {} cornerAngle

theorem cornerThere (n : Nat) (kind : EntityKind ℝ) (member : numbered n kind ∈ cornerParts) :
    corner.entities.get? (.request ⟨n⟩ 0) = some (numbered n kind) :=
  (Registry.getFilled (by decide)).mpr ⟨member, rfl⟩

theorem cornerListed : corner.constraints.get? cornerAngle.id = some cornerAngle := Registry.emptyConsistent.getAddSelf _

theorem cornerPoint (n : Nat) (p : Vec3 ℝ) (member : numbered n (.pointCopy p .identity) ∈ cornerParts) :
    corner.pointExpr (.request ⟨n⟩ 0) = .ok p.toExpr := pointOfCopy (cornerThere n _ member) rfl

theorem cornerLine (n m : Nat) (p : Vec3 ℝ) (line : numbered n (.line (.request ⟨1⟩ 0) (.request ⟨m⟩ 0)) ∈ cornerParts)
    (tip : numbered m (.pointCopy p .identity) ∈ cornerParts) :
    corner.Joins (.request ⟨n⟩ 0) (Vec3.toExpr ⟨0, 0, 0⟩) p.toExpr :=
  ⟨_, _, _, cornerThere n _ line, rfl, cornerPoint 1 _ (by simp [cornerParts]), cornerPoint m p tip⟩

theorem cornerFirst : corner.Joins (.request ⟨4⟩ 0) (Vec3.toExpr ⟨0, 0, 0⟩) (Vec3.toExpr ⟨1, 0, 0⟩) :=
  cornerLine 4 2 _ (by simp [cornerParts]) (by simp [cornerParts])

theorem cornerSecond : corner.Joins (.request ⟨5⟩ 0) (Vec3.toExpr ⟨0, 0, 0⟩) (Vec3.toExpr ⟨-1, 1, 0⟩) :=
  cornerLine 5 3 _ (by simp [cornerParts]) (by simp [cornerParts])

theorem ringAndCornerMeasured :
    (∃ (s t : Sketch Float) (c : Constraint Float) (x : Float), s.constraints.get? c.id = some c ∧
      c.kind.isDimensional = true ∧ ¬ c.kind.isAngle ∧ remeasure c.id s = (.ok (), t) ∧
      t.constraints.get? c.id = some { c with kind := c.kind.setValue x } ∧ x.isFinite = true ∧
      ∃ e, t.measuredEquations { c with kind := c.kind.setValue x } = .ok [⟨.constraint c.id 0, e⟩] ∧
        (e.eval t.valueOf == 0.0) = true) ∧
    ∃ (s t : Sketch ℝ) (c : Constraint ℝ) (a b : EntityId), s.constraints.get? c.id = some c ∧
      c.kind = .angle a b 30 false ∧ remeasure c.id s = (.ok (), t) ∧
      ∃ degrees e, t.constraints.get? c.id = some { c with kind := .angle a b degrees true } ∧
        t.measuredEquations { c with kind := .angle a b degrees true } = .ok [⟨.constraint c.id 0, e⟩] ∧
        e.eval t.valueOf = 0 := by
  constructor
  · obtain ⟨t, run⟩ := remeasureRuns ringListed ringRead
    obtain ⟨x, now, holds⟩ := measuredHolds.1 ringListed rfl id run
    obtain ⟨k, read, now', _⟩ := remeasureRecords ringListed run
    cases ringRead.symm.trans read
    cases now.symm.trans now'
    have finite : (2.0 * 2.5 - 0.0 : Float).isFinite = true := by decide
    exact ⟨ring, t, ringDiameter, _, ringListed, rfl, id, run, now, finite, holds finite⟩
  · have read : corner.measured cornerAngle = .ok _ := bindOk.mpr ⟨_, rfl, bindOk.mpr ⟨_, Setting.directionOk cornerFirst,
      bindOk.mpr ⟨_, Setting.directionOk cornerSecond, rfl⟩⟩⟩
    obtain ⟨t, run⟩ := remeasureRuns cornerListed read
    obtain ⟨degrees, other, now, _, _, ⟨d, da, db, setting, along, across, side⟩, e, equation, worth⟩ :=
      measuredHolds.2 cornerListed rfl run
    obtain ⟨_, _, _, entities, _⟩ := remeasureRecords cornerListed run
    have still : d.sketch.entities = corner.entities := (congrArg Sketch.entities (settingSketch setting)).trans entities
    cases along.symm.trans (Setting.directionOk (cornerFirst.ofEntities still))
    cases across.symm.trans (Setting.directionOk (cornerSecond.ofEntities still))
    cases setting
    have apart : other = true := by
      rw [side]
      simp only [Setting.project, Vec3.evalSub, Vec3.evalToExpr, Vec3.dot, Vec3.mkSub]
      norm_num
    exact ⟨corner, t, cornerAngle, _, _, cornerListed, rfl, run, degrees, e, apart ▸ now, apart ▸ equation, worth⟩

end Sketch
end Drafting
