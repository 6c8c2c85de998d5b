import Mathlib.Analysis.Real.Pi.Bounds
import Drafting.Proofs.Defined
import Drafting.Proofs.Measured
import Drafting.Proofs.Mirror
/-! What residuals divide by. Validation looks at the lines whose direction a residual needs and at the first radius of
the arcs. Where no arc that is measured ends at its center, where the center of an arc that touches a line does not lie
over the contact, and where what the constraint names is sturdy, no residual divides by zero. -/
namespace Drafting
open Result Sketch

theorem Result.allBoth {P Q : τ → Prop} {x : Except ε τ} (first : All P x) (second : All Q x) :
    All (fun y => P y ∧ Q y) x := fun y ok => ⟨first y ok, second y ok⟩

namespace Vec3
variable {a b : Vec3 ℝ}

theorem cosineOne (longA : 0 < a.length) (longB : 0 < b.length) (same : a.cosine b = 1) :
    ∃ k, 0 < k ∧ b = a.scale k := by
  have product : a.dot b = a.length * b.length := by
    rwa [cosine, div_eq_one_iff_eq (mul_pos longA longB).ne'] at same
  have square : 0 < a.dot a := lengthSelf (a := a) ▸ mul_pos longA longA
  have flat : (a.cross b).dot (a.cross b) = 0 := by
    rw [crossSelf, product, ← lengthSelf, ← lengthSelf]
    ring
  obtain ⟨k, rfl⟩ := (crossZero square.ne').mp flat
  refine ⟨k, ?_, rfl⟩
  have positive : 0 < a.dot (a.scale k) := product ▸ mul_pos longA longB
  rw [dotComm, scaleDot] at positive
  exact pos_of_mul_pos_right positive square.le

theorem apartLength (apart : a ≠ b) : 0 < (a - b).length :=
  lengthNonneg.lt_of_ne' fun none => apart (subSelf.mp (lengthZero.mp none))

theorem turnDefined {v : ParamId → ℝ} {a b : Vec3 (Expr ℝ)} {sweep : ℝ} (ha : a.Defined v) (hb : b.Defined v)
    (longA : 0 < (a.eval v).length) (longB : 0 < (b.eval v).length)
    (full : ∀ k, 0 < k → b.eval v = (a.eval v).scale k → Real.pi < sweep) :
    let theta := (a.dot b / (a.magnitude * b.magnitude)).acos
    let length := a.magnitude * if Scalar.pi < sweep then .const Scalar.tau - theta else theta
    length.Defined v ∧ length.eval v ≠ 0 := by
  intro theta length
  have cosine : (a.dot b / (a.magnitude * b.magnitude)).eval v = (a.eval v).cosine (b.eval v) := evalCosine
  have bound := abs_le.mp (cosineBound (a := a.eval v) (b := b.eval v))
  have defined : theta.Defined v :=
    Expr.withinFold ⟨definedDirectionCosine ha hb longA longB, cosine ▸ bound⟩
  have worth : theta.eval v = Real.arccos ((a.eval v).cosine (b.eval v)) := by rw [Expr.evalAcos, cosine]
  refine ⟨Expr.withinMul (definedMagnitude ha) ?_, ?_⟩
  · split
    · exact Expr.withinSub trivial defined
    · exact defined
  · rw [Expr.evalMul, evalMagnitude]
    refine mul_ne_zero longA.ne' ?_
    split
    · rw [Expr.evalSub, Expr.evalConst, worth]
      refine (sub_pos.mpr ((Real.arccos_le_pi _).trans_lt ?_)).ne'
      change Real.pi < 2.0 * Real.pi
      linarith [Real.pi_pos, exactTwo]
    · rename_i half
      rw [worth]
      intro none
      obtain ⟨k, positive, along⟩ := cosineOne longA longB (le_antisymm bound.2 (Real.arccos_eq_zero.mp none))
      exact half (full k positive along)

end Vec3

theorem angleScaled (x y : ℝ) {k : ℝ} (positive : 0 < k) : Scalar.atan2 (y * k) (x * k) = Scalar.atan2 y x := by
  change Complex.arg ⟨x * k, y * k⟩ = Complex.arg ⟨x, y⟩
  rw [← Complex.arg_real_mul ⟨x, y⟩ positive]
  congr 1
  apply Complex.ext <;> simp [mul_comm]

namespace Sketch

def EndsAt (s : Sketch ℝ) (arc : EntityId) (tip : ArcEnd) (o p : Vec3 ℝ) : Prop :=
  ∃ e center start finish normal, s.entities.get? arc = some e ∧ e.kind = .arc center start finish normal ∧
    s.position center = .ok o ∧ s.position (match tip with | .start => start | .finish => finish) = .ok p

theorem fullTurn {s : Sketch ℝ} {arc center start finish normal : EntityId} {e : Entity ℝ} {o p q : Vec3 ℝ} {k : ℝ}
    {angles : ArcAngles ℝ} (found : s.entities.get? arc = some e) (kind : e.kind = .arc center start finish normal)
    (middle : s.position center = .ok o) (first : s.position start = .ok p) (second : s.position finish = .ok q)
    (positive : 0 < k) (along : q - o = (p - o).scale k) (ok : s.arcAngles arc = .ok angles) : Real.pi < angles.sweep := by
  obtain ⟨e', there, ok⟩ := bindOk.mp ok
  cases found.symm.trans (entityFound.mp there)
  rw [kind] at ok
  obtain ⟨o', there, ok⟩ := bindOk.mp ok
  cases middle.symm.trans there
  obtain ⟨turn, _, ok⟩ := bindOk.mp ok
  obtain ⟨p', there, ok⟩ := bindOk.mp ok
  cases first.symm.trans there
  obtain ⟨q', there, ok⟩ := bindOk.mp ok
  cases second.symm.trans there
  cases ok
  have scaled (n : Vec3 ℝ) : (q - o).dot n = (p - o).dot n * k := by rw [along, Vec3.scaleDot]
  have same : Scalar.atan2 ((Frame.mk o turn).project q).y ((Frame.mk o turn).project q).x =
      Scalar.atan2 ((Frame.mk o turn).project p).y ((Frame.mk o turn).project p).x := by
    change Scalar.atan2 ((q - o).dot _) ((q - o).dot _) = Scalar.atan2 ((p - o).dot _) ((p - o).dot _)
    rw [scaled, scaled, angleScaled _ _ positive]
  have none : Scalar.remEuclid (0 : ℝ) Scalar.tau = 0 := by
    change (0 : ℝ) - |Scalar.tau| * ⌊(0 : ℝ) / |Scalar.tau|⌋ = 0
    simp
  dsimp only
  rw [same, sub_self, none, if_pos (by norm_num), zero_add]
  change Real.pi < 2.0 * Real.pi
  linarith [Real.pi_pos, exactTwo]

end Sketch

structure Basis.Defined (values : ParamId → ℝ) (b : Basis ℝ) : Prop where
  origin : b.origin.Defined values
  u : b.u.Defined values
  v : b.v.Defined values

namespace Setting

structure Founded (W : EntityId → Prop) (c : Setting ℝ) : Prop where
  sturdy : c.sketch.SturdyOn c.sketch.valueOf W
  basis : ∀ b, c.basis = some b → b.Defined c.sketch.valueOf

def Long (c : Setting ℝ) (line : EntityId) : Prop :=
  All (fun d => 0 < (d.eval c.sketch.valueOf).length) (c.lineDirection line)

def Round (c : Setting ℝ) (arc : EntityId) : Prop := ∀ tip o p, c.sketch.EndsAt arc tip o p → p ≠ o

def Touching (c : Setting ℝ) (arc : EntityId) (tip : ArcEnd) : Prop :=
  ∀ e center start finish normal o p, c.sketch.entities.get? arc = some e → e.kind = .arc center start finish normal →
    c.sketch.pointExpr center = .ok o →
    c.sketch.pointExpr (match tip with | .start => start | .finish => finish) = .ok p →
    0 < ((c.project (p - o)).eval c.sketch.valueOf).length

section Parts
variable {W : EntityId → Prop} {c : Setting ℝ} (h : c.Founded W) {id : EntityId} {d : Vec3 (Expr ℝ)}
include h

theorem placeDefined (within : W id) : All (Vec3.Defined c.sketch.valueOf) (c.point id) :=
  allRenamed (pointDefined h.sturdy within)

theorem projectDefined (defined : d.Defined c.sketch.valueOf) : (c.project d).Defined c.sketch.valueOf := by
  unfold project
  cases found : c.basis with
  | none => exact defined
  | some b =>
    have plane := h.basis b found
    exact ⟨Vec3.definedDot defined plane.u, Vec3.definedDot defined plane.v, trivial⟩

omit h in
theorem projectLong {v : ParamId → ℝ} (long : 0 < ((c.project d).eval v).length) : 0 < (d.eval v).length := by
  refine Vec3.lengthNonneg.lt_of_ne' fun none => long.ne' ?_
  cases found : c.basis with
  | none => simpa only [project, found] using none
  | some b =>
    obtain ⟨x, y, z⟩ := Vec3.dotSelf.mp (Vec3.lengthZero.mp none)
    have flat (n : Vec3 (Expr ℝ)) : (d.dot n).eval v = 0 := by
      rw [Vec3.evalDot, Vec3.dot, x, y, z, zero_mul, zero_mul, zero_mul, add_zero, add_zero]
    rw [Vec3.lengthZero, Vec3.dotSelf]
    simp only [project, found]
    exact ⟨flat b.u, flat b.v, exactZero⟩

theorem coordinatesDefined (within : W id) : All (Vec3.Defined c.sketch.valueOf) (c.coordinates id) := by
  refine allBind (placeDefined h within) fun p hp => ?_
  cases found : c.basis with
  | none => exact allPure hp
  | some b => exact allPure (projectDefined h (Vec3.definedSub hp (h.basis b found).origin))

theorem vanishesDefined (defined : d.Defined c.sketch.valueOf) : ∀ r ∈ c.vanishes d, r.Defined c.sketch.valueOf := by
  have flat := projectDefined h defined
  unfold vanishes
  dsimp only
  split
  · simp [flat.x, flat.y]
  · exact Vec3.definedToList flat

omit h in
theorem placeFound : All (fun p => c.sketch.pointExpr id = .ok p) (c.point id) := allRenamed fun _ placed => placed

theorem lineDefined (within : W id) : All (fun ends : Vec3 (Expr ℝ) × Vec3 (Expr ℝ) =>
    ends.1.Defined c.sketch.valueOf ∧ ends.2.Defined c.sketch.valueOf) (c.line id) := by
  refine allNamed fun e found => ?_
  cases kind : e.kind with
  | line a b =>
    have start := h.sturdy.part within found (show a ∈ e.kind.parts by simp [kind])
    have finish := h.sturdy.part within found (show b ∈ e.kind.parts by simp [kind])
    exact allBind (placeDefined h start) fun p hp => allBind (placeDefined h finish) fun q hq => allPure ⟨hp, hq⟩
  | _ => exact allThrow _

omit h in
theorem Long.apart (long : c.Long id) : All (fun ends : Vec3 (Expr ℝ) × Vec3 (Expr ℝ) =>
    0 < ((c.project (ends.2 - ends.1)).eval c.sketch.valueOf).length) (c.line id) := by
  intro ends ok
  exact long _ (bindOk.mpr ⟨ends, ok, rfl⟩)

theorem lineDirectionDefined (within : W id) : All (Vec3.Defined c.sketch.valueOf) (c.lineDirection id) :=
  allBind (lineDefined h within) fun _ ends => allPure (projectDefined h (Vec3.definedSub ends.2 ends.1))

theorem longDirectionDefined (within : W id) (long : c.Long id) :
    All (fun d => d.Defined c.sketch.valueOf ∧ 0 < (d.eval c.sketch.valueOf).length) (c.lineDirection id) :=
  allBoth (lineDirectionDefined h within) long

theorem lineLengthDefined (within : W id) : All (Expr.Defined c.sketch.valueOf) (c.lineLength id) :=
  allBind (lineDirectionDefined h within) fun _ defined => allPure (Vec3.definedMagnitude defined)

theorem longLengthDefined (within : W id) (long : c.Long id) :
    All (fun e => e.Defined c.sketch.valueOf ∧ e.eval c.sketch.valueOf ≠ 0) (c.lineLength id) := by
  refine allBind (longDirectionDefined h within long) fun d ⟨defined, apart⟩ => ?_
  exact allPure ⟨Vec3.definedMagnitude defined, by rw [Vec3.evalMagnitude]; exact apart.ne'⟩

theorem pointLineDistanceDefined {point line : EntityId} (hp : W point) (hl : W line) (long : c.Long line) :
    All (Expr.Defined c.sketch.valueOf) (c.pointLineDistance point line) := by
  refine allBind (allBoth (lineDefined h hl) long.apart) fun ends ⟨both, apart⟩ => allBind (placeDefined h hp) fun p hp => ?_
  have d := projectDefined h (Vec3.definedSub both.2 both.1)
  have w := projectDefined h (Vec3.definedSub hp both.1)
  refine allPure (Expr.withinDiv ?_ (Vec3.definedMagnitude d) ?_)
  · split
    · exact Vec3.definedPlanarCross d w
    · exact Vec3.definedMagnitude (Vec3.definedCross w d)
  · rw [Vec3.evalMagnitude]
    exact apart.ne'

omit h in
theorem positiveDefined {e : Expr ℝ} (defined : e.Defined c.sketch.valueOf) : (c.positive e).Defined c.sketch.valueOf := by
  unfold positive
  split
  · exact Expr.withinNegate defined
  · exact defined

theorem planeHeightDefined {point plane : EntityId} (hp : W point) (hw : W plane) :
    All (Expr.Defined c.sketch.valueOf) (c.planeHeight point plane) := by
  refine allBind (allRenamed (planePointDefined h.sturdy hw)) fun o ho => ?_
  refine allBind (allRenamed (planeNormalDefined h.sturdy hw)) fun n hn => allBind (placeDefined h hp) fun p hp => ?_
  exact allPure (Vec3.definedDot (Vec3.definedSub hp ho) hn)

theorem planeAxesDefined (within : W id) {n : Vec3 (Expr ℝ)} (hn : n.Defined c.sketch.valueOf) :
    All (fun axes : Vec3 (Expr ℝ) × Vec3 (Expr ℝ) => axes.1.Defined c.sketch.valueOf ∧ axes.2.Defined c.sketch.valueOf)
      (c.planeAxes id n) := by
  refine allNamed fun e found => ?_
  have turned {m : EntityId} (named : m ∈ e.kind.parts) : All (Quat.Defined c.sketch.valueOf)
      (liftM (c.sketch.normalExpr m) : Except ConstraintError (Quat (Expr ℝ))) :=
    allRenamed (normalDefined h.sturdy (h.sturdy.part within found named))
  cases kind : e.kind with
  | workplane origin normal =>
    have named : normal ∈ e.kind.parts := by simp [kind]
    exact allBind (turned named) fun q hq => allPure ⟨Quat.definedImageU hq, Quat.definedImageV hq⟩
  | face point direction =>
    cases direction with
    | normal m =>
      have named : m ∈ e.kind.parts := by simp [kind]
      exact allBind (turned named) fun q hq => allPure ⟨Quat.definedImageU hq, Quat.definedImageV hq⟩
    | sweep source target along =>
      refine allBind placeFound fun b second => allBind placeFound fun a first => ?_
      obtain ⟨defined, area⟩ := sweptEnds h.sturdy within found kind first second
      rw [Vec3.evalCross] at area
      have long := (Vec3.sweptSpans (Vec3.lengthZero.not.mp area.ne')).1
      have u := Vec3.definedWithMagnitude defined (Expr.definedConst (v := c.sketch.valueOf) 1.0) long
      exact allPure ⟨u, Vec3.definedCross hn u⟩
  | _ => exact allThrow _

theorem arcLengthDefined (within : W id) (round : c.Round id) :
    All (fun e => e.Defined c.sketch.valueOf ∧ e.eval c.sketch.valueOf ≠ 0) (c.arcLength id) := by
  refine allNamed fun e found => ?_
  cases kind : e.kind with
  | arc center start finish normal =>
    have within {part : EntityId} (named : part = center ∨ part = start ∨ part = finish) : W part := by
      refine h.sturdy.part within found ?_
      rcases named with rfl | rfl | rfl <;> simp [kind]
    refine allBind (allBoth (placeDefined h (within (.inl rfl))) placeFound) fun o middle => ?_
    refine allBind (allBoth (placeDefined h (within (.inr (.inl rfl)))) placeFound) fun p first => ?_
    refine allBind (allBoth (placeDefined h (within (.inr (.inr rfl)))) placeFound) fun q second => ?_
    refine allBind (P := fun angles => c.sketch.arcAngles id = .ok angles) (allRenamed fun _ ok => ok) fun angles turn => ?_
    have position {part : EntityId} {x : Vec3 (Expr ℝ)} (placed : c.sketch.pointExpr part = .ok x) :
        c.sketch.position part = .ok (x.eval c.sketch.valueOf) := bindOk.mpr ⟨x, placed, rfl⟩
    have away {x : Vec3 (Expr ℝ)} (tip : ArcEnd)
        (placed : c.sketch.pointExpr (match tip with | .start => start | .finish => finish) = .ok x) :
        0 < ((x - o).eval c.sketch.valueOf).length := by
      rw [Vec3.evalSub]
      exact Vec3.apartLength (round tip _ _ ⟨e, center, start, finish, normal, found, kind, position middle.2, position placed⟩)
    refine allPure (Vec3.turnDefined (Vec3.definedSub first.1 middle.1) (Vec3.definedSub second.1 middle.1)
      (away .start first.2) (away .finish second.2) fun k positive along => ?_)
    rw [Vec3.evalSub, Vec3.evalSub] at along
    exact fullTurn found kind (position middle.2) (position first.2) (position second.2) positive along turn
  | _ => exact allThrow _

theorem arcRadius (within : W id) {e : Entity ℝ} (found : c.sketch.entities.get? id = some e)
    {center start finish normal : EntityId} (kind : e.kind = .arc center start finish normal) (tip : ArcEnd) : W center ∧
    W (match tip with | .start => start | .finish => finish) := by
  constructor <;> refine h.sturdy.part within found ?_
  · simp [kind]
  · cases tip <;> simp [kind]

theorem endTangentDefined (within : W id) (tip : ArcEnd) : All (Vec3.Defined c.sketch.valueOf) (c.endTangent id tip) := by
  refine allNamed fun e found => ?_
  have point {m : EntityId} (named : m ∈ e.kind.parts) := placeDefined h (h.sturdy.part within found named)
  cases kind : e.kind with
  | arc center start finish normal =>
    have axis : normal ∈ e.kind.parts := by simp [kind]
    obtain ⟨middle, contact⟩ := arcRadius h within found kind tip
    refine allBind (allRenamed (normalDefined h.sturdy (h.sturdy.part within found axis))) fun q hq => ?_
    exact allBind (placeDefined h contact) fun p hp => allBind (placeDefined h middle) fun o ho =>
      allPure (Vec3.definedCross (Quat.definedImageN hq) (Vec3.definedSub hp ho))
  | cubic p0 p1 p2 p3 =>
    have named (m : EntityId) (one : m = p0 ∨ m = p1 ∨ m = p2 ∨ m = p3) : m ∈ e.kind.parts := by
      simpa [kind] using one
    cases tip with
    | start =>
      exact allBind (point (named p1 (by simp))) fun b hb => allBind (point (named p0 (by simp))) fun a ha =>
        allPure (Vec3.definedSub hb ha)
    | finish =>
      exact allBind (point (named p3 (by simp))) fun b hb => allBind (point (named p2 (by simp))) fun a ha =>
        allPure (Vec3.definedSub hb ha)
  | line a b =>
    have first : a ∈ e.kind.parts := by simp [kind]
    have second : b ∈ e.kind.parts := by simp [kind]
    exact allBind (point second) fun q hq => allBind (point first) fun p hp => allPure (Vec3.definedSub hq hp)
  | _ => exact allThrow _

theorem roundRadiusDefined (within : W id) :
    All (Expr.Defined c.sketch.valueOf) (liftM (c.sketch.radiusExpr id) : Except ConstraintError (Expr ℝ)) :=
  allRenamed (radiusDefined h.sturdy within)

end Parts

def AllDefined (v : ParamId → ℝ) (rs : List (Expr ℝ)) : Prop := ∀ r ∈ rs, r.Defined v

theorem oneDefined {v : ParamId → ℝ} {r : Expr ℝ} (defined : r.Defined v) : AllDefined v [r] :=
  List.forall_mem_singleton.mpr defined

theorem twoDefined {v : ParamId → ℝ} {r t : Expr ℝ} (first : r.Defined v) (second : t.Defined v) : AllDefined v [r, t] :=
  List.forall_mem_cons.mpr ⟨first, oneDefined second⟩

section Residuals
variable {W : EntityId → Prop} {c : Setting ℝ} (h : c.Founded W)
include h

theorem projectedDistanceDefined {a b along : EntityId} (ha : W a) (hb : W b) (hl : W along) (long : c.Long along) (x : ℝ) :
    All (AllDefined c.sketch.valueOf) (c.residuals (.projectedDistance a b along x)) := by
  refine allBind (allBoth (lineDefined h hl) long.apart) fun ends ⟨both, apart⟩ => ?_
  refine allBind (placeDefined h hb) fun q hq => allBind (placeDefined h ha) fun p hp => allPure (oneDefined ?_)
  have unit := Vec3.definedWithMagnitude (Vec3.definedSub both.2 both.1) (Expr.definedConst 1.0) (projectLong apart)
  exact Expr.withinSub (Vec3.definedDot (Vec3.definedSub hq hp) unit) trivial

theorem pointOnLineDefined {p line : EntityId} (hp : W p) (hl : W line) (long : c.Long line) :
    All (AllDefined c.sketch.valueOf) (c.residuals (.pointOnLine p line)) := by
  unfold residuals
  cases c.basis with
  | some b => exact allBind (pointLineDistanceDefined h hp hl long) fun d defined => allPure (oneDefined defined)
  | none =>
    have own : c.helper.Defined c.sketch.valueOf := Expr.definedParam _
    refine allBind (lineDefined h hl) fun ends both => allBind (placeDefined h hp) fun q hq => allPure ?_
    have along := Vec3.definedScale (Vec3.definedSub both.2 both.1) own
    exact Vec3.definedToList (Vec3.definedSub (Vec3.definedAdd both.1 along) hq)

theorem pointOnCircleDefined {p circle : EntityId} (hp : W p) (hc : W circle) :
    All (AllDefined c.sketch.valueOf) (c.residuals (.pointOnCircle p circle)) := by
  refine allBind (allRenamed (roundNormalAll h.sturdy.covered hc)) fun n within => ?_
  refine allBind (allRenamed (normalDefined h.sturdy within)) fun q hq => ?_
  refine allBind (allRenamed (centerAll h.sturdy.covered hc)) fun m within => allBind (placeDefined h within) fun o ho => ?_
  refine allBind (placeDefined h hp) fun v hv => allBind (roundRadiusDefined h hc) fun r hr => allPure (oneDefined ?_)
  have u := Vec3.definedDot (Vec3.definedSub hv ho) (Quat.definedImageU hq)
  have w := Vec3.definedDot (Vec3.definedSub hv ho) (Quat.definedImageV hq)
  exact Expr.withinSub (Expr.definedHypot u w) hr

theorem symmetricDefined {a b plane : EntityId} (ha : W a) (hb : W b) (hw : W plane) :
    All (AllDefined c.sketch.valueOf) (c.residuals (.symmetric a b plane)) := by
  refine allBind (placeDefined h ha) fun pa ha => allBind (placeDefined h hb) fun pb hb => ?_
  refine allBind (allRenamed (planePointDefined h.sturdy hw)) fun o ho => ?_
  refine allBind (allRenamed (planeNormalDefined h.sturdy hw)) fun n hn => ?_
  have middle := Vec3.definedScale (Vec3.definedAdd ha hb) (Expr.definedConst 0.5)
  have height := Vec3.definedDot (Vec3.definedSub middle ho) hn
  have d := Vec3.definedSub ha hb
  dsimp only
  split
  · exact allPure (twoDefined height (Vec3.definedPlanarCross (projectDefined h d) (projectDefined h hn)))
  · refine allBind (planeAxesDefined h hw hn) fun axes both => allPure ?_
    exact List.forall_mem_cons.mpr ⟨height, twoDefined (Vec3.definedDot d both.1) (Vec3.definedDot d both.2)⟩

theorem symmetricLineDefined {a b line : EntityId} (ha : W a) (hb : W b) (hl : W line) :
    All (AllDefined c.sketch.valueOf) (c.residuals (.symmetricLine a b line)) := by
  refine allBind (lineDefined h hl) fun ends both => allBind (placeDefined h ha) fun pa ha => ?_
  refine allBind (placeDefined h hb) fun pb hb => allPure ?_
  have along := projectDefined h (Vec3.definedSub both.2 both.1)
  have middle := Vec3.definedScale (Vec3.definedAdd ha hb) (Expr.definedConst 0.5)
  exact twoDefined (Vec3.definedPlanarCross along (projectDefined h (Vec3.definedSub middle both.1)))
    (Vec3.definedDot (projectDefined h (Vec3.definedSub ha hb)) along)

theorem sameOrientationDefined {a b : EntityId} (ha : W a) (hb : W b) :
    All (AllDefined c.sketch.valueOf) (c.residuals (.sameOrientation a b)) := by
  refine allBind (allRenamed (normalDefined h.sturdy ha)) fun qa ha => ?_
  refine allBind (allRenamed (normalDefined h.sturdy hb)) fun qb hb => allPure ?_
  have own : c.helper.Defined c.sketch.valueOf := Expr.definedParam _
  have d := Vec3.definedToList (Vec3.definedSub (Quat.definedImageN ha) (Vec3.definedScale (Quat.definedImageN hb) own))
  refine List.forall_mem_append.mpr ⟨d, oneDefined ?_⟩
  split
  · exact Vec3.definedDot (Quat.definedImageU ha) (Quat.definedImageV hb)
  · exact Vec3.definedDot (Quat.definedImageU ha) (Quat.definedImageU hb)

omit h in
theorem turnedCosineDefined {v : ParamId → ℝ} {a b : Vec3 (Expr ℝ)} (ha : a.Defined v ∧ 0 < (a.eval v).length)
    (hb : b.Defined v ∧ 0 < (b.eval v).length) (turned : Bool) :
    ((if turned then -a else a).directionCosine b).Defined v := by
  cases turned with
  | false => exact Vec3.definedDirectionCosine ha.1 hb.1 ha.2 hb.2
  | true =>
    refine Vec3.definedDirectionCosine (Vec3.definedNeg ha.1) hb.1 ?_ hb.2
    rw [if_pos rfl, Vec3.evalNeg, Vec3.negLength]
    exact ha.2

theorem angleDefined {a b : EntityId} (ha : W a) (hb : W b) (longA : c.Long a) (longB : c.Long b) (degrees : ℝ)
    (turned : Bool) : All (AllDefined c.sketch.valueOf) (c.residuals (.angle a b degrees turned)) := by
  refine allBind (longDirectionDefined h ha longA) fun da ha => allBind (longDirectionDefined h hb longB) fun db hb => ?_
  exact allPure (oneDefined (Expr.withinSub (turnedCosineDefined ha hb turned) trivial))

theorem equalAngleDefined {a b d e : EntityId} (ha : W a) (hb : W b) (hd : W d) (he : W e) (longA : c.Long a)
    (longB : c.Long b) (longD : c.Long d) (longE : c.Long e) (turned : Bool) :
    All (AllDefined c.sketch.valueOf) (c.residuals (.equalAngle a b d e turned)) := by
  refine allBind (longDirectionDefined h ha longA) fun da ha => allBind (longDirectionDefined h hb longB) fun db hb => ?_
  refine allBind (longDirectionDefined h hd longD) fun dd hd => allBind (longDirectionDefined h he longE) fun de he => ?_
  exact allPure (oneDefined (Expr.withinSub (turnedCosineDefined ha hb turned)
    (Vec3.definedDirectionCosine hd.1 he.1 hd.2 he.2)))

theorem parallelDefined {a b : EntityId} (ha : W a) (hb : W b) :
    All (AllDefined c.sketch.valueOf) (c.residuals (.parallel a b)) := by
  refine allBind (lineDirectionDefined h ha) fun da ha => allBind (lineDirectionDefined h hb) fun db hb => allPure ?_
  split
  · exact oneDefined (Vec3.definedPlanarCross ha hb)
  · exact Vec3.definedToList (Vec3.definedSub ha (Vec3.definedScale hb (Expr.definedParam _)))

theorem arcLineTangentDefined {arc line : EntityId} {tip : ArcEnd} (ha : W arc) (hl : W line) (long : c.Long line)
    (touching : c.Touching arc tip) : All (AllDefined c.sketch.valueOf) (c.residuals (.arcLineTangent arc line tip)) := by
  refine allNamed fun e found => ?_
  cases kind : e.kind with
  | arc center start finish normal =>
    obtain ⟨middle, contact⟩ := arcRadius h ha found kind tip
    refine allBind (allBoth (placeDefined h contact) placeFound) fun p ⟨hp, there⟩ => ?_
    refine allBind (allBoth (placeDefined h middle) placeFound) fun o ⟨ho, center⟩ => ?_
    refine allBind (longDirectionDefined h hl long) fun d hd => allPure (oneDefined ?_)
    exact Vec3.definedDirectionCosine (projectDefined h (Vec3.definedSub hp ho)) hd.1
      (touching e _ _ _ _ o p found kind center there) hd.2
  | _ => exact allThrow _

theorem cubicLineTangentDefined {cubic line : EntityId} (hc : W cubic) (hl : W line) (tip : ArcEnd) :
    All (AllDefined c.sketch.valueOf) (c.residuals (.cubicLineTangent cubic line tip)) := by
  refine allNamed fun e found => ?_
  have rest : All (AllDefined c.sketch.valueOf) (do
      let t := c.project (← c.endTangent cubic tip)
      return [t.planarCross (← c.lineDirection line)] : Except ConstraintError (List (Expr ℝ))) :=
    allBind (endTangentDefined h hc tip) fun t ht => allBind (lineDirectionDefined h hl) fun d hd =>
      allPure (oneDefined (Vec3.definedPlanarCross (projectDefined h ht) hd))
  cases e.isA .cubic with
  | true => exact rest
  | false => exact allBind (P := fun _ => True) (allThrow _) fun _ _ => rest

end Residuals
end Setting

namespace ConstraintKind

def measuredArcs : ConstraintKind α → List EntityId
  | equalLineArcLength _ arc | arcLineLengthRatio arc _ _ | arcLineDifference arc _ _ => [arc]
  | arcArcLengthRatio a b _ | arcArcDifference a b _ => [a, b]
  | _ => []

end ConstraintKind

namespace Setting

theorem residualsDefined {W : EntityId → Prop} {c : Setting ℝ} (h : c.Founded W) {k : ConstraintKind ℝ}
    (named : ∀ id ∈ k.references, W id) (long : ∀ line ∈ k.directionLines, c.Long line)
    (round : ∀ arc ∈ k.measuredArcs, c.Round arc)
    (touching : ∀ arc line tip, k = .arcLineTangent arc line tip → c.Touching arc tip) :
    All (AllDefined c.sketch.valueOf) (c.residuals k) := by
  have constant (x : ℝ) : (Expr.const x).Defined c.sketch.valueOf := trivial
  simp only [ConstraintKind.references, ConstraintKind.directionLines, ConstraintKind.measuredArcs] at named long round
  cases k with
  | pointsCoincident a b =>
    exact allBind (placeDefined h (named a (by simp))) fun p hp => allBind (placeDefined h (named b (by simp))) fun q hq =>
      allPure (vanishesDefined h (Vec3.definedSub hp hq))
  | pointPointDistance a b x =>
    refine allBind (placeDefined h (named a (by simp))) fun p hp => allBind (placeDefined h (named b (by simp))) fun q hq => ?_
    exact allPure (oneDefined (Expr.withinSub (Vec3.definedMagnitude (projectDefined h (Vec3.definedSub hp hq))) (constant x)))
  | projectedDistance a b along x =>
    exact projectedDistanceDefined h (named a (by simp)) (named b (by simp)) (named along (by simp)) (long along (by simp)) x
  | pointPlaneDistance p plane x | pointFaceDistance p plane x =>
    exact allBind (planeHeightDefined h (named p (by simp)) (named plane (by simp))) fun d defined =>
      allPure (oneDefined (Expr.withinSub defined (constant x)))
  | pointInPlane p plane | pointOnFace p plane =>
    exact allBind (planeHeightDefined h (named p (by simp)) (named plane (by simp))) fun d defined =>
      allPure (oneDefined defined)
  | pointLineDistance p line x =>
    exact allBind (pointLineDistanceDefined h (named p (by simp)) (named line (by simp)) (long line (by simp)))
      fun d defined => allPure (oneDefined (Expr.withinSub defined (constant x)))
  | pointOnLine p line => exact pointOnLineDefined h (named p (by simp)) (named line (by simp)) (long line (by simp))
  | pointOnCircle p circle => exact pointOnCircleDefined h (named p (by simp)) (named circle (by simp))
  | equalLengthLines a b =>
    exact allBind (lineLengthDefined h (named a (by simp))) fun p hp => allBind (lineLengthDefined h (named b (by simp)))
      fun q hq => allPure (oneDefined (Expr.withinSub hp hq))
  | lengthRatio a b x =>
    refine allBind (lineLengthDefined h (named a (by simp))) fun p hp => ?_
    refine allBind (longLengthDefined h (named b (by simp)) (long b (by simp))) fun q hq => ?_
    exact allPure (oneDefined (Expr.withinSub (Expr.withinDiv hp hq.1 hq.2) (constant x)))
  | lengthDifference a b x =>
    exact allBind (lineLengthDefined h (named a (by simp))) fun p hp => allBind (lineLengthDefined h (named b (by simp)))
      fun q hq => allPure (oneDefined (Expr.withinSub (Expr.withinSub hp hq) (constant x)))
  | equalLengthPointLineDistance line p other =>
    refine allBind (pointLineDistanceDefined h (named p (by simp)) (named other (by simp)) (long other (by simp))) fun d hd => ?_
    exact allBind (lineLengthDefined h (named line (by simp))) fun l hl =>
      allPure (oneDefined (Expr.withinSub hl (positiveDefined hd)))
  | equalPointLineDistances pa la pb lb =>
    refine allBind (pointLineDistanceDefined h (named pa (by simp)) (named la (by simp)) (long la (by simp))) fun a ha => ?_
    refine allBind (pointLineDistanceDefined h (named pb (by simp)) (named lb (by simp)) (long lb (by simp))) fun b hb => ?_
    exact allPure (oneDefined (Expr.withinSub (positiveDefined ha) (positiveDefined hb)))
  | equalLineArcLength line arc =>
    refine allBind (lineLengthDefined h (named line (by simp))) fun l hl => ?_
    exact allBind (arcLengthDefined h (named arc (by simp)) (round arc (by simp))) fun a ha =>
      allPure (oneDefined (Expr.withinSub hl ha.1))
  | arcArcLengthRatio a b x =>
    refine allBind (arcLengthDefined h (named a (by simp)) (round a (by simp))) fun p hp => ?_
    exact allBind (arcLengthDefined h (named b (by simp)) (round b (by simp))) fun q hq =>
      allPure (oneDefined (Expr.withinSub (Expr.withinDiv hp.1 hq.1 hq.2) (constant x)))
  | arcLineLengthRatio arc line x =>
    refine allBind (arcLengthDefined h (named arc (by simp)) (round arc (by simp))) fun a ha => ?_
    refine allBind (longLengthDefined h (named line (by simp)) (long line (by simp))) fun l hl => ?_
    exact allPure (oneDefined (Expr.withinSub (Expr.withinDiv ha.1 hl.1 hl.2) (constant x)))
  | arcArcDifference a b x =>
    refine allBind (arcLengthDefined h (named a (by simp)) (round a (by simp))) fun p hp => ?_
    exact allBind (arcLengthDefined h (named b (by simp)) (round b (by simp))) fun q hq =>
      allPure (oneDefined (Expr.withinSub (Expr.withinSub hp.1 hq.1) (constant x)))
  | arcLineDifference arc line x =>
    refine allBind (arcLengthDefined h (named arc (by simp)) (round arc (by simp))) fun a ha => ?_
    exact allBind (lineLengthDefined h (named line (by simp))) fun l hl =>
      allPure (oneDefined (Expr.withinSub (Expr.withinSub ha.1 hl) (constant x)))
  | equalRadius a b =>
    exact allBind (roundRadiusDefined h (named a (by simp))) fun p hp => allBind (roundRadiusDefined h (named b (by simp)))
      fun q hq => allPure (oneDefined (Expr.withinSub hp hq))
  | diameter circle x =>
    exact allBind (roundRadiusDefined h (named circle (by simp))) fun r hr =>
      allPure (oneDefined (Expr.withinSub (Expr.withinMul (constant 2.0) hr) (constant x)))
  | symmetric a b plane => exact symmetricDefined h (named a (by simp)) (named b (by simp)) (named plane (by simp))
  | symmetricHorizontal a b =>
    refine allBind (coordinatesDefined h (named a (by simp))) fun p hp => ?_
    exact allBind (coordinatesDefined h (named b (by simp))) fun q hq =>
      allPure (twoDefined (Expr.withinAdd hp.x hq.x) (Expr.withinSub hp.y hq.y))
  | symmetricVertical a b =>
    refine allBind (coordinatesDefined h (named a (by simp))) fun p hp => ?_
    exact allBind (coordinatesDefined h (named b (by simp))) fun q hq =>
      allPure (twoDefined (Expr.withinAdd hp.y hq.y) (Expr.withinSub hp.x hq.x))
  | symmetricLine a b line => exact symmetricLineDefined h (named a (by simp)) (named b (by simp)) (named line (by simp))
  | atMidpoint p line =>
    refine allBind (lineDefined h (named line (by simp))) fun ends both => ?_
    refine allBind (placeDefined h (named p (by simp))) fun v hv => allPure (vanishesDefined h ?_)
    exact Vec3.definedSub hv (Vec3.definedScale (Vec3.definedAdd both.1 both.2) (constant 0.5))
  | horizontal line =>
    exact allBind (lineDirectionDefined h (named line (by simp))) fun d defined => allPure (oneDefined defined.y)
  | vertical line =>
    exact allBind (lineDirectionDefined h (named line (by simp))) fun d defined => allPure (oneDefined defined.x)
  | sameOrientation a b => exact sameOrientationDefined h (named a (by simp)) (named b (by simp))
  | angle a b degrees turned =>
    exact angleDefined h (named a (by simp)) (named b (by simp)) (long a (by simp)) (long b (by simp)) degrees turned
  | equalAngle a b d e turned =>
    exact equalAngleDefined h (named a (by simp)) (named b (by simp)) (named d (by simp)) (named e (by simp))
      (long a (by simp)) (long b (by simp)) (long d (by simp)) (long e (by simp)) turned
  | parallel a b => exact parallelDefined h (named a (by simp)) (named b (by simp))
  | perpendicular a b =>
    refine allBind (longDirectionDefined h (named a (by simp)) (long a (by simp))) fun p hp => ?_
    exact allBind (longDirectionDefined h (named b (by simp)) (long b (by simp))) fun q hq =>
      allPure (oneDefined (Vec3.definedDirectionCosine hp.1 hq.1 hp.2 hq.2))
  | arcLineTangent arc line tip =>
    exact arcLineTangentDefined h (named arc (by simp)) (named line (by simp)) (long line (by simp)) (touching arc line tip rfl)
  | cubicLineTangent cubic line tip => exact cubicLineTangentDefined h (named cubic (by simp)) (named line (by simp)) tip
  | curveCurveTangent a b ends =>
    refine allBind (endTangentDefined h (named a (by simp)) ends.first) fun p hp => ?_
    exact allBind (endTangentDefined h (named b (by simp)) ends.second) fun q hq =>
      allPure (oneDefined (Vec3.definedPlanarCross (projectDefined h hp) (projectDefined h hq)))
  | whereDragged p =>
    refine allNamed fun e _ => allPure fun r member => ?_
    obtain ⟨q, _, rfl⟩ := List.mem_map.mp member
    exact Expr.withinSub (Expr.definedParam q) (constant _)
  | comment text => exact allPure fun r member => absurd member List.not_mem_nil

theorem projectApart {c : Setting ℝ} {x : PlaneExpr ℝ} {v : ParamId → ℝ} {o p : Vec3 (Expr ℝ)}
    (basis : c.basis = some ⟨x.origin, x.orientation.imageU, x.orientation.imageV⟩)
    (apart : (x.frame v).project (p.eval v) ≠ (x.frame v).project (o.eval v)) : 0 < ((c.project (p - o)).eval v).length := by
  refine Vec3.lengthNonneg.lt_of_ne' (Vec3.lengthZero.not.mpr ?_)
  have square := Vec2.apartSquare apart.symm
  rw [Frame.projectSub] at square
  rw [evalProject basis, Vec3.evalSub, Vec3.dot, mul_zero, add_zero]
  exact square

theorem renamed {s : Sketch ℝ} {id : ConstraintId} {group : GroupId} {workplane : Option EntityId} {kind : ConstraintKind ℝ}
    {reference : Bool} {d : Setting ℝ} (ok : Setting.of s ⟨id, group, workplane, kind, reference⟩ = .ok d)
    (id' : ConstraintId) (reference' : Bool) :
    Setting.of s ⟨id', group, workplane, kind, reference'⟩ = .ok { d with constraint := id' } := by
  cases workplane with
  | none =>
    cases ok
    rfl
  | some w =>
    obtain ⟨x, placed, last⟩ := bindOk.mp ok
    cases last
    exact bindOk.mpr ⟨x, placed, rfl⟩

end Setting

end Drafting
