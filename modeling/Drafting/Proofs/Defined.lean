import Drafting.Proofs.Folding
import Drafting.Proofs.Reading
import Drafting.Proofs.Rotation
/-! What can be evaluated. Vectors and rotations built from parts that can be evaluated can be so too; only giving a
vector a length, or comparing directions, takes vectors of some length. So the places of entities can be evaluated
where copies turn about axes of some length and swept faces have an area: nothing else is divided by there. -/
namespace Drafting
open Result

structure Vec3.Defined (v : ParamId → ℝ) (a : Vec3 (Expr ℝ)) : Prop where
  x : a.x.Defined v
  y : a.y.Defined v
  z : a.z.Defined v

structure Quat.Defined (v : ParamId → ℝ) (q : Quat (Expr ℝ)) : Prop where
  x : q.x.Defined v
  y : q.y.Defined v
  z : q.z.Defined v
  w : q.w.Defined v

namespace Expr
variable {v : ParamId → ℝ} {a b : Expr ℝ}

theorem definedConst (x : ℝ) : (const x).Defined v := trivial

theorem definedParam (p : ParamId) : (param p : Expr ℝ).Defined v := trivial

theorem constNone {e : Expr ℝ} {v w : ParamId → ℝ} (varies : e.eval v ≠ e.eval w) : e.const? = none := by
  cases known : e.const? with
  | none => rfl
  | some x =>
    rw [ofConst known] at varies
    exact absurd rfl varies

theorem quotientUndefined {v w u : ParamId → ℝ} (zero : b.eval v = 0) (apart : b.eval w ≠ 0)
    (varies : a.eval w ≠ a.eval u) : ¬ (a / b).Defined v := by
  intro defined
  change (dividedBy a b).Defined v at defined
  rw [dividedBy, constNone varies, constNone (v := v) (w := w) (by rw [zero]; exact apart.symm)] at defined
  exact defined.2.2 zero

theorem definedHypot (ha : a.Defined v) (hb : b.Defined v) : (a.square + b.square).sqrt.Defined v := by
  refine withinFold ⟨withinAdd (withinFold ha) (withinFold hb), Set.mem_Ici.mpr ?_⟩
  rw [evalAdd, evalSquare, evalSquare]
  exact add_nonneg (mul_self_nonneg _) (mul_self_nonneg _)

end Expr

namespace Vec3
variable {v : ParamId → ℝ} {a b : Vec3 (Expr ℝ)} {e : Expr ℝ}

theorem definedOfParams (p : Vec3 ParamId) : (ofParams p : Vec3 (Expr ℝ)).Defined v := ⟨trivial, trivial, trivial⟩

theorem definedToExpr (p : Vec3 ℝ) : p.toExpr.Defined v := ⟨trivial, trivial, trivial⟩

theorem definedAdd (ha : a.Defined v) (hb : b.Defined v) : (a + b).Defined v :=
  ⟨Expr.withinAdd ha.x hb.x, Expr.withinAdd ha.y hb.y, Expr.withinAdd ha.z hb.z⟩

theorem definedSub (ha : a.Defined v) (hb : b.Defined v) : (a - b).Defined v :=
  ⟨Expr.withinSub ha.x hb.x, Expr.withinSub ha.y hb.y, Expr.withinSub ha.z hb.z⟩

theorem definedNeg (ha : a.Defined v) : (-a).Defined v :=
  ⟨Expr.withinNegate ha.x, Expr.withinNegate ha.y, Expr.withinNegate ha.z⟩

theorem definedScale (ha : a.Defined v) (he : e.Defined v) : (a.scale e).Defined v :=
  ⟨Expr.withinMul ha.x he, Expr.withinMul ha.y he, Expr.withinMul ha.z he⟩

theorem definedDot (ha : a.Defined v) (hb : b.Defined v) : (a.dot b).Defined v :=
  Expr.withinAdd (Expr.withinAdd (Expr.withinMul ha.x hb.x) (Expr.withinMul ha.y hb.y)) (Expr.withinMul ha.z hb.z)

theorem definedCross (ha : a.Defined v) (hb : b.Defined v) : (a.cross b).Defined v :=
  ⟨Expr.withinSub (Expr.withinMul ha.y hb.z) (Expr.withinMul ha.z hb.y),
   Expr.withinSub (Expr.withinMul ha.z hb.x) (Expr.withinMul ha.x hb.z),
   Expr.withinSub (Expr.withinMul ha.x hb.y) (Expr.withinMul ha.y hb.x)⟩

theorem definedPlanarCross (ha : a.Defined v) (hb : b.Defined v) : (a.planarCross b).Defined v :=
  Expr.withinSub (Expr.withinMul ha.x hb.y) (Expr.withinMul ha.y hb.x)

theorem definedMagnitude (ha : a.Defined v) : a.magnitude.Defined v := by
  have squares : (a.x.square + a.y.square + a.z.square).Defined v :=
    Expr.withinAdd (Expr.withinAdd (Expr.withinFold ha.x) (Expr.withinFold ha.y)) (Expr.withinFold ha.z)
  refine Expr.withinFold ⟨squares, Set.mem_Ici.mpr ?_⟩
  rw [Expr.evalAdd, Expr.evalAdd, Expr.evalSquare, Expr.evalSquare, Expr.evalSquare]
  exact add_nonneg (add_nonneg (mul_self_nonneg _) (mul_self_nonneg _)) (mul_self_nonneg _)

theorem definedWithMagnitude (ha : a.Defined v) (he : e.Defined v) (long : 0 < (a.eval v).length) :
    (a.withMagnitude e).Defined v := by
  refine definedScale ha (Expr.withinDiv he (definedMagnitude ha) ?_)
  rw [evalMagnitude]
  exact long.ne'

theorem definedDirectionCosine (ha : a.Defined v) (hb : b.Defined v) (longA : 0 < (a.eval v).length)
    (longB : 0 < (b.eval v).length) : (a.directionCosine b).Defined v := by
  refine Expr.withinDiv (definedDot ha hb) (Expr.withinMul (definedMagnitude ha) (definedMagnitude hb)) ?_
  rw [Expr.evalMul, evalMagnitude, evalMagnitude]
  exact mul_ne_zero longA.ne' longB.ne'

theorem definedToList (ha : a.Defined v) : ∀ e ∈ a.toList, e.Defined v := by
  simp [toList, ha.x, ha.y, ha.z]

end Vec3

namespace Quat
variable {v : ParamId → ℝ} {p q : Quat (Expr ℝ)} {a : Vec3 (Expr ℝ)} {b c : Expr ℝ}

theorem definedOfParams (r : Quat ParamId) : (ofParams r : Quat (Expr ℝ)).Defined v := ⟨trivial, trivial, trivial, trivial⟩

theorem definedToExpr (r : Quat ℝ) : r.toExpr.Defined v := ⟨trivial, trivial, trivial, trivial⟩

theorem definedTwice (hb : b.Defined v) (hc : c.Defined v) : (twice b c).Defined v :=
  Expr.withinMul trivial (Expr.withinMul hb hc)

theorem definedAboutAxis (ha : a.Defined v) (hb : b.Defined v) : (aboutAxis a b).Defined v := by
  have half : (b / .const 2.0).Defined v := Expr.withinDiv hb trivial (by simp)
  exact ⟨Expr.withinMul ha.x (Expr.withinFold half), Expr.withinMul ha.y (Expr.withinFold half),
    Expr.withinMul ha.z (Expr.withinFold half), Expr.withinFold half⟩

theorem definedImageU (h : q.Defined v) : q.imageU.Defined v :=
  ⟨Expr.withinSub (Expr.withinSub (Expr.withinAdd (Expr.withinFold h.w) (Expr.withinFold h.x)) (Expr.withinFold h.y))
     (Expr.withinFold h.z),
   Expr.withinAdd (definedTwice h.w h.z) (definedTwice h.x h.y),
   Expr.withinSub (definedTwice h.x h.z) (definedTwice h.w h.y)⟩

theorem definedImageV (h : q.Defined v) : q.imageV.Defined v :=
  ⟨Expr.withinSub (definedTwice h.x h.y) (definedTwice h.w h.z),
   Expr.withinSub (Expr.withinAdd (Expr.withinSub (Expr.withinFold h.w) (Expr.withinFold h.x)) (Expr.withinFold h.y))
     (Expr.withinFold h.z),
   Expr.withinAdd (definedTwice h.w h.x) (definedTwice h.y h.z)⟩

theorem definedImageN (h : q.Defined v) : q.imageN.Defined v :=
  ⟨Expr.withinAdd (definedTwice h.w h.y) (definedTwice h.x h.z),
   Expr.withinSub (definedTwice h.y h.z) (definedTwice h.w h.x),
   Expr.withinAdd (Expr.withinSub (Expr.withinSub (Expr.withinFold h.w) (Expr.withinFold h.x)) (Expr.withinFold h.y))
     (Expr.withinFold h.z)⟩

theorem definedApply (h : q.Defined v) (ha : a.Defined v) : (q.apply a).Defined v :=
  Vec3.definedAdd (Vec3.definedAdd (Vec3.definedScale (definedImageU h) ha.x) (Vec3.definedScale (definedImageV h) ha.y))
    (Vec3.definedScale (definedImageN h) ha.z)

theorem definedTimes (hp : p.Defined v) (hq : q.Defined v) : (p.times q).Defined v := by
  constructor <;> apply_rules [Expr.withinAdd, Expr.withinSub, Expr.withinMul, hp.x, hp.y, hp.z, hp.w, hq.x, hq.y,
    hq.z, hq.w]

end Quat

structure PlaneExpr.Defined (v : ParamId → ℝ) (plane : PlaneExpr ℝ) : Prop where
  origin : plane.origin.Defined v
  orientation : plane.orientation.Defined v

namespace CopyTransform
variable {v : ParamId → ℝ} {t : CopyTransform ℝ}

def Turns (v : ParamId → ℝ) : CopyTransform ℝ → Prop
  | rotate _ axis _ _ => 0 < (axis.map v).length
  | _ => True

theorem definedRotation (turns : t.Turns v) : (t.rotation?.getD Quat.identity.toExpr).Defined v := by
  cases t with
  | identity | translate => exact Quat.definedToExpr _
  | rotate center axis angle times =>
    have along : (Vec3.ofParams axis : Vec3 (Expr ℝ)).Defined v := Vec3.definedOfParams axis
    exact Quat.definedAboutAxis (Vec3.definedWithMagnitude along trivial turns) (Expr.withinMul trivial trivial)
  | revolve origin axis angle => exact Quat.definedAboutAxis (Vec3.definedToExpr _) trivial
  | linked offset rotation => exact Quat.definedOfParams rotation

theorem definedPoint (base : Vec3 ℝ) (turns : t.Turns v) : (t.point base).Defined v := by
  have turned := definedRotation turns
  have start := Vec3.definedToExpr (v := v) base
  cases t with
  | identity => exact start
  | translate delta times => exact Vec3.definedAdd start (Vec3.definedScale (Vec3.definedOfParams delta) trivial)
  | rotate center axis angle times =>
    have about : (Vec3.ofParams center : Vec3 (Expr ℝ)).Defined v := Vec3.definedOfParams center
    exact Vec3.definedAdd about (Quat.definedApply turned (Vec3.definedSub start about))
  | revolve origin axis angle =>
    have about := Vec3.definedToExpr (v := v) origin
    exact Vec3.definedAdd about (Quat.definedApply turned (Vec3.definedSub start about))
  | linked offset rotation =>
    exact Vec3.definedAdd (Quat.definedApply turned start) (Vec3.definedOfParams offset)

theorem definedNormal (base : Quat ℝ) (turns : t.Turns v) : (t.normal base).Defined v := by
  have turned := definedRotation turns
  unfold normal
  cases spin : t.rotation? with
  | none => exact Quat.definedToExpr base
  | some q =>
    rw [spin] at turned
    exact Quat.definedTimes turned (Quat.definedToExpr base)

end CopyTransform

namespace Sketch

/-- An entity that is built without a division by zero: a copy is turned about an axis of some length, and what a face
is swept by has an area. -/
def Sturdy (s : Sketch ℝ) (v : ParamId → ℝ) (e : Entity ℝ) : Prop :=
  match e.kind with
  | .pointCopy _ t | .normalCopy _ t => t.Turns v
  | .face _ (.sweep source target direction) => ∀ a b, s.pointExpr source = .ok a → s.pointExpr target = .ok b →
    0 < ((b.eval v - a.eval v).cross (direction.map v)).length
  | _ => True

structure SturdyOn (s : Sketch ℝ) (v : ParamId → ℝ) (W : EntityId → Prop) : Prop where
  named : ∀ id e, W id → s.entities.get? id = some e → ∀ part ∈ e.references, W part
  sturdy : ∀ id e, W id → s.entities.get? id = some e → s.Sturdy v e

section Places
variable {s : Sketch ℝ} {v : ParamId → ℝ} {W : EntityId → Prop} (h : s.SturdyOn v W) {id : EntityId} {e : Entity ℝ}
include h

theorem SturdyOn.part (within : W id) (found : s.entities.get? id = some e) {part : EntityId} (named : part ∈ e.kind.parts) :
    W part := h.named id e within found part (List.mem_append_left _ named)

theorem SturdyOn.workplane (within : W id) (found : s.entities.get? id = some e) {w : EntityId} (lies : e.workplane = some w) :
    W w := h.named id e within found w (List.mem_append_right _ (Option.mem_toList.mpr lies))

theorem SturdyOn.covered : s.CoveredBy (fun _ => True) W where
  own _ _ _ _ _ _ := trivial
  part _ _ within found _ named := h.part within found named
  lies _ _ w _ _ _ := planeWithinHeld (fun _ _ => trivial) _ w
  plane id _ := planeWithinHeld (fun _ _ => trivial) _ id

theorem pointFromDefined {plane : EntityId → Except SketchError (PlaneExpr ℝ)} (within : W id)
    (placed : ∀ w, W w → All (PlaneExpr.Defined v) (plane w)) : All (Vec3.Defined v) (s.pointFrom plane id) := by
  refine allEntity fun e found => ?_
  have sturdy := h.sturdy id e within found
  cases kind : e.kind with
  | pointIn3d p => exact allPure (Vec3.definedOfParams p)
  | pointIn2d p =>
    refine allFound (fun w lies => h.workplane within found lies) fun w inside => allBind (placed w inside) fun x level => ?_
    exact allPure (Vec3.definedAdd (Vec3.definedAdd level.origin
      (Vec3.definedScale (Quat.definedImageU level.orientation) trivial))
      (Vec3.definedScale (Quat.definedImageV level.orientation) trivial))
  | pointCopy base t =>
    rw [Sturdy, kind] at sturdy
    exact allPure (CopyTransform.definedPoint base sturdy)
  | _ => exact allThrow _

theorem normalFromDefined {plane : EntityId → Except SketchError (PlaneExpr ℝ)} (within : W id)
    (placed : ∀ w, W w → All (PlaneExpr.Defined v) (plane w)) : All (Quat.Defined v) (s.normalFrom plane id) := by
  refine allEntity fun e found => ?_
  have sturdy := h.sturdy id e within found
  cases kind : e.kind with
  | normalIn3d q => exact allPure (Quat.definedOfParams q)
  | normalIn2d =>
    exact allFound (fun w lies => h.workplane within found lies) fun w inside => allBind (placed w inside) fun x level =>
      allPure level.orientation
  | normalCopy base t =>
    rw [Sturdy, kind] at sturdy
    exact allPure (CopyTransform.definedNormal base sturdy)
  | _ => exact allThrow _

/- The induction is on how many workplanes are gone through. -/
theorem planeWithinDefined (within : W id) (depth : Nat) : All (PlaneExpr.Defined v) (s.planeWithin depth id) := by
  induction depth generalizing id with
  | zero => exact allThrow _
  | succ depth ih =>
    refine allEntity fun e found => ?_
    cases kind : e.kind with
    | workplane origin normal =>
      have first : origin ∈ e.kind.parts := by simp [kind]
      have second : normal ∈ e.kind.parts := by simp [kind]
      exact allBind (pointFromDefined h (h.part within found first) fun w inside => ih inside) fun o ho =>
        allBind (normalFromDefined h (h.part within found second) fun w inside => ih inside) fun q hq => allPure ⟨ho, hq⟩
    | _ => exact allThrow _

theorem planeDefined (within : W id) : All (PlaneExpr.Defined v) (s.planeExpr id) := planeWithinDefined h within _

theorem pointDefined (within : W id) : All (Vec3.Defined v) (s.pointExpr id) :=
  pointFromDefined h within fun _ inside => planeDefined h inside

theorem normalDefined (within : W id) : All (Quat.Defined v) (s.normalExpr id) :=
  normalFromDefined h within fun _ inside => planeDefined h inside

omit h in
theorem distanceDefined : All (Expr.Defined v) (s.distanceExpr id) := by
  refine allEntity fun e _ => ?_
  cases e.kind with
  | distance | distanceCopy => exact allPure trivial
  | _ => exact allThrow _

theorem planePointDefined (within : W id) : All (Vec3.Defined v) (s.planePointExpr id) := by
  refine allEntity fun e found => ?_
  cases kind : e.kind with
  | workplane origin normal =>
    exact pointDefined h (h.part within found (by simp [kind]))
  | face point direction =>
    exact pointDefined h (h.part within found (by simp [kind]))
  | _ => exact allThrow _

theorem sweptEnds (within : W id) (found : s.entities.get? id = some e) {point source target : EntityId}
    {direction : Vec3 ParamId} (kind : e.kind = .face point (.sweep source target direction)) {a b : Vec3 (Expr ℝ)}
    (first : s.pointExpr source = .ok a) (second : s.pointExpr target = .ok b) : (b - a).Defined v ∧
      0 < (((b - a).cross (.ofParams direction)).eval v).length := by
  have sturdy := h.sturdy id e within found
  rw [Sturdy, kind] at sturdy
  have start := h.part within found (show source ∈ e.kind.parts by simp [kind])
  have finish := h.part within found (show target ∈ e.kind.parts by simp [kind])
  refine ⟨Vec3.definedSub (pointDefined h finish b second) (pointDefined h start a first), ?_⟩
  rw [Vec3.evalCross, Vec3.evalSub, Vec3.evalOfParams]
  exact sturdy a b first second

theorem planeNormalDefined (within : W id) : All (Vec3.Defined v) (s.planeNormalExpr id) := by
  refine allEntity fun e found => ?_
  have part {n : EntityId} (named : n ∈ e.kind.parts) := normalDefined h (h.part within found named)
  cases kind : e.kind with
  | workplane origin normal =>
    have named : normal ∈ e.kind.parts := by simp [kind]
    exact allBind (part named) fun q defined => allPure (Quat.definedImageN defined)
  | face point direction =>
    cases direction with
    | normal n =>
      have named : n ∈ e.kind.parts := by simp [kind]
      exact allBind (part named) fun q defined => allPure (Quat.definedImageN defined)
    | sweep source target along =>
      intro n ok
      obtain ⟨b, second, ok⟩ := bindOk.mp ok
      obtain ⟨a, first, ok⟩ := bindOk.mp ok
      cases ok
      obtain ⟨defined, area⟩ := sweptEnds h within found kind first second
      exact Vec3.definedWithMagnitude (Vec3.definedCross defined (Vec3.definedOfParams along)) trivial area
  | _ => exact allThrow _

theorem radiusDefined (within : W id) : All (Expr.Defined v) (s.radiusExpr id) := by
  refine allEntity fun e found => ?_
  cases kind : e.kind with
  | circle center normal radius => exact distanceDefined
  | arc center start finish normal =>
    have middle := h.part within found (show center ∈ e.kind.parts by simp [kind])
    have tip := h.part within found (show start ∈ e.kind.parts by simp [kind])
    exact allBind (pointDefined h tip) fun a ha => allBind (pointDefined h middle) fun c hc =>
      allPure (Vec3.definedMagnitude (Vec3.definedSub ha hc))
  | _ => exact allThrow _

end Places
end Sketch
end Drafting
