import Drafting.Sketch.Residual
/-! Which parameters an expression mentions. Folding while building only ever drops some, so whatever
is built from expressions over certain parameters is over these again. -/
namespace Drafting

namespace Expr

def Over (P : ParamId → Prop) : Expr α → Prop
  | const _ => True
  | param p => P p
  | sum a b | difference a b | product a b | quotient a b => a.Over P ∧ b.Over P
  | negation a | root a | squared a | sine a | cosine a | arcsine a | arccosine a => a.Over P

section Mentioned
variable {P Q : ParamId → Prop}

theorem overCollect (e : Expr α) (seen : List ParamId) :
    (∀ p ∈ e.collect seen, P p) ↔ (∀ p ∈ seen, P p) ∧ e.Over P := by
  induction e generalizing seen with
  | const v => simp [collect, Over]
  | param q =>
    unfold collect Over
    split
    · rename_i before
      exact ⟨fun all => ⟨all, all q before⟩, fun all => all.1⟩
    · simp [or_imp, forall_and]
  | sum a b iha ihb | difference a b iha ihb | product a b iha ihb | quotient a b iha ihb =>
    simp only [collect, Over, ihb, iha, and_assoc]
  | negation a ih | root a ih | squared a ih | sine a ih | cosine a ih | arcsine a ih | arccosine a ih =>
    simp only [collect, Over, ih]

theorem overIff {e : Expr α} : e.Over P ↔ ∀ p ∈ e.params, P p := by
  rw [params, overCollect]
  simp

theorem Over.mono {e : Expr α} (h : e.Over P) (wider : ∀ p, P p → Q p) : e.Over Q :=
  overIff.mpr fun p member => wider p (overIff.mp h p member)

theorem evalCongr [Scalar α] {e : Expr α} {f g : ParamId → α} (h : e.Over P) (same : ∀ p, P p → f p = g p) :
    e.eval f = e.eval g := by
  induction e with
  | const v => rfl
  | param p => exact same p h
  | sum a b iha ihb | difference a b iha ihb | product a b iha ihb | quotient a b iha ihb =>
    simp only [eval, iha h.1, ihb h.2]
  | negation a ih | root a ih | squared a ih | sine a ih | cosine a ih | arcsine a ih | arccosine a ih =>
    simp only [eval, ih h]

theorem collectNodup (e : Expr α) {seen : List ParamId} (once : seen.Nodup) : (e.collect seen).Nodup := by
  induction e generalizing seen with
  | const v => exact once
  | param p =>
    unfold collect
    split
    · exact once
    · rename_i fresh
      refine List.nodup_append.mpr ⟨once, List.pairwise_singleton .., fun q before r only => ?_⟩
      rw [List.mem_singleton.mp only]
      exact fun same => fresh (same ▸ before)
  | sum a b iha ihb | difference a b iha ihb | product a b iha ihb | quotient a b iha ihb => exact ihb (iha once)
  | negation a ih | root a ih | squared a ih | sine a ih | cosine a ih | arcsine a ih | arccosine a ih => exact ih once

theorem paramsNodup (e : Expr α) : e.params.Nodup := collectNodup e .nil

@[simp] theorem overConst (v : α) : (const v).Over P := trivial

@[simp] theorem overParam (p : ParamId) : (param p : Expr α).Over P ↔ P p := .rfl

end Mentioned

/-! What building can come to: a constant, one of the parts or its opposite, or the plain term. -/

section Cases
variable [Scalar α] {Q : Expr α → Prop} {a b : Expr α}

theorem negateCases (constant : ∀ x, Q (const x)) (inner : ∀ c, a = negation c → Q c) (whole : Q (negation a)) :
    Q (-a) := by
  change Q (negate a)
  cases a with
  | const x => exact constant _
  | negation c => exact inner c rfl
  | _ => exact whole

theorem addCases (constant : ∀ x, Q (const x)) (left : Q a) (right : Q b) (whole : Q (sum a b)) : Q (a + b) := by
  change Q (plus a b)
  unfold plus
  split
  · exact constant _
  · split
    · exact right
    · exact whole
  · split
    · exact left
    · exact whole
  · exact whole

theorem subCases (constant : ∀ x, Q (const x)) (left : Q a) (opposite : Q (-b)) (whole : Q (difference a b)) :
    Q (a - b) := by
  change Q (minus a b)
  unfold minus
  split
  · exact constant _
  · split
    · exact left
    · exact whole
  · split
    · exact opposite
    · exact whole
  · exact whole

theorem timesConstCases {all : Expr α} (x : α) (constant : ∀ x, Q (const x)) (part : Q a) (opposite : Q (-a))
    (whole : Q all) : Q (timesConst all x a) := by
  unfold timesConst
  split
  · exact constant _
  split
  · exact part
  split
  · exact opposite
  · exact whole

theorem mulCases (constant : ∀ x, Q (const x)) (left : Q a) (minusLeft : Q (-a)) (right : Q b) (minusRight : Q (-b))
    (whole : Q (product a b)) : Q (a * b) := by
  change Q (times a b)
  unfold times
  split
  · exact constant _
  · exact timesConstCases _ constant right minusRight whole
  · exact timesConstCases _ constant left minusLeft whole
  · exact whole

theorem divCases (constant : ∀ x, Q (const x)) (left : Q a) (whole : Q (quotient a b)) : Q (a / b) := by
  change Q (dividedBy a b)
  unfold dividedBy
  split
  · exact constant _
  · split
    · exact left
    · exact whole
  · split
    · exact constant _
    · exact whole
  · exact whole

omit [Scalar α] in
theorem foldCases {f : α → α} {node : Expr α → Expr α} (constant : ∀ x, Q (const x)) (whole : Q (node a)) :
    Q (a.foldOr f node) := by
  unfold foldOr
  split
  · exact constant _
  · exact whole

end Cases

section Build
variable [Scalar α] {P : ParamId → Prop} {a b : Expr α}

theorem overNegate (ha : a.Over P) : (-a).Over P := by
  refine negateCases overConst (fun c inner => ?_) ha
  rw [inner] at ha
  exact ha

theorem overAdd (ha : a.Over P) (hb : b.Over P) : (a + b).Over P := addCases overConst ha hb ⟨ha, hb⟩

theorem overSub (ha : a.Over P) (hb : b.Over P) : (a - b).Over P := subCases overConst ha (overNegate hb) ⟨ha, hb⟩

theorem overMul (ha : a.Over P) (hb : b.Over P) : (a * b).Over P :=
  mulCases overConst ha (overNegate ha) hb (overNegate hb) ⟨ha, hb⟩

theorem overDiv (ha : a.Over P) (hb : b.Over P) : (a / b).Over P := divCases overConst ha ⟨ha, hb⟩

omit [Scalar α] in
theorem overFold {f : α → α} {node : Expr α → Expr α} (whole : (node a).Over P) : (a.foldOr f node).Over P :=
  foldCases overConst whole

theorem overSubstitute {known : ParamId → Option α} {Q : ParamId → Prop} {e : Expr α} (h : e.Over P)
    (left : ∀ p, P p → known p = none → Q p) : (e.substitute known).Over Q := by
  induction e with
  | const v => trivial
  | param p =>
    rw [substitute]
    cases value : known p with
    | some v => trivial
    | none => exact left p h value
  | sum a b iha ihb => exact overAdd (iha h.1) (ihb h.2)
  | difference a b iha ihb => exact overSub (iha h.1) (ihb h.2)
  | product a b iha ihb => exact overMul (iha h.1) (ihb h.2)
  | quotient a b iha ihb => exact overDiv (iha h.1) (ihb h.2)
  | negation a ih => exact overNegate (ih h)
  | root a ih => exact overFold (ih h)
  | squared a ih => exact overFold (ih h)
  | sine a ih => exact overFold (ih h)
  | cosine a ih => exact overFold (ih h)
  | arcsine a ih => exact overFold (ih h)
  | arccosine a ih => exact overFold (ih h)

theorem overPartial (p : ParamId) {e : Expr α} (h : e.Over P) : (e.partialIn p).Over P := by
  have cut {e c : Expr α} (whole : c.Over P) : (if e.dependsOn p then c else const 0.0).Over P := by
    split
    · exact whole
    · trivial
  induction e with
  | const v => trivial
  | param q => trivial
  | sum a b iha ihb => exact cut (overAdd (iha h.1) (ihb h.2))
  | difference a b iha ihb => exact cut (overSub (iha h.1) (ihb h.2))
  | product a b iha ihb => exact cut (overAdd (overMul (iha h.1) h.2) (overMul h.1 (ihb h.2)))
  | quotient a b iha ihb =>
    exact cut (overDiv (overSub (overMul (iha h.1) h.2) (overMul h.1 (ihb h.2))) (overFold h.2))
  | negation a ih => exact cut (overNegate (ih h))
  | root a ih => exact cut (overDiv (ih h) (overMul (overConst _) h))
  | squared a ih => exact cut (overMul (overMul (overConst _) h) (ih h))
  | sine a ih => exact cut (overMul (overFold h) (ih h))
  | cosine a ih => exact cut (overNegate (overMul (overFold h) (ih h)))
  | arcsine a ih => exact cut (overDiv (ih h) (overFold (overSub (overConst _) (overFold h))))
  | arccosine a ih => exact cut (overNegate (overDiv (ih h) (overFold (overSub (overConst _) (overFold h)))))

end Build
end Expr

structure Vec3.Over (P : ParamId → Prop) (v : Vec3 (Expr α)) : Prop where
  x : v.x.Over P
  y : v.y.Over P
  z : v.z.Over P

structure Quat.Over (P : ParamId → Prop) (q : Quat (Expr α)) : Prop where
  x : q.x.Over P
  y : q.y.Over P
  z : q.z.Over P
  w : q.w.Over P

namespace Vec3
variable [Scalar α] {P Q : ParamId → Prop} {u v : Vec3 (Expr α)} {a : Expr α}

omit [Scalar α] in
theorem Over.mono (h : v.Over P) (wider : ∀ p, P p → Q p) : v.Over Q :=
  ⟨h.x.mono wider, h.y.mono wider, h.z.mono wider⟩

theorem evalCongr {f g : ParamId → α} (h : v.Over P) (same : ∀ p, P p → f p = g p) : v.eval f = v.eval g := by
  simp only [eval, map, Expr.evalCongr h.x same, Expr.evalCongr h.y same, Expr.evalCongr h.z same]

omit [Scalar α] in
theorem overOfParams {p : Vec3 ParamId} (h : ∀ q ∈ p.toList, P q) : (ofParams p : Vec3 (Expr α)).Over P :=
  ⟨h p.x (by simp [toList]), h p.y (by simp [toList]), h p.z (by simp [toList])⟩

omit [Scalar α] in
theorem overToExpr (v : Vec3 α) : v.toExpr.Over P := ⟨trivial, trivial, trivial⟩

theorem overAdd (hu : u.Over P) (hv : v.Over P) : (u + v).Over P :=
  ⟨Expr.overAdd hu.x hv.x, Expr.overAdd hu.y hv.y, Expr.overAdd hu.z hv.z⟩

theorem overSub (hu : u.Over P) (hv : v.Over P) : (u - v).Over P :=
  ⟨Expr.overSub hu.x hv.x, Expr.overSub hu.y hv.y, Expr.overSub hu.z hv.z⟩

theorem overNeg (hv : v.Over P) : (-v).Over P :=
  ⟨Expr.overNegate hv.x, Expr.overNegate hv.y, Expr.overNegate hv.z⟩

theorem overScale (hv : v.Over P) (ha : a.Over P) : (v.scale a).Over P :=
  ⟨Expr.overMul hv.x ha, Expr.overMul hv.y ha, Expr.overMul hv.z ha⟩

theorem overDot (hu : u.Over P) (hv : v.Over P) : (u.dot v).Over P :=
  Expr.overAdd (Expr.overAdd (Expr.overMul hu.x hv.x) (Expr.overMul hu.y hv.y)) (Expr.overMul hu.z hv.z)

theorem overCross (hu : u.Over P) (hv : v.Over P) : (u.cross v).Over P :=
  ⟨Expr.overSub (Expr.overMul hu.y hv.z) (Expr.overMul hu.z hv.y),
   Expr.overSub (Expr.overMul hu.z hv.x) (Expr.overMul hu.x hv.z),
   Expr.overSub (Expr.overMul hu.x hv.y) (Expr.overMul hu.y hv.x)⟩

theorem overPlanarCross (hu : u.Over P) (hv : v.Over P) : (u.planarCross v).Over P :=
  Expr.overSub (Expr.overMul hu.x hv.y) (Expr.overMul hu.y hv.x)

theorem overMagnitude (hv : v.Over P) : v.magnitude.Over P :=
  Expr.overFold (Expr.overAdd (Expr.overAdd (Expr.overFold hv.x) (Expr.overFold hv.y)) (Expr.overFold hv.z))

theorem overWithMagnitude (hv : v.Over P) (ha : a.Over P) : (v.withMagnitude a).Over P :=
  overScale hv (Expr.overDiv ha (overMagnitude hv))

theorem overDirectionCosine (hu : u.Over P) (hv : v.Over P) : (u.directionCosine v).Over P :=
  Expr.overDiv (overDot hu hv) (Expr.overMul (overMagnitude hu) (overMagnitude hv))

omit [Scalar α] in
theorem overToList (hv : v.Over P) : ∀ e ∈ v.toList, e.Over P := by
  simp [toList, hv.x, hv.y, hv.z]

end Vec3

namespace Quat
variable [Scalar α] {P Q : ParamId → Prop} {p q : Quat (Expr α)} {v : Vec3 (Expr α)} {a b : Expr α}

omit [Scalar α] in
theorem Over.mono (h : q.Over P) (wider : ∀ p, P p → Q p) : q.Over Q :=
  ⟨h.x.mono wider, h.y.mono wider, h.z.mono wider, h.w.mono wider⟩

theorem evalCongr {f g : ParamId → α} (h : q.Over P) (same : ∀ p, P p → f p = g p) : q.eval f = q.eval g := by
  simp only [eval, map, Expr.evalCongr h.x same, Expr.evalCongr h.y same, Expr.evalCongr h.z same,
    Expr.evalCongr h.w same]

omit [Scalar α] in
theorem overOfParams {r : Quat ParamId} (h : ∀ p ∈ [r.w, r.x, r.y, r.z], P p) :
    (ofParams r : Quat (Expr α)).Over P :=
  ⟨h r.x (by simp), h r.y (by simp), h r.z (by simp), h r.w (by simp)⟩

omit [Scalar α] in
theorem overToExpr (r : Quat α) : r.toExpr.Over P := ⟨trivial, trivial, trivial, trivial⟩

theorem overTwice (ha : a.Over P) (hb : b.Over P) : (twice a b).Over P :=
  Expr.overMul (Expr.overConst _) (Expr.overMul ha hb)

theorem overAboutAxis (hv : v.Over P) (ha : a.Over P) : (aboutAxis v a).Over P := by
  have half : (a / .const 2.0).Over P := Expr.overDiv ha (Expr.overConst _)
  exact ⟨Expr.overMul hv.x (Expr.overFold half), Expr.overMul hv.y (Expr.overFold half),
    Expr.overMul hv.z (Expr.overFold half), Expr.overFold half⟩

theorem overImageU (h : q.Over P) : q.imageU.Over P :=
  ⟨Expr.overSub (Expr.overSub (Expr.overAdd (Expr.overFold h.w) (Expr.overFold h.x)) (Expr.overFold h.y))
     (Expr.overFold h.z),
   Expr.overAdd (overTwice h.w h.z) (overTwice h.x h.y),
   Expr.overSub (overTwice h.x h.z) (overTwice h.w h.y)⟩

theorem overImageV (h : q.Over P) : q.imageV.Over P :=
  ⟨Expr.overSub (overTwice h.x h.y) (overTwice h.w h.z),
   Expr.overSub (Expr.overAdd (Expr.overSub (Expr.overFold h.w) (Expr.overFold h.x)) (Expr.overFold h.y))
     (Expr.overFold h.z),
   Expr.overAdd (overTwice h.w h.x) (overTwice h.y h.z)⟩

theorem overImageN (h : q.Over P) : q.imageN.Over P :=
  ⟨Expr.overAdd (overTwice h.w h.y) (overTwice h.x h.z), Expr.overSub (overTwice h.y h.z) (overTwice h.w h.x),
   Expr.overAdd (Expr.overSub (Expr.overSub (Expr.overFold h.w) (Expr.overFold h.x)) (Expr.overFold h.y))
     (Expr.overFold h.z)⟩

theorem overApply (h : q.Over P) (hv : v.Over P) : (q.apply v).Over P :=
  Vec3.overAdd (Vec3.overAdd (Vec3.overScale (overImageU h) hv.x) (Vec3.overScale (overImageV h) hv.y))
    (Vec3.overScale (overImageN h) hv.z)

theorem overTimes (hp : p.Over P) (hq : q.Over P) : (p.times q).Over P := by
  constructor <;> apply_rules [Expr.overAdd, Expr.overSub, Expr.overMul, hp.x, hp.y, hp.z, hp.w, hq.x, hq.y,
    hq.z, hq.w]

theorem overMagnitudeSquared (h : q.Over P) : q.magnitudeSquared.Over P :=
  Expr.overAdd (Expr.overAdd (Expr.overAdd (Expr.overFold h.w) (Expr.overFold h.x)) (Expr.overFold h.y))
    (Expr.overFold h.z)

end Quat
end Drafting
