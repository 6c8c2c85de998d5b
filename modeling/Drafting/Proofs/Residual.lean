import Drafting.Proofs.Reading
/-! Which parameters the residuals of a constraint mention: those that the named entities and its workplane
read, and its own where there is one. -/
namespace Drafting
open Result Sketch

structure Basis.Over (P : ParamId → Prop) (b : Basis α) : Prop where
  origin : b.origin.Over P
  u : b.u.Over P
  v : b.v.Over P

namespace Setting
variable [Scalar α]

structure Sound (P : ParamId → Prop) (W : EntityId → Prop) (c : Setting α) : Prop where
  placed : c.sketch.CoveredBy P W
  basis : ∀ b, c.basis = some b → b.Over P

section Parts
variable {P : ParamId → Prop} {W : EntityId → Prop} {c : Setting α} (h : c.Sound P W)
include h

theorem pointOver {id : EntityId} (within : W id) : All (Vec3.Over P) (c.point id) :=
  allRenamed (pointAll h.placed within)

theorem partOver {id : EntityId} {e : Entity α} (within : W id) (found : c.sketch.entities.get? id = some e)
    {part : EntityId} (named : part ∈ e.kind.parts) : All (Vec3.Over P) (c.point part) :=
  pointOver h (h.placed.part id e within found part named)

theorem projectOver {v : Vec3 (Expr α)} (covers : v.Over P) : (c.project v).Over P := by
  unfold project
  cases found : c.basis with
  | none => exact covers
  | some b =>
    have plane := h.basis b found
    exact ⟨Vec3.overDot covers plane.u, Vec3.overDot covers plane.v, Expr.overConst _⟩

theorem coordinatesOver {id : EntityId} (within : W id) : All (Vec3.Over P) (c.coordinates id) := by
  refine allBind (pointOver h within) fun p covers => ?_
  cases found : c.basis with
  | none => exact allPure covers
  | some b => exact allPure (projectOver h (Vec3.overSub covers (h.basis b found).origin))

theorem vanishesOver {d : Vec3 (Expr α)} (covers : d.Over P) : ∀ r ∈ c.vanishes d, r.Over P := by
  have flat := projectOver h covers
  unfold vanishes
  dsimp only
  split
  · simp [flat.x, flat.y]
  · exact Vec3.overToList flat

omit [Scalar α] h in
theorem allNamed {id : EntityId} {Q : τ → Prop} {f : Entity α → Except ConstraintError τ}
    (each : ∀ e, c.sketch.entities.get? id = some e → All Q (f e)) :
    All Q ((liftM (c.sketch.entity id) : Except ConstraintError (Entity α)) >>= f) :=
  allBind (allRenamed fun _ there => entityFound.mp there) each

theorem lineOver {id : EntityId} (within : W id) :
    All (fun ends : Vec3 (Expr α) × Vec3 (Expr α) => ends.1.Over P ∧ ends.2.Over P) (c.line id) := by
  refine allNamed fun e found => ?_
  cases kind : e.kind with
  | line a b =>
    have first : a ∈ e.kind.parts := by simp [kind]
    have second : b ∈ e.kind.parts := by simp [kind]
    exact allBind (partOver h within found first) fun p hp => allBind (partOver h within found second) fun q hq =>
      allPure ⟨hp, hq⟩
  | _ => exact allThrow _

theorem lineDirectionOver {id : EntityId} (within : W id) : All (Vec3.Over P) (c.lineDirection id) :=
  allBind (lineOver h within) fun _ ends => allPure (projectOver h (Vec3.overSub ends.2 ends.1))

theorem lineLengthOver {id : EntityId} (within : W id) : All (Expr.Over P) (c.lineLength id) :=
  allBind (lineDirectionOver h within) fun _ covers => allPure (Vec3.overMagnitude covers)

theorem pointLineDistanceOver {point line : EntityId} (hp : W point) (hl : W line) :
    All (Expr.Over P) (c.pointLineDistance point line) := by
  refine allBind (lineOver h hl) fun ends both => allBind (pointOver h hp) fun p covers => ?_
  have d := projectOver h (Vec3.overSub both.2 both.1)
  have w := projectOver h (Vec3.overSub covers both.1)
  dsimp only
  split
  · exact allPure (Expr.overDiv (Vec3.overPlanarCross d w) (Vec3.overMagnitude d))
  · exact allPure (Expr.overDiv (Vec3.overMagnitude (Vec3.overCross w d)) (Vec3.overMagnitude d))

omit h in
theorem positiveOver {e : Expr α} (covers : e.Over P) : (c.positive e).Over P := by
  unfold positive
  split
  · exact Expr.overNegate covers
  · exact covers

theorem planeHeightOver {point plane : EntityId} (hp : W point) (hw : W plane) :
    All (Expr.Over P) (c.planeHeight point plane) := by
  refine allBind (allRenamed (planePointAll h.placed hw)) fun o ho => ?_
  refine allBind (allRenamed (planeNormalAll h.placed hw)) fun n hn => allBind (pointOver h hp) fun p covers => ?_
  exact allPure (Vec3.overDot (Vec3.overSub covers ho) hn)

theorem planeAxesOver {plane : EntityId} (within : W plane) {n : Vec3 (Expr α)} (hn : n.Over P) :
    All (fun axes : Vec3 (Expr α) × Vec3 (Expr α) => axes.1.Over P ∧ axes.2.Over P) (c.planeAxes plane n) := by
  refine allNamed fun e found => ?_
  have turned {m : EntityId} (named : m ∈ e.kind.parts) :
      All (Quat.Over P) (liftM (c.sketch.normalExpr m) : Except ConstraintError (Quat (Expr α))) :=
    allRenamed (partNormal h.placed within found named)
  cases kind : e.kind with
  | workplane origin normal =>
    have named : normal ∈ e.kind.parts := by simp [kind]
    exact allBind (turned named) fun q covers => allPure ⟨Quat.overImageU covers, Quat.overImageV covers⟩
  | face point direction =>
    cases direction with
    | normal m =>
      have named : m ∈ e.kind.parts := by simp [kind]
      exact allBind (turned named) fun q covers => allPure ⟨Quat.overImageU covers, Quat.overImageV covers⟩
    | sweep source target along =>
      have first : source ∈ e.kind.parts := by simp [kind]
      have second : target ∈ e.kind.parts := by simp [kind]
      refine allBind (partOver h within found second) fun b hb => allBind (partOver h within found first) fun a ha => ?_
      have u := Vec3.overWithMagnitude (Vec3.overSub hb ha) (Expr.overConst (P := P) (1.0 : α))
      exact allPure ⟨u, Vec3.overCross hn u⟩
  | _ => exact allThrow _

theorem arcLengthOver {id : EntityId} (within : W id) : All (Expr.Over P) (c.arcLength id) := by
  refine allNamed fun e found => ?_
  cases kind : e.kind with
  | arc center start finish normal =>
    have middle : center ∈ e.kind.parts := by simp [kind]
    have first : start ∈ e.kind.parts := by simp [kind]
    have second : finish ∈ e.kind.parts := by simp [kind]
    refine allBind (partOver h within found middle) fun o ho => allBind (partOver h within found first) fun p hp => ?_
    refine allBind (partOver h within found second) fun q hq => ?_
    refine allBind (P := fun _ => True) (fun _ _ => trivial) fun angles _ => ?_
    have arm := Vec3.overSub hp ho
    have theta : ((p - o).directionCosine (q - o)).acos.Over P :=
      Expr.overFold (Vec3.overDirectionCosine arm (Vec3.overSub hq ho))
    refine allPure (Expr.overMul (Vec3.overMagnitude arm) ?_)
    split
    · exact Expr.overSub (Expr.overConst _) theta
    · exact theta
  | _ => exact allThrow _

theorem endTangentOver {id : EntityId} (within : W id) (tip : ArcEnd) :
    All (Vec3.Over P) (c.endTangent id tip) := by
  refine allNamed fun e found => ?_
  have point {m : EntityId} (named : m ∈ e.kind.parts) := partOver h within found named
  cases kind : e.kind with
  | arc center start finish normal =>
    have axis : normal ∈ e.kind.parts := by simp [kind]
    have middle : center ∈ e.kind.parts := by simp [kind]
    refine allBind (allRenamed (partNormal h.placed within found axis)) fun q hq => allBind (point ?_) fun p hp => ?_
    · cases tip <;> simp [kind]
    · exact allBind (point middle) fun o ho => allPure (Vec3.overCross (Quat.overImageN hq) (Vec3.overSub hp ho))
  | cubic p0 p1 p2 p3 =>
    have named (m : EntityId) (one : m = p0 ∨ m = p1 ∨ m = p2 ∨ m = p3) : m ∈ e.kind.parts := by
      simpa [kind] using one
    cases tip with
    | start =>
      exact allBind (point (named p1 (by simp))) fun b hb => allBind (point (named p0 (by simp))) fun a ha =>
        allPure (Vec3.overSub hb ha)
    | finish =>
      exact allBind (point (named p3 (by simp))) fun b hb => allBind (point (named p2 (by simp))) fun a ha =>
        allPure (Vec3.overSub hb ha)
  | line a b =>
    have first : a ∈ e.kind.parts := by simp [kind]
    have second : b ∈ e.kind.parts := by simp [kind]
    exact allBind (point second) fun q hq => allBind (point first) fun p hp => allPure (Vec3.overSub hq hp)
  | _ => exact allThrow _

theorem radiusOver {id : EntityId} (within : W id) :
    All (Expr.Over P) (liftM (c.sketch.radiusExpr id) : Except ConstraintError (Expr α)) :=
  allRenamed (radiusAll h.placed within)

end Parts
def Covered (P : ParamId → Prop) (rs : List (Expr α)) : Prop := ∀ r ∈ rs, r.Over P

section Residuals
variable {P : ParamId → Prop} {W : EntityId → Prop}

omit [Scalar α] in
theorem coveredOne {r : Expr α} (covers : r.Over P) : Covered P [r] := by
  intro x member
  exact List.mem_singleton.mp member ▸ covers

omit [Scalar α] in
theorem coveredTwo {r t : Expr α} (first : r.Over P) (second : t.Over P) : Covered P [r, t] := by
  simp [Covered, first, second]

variable {c : Setting α} (h : c.Sound P W)
include h

theorem pointOnLineOver {p line : EntityId} (hp : W p) (hl : W line)
    (helper : c.basis = none → P (.constraint c.constraint 0)) : All (Covered P) (c.residuals (.pointOnLine p line)) := by
  unfold residuals
  cases found : c.basis with
  | some b => exact allBind (pointLineDistanceOver h hp hl) fun d covers => allPure (coveredOne covers)
  | none =>
    have own : c.helper.Over P := helper found
    refine allBind (lineOver h hl) fun ends both => allBind (pointOver h hp) fun q hq => allPure ?_
    exact Vec3.overToList (Vec3.overSub (Vec3.overAdd both.1 (Vec3.overScale (Vec3.overSub both.2 both.1) own)) hq)

theorem pointOnCircleOver {p circle : EntityId} (hp : W p) (hc : W circle) :
    All (Covered P) (c.residuals (.pointOnCircle p circle)) := by
  refine allBind (allRenamed (roundNormalAll h.placed hc)) fun n within => ?_
  refine allBind (allRenamed (normalAll h.placed within)) fun q hq => ?_
  refine allBind (allRenamed (centerAll h.placed hc)) fun m within => allBind (pointOver h within) fun o ho => ?_
  refine allBind (pointOver h hp) fun v hv => allBind (radiusOver h hc) fun r hr => allPure (coveredOne ?_)
  have u := Vec3.overDot (Vec3.overSub hv ho) (Quat.overImageU hq)
  have w := Vec3.overDot (Vec3.overSub hv ho) (Quat.overImageV hq)
  exact Expr.overSub (Expr.overFold (Expr.overAdd (Expr.overFold u) (Expr.overFold w))) hr

theorem symmetricOver {a b plane : EntityId} (ha : W a) (hb : W b)
    (hw : W plane) : All (Covered P) (c.residuals (.symmetric a b plane)) := by
  refine allBind (pointOver h ha) fun pa ha => allBind (pointOver h hb) fun pb hb => ?_
  refine allBind (allRenamed (planePointAll h.placed hw)) fun o ho => ?_
  refine allBind (allRenamed (planeNormalAll h.placed hw)) fun n hn => ?_
  have middle := Vec3.overScale (Vec3.overAdd ha hb) (Expr.overConst (P := P) (0.5 : α))
  have height := Vec3.overDot (Vec3.overSub middle ho) hn
  have d := Vec3.overSub ha hb
  dsimp only
  split
  · exact allPure (coveredTwo height (Vec3.overPlanarCross (projectOver h d) (projectOver h hn)))
  · refine allBind (planeAxesOver h hw hn) fun axes both => allPure ?_
    simp [Covered, height, Vec3.overDot d both.1, Vec3.overDot d both.2]

theorem symmetricLineOver {a b line : EntityId} (ha : W a) (hb : W b)
    (hl : W line) : All (Covered P) (c.residuals (.symmetricLine a b line)) := by
  refine allBind (lineOver h hl) fun ends both => allBind (pointOver h ha) fun pa ha => ?_
  refine allBind (pointOver h hb) fun pb hb => allPure ?_
  have along := projectOver h (Vec3.overSub both.2 both.1)
  have middle := Vec3.overScale (Vec3.overAdd ha hb) (Expr.overConst (P := P) (0.5 : α))
  exact coveredTwo (Vec3.overPlanarCross along (projectOver h (Vec3.overSub middle both.1)))
    (Vec3.overDot (projectOver h (Vec3.overSub ha hb)) along)

theorem sameOrientationOver {a b : EntityId} (ha : W a) (hb : W b)
    (helper : P (.constraint c.constraint 0)) : All (Covered P) (c.residuals (.sameOrientation a b)) := by
  refine allBind (allRenamed (normalAll h.placed ha)) fun qa ha => ?_
  refine allBind (allRenamed (normalAll h.placed hb)) fun qb hb => allPure ?_
  have own : c.helper.Over P := helper
  have d := Vec3.overToList (Vec3.overSub (Quat.overImageN ha) (Vec3.overScale (Quat.overImageN hb) own))
  have v := Vec3.overDot (Quat.overImageU ha) (Quat.overImageV hb)
  have u := Vec3.overDot (Quat.overImageU ha) (Quat.overImageU hb)
  intro r member
  rcases List.mem_append.mp member with inside | last
  · exact d r inside
  · rw [List.mem_singleton.mp last]
    split
    · exact v
    · exact u

theorem equalAngleOver {a b d e : EntityId} (ha : W a) (hb : W b)
    (hd : W d) (he : W e) (supplementary : Bool) :
    All (Covered P) (c.residuals (.equalAngle a b d e supplementary)) := by
  refine allBind (lineDirectionOver h ha) fun da ha => allBind (lineDirectionOver h hb) fun db hb => ?_
  refine allBind (lineDirectionOver h hd) fun dd hd => allBind (lineDirectionOver h he) fun de he => ?_
  have first : (if supplementary then -da else da).Over P := by
    split
    · exact Vec3.overNeg ha
    · exact ha
  exact allPure (coveredOne (Expr.overSub (Vec3.overDirectionCosine first hb) (Vec3.overDirectionCosine hd he)))

theorem angleOver {a b : EntityId} (ha : W a) (hb : W b) (degrees : α)
    (supplementary : Bool) : All (Covered P) (c.residuals (.angle a b degrees supplementary)) := by
  refine allBind (lineDirectionOver h ha) fun da ha => allBind (lineDirectionOver h hb) fun db hb => ?_
  have first : (if supplementary then -da else da).Over P := by
    split
    · exact Vec3.overNeg ha
    · exact ha
  exact allPure (coveredOne (Expr.overSub (Vec3.overDirectionCosine first hb) (Expr.overConst _)))

theorem parallelOver {a b : EntityId} (ha : W a) (hb : W b)
    (helper : c.basis = none → P (.constraint c.constraint 0)) : All (Covered P) (c.residuals (.parallel a b)) := by
  refine allBind (lineDirectionOver h ha) fun da ha => allBind (lineDirectionOver h hb) fun db hb => allPure ?_
  cases found : c.basis with
  | some plane => exact coveredOne (Vec3.overPlanarCross ha hb)
  | none =>
    have own : c.helper.Over P := helper found
    exact Vec3.overToList (Vec3.overSub ha (Vec3.overScale hb own))

theorem arcLineTangentOver {arc line : EntityId} (ha : W arc) (hl : W line)
    (tip : ArcEnd) : All (Covered P) (c.residuals (.arcLineTangent arc line tip)) := by
  refine allNamed fun e found => ?_
  cases kind : e.kind with
  | arc center start finish normal =>
    have middle : center ∈ e.kind.parts := by simp [kind]
    refine allBind (partOver h ha found ?_) fun p hp => allBind (partOver h ha found middle) fun o ho => ?_
    · cases tip <;> simp [kind]
    · refine allBind (lineDirectionOver h hl) fun d hd => allPure (coveredOne ?_)
      exact Vec3.overDirectionCosine (projectOver h (Vec3.overSub hp ho)) hd
  | _ => exact allThrow _

theorem cubicLineTangentOver {cubic line : EntityId} (hc : W cubic) (hl : W line)
    (tip : ArcEnd) : All (Covered P) (c.residuals (.cubicLineTangent cubic line tip)) := by
  refine allNamed fun e found => ?_
  have rest : All (Covered P) (do
      let t := c.project (← c.endTangent cubic tip)
      return [t.planarCross (← c.lineDirection line)] : Except ConstraintError (List (Expr α))) :=
    allBind (endTangentOver h hc tip) fun t ht => allBind (lineDirectionOver h hl) fun d hd =>
      allPure (coveredOne (Vec3.overPlanarCross (projectOver h ht) hd))
  cases e.isA .cubic with
  | true => exact rest
  | false => exact allBind (P := fun _ => True) (allThrow _) fun _ _ => rest

end Residuals

theorem residualsOver {P : ParamId → Prop} {W : EntityId → Prop} {c : Setting α} (h : c.Sound P W) {k : ConstraintKind α}
    (named : ∀ id ∈ k.references, W id) {w : Option EntityId} (plane : c.basis = none → w = none)
    (helper : 0 < k.helperCount w → P (.constraint c.constraint 0)) : All (Covered P) (c.residuals k) := by
  have constant (x : α) : (Expr.const x).Over P := Expr.overConst x
  simp only [ConstraintKind.references] at named
  cases k with
  | pointsCoincident a b =>
    refine allBind (pointOver h (named a (by simp))) fun p hp => ?_
    exact allBind (pointOver h (named b (by simp))) fun q hq => allPure (vanishesOver h (Vec3.overSub hp hq))
  | pointPointDistance a b x =>
    refine allBind (pointOver h (named a (by simp))) fun p hp => ?_
    refine allBind (pointOver h (named b (by simp))) fun q hq => allPure (coveredOne ?_)
    exact Expr.overSub (Vec3.overMagnitude (projectOver h (Vec3.overSub hp hq))) (constant x)
  | projectedDistance a b along x =>
    refine allBind (lineOver h (named along (by simp))) fun ends both => ?_
    refine allBind (pointOver h (named b (by simp))) fun q hq => ?_
    refine allBind (pointOver h (named a (by simp))) fun p hp => allPure (coveredOne ?_)
    have unit := Vec3.overWithMagnitude (Vec3.overSub both.2 both.1) (constant 1.0)
    exact Expr.overSub (Vec3.overDot (Vec3.overSub hq hp) unit) (constant x)
  | pointPlaneDistance p plane x | pointFaceDistance p plane x =>
    exact allBind (planeHeightOver h (named p (by simp)) (named plane (by simp))) fun d covers =>
      allPure (coveredOne (Expr.overSub covers (constant x)))
  | pointInPlane p plane | pointOnFace p plane =>
    exact allBind (planeHeightOver h (named p (by simp)) (named plane (by simp))) fun d covers =>
      allPure (coveredOne covers)
  | pointLineDistance p line x =>
    exact allBind (pointLineDistanceOver h (named p (by simp)) (named line (by simp))) fun d covers =>
      allPure (coveredOne (Expr.overSub covers (constant x)))
  | pointOnLine p line =>
    refine pointOnLineOver h (named p (by simp)) (named line (by simp)) ?_
    intro free
    exact helper (by simp [ConstraintKind.helperCount, plane free])
  | pointOnCircle p circle =>
    exact pointOnCircleOver h (named p (by simp)) (named circle (by simp))
  | equalLengthLines a b =>
    refine allBind (lineLengthOver h (named a (by simp))) fun p hp => ?_
    exact allBind (lineLengthOver h (named b (by simp))) fun q hq => allPure (coveredOne (Expr.overSub hp hq))
  | lengthRatio a b x =>
    refine allBind (lineLengthOver h (named a (by simp))) fun p hp => ?_
    exact allBind (lineLengthOver h (named b (by simp))) fun q hq =>
      allPure (coveredOne (Expr.overSub (Expr.overDiv hp hq) (constant x)))
  | lengthDifference a b x =>
    refine allBind (lineLengthOver h (named a (by simp))) fun p hp => ?_
    exact allBind (lineLengthOver h (named b (by simp))) fun q hq =>
      allPure (coveredOne (Expr.overSub (Expr.overSub hp hq) (constant x)))
  | equalLengthPointLineDistance line p other =>
    refine allBind (pointLineDistanceOver h (named p (by simp)) (named other (by simp))) fun d covers => ?_
    exact allBind (lineLengthOver h (named line (by simp))) fun l hl =>
      allPure (coveredOne (Expr.overSub hl (positiveOver covers)))
  | equalPointLineDistances pa la pb lb =>
    refine allBind (pointLineDistanceOver h (named pa (by simp)) (named la (by simp))) fun a ha => ?_
    refine allBind (pointLineDistanceOver h (named pb (by simp)) (named lb (by simp))) fun b hb => ?_
    exact allPure (coveredOne (Expr.overSub (positiveOver ha) (positiveOver hb)))
  | equalLineArcLength line arc =>
    refine allBind (lineLengthOver h (named line (by simp))) fun l hl => ?_
    exact allBind (arcLengthOver h (named arc (by simp))) fun a ha => allPure (coveredOne (Expr.overSub hl ha))
  | arcArcLengthRatio a b x =>
    refine allBind (arcLengthOver h (named a (by simp))) fun p hp => ?_
    exact allBind (arcLengthOver h (named b (by simp))) fun q hq =>
      allPure (coveredOne (Expr.overSub (Expr.overDiv hp hq) (constant x)))
  | arcLineLengthRatio arc line x =>
    refine allBind (arcLengthOver h (named arc (by simp))) fun a ha => ?_
    exact allBind (lineLengthOver h (named line (by simp))) fun l hl =>
      allPure (coveredOne (Expr.overSub (Expr.overDiv ha hl) (constant x)))
  | arcArcDifference a b x =>
    refine allBind (arcLengthOver h (named a (by simp))) fun p hp => ?_
    exact allBind (arcLengthOver h (named b (by simp))) fun q hq =>
      allPure (coveredOne (Expr.overSub (Expr.overSub hp hq) (constant x)))
  | arcLineDifference arc line x =>
    refine allBind (arcLengthOver h (named arc (by simp))) fun a ha => ?_
    exact allBind (lineLengthOver h (named line (by simp))) fun l hl =>
      allPure (coveredOne (Expr.overSub (Expr.overSub ha hl) (constant x)))
  | equalRadius a b =>
    refine allBind (radiusOver h (named a (by simp))) fun p hp => ?_
    exact allBind (radiusOver h (named b (by simp))) fun q hq => allPure (coveredOne (Expr.overSub hp hq))
  | diameter circle x =>
    exact allBind (radiusOver h (named circle (by simp))) fun r hr =>
      allPure (coveredOne (Expr.overSub (Expr.overMul (constant 2.0) hr) (constant x)))
  | symmetric a b plane =>
    exact symmetricOver h (named a (by simp)) (named b (by simp)) (named plane (by simp))
  | symmetricHorizontal a b =>
    refine allBind (coordinatesOver h (named a (by simp))) fun p hp => ?_
    exact allBind (coordinatesOver h (named b (by simp))) fun q hq =>
      allPure (coveredTwo (Expr.overAdd hp.x hq.x) (Expr.overSub hp.y hq.y))
  | symmetricVertical a b =>
    refine allBind (coordinatesOver h (named a (by simp))) fun p hp => ?_
    exact allBind (coordinatesOver h (named b (by simp))) fun q hq =>
      allPure (coveredTwo (Expr.overAdd hp.y hq.y) (Expr.overSub hp.x hq.x))
  | symmetricLine a b line =>
    exact symmetricLineOver h (named a (by simp)) (named b (by simp)) (named line (by simp))
  | atMidpoint p line =>
    refine allBind (lineOver h (named line (by simp))) fun ends both => ?_
    refine allBind (pointOver h (named p (by simp))) fun v hv => allPure (vanishesOver h ?_)
    exact Vec3.overSub hv (Vec3.overScale (Vec3.overAdd both.1 both.2) (constant 0.5))
  | horizontal line =>
    exact allBind (lineDirectionOver h (named line (by simp))) fun d covers => allPure (coveredOne covers.y)
  | vertical line =>
    exact allBind (lineDirectionOver h (named line (by simp))) fun d covers => allPure (coveredOne covers.x)
  | sameOrientation a b =>
    exact sameOrientationOver h (named a (by simp)) (named b (by simp))
      (helper (by simp [ConstraintKind.helperCount]))
  | angle a b degrees supplementary =>
    exact angleOver h (named a (by simp)) (named b (by simp)) degrees
      supplementary
  | equalAngle a b d e supplementary =>
    exact equalAngleOver h (named a (by simp)) (named b (by simp)) (named d (by simp)) (named e (by simp)) supplementary
  | parallel a b =>
    refine parallelOver h (named a (by simp)) (named b (by simp)) ?_
    intro free
    exact helper (by simp [ConstraintKind.helperCount, plane free])
  | perpendicular a b =>
    refine allBind (lineDirectionOver h (named a (by simp))) fun p hp => ?_
    exact allBind (lineDirectionOver h (named b (by simp))) fun q hq =>
      allPure (coveredOne (Vec3.overDirectionCosine hp hq))
  | arcLineTangent arc line tip =>
    exact arcLineTangentOver h (named arc (by simp)) (named line (by simp)) tip
  | cubicLineTangent cubic line tip =>
    exact cubicLineTangentOver h (named cubic (by simp)) (named line (by simp)) tip
  | curveCurveTangent a b ends =>
    refine allBind (endTangentOver h (named a (by simp)) ends.first) fun p hp => ?_
    exact allBind (endTangentOver h (named b (by simp)) ends.second) fun q hq =>
      allPure (coveredOne (Vec3.overPlanarCross (projectOver h hp) (projectOver h hq)))
  | whereDragged p =>
    refine allNamed fun e found => allPure ?_
    intro r member
    obtain ⟨q, own, same⟩ := List.mem_map.mp member
    have held : (Expr.param q : Expr α).Over P :=
      h.placed.own p e (named p (by simp)) found q (.inl own)
    exact same ▸ Expr.overSub held (constant _)
  | comment text =>
    refine allPure ?_
    intro r member
    exact nomatch member

end Setting

namespace Sketch
variable [Scalar α] {s : Sketch α} {P : ParamId → Prop}

theorem measuredEquationsOver {W : EntityId → Prop} (placed : s.CoveredBy P W) {c : Constraint α}
    (named : ∀ id ∈ c.references, W id) (helpers : ∀ p ∈ c.helpers, P p) :
    All (fun qs => ∀ q ∈ qs, Expr.Over P q.expr) (s.measuredEquations c) := by
  have set : All (fun d : Setting α => d.sketch = s ∧ d.constraint = c.id ∧ (∀ b, d.basis = some b → b.Over P) ∧
      (d.basis = none → c.workplane = none)) (Setting.of s c) := by
    unfold Setting.of
    cases lies : c.workplane with
    | none =>
      refine allPure ⟨rfl, rfl, ?_, fun _ => rfl⟩
      intro b same
      cases same
    | some w =>
      have within : W w := named w (by simp [Constraint.references, lies])
      refine allBind (allRenamed (placed.plane w within)) fun plane covers => allPure ⟨rfl, rfl, ?_, ?_⟩
      · intro b same
        cases same
        exact ⟨covers.origin, Quat.overImageU covers.orientation, Quat.overImageV covers.orientation⟩
      · intro free
        cases free
  refine allBind set fun d ⟨sketch, constraint, basis, flat⟩ => ?_
  subst sketch
  have inside : ∀ id ∈ c.kind.references, W id := fun id member => named id (List.mem_append_left _ member)
  refine allBind (Setting.residualsOver ⟨placed, basis⟩ inside flat ?_) fun rs covered => allPure ?_
  · intro some
    refine helpers _ ?_
    rw [constraint]
    exact List.mem_map.mpr ⟨0, List.mem_range.mpr some, rfl⟩
  · intro q member
    obtain ⟨i, bound, same⟩ := List.mem_mapIdx.mp member
    rw [← same]
    exact covered _ (List.getElem_mem bound)

theorem constraintEquationsOver (h : s.Intact) {c : Constraint α} (named : ∀ id ∈ c.references, s.Within P id)
    (helpers : ∀ p ∈ c.helpers, P p) : All (fun qs => ∀ q ∈ qs, Expr.Over P q.expr) (s.constraintEquations c) := by
  unfold constraintEquations
  split
  · exact allPure fun q none => nomatch none
  · exact measuredEquationsOver (h.coveredBy P) named helpers

end Sketch
end Drafting
