import Drafting.Proofs.Expression
import Drafting.Proofs.Intact
import Drafting.Proofs.Order
/-! Which parameters the place of an entity depends on. In an intact sketch these belong to the group of
the entity or to the group of its workplane, and all parts of an entity share both. -/
namespace Drafting
open Result

namespace Sketch

/-- The group that a parameter belongs to: the one on its record, or the one in its name where there is no
record of it. -/
def ownerOf? (s : Sketch α) (p : ParamId) : Option GroupId :=
  match s.params.get? p with
  | some x => some x.group
  | none => match p.owner with
    | .group g => some g
    | _ => none

structure Holds (s : Sketch α) (g : GroupId) (p : ParamId) : Prop where
  owner : s.ownerOf? p = some g
  plain : ∀ c, p.owner ≠ .constraint c

/-- A parameter that the group of an entity holds, or the group of its workplane. -/
def Reads (s : Sketch α) (e : Entity α) (p : ParamId) : Prop :=
  ∃ k, s.Holds k p ∧
    (k = e.group ∨ ∃ w plane, e.workplane = some w ∧ s.entities.get? w = some plane ∧ k = plane.group)

def Within (s : Sketch α) (P : ParamId → Prop) (id : EntityId) : Prop :=
  ∀ e, s.entities.get? id = some e → ∀ p, s.Reads e p → P p

section Parts
variable {s : Sketch α} {id : EntityId} {e : Entity α}

theorem ownerOfName (h : s.Intact) {p : ParamId} {g : GroupId} (owned : s.OwnedBy p g)
    (there : ∃ x, s.params.get? p = some x) : s.ownerOf? p = some g := by
  obtain ⟨x, found⟩ := there
  rw [ownerOf?, found]
  exact congrArg some ((h.owned p x found).unique owned)

theorem ownerOfGroup (h : s.Intact) {p : ParamId} {g : GroupId} (owner : p.owner = .group g) :
    s.ownerOf? p = some g := by
  cases found : s.params.get? p with
  | none => simp only [ownerOf?, found, owner]
  | some x => exact ownerOfName h (by simp only [OwnedBy, owner]) ⟨x, found⟩

theorem Intact.origin (h : s.Intact) (found : s.entities.get? id = some e) :
    (∃ q, s.requests.get? q.id = some q ∧ e ∈ q.entities) ∨ ∃ g, id.Of g ∧ e.MadeBy g := by
  cases origin : id.origin with
  | request r =>
    obtain ⟨q, there, part⟩ := h.drawn id e r found origin
    have key : q.id = r := h.requests.keyOfGet there
    exact .inl ⟨q, key.symm ▸ there, part⟩
  | predefined g => exact .inr ⟨g, .inl origin, h.made id e g found (.inl origin)⟩
  | derived g => exact .inr ⟨g, .inr origin, h.made id e g found (.inr origin)⟩

theorem ownHeld (h : s.Intact) (found : s.entities.get? id = some e) {p : ParamId} (own : p ∈ e.kind.ownParams) :
    s.Holds e.group p := by
  rcases h.origin found with ⟨q, there, part⟩ | ⟨g, _, made⟩
  · have drawn := Request.drawn part
    rw [drawn.group]
    have owned : s.OwnedBy p q.group := by
      simp only [OwnedBy, drawn.own p own]
      exact ⟨q, there, rfl⟩
    exact ⟨ownerOfName h owned (h.expanded q.id q there e part p own), by simp [drawn.own p own]⟩
  · rw [made.own] at own
    cases own

theorem placingHeld (h : s.Intact) (found : s.entities.get? id = some e) {p : ParamId} (placing : p ∈ e.kind.placing) :
    s.Holds e.group p := by
  rcases h.origin found with ⟨q, there, part⟩ | ⟨g, _, made⟩
  · rw [(Request.drawn part).placing] at placing
    exact nomatch placing
  · rw [made.group]
    exact ⟨ownerOfGroup h (made.placing p placing), by simp [made.placing p placing]⟩

theorem partAlike (h : s.Intact) (found : s.entities.get? id = some e) {part : EntityId} (named : part ∈ e.kind.parts)
    {e' : Entity α} (found' : s.entities.get? part = some e') : e'.group = e.group ∧ e'.workplane = e.workplane := by
  rcases h.origin found with ⟨q, there, drawn⟩ | ⟨g, _, made⟩
  · have whole := Request.drawn drawn
    obtain ⟨q', there', drawn'⟩ := h.drawn part e' q.id found' (whole.parts part named)
    obtain rfl := Option.some.inj (there.symm.trans there')
    have piece := Request.drawn drawn'
    exact ⟨piece.group.trans whole.group.symm, piece.workplane.trans whole.workplane.symm⟩
  · have made' := h.made part e' g found' (made.parts part named)
    exact ⟨made'.group.trans made.group.symm, made'.workplane.trans made.workplane.symm⟩

theorem planeFlat (h : s.Intact) (found : s.entities.get? id = some e) (plane : e.isA .workplane = true) :
    e.workplane = none := by
  rcases h.origin found with ⟨q, there, drawn⟩ | ⟨g, _, made⟩
  · rw [(Request.drawn drawn).workplane]
    exact h.flat q.id q there (q.workplaneDrawn e drawn plane)
  · exact made.workplane

theorem ownReads (h : s.Intact) (found : s.entities.get? id = some e) {p : ParamId}
    (member : p ∈ e.kind.ownParams ∨ p ∈ e.kind.placing) : s.Reads e p := by
  rcases member with own | placing
  · exact ⟨e.group, ownHeld h found own, .inl rfl⟩
  · exact ⟨e.group, placingHeld h found placing, .inl rfl⟩

theorem partWithin (h : s.Intact) {P : ParamId → Prop} (within : s.Within P id) (found : s.entities.get? id = some e)
    {part : EntityId} (named : part ∈ e.kind.parts) : s.Within P part := by
  intro e' found' p reads
  obtain ⟨group, workplane⟩ := partAlike h found named found'
  unfold Reads at reads
  rw [group, workplane] at reads
  exact within e found p reads

end Parts
end Sketch

structure PlaneExpr.Over (P : ParamId → Prop) (plane : PlaneExpr α) : Prop where
  origin : plane.origin.Over P
  orientation : plane.orientation.Over P

namespace CopyTransform
variable [Scalar α] {P : ParamId → Prop} {t : CopyTransform α}

theorem overRotation (placed : ∀ p ∈ t.params, P p) : (t.rotation?.getD Quat.identity.toExpr).Over P := by
  cases t with
  | identity | translate => exact Quat.overToExpr _
  | rotate center axis angle times =>
    have turn : (Expr.param angle * .const times : Expr α).Over P :=
      Expr.overMul (placed angle (by simp [params])) (Expr.overConst _)
    have along : (Vec3.ofParams axis : Vec3 (Expr α)).Over P := Vec3.overOfParams fun p member =>
      placed p (by simp only [params, List.mem_append]; exact .inl (.inr member))
    exact Quat.overAboutAxis (Vec3.overWithMagnitude along (Expr.overConst _)) turn
  | revolve origin axis angle =>
    exact Quat.overAboutAxis (Vec3.overToExpr _) (placed angle (by simp [params]))
  | linked offset rotation =>
    exact Quat.overOfParams fun p member => placed p (by simp only [params, List.mem_append]; exact .inr member)

theorem overPoint (base : Vec3 α) (placed : ∀ p ∈ t.params, P p) : (t.point base).Over P := by
  have turned := overRotation placed
  cases t with
  | identity => exact Vec3.overToExpr _
  | translate delta times =>
    exact Vec3.overAdd (Vec3.overToExpr _) (Vec3.overScale (Vec3.overOfParams placed) (Expr.overConst _))
  | rotate center axis angle times =>
    have about : (Vec3.ofParams center : Vec3 (Expr α)).Over P := Vec3.overOfParams fun p member =>
      placed p (by simp only [params, List.mem_append]; exact .inl (.inl member))
    exact Vec3.overAdd about (Quat.overApply turned (Vec3.overSub (Vec3.overToExpr _) about))
  | revolve origin axis angle =>
    exact Vec3.overAdd (Vec3.overToExpr _) (Quat.overApply turned (Vec3.overSub (Vec3.overToExpr _) (Vec3.overToExpr _)))
  | linked offset rotation =>
    have moved : (Vec3.ofParams offset : Vec3 (Expr α)).Over P := Vec3.overOfParams fun p member =>
      placed p (by simp only [params, List.mem_append]; exact .inl member)
    exact Vec3.overAdd (Quat.overApply turned (Vec3.overToExpr _)) moved

theorem overNormal (base : Quat α) (placed : ∀ p ∈ t.params, P p) : (t.normal base).Over P := by
  have turned := overRotation placed
  unfold normal
  cases spin : t.rotation? with
  | none => exact Quat.overToExpr _
  | some q =>
    rw [spin] at turned
    exact Quat.overTimes turned (Quat.overToExpr _)

end CopyTransform

namespace Sketch
variable [Scalar α] {s : Sketch α} {P : ParamId → Prop} {id : EntityId} {e : Entity α}

omit [Scalar α] in
theorem allEntity {Q : τ → Prop} {f : Entity α → Except SketchError τ}
    (each : ∀ e, s.entities.get? id = some e → All Q (f e)) : All Q (s.entity id >>= f) := by
  refine allBind (P := fun e => s.entities.get? id = some e) ?_ each
  intro e found
  exact entityFound.mp found

theorem allFound {Q : σ → Prop} {R : τ → Prop} {o : Option σ} {cause : SketchError} {f : σ → Except SketchError τ}
    (has : ∀ x, o = some x → Q x) (each : ∀ x, Q x → All R (f x)) : All R (found cause o >>= f) :=
  allBind (fun x same => has x (Result.foundOk.mp same)) each

theorem pointFromAll {plane : EntityId → Except SketchError (PlaneExpr α)} (found : s.entities.get? id = some e)
    (own : ∀ p, p ∈ e.kind.ownParams ∨ p ∈ e.kind.placing → P p)
    (placed : ∀ w, e.workplane = some w → All (PlaneExpr.Over P) (plane w)) :
    All (Vec3.Over P) (s.pointFrom plane id) := by
  refine allEntity fun e' found' => ?_
  obtain rfl := Option.some.inj (found.symm.trans found')
  cases kind : e.kind with
  | pointIn3d p =>
    refine allPure (Vec3.overOfParams fun q member => own q (.inl ?_))
    rw [kind]
    exact member
  | pointIn2d p =>
    refine allFound (fun _ same => same) fun w lies => allBind (placed w lies) fun plane covers => ?_
    have x : (Expr.param p.x : Expr α).Over P := own p.x (.inl (by simp [kind, EntityKind.ownParams]))
    have y : (Expr.param p.y : Expr α).Over P := own p.y (.inl (by simp [kind, EntityKind.ownParams]))
    exact allPure (Vec3.overAdd (Vec3.overAdd covers.origin (Vec3.overScale (Quat.overImageU covers.orientation) x))
      (Vec3.overScale (Quat.overImageV covers.orientation) y))
  | pointCopy base transform =>
    refine allPure (CopyTransform.overPoint base fun q member => own q (.inr ?_))
    rw [kind]
    exact member
  | _ => exact allThrow _

theorem normalFromAll {plane : EntityId → Except SketchError (PlaneExpr α)} (found : s.entities.get? id = some e)
    (own : ∀ p, p ∈ e.kind.ownParams ∨ p ∈ e.kind.placing → P p)
    (placed : ∀ w, e.workplane = some w → All (PlaneExpr.Over P) (plane w)) :
    All (Quat.Over P) (s.normalFrom plane id) := by
  refine allEntity fun e' found' => ?_
  obtain rfl := Option.some.inj (found.symm.trans found')
  cases kind : e.kind with
  | normalIn3d q =>
    refine allPure (Quat.overOfParams fun p member => own p (.inl ?_))
    rw [kind]
    exact member
  | normalIn2d =>
    exact allFound (fun _ same => same) fun w lies => allBind (placed w lies) fun plane covers => allPure covers.orientation
  | normalCopy base transform =>
    refine allPure (CopyTransform.overNormal base fun q member => own q (.inr ?_))
    rw [kind]
    exact member
  | _ => exact allThrow _

theorem pointFromThere {f : EntityId → Except SketchError (PlaneExpr α)} {v : Vec3 (Expr α)}
    (ok : s.pointFrom f id = .ok v) : ∃ e, s.entities.get? id = some e := by
  obtain ⟨e, read, _⟩ := bindOk.mp ok
  exact ⟨e, entityFound.mp read⟩

theorem normalFromThere {f : EntityId → Except SketchError (PlaneExpr α)} {q : Quat (Expr α)}
    (ok : s.normalFrom f id = .ok q) : ∃ e, s.entities.get? id = some e := by
  obtain ⟨e, read, _⟩ := bindOk.mp ok
  exact ⟨e, entityFound.mp read⟩

theorem planeWithinOk {n : Nat} {x : PlaneExpr α} : s.planeWithin (n + 1) id = .ok x ↔
    ∃ e origin normal, s.entities.get? id = some e ∧ e.kind = .workplane origin normal ∧
      s.pointFrom (s.planeWithin n) origin = .ok x.origin ∧ s.normalFrom (s.planeWithin n) normal = .ok x.orientation := by
  constructor
  · intro ok
    obtain ⟨e, found, rest⟩ := bindOk.mp ok
    refine ⟨e, ?_⟩
    cases kind : e.kind with
    | workplane origin normal =>
      rw [kind] at rest
      obtain ⟨p, first, rest⟩ := bindOk.mp rest
      obtain ⟨q, second, last⟩ := bindOk.mp rest
      cases last
      exact ⟨origin, normal, entityFound.mp found, rfl, first, second⟩
    | _ =>
      rw [kind] at rest
      cases rest
  · rintro ⟨e, origin, normal, found, kind, first, second⟩
    refine bindOk.mpr ⟨e, entityFound.mpr found, ?_⟩
    rw [kind]
    exact bindOk.mpr ⟨_, first, bindOk.mpr ⟨_, second, rfl⟩⟩

theorem planeWithinBy (h : s.Intact) (found : s.entities.get? id = some e)
    (own : ∀ part ∈ e.kind.parts, ∀ e', s.entities.get? part = some e' →
      ∀ p, p ∈ e'.kind.ownParams ∨ p ∈ e'.kind.placing → P p) (depth : Nat) :
    All (PlaneExpr.Over P) (s.planeWithin depth id) := by
  intro x ok
  cases depth with
  | zero => cases ok
  | succ depth =>
    obtain ⟨e', origin, normal, found', kind, first, second⟩ := planeWithinOk.mp ok
    obtain rfl := Option.some.inj (found.symm.trans found')
    have flat := planeFlat h found (by simp [Entity.isA, kind, EntityKind.isA, EntityKind.classes])
    have level {id' : EntityId} (named : id' ∈ e.kind.parts) (part : Entity α) (there : s.entities.get? id' = some part)
        (w : EntityId) (lies : part.workplane = some w) : All (PlaneExpr.Over P) (s.planeWithin depth w) := by
      rw [(partAlike h found named there).2, flat] at lies
      cases lies
    have named : origin ∈ e.kind.parts := by simp [kind]
    have named' : normal ∈ e.kind.parts := by simp [kind]
    obtain ⟨oe, there⟩ := pointFromThere first
    obtain ⟨qe, there'⟩ := normalFromThere second
    exact ⟨pointFromAll there (own origin named oe there) (level named oe there) _ first,
      normalFromAll there' (own normal named' qe there') (level named' qe there') _ second⟩

theorem planeWithinAll (h : s.Intact) (found : s.entities.get? id = some e) (depth : Nat) :
    All (PlaneExpr.Over (s.Holds e.group)) (s.planeWithin depth id) := by
  refine planeWithinBy h found (fun part named e' there p member => ?_) depth
  rw [← (partAlike h found named there).1]
  rcases member with own | placing
  · exact ownHeld h there own
  · exact placingHeld h there placing

theorem planeReads (h : s.Intact) (e : Entity α) (w : EntityId) (lies : e.workplane = some w) :
    All (PlaneExpr.Over (s.Reads e)) (s.planeExpr w) := by
  intro plane ok
  obtain ⟨we, there, _⟩ := Result.bindOk.mp ok
  have placed := entityFound.mp there
  have covers := planeWithinAll h placed _ plane ok
  have reads (p : ParamId) (held : s.Holds we.group p) : s.Reads e p :=
    ⟨we.group, held, .inr ⟨w, we, lies, placed, rfl⟩⟩
  exact ⟨covers.origin.mono reads, covers.orientation.mono reads⟩

theorem pointReads (h : s.Intact) (found : s.entities.get? id = some e) : All (Vec3.Over (s.Reads e)) (s.pointExpr id) :=
  pointFromAll found (fun _ member => ownReads h found member) (planeReads h e)

theorem normalReads (h : s.Intact) (found : s.entities.get? id = some e) :
    All (Quat.Over (s.Reads e)) (s.normalExpr id) :=
  normalFromAll found (fun _ member => ownReads h found member) (planeReads h e)

structure CoveredBy (s : Sketch α) (P : ParamId → Prop) (W : EntityId → Prop) : Prop where
  own : ∀ id e, W id → s.entities.get? id = some e → ∀ p, p ∈ e.kind.ownParams ∨ p ∈ e.kind.placing → P p
  part : ∀ id e, W id → s.entities.get? id = some e → ∀ part ∈ e.kind.parts, W part
  lies : ∀ id e w, W id → s.entities.get? id = some e → e.workplane = some w →
    All (PlaneExpr.Over P) (s.planeExpr w)
  plane : ∀ id, W id → All (PlaneExpr.Over P) (s.planeExpr id)

theorem Intact.coveredBy (h : s.Intact) (P : ParamId → Prop) : s.CoveredBy P (s.Within P) where
  own _ e within found p member := within e found p (ownReads h found member)
  part _ _ within found _ named := partWithin h within found named
  lies _ e w within found lies plane ok := by
    have covers := planeReads h e w lies plane ok
    exact ⟨covers.origin.mono (within e found), covers.orientation.mono (within e found)⟩
  plane id within plane ok := by
    obtain ⟨e, there, _⟩ := Result.bindOk.mp ok
    have found := entityFound.mp there
    have covers := planeWithinAll h found _ plane ok
    have reads (p : ParamId) (held : s.Holds e.group p) : P p := within e found p ⟨e.group, held, .inl rfl⟩
    exact ⟨covers.origin.mono reads, covers.orientation.mono reads⟩

def Held (s : Sketch α) (p : ParamId) : Prop :=
  ∃ id e, s.entities.get? id = some e ∧ (p ∈ e.kind.ownParams ∨ p ∈ e.kind.placing)

theorem planeWithinHeld (held : ∀ p, s.Held p → P p) (depth : Nat) (id : EntityId) :
    All (PlaneExpr.Over P) (s.planeWithin depth id) := by
  have own {part : EntityId} {e : Entity α} (found : s.entities.get? part = some e) (p : ParamId)
      (member : p ∈ e.kind.ownParams ∨ p ∈ e.kind.placing) : P p := held p ⟨part, e, found, member⟩
  induction depth generalizing id with
  | zero => exact allThrow _
  | succ depth ih =>
    intro x ok
    obtain ⟨_, origin, normal, _, _, first, second⟩ := planeWithinOk.mp ok
    obtain ⟨oe, there⟩ := pointFromThere first
    obtain ⟨qe, there'⟩ := normalFromThere second
    exact ⟨pointFromAll there (own there) (fun w _ => ih w) _ first,
      normalFromAll there' (own there') (fun w _ => ih w) _ second⟩

theorem heldCoveredBy (held : ∀ p, s.Held p → P p) : s.CoveredBy P fun _ => True where
  own id e _ found p member := held p ⟨id, e, found, member⟩
  part _ _ _ _ _ _ := trivial
  lies _ _ w _ _ _ := planeWithinHeld held _ w
  plane id _ := planeWithinHeld held _ id

section Places
variable {W : EntityId → Prop} (h : s.CoveredBy P W)
include h

theorem pointAll (within : W id) : All (Vec3.Over P) (s.pointExpr id) := by
  intro v ok
  obtain ⟨e, there, _⟩ := Result.bindOk.mp ok
  have found := entityFound.mp there
  exact pointFromAll found (h.own id e within found) (fun w => h.lies id e w within found) v ok

theorem normalAll (within : W id) : All (Quat.Over P) (s.normalExpr id) := by
  intro q ok
  obtain ⟨e, there, _⟩ := Result.bindOk.mp ok
  have found := entityFound.mp there
  exact normalFromAll found (h.own id e within found) (fun w => h.lies id e w within found) q ok

theorem distanceAll (within : W id) : All (Expr.Over P) (s.distanceExpr id) := by
  refine allEntity fun e found => ?_
  cases kind : e.kind with
  | distance p =>
    exact allPure (h.own id e within found p (.inl (by simp [kind, EntityKind.ownParams])))
  | distanceCopy x => exact allPure (Expr.overConst x)
  | _ => exact allThrow _

section Composite
variable (within : W id) (found : s.entities.get? id = some e)
include h within found

theorem partPoint {part : EntityId} (named : part ∈ e.kind.parts) : All (Vec3.Over P) (s.pointExpr part) :=
  pointAll h (h.part id e within found _ named)

theorem partNormal {part : EntityId} (named : part ∈ e.kind.parts) : All (Quat.Over P) (s.normalExpr part) :=
  normalAll h (h.part id e within found _ named)

theorem overDirection {p : Vec3 ParamId} (placing : e.kind.placing = p.toList) : (Vec3.ofParams p : Vec3 (Expr α)).Over P :=
  Vec3.overOfParams fun q member => h.own id e within found q (.inr (placing ▸ member))

end Composite

theorem planeNormalAll (within : W id) : All (Vec3.Over P) (s.planeNormalExpr id) := by
  refine allEntity fun e found => ?_
  have part {n : EntityId} (named : n ∈ e.kind.parts) := partNormal h within found named
  cases kind : e.kind with
  | workplane origin normal =>
    have named : normal ∈ e.kind.parts := by simp [kind]
    exact allBind (part named) fun q covers => allPure (Quat.overImageN covers)
  | face point direction =>
    cases direction with
    | normal n =>
      have named : n ∈ e.kind.parts := by simp [kind]
      exact allBind (part named) fun q covers => allPure (Quat.overImageN covers)
    | sweep source target along =>
      have first : source ∈ e.kind.parts := by simp [kind]
      have second : target ∈ e.kind.parts := by simp [kind]
      have swept : (Vec3.ofParams along : Vec3 (Expr α)).Over P :=
        overDirection h within found (by simp [kind, EntityKind.placing])
      refine allBind (partPoint h within found second) fun b hb => allBind (partPoint h within found first) fun a ha => ?_
      exact allPure (Vec3.overWithMagnitude (Vec3.overCross (Vec3.overSub hb ha) swept) (Expr.overConst _))
  | _ => exact allThrow _

theorem planePointAll (within : W id) : All (Vec3.Over P) (s.planePointExpr id) := by
  refine allEntity fun e found => ?_
  cases kind : e.kind with
  | workplane origin normal => exact partPoint h within found (by simp [kind])
  | face point direction => exact partPoint h within found (by simp [kind])
  | _ => exact allThrow _

theorem radiusAll (within : W id) : All (Expr.Over P) (s.radiusExpr id) := by
  refine allEntity fun e found => ?_
  cases kind : e.kind with
  | circle center normal radius =>
    have named : radius ∈ e.kind.parts := by simp [kind]
    exact distanceAll h (h.part id e within found _ named)
  | arc center start finish normal =>
    have middle : center ∈ e.kind.parts := by simp [kind]
    have tip : start ∈ e.kind.parts := by simp [kind]
    refine allBind (partPoint h within found tip) fun a ha => allBind (partPoint h within found middle) fun c hc => ?_
    exact allPure (Vec3.overMagnitude (Vec3.overSub ha hc))
  | _ => exact allThrow _

theorem centerAll (within : W id) : All W (s.centerOf id) := by
  refine allEntity fun e found => ?_
  cases kind : e.kind with
  | circle center normal radius =>
    exact allPure (h.part id e within found _ (by simp [kind]))
  | arc center start finish normal =>
    exact allPure (h.part id e within found _ (by simp [kind]))
  | _ => exact allThrow _

theorem roundNormalAll (within : W id) : All W (s.normalOf id) := by
  refine allEntity fun e found => ?_
  cases kind : e.kind with
  | circle center normal radius =>
    exact allPure (h.part id e within found _ (by simp [kind]))
  | arc center start finish normal =>
    exact allPure (h.part id e within found _ (by simp [kind]))
  | _ => exact allThrow _

theorem entityResidualAll (found : s.entities.get? id = some e) (within : W id) :
    All (fun r => ∀ q ∈ r, Expr.Over P q) (s.entityResidual? e) := by
  unfold entityResidual?
  cases kind : e.kind with
  | normalIn3d q =>
    have own : (Quat.ofParams q : Quat (Expr α)).Over P := Quat.overOfParams fun p member =>
      h.own id e within found p (.inl (by rw [kind]; exact member))
    have unit := Expr.overSub (Quat.overMagnitudeSquared own) (Expr.overConst (P := P) (1.0 : α))
    exact allPure fun r same => Option.mem_some.mp same ▸ unit
  | arc center start finish normal =>
    have named (n : EntityId) (one : n = center ∨ n = start ∨ n = finish) : n ∈ e.kind.parts := by
      rcases one with same | same | same <;> simp [kind, same]
    refine allBind (partPoint h within found (named center (.inl rfl))) fun c hc => ?_
    refine allBind (partPoint h within found (named start (.inr (.inl rfl)))) fun a ha => ?_
    refine allBind (partPoint h within found (named finish (.inr (.inr rfl)))) fun b hb => ?_
    have even := Expr.overSub (Vec3.overMagnitude (Vec3.overSub ha hc)) (Vec3.overMagnitude (Vec3.overSub hb hc))
    exact allPure fun r same => Option.mem_some.mp same ▸ even
  | _ =>
    refine allPure fun r none => ?_
    cases none

end Places

theorem planeOfRequest (h : s.Intact) {q : Request} (found : s.requests.get? q.id = some q) (kind : q.kind = .workplane) :
    s.planeExpr q.entity = .ok ⟨.ofParams ⟨q.param 0, q.param 1, q.param 2⟩,
      .ofParams { w := q.param 3, x := q.param 4, y := q.param 5, z := q.param 6 }⟩ := by
  let place : Entity α := q.part (q.point 0) (.pointIn3d ⟨q.param 0, q.param 1, q.param 2⟩)
  let turn : Entity α :=
    q.part q.normal (.normalIn3d { w := q.param 3, x := q.param 4, y := q.param 5, z := q.param 6 })
  let main : Entity α := q.part q.entity (.workplane (q.point 0) q.normal)
  have flat : q.workplane = none := h.flat q.id q found kind
  have parts : q.entities = [place, turn, main] := by
    simp [Request.entities, kind, Request.pointParts, Request.normalPart, Request.coordinates, flat, place, turn, main]
  have present (e : Entity α) (part : e ∈ [place, turn, main]) : s.entity e.id = .ok e :=
    entityFound.mpr (h.present q.id q found e (parts ▸ part))
  have origin : s.entity (q.point 0) = .ok place := present place (by simp)
  have normal : s.entity q.normal = .ok turn := present turn (by simp)
  have plane : s.entity q.entity = .ok main := present main (by simp)
  rw [planeExpr, planeWithin, plane]
  change ((do
    let origin ← s.pointFrom (s.planeWithin s.entities.size) (q.point 0)
    let normal ← s.normalFrom (s.planeWithin s.entities.size) q.normal
    return ⟨origin, normal⟩) : Except SketchError (PlaneExpr α)) = _
  rw [pointFrom, normalFrom, origin, normal]
  rfl

end Sketch
end Drafting
