import Drafting.Proofs.Rotation
import Drafting.Proofs.Splitting
/-! Splitting at a point. A constraint that keeps the point on the curve is looked up, by the requests of both, and goes;
the curve is cut where the point of that constraint is. So of several points of one request another than the selected
one may be taken, and a place off the workplane of the curve is brought into it. -/
namespace Drafting
open Attempt Edit

theorem Edit.orUndoOk {e : Edit α ε τ} {s t : Sketch α} {x : τ} : e.orUndo s = (.ok x, t) ↔ e s = (.ok x, t) := by
  rw [orUndo]
  rcases e s with ⟨cause | y, u⟩
  · constructor <;> intro failed <;> cases failed
  · exact Iff.rfl

namespace Request

theorem curveAlone (q : Request) : ∀ e ∈ q.entities (α := α), e.kind.cutInto.isSome = true →
    ∀ e' ∈ q.entities (α := α), e'.kind.cutInto.isSome = true → e' = e := by
  rcases q with ⟨id, group, workplane, kind, construction⟩
  cases workplane <;> cases kind <;> simp [entities, pointParts, part, normalPart, EntityKind.cutInto, List.range_succ]

theorem datumAlone (q : Request) (datum : q.kind = .datumPoint) : ∀ e ∈ q.entities (α := α), e.id = q.point 0 := by
  rcases q with ⟨id, group, workplane, kind, construction⟩
  cases datum
  cases workplane <;> simp [entities, pointParts, part, List.range_succ]

end Request

theorem EntityKind.straightOrRound {k : EntityKind α} (is : k.isA .line = true ∨ k.isA .round = true) :
    k.cutInto.isSome = true ∧ k.cutInto ≠ some .cubic := by
  cases k <;> simp [isA, classes, cutInto] at is ⊢

namespace Sketch
variable [Scalar α] {s t : Sketch α} {entity point : EntityId} {place : Vec3 α}

def Spent (i : ConstraintId) (s : Sketch α) : Prop := s.constraints.get? i = none ∧ i.number < s.nextConstraint

theorem Adjustment.spent (step : Adjustment s t) (h : s.Consistent) {i : ConstraintId} (spent : Spent i s) : Spent i t := by
  obtain ⟨none, old⟩ := spent
  cases step with
  | dirty | value => exact ⟨none, old⟩
  | @constrained c _ fresh =>
    refine ⟨(h.constraints.getAdd c i).trans ((if_neg ?_).trans none), Nat.lt_succ_of_lt old⟩
    rintro rfl
    rw [show Keyed.key c = c.id from rfl, fresh] at old
    exact Nat.lt_irrefl _ old
  | @restated id c _ kind =>
    refine ⟨(h.constraints.getModify id (f := ({ · with kind })) (fun _ same => same) i).trans ?_, old⟩
    split
    · rename_i same
      rw [← same, none]
      rfl
    · exact none
  | redirected old' new =>
    refine ⟨(h.constraints.getMap (f := fun k => { k with kind := k.kind.mapPoints fun p => if p = old' then new else p })
      (fun _ => rfl) i).trans ?_, old⟩
    rw [none]
    rfl
  | @released id c =>
    refine ⟨(h.constraints.getRemove id i).trans ?_, old⟩
    split
    · rfl
    · exact none

theorem Changes.spent (steps : Changes s t) (h : s.Intact) {i : ConstraintId} (spent : Spent i s) : Spent i t := by
  induction steps with
  | refl => exact spent
  | tail before step ih =>
    cases step with
    | adjusted step => exact step.spent (Changes.intact before h).toConsistent ih
    | drawn fresh allowed =>
      unfold Spent
      dsimp only
      rw [enterRequestRecords]
      exact ih
    | construction | erased => exact ih

theorem deletedSpent {c : Constraint α} (h : s.Intact) (found : s.constraints.get? c.id = some c) :
    Spent c.id ((deleteConstraint c.id).attempt s) := by
  refine ⟨(deletedGet h.toConsistent [c.id] c.id).trans (if_pos (List.mem_singleton_self _)), ?_⟩
  rw [deleteConstraintAttempt, found]
  exact h.constraintNumbers c.id c found

theorem deletedKeeps (h : s.Firm) {i : ConstraintId} (ok : deleteConstraint i s = (.ok (), t)) :
    Adjustments s t ∧ t.Firm ∧ ∀ touched, Aside touched s t := by
  have run : (deleteConstraint i).attempt s = t := congrArg Prod.snd ok
  have steps : Adjustments s ((deleteConstraint i).attempt s) := deleteConstraintGradual i s
  rw [run] at steps
  exact ⟨steps, run ▸ deleteConstraintFirm i s h, run ▸ deleteConstraintAside h.toConsistent i⟩

structure Keeps (s : Sketch α) (entity point : EntityId) (c : Constraint α) (p curve : EntityId) (place : Vec3 α) :
    Prop where
  kind : onCurve? c = some (p, curve)
  pointOf : p.request? = point.request?
  curveOf : curve.request? = entity.request?
  placed : s.position p = .ok place
  within : ∀ e a b p0 p1, s.entities.get? entity = some e → e.kind = .line a b → s.position a = .ok p0 →
    s.position b = .ok p1 → place.isOnSegment p0 p1 = true

structure KeepsFirst (s : Sketch α) (entity point : EntityId) (cs : List (Constraint α)) (c : Constraint α)
    (p curve : EntityId) (place : Vec3 α) : Prop extends s.Keeps entity point c p curve place where
  first : ∃ before after, cs = before ++ c :: after ∧
    ∀ k ∈ before, ∀ p curve place, ¬ s.Keeps entity point k p curve place

theorem KeepsFirst.member {cs : List (Constraint α)} {c : Constraint α} {p curve : EntityId}
    (h : s.KeepsFirst entity point cs c p curve place) : c ∈ cs := by
  obtain ⟨before, after, split, _⟩ := h.first
  rw [split]
  exact List.mem_append_right _ List.mem_cons_self

theorem holdOnFirst {segment : Option (Vec3 α × Vec3 α)} {cs : List (Constraint α)} {i : ConstraintId}
    (ends : ∀ place : Vec3 α, (segment.all fun (p0, p1) => place.isOnSegment p0 p1) = true ↔
      ∀ e a b p0 p1, s.entities.get? entity = some e → e.kind = .line a b → s.position a = .ok p0 →
        s.position b = .ok p1 → place.isOnSegment p0 p1 = true)
    (ok : s.holdOn entity point segment cs = .ok (place, i)) :
    ∃ c p curve, c.id = i ∧ s.KeepsFirst entity point cs c p curve place := by
  induction cs with
  | nil => cases ok
  | cons c rest ih =>
    have later (taken : ∀ p curve place, ¬ s.Keeps entity point c p curve place)
        (ok : s.holdOn entity point segment rest = .ok (place, i)) :
        ∃ c' p curve, c'.id = i ∧ s.KeepsFirst entity point (c :: rest) c' p curve place := by
      obtain ⟨c', p, curve, named, holds, before, after, split, passed⟩ := ih ok
      refine ⟨c', p, curve, named, holds, c :: before, after, congrArg (c :: ·) split, fun k member => ?_⟩
      rcases List.mem_cons.mp member with rfl | inside
      · exact taken
      · exact passed k inside
    rw [holdOn] at ok
    cases kind : onCurve? c with
    | none =>
      rw [kind] at ok
      refine later (fun p curve place holds => ?_) ok
      cases kind.symm.trans holds.kind
    | some pair =>
      obtain ⟨p, curve⟩ := pair
      rw [kind] at ok
      dsimp only at ok
      split at ok
      · rename_i other
        refine later (fun p' curve' place holds => ?_) ok
        cases kind.symm.trans holds.kind
        simp [holds.pointOf, holds.curveOf] at other
      · rename_i same
        have alike : p.request? = point.request? ∧ curve.request? = entity.request? := by simpa using same
        cases placed : s.position p with
        | error cause =>
          rw [placed] at ok
          cases ok
        | ok at' =>
          rw [placed] at ok
          dsimp only at ok
          split at ok
          · rename_i within
            cases ok
            exact ⟨c, p, curve, rfl, ⟨kind, alike.1, alike.2, placed, (ends _).mp within⟩, [], rest, rfl,
              fun k none => (List.not_mem_nil none).elim⟩
          · rename_i outside
            refine later (fun p' curve' place holds => ?_) ok
            cases kind.symm.trans holds.kind
            cases placed.symm.trans holds.placed
            exact outside ((ends _).mpr holds.within)

theorem placeOnFirst {i : ConstraintId} (ok : placeOn entity point s = (.ok (place, i), t)) :
    t = s ∧ ∃ c p curve, c.id = i ∧ s.KeepsFirst entity point s.constraints.toList c p curve place := by
  obtain ⟨e, read, ok⟩ := readThen ok
  have found := entityFound.mp read
  -- Without a line there are no ends.
  have free (other : ∀ a b, e.kind ≠ .line a b) (ok : Edit.read (fun s => s.holdOn entity point none s.constraints.toList) s =
      ((.ok (place, i) : Except CurveError _), t)) :
      t = s ∧ ∃ c p curve, c.id = i ∧ s.KeepsFirst entity point s.constraints.toList c p curve place := by
    obtain ⟨held, rfl⟩ := readOk.mp ok
    refine ⟨rfl, holdOnFirst (fun place => iff_of_true rfl fun e' a b p0 p1 found' kind => ?_) held⟩
    obtain rfl := Option.some.inj (found.symm.trans found')
    exact absurd kind (other a b)
  cases kind : e.kind with
  | line a b =>
    rw [kind] at ok
    obtain ⟨p0, start, ok⟩ := readThen ok
    obtain ⟨p1, finish, ok⟩ := readThen ok
    obtain ⟨held, rfl⟩ := readOk.mp ok
    refine ⟨rfl, holdOnFirst (fun place => ?_) held⟩
    constructor
    · intro within e' a' b' p0' p1' found' kind' start' finish'
      obtain rfl := Option.some.inj (found.symm.trans found')
      cases kind.symm.trans kind'
      cases start.symm.trans start'
      cases finish.symm.trans finish'
      exact within
    · intro within
      exact within e a b p0 p1 found kind start finish
  | _ =>
    rw [kind] at ok
    exact free (fun a b same => nomatch kind.symm.trans same) ok

omit [Scalar α] in
theorem onCurveFixed {c : Constraint α} {p curve : EntityId} (kind : onCurve? c = some (p, curve)) :
    ∃ is, (is = .line ∨ is = .round) ∧ (is, curve) ∈ c.fixedNames := by
  unfold onCurve? at kind
  split at kind
  · rename_i straight
    cases kind
    exact ⟨.line, .inl rfl, by simp [Constraint.fixedNames, straight, ConstraintKind.slots]⟩
  · rename_i round
    cases kind
    exact ⟨.round, .inr rfl, by simp [Constraint.fixedNames, round, ConstraintKind.slots]⟩
  · cases kind

omit [Scalar α] in
theorem Firm.curveNamed (h : s.Firm) {c : Constraint α} {e : Entity α} {p curve : EntityId} {i : ConstraintId}
    (there : s.constraints.get? i = some c) (kind : onCurve? c = some (p, curve)) (found : s.entities.get? entity = some e)
    (into : e.kind.cutInto.isSome = true) {r : RequestId} (named : entity.request? = some r) (mine : curve.request? = some r) :
    curve = entity ∧ e.kind.cutInto ≠ some .cubic := by
  obtain ⟨q, registered, part⟩ := h.drawn entity e r found (EntityId.ofRequest.mp named)
  obtain ⟨is, way, member⟩ := onCurveFixed kind
  obtain ⟨e', part', same, isA⟩ := (h.fixed i c there _ member r (EntityId.ofRequest.mp mine)).2 q registered
  have curved := EntityKind.straightOrRound (k := e'.kind) (by rcases way with rfl | rfl <;> simp_all [Entity.isA])
  obtain rfl := q.curveAlone e part into e' part' curved.1
  exact ⟨same.symm.trans (h.entities.keyOfGet found), curved.2⟩

omit [Scalar α] in
theorem Intact.datumOnly (h : s.Intact) {r : RequestId} {q : Request} (registered : s.requests.get? r = some q)
    (datum : q.kind = .datumPoint) {e : Entity α} {id : EntityId} (found : s.entities.get? id = some e)
    (mine : id.request? = some r) : id = q.point 0 := by
  obtain ⟨q', there, part⟩ := h.drawn id e r found (EntityId.ofRequest.mp mine)
  obtain rfl := Option.some.inj (registered.symm.trans there)
  have named : e.id = id := h.entities.keyOfGet found
  exact named ▸ q.datumAlone datum e part

omit [Scalar α] in
theorem requireWorkplaneOk {id : EntityId} : requireWorkplane id s = (.ok (), t) ↔
    t = s ∧ ∃ e w, s.entities.get? id = some e ∧ e.workplane = some w := by
  constructor
  · intro ok
    obtain ⟨e, read, ok⟩ := readThen ok
    cases lies : e.workplane with
    | none =>
      rw [lies] at ok
      exact absurd ok throwOk
    | some w =>
      rw [lies] at ok
      obtain ⟨_, rfl⟩ := pureOk.mp ok
      exact ⟨rfl, e, w, entityFound.mp read, lies⟩
  · rintro ⟨rfl, e, w, found, lies⟩
    refine bindOk.mpr ⟨e, t, readOk.mpr ⟨entityFound.mpr found, rfl⟩, ?_⟩
    rw [lies]
    rfl

def TakesOver (point cut : EntityId) (s t : Sketch α) : Prop :=
  (∃ r q, point.request? = some r ∧ s.requests.get? r = some q ∧ q.kind = .datumPoint ∧
    deleteRequest r s = (.ok (), t)) ∨
    join cut point s = (.ok (), t)

theorem takenOverChanges {cut : EntityId} (taken : TakesOver point cut s t) : Changes s t := by
  rcases taken with ⟨r, _, _, _, _, gone⟩ | joins
  · have steps := deleteRequestGradual (R := Change) r s
    rwa [gone] at steps
  · have steps := joinGradual (R := Change) cut point s
    rwa [joins] at steps

theorem splitAtPointOk {cuts : List EntityId} (ok : splitAtPoint entity point s = (.ok cuts, t)) :
    ∃ place i u v cut, placeOn entity point s = (.ok (place, i), s) ∧ deleteConstraint i s = (.ok (), u) ∧
      splitEntity entity place u = (.ok cut, v) ∧ cuts = [cut] ∧ TakesOver point cut v t := by
  obtain ⟨⟨place, i⟩, s', held, rest⟩ := bindOk.mp ok
  obtain ⟨rfl, _⟩ := placeOnFirst held
  obtain ⟨_, u, deleted, rest⟩ := bindOk.mp (orUndoOk.mp rest)
  obtain ⟨cut, v, made, ok⟩ := bindOk.mp rest
  refine ⟨place, i, u, v, cut, held, lowerOk deleted, made, ?_⟩
  have joined (ok : (do join cut point; return [cut] : Edit α CurveError _) v = (.ok cuts, t)) :
      cuts = [cut] ∧ TakesOver point cut v t := by
    obtain ⟨_, w, joins, last⟩ := bindOk.mp ok
    obtain ⟨rfl, rfl⟩ := pureOk.mp last
    exact ⟨rfl, .inr joins⟩
  cases named : point.request? with
  | none =>
    rw [named] at ok
    exact joined ok
  | some r =>
    rw [named] at ok
    obtain ⟨q, read, ok⟩ := readThen ok
    split at ok
    · rename_i datum
      obtain ⟨_, w, gone, last⟩ := bindOk.mp ok
      obtain ⟨rfl, rfl⟩ := pureOk.mp last
      exact ⟨rfl, .inl ⟨r, q, named, requestFound.mp read, datum, lowerOk gone⟩⟩
    · exact joined ok

end Sketch

theorem Quat.rotateBack {q : Quat ℝ} (unit : q.length = 1) (d : Vec3 ℝ) :
    (q.rotate .unitX).scale (d.dot (q.rotate .unitX)) + (q.rotate .unitY).scale (d.dot (q.rotate .unitY)) +
      (q.rotate .unitZ).scale (d.dot (q.rotate .unitZ)) = d := by
  have turned (e : Vec3 ℝ) := q.rotateDot d e
  rw [unitSquares.mp unit] at turned
  generalize q.rotate .unitX = u, q.rotate .unitY = v, q.rotate .unitZ = n at turned ⊢
  have x := turned .unitX
  have y := turned .unitY
  have z := turned .unitZ
  rcases d with ⟨dx, dy, dz⟩
  simp only [Vec3.dot, Vec3.unitX, Vec3.unitY, Vec3.unitZ, exactOne, exactZero] at x y z
  simp only [Vec3.dot, Vec3.scale, Vec3.mkAdd, Vec3.mk.injEq]
  exact ⟨by linear_combination x, by linear_combination y, by linear_combination z⟩

noncomputable def Frame.unit (f : Frame ℝ) : Frame ℝ := ⟨f.origin, f.orientation.normalize⟩

theorem Vec3.addAssoc (a b c : Vec3 ℝ) : a + b + c = a + (b + c) := by
  rcases a with ⟨ax, ay, az⟩
  rcases b with ⟨bx, bw, bz⟩
  rcases c with ⟨cx, cy, cz⟩
  simp only [mkAdd, add_assoc]

theorem Vec3.scaleNone (a : Vec3 ℝ) : a.scale 0 = .zero := by
  simp only [scale, zero, mul_zero, exactZero]

theorem Frame.unprojectProject {f : Frame ℝ} (unit : f.orientation.length = 1) {p : Vec3 ℝ} (level : f.height p = 0) :
    f.unproject (f.unit.project p) = p := by
  have back := Quat.rotateBack unit (p - f.origin)
  have same : f.unit = f := by rw [Frame.unit, Quat.unitNormalized unit]
  rw [show (p - f.origin).dot (f.orientation.rotate .unitZ) = 0 from level, Vec3.scaleNone, Vec3.addZero] at back
  rw [same, unproject, Vec3.addAssoc]
  exact Vec3.addEq.mpr back.symm

noncomputable def PlaneExpr.frame (x : PlaneExpr ℝ) (v : ParamId → ℝ) : Frame ℝ :=
  ⟨x.origin.eval v, x.orientation.eval v⟩

namespace Sketch
variable {s t u : Sketch ℝ} {entity point cut w : EntityId} {e : Entity ℝ} {place : Vec3 ℝ} {x : PlaneExpr ℝ}
  {q : Request}

theorem Lands.position {f : Frame ℝ} {n : Nat} (lands : Lands q f n place s) (h : s.Intact)
    (there : s.requests.get? q.id = some q) (lies : q.workplane = some w) (placed : s.planeExpr w = .ok x)
    (few : n < q.kind.pointCount) : s.position (q.point n) = .ok ((x.frame s.valueOf).unproject (f.project place)) := by
  have found := h.present q.id q there _ (planarPoint q lies few)
  refine Result.bindOk.mpr ⟨_, drawnOk found rfl lies placed, congrArg Except.ok ?_⟩
  rw [PlaneExpr.evalDrawn, lands.x, lands.y]
  rfl

structure CutThere (w : EntityId) (x : PlaneExpr ℝ) (cut : EntityId) (place : Vec3 ℝ) (s t : Sketch ℝ) : Prop where
  firm : t.Firm
  plane : t.Has .workplane w
  new : cut.Free (·.number < s.nextRequest)
  level : ∃ e, t.entities.get? cut = some e ∧ e.workplane = some w
  position : t.position cut = .ok ((x.frame s.valueOf).unproject ((x.frame s.valueOf).unit.project place))

theorem CutThere.later {touched : RequestId → Prop} (h : CutThere w x cut place s t) (aside : Aside touched t u) (firm : u.Firm)
    (older : ∀ r, touched r → r.number < s.nextRequest) (free : w.Free touched) : CutThere w x cut place s u := by
  have new : cut.Free touched := fun r mine inside => h.new r mine (older r inside)
  obtain ⟨e, found, lies⟩ := h.level
  obtain ⟨e', stands, is⟩ := h.plane
  refine ⟨firm, ⟨e', aside.entities w e' free stands, is⟩, h.new, ⟨e, aside.entities cut e new found, lies⟩, ?_⟩
  refine aside.position h.firm.toIntact found new (fun w' lies' => ?_) h.position
  exact Option.some.inj (lies.symm.trans lies') ▸ free

theorem splitEntityLands (h : s.Firm) (furnished : s.Furnished) (found : s.entities.get? entity = some e)
    (lies : e.workplane = some w) (smooth : e.kind.cutInto ≠ some .cubic) (ok : splitEntity entity place s = (.ok cut, t)) :
    ∃ x, s.planeExpr w = .ok x ∧ CutThere w x cut place s t := by
  obtain ⟨r, q, first, second, u, named, registered, part, made, same, gone⟩ := splitEntityCuts h found ok
  obtain ⟨e', stands, is⟩ := made.stands w lies
  obtain ⟨x, placed⟩ := planeThere h.toIntact furnished.grounded stands is
  have frame : s.frame w = .ok (x.frame s.valueOf).unit := Result.bindOk.mpr ⟨x, placed, rfl⟩
  obtain ⟨aside, n, few, seam, lands⟩ := made.placed smooth w _ lies frame
  obtain ⟨kind, _, piece, _⟩ := made.pieces
  have firm := made.onward.firm
  have free := freshFree h.toIntact stands
  obtain ⟨still, origin, orientation⟩ := aside.plane h.toIntact free placed
  have level := piece.workplane.trans lies
  have position := lands.position firm.toIntact piece.there level still few
  rw [PlaneExpr.frame, origin, orientation, ← seam, ← same] at position
  have cuts : CutThere w x cut place s u := by
    refine ⟨firm, ⟨e', aside.entities w e' free stands, is⟩, fun r mine old => ?_, ?_, position⟩
    · rw [same, seam] at mine
      obtain rfl := Option.some.inj ((first.pointRequest n).symm.trans mine)
      exact absurd piece.new (Nat.not_le_of_lt old)
    · rw [same, seam]
      exact ⟨_, firm.present first.id first piece.there _ (planarPoint first level few), level⟩
  have ours : q.id = r := h.requests.keyOfGet registered
  refine ⟨x, placed, ?_⟩
  cases kept : q.construction with
  | true =>
    rw [kept] at gone
    exact gone ▸ cuts
  | false =>
    rw [kept] at gone
    obtain ⟨erased, after⟩ := deletedErases firm (made.onward.requests r q registered) gone
    refine cuts.later (erased.aside firm.toIntact after.toIntact) after (fun r' same => ?_) ?_
    · exact same ▸ h.requestNumbers r q registered
    · have drawn := Request.drawn part
      exact ours ▸ planeFree h.toIntact (ours.symm ▸ registered) (drawn.workplane.symm.trans lies) frame

theorem CutThere.takenOver (h : CutThere w x cut place s t) (old : point.Free (s.nextRequest ≤ ·.number))
    (taken : TakesOver point cut t u) : CutThere w x cut place s u := by
  rcases taken with ⟨r, q, named, registered, datum, gone⟩ | joins
  · obtain ⟨erased, after⟩ := deletedErases h.firm registered gone
    refine h.later (erased.aside h.firm.toIntact after.toIntact) after (fun r' same => ?_) fun r' mine same => ?_
    · exact Nat.lt_of_not_le (old r' (same ▸ named))
    · obtain ⟨e, stands, is⟩ := h.plane
      obtain ⟨q', there, part⟩ := h.firm.drawn w e r stands (EntityId.ofRequest.mp (same ▸ mine))
      obtain rfl := Option.some.inj (registered.symm.trans there)
      cases datum.symm.trans (q.workplaneDrawn e part is)
  · obtain ⟨_, _, onward, _, aside⟩ := joinOk h.firm joins
    exact h.later (aside fun _ => False) onward.firm (fun _ none => none.elim) fun _ _ none => none

/-- A curve has been split where the first constraint has its point that keeps on it any point of the request of the
selected one. A request for a datum point has no other. -/
structure SplitAt (entity point cut : EntityId) (c : Constraint ℝ) (p : EntityId) (place : Vec3 ℝ) (s t : Sketch ℝ) :
    Prop where
  held : s.KeepsFirst entity point s.constraints.toList c p entity place
  gone : t.constraints.get? c.id = none
  datum : ∀ r q, point.request? = some r → s.requests.get? r = some q → q.kind = .datumPoint → p = point
  lands : ∃ e w x, s.entities.get? entity = some e ∧ e.workplane = some w ∧ s.planeExpr w = .ok x ∧
    let f := x.frame s.valueOf
    t.position cut = .ok (f.unproject (f.unit.project place)) ∧
      (f.orientation.length = 1 → f.height place = 0 → t.position cut = .ok place)

theorem splitAtPointLands (h : s.Firm) (furnished : s.Furnished) (found : s.entities.get? entity = some e)
    (lies : e.workplane = some w) {spot : Entity ℝ} (there : s.entities.get? point = some spot) {cuts : List EntityId}
    (ok : splitAtPoint entity point s = (.ok cuts, t)) :
    ∃ cut c p place, cuts = [cut] ∧ SplitAt entity point cut c p place s t := by
  obtain ⟨place, i, u, v, cut, held, deleted, made, same, taken⟩ := splitAtPointOk ok
  obtain ⟨_, c, p, curve, rfl, keeps⟩ := placeOnFirst held
  have listed := h.constraints.getOfMem keeps.member
  obtain ⟨steps, firm, aside⟩ := deletedKeeps h deleted
  have spent := deletedSpent h.toIntact listed
  rw [show (deleteConstraint c.id).attempt s = u from congrArg Prod.snd deleted] at spent
  have found' : u.entities.get? entity = some e := steps.entities ▸ found
  obtain ⟨r, _, first, second, _, named, _, _, whole, _⟩ := splitEntityCuts firm found' made
  obtain ⟨kind, into, _⟩ := whole.pieces
  obtain ⟨rfl, smooth⟩ := h.curveNamed listed keeps.kind found (into ▸ rfl) named (keeps.curveOf.trans named)
  obtain ⟨x, level, cuts⟩ := splitEntityLands firm (steps.changes.furnished furnished) found' lies smooth made
  -- The workplane is what it was before the constraint went.
  obtain ⟨e', stands, is⟩ := whole.stands w lies
  obtain ⟨y, placed⟩ := planeThere h.toIntact furnished.grounded (steps.entities ▸ stands) is
  obtain ⟨still, origin, orientation⟩ := (aside fun _ => False).plane h.toIntact (fun _ _ none => none) placed
  cases level.symm.trans still
  have position := (cuts.takenOver (freshFree firm.toIntact (steps.entities ▸ there)) taken).position
  rw [PlaneExpr.frame, origin, orientation] at position
  refine ⟨cut, c, p, place, same, keeps, ?_, fun r q named registered datum => ?_, e, w, x, found, lies, placed, position, ?_⟩
  · have changes := splitEntityGradual (R := Change) curve place u
    rw [made] at changes
    exact (Changes.spent (changes.trans (takenOverChanges taken)) firm.toIntact spent).1
  · obtain ⟨a, placed, _⟩ := Result.bindOk.mp keeps.placed
    obtain ⟨b, read, _⟩ := Result.bindOk.mp placed
    have first := h.datumOnly registered datum (entityFound.mp read) (keeps.pointOf.trans named)
    exact first.trans (h.datumOnly registered datum there named).symm
  · intro unit flat
    exact position.trans (congrArg Except.ok (Frame.unprojectProject unit flat))

end Sketch

namespace Session
open Sketch
variable {config : EngineConfig ℝ} {s : Session ℝ}

theorem splitsThere (h : Reached config s) {entity point : EntityId} {hint : Vec3 ℝ} {cuts : List EntityId} {t : Sketch ℝ}
    (ok : split (.atPoint entity point) hint s.sketch = (.ok cuts, t)) :
    ∃ cut c p place, cuts = [cut] ∧ SplitAt entity point cut c p place s.sketch t := by
  obtain ⟨_, _, drawn, ok⟩ := bindOk.mp ok
  obtain ⟨rfl, e, w, found, lies⟩ := requireWorkplaneOk.mp drawn
  obtain ⟨_, _, drawn', ok⟩ := bindOk.mp ok
  obtain ⟨rfl, spot, _, there, _⟩ := requireWorkplaneOk.mp drawn'
  exact splitAtPointLands (reachedFirm h).1 (reachedFurnished h).1 found lies there ok

/-! A line that is held on a circle with one end. The circle can be split with the other end selected. -/

section Chord
variable {α : Type} [Scalar α] {s : Sketch α} {c : Constraint α}

def chord : Request := ⟨⟨3⟩, ⟨1⟩, some tilted.entity, .line, false⟩

structure Chorded (c : Constraint α) (s : Sketch α) : Prop where
  plane : Drawable tilted s
  circle : Drawable hoop s
  line : Drawable chord s
  kind : c.kind = .pointOnCircle (chord.point 0) hoop.entity
  only : s.constraints.toList = [c]

theorem Chorded.places (h : Chorded c s) :
    ∃ place, placeOn hoop.entity (chord.point 1) s = (.ok (place, c.id), s) := by
  have found := h.circle.hasCircle rfl
  obtain ⟨a, there, is, drawn⟩ := h.line.hasPoint (show 0 < 2 by decide)
  obtain ⟨place, placed⟩ := positionThere h.line.furnished there is fun w lies => h.line.plane w (drawn.workplane ▸ lies)
  refine ⟨place, bindOk.mpr ⟨_, s, readOk.mpr ⟨entityFound.mpr found, rfl⟩, ?_⟩⟩
  refine bindOk.mpr ⟨none, s, rfl, readOk.mpr ⟨?_, rfl⟩⟩
  have held : onCurve? c = some (chord.point 0, hoop.entity) := by rw [onCurve?, h.kind]
  rw [h.only, holdOn, held]
  dsimp only
  rw [if_neg (by decide), placed]
  rfl

theorem hoopCut (firm : s.Firm) (circle : Drawable hoop s) (plane : Drawable tilted s) (line : Drawable chord s)
    (place : Vec3 α) : ∃ cut u t, splitEntity hoop.entity place s = (.ok cut, u) ∧
      u.requests.get? chord.id = some chord ∧ join cut (chord.point 1) u = (.ok (), t) := by
  obtain ⟨cut, u, made⟩ := circleSplits circle rfl rfl place
  obtain ⟨r, first, second, named, whole, seam, others⟩ := splitRecuts firm (circle.hasCircle rfl) rfl made
  obtain rfl : hoop.id = r := Option.some.inj named
  obtain ⟨kind, into, piece, _⟩ := whole.pieces
  obtain rfl : RequestKind.arc = kind := Option.some.inj into
  have changes := splitEntityGradual (R := Change) hoop.entity place s
  rw [made] at changes
  have furnished : u.Furnished := Changes.furnished changes circle.furnished
  have stands := tiltedStands ⟨furnished, others tilted plane.there (by decide), nofun⟩
  have arc : Drawable first u := by
    refine ⟨furnished, piece.there, fun w lies => ?_⟩
    exact Option.some.inj (piece.workplane.symm.trans lies) ▸ stands
  have beside : Drawable chord u :=
    ⟨furnished, others chord line.there (by decide), fun w lies => Option.some.inj lies ▸ stands⟩
  obtain ⟨b, finish, is, _⟩ := beside.hasPoint (show 1 < 2 by decide)
  have joined := arc.joins (show 1 < first.kind.pointCount by rw [piece.kind]; decide) ⟨b, finish, is⟩
  have seam : cut = first.point 1 := seam
  exact ⟨cut, u, _, made, beside.there, seam ▸ joined⟩

theorem Chorded.splits (h : Chorded c s) (firm : s.Firm) (hint : Vec3 α) :
    ∃ cut t, split (.atPoint hoop.entity (chord.point 1)) hint s = (.ok [cut], t) := by
  obtain ⟨place, placed⟩ := h.places
  have listed : s.constraints.get? c.id = some c := firm.constraints.getOfMem (h.only ▸ List.mem_singleton_self c)
  obtain ⟨u, deleted⟩ : ∃ u, deleteConstraint c.id s = (.ok (), u) :=
    ⟨_, bindOk.mpr ⟨c, s, readOk.mpr ⟨constraintFound.mpr listed, rfl⟩, rfl⟩⟩
  obtain ⟨steps, kept, _⟩ := deletedKeeps firm deleted
  obtain ⟨cut, v, t, made, there, joined⟩ :=
    hoopCut kept (h.circle.adjusted steps) (h.plane.adjusted steps) (h.line.adjusted steps) place
  have last : (do
      if (← Edit.read (·.request chord.id)).kind = .datumPoint then Edit.lower (deleteRequest chord.id)
      else join cut (chord.point 1)
      return [cut] : Edit α CurveError (List EntityId)) v = (.ok [cut], t) := by
    refine bindOk.mpr ⟨chord, v, readOk.mpr ⟨requestFound.mpr there, rfl⟩, ?_⟩
    rw [if_neg (by decide)]
    exact bindOk.mpr ⟨(), t, joined, rfl⟩
  have chosen : splitAtPoint hoop.entity (chord.point 1) s = (.ok [cut], t) := by
    refine bindOk.mpr ⟨(place, c.id), s, placed, orUndoOk.mpr ?_⟩
    exact bindOk.mpr ⟨(), u, by rw [lower, deleted], bindOk.mpr ⟨cut, v, made, last⟩⟩
  obtain ⟨d, other, _, drawn⟩ := h.line.hasPoint (show 1 < 2 by decide)
  have first : requireWorkplane hoop.entity s = (.ok (), s) :=
    requireWorkplaneOk.mpr ⟨rfl, _, tilted.entity, h.circle.hasCircle rfl, rfl⟩
  have second : requireWorkplane (chord.point 1) s = (.ok (), s) :=
    requireWorkplaneOk.mpr ⟨rfl, d, tilted.entity, other, drawn.workplane⟩
  exact ⟨cut, t, bindOk.mpr ⟨(), s, first, bindOk.mpr ⟨(), s, second, chosen⟩⟩⟩

theorem chordReached (config : EngineConfig α) :
    ∃ (s : Session α) (c : Constraint α), Reached config s ∧ Chorded c s.sketch := by
  obtain ⟨s, reached, known⟩ := hoopReached config
  have allowed : s.sketch.checkRequest ⟨1⟩ .line (some tilted.entity) = .ok () := known.circle.rejoins.allows nofun
  obtain ⟨t, reached, line, shaped⟩ := reached.drawn allowed
  have name : (⟨⟨s.sketch.nextRequest⟩, ⟨1⟩, some tilted.entity, .line, false⟩ : Request) = chord := by
    rw [known.nextRequest]
    rfl
  rw [name] at line shaped
  have before := known.circle.furnished.toIntact
  have plane : Drawable tilted t := ⟨line.furnished, shaped.keeps before known.plane.there, nofun⟩
  have circle : Drawable hoop t := ⟨line.furnished, shaped.keeps before known.circle.there, line.plane⟩
  let kind : ConstraintKind α := .pointOnCircle (chord.point 0) hoop.entity
  let c : Constraint α := ⟨⟨t.nextConstraint⟩, ⟨1⟩, none, kind, false⟩
  have fits : t.checkEntities kind = .ok () := by
    refine slotsPass (fun slot member => ?_) rfl
    simp only [kind, ConstraintKind.slots, List.mem_cons, List.not_mem_nil, or_false] at member
    rcases member with rfl | rfl
    · obtain ⟨a, found, is, _⟩ := line.hasPoint (show 0 < 2 by decide)
      exact ⟨a, found, is⟩
    · exact ⟨_, circle.hasCircle rfl, rfl⟩
  obtain ⟨g, group⟩ := line.rejoins.group
  obtain ⟨u, run, only⟩ : ∃ u, addConstraint ⟨1⟩ none kind false t = (.ok c.id, u) ∧
      u.constraints = t.constraints.add c :=
    ⟨_, plainEntered line.furnished.constraints rfl (validInSpace group rfl fits fun _ => rfl), rfl⟩
  have steps := addConstraintGradual ⟨1⟩ none kind false t
  rw [run] at steps
  have single : u.constraints.toList = [c] := by
    rw [only, shaped.constraints, known.constraints]
    simp [Registry.add, Registry.insert, Registry.toList]
  exact ⟨_, c, reached.edited (c := .addConstraint ⟨1⟩ none kind false) rfl run, plane.adjusted steps, circle.adjusted steps,
    line.adjusted steps, rfl, single⟩

end Chord

theorem otherEndTaken : ∃ (s : Session ℝ) (cut : EntityId) (t : Sketch ℝ) (c : Constraint ℝ) (place : Vec3 ℝ),
    Reached .standard s ∧ split (.atPoint hoop.entity (chord.point 1)) .zero s.sketch = (.ok [cut], t) ∧
      SplitAt hoop.entity (chord.point 1) cut c (chord.point 0) place s.sketch t := by
  obtain ⟨s, c, reached, known⟩ := chordReached (α := ℝ) .standard
  obtain ⟨cut, t, ok⟩ := known.splits (reachedFirm reached).1 .zero
  obtain ⟨cut', c', p, place, same, whole⟩ := splitsThere reached ok
  obtain rfl : cut = cut' := (List.cons.inj same).1
  have member := whole.held.member
  rw [known.only] at member
  obtain rfl : c' = c := List.mem_singleton.mp member
  have kind := whole.held.kind
  rw [onCurve?, known.kind] at kind
  obtain rfl : chord.point 0 = p := congrArg Prod.fst (Option.some.inj kind)
  exact ⟨s, cut, t, c', place, reached, ok, whole⟩

end Session
end Drafting
