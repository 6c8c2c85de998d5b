import Drafting.Proofs.Firm
import Drafting.Proofs.Placing
/-! Curves that are split. The pieces take the place of the curve's ends and centre wherever a constraint names one of
those as a point, they are joined where they meet, and the curve goes with all that still names it. -/
namespace Drafting
open Attempt Edit

def EntityId.shift : List (EntityId × EntityId) → EntityId → EntityId
  | [], e => e
  | (old, new) :: rest, e => shift rest (if e = old then new else e)

theorem EntityId.shiftStays {moves : List (EntityId × EntityId)} {e : EntityId} (other : ∀ move ∈ moves, e ≠ move.1) :
    shift moves e = e := by
  induction moves with
  | nil => rfl
  | cons move rest ih =>
    rw [shift, if_neg (other move List.mem_cons_self)]
    exact ih fun m member => other m (List.mem_cons_of_mem _ member)

theorem EntityId.shiftLookup {moves : List (EntityId × EntityId)}
    (apart : ∀ move ∈ moves, ∀ other ∈ moves, move.2 ≠ other.1) (e : EntityId) :
    shift moves e = (moves.lookup e).getD e := by
  induction moves with
  | nil => rfl
  | cons move rest ih =>
    have later (m : EntityId × EntityId) (member : m ∈ rest) := List.mem_cons_of_mem move member
    rw [shift, List.lookup_cons]
    by_cases same : e = move.1
    · rw [if_pos same, beq_iff_eq.mpr same]
      exact shiftStays fun m member => apart move List.mem_cons_self m (later m member)
    · rw [if_neg same, beq_false_of_ne same]
      exact ih fun m member m' member' => apart m (later m member) m' (later m' member')

theorem EntityId.shiftMine {moves : List (EntityId × EntityId)} {r : RequestId}
    (away : ∀ move ∈ moves, move.2.request? ≠ some r) (e : EntityId) :
    (shift moves e).request? = some r ↔ e.request? = some r ∧ e ∉ moves.map Prod.fst := by
  induction moves generalizing e with
  | nil => simp [shift]
  | cons move rest ih =>
    have later (m : EntityId × EntityId) (member : m ∈ rest) := away m (List.mem_cons_of_mem _ member)
    rw [shift, ih later, List.map_cons, List.mem_cons]
    by_cases same : e = move.1
    · rw [if_pos same]
      exact iff_of_false (fun both => away move List.mem_cons_self both.1) fun both => both.2 (.inl same)
    · rw [if_neg same, not_or]
      exact and_congr_right fun _ => (and_iff_right same).symm

namespace ConstraintKind

theorem mapPointsTwice (f g : EntityId → EntityId) (k : ConstraintKind α) :
    (k.mapPoints f).mapPoints g = k.mapPoints fun e => g (f e) := by
  cases k <;> rfl

theorem mapPointsSame (k : ConstraintKind α) : (k.mapPoints fun e => e) = k := by
  cases k <;> rfl

theorem onSame (k : ConstraintKind α) : k.on k.references = k := by
  cases k <;> rfl

end ConstraintKind

namespace Sketch
variable {s t u : Sketch α} {r : RequestId} {q : Request} {moves : List (EntityId × EntityId)} {f : EntityId → EntityId}
  {g : GroupId} {plane : Option EntityId} {a b : EntityId}

def moved : List (EntityId × EntityId) → Sketch α → Sketch α
  | [], s => s
  | (old, new) :: rest, s => moved rest (s.replacePoint old new).2

structure Onward (f : EntityId → EntityId) (s t : Sketch α) : Prop where
  firm : t.Firm
  numbers : s.nextRequest ≤ t.nextRequest
  requests : ∀ i q, s.requests.get? i = some q → t.requests.get? i = some q
  constraints : ∀ c k, s.constraints.get? c = some k →
    t.constraints.get? c = some { k with kind := k.kind.mapPoints f }

theorem Onward.ofKept (firm : t.Firm) (numbers : s.nextRequest ≤ t.nextRequest)
    (requests : ∀ i q, s.requests.get? i = some q → t.requests.get? i = some q)
    (constraints : ∀ c k, s.constraints.get? c = some k → t.constraints.get? c = some k) : Onward (fun e => e) s t := by
  refine ⟨firm, numbers, requests, fun c k found => ?_⟩
  rw [ConstraintKind.mapPointsSame]
  exact constraints c k found

theorem Onward.trans {f' : EntityId → EntityId} (first : Onward f s t) (next : Onward f' t u) :
    Onward (fun e => f' (f e)) s u where
  firm := next.firm
  numbers := Nat.le_trans first.numbers next.numbers
  requests i q found := next.requests i q (first.requests i q found)
  constraints c k found := by
    have whole := next.constraints c _ (first.constraints c k found)
    rwa [ConstraintKind.mapPointsTwice] at whole

variable [Scalar α]

structure Revalued (s t : Sketch α) : Prop where
  requests : t.requests = s.requests
  constraints : t.constraints = s.constraints
  entities : t.entities = s.entities
  nextRequest : t.nextRequest = s.nextRequest

omit [Scalar α] in
theorem revaluedAll (steps : Relation.ReflTransGen Revalued s t) : Revalued s t := by
  induction steps with
  | refl => exact ⟨rfl, rfl, rfl, rfl⟩
  | tail _ step ih =>
    exact ⟨step.requests.trans ih.requests, step.constraints.trans ih.constraints, step.entities.trans ih.entities,
      step.nextRequest.trans ih.nextRequest⟩

omit [Scalar α] in
theorem setParamRevalues (p : ParamId) (x : α) (s : Sketch α) : Revalued s ((setParam p x).attempt s) := by
  rw [setParamAttempt]
  split <;> exact ⟨rfl, rfl, rfl, rfl⟩

theorem placesRevalue (q : Request) (places : List (Vec3 α × Nat)) (s : Sketch α) :
    Revalued s ((places.forM fun (p, i) => forcePoint (q.point i) p).attempt s) :=
  revaluedAll (gradualForM (fun x _ => forcePointBy (fun p x s => .single (setParamRevalues p x s)) _ x.1) s)

omit [Scalar α] in
theorem Shaped.revalued (h : Shaped q s t) (step : Revalued t u) : Shaped q s u where
  number := h.number
  nextRequest := step.nextRequest.trans h.nextRequest
  requests := step.requests.trans h.requests
  entities := step.entities.trans h.entities
  constraints := step.constraints.trans h.constraints

theorem addShapeOk {kind : RequestKind} {places : List (Vec3 α)} (ok : addShape g kind plane places s = (.ok q, t)) :
    q = ⟨⟨s.nextRequest⟩, g, plane, kind, false⟩ ∧ Shaped q s t := by
  obtain ⟨i, u, drawn, ok⟩ := bindOk.mp ok
  obtain ⟨_, v, placed, ok⟩ := bindOk.mp ok
  cases ok
  obtain ⟨rfl, shaped⟩ := addRequestShapes drawn
  have valued := placesRevalue ⟨⟨s.nextRequest⟩, g, plane, kind, false⟩ places.zipIdx u
  rw [Edit.attempt, placed] at valued
  exact ⟨rfl, shaped.revalued valued⟩

structure Piece (g : GroupId) (plane : Option EntityId) (kind : RequestKind) (q : Request) (s t : Sketch α) : Prop where
  kind : q.kind = kind
  group : q.group = g
  workplane : q.workplane = plane
  new : s.nextRequest ≤ q.id.number
  there : t.requests.get? q.id = some q

theorem addShapeOnward (h : s.Firm) {kind : RequestKind} {places : List (Vec3 α)}
    (ok : addShape g kind plane places s = (.ok q, t)) :
    Onward (fun e => e) s t ∧ Piece g plane kind q s t ∧ q.id.number < t.nextRequest := by
  have steps := addShapeGradual (R := KeepsFirm) g kind plane places s
  rw [ok] at steps
  obtain ⟨rfl, shaped⟩ := addShapeOk ok
  refine ⟨.ofKept (Session.keepsAll steps h) ?_ (fun i q found => ?_) fun c k found => ?_, ⟨rfl, rfl, rfl, Nat.le_refl _, ?_⟩, ?_⟩
  · exact shaped.nextRequest ▸ Nat.le_succ _
  · exact shaped.keeps h.toIntact found
  · exact shaped.constraints ▸ found
  · rw [shaped.requests]
    exact h.requests.getAddSelf _
  · exact shaped.nextRequest ▸ Nat.lt_succ_self _

omit [Scalar α] in
theorem redirectThen {old new : EntityId} {k : Unit → Edit α CurveError τ} {y : τ}
    (ok : (redirect old new >>= k) s = (.ok y, t)) : k () (s.replacePoint old new).2 = (.ok y, t) := by
  obtain ⟨_, u, done, rest⟩ := bindOk.mp ok
  exact modifyOk.mp done ▸ rest

omit [Scalar α] in
theorem movedAside (moves : List (EntityId × EntityId)) (s : Sketch α) (touched : RequestId → Prop) :
    Aside touched s (s.moved moves) := by
  induction moves generalizing s with
  | nil => exact .ofSame rfl rfl
  | cons move rest ih =>
    have first : Aside touched s (s.replacePoint move.1 move.2).2 :=
      .ofSame (dirtyKeeps (fun _ _ => rfl) _ _) (dirtyKeeps (fun _ _ => rfl) _ _)
    exact first.trans (ih _)

theorem addShapeStands {kind : RequestKind} {places : List (Vec3 α)} (ok : addShape g kind plane places s = (.ok q, t))
    (w : EntityId) (lies : plane = some w) : s.Has .workplane w := by
  obtain ⟨_, u, drawn, _⟩ := bindOk.mp ok
  obtain ⟨_, _, read, _⟩ := bindOk.mp drawn
  exact checkRequestPlane (readOk.mp read).1 lies

theorem movedOnward (h : s.Firm) (moves : List (EntityId × EntityId)) : Onward (EntityId.shift moves) s (s.moved moves) := by
  induction moves generalizing s with
  | nil => exact .ofKept h (Nat.le_refl _) (fun _ _ found => found) fun _ _ found => found
  | cons move rest ih =>
    obtain ⟨old, new⟩ := move
    have steps : Adjustments s (s.replacePoint old new).2 := replacePointGradual s old new
    have firm : (s.replacePoint old new).2.Firm := replacePointFirm s old new h
    have first : Onward (fun e => if e = old then new else e) s (s.replacePoint old new).2 := by
      refine ⟨firm, steps.nextRequest.ge, fun i q found => steps.requests ▸ found, fun c k found => ?_⟩
      rw [replacedGet h.toConsistent, found]
      rfl
    exact first.trans (ih firm)

theorem joinOk (h : s.Firm) (ok : join a b s = (.ok (), t)) : ∃ e : Entity α, s.entities.get? a = some e ∧
    Onward (fun e => e) s t ∧ t.Coincide e.group a b ∧ ∀ touched, Aside touched s t := by
  have steps := joinGradual (R := KeepsFirm) a b s
  rw [ok] at steps
  have firm : t.Firm := Session.keepsAll steps h
  obtain ⟨e, found, joins⟩ := readThen ok
  obtain ⟨_, u, added, last⟩ := bindOk.mp joins
  obtain ⟨_, same⟩ := pureOk.mp last
  subst same
  have added := lowerOk added
  cases added.symm.trans (joinEntered h.constraints (addedValid added))
  let c : Constraint α := ⟨⟨s.nextConstraint⟩, e.group, e.workplane, .pointsCoincident a b, false⟩
  refine ⟨e, entityFound.mp found, .ofKept firm (Nat.le_refl _) (fun _ _ found => found) fun i k there => ?_,
    ⟨c.id, c, h.constraints.getAddSelf c, rfl, .inl rfl⟩, fun _ => .ofSame rfl rfl⟩
  refine (h.constraints.getAdd c i).trans ((if_neg ?_).trans there)
  rintro rfl
  cases h.fresh.symm.trans there

theorem joinPiece (h : s.Firm) (there : s.requests.get? q.id = some q) {n : Nat} (ok : join (q.point n) b s = (.ok (), t)) :
    Onward (fun e => e) s t ∧ t.Coincide q.group (q.point n) b ∧ ∀ touched, Aside touched s t := by
  obtain ⟨e, found, onward, joined, aside⟩ := joinOk h ok
  obtain ⟨q', registered, part⟩ := h.drawn _ e q.id found (q.pointOrigin n)
  obtain rfl := Option.some.inj (there.symm.trans registered)
  exact ⟨onward, (Request.drawn part).group ▸ joined, aside⟩

end Sketch

theorem Request.pointRequest (q : Request) (n : Nat) : (q.point n).request? = some q.id :=
  EntityId.ofRequest.mpr (q.pointOrigin n)

namespace EntityKind

def cutInto : EntityKind α → Option RequestKind
  | line .. => some .line
  | circle .. | arc .. => some .arc
  | cubic .. => some .cubic
  | _ => none

/-- The points of a curve that constraints keep hold of, with what takes their place on the pieces. -/
def anchors (k : EntityKind α) (first second : Request) : List (EntityId × EntityId) :=
  match k with
  | line start finish => [(start, first.point 0), (finish, second.point 1)]
  | circle center .. => [(center, first.point 0)]
  | arc center start finish _ => [(center, first.point 0), (start, first.point 1), (finish, second.point 2)]
  | cubic start _ _ finish => [(start, first.point 0), (finish, second.point 3)]
  | _ => []

/-- The points at which the pieces meet. A circle is opened into one piece. -/
def seam (k : EntityKind α) (first second : Request) : EntityId × EntityId :=
  match k with
  | line .. => (first.point 1, second.point 0)
  | circle .. => (first.point 1, first.point 2)
  | arc .. => (first.point 2, second.point 1)
  | _ => (first.point 3, second.point 0)

def isClosed : EntityKind α → Bool
  | circle .. => true
  | _ => false

variable {first second : Request}

theorem anchorsHeld (k : EntityKind α) : ∀ move ∈ k.anchors first second, move.1 ∈ k.points := by
  cases k <;> simp [anchors, points]

theorem anchorsMoved (k : EntityKind α) : ∀ move ∈ k.anchors first second,
    move.2.request? = some first.id ∨ move.2.request? = some second.id := by
  cases k <;> simp [anchors, Request.pointRequest]

theorem seamPieces (k : EntityKind α) (first second : Request) : (k.seam first second).1.request? = some first.id ∧
    ((k.seam first second).2.request? = some first.id ∨ (k.seam first second).2.request? = some second.id) := by
  cases k <;> simp [seam, Request.pointRequest]

end EntityKind

namespace Request

theorem pointsDrawn (q : Request) : ∀ e ∈ q.entities (α := α), ∀ p ∈ e.kind.points,
    ∃ e' ∈ q.entities (α := α), e'.id = p ∧ e'.isA .point = true := by
  rcases q with ⟨id, group, workplane, kind, construction⟩
  cases workplane <;> cases kind <;> simp [entities, pointParts, part, normalPart, EntityKind.points, Entity.isA,
    EntityKind.isA, EntityKind.classes, List.range_succ]

theorem curveDrawn (q : Request) : ∀ e ∈ q.entities (α := α), e.kind.cutInto.isSome = true → q.kind ≠ .workplane := by
  rcases q with ⟨id, group, workplane, kind, construction⟩
  cases workplane <;> cases kind <;> simp [entities, pointParts, part, normalPart, EntityKind.cutInto, List.range_succ]

end Request

namespace Sketch
variable [Scalar α] {s t u : Sketch α} {r : RequestId} {q first second : Request} {g : GroupId} {plane : Option EntityId}
  {cut : EntityId} {curve : EntityKind α} {place : Vec3 α}

structure CutAt (first : Request) (cut : EntityId) (f : Frame α) (place : Vec3 α) (s t : Sketch α) : Prop where
  aside : Aside (s.nextRequest ≤ ·.number) s t
  lands : ∃ n, n < first.kind.pointCount ∧ cut = first.point n ∧ Lands first f n place t

structure Cut (curve : EntityKind α) (g : GroupId) (plane : Option EntityId) (place : Vec3 α) (first second : Request)
    (s t : Sketch α) : Prop where
  onward : Onward (EntityId.shift (curve.anchors first second)) s t
  pieces : ∃ kind, curve.cutInto = some kind ∧ Piece g plane kind first s t ∧ Piece g plane kind second s t
  apart : first.id = second.id ↔ curve.isClosed = true
  joined : t.Coincide g (curve.seam first second).1 (curve.seam first second).2
  stands : ∀ w, plane = some w → s.Has .workplane w
  placed : curve.cutInto ≠ some .cubic → ∀ w f, plane = some w → s.frame w = .ok f →
    CutAt first (curve.seam first second).1 f place s t

omit [Scalar α] in
theorem Piece.later {kind : RequestKind} {f : EntityId → EntityId} (h : Piece g plane kind q s t) (step : Onward f t u) :
    Piece g plane kind q s u := ⟨h.kind, h.group, h.workplane, h.new, step.requests _ q h.there⟩

theorem piecesDrawn (h : s.Firm) {kind : RequestKind} {places places' : List (Vec3 α)}
    (ok : addShape g kind plane places s = (.ok first, t)) (ok' : addShape g kind plane places' t = (.ok second, u)) :
    Onward (fun e => e) s u ∧ Piece g plane kind first s u ∧ Piece g plane kind second s u ∧ first.id ≠ second.id := by
  obtain ⟨onward, piece, below⟩ := addShapeOnward h ok
  obtain ⟨onward', piece', _⟩ := addShapeOnward onward.firm ok'
  refine ⟨onward.trans onward', piece.later onward',
    { piece' with new := Nat.le_trans onward.numbers piece'.new }, fun same => ?_⟩
  exact absurd piece'.new (Nat.not_le_of_lt (same ▸ below))

theorem seamed (h : s.Firm) (moves : List (EntityId × EntityId)) (there : s.requests.get? q.id = some q) {n : Nat}
    {b : EntityId} (ok : join (q.point n) b (s.moved moves) = (.ok (), t)) :
    Onward (EntityId.shift moves) s t ∧ t.Coincide q.group (q.point n) b ∧ ∀ touched, Aside touched s t := by
  have shifted := movedOnward h moves
  obtain ⟨onward, joined, aside⟩ := joinPiece shifted.firm (shifted.requests _ _ there) ok
  exact ⟨shifted.trans onward, joined, fun touched => (movedAside moves s touched).trans (aside touched)⟩

theorem Lands.aside {f : Frame α} {n : Nat} {touched : RequestId → Prop} (lands : Lands q f n place t)
    (aside : Aside touched t u) (free : ¬ touched q.id) : Lands q f n place u := by
  have still (k : Nat) : u.valueOf (q.param k) = t.valueOf (q.param k) := by
    have plain (c : ConstraintId) : (q.param k).owner ≠ .constraint c := by
      intro same
      cases same
    rw [valueOf, valueOf, aside.params (q.param k) plain fun r owner => ?_]
    cases owner
    exact free
  exact ⟨(still _).trans lands.x, (still _).trans lands.y⟩

section Landing
variable {kind : RequestKind} {places places' : List (Vec3 α)} {w : EntityId} {f : Frame α}

theorem cutAt (h : s.Firm) (frame : s.frame w = .ok f) (ok : addShape g kind (some w) places s = (.ok first, u))
    (few : places.length ≤ kind.pointCount) {n : Nat} (given : places[n]? = some place)
    (later : Aside (s.nextRequest < ·.number) u t) : CutAt first (first.point n) f place s t := by
  obtain ⟨aside, lands⟩ := addShapeLands h.toIntact frame few ok
  obtain ⟨rfl, shaped⟩ := addShapeOk ok
  refine ⟨(aside.mono fun r same => ?_).trans (later.mono fun r late => Nat.le_of_lt late), n, ?_, rfl, ?_⟩
  · exact same ▸ Nat.le_refl _
  · exact Nat.lt_of_lt_of_le (List.getElem?_eq_some_iff.mp given).1 few
  · exact (lands n place given).aside later (Nat.lt_irrefl _)

theorem secondAside (h : s.Firm) (frame : s.frame w = .ok f) (ok : addShape g kind (some w) places s = (.ok first, t))
    (ok' : addShape g kind (some w) places' t = (.ok second, u)) (few : places.length ≤ kind.pointCount)
    (few' : places'.length ≤ kind.pointCount) : Aside (s.nextRequest < ·.number) t u := by
  have aside := (addShapeLands h.toIntact frame few ok).1
  have firm := (addShapeOnward h ok).1.firm
  obtain ⟨rfl, shaped⟩ := addShapeOk ok
  obtain ⟨e, stands, _⟩ := frameStands frame
  have free : w.Free (· = ⟨s.nextRequest⟩) := fun r mine same => freshFree h.toIntact stands r mine (same ▸ Nat.le_refl _)
  have aside' := (addShapeLands firm.toIntact (aside.frame h.toIntact free frame) few' ok').1
  obtain ⟨rfl, _⟩ := addShapeOk ok'
  refine aside'.mono fun r same => ?_
  rw [same, shaped.nextRequest]
  exact Nat.lt_succ_self _

end Landing

theorem cutLineOk (h : s.Firm) {start finish : EntityId} (ok : cutLine g plane start finish place s = (.ok cut, t)) :
    ∃ first second, Cut (.line start finish) g plane place first second s t ∧ cut = first.point 1 := by
  obtain ⟨_, _, ok⟩ := readThen ok
  obtain ⟨_, _, ok⟩ := readThen ok
  obtain ⟨first, u, drawn, ok⟩ := bindOk.mp ok
  obtain ⟨second, v, drawn', ok⟩ := bindOk.mp ok
  have drawn := lowerOk drawn
  have drawn' := lowerOk drawn'
  obtain ⟨onward, piece, piece', apart⟩ := piecesDrawn h drawn drawn'
  have moved := redirectThen ok
  have moved := redirectThen moved
  obtain ⟨_, w, joins, last⟩ := bindOk.mp moved
  obtain ⟨rfl, rfl⟩ := pureOk.mp last
  obtain ⟨later, joined, aside⟩ := seamed onward.firm [(start, first.point 0), (finish, second.point 1)] piece.there joins
  refine ⟨first, second, ⟨onward.trans later, ⟨.line, rfl, piece.later later, piece'.later later⟩,
    iff_of_false apart Bool.false_ne_true, piece.group ▸ joined, addShapeStands drawn, fun _ w f lies frame => ?_⟩, rfl⟩
  subst lies
  exact cutAt h frame drawn (Nat.le_refl 2) rfl
    ((secondAside h frame drawn drawn' (Nat.le_refl 2) (Nat.le_refl 2)).trans (aside _))

theorem cutCircleOk (h : s.Firm) {center normal radius : EntityId}
    (ok : cutCircle g plane center place s = (.ok cut, t)) :
    ∃ arc, Cut (.circle center normal radius) g plane place arc arc s t ∧ cut = arc.point 1 := by
  obtain ⟨_, _, ok⟩ := readThen ok
  obtain ⟨arc, u, drawn, ok⟩ := bindOk.mp ok
  have drawn := lowerOk drawn
  obtain ⟨onward, piece, _⟩ := addShapeOnward h drawn
  have moved := redirectThen ok
  obtain ⟨_, w, joins, last⟩ := bindOk.mp moved
  obtain ⟨rfl, rfl⟩ := pureOk.mp last
  obtain ⟨later, joined, aside⟩ := seamed onward.firm [(center, arc.point 0)] piece.there joins
  refine ⟨arc, ⟨onward.trans later, ⟨.arc, rfl, piece.later later, piece.later later⟩, iff_of_true rfl rfl,
    piece.group ▸ joined, addShapeStands drawn, fun _ w f lies frame => ?_⟩, rfl⟩
  subst lies
  exact cutAt h frame drawn (Nat.le_refl 3) rfl (aside _)

/- The pieces of an arc keep one centre, so they are joined there first. -/
theorem cutArcOk (h : s.Firm) {center start finish normal : EntityId}
    (ok : cutArc g plane center start finish place s = (.ok cut, t)) :
    ∃ first second, Cut (.arc center start finish normal) g plane place first second s t ∧ cut = first.point 2 := by
  obtain ⟨_, _, ok⟩ := readThen ok
  obtain ⟨_, _, ok⟩ := readThen ok
  obtain ⟨_, _, ok⟩ := readThen ok
  obtain ⟨first, u, drawn, ok⟩ := bindOk.mp ok
  obtain ⟨second, v, drawn', ok⟩ := bindOk.mp ok
  have drawn := lowerOk drawn
  have drawn' := lowerOk drawn'
  obtain ⟨onward, piece, piece', apart⟩ := piecesDrawn h drawn drawn'
  have moved := redirectThen ok
  have moved := redirectThen moved
  have moved := redirectThen moved
  obtain ⟨_, w, centred, ok⟩ := bindOk.mp moved
  obtain ⟨_, x, joins, last⟩ := bindOk.mp ok
  obtain ⟨rfl, rfl⟩ := pureOk.mp last
  obtain ⟨concentric, _, aside⟩ := seamed onward.firm
    [(center, first.point 0), (start, first.point 1), (finish, second.point 2)] piece.there centred
  obtain ⟨last, joined, aside'⟩ := joinPiece concentric.firm (concentric.requests _ _ piece.there) joins
  have later := concentric.trans last
  refine ⟨first, second, ⟨onward.trans later, ⟨.arc, rfl, piece.later later, piece'.later later⟩,
    iff_of_false apart Bool.false_ne_true, piece.group ▸ joined, addShapeStands drawn, fun _ w f lies frame => ?_⟩, rfl⟩
  subst lies
  exact cutAt h frame drawn (Nat.le_refl 3) rfl
    ((secondAside h frame drawn drawn' (Nat.le_refl 3) (Nat.le_refl 3)).trans ((aside _).trans (aside' _)))

theorem cutCubicOk (h : s.Firm) {id start p1 p2 finish : EntityId}
    (ok : cutCubic g plane id start finish place s = (.ok cut, t)) :
    ∃ first second, Cut (.cubic start p1 p2 finish) g plane place first second s t ∧ cut = first.point 3 := by
  obtain ⟨pieces, _, ok⟩ := readThen ok
  split at ok
  · obtain ⟨⟨left, right⟩, _, ok⟩ := readThen ok
    obtain ⟨first, u, drawn, ok⟩ := bindOk.mp ok
    obtain ⟨second, v, drawn', ok⟩ := bindOk.mp ok
    obtain ⟨onward, piece, piece', apart⟩ := piecesDrawn h (lowerOk drawn) (lowerOk drawn')
    have moved := redirectThen ok
    have moved := redirectThen moved
    obtain ⟨_, w, joins, last⟩ := bindOk.mp moved
    obtain ⟨rfl, rfl⟩ := pureOk.mp last
    obtain ⟨later, joined, _⟩ := seamed onward.firm [(start, first.point 0), (finish, second.point 3)] piece.there joins
    exact ⟨first, second, ⟨onward.trans later, ⟨.cubic, rfl, piece.later later, piece'.later later⟩,
      iff_of_false apart Bool.false_ne_true, piece.group ▸ joined, addShapeStands (lowerOk drawn), fun other => (other rfl).elim⟩, rfl⟩
  · exact absurd ok throwOk

omit [Scalar α] in
theorem Firm.pointApart (h : s.Firm) (registered : s.requests.get? r = some q) {p : Entity α} (part : p ∈ q.entities)
    (point : p.isA .point = true) {c : ConstraintId} {k : Constraint α} (found : s.constraints.get? c = some k) :
    ∀ name ∈ k.fixedNames, name.2 ≠ p.id := by
  intro name member same
  have origin : name.2.origin = .request r := by
    rw [same, (Request.drawn part).origin, show q.id = r from h.requests.keyOfGet registered]
  obtain ⟨e, part', named, is⟩ := (h.fixed c k found name member r origin).2 q registered
  obtain rfl : e = p := List.inj_on_of_nodup_map q.entitiesDistinct part' part (named.trans same)
  rcases List.mem_append.mp member with slot | plane
  · obtain ⟨inside, other⟩ := List.mem_filter.mp slot
    rcases EntityKind.pointOnly point is with asPoint | copyable
    · simp [asPoint] at other
    · exact k.kind.slotClass name inside copyable
  · obtain ⟨w, _, rfl⟩ := List.mem_map.mp plane
    rcases EntityKind.pointOnly point is with same | same <;> cases same

variable {moves : List (EntityId × EntityId)} {c : ConstraintId} {k : Constraint α}

omit [Scalar α] in
structure LeadsAway (s : Sketch α) (r : RequestId) (moves : List (EntityId × EntityId)) : Prop where
  ends : ∀ move ∈ moves, ∃ q, s.requests.get? r = some q ∧
    ∃ p ∈ q.entities (α := α), p.id = move.1 ∧ p.isA .point = true
  away : ∀ move ∈ moves, move.2.request? ≠ some r

namespace LeadsAway

omit [Scalar α] in
theorem ours (leads : s.LeadsAway r moves) (h : s.Intact) {move : EntityId × EntityId} (member : move ∈ moves) :
    move.1.request? = some r := by
  obtain ⟨q, registered, p, part, named, _⟩ := leads.ends move member
  have same : q.id = r := h.requests.keyOfGet registered
  exact named ▸ EntityId.ofRequest.mpr (same ▸ (Request.drawn part).origin)

omit [Scalar α] in
/- No piece is put where another would be taken away. -/
theorem lookup (leads : s.LeadsAway r moves) (h : s.Intact) (e : EntityId) :
    EntityId.shift moves e = (moves.lookup e).getD e :=
  EntityId.shiftLookup (fun move member _ member' same => leads.away move member (same ▸ leads.ours h member')) e

omit [Scalar α] in
theorem names (leads : s.LeadsAway r moves) (h : s.Firm) (found : s.constraints.get? c = some k) :
    k.kind.mapPoints (EntityId.shift moves) = k.kind.on (k.kind.references.map (EntityId.shift moves)) ∧
      k.workplane.toList.map (EntityId.shift moves) = k.workplane.toList := by
  have still (name : EntityClass × EntityId) (member : name ∈ k.fixedNames) : EntityId.shift moves name.2 = name.2 := by
    refine EntityId.shiftStays fun move inside same => ?_
    obtain ⟨q, registered, p, part, named, point⟩ := leads.ends move inside
    exact h.pointApart registered part point found name member (same.trans named.symm)
  constructor
  · rw [ConstraintKind.mapPointsOn, ConstraintKind.referencesSlots, List.map_map]
    refine congrArg _ (List.map_congr_left fun slot member => ?_)
    by_cases asPoint : slot.1 = .point
    · exact if_pos asPoint
    · have fixed : slot ∈ k.fixedNames :=
        List.mem_append_left _ (List.mem_filter.mpr ⟨member, bne_iff_ne.mpr asPoint⟩)
      exact (if_neg asPoint).trans (still slot fixed).symm
  · refine (List.map_congr_left fun w member => ?_).trans (List.map_id _)
    exact still (.workplane, w) (List.mem_append_right _ (List.mem_map_of_mem member))

omit [Scalar α] in
theorem mentions (leads : s.LeadsAway r moves) (h : s.Firm) (found : s.constraints.get? c = some k) :
    ({ k with kind := k.kind.mapPoints (EntityId.shift moves) } : Constraint α).mentions r = true ↔
      ∃ e ∈ k.references, e.request? = some r ∧ e ∉ moves.map Prod.fst := by
  obtain ⟨kind, plane⟩ := leads.names h found
  have names : ({ k with kind := k.kind.mapPoints (EntityId.shift moves) } : Constraint α).references =
      k.references.map (EntityId.shift moves) := by
    rw [Constraint.references, Constraint.references, kind, ConstraintKind.onReferences, List.map_append, plane]
  rw [Constraint.mentions, names, List.any_map, List.any_eq_true]
  refine exists_congr fun e => and_congr_right fun _ => ?_
  rw [Function.comp_apply, beq_iff_eq]
  exact EntityId.shiftMine leads.away e

variable (leads : s.LeadsAway r moves) (h : s.Firm) (onward : Onward (EntityId.shift moves) s u) (erased : Erased r u t)
  (after : t.Intact)
include leads h onward erased after

omit [Scalar α] in
theorem held (found : s.constraints.get? c = some k)
    (only : ∀ e ∈ k.references, e.request? = some r → e ∈ moves.map Prod.fst) : t.constraints.get? c = some { k with
      kind := k.kind.on (k.kind.references.map fun e => (moves.lookup e).getD e) } := by
  have apart : ({ k with kind := k.kind.mapPoints (EntityId.shift moves) } : Constraint α).mentions r = false := by
    rw [← Bool.not_eq_true, leads.mentions h found]
    intro named
    obtain ⟨e, member, same, free⟩ := named
    exact free (only e member same)
  have moved := erased.keeps onward.firm.toIntact after (onward.constraints c k found) apart
  rwa [(leads.names h found).1, List.map_congr_left fun e _ => leads.lookup h.toIntact e] at moved

omit [Scalar α] in
theorem others (found : s.constraints.get? c = some k) (apart : k.mentions r = false) : t.constraints.get? c = some k := by
  have none : ∀ e ∈ k.references, e.request? ≠ some r :=
    fun e member same => nomatch apart.symm.trans (mentionsOf member same)
  have stays : ∀ e ∈ k.kind.references, (moves.lookup e).getD e = e := by
    intro e member
    refine (leads.lookup h.toIntact e).symm.trans (EntityId.shiftStays fun move inside same => ?_)
    exact none e (List.mem_append_left _ member) (same ▸ leads.ours h.toIntact inside)
  have there := leads.held h onward erased after found fun e member same => absurd same (none e member)
  rwa [List.map_congr_left stays, List.map_id', ConstraintKind.onSame] at there

omit [Scalar α] in
theorem dropped (found : s.constraints.get? c = some k)
    (named : ∃ e ∈ k.references, e.request? = some r ∧ e ∉ moves.map Prod.fst) : t.constraints.get? c = none :=
  erased.drops onward.firm.toIntact after (onward.constraints c k found) ((leads.mentions h found).mpr named)

end LeadsAway

/-- A curve has given way to its pieces. Constraints that held it by its anchors alone hold them instead, those that
named anything else of it are gone, and all others are as they were. -/
structure Recut (r : RequestId) (curve : EntityKind α) (g : GroupId) (plane : Option EntityId) (first second : Request)
    (s t : Sketch α) : Prop where
  pieces : ∃ kind, curve.cutInto = some kind ∧ Piece g plane kind first s t ∧ Piece g plane kind second s t
  apart : first.id = second.id ↔ curve.isClosed = true
  joined : t.Coincide g (curve.seam first second).1 (curve.seam first second).2
  others : ∀ c k, s.constraints.get? c = some k → k.mentions r = false → t.constraints.get? c = some k
  held : ∀ c k, s.constraints.get? c = some k →
    (∀ e ∈ k.references, e.request? = some r → e ∈ (curve.anchors first second).map Prod.fst) →
    t.constraints.get? c = some { k with
      kind := k.kind.on (k.kind.references.map fun e => ((curve.anchors first second).lookup e).getD e) }
  dropped : ∀ c k, s.constraints.get? c = some k →
    (∃ e ∈ k.references, e.request? = some r ∧ e ∉ (curve.anchors first second).map Prod.fst) →
    t.constraints.get? c = none
  gone : t.requests.get? r = none ∧ ∀ e ∈ t.entities.toList, e.id.request? ≠ some r

omit [Scalar α] in
theorem Erased.coincide (erased : Erased r s t) (h : s.Firm) (after : t.Intact) (registered : s.requests.get? r = some q)
    (flat : q.kind ≠ .workplane) {a b : EntityId} (apart : a.request? ≠ some r) (apart' : b.request? ≠ some r)
    (joined : s.Coincide g a b) : t.Coincide g a b := by
  obtain ⟨c, k, found, group, joins⟩ := joined
  refine ⟨c, k, erased.keeps h.toIntact after found ?_, group, joins⟩
  rw [Constraint.mentions, List.any_eq_false]
  intro e member same
  have mine : e.request? = some r := beq_iff_eq.mp same
  rcases List.mem_append.mp member with named | plane
  · rcases joins with kind | kind <;>
      simp only [kind, ConstraintKind.references, List.mem_cons, List.not_mem_nil, or_false] at named <;>
      rcases named with rfl | rfl
    · exact apart mine
    · exact apart' mine
    · exact apart' mine
    · exact apart mine
  · have fixed := h.fixed c k found (.workplane, e) (List.mem_append_right _ (List.mem_map_of_mem plane))
    obtain ⟨_, parts⟩ := fixed r (EntityId.ofRequest.mp mine)
    obtain ⟨e', part, _, is⟩ := parts q registered
    exact flat (q.workplaneDrawn e' part is)

omit [Scalar α] in
/- The pieces are new, so none is of the request. -/
theorem Piece.apart {kind : RequestKind} {p : Request} (h : s.Intact) (registered : s.requests.get? r = some q)
    (piece : Piece g plane kind p s u) : p.id ≠ r := by
  intro same
  exact absurd (h.requestNumbers r q registered) (Nat.not_lt_of_le (same ▸ piece.new))

theorem Cut.elsewhere (h : s.Intact) (registered : s.requests.get? r = some q)
    (cut : Cut curve g plane place first second s u) {p : EntityId}
    (either : p.request? = some first.id ∨ p.request? = some second.id) : p.request? ≠ some r := by
  obtain ⟨kind, _, piece, piece'⟩ := cut.pieces
  intro mine
  rcases either with same | same
  · exact piece.apart h registered (Option.some.inj (same.symm.trans mine))
  · exact piece'.apart h registered (Option.some.inj (same.symm.trans mine))

theorem Cut.leads (h : s.Intact) {e : Entity α} (registered : s.requests.get? r = some q) (part : e ∈ q.entities)
    (cut : Cut e.kind g plane place first second s u) : s.LeadsAway r (e.kind.anchors first second) where
  ends move member := ⟨q, registered, q.pointsDrawn e part move.1 (e.kind.anchorsHeld move member)⟩
  away move member := cut.elsewhere h registered (e.kind.anchorsMoved move member)

theorem recut (h : s.Firm) {e : Entity α} (registered : s.requests.get? r = some q) (part : e ∈ q.entities)
    (cut : Cut e.kind g plane place first second s u) (erased : Erased r u t) (after : t.Intact) :
    Recut r e.kind g plane first second s t := by
  have leads := cut.leads h.toIntact registered part
  have still := cut.onward.requests r q registered
  obtain ⟨kind, into, piece, piece'⟩ := cut.pieces
  have kept {p : Request} (piece : Piece g plane kind p s u) : Piece g plane kind p s t :=
    { piece with there := erased.request after piece.there rfl (piece.apart h.toIntact registered) }
  obtain ⟨seam, seam'⟩ := e.kind.seamPieces first second
  have joined := erased.coincide cut.onward.firm after still (q.curveDrawn e part (into ▸ rfl))
    (cut.elsewhere h.toIntact registered (.inl seam)) (cut.elsewhere h.toIntact registered seam') cut.joined
  refine ⟨⟨kind, into, kept piece, kept piece'⟩, cut.apart, joined, fun c k => ?_, fun c k => ?_, fun c k => ?_,
    erased.gone after, fun e member => ?_⟩
  · exact leads.others h cut.onward erased after
  · exact leads.held h cut.onward erased after
  · exact leads.dropped h cut.onward erased after
  · rw [erased.entities] at member
    exact bne_iff_ne.mp (List.mem_filter.mp member).2

theorem splitEntityCuts (h : s.Firm) {id : EntityId} {e : Entity α} (found : s.entities.get? id = some e)
    (ok : splitEntity id place s = (.ok cut, t)) : ∃ r q first second u, id.request? = some r ∧
      s.requests.get? r = some q ∧ e ∈ q.entities ∧ Cut e.kind e.group e.workplane place first second s u ∧
      cut = (e.kind.seam first second).1 ∧ (if q.construction then t = u else deleteRequest r u = (.ok (), t)) := by
  obtain ⟨e', there, ok⟩ := readThen ok
  obtain rfl := Option.some.inj (found.symm.trans (entityFound.mp there))
  obtain ⟨r, named, ok⟩ := foundThen ok
  obtain ⟨q, registered, ok⟩ := readThen ok
  have registered := requestFound.mp registered
  obtain ⟨q', registered', part⟩ := h.drawn id e r found (EntityId.ofRequest.mp named)
  obtain rfl := Option.some.inj (registered.symm.trans registered')
  have cleared {curve : EntityKind α} {x : EntityId} {u : Sketch α}
      (made : ∃ first second, Cut curve e.group e.workplane place first second s u ∧ x = (curve.seam first second).1)
      (rest : (do
        if !q.construction then
          lower (deleteRequest r)
        return x : Edit α CurveError EntityId) u = (.ok cut, t)) :
      ∃ r q first second u, id.request? = some r ∧ s.requests.get? r = some q ∧ e ∈ q.entities ∧
        Cut curve e.group e.workplane place first second s u ∧ cut = (curve.seam first second).1 ∧
        (if q.construction then t = u else deleteRequest r u = (.ok (), t)) := by
    obtain ⟨first, second, whole, same⟩ := made
    refine ⟨r, q, first, second, u, named, registered, part, whole, ?_⟩
    cases kept : q.construction with
    | true =>
      rw [kept] at rest
      obtain ⟨rfl, rfl⟩ := pureOk.mp rest
      exact ⟨same, rfl⟩
    | false =>
      rw [kept] at rest
      obtain ⟨_, v, gone, last⟩ := bindOk.mp rest
      obtain ⟨rfl, rfl⟩ := pureOk.mp last
      exact ⟨same, lowerOk gone⟩
  dsimp only at ok
  split at ok
  · exact absurd ok throwOk
  · cases kind : e.kind with
    | line =>
      rw [kind] at ok
      obtain ⟨x, u, made, rest⟩ := bindOk.mp ok
      exact cleared (cutLineOk h made) rest
    | circle =>
      rw [kind] at ok
      obtain ⟨x, u, made, rest⟩ := bindOk.mp ok
      obtain ⟨arc, whole, same⟩ := cutCircleOk h made
      exact cleared ⟨arc, arc, whole, same⟩ rest
    | arc =>
      rw [kind] at ok
      obtain ⟨x, u, made, rest⟩ := bindOk.mp ok
      exact cleared (cutArcOk h made) rest
    | cubic =>
      rw [kind] at ok
      obtain ⟨x, u, made, rest⟩ := bindOk.mp ok
      exact cleared (cutCubicOk h made) rest
    | _ =>
      rw [kind] at ok
      exact absurd ok throwOk

theorem deletedErases (h : s.Firm) (found : s.requests.get? r = some q) (ok : deleteRequest r s = (.ok (), t)) :
    Erased r s t ∧ t.Firm := by
  obtain ⟨t', done, erased⟩ := deleteRequestErases h.toIntact found
  cases ok.symm.trans done
  have steps := deleteRequestGradual (R := KeepsFirm) r s
  rw [ok] at steps
  exact ⟨erased, Session.keepsAll steps h⟩

theorem splitRecuts (h : s.Firm) {id : EntityId} {e : Entity α} (found : s.entities.get? id = some e)
    (drawn : e.construction = false) (ok : splitEntity id place s = (.ok cut, t)) :
    ∃ r first second, id.request? = some r ∧ Recut r e.kind e.group e.workplane first second s t ∧
      cut = (e.kind.seam first second).1 ∧
      ∀ p, s.requests.get? p.id = some p → p.id ≠ r → t.requests.get? p.id = some p := by
  obtain ⟨r, q, first, second, u, named, registered, part, made, same, gone⟩ := splitEntityCuts h found ok
  have plain : q.construction = false := (Request.drawn part).construction ▸ drawn
  rw [plain] at gone
  obtain ⟨erased, after⟩ := deletedErases made.onward.firm (made.onward.requests r q registered) gone
  refine ⟨r, first, second, named, recut h registered part made erased after.toIntact, same, fun p there other => ?_⟩
  exact erased.request after.toIntact (made.onward.requests p.id p there) rfl other

end Sketch

namespace Session
open Sketch
variable [Scalar α] {config : EngineConfig α} {s : Session α}

theorem splitConserves (h : Reached config s) {id cut : EntityId} {e : Entity α} {place : Vec3 α} {t : Sketch α}
    (found : s.sketch.entities.get? id = some e) (drawn : e.construction = false)
    (ok : splitEntity id place s.sketch = (.ok cut, t)) :
    ∃ r first second, id.request? = some r ∧ Recut r e.kind e.group e.workplane first second s.sketch t ∧
      cut = (e.kind.seam first second).1 := by
  obtain ⟨r, first, second, named, whole, same, _⟩ := splitRecuts (reachedFirm h).1 found drawn ok
  exact ⟨r, first, second, named, whole, same⟩

/-! A circle in a workplane. It can be opened anywhere. -/

end Session

namespace Sketch
variable [Scalar α] {s : Sketch α} {e : Entity α} {q : Request} {id w : EntityId}

theorem positionThere (h : s.Furnished) (found : s.entities.get? id = some e) (point : e.isA .point = true)
    (stands : ∀ w, e.workplane = some w → s.Has .workplane w) : ∃ v, s.position id = .ok v := by
  cases placed : s.pointExpr id with
  | ok v =>
    refine ⟨v.eval s.valueOf, ?_⟩
    rw [position, placed]
    rfl
  | error cause =>
    obtain ⟨w, lies, lost⟩ := (pointFails h.toIntact h.grounded found point).mp placed
    obtain ⟨e', there, is⟩ := stands w lies
    rcases lost with missing | ⟨found', differs⟩
    · cases there.symm.trans missing
    · cases there.symm.trans found'
      cases is.symm.trans differs

omit [Scalar α] in
theorem Drawable.hasPoint (h : Drawable q s) {n : Nat} (few : n < q.kind.pointCount) :
    ∃ e, s.entities.get? (q.point n) = some e ∧ e.isA .point = true ∧ e.DrawnBy q := by
  obtain ⟨e, part, named, is⟩ := Sketch.Request.pointThere q n few
  exact ⟨e, named ▸ h.furnished.present q.id q h.there e part, is, Request.drawn part⟩

omit [Scalar α] in
theorem Drawable.hasCircle (h : Drawable q s) (round : q.kind = .circle) :
    s.entities.get? q.entity = some (q.part q.entity (.circle (q.point 0) q.normal q.distance)) := by
  have part : q.part q.entity (.circle (q.point 0) q.normal q.distance) ∈ q.entities (α := α) := by
    simp [Request.entities, round]
  exact h.furnished.present q.id q h.there _ part

omit [Scalar α] in
theorem Drawable.rejoins (h : Drawable q s) : s.Rejoins q.group q.workplane where
  furnished := h.furnished
  group := h.furnished.requestGroups q.id q h.there
  plane := h.plane

omit [Scalar α] in
theorem Rejoins.allows {g : GroupId} {w : EntityId} (h : s.Rejoins g (some w)) {kind : RequestKind} (flat : kind ≠ .workplane) :
    s.checkRequest g kind (some w) = .ok () := by
  obtain ⟨r, group⟩ := h.group
  obtain ⟨e, stands, is⟩ := h.plane w rfl
  refine Result.bindOk.mpr ⟨r, groupFound.mpr group, Result.bindOk.mpr ⟨e, entityFound.mpr stands, ?_⟩⟩
  rw [is]
  cases kind with
  | workplane => exact absurd rfl flat
  | _ => rfl

theorem Drawable.joins (h : Drawable q s) {n : Nat} (few : n < q.kind.pointCount) {b : EntityId} (other : s.Has .point b) :
    join (q.point n) b s = (.ok (), s.joined q.group q.workplane (q.point n) b) := by
  obtain ⟨a, found, is, drawn⟩ := h.hasPoint few
  have run := joinRun h.rejoins ⟨a, found, is⟩ other
  refine bindOk.mpr ⟨a, s, readOk.mpr ⟨entityFound.mpr found, rfl⟩, bindOk.mpr ⟨⟨s.nextConstraint⟩, _, ?_, rfl⟩⟩
  rw [drawn.group, drawn.workplane, lower, run]

theorem circleCuts (h : Drawable q s) (round : q.kind = .circle) (lies : q.workplane = some w) (place : Vec3 α) :
    ∃ cut t, cutCircle q.group q.workplane (q.point 0) place s = (.ok cut, t) ∧ t.Intact ∧
      t.requests.get? q.id = some q := by
  have allowed : s.checkRequest q.group .arc q.workplane = .ok () := lies ▸ (lies ▸ h.rejoins).allows nofun
  obtain ⟨center, there, point, drawn⟩ := h.hasPoint (show 0 < q.kind.pointCount by rw [round]; decide)
  obtain ⟨c, centred⟩ := positionThere h.furnished there point fun w' lies' => h.plane w' (drawn.workplane ▸ lies')
  obtain ⟨u, shape, arc⟩ := shapeDrawn h.furnished allowed [c, place, place] (Nat.le_refl 3)
  let p : Request := ⟨⟨s.nextRequest⟩, q.group, q.workplane, .arc, false⟩
  have steps : Adjustments u (u.replacePoint (q.point 0) (p.point 0)).2 := replacePointGradual u _ _
  have moved := arc.adjusted steps
  obtain ⟨b, finish, is, _⟩ := moved.hasPoint (show 2 < 3 by decide)
  have seam := moved.joins (show 1 < 3 by decide) ⟨b, finish, is⟩
  have joined := joinGradual (R := Adjustment) (p.point 1) (p.point 2) (u.replacePoint (q.point 0) (p.point 0)).2
  rw [seam] at joined
  refine ⟨p.point 1, _, ?_, Adjustments.intact joined moved.furnished.toIntact, ?_⟩
  · refine bindOk.mpr ⟨c, s, readOk.mpr ⟨centred, rfl⟩, bindOk.mpr ⟨p, u, by rw [lower, shape], ?_⟩⟩
    exact bindOk.mpr ⟨(), _, modifyOk.mpr rfl, bindOk.mpr ⟨(), _, seam, rfl⟩⟩
  · rw [Adjustments.requests joined, steps.requests]
    exact (addShapeOk shape).2.keeps h.furnished.toIntact h.there

theorem circleSplits (h : Drawable q s) (round : q.kind = .circle) (lies : q.workplane = some w) (place : Vec3 α) :
    ∃ cut t, splitEntity q.entity place s = (.ok cut, t) := by
  let e : Entity α := q.part q.entity (.circle (q.point 0) q.normal q.distance)
  obtain ⟨cut, u, made, intact, still⟩ := circleCuts h round lies place
  obtain ⟨t, gone, _⟩ := deleteRequestErases intact still
  refine ⟨cut, if q.construction then u else t, ?_⟩
  refine bindOk.mpr ⟨e, s, readOk.mpr ⟨entityFound.mpr (h.hasCircle round), rfl⟩, bindOk.mpr ⟨q.id, s, rfl, ?_⟩⟩
  refine bindOk.mpr ⟨q, s, readOk.mpr ⟨requestFound.mpr h.there, rfl⟩, ?_⟩
  have inside : ¬ e.workplane.isNone = true := by simp [e, Request.part, lies]
  dsimp only
  rw [if_neg inside]
  refine bindOk.mpr ⟨cut, u, made, ?_⟩
  cases q.construction with
  | true => rfl
  | false => exact bindOk.mpr ⟨(), t, by rw [lower, gone], rfl⟩

end Sketch

namespace Session
open Sketch
variable [Scalar α]

theorem Reached.drawn {config : EngineConfig α} {s : Session α} (h : Reached config s) {g : GroupId} {kind : RequestKind}
    {plane : Option EntityId} (allowed : s.sketch.checkRequest g kind plane = .ok ()) :
    ∃ t, Reached config (s.withSketch t) ∧ Drawable ⟨⟨s.sketch.nextRequest⟩, g, plane, kind, false⟩ t ∧
      Shaped ⟨⟨s.sketch.nextRequest⟩, g, plane, kind, false⟩ s.sketch t := by
  obtain ⟨t, run, drawable⟩ := drawableAdded (reachedFurnished h).1 allowed false
  exact ⟨t, h.edited (c := .addRequest g kind plane false) rfl run, drawable, (addRequestShapes run).2⟩

def hoop : Request := ⟨⟨2⟩, ⟨1⟩, some tilted.entity, .circle, false⟩

structure Hooped (s : Sketch α) : Prop where
  circle : Drawable hoop s
  plane : Drawable tilted s
  constraints : s.constraints = {}
  nextRequest : s.nextRequest = 3

theorem sheetReached (config : EngineConfig α) : ∃ s : Session α, Reached config s ∧
    (∃ g, s.sketch.groups.get? ⟨1⟩ = some g) ∧ s.sketch.constraints = {} ∧ s.sketch.nextRequest = 1 := by
  let group : Group α := { id := ⟨1⟩, name := "drawing", kind := .drawing3d }
  let sheet := ({} : Sketch α).withGroup "drawing" .drawing3d none
  have added : addGroup "drawing" .drawing3d none ({} : Sketch α) = (.ok ⟨1⟩, sheet.regrown group ⟨{}, #[]⟩) :=
    addGroupRun Sketch.startIntact.groups rfl (Sketch.startIntact.groups.getAddSelf group) rfl
  refine ⟨_, Reached.start.edited (c := .addGroup "drawing" .drawing3d none) rfl added, ⟨group, ?_⟩, rfl, rfl⟩
  have groups := (regrownSpec (s := sheet) Sketch.startIntact.params (fitsNone group)).groups
  change (sheet.regrown group ⟨{}, #[]⟩).groups.get? _ = _
  rw [groups]
  exact Sketch.startIntact.groups.getAddSelf group

omit [Scalar α] in
theorem tiltedStands {s : Sketch α} (h : Drawable tilted s) : s.Has .workplane tilted.entity := by
  have part : tilted.part tilted.entity (.workplane (tilted.point 0) tilted.normal) ∈ tilted.entities (α := α) := by
    simp [Request.entities, tilted]
  exact ⟨_, h.furnished.present _ tilted h.there _ part, rfl⟩

theorem hoopReached (config : EngineConfig α) : ∃ s : Session α, Reached config s ∧ Hooped s.sketch := by
  obtain ⟨s, reached, ⟨g, group⟩, constraints, next⟩ := sheetReached config
  have allowed : s.sketch.checkRequest ⟨1⟩ .workplane none = .ok () := Result.bindOk.mpr ⟨g, groupFound.mpr group, rfl⟩
  obtain ⟨t, reached, plane, shaped⟩ := reached.drawn allowed
  rw [next] at plane shaped
  have rejoins : t.Rejoins ⟨1⟩ (some tilted.entity) :=
    ⟨plane.furnished, plane.rejoins.group, fun w same => Option.some.inj same ▸ tiltedStands plane⟩
  have allowed : t.checkRequest ⟨1⟩ .circle (some tilted.entity) = .ok () := rejoins.allows nofun
  obtain ⟨u, reached, circle, shaped'⟩ := reached.drawn allowed
  have second : t.nextRequest = 2 := by rw [shaped.nextRequest, next]
  have name : (⟨⟨t.nextRequest⟩, ⟨1⟩, some tilted.entity, .circle, false⟩ : Request) = hoop := by
    rw [second]
    rfl
  change Drawable ⟨⟨t.nextRequest⟩, ⟨1⟩, some tilted.entity, .circle, false⟩ u at circle
  change Shaped ⟨⟨t.nextRequest⟩, ⟨1⟩, some tilted.entity, .circle, false⟩ t u at shaped'
  rw [name] at circle shaped'
  have still := shaped'.keeps plane.furnished.toIntact plane.there
  refine ⟨_, reached, circle, ⟨circle.furnished, still, nofun⟩, ?_, ?_⟩
  · exact shaped'.constraints.trans (shaped.constraints.trans constraints)
  · exact shaped'.nextRequest.trans (congrArg (· + 1) second)

theorem hoopConserves : ∃ (s : Session Float) (e : Entity Float) (place : Vec3 Float) (cut : EntityId) (t : Sketch Float)
    (first second : Request) (c : Constraint Float), Reached .standard s ∧ s.sketch.entities.get? hoop.entity = some e ∧
    e.construction = false ∧ splitEntity hoop.entity place s.sketch = (.ok cut, t) ∧
    Recut hoop.id e.kind e.group e.workplane first second s.sketch t ∧ cut = (e.kind.seam first second).1 ∧
    s.sketch.constraints.get? c.id = some c ∧ c.kind = .pointsCoincident (hoop.point 0) (tilted.point 0) ∧
    t.constraints.get? c.id = some { c with kind := .pointsCoincident (first.point 0) (tilted.point 0) } := by
  obtain ⟨s, reached, known⟩ := hoopReached (α := Float) .standard
  obtain ⟨a, found, is, _⟩ := known.circle.hasPoint (show 0 < 1 by decide)
  obtain ⟨b, found', is', _⟩ := known.plane.hasPoint (show 0 < 1 by decide)
  let kind : ConstraintKind Float := .pointsCoincident (hoop.point 0) (tilted.point 0)
  let c : Constraint Float := ⟨⟨s.sketch.nextConstraint⟩, ⟨1⟩, none, kind, false⟩
  let u := s.sketch.joined ⟨1⟩ none (hoop.point 0) (tilted.point 0)
  have run : addConstraint ⟨1⟩ none kind false s.sketch = (.ok c.id, u) :=
    joinRun known.plane.rejoins ⟨a, found, is⟩ ⟨b, found', is'⟩
  have steps := addConstraintGradual ⟨1⟩ none kind false s.sketch
  rw [run] at steps
  have circle : Drawable hoop u := known.circle.adjusted steps
  have reached : Reached .standard (s.withSketch u) := reached.edited (c := .addConstraint ⟨1⟩ none kind false) rfl run
  let e : Entity Float := hoop.part hoop.entity (.circle (hoop.point 0) hoop.normal hoop.distance)
  have whole : u.entities.get? hoop.entity = some e := circle.hasCircle rfl
  obtain ⟨cut, t, ok⟩ := circleSplits circle rfl rfl ⟨1.0, 0.0, 0.0⟩
  obtain ⟨r, first, second, mine, recut, seam⟩ := splitConserves reached whole rfl ok
  obtain rfl : hoop.id = r := Option.some.inj mine
  have held : u.constraints.get? c.id = some c := known.circle.furnished.constraints.getAddSelf c
  refine ⟨s.withSketch u, e, _, cut, t, first, second, c, reached, whole, rfl, ok, recut, seam, held, rfl, ?_⟩
  refine recut.held c.id c held fun e' member named => ?_
  simp only [Constraint.references, ConstraintKind.references, c, kind, Option.toList_none, List.append_nil, List.mem_cons,
    List.not_mem_nil, or_false] at member
  rcases member with rfl | rfl
  · exact List.mem_singleton_self _
  · exact absurd named (by decide)

end Session
end Drafting
