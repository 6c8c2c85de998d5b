import Drafting.Proofs.Forcing
/-! Symmetry. The residuals of a symmetry in space are the height of the middle over the plane and the products of the
difference with two axes within it: with the normal the axes span space, so all vanish just where one place is the
mirror image of the other. The axes of a workplane are images of the axes of space, those of a swept face its line and
what is at right angles to that. In a workplane the coordinates of the places are compared. -/
namespace Drafting
open Result

namespace Vec3
variable {o n u w a b : Vec3 ℝ}

theorem zeroAdd : zero + a = a := by
  rcases a with ⟨x, y, z⟩
  simp only [zero, mkAdd, exactZero, zero_add]

theorem subEq : a - b = w ↔ b = a - w := by
  rcases a with ⟨ax, ay, az⟩
  rcases b with ⟨bx, ty, bz⟩
  rcases w with ⟨wx, wy, wz⟩
  simp only [mkSub, mk.injEq]
  constructor
  · rintro ⟨x, y, z⟩
    exact ⟨by linarith, by linarith, by linarith⟩
  · rintro ⟨x, y, z⟩
    exact ⟨by linarith, by linarith, by linarith⟩

noncomputable def mirror (o n p : Vec3 ℝ) : Vec3 ℝ := p - n.scale (2.0 * (p - o).dot n / n.dot n)

structure Spans (n u w : Vec3 ℝ) : Prop where
  unit : n.dot n = 1
  first : n.dot u = 0
  second : n.dot w = 0
  whole : ∀ d : Vec3 ℝ, u.scale (d.dot u) + w.scale (d.dot w) + n.scale (d.dot n) = d

theorem mirrorScale (long : n.dot n ≠ 0) {k : ℝ} (some : k ≠ 0) : mirror o (n.scale k) a = mirror o n a := by
  have square : (n.scale k).dot (n.scale k) = n.dot n * k * k := by rw [scaleDot, dotComm, scaleDot]
  have factor : 2 * ((a - o).dot n * k) / (n.dot n * k * k) * k = 2 * (a - o).dot n / n.dot n := by field_simp
  have along : (a - o).dot (n.scale k) = (a - o).dot n * k := by rw [dotComm, scaleDot, dotComm]
  have twice (x : ℝ) : (n.scale k).scale x = n.scale (x * k) := by
    simp only [scale, mk.injEq]
    refine ⟨?_, ?_, ?_⟩ <;> ring
  rw [mirror, mirror, along, square, twice, exactTwo, factor]

theorem Spans.mirrorIff (spans : Spans n u w) :
    (((a + b).scale (1 / 2) - o).dot n = 0 ∧ (a - b).dot u = 0 ∧ (a - b).dot w = 0) ↔ b = mirror o n a := by
  rw [mirror, spans.unit, div_one, exactTwo]
  constructor
  · rintro ⟨level, first, second⟩
    -- The difference is along the normal, and twice as long as the height.
    have along := spans.whole (a - b)
    rw [first, second, scaleNone, scaleNone] at along
    have size : (a - b).dot n = 2 * (a - o).dot n := by
      rw [subDot, scaleDot, addDot] at level
      rw [subDot, subDot]
      linarith
    rw [size, zeroAdd, zeroAdd] at along
    exact subEq.mp along.symm
  · intro image
    have apart : a - b = n.scale (2 * (a - o).dot n) := subEq.mpr image
    refine ⟨?_, ?_, ?_⟩
    · have size : (a - b).dot n = 2 * (a - o).dot n := by
        rw [apart, scaleDot, spans.unit, one_mul]
      rw [subDot, subDot] at size
      rw [subDot, scaleDot, addDot]
      linarith
    · rw [apart, scaleDot, spans.first, zero_mul]
    · rw [apart, scaleDot, spans.second, zero_mul]

theorem spansOfCross (nn : n.dot n = 1) (uu : u.dot u = 1) (across : n.dot u = 0) : Spans n u (n.cross u) where
  unit := nn
  first := across
  second := by
    simp only [dot, cross]
    ring
  whole d := by
    -- The square of the product times the vector, by the rule for products of three vectors.
    rcases n with ⟨nx, ny, nz⟩
    rcases u with ⟨ux, uy, uz⟩
    rcases d with ⟨x, y, z⟩
    simp only [dot, cross, scale, mkAdd, mk.injEq] at *
    refine ⟨?_, ?_, ?_⟩
    · linear_combination (x * (ux * ux + uy * uy + uz * uz) - ux * (x * ux + y * uy + z * uz)) * nn +
        (x - nx * (x * nx + y * ny + z * nz)) * uu + (nx * (x * ux + y * uy + z * uz) +
          ux * (x * nx + y * ny + z * nz) - x * (nx * ux + ny * uy + nz * uz)) * across
    · linear_combination (y * (ux * ux + uy * uy + uz * uz) - uy * (x * ux + y * uy + z * uz)) * nn +
        (y - ny * (x * nx + y * ny + z * nz)) * uu + (ny * (x * ux + y * uy + z * uz) +
          uy * (x * nx + y * ny + z * nz) - y * (nx * ux + ny * uy + nz * uz)) * across
    · linear_combination (z * (ux * ux + uy * uy + uz * uz) - uz * (x * ux + y * uy + z * uz)) * nn +
        (z - nz * (x * nx + y * ny + z * nz)) * uu + (nz * (x * ux + y * uy + z * uz) +
          uz * (x * nx + y * ny + z * nz) - z * (nx * ux + ny * uy + nz * uz)) * across

end Vec3

namespace Vec2
variable {p d a b : Vec2 ℝ}

noncomputable def mirror (p d a : Vec2 ℝ) : Vec2 ℝ := p + p + d.scale (2.0 * (a - p).dot d / d.dot d) - a

theorem mirrorIff (long : d.dot d ≠ 0) :
    d.perpDot ((a + b).scale (1 / 2) - p) = 0 ∧ (a - b).dot d = 0 ↔ b = mirror p d a := by
  rw [mirror, exactTwo]
  rcases p with ⟨px, py⟩
  rcases d with ⟨dx, dy⟩
  rcases a with ⟨ax, ay⟩
  rcases b with ⟨bx, ty⟩
  change dx * ((ay + ty) * (1 / 2) - py) - dy * ((ax + bx) * (1 / 2) - px) = 0 ∧ (ax - bx) * dx + (ay - ty) * dy = 0 ↔
    (⟨bx, ty⟩ : Vec2 ℝ) = ⟨px + px + dx * (2 * ((ax - px) * dx + (ay - py) * dy) / (dx * dx + dy * dy)) - ax,
      py + py + dy * (2 * ((ax - px) * dx + (ay - py) * dy) / (dx * dx + dy * dy)) - ay⟩
  change dx * dx + dy * dy ≠ 0 at long
  have whole := div_mul_cancel₀ (2 * ((ax - px) * dx + (ay - py) * dy)) long
  generalize 2 * ((ax - px) * dx + (ay - py) * dy) / (dx * dx + dy * dy) = k at whole ⊢
  rw [mk.injEq]
  constructor
  · rintro ⟨along, across⟩
    refine ⟨mul_right_cancel₀ long ?_, mul_right_cancel₀ long ?_⟩
    · linear_combination -dx * across - 2 * dy * along - dx * whole
    · linear_combination -dy * across + 2 * dx * along - dy * whole
  · rintro ⟨x, y⟩
    constructor
    · linear_combination dx / 2 * y - dy / 2 * x
    · linear_combination -dx * x - dy * y - whole

theorem apartSquare (apart : a ≠ b) : (b - a).dot (b - a) ≠ 0 := by
  rcases a with ⟨ax, ay⟩
  rcases b with ⟨bx, ty⟩
  change (bx - ax) * (bx - ax) + (ty - ay) * (ty - ay) ≠ 0
  intro none
  have x : bx - ax = 0 := by nlinarith only [none, mul_self_nonneg (bx - ax), mul_self_nonneg (ty - ay)]
  have y : ty - ay = 0 := by nlinarith only [none, mul_self_nonneg (bx - ax), mul_self_nonneg (ty - ay)]
  exact apart (by rw [sub_eq_zero.mp x, sub_eq_zero.mp y])

end Vec2

namespace Frame
variable (f : Frame ℝ) (a b p : Vec3 ℝ)

theorem projectSub : f.project a - f.project b = ⟨(a - b).dot f.u, (a - b).dot f.v⟩ := by
  change (⟨(a - f.origin).dot f.u - (b - f.origin).dot f.u, (a - f.origin).dot f.v - (b - f.origin).dot f.v⟩ : Vec2 ℝ) = _
  simp only [Vec3.subDot, sub_sub_sub_cancel_right]

theorem projectLevel : (⟨⟨0, 0, 0⟩, .identity⟩ : Frame ℝ).project p = ⟨p.x, p.y⟩ := by
  change (⟨(p - ⟨0, 0, 0⟩).dot (Quat.identity.rotate .unitX), (p - ⟨0, 0, 0⟩).dot (Quat.identity.rotate .unitY)⟩ : Vec2 ℝ) = _
  rcases p with ⟨px, py, pz⟩
  simp [Vec3.mkSub, Vec3.dot, Vec3.unitX, Vec3.unitY]

theorem projectMiddle : (f.project a + f.project b).scale (1 / 2) - f.project p =
    ⟨((a + b).scale (1 / 2) - p).dot f.u, ((a + b).scale (1 / 2) - p).dot f.v⟩ := by
  change (⟨((a - f.origin).dot f.u + (b - f.origin).dot f.u) * (1 / 2) - (p - f.origin).dot f.u,
    ((a - f.origin).dot f.v + (b - f.origin).dot f.v) * (1 / 2) - (p - f.origin).dot f.v⟩ : Vec2 ℝ) = _
  simp only [Vec3.subDot, Vec3.scaleDot, Vec3.addDot, Vec2.mk.injEq]
  constructor <;> ring

end Frame

theorem Quat.imagesSpan {q : Quat ℝ} (unit : q.length = 1) :
    Vec3.Spans (q.rotate .unitZ) (q.rotate .unitX) (q.rotate .unitY) where
  unit := normalSquare unit
  first := Vec3.dotComm.trans q.rotateAcross.1
  second := Vec3.dotComm.trans q.rotateAcross.2
  whole := rotateBack unit

namespace Vec3
variable {a d : Vec3 ℝ}

theorem sweptSpans (area : (a.cross d).dot (a.cross d) ≠ 0) : 0 < a.length ∧ 0 < (a.cross d).length ∧
    Spans (a.cross d).normalizeOrZero a.normalizeOrZero ((a.cross d).normalizeOrZero.cross a.normalizeOrZero) := by
  have wide : 0 < (a.cross d).length := lengthNonneg.lt_of_ne' (lengthZero.not.mpr area)
  have long : 0 < a.length := by
    refine lengthNonneg.lt_of_ne' (lengthZero.not.mpr fun none => area ?_)
    have flat := crossSelf (a := a) (b := d)
    rw [none, zero_mul, zero_sub] at flat
    exact le_antisymm (flat ▸ neg_nonpos.mpr (mul_self_nonneg _)) (lengthSelf (a := a.cross d) ▸ mul_self_nonneg _)
  have unit {e : Vec3 ℝ} (size : 0 < e.length) : e.normalizeOrZero.dot e.normalizeOrZero = 1 := by
    rw [← lengthSelf, normalizedLength size, one_mul]
  refine ⟨long, wide, spansOfCross (unit wide) (unit long) ?_⟩
  have across : (a.cross d).dot a = 0 := by
    simp only [cross, dot]
    ring
  rw [normalizeOrZeroOf wide, normalizeOrZeroOf long, scaleDot, dotComm, scaleDot, dotComm, across, zero_mul, zero_mul]

end Vec3

namespace Sketch

theorem planeWithinMore [Scalar α] {s : Sketch α} {n : Nat} {id : EntityId} {x : PlaneExpr α}
    (ok : s.planeWithin n id = .ok x) : s.planeWithin (n + 1) id = .ok x := by
  induction n generalizing id x with
  | zero => cases ok
  | succ n ih =>
    obtain ⟨e, origin, normal, found, kind, first, second⟩ := planeWithinOk.mp ok
    obtain ⟨part, there⟩ := pointFromThere first
    obtain ⟨part', there'⟩ := normalFromThere second
    exact planeWithinOk.mpr ⟨e, origin, normal, found, kind,
      pointFromSame there there (fun _ _ _ placed => ih placed) first,
      normalFromSame there' there' (fun _ _ _ placed => ih placed) second⟩

theorem planeExprParts [Scalar α] {s : Sketch α} {id : EntityId} {x : PlaneExpr α} (placed : s.planeExpr id = .ok x) :
    ∃ e origin normal, s.entities.get? id = some e ∧ e.kind = .workplane origin normal ∧
      s.pointExpr origin = .ok x.origin ∧ s.normalExpr normal = .ok x.orientation := by
  obtain ⟨e, origin, normal, found, kind, first, second⟩ := planeWithinOk.mp placed
  obtain ⟨part, there⟩ := pointFromThere first
  obtain ⟨part', there'⟩ := normalFromThere second
  exact ⟨e, origin, normal, found, kind,
    pointFromSame there there (fun _ _ _ placed => planeWithinMore placed) first,
    normalFromSame there' there' (fun _ _ _ placed => planeWithinMore placed) second⟩

/-- A handle stands for a plane through a place, at right angles to a normal: a workplane or a face of unit
orientation, or a face that a line sweeps along a direction that it does not lie in. -/
inductive PlaneAt (s : Sketch ℝ) (v : ParamId → ℝ) (id : EntityId) : Vec3 ℝ → Vec3 ℝ → Prop
  | workplane {x : PlaneExpr ℝ} (placed : s.planeExpr id = .ok x) (unit : (x.orientation.eval v).length = 1) :
    PlaneAt s v id (x.origin.eval v) (x.normal v)
  | face {e : Entity ℝ} {point normal : EntityId} {p : Vec3 (Expr ℝ)} {q : Quat (Expr ℝ)}
    (found : s.entities.get? id = some e) (kind : e.kind = .face point (.normal normal)) (placed : s.pointExpr point = .ok p)
    (turned : s.normalExpr normal = .ok q) (unit : (q.eval v).length = 1) :
    PlaneAt s v id (p.eval v) ((q.eval v).rotate .unitZ)
  | swept {e : Entity ℝ} {point source target : EntityId} {direction : Vec3 ParamId} {p a b : Vec3 (Expr ℝ)}
    (found : s.entities.get? id = some e) (kind : e.kind = .face point (.sweep source target direction))
    (placed : s.pointExpr point = .ok p) (first : s.pointExpr source = .ok a) (second : s.pointExpr target = .ok b)
    (area : ((b.eval v - a.eval v).cross (direction.map v)).dot ((b.eval v - a.eval v).cross (direction.map v)) ≠ 0) :
    PlaneAt s v id (p.eval v) ((b.eval v - a.eval v).cross (direction.map v))

theorem orientedAxes {s : Sketch ℝ} {id point normal : EntityId} {e : Entity ℝ} {q : Quat (Expr ℝ)}
    (found : s.entities.get? id = some e)
    (kind : e.kind = .workplane point normal ∨ e.kind = .face point (.normal normal)) (turned : s.normalExpr normal = .ok q) :
    s.planePointExpr id = s.pointExpr point ∧ s.planeNormalExpr id = .ok q.imageN ∧
      ∀ c : Setting ℝ, c.sketch = s → c.planeAxes id q.imageN = .ok (q.imageU, q.imageV) := by
  have there := entityFound.mpr found
  refine ⟨?_, bindOk.mpr ⟨e, there, ?_⟩, ?_⟩
  · rw [planePointExpr, there]
    rcases kind with kind | kind <;> simp only [bind, Except.bind, kind]
  · rcases kind with kind | kind <;> rw [kind] <;> exact bindOk.mpr ⟨q, turned, rfl⟩
  · rintro c rfl
    refine bindOk.mpr ⟨e, Setting.liftedOk there, ?_⟩
    rcases kind with kind | kind <;> rw [kind] <;> exact bindOk.mpr ⟨q, Setting.liftedOk turned, rfl⟩

theorem PlaneAt.spans {s : Sketch ℝ} {v : ParamId → ℝ} {id : EntityId} {o n : Vec3 ℝ} (plane : s.PlaneAt v id o n) :
    ∃ p m u w : Vec3 (Expr ℝ), s.planePointExpr id = .ok p ∧ s.planeNormalExpr id = .ok m ∧
      (∀ c : Setting ℝ, c.sketch = s → c.planeAxes id m = .ok (u, w)) ∧ p.eval v = o ∧
      Vec3.Spans (m.eval v) (u.eval v) (w.eval v) ∧ ∀ a, Vec3.mirror o (m.eval v) a = Vec3.mirror o n a := by
  have oriented (q : Quat (Expr ℝ)) (unit : (q.eval v).length = 1) :
      Vec3.Spans (q.imageN.eval v) (q.imageU.eval v) (q.imageV.eval v) := by
    rw [Quat.evalImageN, Quat.evalImageU, Quat.evalImageV]
    exact Quat.imagesSpan unit
  cases plane with
  | @workplane x placed unit =>
    obtain ⟨e, origin, normal, found, kind, first, second⟩ := planeExprParts placed
    obtain ⟨point, normal, axes⟩ := orientedAxes found (.inl kind) second
    exact ⟨_, _, _, _, point.trans first, normal, axes, rfl, oriented x.orientation unit, fun _ => rfl⟩
  | @face e point normal p q found kind placed turned unit =>
    obtain ⟨point, normal, axes⟩ := orientedAxes found (.inr kind) turned
    exact ⟨_, _, _, _, point.trans placed, normal, axes, rfl, oriented q unit, fun _ => by rw [Quat.evalImageN]⟩
  | @swept e point source target direction p a b found kind placed first second area =>
    obtain ⟨long, wide, spans⟩ := Vec3.sweptSpans area
    let m := ((b - a).cross (.ofParams direction)).withMagnitude (.const 1.0)
    let u := (b - a).withMagnitude (.const 1.0)
    have worth : ((b - a).cross (.ofParams direction)).eval v = (b.eval v - a.eval v).cross (direction.map v) := by
      rw [Vec3.evalCross, Vec3.evalSub, Vec3.evalOfParams]
    have normal : m.eval v = ((b.eval v - a.eval v).cross (direction.map v)).normalizeOrZero := by
      rw [Vec3.evalWithMagnitude (by rwa [worth]), worth]
    have axis : u.eval v = (b.eval v - a.eval v).normalizeOrZero := by
      rw [Vec3.evalWithMagnitude (by rwa [Vec3.evalSub]), Vec3.evalSub]
    refine ⟨p, m, u, m.cross u, ?_, ?_, ?_, rfl, ?_, fun _ => ?_⟩
    · refine bindOk.mpr ⟨e, entityFound.mpr found, ?_⟩
      rw [kind]
      exact placed
    · refine bindOk.mpr ⟨e, entityFound.mpr found, ?_⟩
      rw [kind]
      exact bindOk.mpr ⟨b, second, bindOk.mpr ⟨a, first, rfl⟩⟩
    · rintro c rfl
      refine bindOk.mpr ⟨e, Setting.liftedOk (entityFound.mpr found), ?_⟩
      rw [kind]
      exact bindOk.mpr ⟨b, Setting.liftedOk second, bindOk.mpr ⟨a, Setting.liftedOk first, rfl⟩⟩
    · rw [Vec3.evalCross, normal, axis]
      exact spans
    · rw [normal, Vec3.normalizeOrZeroOf wide]
      exact Vec3.mirrorScale area (one_div_ne_zero wide.ne')

section Symmetric
variable {s : Sketch ℝ} {v : ParamId → ℝ} {a b : EntityId} {pa pb : Vec3 (Expr ℝ)} (first : s.pointExpr a = .ok pa)
  (second : s.pointExpr b = .ok pb)
include first second

theorem symmetricInSpace {plane : EntityId} {o n : Vec3 ℝ} (level : s.PlaneAt v plane o n) {c : Setting ℝ}
    (drawing : c.sketch = s) (space : c.basis = none) : ∃ rs, c.residuals (.symmetric a b plane) = .ok rs ∧ rs.length = 3 ∧
      ((∀ r ∈ rs, r.eval v = 0) ↔ pb.eval v = Vec3.mirror o n (pa.eval v)) := by
  obtain ⟨p, m, u, w, point, normal, axes, origin, spans, same⟩ := level.spans
  have within := axes c drawing
  subst drawing
  refine ⟨[((pa + pb).scale (.const 0.5) - p).dot m, (pa - pb).dot u, (pa - pb).dot w], ?_, rfl, ?_⟩
  · refine bindOk.mpr ⟨pa, Setting.liftedOk first, bindOk.mpr ⟨pb, Setting.liftedOk second,
      bindOk.mpr ⟨p, Setting.liftedOk point, bindOk.mpr ⟨m, Setting.liftedOk normal, ?_⟩⟩⟩⟩
    rw [space]
    exact bindOk.mpr ⟨(u, w), within, rfl⟩
  · rw [← same, ← spans.mirrorIff, ← origin]
    simp only [List.mem_cons, List.not_mem_nil, or_false, forall_eq_or_imp, forall_eq, Vec3.evalDot, Vec3.evalSub,
      Vec3.evalScale, Vec3.evalAdd, Expr.evalConst, exactHalf]

variable {c : Setting ℝ} {x : PlaneExpr ℝ} (drawing : c.sketch = s)
  (basis : c.basis = some ⟨x.origin, x.orientation.imageU, x.orientation.imageV⟩)
include drawing basis

omit first second in
theorem coordinatesInPlane {id : EntityId} {p : Vec3 (Expr ℝ)} (placed : s.pointExpr id = .ok p) :
    ∃ q, c.coordinates id = .ok q ∧ q.x.eval v = ((x.frame v).project (p.eval v)).x ∧
      q.y.eval v = ((x.frame v).project (p.eval v)).y := by
  subst drawing
  have worth : (c.project (p - x.origin)).eval v = ⟨((x.frame v).project (p.eval v)).x, ((x.frame v).project (p.eval v)).y, 0⟩ := by
    rw [Setting.evalProject basis, Vec3.evalSub]
    rfl
  refine ⟨c.project (p - x.origin), bindOk.mpr ⟨p, Setting.liftedOk placed, ?_⟩, congrArg Vec3.x worth, congrArg Vec3.y worth⟩
  rw [basis]
  rfl

theorem symmetricAcrossInPlane : ∃ rs, c.residuals (.symmetricHorizontal a b) = .ok rs ∧ rs.length = 2 ∧
    ((∀ r ∈ rs, r.eval v = 0) ↔ ((x.frame v).project (pb.eval v)).x = -((x.frame v).project (pa.eval v)).x ∧
      ((x.frame v).project (pb.eval v)).y = ((x.frame v).project (pa.eval v)).y) := by
  obtain ⟨p, here, px, py⟩ := coordinatesInPlane (v := v) drawing basis first
  obtain ⟨q, there, qx, qy⟩ := coordinatesInPlane (v := v) drawing basis second
  refine ⟨[p.x + q.x, p.y - q.y], bindOk.mpr ⟨p, here, bindOk.mpr ⟨q, there, rfl⟩⟩, rfl, ?_⟩
  simp only [List.mem_cons, List.not_mem_nil, or_false, forall_eq_or_imp, forall_eq, Expr.evalAdd, Expr.evalSub, px, py, qx, qy]
  rw [add_eq_zero_iff_eq_neg', sub_eq_zero, eq_comm (b := ((x.frame v).project (pb.eval v)).y)]

theorem symmetricUprightInPlane : ∃ rs, c.residuals (.symmetricVertical a b) = .ok rs ∧ rs.length = 2 ∧
    ((∀ r ∈ rs, r.eval v = 0) ↔ ((x.frame v).project (pb.eval v)).y = -((x.frame v).project (pa.eval v)).y ∧
      ((x.frame v).project (pb.eval v)).x = ((x.frame v).project (pa.eval v)).x) := by
  obtain ⟨p, here, px, py⟩ := coordinatesInPlane (v := v) drawing basis first
  obtain ⟨q, there, qx, qy⟩ := coordinatesInPlane (v := v) drawing basis second
  refine ⟨[p.y + q.y, p.x - q.x], bindOk.mpr ⟨p, here, bindOk.mpr ⟨q, there, rfl⟩⟩, rfl, ?_⟩
  simp only [List.mem_cons, List.not_mem_nil, or_false, forall_eq_or_imp, forall_eq, Expr.evalAdd, Expr.evalSub, px, py, qx, qy]
  rw [add_eq_zero_iff_eq_neg', sub_eq_zero, eq_comm (b := ((x.frame v).project (pb.eval v)).x)]

theorem symmetricAboutLineInPlane {line : EntityId} {p q : Vec3 (Expr ℝ)} (joins : s.Joins line p q)
    (long : (x.frame v).project (p.eval v) ≠ (x.frame v).project (q.eval v)) :
    ∃ rs, c.residuals (.symmetricLine a b line) = .ok rs ∧ rs.length = 2 ∧
      ((∀ r ∈ rs, r.eval v = 0) ↔ (x.frame v).project (pb.eval v) = Vec2.mirror ((x.frame v).project (p.eval v))
        ((x.frame v).project (q.eval v) - (x.frame v).project (p.eval v)) ((x.frame v).project (pa.eval v))) := by
  subst drawing
  refine ⟨[(c.project (q - p)).planarCross (c.project ((pa + pb).scale (.const 0.5) - p)),
    (c.project (pa - pb)).dot (c.project (q - p))], ?_, rfl, ?_⟩
  · exact bindOk.mpr ⟨(p, q), Setting.lineOk joins, bindOk.mpr ⟨pa, Setting.liftedOk first,
      bindOk.mpr ⟨pb, Setting.liftedOk second, rfl⟩⟩⟩
  · rw [← Vec2.mirrorIff (Vec2.apartSquare long), Frame.projectMiddle, Frame.projectSub, Frame.projectSub]
    have area : ((c.project (q - p)).planarCross (c.project ((pa + pb).scale (.const 0.5) - p))).eval v =
        Vec2.perpDot ⟨(q.eval v - p.eval v).dot (x.frame v).u, (q.eval v - p.eval v).dot (x.frame v).v⟩
          ⟨((pa.eval v + pb.eval v).scale (1 / 2) - p.eval v).dot (x.frame v).u,
            ((pa.eval v + pb.eval v).scale (1 / 2) - p.eval v).dot (x.frame v).v⟩ := by
      rw [Vec3.evalPlanarCross, Setting.evalProject basis, Setting.evalProject basis, Vec3.evalSub, Vec3.evalSub,
        Vec3.evalScale, Vec3.evalAdd, Expr.evalConst, exactHalf]
      rfl
    have product : ((c.project (pa - pb)).dot (c.project (q - p))).eval v =
        Vec2.dot ⟨(pa.eval v - pb.eval v).dot (x.frame v).u, (pa.eval v - pb.eval v).dot (x.frame v).v⟩
          ⟨(q.eval v - p.eval v).dot (x.frame v).u, (q.eval v - p.eval v).dot (x.frame v).v⟩ := by
      rw [Vec3.evalDot, Setting.evalProject basis, Setting.evalProject basis, Vec3.evalSub, Vec3.evalSub, Vec3.dot, mul_zero,
        add_zero]
      rfl
    rw [← area, ← product]
    simp only [List.mem_cons, List.not_mem_nil, or_false, forall_eq_or_imp, forall_eq]

end Symmetric

/-- A constraint has so many equations, and they vanish together just where something holds. -/
def Means (s : Sketch ℝ) (v : ParamId → ℝ) (c : Constraint ℝ) (n : Nat) (same : Prop) : Prop :=
  ∃ qs, s.measuredEquations c = .ok qs ∧ qs.length = n ∧ ((∀ q ∈ qs, q.expr.eval v = 0) ↔ same)

theorem meansOfResiduals {s : Sketch ℝ} {v : ParamId → ℝ} {c : Constraint ℝ} {d : Setting ℝ} (setting : Setting.of s c = .ok d)
    {n : Nat} {same : Prop}
    (zeros : ∃ rs, d.residuals c.kind = .ok rs ∧ rs.length = n ∧ ((∀ r ∈ rs, r.eval v = 0) ↔ same)) :
    s.Means v c n same := by
  obtain ⟨rs, written, count, zero⟩ := zeros
  obtain ⟨qs, equations, rfl⟩ := measuredOk setting written
  rw [List.forall_mem_map] at zero
  exact ⟨qs, equations, by rw [← count, List.length_map], zero⟩

/- Symmetry is reflection. Without a workplane two points are symmetric about a plane just where one is the mirror image
of the other. In a workplane they are symmetric about a line just where their projections are so in the projected line,
and across or along the axes where one of their coordinates is opposite and the other equal. -/
theorem symmetryReflects {s : Sketch ℝ} {v : ParamId → ℝ} {a b : EntityId} {pa pb : Vec3 (Expr ℝ)}
    (first : s.pointExpr a = .ok pa) (second : s.pointExpr b = .ok pb) (id : ConstraintId) (group : GroupId)
    (reference : Bool) :
    (∀ plane o n, s.PlaneAt v plane o n → s.Means v ⟨id, group, none, .symmetric a b plane, reference⟩ 3
      (pb.eval v = Vec3.mirror o n (pa.eval v))) ∧
    ∀ w x, s.planeExpr w = .ok x →
      (∀ line p q, s.Joins line p q → (x.frame v).project (p.eval v) ≠ (x.frame v).project (q.eval v) →
        s.Means v ⟨id, group, some w, .symmetricLine a b line, reference⟩ 2
          ((x.frame v).project (pb.eval v) = Vec2.mirror ((x.frame v).project (p.eval v))
            ((x.frame v).project (q.eval v) - (x.frame v).project (p.eval v)) ((x.frame v).project (pa.eval v)))) ∧
      s.Means v ⟨id, group, some w, .symmetricHorizontal a b, reference⟩ 2
        (((x.frame v).project (pb.eval v)).x = -((x.frame v).project (pa.eval v)).x ∧
          ((x.frame v).project (pb.eval v)).y = ((x.frame v).project (pa.eval v)).y) ∧
      s.Means v ⟨id, group, some w, .symmetricVertical a b, reference⟩ 2
        (((x.frame v).project (pb.eval v)).y = -((x.frame v).project (pa.eval v)).y ∧
          ((x.frame v).project (pb.eval v)).x = ((x.frame v).project (pa.eval v)).x) := by
  refine ⟨fun plane o n level => meansOfResiduals rfl (symmetricInSpace first second level rfl rfl), fun w x placed => ?_⟩
  have planar (kind : ConstraintKind ℝ) : Setting.of s ⟨id, group, some w, kind, reference⟩ =
      .ok ⟨s, id, kind.typeName, some ⟨x.origin, x.orientation.imageU, x.orientation.imageV⟩⟩ :=
    bindOk.mpr ⟨x, Setting.liftedOk placed, rfl⟩
  refine ⟨fun line p q joins long => ?_, ?_, ?_⟩
  · exact meansOfResiduals (planar _) (symmetricAboutLineInPlane first second rfl rfl joins long)
  · exact meansOfResiduals (planar _) (symmetricAcrossInPlane first second rfl rfl)
  · exact meansOfResiduals (planar _) (symmetricUprightInPlane first second rfl rfl)

theorem Means.holds {s : Sketch ℝ} {v : ParamId → ℝ} {c : Constraint ℝ} {n : Nat} {same : Prop} (h : s.Means v c n same)
    (is : same) : s.Means v c n True := by
  obtain ⟨qs, equations, count, zero⟩ := h
  exact ⟨qs, equations, count, zero.trans (iff_true_intro is)⟩

/-! Points around a workplane, and a line and a face in it. -/

def paneAlong : Vec3 ParamId := ⟨.request ⟨9⟩ 0, .request ⟨9⟩ 1, .request ⟨9⟩ 2⟩

noncomputable def paneParts : List (Entity ℝ) := [numbered 1 (.pointCopy ⟨1, 1, 1⟩ .identity),
  numbered 2 (.pointCopy ⟨1, 1, -1⟩ .identity), numbered 3 (.pointCopy ⟨1, -1, 0⟩ .identity),
  numbered 4 (.pointCopy ⟨0, 0, 0⟩ .identity), numbered 5 (.pointCopy ⟨1, 0, 0⟩ .identity),
  numbered 6 (.normalCopy .identity .identity), numbered 7 (.workplane (.request ⟨4⟩ 0) (.request ⟨6⟩ 0)),
  numbered 8 (.line (.request ⟨4⟩ 0) (.request ⟨5⟩ 0)),
  numbered 9 (.face (.request ⟨4⟩ 0) (.sweep (.request ⟨4⟩ 0) (.request ⟨5⟩ 0) paneAlong))]

noncomputable def pane : Sketch ℝ where
  entities := paneParts.foldl Registry.add {}

def paneSweep (p : ParamId) : ℝ := if p = .request ⟨9⟩ 1 then 1 else 0

theorem paneThere (n : Nat) (kind : EntityKind ℝ) (member : numbered n kind ∈ paneParts) :
    pane.entities.get? (.request ⟨n⟩ 0) = some (numbered n kind) :=
  (Registry.getFilled (by decide)).mpr ⟨member, rfl⟩

theorem panePoint (n : Nat) (p : Vec3 ℝ) (member : numbered n (.pointCopy p .identity) ∈ paneParts) :
    pane.pointExpr (.request ⟨n⟩ 0) = .ok p.toExpr := pointOfCopy (paneThere n _ member) rfl

theorem paneOrigin : pane.pointExpr (.request ⟨4⟩ 0) = .ok (Vec3.toExpr ⟨0, 0, 0⟩) := panePoint 4 _ (by simp [paneParts])

theorem paneTip : pane.pointExpr (.request ⟨5⟩ 0) = .ok (Vec3.toExpr ⟨1, 0, 0⟩) := panePoint 5 _ (by simp [paneParts])

theorem panePlaced : pane.planeExpr (.request ⟨7⟩ 0) = .ok floorPlane :=
  planeOfCopies (paneThere 7 _ (by simp [paneParts])) rfl (paneThere 4 _ (by simp [paneParts])) rfl
    (paneThere 6 _ (by simp [paneParts])) rfl

theorem floorProject {v : ParamId → ℝ} (p : Vec3 ℝ) : (floorPlane.frame v).project p = ⟨p.x, p.y⟩ := Frame.projectLevel p

theorem paneWorkplane {v : ParamId → ℝ} : pane.PlaneAt v (.request ⟨7⟩ 0) ⟨0, 0, 0⟩ ⟨0, 0, 1⟩ := by
  have normal : floorPlane.normal v = ⟨0, 0, 1⟩ := by
    rw [PlaneExpr.normal, Quat.evalImageN]
    exact (Quat.rotateIdentity .unitZ).trans (by simp only [Vec3.unitZ, exactZero, exactOne])
  rw [← normal]
  exact .workplane panePlaced Quat.identityUnit

theorem paneFace : pane.PlaneAt paneSweep (.request ⟨9⟩ 0) ⟨0, 0, 0⟩ ⟨0, 0, 1⟩ := by
  have across : (⟨1, 0, 0⟩ - ⟨0, 0, 0⟩ : Vec3 ℝ).cross (paneAlong.map paneSweep) = ⟨0, 0, 1⟩ := by
    simp [paneSweep, paneAlong, Vec3.mkSub, Vec3.map, ParamId.request, Vec3.cross]
  rw [← across]
  refine .swept (paneThere 9 _ (by simp [paneParts])) rfl paneOrigin paneOrigin paneTip ?_
  rw [Vec3.evalToExpr, Vec3.evalToExpr, across]
  norm_num [Vec3.dot]

theorem paneLine : pane.Joins (.request ⟨8⟩ 0) (Vec3.toExpr ⟨0, 0, 0⟩) (Vec3.toExpr ⟨1, 0, 0⟩) :=
  ⟨_, _, _, paneThere 8 _ (by simp [paneParts]), rfl, paneOrigin, paneTip⟩

theorem reflectedPoints : ∃ (s : Sketch ℝ) (v : ParamId → ℝ) (a b c w face line : EntityId), ∀ id group reference,
    s.Means v ⟨id, group, none, .symmetric a b w, reference⟩ 3 True ∧
    s.Means v ⟨id, group, none, .symmetric a b face, reference⟩ 3 True ∧
    s.Means v ⟨id, group, some w, .symmetricLine a c line, reference⟩ 2 True ∧
    s.Means v ⟨id, group, some w, .symmetricVertical a c, reference⟩ 2 True := by
  have above := panePoint 1 ⟨1, 1, 1⟩ (by simp [paneParts])
  have below := panePoint 2 ⟨1, 1, -1⟩ (by simp [paneParts])
  have beside := panePoint 3 ⟨1, -1, 0⟩ (by simp [paneParts])
  have image : (⟨1, 1, -1⟩ : Vec3 ℝ) = Vec3.mirror ⟨0, 0, 0⟩ ⟨0, 0, 1⟩ ⟨1, 1, 1⟩ := by
    simp only [Vec3.mirror, Vec3.mkSub, Vec3.dot, Vec3.scale, Vec3.mk.injEq]
    norm_num
  refine ⟨pane, paneSweep, .request ⟨1⟩ 0, .request ⟨2⟩ 0, .request ⟨3⟩ 0, .request ⟨7⟩ 0, .request ⟨9⟩ 0, .request ⟨8⟩ 0,
    fun id group reference => ?_⟩
  obtain ⟨spatial, _⟩ := symmetryReflects (v := paneSweep) above below id group reference
  obtain ⟨_, planar⟩ := symmetryReflects (v := paneSweep) above beside id group reference
  obtain ⟨about, _, upright⟩ := planar _ _ panePlaced
  refine ⟨(spatial _ _ _ paneWorkplane).holds ?_, (spatial _ _ _ paneFace).holds ?_, (about _ _ _ paneLine ?_).holds ?_,
    upright.holds ?_⟩
  · exact image
  · exact image
  · simp only [floorProject, Vec3.evalToExpr]
    norm_num
  · simp only [floorProject, Vec3.evalToExpr]
    change (⟨1, -1⟩ : Vec2 ℝ) = ⟨0 + 0 + (1 - 0) * (2.0 * ((1 - 0) * (1 - 0) + (1 - 0) * (0 - 0)) /
      ((1 - 0) * (1 - 0) + (0 - 0) * (0 - 0))) - 1, 0 + 0 + (0 - 0) * (2.0 * ((1 - 0) * (1 - 0) + (1 - 0) * (0 - 0)) /
      ((1 - 0) * (1 - 0) + (0 - 0) * (0 - 0))) - 1⟩
    norm_num
  · simp only [floorProject, Vec3.evalToExpr]
    norm_num

end Sketch
end Drafting
