import Drafting.Proofs.Exact
import Drafting.Proofs.Resolved
/-! Constraints in a workplane and in space. Over exact numbers both forms say the same of what lies in a workplane
of unit orientation: projecting into it keeps lengths and angles, and the area that two directions span in it is,
up to its sign, the length of their product in space. -/
namespace Drafting

namespace Vec3
variable {a b d e n : Vec3 ℝ}

theorem addDot : (a + b).dot n = a.dot n + b.dot n := by
  change (a.x + b.x) * n.x + (a.y + b.y) * n.y + (a.z + b.z) * n.z = _
  unfold dot
  ring

theorem subDot : (a - b).dot n = a.dot n - b.dot n := by
  change (a.x - b.x) * n.x + (a.y - b.y) * n.y + (a.z - b.z) * n.z = _
  unfold dot
  ring

theorem negDot : (-a).dot n = -a.dot n := by
  change -a.x * n.x + -a.y * n.y + -a.z * n.z = _
  unfold dot
  ring

theorem scaleDot {s : ℝ} : (a.scale s).dot n = a.dot n * s := by
  change a.x * s * n.x + a.y * s * n.y + a.z * s * n.z = _
  unfold dot
  ring

theorem dotComm : a.dot b = b.dot a := by
  unfold dot
  ring

theorem dotSelf : a.dot a = 0 ↔ a.x = 0 ∧ a.y = 0 ∧ a.z = 0 := by
  unfold dot
  constructor
  · intro none
    refine ⟨?_, ?_, ?_⟩ <;> nlinarith only [none, mul_self_nonneg a.x, mul_self_nonneg a.y, mul_self_nonneg a.z]
  · rintro ⟨x, y, z⟩
    rw [x, y, z]
    ring

theorem addEq : a + b = e ↔ e - a = b := by
  rcases a with ⟨ax, ay, az⟩
  rcases b with ⟨bx, ty, bz⟩
  rcases e with ⟨ex, ey, ez⟩
  simp only [mkAdd, mkSub, mk.injEq]
  constructor
  · rintro ⟨x, y, z⟩
    exact ⟨by linarith, by linarith, by linarith⟩
  · rintro ⟨x, y, z⟩
    exact ⟨by linarith, by linarith, by linarith⟩

theorem subSelf : (a - b).dot (a - b) = 0 ↔ a = b := by
  rcases a with ⟨ax, ay, az⟩
  rcases b with ⟨bx, ty, bz⟩
  rw [dotSelf]
  simp only [mkSub, sub_eq_zero, mk.injEq]

theorem lengthSelf : a.length * a.length = a.dot a := by
  have squares : 0 ≤ a.dot a :=
    add_nonneg (add_nonneg (mul_self_nonneg a.x) (mul_self_nonneg a.y)) (mul_self_nonneg a.z)
  exact Real.mul_self_sqrt squares

theorem lengthNonneg : 0 ≤ a.length := Real.sqrt_nonneg _

theorem lengthOf {r : ℝ} (nonneg : 0 ≤ r) (square : a.dot a = r * r) : a.length = r :=
  (congrArg Real.sqrt square).trans (Real.sqrt_mul_self nonneg)

theorem negLength : (-a).length = a.length := by
  have same : (-a).dot (-a) = a.dot a := by rw [negDot, dotComm, negDot, neg_neg]
  exact congrArg Real.sqrt same

theorem lengthZero : a.length = 0 ↔ a.dot a = 0 := by
  rw [← lengthSelf, mul_self_eq_zero]

noncomputable def cosine (a b : Vec3 ℝ) : ℝ := a.dot b / (a.length * b.length)

theorem crossSelf : (a.cross b).dot (a.cross b) = a.dot a * b.dot b - a.dot b * a.dot b := by
  simp only [cross, dot]
  ring

theorem crossSwap : (a.cross b).dot (a.cross b) = (b.cross a).dot (b.cross a) := by
  simp only [cross, dot]
  ring

theorem crossLength : (a.cross b).length = (b.cross a).length := congrArg Real.sqrt crossSwap

theorem planarCrossSelf (flatA : a.z = 0) (flatB : b.z = 0) :
    a.planarCross b * a.planarCross b = a.dot a * b.dot b - a.dot b * a.dot b := by
  simp only [planarCross, dot, flatA, flatB]
  ring

theorem crossZero (long : d.dot d ≠ 0) : (d.cross e).dot (d.cross e) = 0 ↔ ∃ t, e = d.scale t := by
  rw [dotSelf]
  constructor
  · rintro ⟨x, y, z⟩
    refine ⟨e.dot d / d.dot d, ?_⟩
    rcases d with ⟨dx, dy, dz⟩
    rcases e with ⟨ex, ey, ez⟩
    simp only [cross, dot, scale, mk.injEq] at x y z long ⊢
    refine ⟨?_, ?_, ?_⟩ <;> rw [mul_div_assoc', eq_div_iff long]
    · linear_combination dz * y - dy * z
    · linear_combination dx * z - dz * x
    · linear_combination dy * x - dx * y
  · rintro ⟨t, rfl⟩
    simp only [cross, scale]
    refine ⟨?_, ?_, ?_⟩ <;> ring

end Vec3

theorem Quat.rotateDot (q : Quat ℝ) (d e : Vec3 ℝ) :
    d.dot (q.rotate .unitX) * e.dot (q.rotate .unitX) + d.dot (q.rotate .unitY) * e.dot (q.rotate .unitY) +
      d.dot (q.rotate .unitZ) * e.dot (q.rotate .unitZ) =
    (q.x * q.x + q.y * q.y + q.z * q.z + q.w * q.w) ^ 2 * d.dot e := by
  simp only [rotate, Vec3.scale, Vec3.cross, Vec3.dot, Vec3.unitX, Vec3.unitY, Vec3.unitZ, Vec3.mkAdd, exactZero, exactOne,
    exactTwo]
  ring

theorem Quat.rotateAcross (q : Quat ℝ) :
    (q.rotate .unitX).dot (q.rotate .unitZ) = 0 ∧ (q.rotate .unitY).dot (q.rotate .unitZ) = 0 := by
  simp only [rotate, Vec3.scale, Vec3.cross, Vec3.dot, Vec3.unitX, Vec3.unitY, Vec3.unitZ, Vec3.mkAdd, exactZero, exactOne,
    exactTwo]
  constructor <;> ring

theorem Quat.unitSquares {q : Quat ℝ} : q.length = 1 ↔ q.x * q.x + q.y * q.y + q.z * q.z + q.w * q.w = 1 :=
  Real.sqrt_eq_one

/-- How the residuals of a constraint in a workplane stand to those in space. -/
inductive Comparison (α : Type) where
  | values
  | zeros
  | zerosForSome
  | distance (x : α)

/-- How the two forms of a kind of constraint compare, where it speaks of points and lines and has both. -/
def ConstraintKind.comparison? : ConstraintKind α → Option (Comparison α)
  | pointPointDistance .. | equalLengthLines .. | lengthRatio .. | lengthDifference .. | angle .. | equalAngle ..
  | perpendicular .. => some .values
  | pointsCoincident .. | atMidpoint .. => some .zeros
  | pointOnLine .. | parallel .. => some .zerosForSome
  | pointLineDistance _ _ x => some (.distance x)
  | _ => none

/-- Residuals in a workplane and in space compare so at some values. -/
def Comparison.Holds (v : ParamId → ℝ) (helper : ParamId) (planar spatial : List (Expr ℝ)) : Comparison ℝ → Prop
  | values => planar.map (·.eval v) = spatial.map (·.eval v)
  | zeros => (∀ r ∈ planar, r.eval v = 0) ↔ ∀ r ∈ spatial, r.eval v = 0
  | zerosForSome => (∀ r ∈ planar, r.eval v = 0) ↔ ∃ x, ∀ r ∈ spatial, r.eval (Function.update v helper x) = 0
  | distance x => ∃ d, planar.map (·.eval v) = [d - x] ∧ spatial.map (·.eval v) = [|d| - x]

def Vec3.Flat (d : Vec3 (Expr ℝ)) (v : ParamId → ℝ) (n : Vec3 ℝ) : Prop := (d.eval v).dot n = 0

namespace PlaneExpr

noncomputable def normal (plane : PlaneExpr ℝ) (v : ParamId → ℝ) : Vec3 ℝ := plane.orientation.imageN.eval v

def Contains (plane : PlaneExpr ℝ) (v : ParamId → ℝ) (p : Vec3 (Expr ℝ)) : Prop :=
  (p - plane.origin).Flat v (plane.normal v)

noncomputable def drawn (plane : PlaneExpr ℝ) (p : Vec2 ParamId) : Vec3 (Expr ℝ) :=
  plane.origin + plane.orientation.imageU.scale (.param p.x) + plane.orientation.imageV.scale (.param p.y)

variable {plane : PlaneExpr ℝ} {v : ParamId → ℝ} {p q r : Vec3 (Expr ℝ)}

theorem evalDrawn (spot : Vec2 ParamId) : (plane.drawn spot).eval v = plane.origin.eval v +
    ((plane.orientation.eval v).rotate .unitX).scale (v spot.x) +
      ((plane.orientation.eval v).rotate .unitY).scale (v spot.y) := by
  rw [drawn, Vec3.evalAdd, Vec3.evalAdd, Vec3.evalScale, Vec3.evalScale, Quat.evalImageU, Quat.evalImageV,
    Expr.evalParam, Expr.evalParam]

theorem containsDrawn (spot : Vec2 ParamId) : plane.Contains v (plane.drawn spot) := by
  have across := (plane.orientation.eval v).rotateAcross
  unfold Contains Vec3.Flat normal
  rw [Quat.evalImageN, Vec3.evalSub, evalDrawn, Vec3.subDot, Vec3.addDot, Vec3.addDot, Vec3.scaleDot, Vec3.scaleDot,
    across.1, across.2]
  ring

theorem Contains.between (hp : plane.Contains v p) (hq : plane.Contains v q) : (q - p).Flat v (plane.normal v) := by
  unfold Contains Vec3.Flat at *
  simp only [Vec3.evalSub, Vec3.subDot] at *
  linarith

theorem Contains.middle (hp : plane.Contains v p) (hq : plane.Contains v q) (hr : plane.Contains v r) :
    (r - (p + q).scale (.const 0.5)).Flat v (plane.normal v) := by
  unfold Contains Vec3.Flat at *
  simp only [Vec3.evalSub, Vec3.evalScale, Vec3.evalAdd, Vec3.subDot, Vec3.scaleDot, Vec3.addDot, Expr.evalConst,
    exactHalf] at *
  linarith

end PlaneExpr

theorem Vec3.toListZero {d : Vec3 (Expr ℝ)} {v : ParamId → ℝ} :
    (∀ r ∈ d.toList, r.eval v = 0) ↔ (d.eval v).dot (d.eval v) = 0 := by
  rw [Vec3.dotSelf]
  simp [Vec3.toList, Vec3.eval, Vec3.map]

namespace Setting
variable {c : Setting ℝ} {v : ParamId → ℝ} {n : Vec3 ℝ} {d e : Vec3 (Expr ℝ)} {plane : PlaneExpr ℝ}

def Keeps (c : Setting ℝ) (v : ParamId → ℝ) (n : Vec3 ℝ) : Prop :=
  ∀ d e, d.Flat v n → e.Flat v n → ((c.project d).eval v).dot ((c.project e).eval v) = (d.eval v).dot (e.eval v)

theorem spaceKeeps (space : c.basis = none) : c.Keeps v n := by
  intro d e _ _
  simp only [project, space]

theorem evalProject (basis : c.basis = some ⟨plane.origin, plane.orientation.imageU, plane.orientation.imageV⟩) :
    (c.project d).eval v = ⟨(d.eval v).dot ((plane.orientation.eval v).rotate .unitX),
      (d.eval v).dot ((plane.orientation.eval v).rotate .unitY), 0⟩ := by
  simp only [project, basis]
  rw [← Quat.evalImageU, ← Quat.evalImageV, ← Vec3.evalDot, ← Vec3.evalDot, ← exactZero]
  rfl

theorem planeKeeps (basis : c.basis = some ⟨plane.origin, plane.orientation.imageU, plane.orientation.imageV⟩)
    (unit : (plane.orientation.eval v).length = 1) : c.Keeps v (plane.normal v) := by
  intro d e flatD flatE
  have parts := (plane.orientation.eval v).rotateDot (d.eval v) (e.eval v)
  rw [Quat.unitSquares.mp unit, ← Quat.evalImageN, show (d.eval v).dot (plane.orientation.imageN.eval v) = 0 from flatD]
    at parts
  rw [evalProject basis, evalProject basis, Vec3.dot]
  linarith

theorem projectLevel {b : Basis ℝ} (basis : c.basis = some b) : ((c.project d).eval v).z = 0 := by
  simp only [project, basis]
  exact exactZero

section Keeps
variable {b : Basis ℝ} (keeps : c.Keeps v n)
include keeps

theorem lengthKept (flat : d.Flat v n) : (c.project d).magnitude.eval v = (d.eval v).length := by
  rw [Vec3.evalMagnitude]
  exact congrArg Real.sqrt (keeps d d flat flat)

theorem cosineKept (flatD : d.Flat v n) (flatE : e.Flat v n) :
    ((c.project d).directionCosine (c.project e)).eval v = (d.eval v).cosine (e.eval v) := by
  rw [Vec3.directionCosine, Expr.evalDiv, Expr.evalMul, lengthKept keeps flatD, lengthKept keeps flatE, Vec3.evalDot,
    keeps d e flatD flatE]
  rfl

theorem turnedCosineKept (flatD : d.Flat v n) (flatE : e.Flat v n) (turned : Bool) :
    ((if turned then -c.project d else c.project d).directionCosine (c.project e)).eval v =
      if turned then -(d.eval v).cosine (e.eval v) else (d.eval v).cosine (e.eval v) := by
  rw [← cosineKept keeps flatD flatE]
  cases turned with
  | false => rfl
  | true =>
    simp only [if_true, Vec3.directionCosine, Expr.evalDiv, Expr.evalMul, Vec3.evalDot, Vec3.evalMagnitude, Vec3.evalNeg,
      Vec3.negDot, Vec3.negLength, neg_div]

theorem vanishesKept (flat : d.Flat v n) : (∀ r ∈ c.vanishes d, r.eval v = 0) ↔ (d.eval v).dot (d.eval v) = 0 := by
  rw [← keeps d d flat flat]
  unfold vanishes
  cases basis : c.basis with
  | none => exact Vec3.toListZero
  | some b =>
    rw [Vec3.dotSelf, and_congr_right fun _ => and_iff_left (projectLevel basis)]
    simp [Vec3.eval, Vec3.map]

theorem areaKept (basis : c.basis = some b) (flatD : d.Flat v n) (flatE : e.Flat v n) :
    ((c.project d).planarCross (c.project e)).eval v * ((c.project d).planarCross (c.project e)).eval v =
      ((d.eval v).cross (e.eval v)).dot ((d.eval v).cross (e.eval v)) := by
  rw [Vec3.evalPlanarCross, Vec3.planarCrossSelf (projectLevel basis) (projectLevel basis), keeps d d flatD flatD,
    keeps e e flatE flatE, keeps d e flatD flatE, Vec3.crossSelf]

theorem areaSize (basis : c.basis = some b) (flatD : d.Flat v n) (flatE : e.Flat v n) :
    ((d.eval v).cross (e.eval v)).length = |((c.project d).planarCross (c.project e)).eval v| := by
  rw [← Real.sqrt_mul_self_eq_abs, areaKept keeps basis flatD flatE]
  rfl

end Keeps

end Setting

namespace Sketch

def Joins (s : Sketch ℝ) (id : EntityId) (p q : Vec3 (Expr ℝ)) : Prop :=
  ∃ e a b, s.entities.get? id = some e ∧ e.kind = .line a b ∧ s.pointExpr a = .ok p ∧ s.pointExpr b = .ok q

/-- What a constraint names lies in a workplane: a point, or a line of some length. -/
def LiesIn (s : Sketch ℝ) (plane : PlaneExpr ℝ) (v : ParamId → ℝ) : EntityClass × EntityId → Prop
  | (.point, id) => ∃ p, s.pointExpr id = .ok p ∧ plane.Contains v p
  | (.line, id) => ∃ p q, s.Joins id p q ∧ plane.Contains v p ∧ plane.Contains v q ∧ p.eval v ≠ q.eval v
  | _ => True

end Sketch

namespace Setting
open Result Sketch
variable {c : Setting ℝ} {v : ParamId → ℝ} {n : Vec3 ℝ} {p q : Vec3 (Expr ℝ)} {id a b : EntityId}

theorem lineOk (joins : c.sketch.Joins id p q) : c.line id = .ok (p, q) := by
  obtain ⟨e, a, b, found, kind, first, second⟩ := joins
  refine bindOk.mpr ⟨e, liftedOk (entityFound.mpr found), ?_⟩
  rw [kind]
  exact bindOk.mpr ⟨p, liftedOk first, bindOk.mpr ⟨q, liftedOk second, rfl⟩⟩

theorem directionOk (joins : c.sketch.Joins id p q) : c.lineDirection id = .ok (c.project (q - p)) :=
  bindOk.mpr ⟨(p, q), lineOk joins, rfl⟩

theorem distanceOk {point line : EntityId} {r : Vec3 (Expr ℝ)} (joins : c.sketch.Joins line p q)
    (placed : c.sketch.pointExpr point = .ok r) : c.pointLineDistance point line = .ok
      ((if c.basis.isSome then (c.project (q - p)).planarCross (c.project (r - p))
        else ((c.project (r - p)).cross (c.project (q - p))).magnitude) / (c.project (q - p)).magnitude) :=
  bindOk.mpr ⟨(p, q), lineOk joins, bindOk.mpr ⟨r, liftedOk placed, rfl⟩⟩

theorem planarDistance {point line : EntityId} {r : Vec3 (Expr ℝ)} {b : Basis ℝ} (basis : c.basis = some b)
    (joins : c.sketch.Joins line p q) (placed : c.sketch.pointExpr point = .ok r) : c.pointLineDistance point line =
      .ok ((c.project (q - p)).planarCross (c.project (r - p)) / (c.project (q - p)).magnitude) := by
  rw [distanceOk joins placed, basis]
  rfl

theorem spatialDistance {point line : EntityId} {r : Vec3 (Expr ℝ)} (space : c.basis = none)
    (joins : c.sketch.Joins line p q) (placed : c.sketch.pointExpr point = .ok r) : c.pointLineDistance point line =
      .ok (((r - p).cross (q - p)).magnitude / (q - p).magnitude) := by
  rw [distanceOk joins placed]
  simp only [project, space]
  rfl

end Setting

namespace Sketch
open Result Setting
variable {s : Sketch ℝ} {plane : PlaneExpr ℝ} {v : ParamId → ℝ} {n : Vec3 ℝ} {id : EntityId} {d : Vec3 (Expr ℝ)}

structure Directed (s : Sketch ℝ) (v : ParamId → ℝ) (n : Vec3 ℝ) (id : EntityId) (d : Vec3 (Expr ℝ)) : Prop where
  direction : ∀ c : Setting ℝ, c.sketch = s → c.lineDirection id = .ok (c.project d)
  flat : d.Flat v n
  long : (d.eval v).dot (d.eval v) ≠ 0
  reads : ∀ P : ParamId → Prop, (∀ p, s.Held p → P p) → d.Over P

theorem Joins.reads {p q : Vec3 (Expr ℝ)} (joins : s.Joins id p q) {P : ParamId → Prop} (held : ∀ p, s.Held p → P p) :
    p.Over P ∧ q.Over P := by
  obtain ⟨_, _, _, _, _, first, second⟩ := joins
  have covered := heldCoveredBy held
  exact ⟨pointAll covered trivial p first, pointAll covered trivial q second⟩

theorem Joins.directed {p q : Vec3 (Expr ℝ)} (joins : s.Joins id p q) (inP : plane.Contains v p)
    (inQ : plane.Contains v q) (apart : p.eval v ≠ q.eval v) : s.Directed v (plane.normal v) id (q - p) where
  direction c same := directionOk (same ▸ joins)
  flat := inP.between inQ
  long none := by
    rw [Vec3.evalSub, Vec3.subSelf] at none
    exact apart none.symm
  reads P held := Vec3.overSub (joins.reads held).2 (joins.reads held).1

theorem LiesIn.directed (lies : s.LiesIn plane v (.line, id)) : ∃ d, s.Directed v (plane.normal v) id d := by
  obtain ⟨p, q, joins, inP, inQ, apart⟩ := lies
  exact ⟨q - p, joins.directed inP inQ apart⟩

theorem bothLie {x y : EntityClass × EntityId} (level : ∀ slot ∈ [x, y], s.LiesIn plane v slot) :
    s.LiesIn plane v x ∧ s.LiesIn plane v y :=
  ⟨level x List.mem_cons_self, level y (List.mem_cons_of_mem _ List.mem_cons_self)⟩

theorem linesDirected {a b : EntityId} (level : ∀ slot ∈ [(.line, a), (.line, b)], s.LiesIn plane v slot) :
    ∃ d e, s.Directed v (plane.normal v) a d ∧ s.Directed v (plane.normal v) b e := by
  obtain ⟨first, second⟩ := bothLie level
  obtain ⟨d, hd⟩ := first.directed
  obtain ⟨e, he⟩ := second.directed
  exact ⟨d, e, hd, he⟩

theorem Directed.length {c : Setting ℝ} (h : c.sketch.Directed v n id d) :
    c.lineLength id = .ok (c.project d).magnitude := bindOk.mpr ⟨_, h.direction c rfl, rfl⟩

theorem valuesKept {k : ConstraintKind ℝ} (level : ∀ slot ∈ k.slots, s.LiesIn plane v slot)
    (compared : k.comparison? = some .values) : ∃ y, ∀ c : Setting ℝ, c.sketch = s → c.Keeps v (plane.normal v) →
      ∃ r, c.residuals k = .ok [r] ∧ r.eval v = y := by
  cases k with
  | pointPointDistance a b x =>
    obtain ⟨⟨p, first, inP⟩, q, second, inQ⟩ := bothLie level
    refine ⟨((p - q).eval v).length - x, ?_⟩
    rintro c rfl keeps
    refine ⟨_, bindOk.mpr ⟨p, liftedOk first, bindOk.mpr ⟨q, liftedOk second, rfl⟩⟩, ?_⟩
    rw [Expr.evalSub, lengthKept keeps (inQ.between inP), Expr.evalConst]
  | equalLengthLines a b =>
    obtain ⟨d, e, hd, he⟩ := linesDirected level
    refine ⟨(d.eval v).length - (e.eval v).length, ?_⟩
    rintro c rfl keeps
    refine ⟨_, bindOk.mpr ⟨_, hd.length, bindOk.mpr ⟨_, he.length, rfl⟩⟩, ?_⟩
    rw [Expr.evalSub, lengthKept keeps hd.flat, lengthKept keeps he.flat]
  | lengthRatio a b x =>
    obtain ⟨d, e, hd, he⟩ := linesDirected level
    refine ⟨(d.eval v).length / (e.eval v).length - x, ?_⟩
    rintro c rfl keeps
    refine ⟨_, bindOk.mpr ⟨_, hd.length, bindOk.mpr ⟨_, he.length, rfl⟩⟩, ?_⟩
    rw [Expr.evalSub, Expr.evalDiv, lengthKept keeps hd.flat, lengthKept keeps he.flat, Expr.evalConst]
  | lengthDifference a b x =>
    obtain ⟨d, e, hd, he⟩ := linesDirected level
    refine ⟨(d.eval v).length - (e.eval v).length - x, ?_⟩
    rintro c rfl keeps
    refine ⟨_, bindOk.mpr ⟨_, hd.length, bindOk.mpr ⟨_, he.length, rfl⟩⟩, ?_⟩
    rw [Expr.evalSub, Expr.evalSub, lengthKept keeps hd.flat, lengthKept keeps he.flat, Expr.evalConst]
  | angle a b degrees supplementary =>
    obtain ⟨d, e, hd, he⟩ := linesDirected level
    refine ⟨(if supplementary then -(d.eval v).cosine (e.eval v) else (d.eval v).cosine (e.eval v)) -
      Scalar.cos (Scalar.radians degrees), ?_⟩
    rintro c rfl keeps
    refine ⟨_, bindOk.mpr ⟨_, hd.direction c rfl, bindOk.mpr ⟨_, he.direction c rfl, rfl⟩⟩, ?_⟩
    rw [Expr.evalSub, turnedCosineKept keeps hd.flat he.flat, Expr.evalConst]
  | equalAngle a b a' b' supplementary =>
    obtain ⟨first, second, third, fourth⟩ : s.LiesIn plane v (.line, a) ∧ s.LiesIn plane v (.line, b) ∧
        s.LiesIn plane v (.line, a') ∧ s.LiesIn plane v (.line, b') := by
      simpa [ConstraintKind.slots] using level
    obtain ⟨d, hd⟩ := first.directed
    obtain ⟨e, he⟩ := second.directed
    obtain ⟨d', hd'⟩ := third.directed
    obtain ⟨e', he'⟩ := fourth.directed
    refine ⟨(if supplementary then -(d.eval v).cosine (e.eval v) else (d.eval v).cosine (e.eval v)) -
      (d'.eval v).cosine (e'.eval v), ?_⟩
    rintro c rfl keeps
    refine ⟨_, bindOk.mpr ⟨_, hd.direction c rfl, bindOk.mpr ⟨_, he.direction c rfl, bindOk.mpr ⟨_, hd'.direction c rfl,
      bindOk.mpr ⟨_, he'.direction c rfl, rfl⟩⟩⟩⟩, ?_⟩
    rw [Expr.evalSub, turnedCosineKept keeps hd.flat he.flat, cosineKept keeps hd'.flat he'.flat]
  | perpendicular a b =>
    obtain ⟨d, e, hd, he⟩ := linesDirected level
    refine ⟨(d.eval v).cosine (e.eval v), ?_⟩
    rintro c rfl keeps
    refine ⟨_, bindOk.mpr ⟨_, hd.direction c rfl, bindOk.mpr ⟨_, he.direction c rfl, rfl⟩⟩, ?_⟩
    exact cosineKept keeps hd.flat he.flat
  | _ => cases compared

theorem zerosKept {k : ConstraintKind ℝ} (level : ∀ slot ∈ k.slots, s.LiesIn plane v slot)
    (compared : k.comparison? = some .zeros) : ∃ same : Prop, ∀ c : Setting ℝ, c.sketch = s → c.Keeps v (plane.normal v) →
      ∃ rs, c.residuals k = .ok rs ∧ ((∀ r ∈ rs, r.eval v = 0) ↔ same) := by
  cases k with
  | pointsCoincident a b =>
    obtain ⟨⟨p, first, inP⟩, q, second, inQ⟩ := bothLie level
    refine ⟨((p - q).eval v).dot ((p - q).eval v) = 0, ?_⟩
    rintro c rfl keeps
    refine ⟨_, bindOk.mpr ⟨p, liftedOk first, bindOk.mpr ⟨q, liftedOk second, rfl⟩⟩, ?_⟩
    exact vanishesKept keeps (inQ.between inP)
  | atMidpoint point line =>
    obtain ⟨⟨r, placed, inR⟩, p, q, joins, inP, inQ, _⟩ := bothLie level
    refine ⟨((r - (p + q).scale (.const 0.5)).eval v).dot ((r - (p + q).scale (.const 0.5)).eval v) = 0, ?_⟩
    rintro c rfl keeps
    refine ⟨_, bindOk.mpr ⟨_, lineOk joins, bindOk.mpr ⟨r, liftedOk placed, rfl⟩⟩, ?_⟩
    exact vanishesKept keeps (inP.middle inQ inR)
  | _ => cases compared

theorem distanceKept {point line : EntityId} {x : ℝ} {b : Basis ℝ}
    (level : ∀ slot ∈ (ConstraintKind.pointLineDistance point line x).slots, s.LiesIn plane v slot) {c d : Setting ℝ}
    (hc : c.sketch = s) (keeps : c.Keeps v (plane.normal v)) (basis : c.basis = some b) (hd : d.sketch = s)
    (space : d.basis = none) : ∃ r t y, c.residuals (.pointLineDistance point line x) = .ok [r] ∧
      d.residuals (.pointLineDistance point line x) = .ok [t] ∧ r.eval v = y - x ∧ t.eval v = |y| - x := by
  obtain ⟨⟨r, placed, inR⟩, p, q, joins, inP, inQ, _⟩ := bothLie level
  have along := inP.between inQ
  have off := inP.between inR
  have planar := planarDistance basis (hc ▸ joins) (hc ▸ placed)
  have spatial := spatialDistance space (hd ▸ joins) (hd ▸ placed)
  refine ⟨_, _, ((c.project (q - p)).planarCross (c.project (r - p))).eval v / ((q - p).eval v).length,
    bindOk.mpr ⟨_, planar, rfl⟩, bindOk.mpr ⟨_, spatial, rfl⟩, ?_, ?_⟩
  · rw [Expr.evalSub, Expr.evalDiv, lengthKept keeps along, Expr.evalConst]
  · have area := areaSize keeps basis along off
    rw [Expr.evalSub, Expr.evalDiv, Vec3.evalMagnitude, Vec3.evalMagnitude, Vec3.evalCross, Vec3.crossLength, area, abs_div,
      abs_of_nonneg Vec3.lengthNonneg, Expr.evalConst]

theorem Held.unmoved {helper : ParamId} (own : ¬ s.Held helper)
    (reads : ∀ P : ParamId → Prop, (∀ p, s.Held p → P p) → d.Over P) (x : ℝ) :
    d.eval (Function.update v helper x) = d.eval v := by
  have apart : ∀ p, s.Held p → p ≠ helper := by
    rintro p held rfl
    exact own held
  exact Vec3.evalCongr (reads _ apart) fun p differs => Function.update_of_ne differs x v

theorem zerosForSomeKept {k : ConstraintKind ℝ} {id : ConstraintId} {b : Basis ℝ}
    (level : ∀ slot ∈ k.slots, s.LiesIn plane v slot) (compared : k.comparison? = some .zerosForSome)
    (own : ¬ s.Held (.constraint id 0)) {c d : Setting ℝ} (hc : c.sketch = s) (keeps : c.Keeps v (plane.normal v))
    (basis : c.basis = some b) (hd : d.sketch = s) (space : d.basis = none) (named : d.constraint = id) :
    ∃ rs ts, c.residuals k = .ok rs ∧ d.residuals k = .ok ts ∧ ((∀ r ∈ rs, r.eval v = 0) ↔
      ∃ x, ∀ t ∈ ts, t.eval (Function.update v (.constraint id 0) x) = 0) := by
  have helper (x : ℝ) : d.helper.eval (Function.update v (.constraint id 0) x) = x := by
    rw [helper, named]
    exact Function.update_self _ x v
  cases k with
  | pointOnLine point line =>
    obtain ⟨⟨r, placed, inR⟩, p, q, joins, inP, inQ, apart⟩ := bothLie level
    have along := joins.directed inP inQ apart
    have off := inP.between inR
    refine ⟨[(c.project (q - p)).planarCross (c.project (r - p)) / (c.project (q - p)).magnitude],
      (p + (q - p).scale d.helper - r).toList, ?_, ?_, ?_⟩
    · simp only [residuals, basis, Option.isSome_some, if_true]
      exact bindOk.mpr ⟨_, planarDistance basis (hc ▸ joins) (hc ▸ placed), rfl⟩
    · simp only [residuals, space]
      exact bindOk.mpr ⟨_, lineOk (hd ▸ joins), bindOk.mpr ⟨r, liftedOk (hd ▸ placed), rfl⟩⟩
    · have reached (x : ℝ) : (p + (q - p).scale d.helper - r).eval (Function.update v (.constraint id 0) x) =
          p.eval v + ((q - p).eval v).scale x - r.eval v := by
        have spot {P : ParamId → Prop} (held : ∀ p, s.Held p → P p) : r.Over P :=
          pointAll (heldCoveredBy held) trivial r placed
        rw [Vec3.evalSub, Vec3.evalAdd, Vec3.evalScale, Held.unmoved own fun _ held => (joins.reads held).1,
          Held.unmoved own along.reads, Held.unmoved own fun _ held => spot held, helper]
      rw [List.forall_mem_singleton, Expr.evalDiv, lengthKept keeps along.flat, div_eq_zero_iff,
        or_iff_left (Vec3.lengthZero.not.mpr along.long), ← mul_self_eq_zero, areaKept keeps basis along.flat off,
        Vec3.crossZero along.long]
      refine exists_congr fun x => ?_
      rw [Vec3.toListZero, reached, Vec3.subSelf, Vec3.addEq, Vec3.evalSub (a := r)]
  | parallel a b =>
    obtain ⟨da, db, ha, hb⟩ := linesDirected level
    refine ⟨[(c.project da).planarCross (c.project db)], (da - db.scale d.helper).toList, ?_, ?_, ?_⟩
    · refine bindOk.mpr ⟨_, ha.direction c hc, bindOk.mpr ⟨_, hb.direction c hc, ?_⟩⟩
      rw [basis]
      rfl
    · refine bindOk.mpr ⟨_, ha.direction d hd, bindOk.mpr ⟨_, hb.direction d hd, ?_⟩⟩
      simp only [project, space]
      rfl
    · rw [List.forall_mem_singleton, ← mul_self_eq_zero, areaKept keeps basis ha.flat hb.flat, Vec3.crossSwap,
        Vec3.crossZero hb.long]
      refine exists_congr fun x => ?_
      rw [Vec3.toListZero, Vec3.evalSub, Vec3.evalScale, Held.unmoved own ha.reads, Held.unmoved own hb.reads, helper,
        Vec3.subSelf]
  | _ => cases compared

theorem measuredOk {c : Constraint ℝ} {d : Setting ℝ} {rs : List (Expr ℝ)} (setting : Setting.of s c = .ok d)
    (written : d.residuals c.kind = .ok rs) : ∃ qs, s.measuredEquations c = .ok qs ∧ qs.map Equation.expr = rs := by
  refine ⟨_, bindOk.mpr ⟨d, setting, bindOk.mpr ⟨rs, written, rfl⟩⟩, ?_⟩
  exact List.ext_getElem (by simp) fun i _ _ => by simp

theorem planeInSpace {w origin normal : EntityId} {e o n : Entity ℝ} {spot : Vec3 ParamId} {turn : Quat ParamId}
    (found : s.entities.get? w = some e) (kind : e.kind = .workplane origin normal)
    (first : s.entities.get? origin = some o) (place : o.kind = .pointIn3d spot)
    (second : s.entities.get? normal = some n) (turned : n.kind = .normalIn3d turn) :
    s.planeExpr w = .ok ⟨.ofParams spot, .ofParams turn⟩ := by
  refine bindOk.mpr ⟨e, entityFound.mpr found, ?_⟩
  rw [kind]
  refine bindOk.mpr ⟨.ofParams spot, bindOk.mpr ⟨o, entityFound.mpr first, ?_⟩, ?_⟩
  · rw [place]
    rfl
  refine bindOk.mpr ⟨.ofParams turn, bindOk.mpr ⟨n, entityFound.mpr second, ?_⟩, rfl⟩
  rw [turned]
  rfl

theorem drawnOk {w : EntityId} {e : Entity ℝ} {spot : Vec2 ParamId} (found : s.entities.get? id = some e)
    (kind : e.kind = .pointIn2d spot) (lies : e.workplane = some w) (placed : s.planeExpr w = .ok plane) :
    s.pointExpr id = .ok (plane.drawn spot) := by
  refine bindOk.mpr ⟨e, entityFound.mpr found, ?_⟩
  rw [kind, lies]
  exact bindOk.mpr ⟨w, rfl, bindOk.mpr ⟨plane, placed, rfl⟩⟩

theorem pointOfCopy {e : Entity ℝ} {p : Vec3 ℝ} (found : s.entities.get? id = some e) (kind : e.kind = .pointCopy p .identity) :
    s.pointExpr id = .ok p.toExpr := by
  refine bindOk.mpr ⟨e, entityFound.mpr found, ?_⟩
  rw [kind]
  rfl

theorem planeOfCopies {w origin normal : EntityId} {e o n : Entity ℝ} {p : Vec3 ℝ} {q : Quat ℝ}
    (found : s.entities.get? w = some e) (kind : e.kind = .workplane origin normal)
    (first : s.entities.get? origin = some o) (place : o.kind = .pointCopy p .identity)
    (second : s.entities.get? normal = some n) (turned : n.kind = .normalCopy q .identity) :
    s.planeExpr w = .ok ⟨p.toExpr, q.toExpr⟩ := by
  refine bindOk.mpr ⟨e, entityFound.mpr found, ?_⟩
  rw [kind]
  refine bindOk.mpr ⟨p.toExpr, bindOk.mpr ⟨o, entityFound.mpr first, ?_⟩, ?_⟩
  · rw [place]
    rfl
  refine bindOk.mpr ⟨q.toExpr, bindOk.mpr ⟨n, entityFound.mpr second, ?_⟩, rfl⟩
  rw [turned]
  rfl

noncomputable def floorPlane : PlaneExpr ℝ := ⟨Vec3.toExpr ⟨0, 0, 0⟩, Quat.toExpr .identity⟩

def numbered (n : Nat) (kind : EntityKind α) : Entity α := { id := .request ⟨n⟩ 0, group := ⟨1⟩, kind }

theorem sketchOf {es : List (Entity ℝ)} (distinct : (es.map Entity.id).Nodup) :
    ∃ s : Sketch ℝ, ∀ id e, s.entities.get? id = some e ↔ e ∈ es ∧ e.id = id :=
  ⟨{ entities := es.foldl Registry.add {} }, fun _ _ => Registry.getFilled distinct⟩

/- On what lies in a workplane of unit orientation, a constraint in that workplane and the same constraint in space
both have equations, and these compare as their kind says. A parameter of the constraint itself places nothing, as
in every intact sketch (`Intact.helperFree`). -/
theorem planarFormAgrees {w : EntityId} (placed : s.planeExpr w = .ok plane) (unit : (plane.orientation.eval v).length = 1)
    {kind : ConstraintKind ℝ} (level : ∀ slot ∈ kind.slots, s.LiesIn plane v slot) {way : Comparison ℝ}
    (compared : kind.comparison? = some way) (id : ConstraintId) (group : GroupId) (reference : Bool)
    (own : ∀ p ∈ (⟨id, group, none, kind, reference⟩ : Constraint ℝ).helpers, ¬ s.Held p) :
    ∃ qs rs, s.measuredEquations ⟨id, group, some w, kind, reference⟩ = .ok qs ∧
      s.measuredEquations ⟨id, group, none, kind, reference⟩ = .ok rs ∧
      way.Holds v (.constraint id 0) (qs.map Equation.expr) (rs.map Equation.expr) := by
  let planar : Setting ℝ :=
    ⟨s, id, kind.typeName, some ⟨plane.origin, plane.orientation.imageU, plane.orientation.imageV⟩⟩
  let spatial : Setting ℝ := ⟨s, id, kind.typeName, none⟩
  have planarOf : Setting.of s ⟨id, group, some w, kind, reference⟩ = .ok planar :=
    bindOk.mpr ⟨plane, liftedOk placed, rfl⟩
  have spatialOf : Setting.of s ⟨id, group, none, kind, reference⟩ = .ok spatial := rfl
  have inPlane : planar.Keeps v (plane.normal v) := planeKeeps rfl unit
  have inSpace : spatial.Keeps v (plane.normal v) := spaceKeeps rfl
  suffices forms : ∃ qs rs, planar.residuals kind = .ok qs ∧ spatial.residuals kind = .ok rs ∧
      way.Holds v (.constraint id 0) qs rs by
    obtain ⟨qs, rs, first, second, holds⟩ := forms
    obtain ⟨eqs, written, rfl⟩ := measuredOk planarOf first
    obtain ⟨eqs', written', rfl⟩ := measuredOk spatialOf second
    exact ⟨eqs, eqs', written, written', holds⟩
  cases way with
  | values =>
    obtain ⟨y, each⟩ := valuesKept level compared
    obtain ⟨q, first, worth⟩ := each planar rfl inPlane
    obtain ⟨r, second, worth'⟩ := each spatial rfl inSpace
    exact ⟨[q], [r], first, second, congrArg (fun x => [x]) (worth.trans worth'.symm)⟩
  | zeros =>
    obtain ⟨same, each⟩ := zerosKept level compared
    obtain ⟨qs, first, zero⟩ := each planar rfl inPlane
    obtain ⟨rs, second, zero'⟩ := each spatial rfl inSpace
    exact ⟨qs, rs, first, second, zero.trans zero'.symm⟩
  | zerosForSome =>
    have free : ¬ s.Held (.constraint id 0) := by
      refine own _ ?_
      cases kind with
      | pointOnLine | parallel => exact List.mem_cons_self
      | _ => cases compared
    exact zerosForSomeKept level compared free rfl inPlane rfl rfl rfl rfl
  | distance x =>
    cases kind with
    | pointLineDistance point line x' =>
      cases compared
      obtain ⟨q, r, y, first, second, worth, worth'⟩ :=
        distanceKept level (c := planar) (d := spatial) rfl inPlane rfl rfl rfl
      exact ⟨[q], [r], first, second, y, congrArg (fun x => [x]) worth, congrArg (fun x => [x]) worth'⟩
    | _ => cases compared

theorem drawnEndOnLine : ∃ (s : Sketch ℝ) (w : EntityId) (plane : PlaneExpr ℝ) (v : ParamId → ℝ) (kind : ConstraintKind ℝ),
    s.planeExpr w = .ok plane ∧ (plane.orientation.eval v).length = 1 ∧ (∀ slot ∈ kind.slots, s.LiesIn plane v slot) ∧
    kind.comparison? = some .zerosForSome ∧ ¬ s.Held (.constraint ⟨9⟩ 0) ∧
    ∃ qs rs, s.measuredEquations ⟨⟨9⟩, ⟨1⟩, some w, kind, false⟩ = .ok qs ∧
      s.measuredEquations ⟨⟨9⟩, ⟨1⟩, none, kind, false⟩ = .ok rs ∧
      ((∀ q ∈ qs.map Equation.expr, q.eval v = 0) ↔
        ∃ x, ∀ r ∈ rs.map Equation.expr, r.eval (Function.update v (.constraint ⟨9⟩ 0) x) = 0) := by
  let origin : Entity ℝ :=
    { id := .request ⟨1⟩ 0, group := ⟨1⟩, kind := .pointIn3d ⟨.request ⟨1⟩ 0, .request ⟨1⟩ 1, .request ⟨1⟩ 2⟩ }
  let normal : Entity ℝ :=
    { id := .request ⟨2⟩ 0, group := ⟨1⟩,
      kind := .normalIn3d ⟨.request ⟨2⟩ 1, .request ⟨2⟩ 2, .request ⟨2⟩ 3, .request ⟨2⟩ 0⟩ }
  let level : Entity ℝ := { id := .request ⟨3⟩ 0, group := ⟨1⟩, kind := .workplane origin.id normal.id }
  let spot (r : RequestId) : Entity ℝ :=
    { id := .request r 0, group := ⟨1⟩, workplane := some level.id, kind := .pointIn2d ⟨.request r 0, .request r 1⟩ }
  let edge : Entity ℝ := { id := .request ⟨6⟩ 0, group := ⟨1⟩, kind := .line (spot ⟨4⟩).id (spot ⟨5⟩).id }
  let es := [origin, normal, level, spot ⟨4⟩, spot ⟨5⟩, edge]
  have distinct : (es.map Entity.id).Nodup := by decide
  obtain ⟨s, known⟩ := sketchOf distinct
  have there (e : Entity ℝ) (member : e ∈ es) : s.entities.get? e.id = some e := (known _ _).mpr ⟨member, rfl⟩
  let plane : PlaneExpr ℝ := ⟨.ofParams ⟨.request ⟨1⟩ 0, .request ⟨1⟩ 1, .request ⟨1⟩ 2⟩,
    .ofParams ⟨.request ⟨2⟩ 1, .request ⟨2⟩ 2, .request ⟨2⟩ 3, .request ⟨2⟩ 0⟩⟩
  have placed : s.planeExpr level.id = .ok plane :=
    planeInSpace (there level (by simp [es])) rfl (there origin (by simp [es])) rfl (there normal (by simp [es])) rfl
  -- The normal is not turned, and the second spot is off the origin.
  let v : ParamId → ℝ := fun p => if p = .request ⟨2⟩ 0 ∨ p = .request ⟨5⟩ 0 then 1 else 0
  have unit : (plane.orientation.eval v).length = 1 := by
    rw [Quat.unitSquares]
    simp [plane, v, Quat.ofParams, Quat.eval, Quat.map, ParamId.request]
  have own : ¬ s.Held (.constraint ⟨9⟩ 0) := by
    rintro ⟨id, e, found, member⟩
    have listed := ((known id e).mp found).1
    simp only [es, List.mem_cons, List.not_mem_nil, or_false] at listed
    rcases listed with rfl | rfl | rfl | rfl | rfl | rfl <;>
      simp [origin, normal, level, spot, edge, EntityKind.ownParams, EntityKind.placing, Vec3.toList, ParamId.request,
        ParamId.constraint] at member
  have first := drawnOk (there (spot ⟨4⟩) (by simp [es])) rfl rfl placed
  have second := drawnOk (there (spot ⟨5⟩) (by simp [es])) rfl rfl placed
  have apart : (plane.drawn ⟨.request ⟨4⟩ 0, .request ⟨4⟩ 1⟩).eval v ≠
      (plane.drawn ⟨.request ⟨5⟩ 0, .request ⟨5⟩ 1⟩).eval v := by
    rw [PlaneExpr.evalDrawn, PlaneExpr.evalDrawn]
    simp [plane, v, Vec3.ofParams, Vec3.eval, Vec3.map, Quat.ofParams, Quat.eval, Quat.map, ParamId.request, Quat.rotate,
      Vec3.scale, Vec3.cross, Vec3.dot, Vec3.unitX, Vec3.unitY, Vec3.mkAdd]
  let kind : ConstraintKind ℝ := .pointOnLine (spot ⟨5⟩).id edge.id
  have inside : ∀ slot ∈ kind.slots, s.LiesIn plane v slot := by
    intro slot member
    simp only [kind, ConstraintKind.slots, List.mem_cons, List.not_mem_nil, or_false] at member
    rcases member with rfl | rfl
    · exact ⟨_, second, PlaneExpr.containsDrawn _⟩
    · exact ⟨_, _, ⟨edge, _, _, there edge (by simp [es]), rfl, first, second⟩, PlaneExpr.containsDrawn _,
        PlaneExpr.containsDrawn _, apart⟩
  have helpers : ∀ p ∈ (⟨⟨9⟩, ⟨1⟩, none, kind, false⟩ : Constraint ℝ).helpers, ¬ s.Held p := by
    simpa [kind, Constraint.helpers, ConstraintKind.helperCount] using own
  exact ⟨s, level.id, plane, v, kind, placed, unit, inside, rfl, own,
    planarFormAgrees placed unit inside rfl ⟨9⟩ ⟨1⟩ false helpers⟩

end Sketch

end Drafting
