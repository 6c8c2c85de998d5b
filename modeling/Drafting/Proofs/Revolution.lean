import Mathlib.Analysis.Real.Pi.Bounds
import Drafting.Proofs.Motion
import Drafting.Proofs.Watertight
/-! Revolutions over exact numbers. From ring to ring the borders cancel, so what is turned is bordered by its first and
its last ring: the caps close a part of a turn, and after whole turns the two rings are one. -/
namespace Drafting

namespace Vec3

theorem addSub (a b : Vec3 ℝ) : a + (b - a) = b := by
  rcases a with ⟨x, y, z⟩
  rcases b with ⟨bx, yb, bz⟩
  simp only [mkSub, mkAdd, add_sub_cancel]

theorem subAdd (a b c : Vec3 ℝ) : a - (b + c) = a - b - c := by
  rcases a with ⟨x, y, z⟩
  rcases b with ⟨bx, yb, bz⟩
  rcases c with ⟨cx, cy, cz⟩
  simp only [mkSub, mkAdd, sub_add_eq_sub_sub]

theorem scaledSquared (b c : Vec3 ℝ) (s t : ℝ) : (b.scale s - c.scale t).lengthSquared =
    s ^ 2 * b.lengthSquared - 2 * s * t * b.dot c + t ^ 2 * c.lengthSquared := by
  rcases b with ⟨x, y, z⟩
  rcases c with ⟨cx, cy, cz⟩
  simp only [lengthSquared, scale, dot, mkSub]
  ring

theorem wayToAxis {a : Vec3 ℝ} (unit : a.dot a = 1) (v : Vec3 ℝ) :
    (v - a.scale (v.dot a)).dot (a.cross v) = 0 ∧
      (a.cross v).lengthSquared = (v - a.scale (v.dot a)).lengthSquared := by
  rcases a with ⟨ax, ay, az⟩
  rcases v with ⟨x, y, z⟩
  simp only [lengthSquared, scale, cross, dot, mkSub] at unit ⊢
  refine ⟨by ring, ?_⟩
  linear_combination (x * x + y * y + z * z - (x * ax + y * ay + z * az) ^ 2) * unit

end Vec3

namespace Quat
variable {a : Vec3 ℝ}

theorem halfAngle (a : Vec3 ℝ) (angle : ℝ) : ofAxisAngle a angle =
    ⟨a.x * Real.sin (angle / 2), a.y * Real.sin (angle / 2), a.z * Real.sin (angle / 2), Real.cos (angle / 2)⟩ := by
  unfold ofAxisAngle
  rw [exactHalf, mul_one_div]
  rfl

theorem turnChord (unit : a.dot a = 1) (angle : ℝ) (v : Vec3 ℝ) : (v - (ofAxisAngle a angle).rotate v).lengthSquared =
    (2 * Real.sin (angle / 2)) ^ 2 * (v - a.scale (v.dot a)).lengthSquared := by
  have circle := Real.sin_sq_add_cos_sq (angle / 2)
  obtain ⟨apart, same⟩ := Vec3.wayToAxis unit v
  rw [halfAngle]
  generalize Real.sin (angle / 2) = s, Real.cos (angle / 2) = c at circle ⊢
  have moved : v - rotate ⟨a.x * s, a.y * s, a.z * s, c⟩ v =
      (v - a.scale (v.dot a)).scale (2 * s ^ 2) - (a.cross v).scale (2 * s * c) := by
    rcases a with ⟨ax, ay, az⟩
    rcases v with ⟨x, y, z⟩
    simp only [rotate, Vec3.scale, Vec3.cross, Vec3.dot, Vec3.mkAdd, Vec3.mkSub, exactTwo, Vec3.mk.injEq] at unit ⊢
    refine ⟨?_, ?_, ?_⟩
    · linear_combination -x * circle + x * s ^ 2 * unit
    · linear_combination -y * circle + y * s ^ 2 * unit
    · linear_combination -z * circle + z * s ^ 2 * unit
  rw [moved, Vec3.scaledSquared, apart, same]
  linear_combination 4 * s ^ 2 * (v - a.scale (v.dot a)).lengthSquared * circle

theorem rotateWhole {angle : ℝ} (whole : Real.sin (angle / 2) = 0) (v : Vec3 ℝ) :
    (ofAxisAngle a angle).rotate v = v := by
  have circle := Real.sin_sq_add_cos_sq (angle / 2)
  rw [halfAngle]
  rw [whole] at circle ⊢
  rcases v with ⟨x, y, z⟩
  simp only [rotate, Vec3.scale, Vec3.cross, Vec3.dot, Vec3.mkAdd, exactTwo, Vec3.mk.injEq]
  refine ⟨?_, ?_, ?_⟩
  · linear_combination x * circle
  · linear_combination y * circle
  · linear_combination z * circle

end Quat

namespace Profile
open Drafting.Polygon Triangle

section Seams
variable {f g h : Vec2 α → Vec3 α} {l : List (Vec2 α)}

theorem seamSelf : Balanced (seam f f l) := .pairs _

theorem seamJoin : Bordered (seam f g l + seam g h l) (seam f h l) := by
  have middle : seam f g l + seam g h l = seam f h l + (ringEdges g l + (ringEdges g l).map Prod.swap) := by
    simp only [seam]
    ac_rfl
  rw [middle]
  exact .drop (.pairs _)

theorem bandZip (f g : Vec2 α → Vec3 α) (l : List (Vec2 α)) : ((Polygon.edges ((l.map f).zip (l.map g))).flatMap
    fun ((ai, bi), (aj, bj)) => [⟨ai, aj, bj⟩, ⟨ai, bj, bi⟩]) = band f g l := by
  rw [List.zip_map', edgesMap, List.flatMap_map]
  rfl

end Seams

section Loop
variable {place : Nat → Vec2 α → Vec3 α} {l : List (Vec2 α)}

def turned (place : Nat → Vec2 α → Vec3 α) (steps : Nat) (l : List (Vec2 α)) : List (Triangle α) :=
  (List.range steps).flatMap fun s => band (place s) (place (s + 1)) l

theorem turnedStep (steps : Nat) :
    turned place (steps + 1) l = turned place steps l ++ band (place steps) (place (steps + 1)) l := by
  rw [turned, List.range_succ, List.flatMap_append, List.flatMap_singleton]
  rfl

theorem turnedBordered (place : Nat → Vec2 α → Vec3 α) (steps : Nat) (l : List (Vec2 α)) :
    Bordered (Triangle.edges (turned place steps l)) (seam (place 0) (place steps) l) ∧
      (turned place steps l).length = 2 * (steps * l.length) := by
  induction steps with
  | zero => exact ⟨.ofBalanced rfl seamSelf, by simp [turned]⟩
  | succ steps ih =>
    rw [turnedStep, edgesAppend, List.length_append, ih.2]
    refine ⟨(ih.1.add bandBordered).trans seamJoin, ?_⟩
    rw [bandLength]
    ring

variable [Scalar α] {ring : Vec2 α → Vec3 α} {steps : Nat} {full : Bool} {ts : List (Triangle α)}

theorem revolveLoopOk (ok : revolveLoop place ring steps full l = .ok ts) :
    (full = true ∧ ts = turned place steps l) ∨ ∃ ends, full = false ∧ caps l = .ok ends ∧
      ts.Perm (turned place steps l ++
        ((ends.map (placed ring)).map Triangle.flip ++ ends.map (placed (place steps)))) := by
  unfold revolveLoop at ok
  simp only [bandZip] at ok
  cases full with
  | true => exact .inl ⟨rfl, (Except.ok.inj ok).symm⟩
  | false =>
    obtain ⟨ends, capped, made⟩ := Result.bindOk.mp ok
    cases made
    refine .inr ⟨ends, rfl, capped, ?_⟩
    rw [List.map_map]
    exact (pairsPerm (Triangle.flip ∘ placed ring) (placed (place steps)) ends).append_left _

theorem revolveLoopBordered (few : 3 ≤ l.length) (first : place 0 = ring)
    (ok : revolveLoop place ring steps full l = .ok ts) :
    Bordered (Triangle.edges ts) (if full then seam ring (place steps) l else 0) ∧
      ts.length = 2 * (steps * l.length) + if full then 0 else 2 * (l.length - 2) := by
  subst first
  obtain ⟨border, count⟩ := turnedBordered place steps l
  obtain ⟨rfl, rfl⟩ | ⟨ends, rfl, capped, order⟩ := revolveLoopOk ok
  · exact ⟨border, count⟩
  · obtain ⟨balanced, closed⟩ := capsClose few capped border order
    exact ⟨Bordered.none.mpr balanced, count ▸ closed⟩

end Loop

section Turns
variable {p : Profile ℝ} {segments : Nat} {axis : Axis ℝ} {angle : ℝ} {ts : List (Triangle ℝ)}

theorem firstRing : p.ring segments axis angle 0 = p.toWorld := by
  funext x
  have start : angle * Arith.ofNat 0 / Arith.ofNat (turnSteps segments angle) = 0 := by
    rw [show (Arith.ofNat 0 : ℝ) = 0 from Nat.cast_zero, mul_zero, zero_div]
  rw [ring, start, Quat.rotateWhole (by simp), Vec3.addSub]

noncomputable def finalRing (p : Profile ℝ) (segments : Nat) (axis : Axis ℝ) (angle : ℝ) : Vec2 ℝ → Vec3 ℝ :=
  p.ring segments axis angle (turnSteps segments angle)

noncomputable def slit (p : Profile ℝ) (segments : Nat) (axis : Axis ℝ) (angle : ℝ) : Multiset (Vec3 ℝ × Vec3 ℝ) :=
  (p.loops.map fun l => seam p.toWorld (p.finalRing segments axis angle) (oriented l)).sum

theorem revolveOk (ok : p.revolve segments axis angle = .ok ts) : ∃ parts,
    List.Forall₂ (fun l part => 3 ≤ l.length ∧ revolveLoop (p.ring segments axis angle) p.toWorld
      (turnSteps segments angle) (decide (Scalar.tau - 1e-9 ≤ Arith.abs angle)) (oriented l) = .ok part)
      p.loops parts ∧ ts = parts.flatten := by
  rw [revolveRings] at ok
  unfold throughRings at ok
  split at ok
  · cases ok
  obtain ⟨loops, outer, ok⟩ := Result.bindOk.mp ok
  obtain ⟨parts, swept, made⟩ := Result.bindOk.mp ok
  exact ⟨parts, outerLoopsSwept outer swept, (Except.ok.inj made).symm⟩

theorem revolveBordered (ok : p.revolve segments axis angle = .ok ts) :
    Bordered (Triangle.edges ts) (if 2 * Real.pi - 1e-9 ≤ |angle| then p.slit segments axis angle else 0) ∧
      ts.length = (p.loops.map fun l => 2 * (turnSteps segments angle * l.length) +
        if 2 * Real.pi - 1e-9 ≤ |angle| then 0 else 2 * (l.length - 2)).sum := by
  obtain ⟨parts, swept, rfl⟩ := revolveOk ok
  obtain ⟨border, count⟩ := edgesFlatten <| swept.imp fun l part ⟨few, made⟩ => by
    obtain ⟨border, count⟩ := revolveLoopBordered (by rwa [orientedLength]) firstRing made
    rw [orientedLength] at count
    exact ⟨border, count⟩
  have turn : Scalar.tau = 2 * Real.pi := congrArg (· * Real.pi) exactTwo
  simp only [decide_eq_true_iff, turn] at border count
  refine ⟨?_, count⟩
  by_cases full : 2 * Real.pi - 1e-9 ≤ Arith.abs angle
  · simp only [if_pos full] at border
    exact (if_pos full).symm ▸ border
  · simp only [if_neg full, List.map_const', List.sum_replicate, nsmul_zero] at border
    exact (if_neg full).symm ▸ border

theorem slitWhole (whole : ∃ n : ℤ, angle = n * (2 * Real.pi)) : Balanced (p.slit segments axis angle) := by
  obtain ⟨n, rfl⟩ := whole
  have half : Real.sin (n * (2 * Real.pi) / 2) = 0 := by
    rw [show (n * (2 * Real.pi) / 2 : ℝ) = n * Real.pi by ring]
    exact Real.sin_int_mul_pi n
  have same : p.finalRing segments axis (n * (2 * Real.pi)) = p.toWorld := by
    funext x
    rw [finalRing, lastRing, Quat.rotateWhole half, Vec3.addSub]
  rw [slit, same]
  induction p.loops with
  | nil => rfl
  | cons l loops ih => exact seamSelf.add ih

theorem slitNarrow (unit : axis.direction.length = 1) (near : |(|angle| - 2 * Real.pi)| ≤ 1e-9) (x : Vec2 ℝ) :
    (p.toWorld x).distance (p.finalRing segments axis angle x) ≤
      1e-9 * (p.toWorld x).distance (axis.project (p.toWorld x)) := by
  have chord : |2 * Real.sin (angle / 2)| ≤ 1e-9 := by
    calc |2 * Real.sin (angle / 2)| = 2 * |Real.sin (|angle| / 2)| := by
          rw [abs_mul, abs_two]
          obtain same | same := abs_choice angle
          · rw [same]
          · rw [same, neg_div, Real.sin_neg, abs_neg]
      _ = 2 * |Real.sin (|angle| / 2 - Real.pi)| := by rw [Real.sin_sub_pi, abs_neg]
      _ ≤ 2 * |(|angle| / 2 - Real.pi)| := mul_le_mul_of_nonneg_left Real.abs_sin_le_abs two_pos.le
      _ = |2 * (|angle| / 2 - Real.pi)| := by rw [abs_mul, abs_two]
      _ = |(|angle| - 2 * Real.pi)| := by rw [mul_sub, mul_div_cancel₀ _ two_ne_zero]
      _ ≤ 1e-9 := near
  have square : axis.direction.dot axis.direction = 1 := by rw [← Vec3.lengthSelf, unit, one_mul]
  rw [Vec3.distance, Vec3.distance, finalRing, lastRing, Axis.project, Vec3.subAdd, Vec3.subAdd]
  generalize p.toWorld x - axis.origin = v
  calc (v - (Quat.ofAxisAngle axis.direction angle).rotate v).length
      = Real.sqrt ((2 * Real.sin (angle / 2)) ^ 2 *
          (v - axis.direction.scale (v.dot axis.direction)).lengthSquared) :=
        congrArg Real.sqrt (Quat.turnChord square angle v)
    _ = |2 * Real.sin (angle / 2)| * (v - axis.direction.scale (v.dot axis.direction)).length := by
        rw [Real.sqrt_mul (sq_nonneg _), Real.sqrt_sq_eq_abs]
        rfl
    _ ≤ 1e-9 * (v - axis.direction.scale (v.dot axis.direction)).length :=
        mul_le_mul_of_nonneg_right chord Vec3.lengthNonneg

end Turns
end Profile

namespace Kernel
variable {k k' : Kernel ℝ} {p : Profile ℝ} {axis : Axis ℝ} {angle : ℝ} {s : ShellId}

theorem revolveStores (ok : k.revolve p axis angle = .ok (s, k')) : ∃ ts, p.revolve k.segments axis angle = .ok ts ∧
    k'.contents s = some (.ofTriangles ts) := by
  obtain ⟨_, _, ok⟩ := Result.bindOk.mp ok
  obtain ⟨ts, made, stored⟩ := Result.bindOk.mp ok
  exact ⟨ts, made, ((storedGains stored).shells s).trans (if_pos rfl)⟩

/- Parts of a turn and whole turns have no gap; what is taken for a full turn within the tolerance has one between its
first and its last ring alone, no wider than the tolerance times the distance from the axis. -/
theorem revolutionWatertight (unit : axis.direction.length = 1) (ok : k.revolve p axis angle = .ok (s, k')) :
    ∃ m, k'.contents s = some m ∧
      (|angle| < 2 * Real.pi - 1e-9 ∨ (∃ n : ℤ, angle = n * (2 * Real.pi)) → m.Watertight) ∧
      (|(|angle| - 2 * Real.pi)| ≤ 1e-9 → m.triangles.length = m.triangleCount ∧
        Bordered (Triangle.edges m.triangles) (p.slit k.segments axis angle) ∧
        ∀ x, (p.toWorld x).distance (p.finalRing k.segments axis angle x) ≤
          1e-9 * (p.toWorld x).distance (axis.project (p.toWorld x))) ∧
      m.triangleCount = (p.loops.map fun l => 2 * (Profile.turnSteps k.segments angle * l.length) +
        if 2 * Real.pi - 1e-9 ≤ |angle| then 0 else 2 * (l.length - 2)).sum := by
  obtain ⟨ts, made, stored⟩ := revolveStores ok
  obtain ⟨border, count⟩ := Profile.revolveBordered made
  refine ⟨_, stored, fun closed => ?_, fun near => ?_, ?_⟩
  · refine Mesh.watertightOfTriangles.mpr ?_
    by_cases full : 2 * Real.pi - 1e-9 ≤ |angle|
    · rw [if_pos full] at border
      exact border.balanced (Profile.slitWhole (closed.resolve_left full.not_gt))
    · rw [if_neg full] at border
      exact Bordered.none.mp border
  · have full : 2 * Real.pi - 1e-9 ≤ |angle| := by linarith [neg_abs_le (|angle| - 2 * Real.pi)]
    rw [if_pos full] at border
    rw [Mesh.trianglesOfTriangles, Mesh.countOfTriangles]
    exact ⟨rfl, border, Profile.slitNarrow unit near⟩
  · rw [Mesh.countOfTriangles, count]

def outline : List (Vec2 ℝ) := [⟨300000, 0⟩, ⟨600000, 0⟩, ⟨300000, 300000⟩]

noncomputable def rib : Profile ℝ where
  origin := .zero
  u := .unitX
  v := .unitZ
  loops := [outline]

noncomputable def upright : Axis ℝ := ⟨.zero, .unitZ⟩

def coarse : Kernel ℝ := { segments := 3 }

theorem uprightUnit : upright.direction.length = 1 := by
  refine Real.sqrt_eq_one.mpr ?_
  norm_num [upright, Vec3.lengthSquared, Vec3.dot, Vec3.unitZ]

theorem outlineArea : ¬Polygon.signedArea outline < 0 := by
  norm_num [outline, Polygon.signedArea, Polygon.edges, Vec2.perpDot]

theorem ribStored {angle : ℝ} (far : 1e-9 ≤ |angle|) : ∃ (k : Kernel ℝ) (s : ShellId),
    coarse.revolve rib upright angle = .ok (s, k) := by
  have wide : ¬((decide (Arith.abs angle < 1e-9) || upright.direction == Vec3.zero) = true) := by
    intro either
    rcases Bool.or_eq_true_iff.mp either with short | flat
    · exact (of_decide_eq_true short).not_ge far
    · change ((0.0 : ℝ) == 0.0 && ((0.0 : ℝ) == 0.0 && (1.0 : ℝ) == 0.0)) = true at flat
      simp at flat
  have kept : Profile.orient outline = .ok outline := by
    rw [Profile.orient, exactZero, if_neg outlineArea]
    rfl
  have outer : rib.outerLoops = .ok [outline] := by
    rw [Profile.outerLoops, rib]
    simp [kept, Profile.nested]
    rfl
  have swept (place : Nat → Vec2 ℝ → Vec3 ℝ) (ring : Vec2 ℝ → Vec3 ℝ) (steps : Nat) (full : Bool) :
      ∃ part, Profile.revolveLoop place ring steps full outline = .ok part := by
    cases full <;> exact ⟨_, rfl⟩
  obtain ⟨part, swept⟩ := swept (rib.ring 3 upright angle) rib.toWorld (Profile.turnSteps 3 angle)
    (decide (Scalar.tau - 1e-9 ≤ Arith.abs angle))
  have made : rib.revolve 3 upright angle = .ok [part].flatten := by
    rw [Profile.revolveRings]
    unfold Profile.throughRings
    rw [if_neg wide, outer]
    simp only [Except.bind, bind, pure, List.mapM_cons, List.mapM_nil, swept]
    rfl
  exact ⟨_, _, Result.bindOk.mpr ⟨(), rfl, Result.bindOk.mpr ⟨_, made, rfl⟩⟩⟩

theorem ribPlace (q : Vec2 ℝ) : rib.toWorld q = ⟨q.x, 0, q.y⟩ := by
  simp [rib, Profile.toWorld, Vec3.zero, Vec3.unitX, Vec3.unitZ, Vec3.scale, Vec3.mkAdd]

theorem ribLeaves (segments : Nat) (angle : ℝ) (q : Vec2 ℝ) :
    (rib.finalRing segments upright angle q).y = q.x * Real.sin angle := by
  have double : Real.sin angle = 2 * Real.sin (angle / 2) * Real.cos (angle / 2) := by
    rw [← Real.sin_two_mul, mul_div_cancel₀ _ two_ne_zero]
  rw [Profile.finalRing, Profile.lastRing, Quat.halfAngle, double, ribPlace]
  simp only [upright, Quat.rotate, Vec3.zero, Vec3.unitZ, Vec3.scale, Vec3.cross, Vec3.dot, Vec3.mkAdd, Vec3.mkSub,
    exactZero, exactOne, exactTwo]
  ring

/- An edge of the first ring would have to come back in the last one, which is out of its plane. -/
theorem ribUnmatched {segments : Nat} {angle : ℝ} (turned : Real.sin angle ≠ 0) :
    ¬Balanced (rib.slit segments upright angle) := by
  intro closed
  have kept : Profile.oriented outline = outline := by rw [Profile.oriented, exactZero, if_neg outlineArea]
  have slit : rib.slit segments upright angle =
      Profile.seam rib.toWorld (rib.finalRing segments upright angle) outline := by
    rw [Profile.slit, rib, List.map_singleton, List.sum_singleton, kept]
  rw [slit] at closed
  have start : (rib.toWorld ⟨300000, 0⟩, rib.toWorld ⟨600000, 0⟩) ∈ Profile.ringEdges rib.toWorld outline :=
    Multiset.mem_map.mpr ⟨(⟨300000, 0⟩, ⟨600000, 0⟩), by simp [outline, Polygon.edges], rfl⟩
  have cases {e : Vec2 ℝ × Vec2 ℝ} (member : e ∈ (Polygon.edges outline : Multiset (Vec2 ℝ × Vec2 ℝ))) :
      e = (⟨300000, 0⟩, ⟨600000, 0⟩) ∨ e = (⟨600000, 0⟩, ⟨300000, 300000⟩) ∨
        e = (⟨300000, 300000⟩, ⟨300000, 0⟩) := by
    simpa [outline, Polygon.edges] using member
  rcases Multiset.mem_add.mp (closed.back (Multiset.mem_add.mpr (.inl start))) with front | behind
  · obtain ⟨e, member, same⟩ := Multiset.mem_map.mp front
    simp only [Prod.map, Prod.swap_prod_mk, Prod.mk.injEq, ribPlace, Vec3.mk.injEq] at same
    rcases cases member with rfl | rfl | rfl <;> norm_num at same
  · obtain ⟨_, last, same⟩ := Multiset.mem_map.mp behind
    obtain ⟨e, member, rfl⟩ := Multiset.mem_map.mp last
    have level := congrArg (fun e => Vec3.y e.1) same
    simp only [Prod.map, Prod.swap_prod_mk, ribPlace, ribLeaves] at level
    rcases cases member with rfl | rfl | rfl <;> norm_num [turned] at level

theorem ribOpen : ∃ (k : Kernel ℝ) (s : ShellId) (m : Mesh ℝ), upright.direction.length = 1 ∧
    coarse.revolve rib upright 6.2831853067 = .ok (s, k) ∧ k.contents s = some m ∧
      ¬Balanced (Triangle.edges m.triangles) := by
  have low := Real.pi_gt_d20
  have high := Real.pi_lt_d20
  have size : |(6.2831853067 : ℝ)| = 6.2831853067 := abs_of_pos (by norm_num)
  have turned : Real.sin 6.2831853067 ≠ 0 := by
    rw [← Real.sin_sub_two_pi]
    exact (Real.sin_neg_of_neg_of_neg_pi_lt (by linarith) (by linarith)).ne
  obtain ⟨k, s, ok⟩ := ribStored (show (1e-9 : ℝ) ≤ |6.2831853067| by rw [size]; norm_num)
  obtain ⟨ts, made, stored⟩ := revolveStores ok
  refine ⟨k, s, _, uprightUnit, ok, stored, fun closed => ?_⟩
  obtain ⟨border, _⟩ := Profile.revolveBordered made
  rw [if_pos (by rw [size]; linarith)] at border
  rw [Mesh.trianglesOfTriangles] at closed
  exact ribUnmatched turned (border.border closed)

theorem ribWatertight : ∃ (k : Kernel ℝ) (s : ShellId) (m : Mesh ℝ),
    coarse.revolve rib upright (2 * Real.pi) = .ok (s, k) ∧ k.contents s = some m ∧ m.Watertight ∧
      m.triangleCount = 18 := by
  have size : |2 * Real.pi| = 2 * Real.pi := abs_of_pos (by positivity)
  have low := Real.pi_gt_d20
  obtain ⟨k, s, ok⟩ := ribStored (show (1e-9 : ℝ) ≤ |2 * Real.pi| by rw [size]; linarith)
  obtain ⟨m, there, closed, _, count⟩ := revolutionWatertight uprightUnit ok
  refine ⟨k, s, m, ok, there, closed (.inr ⟨1, by rw [Int.cast_one, one_mul]⟩), ?_⟩
  have steps : Profile.turnSteps 3 (2 * Real.pi) = 3 := by
    have whole : Arith.ofNat 3 * Arith.abs (2 * Real.pi) / Scalar.tau = (3 : ℝ) := by
      have turn : Scalar.tau = 2 * Real.pi := congrArg (· * Real.pi) exactTwo
      rw [turn, show Arith.abs (2 * Real.pi) = 2 * Real.pi from size]
      exact mul_div_cancel_right₀ _ (by positivity)
    rw [Profile.turnSteps, whole]
    exact congrArg (Nat.max · 3) (Nat.ceil_natCast 3)
  rw [count, show coarse.segments = 3 from rfl, steps, size]
  simp only [if_pos (show 2 * Real.pi - 1e-9 ≤ 2 * Real.pi by linarith)]
  rfl

end Kernel
end Drafting
