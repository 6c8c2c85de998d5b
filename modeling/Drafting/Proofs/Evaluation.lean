import Drafting.Proofs.Workplanes
/-! Placing entities by following handles from one to the next, with no bound on how far. Nothing remembers
which workplanes were entered before, so a workplane with a part that lies in it would be entered for ever.
As the parts of a workplane are in space, placing a point enters one workplane at most. -/
namespace Drafting.Sketch
variable [Scalar α]

section Runs
variable (s : Sketch α)

mutual

/-- The place of a point, or why it has none, and how many workplanes were entered to find out. -/
inductive PointRuns : EntityId → Nat → Except SketchError (Vec3 (Expr α)) → Prop
  | gone (missing : s.entities.get? x = none) : PointRuns x 0 (.error (.entityNotFound x))
  | other (found : s.entities.get? x = some e) (differs : e.isA .point = false) :
      PointRuns x 0 (.error (.wrongKind x .point))
  | space (found : s.entities.get? x = some e) (kind : e.kind = .pointIn3d p) : PointRuns x 0 (.ok (.ofParams p))
  | copy (found : s.entities.get? x = some e) (kind : e.kind = .pointCopy base transform) :
      PointRuns x 0 (.ok (transform.point base))
  | loose (found : s.entities.get? x = some e) (kind : e.kind = .pointIn2d p) (flat : e.workplane = none) :
      PointRuns x 0 (.error (.missingWorkplane x))
  | inside (found : s.entities.get? x = some e) (kind : e.kind = .pointIn2d p) (lies : e.workplane = some w)
      (run : PlaneRuns w n plane) :
      PointRuns x n (plane.map fun plane => plane.origin + plane.orientation.imageU.scale (.param p.x) +
        plane.orientation.imageV.scale (.param p.y))

inductive NormalRuns : EntityId → Nat → Except SketchError (Quat (Expr α)) → Prop
  | gone (missing : s.entities.get? x = none) : NormalRuns x 0 (.error (.entityNotFound x))
  | other (found : s.entities.get? x = some e) (differs : e.isA .normal = false) :
      NormalRuns x 0 (.error (.wrongKind x .normal))
  | space (found : s.entities.get? x = some e) (kind : e.kind = .normalIn3d q) : NormalRuns x 0 (.ok (.ofParams q))
  | copy (found : s.entities.get? x = some e) (kind : e.kind = .normalCopy base transform) :
      NormalRuns x 0 (.ok (transform.normal base))
  | loose (found : s.entities.get? x = some e) (kind : e.kind = .normalIn2d) (flat : e.workplane = none) :
      NormalRuns x 0 (.error (.missingWorkplane x))
  | inside (found : s.entities.get? x = some e) (kind : e.kind = .normalIn2d) (lies : e.workplane = some w)
      (run : PlaneRuns w n plane) : NormalRuns x n (plane.map PlaneExpr.orientation)

/-- A workplane is entered before it is known to be one; its normal is placed once its origin is. -/
inductive PlaneRuns : EntityId → Nat → Except SketchError (PlaneExpr α) → Prop
  | gone (missing : s.entities.get? x = none) : PlaneRuns x 1 (.error (.entityNotFound x))
  | other (found : s.entities.get? x = some e) (differs : e.isA .workplane = false) :
      PlaneRuns x 1 (.error (.wrongKind x .workplane))
  | unplaced (found : s.entities.get? x = some e) (kind : e.kind = .workplane o d)
      (first : PointRuns o m (.error cause)) : PlaneRuns x (m + 1) (.error cause)
  | placed (found : s.entities.get? x = some e) (kind : e.kind = .workplane o d) (first : PointRuns o m (.ok origin))
      (second : NormalRuns d n normal) : PlaneRuns x (m + n + 1) (normal.map fun normal => ⟨origin, normal⟩)

end

/-- The parts of every workplane, as far as they are there, are placed by themselves. -/
def Level : Prop := ∀ w e o n, s.entities.get? w = some e → e.kind = .workplane o n →
  (∀ p, s.entities.get? o = some p → (∃ x, p.kind = .pointIn3d x) ∨ ∃ base t, p.kind = .pointCopy base t) ∧
  ∀ q, s.entities.get? n = some q → (∃ x, q.kind = .normalIn3d x) ∨ ∃ base t, q.kind = .normalCopy base t

end Runs

variable {s : Sketch α} {e : Entity α}

mutual

theorem PointRuns.once {id : EntityId} {m n : Nat} {r r' : Except SketchError (Vec3 (Expr α))} :
    s.PointRuns id m r → s.PointRuns id n r' → m = n ∧ r = r'
  | .gone _, h => by cases h <;> simp_all
  | .other _ _, h => by cases h <;> simp_all [Entity.isA, EntityKind.isA, EntityKind.classes]
  | .space _ _, h => by cases h <;> simp_all [Entity.isA, EntityKind.isA, EntityKind.classes]
  | .copy _ _, h => by cases h <;> simp_all [Entity.isA, EntityKind.isA, EntityKind.classes]
  | .loose _ _ _, h => by cases h <;> simp_all [Entity.isA, EntityKind.isA, EntityKind.classes]
  | .inside found kind lies run, h => by
    cases h with
    | inside found' kind' lies' run' =>
      cases found.symm.trans found'
      cases kind.symm.trans kind'
      cases lies.symm.trans lies'
      obtain ⟨rfl, rfl⟩ := run.once run'
      exact ⟨rfl, rfl⟩
    | _ => simp_all [Entity.isA, EntityKind.isA, EntityKind.classes]

theorem NormalRuns.once {id : EntityId} {m n : Nat} {r r' : Except SketchError (Quat (Expr α))} :
    s.NormalRuns id m r → s.NormalRuns id n r' → m = n ∧ r = r'
  | .gone _, h => by cases h <;> simp_all
  | .other _ _, h => by cases h <;> simp_all [Entity.isA, EntityKind.isA, EntityKind.classes]
  | .space _ _, h => by cases h <;> simp_all [Entity.isA, EntityKind.isA, EntityKind.classes]
  | .copy _ _, h => by cases h <;> simp_all [Entity.isA, EntityKind.isA, EntityKind.classes]
  | .loose _ _ _, h => by cases h <;> simp_all [Entity.isA, EntityKind.isA, EntityKind.classes]
  | .inside found kind lies run, h => by
    cases h with
    | inside found' kind' lies' run' =>
      cases found.symm.trans found'
      cases lies.symm.trans lies'
      obtain ⟨rfl, rfl⟩ := run.once run'
      exact ⟨rfl, rfl⟩
    | _ => simp_all [Entity.isA, EntityKind.isA, EntityKind.classes]

theorem PlaneRuns.once {id : EntityId} {m n : Nat} {r r' : Except SketchError (PlaneExpr α)} :
    s.PlaneRuns id m r → s.PlaneRuns id n r' → m = n ∧ r = r'
  | .gone _, h => by cases h <;> simp_all
  | .other _ _, h => by cases h <;> simp_all [Entity.isA, EntityKind.isA, EntityKind.classes]
  | .unplaced found kind first, h => by
    cases h with
    | unplaced found' kind' first' =>
      cases found.symm.trans found'
      cases kind.symm.trans kind'
      obtain ⟨rfl, same⟩ := first.once first'
      exact ⟨rfl, by cases same; rfl⟩
    | placed found' kind' first' =>
      cases found.symm.trans found'
      cases kind.symm.trans kind'
      exact nomatch (first.once first').2
    | _ => simp_all [Entity.isA, EntityKind.isA, EntityKind.classes]
  | .placed found kind first second, h => by
    cases h with
    | unplaced found' kind' first' =>
      cases found.symm.trans found'
      cases kind.symm.trans kind'
      exact nomatch (first.once first').2
    | placed found' kind' first' second' =>
      cases found.symm.trans found'
      cases kind.symm.trans kind'
      obtain ⟨rfl, same⟩ := first.once first'
      obtain ⟨rfl, rfl⟩ := second.once second'
      exact ⟨rfl, by cases same; rfl⟩
    | _ => simp_all [Entity.isA, EntityKind.isA, EntityKind.classes]

end

/-! In a sketch whose workplanes have their parts in space it ends after one workplane. -/

section Ends
variable {id : EntityId}

theorem originRuns (placing : EntityId → Except SketchError (PlaneExpr α))
    (parts : ∀ p, s.entities.get? id = some p →
      (∃ x, p.kind = .pointIn3d x) ∨ ∃ base t, p.kind = .pointCopy base t) :
    s.PointRuns id 0 (s.pointFrom placing id) := by
  cases found : s.entities.get? id with
  | none =>
    rw [pointFrom, entity, found]
    exact .gone found
  | some p =>
    simp only [pointFrom, entityFound.mpr found, bind, Except.bind]
    rcases parts p found with ⟨x, kind⟩ | ⟨base, t, kind⟩
    · rw [kind]
      exact .space found kind
    · rw [kind]
      exact .copy found kind

theorem directionRuns (placing : EntityId → Except SketchError (PlaneExpr α))
    (parts : ∀ q, s.entities.get? id = some q →
      (∃ x, q.kind = .normalIn3d x) ∨ ∃ base t, q.kind = .normalCopy base t) :
    s.NormalRuns id 0 (s.normalFrom placing id) := by
  cases found : s.entities.get? id with
  | none =>
    rw [normalFrom, entity, found]
    exact .gone found
  | some q =>
    simp only [normalFrom, entityFound.mpr found, bind, Except.bind]
    rcases parts q found with ⟨x, kind⟩ | ⟨base, t, kind⟩
    · rw [kind]
      exact .space found kind
    · rw [kind]
      exact .copy found kind

theorem Level.planeRuns (level : s.Level) (id : EntityId) : s.PlaneRuns id 1 (s.planeExpr id) := by
  rw [planeExpr, planeWithin]
  cases found : s.entities.get? id with
  | none =>
    rw [entity, found]
    exact .gone found
  | some e =>
    simp only [entityFound.mpr found, bind, Except.bind]
    cases kind : e.kind with
    | workplane o n =>
      obtain ⟨inSpace, inSpace'⟩ := level id e o n found kind
      have first := originRuns (s.planeWithin s.entities.size) inSpace
      have second := directionRuns (s.planeWithin s.entities.size) inSpace'
      dsimp only
      cases origin : s.pointFrom (s.planeWithin s.entities.size) o with
      | error cause => exact .unplaced found kind (origin ▸ first)
      | ok v =>
        have runs := PlaneRuns.placed found kind (origin ▸ first) second
        cases normal : s.normalFrom (s.planeWithin s.entities.size) n with
        | error cause => exact normal ▸ runs
        | ok q => exact normal ▸ runs
    | _ => exact .other found (by simp [Entity.isA, kind, EntityKind.isA, EntityKind.classes])

theorem Level.pointRuns (level : s.Level) (id : EntityId) : ∃ n ≤ 1, s.PointRuns id n (s.pointExpr id) := by
  rw [pointExpr, pointFrom]
  cases found : s.entities.get? id with
  | none =>
    rw [entity, found]
    exact ⟨0, by decide, .gone found⟩
  | some e =>
    simp only [entityFound.mpr found, bind, Except.bind]
    cases kind : e.kind with
    | pointIn3d p => exact ⟨0, by decide, .space found kind⟩
    | pointCopy base t => exact ⟨0, by decide, .copy found kind⟩
    | pointIn2d p =>
      cases lies : e.workplane with
      | none => exact ⟨0, by decide, .loose found kind lies⟩
      | some w =>
        have runs := PointRuns.inside found kind lies (level.planeRuns w)
        refine ⟨1, le_rfl, ?_⟩
        dsimp only [Sketch.found]
        cases placed : s.planeExpr w with
        | error cause => exact placed ▸ runs
        | ok plane => exact placed ▸ runs
    | _ => exact ⟨0, by decide, .other found (by simp [Entity.isA, kind, EntityKind.isA, EntityKind.classes])⟩

theorem Level.normalRuns (level : s.Level) (id : EntityId) : ∃ n ≤ 1, s.NormalRuns id n (s.normalExpr id) := by
  rw [normalExpr, normalFrom]
  cases found : s.entities.get? id with
  | none =>
    rw [entity, found]
    exact ⟨0, by decide, .gone found⟩
  | some e =>
    simp only [entityFound.mpr found, bind, Except.bind]
    cases kind : e.kind with
    | normalIn3d q => exact ⟨0, by decide, .space found kind⟩
    | normalCopy base t => exact ⟨0, by decide, .copy found kind⟩
    | normalIn2d =>
      cases lies : e.workplane with
      | none => exact ⟨0, by decide, .loose found kind lies⟩
      | some w =>
        have runs := NormalRuns.inside found kind lies (level.planeRuns w)
        refine ⟨1, le_rfl, ?_⟩
        dsimp only [Sketch.found]
        cases placed : s.planeExpr w with
        | error cause => exact placed ▸ runs
        | ok plane => exact placed ▸ runs
    | _ => exact ⟨0, by decide, .other found (by simp [Entity.isA, kind, EntityKind.isA, EntityKind.classes])⟩

end Ends

/-! Every sketch that is reached is of this form. -/

omit [Scalar α] in
theorem Furnished.level (h : s.Furnished) : s.Level := by
  intro w e o n found kind
  have flat := planeFlat h.toIntact found (by simp [Entity.isA, kind, EntityKind.isA, EntityKind.classes])
  obtain ⟨⟨p, there, point⟩, q, there', normal⟩ := planeParts h.toIntact h.grounded found kind
  refine ⟨fun p' named => ?_, fun q' named => ?_⟩
  · cases there.symm.trans named
    have level := (partAlike h.toIntact found (by simp [kind]) there).2.trans flat
    rcases pointKind h.toIntact there point with ⟨_, inSpace⟩ | ⟨_, _, lies, _⟩
    · exact inSpace
    · cases level.symm.trans lies
  · cases there'.symm.trans named
    have level := (partAlike h.toIntact found (by simp [kind]) there').2.trans flat
    rcases normalKind h.toIntact h.grounded there' normal with ⟨_, inSpace⟩ | ⟨_, lies, _⟩
    · exact inSpace
    · cases level.symm.trans lies

/- Whatever the handle and whatever became of what it names, there is exactly one evaluation. -/
theorem evaluationEnds {config : EngineConfig α} {s : Session α} (h : Session.Reached config s) :
    s.sketch.Level ∧ ∀ id,
      (∃ n ≤ 1, ∀ m r, s.sketch.PointRuns id m r ↔ m = n ∧ r = s.sketch.pointExpr id) ∧
      (∃ n ≤ 1, ∀ m r, s.sketch.NormalRuns id m r ↔ m = n ∧ r = s.sketch.normalExpr id) ∧
      ∀ m r, s.sketch.PlaneRuns id m r ↔ m = 1 ∧ r = s.sketch.planeExpr id := by
  have level := (Session.reachedFurnished h).1.level
  refine ⟨level, fun id => ⟨?_, ?_, fun m r => ⟨fun run => run.once (level.planeRuns id), ?_⟩⟩⟩
  · obtain ⟨n, few, run⟩ := level.pointRuns id
    exact ⟨n, few, fun m r => ⟨fun other => other.once run, fun ⟨entered, result⟩ => entered ▸ result ▸ run⟩⟩
  · obtain ⟨n, few, run⟩ := level.normalRuns id
    exact ⟨n, few, fun m r => ⟨fun other => other.once run, fun ⟨entered, result⟩ => entered ▸ result ▸ run⟩⟩
  · intro ⟨entered, result⟩
    exact entered ▸ result ▸ level.planeRuns id

theorem drawnWorkplaneEnds : ∃ t : Session Float, Session.Reached .standard t ∧
    t.sketch.PlaneRuns tilted.entity 1 (.ok ⟨.ofParams ⟨tilted.param 0, tilted.param 1, tilted.param 2⟩,
      .ofParams { w := tilted.param 3, x := tilted.param 4, y := tilted.param 5, z := tilted.param 6 }⟩) := by
  obtain ⟨t, fitted, known⟩ := tiltedFitted
  have intact : t.sketch.Intact := (Session.reachedIntact fitted.reached).sketch
  have plane := planeOfRequest intact known.request rfl
  exact ⟨t, fitted.reached, (((evaluationEnds fitted.reached).2 tilted.entity).2.2 1 _).mpr ⟨rfl, plane.symm⟩⟩

end Drafting.Sketch
