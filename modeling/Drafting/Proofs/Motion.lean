import Drafting.Proofs.Rotation
import Drafting.Proofs.Solid
import Drafting.Proofs.Workplanes
/-! Copies of points move with the solid. A group places the copies of points by expressions over its parameters,
its solid by numbers worked out on their own: offsets, turns with offsets, rings of a revolution. Over exact numbers
both take a point to the same place, whatever values the parameters have. -/
namespace Drafting

namespace Kernel
variable [Scalar α]

def Takes (rotation : Quat α) (offset p q : Vec3 α) : Prop :=
  ∀ (k k' : Kernel α) (s s' : ShellId), k.transform s rotation offset = .ok (s', k') →
    ∃ m m', k.shells[s]? = some m ∧ k'.shells[s']? = some m' ∧
      ∀ i : Nat, m.vertices[i]? = some p → m'.vertices[i]? = some q

theorem takesMoved (rotation : Quat α) (offset p : Vec3 α) :
    Takes rotation offset p (rotation.normalize.rotate p + offset) := by
  intro k k' s s' ok
  obtain ⟨_, m, found, stored⟩ := transformOk.mp ok
  have gains := storedGains (congrArg Except.ok stored)
  refine ⟨m, _, found, (gains.shells s').trans (if_pos rfl), fun i here => ?_⟩
  simp only [Mesh.move, Array.getElem?_map, here, Option.map_some]

end Kernel

namespace Profile
variable [Scalar α]

def turnSteps (segments : Nat) (angle : α) : Nat :=
  Nat.max (Scalar.ceilNat (Arith.ofNat segments * Arith.abs angle / Scalar.tau)) 3

def ring (p : Profile α) (segments : Nat) (axis : Axis α) (angle : α) (step : Nat) (x : Vec2 α) : Vec3 α :=
  let q := Quat.ofAxisAngle axis.direction (angle * Arith.ofNat step / Arith.ofNat (turnSteps segments angle))
  axis.origin + q.rotate (p.toWorld x - axis.origin)

def throughRings (p : Profile α) (axis : Axis α) (angle : α) (ring : Nat → Vec2 α → Vec3 α) (steps : Nat) :
    Except KernelError (List (Triangle α)) := do
  if Arith.abs angle < 1e-9 || axis.direction == Vec3.zero then
    throw .degenerateRevolve
  let loops ← p.outerLoops
  let full := decide (Scalar.tau - 1e-9 ≤ Arith.abs angle)
  return (← loops.mapM (revolveLoop ring p.toWorld steps full)).flatten

theorem revolveRings (p : Profile α) (segments : Nat) (axis : Axis α) (angle : α) :
    p.revolve segments axis angle = p.throughRings axis angle (p.ring segments axis angle) (turnSteps segments angle) :=
  rfl

theorem lastRing (p : Profile ℝ) (segments : Nat) (axis : Axis ℝ) (angle : ℝ) (x : Vec2 ℝ) :
    p.ring segments axis angle (turnSteps segments angle) x =
      axis.origin + (Quat.ofAxisAngle axis.direction angle).rotate (p.toWorld x - axis.origin) := by
  have steps : (turnSteps segments angle : ℝ) ≠ 0 := by
    have least : 3 ≤ turnSteps segments angle := Nat.le_max_right _ _
    exact Nat.cast_ne_zero.mpr (by omega)
  have whole : angle * Arith.ofNat (turnSteps segments angle) / Arith.ofNat (turnSteps segments angle) = angle :=
    mul_div_cancel_right₀ angle steps
  rw [ring, whole]

end Profile

namespace Sketch

/-! The copies of a point. -/

section Copies
variable [Scalar α] {s t u : Sketch α} {g : Group α} {c : Copies α} {id : EntityId} {e : Entity α} {p : Vec3 α}

structure Original (s : Sketch α) (g : Group α) (id : EntityId) (p : Vec3 α) : Prop where
  source : ∃ es, s.sources g = .ok es ∧ ∃ e ∈ es, e.id = id
  other : id.origin ≠ .derived g.id
  place : s.position id = .ok p

def CopyAt (s : Sketch α) (group : GroupId) (key : RemapKey) (p : Vec3 α) : Prop :=
  ∃ id, s.handleOf? group key = some id ∧ s.position id = .ok p

theorem redrawnApart (h : s.Intact) (there : (s.redrawn g).entities.get? id = some e) : id.origin ≠ .derived g.id := by
  intro origin
  rw [redrawnRecords] at there
  rcases (h.entities.filter _).foundAddAll there with ⟨member, keyed⟩ | kept
  · have same : e.id = id := keyed
    exact drawnNotDerived member (same ▸ origin)
  · obtain ⟨before, other⟩ := h.entities.foundFilter.mp kept
    have ours := (h.made id e g.id before (.inr origin)).group
    simp [ours] at other

theorem regrownOther (h : s.Intact) (ok : s.copied g = .ok c) (apart : id.origin ≠ .derived g.id) :
    (s.regrown g c).entities.get? id = (s.redrawn g).entities.get? id := by
  have new := regrownSpec h.params (copiedFits h.entities ok)
  have before : (s.redrawn g).entities = (fixtures g ++ (s.requestsOf g).flatMap Request.entities).foldl Registry.add
      (s.entities.filter (·.group != g.id)) := by rw [redrawnRecords]
  rw [new.entities, content, List.foldl_append, ← before]
  refine (redrawnConsistent h.entities g).getAddAllOther fun member => ?_
  obtain ⟨e, copy, keyed⟩ := List.mem_map.mp member
  obtain ⟨_, slot, _, named, _⟩ := ((copiedLabelled h.entities ok).2 e (Array.mem_toList_iff.mp copy)).label
  have same : e.id = id := keyed
  exact apart (by rw [← same, named]; rfl)

theorem regrownParams (s : Sketch α) (g : Group α) (c : Copies α) : (s.regrown g c).params = (s.bared g).params := by
  unfold bared regrown
  cases g.kind.isSolid <;> rfl

theorem redrawnStaysGrown (h : s.Intact) (found : s.groups.get? g.id = some g) (ok : s.copied g = .ok c)
    (there : (s.redrawn g).entities.get? e.id = some e) : (s.redrawn g).Stays (s.regrown g c) e.id := by
  have same := baredEntities h g
  have kept {id : EntityId} {e : Entity α} (there : (s.bared g).entities.get? id = some e) :
      (s.regrown g c).entities.get? id = some e := by
    rw [same] at there
    rw [regrownOther h ok (redrawnApart h there), there]
  have inBared : (s.bared g).entities.get? e.id = some e := same ▸ there
  refine (redrawnStays h found e.id).1.trans (SamePlace.stays (baredIntact h found) inBared ⟨kept inBared, ?_, ?_⟩)
  · exact fun w plane _ placed => ⟨kept placed, fun p _ part lies => kept lies⟩
  · intro p _
    rw [valueOf, valueOf, regrownParams]

theorem Original.before (h : s.Intact) (found : s.groups.get? g.id = some g) (ok : s.copied g = .ok c)
    {es : List (Entity α)} (read : (s.redrawn g).sources g = .ok es) (placed : ∀ e ∈ es, (s.redrawn g).Placed e)
    (original : (s.regrown g c).Original g id p) : ∃ e ∈ es, e.id = id ∧ (s.redrawn g).position id = .ok p := by
  obtain ⟨es', read', e, member, rfl⟩ := original.source
  have consistent := (regrownIntact h found (copiedFits h.entities ok) (regrownSpec h.params
    (copiedFits h.entities ok))).entities
  have here := sourceThere consistent read' e member
  have there : (s.redrawn g).entities.get? e.id = some e := (regrownOther h ok original.other).symm.trans here
  have source : e ∈ es := by
    rcases sourcesRead read' with ⟨_, rfl⟩ | ⟨derived, k, source, rfl⟩
    · exact nomatch member
    rcases sourcesRead read with ⟨flat, _⟩ | ⟨_, k', source', rfl⟩
    · exact nomatch derived.symm.trans flat
    obtain rfl := Option.some.inj (source.symm.trans source')
    exact List.mem_filter.mpr ⟨Registry.memOfGet there, (List.mem_filter.mp member).2⟩
  obtain ⟨q, place⟩ := (placed e source).point (pointOfPosition here original.place)
  have stays := (redrawnStaysGrown h found ok there).position q place
  exact ⟨e, source, rfl, Except.ok.inj (stays.symm.trans original.place) ▸ place⟩

def revalued (s : Sketch α) (params : Registry ParamId (Param α)) : Sketch α := { s with params }

theorem copyPosition (there : s.entities.get? id = some e) {transform : CopyTransform α}
    (kind : e.kind = .pointCopy p transform) (params : Registry ParamId (Param α)) :
    (s.revalued params).position id = .ok ((transform.point p).eval (s.revalued params).valueOf) := by
  have read : (s.revalued params).entity id = .ok e := entityFound.mpr there
  rw [position, pointExpr, pointFrom, read]
  simp only [bind, Except.bind, kind]
  rfl

theorem copyFound (h : s.Intact) (found : s.groups.get? g.id = some g) (ok : s.copied g = .ok c) {key : RemapKey}
    {slot : Nat} (given : c.remap.get? key = some slot)
    (there : (s.regrown g c).entities.get? (.derived g.id slot) = some e)
    {transform : CopyTransform α} (kind : e.kind = .pointCopy p transform) (params : Registry ParamId (Param α)) :
    ((s.regrown g c).revalued params).CopyAt g.id key
      ((transform.point p).eval ((s.regrown g c).revalued params).valueOf) := by
  have fits := copiedFits h.entities ok
  have record := regrownGroup h.groups found fits (regrownSpec h.params fits) g.id
  rw [if_pos rfl] at record
  exact ⟨.derived g.id slot, handleOfIff.mpr ⟨_, record, slot, given, rfl⟩, copyPosition there kind params⟩

theorem originalCopied (h : s.Furnished) (found : s.groups.get? g.id = some g) (ok : s.copied g = .ok c)
    (original : (s.regrown g c).Original g id p) {role : RemapRole} {n : Nat} (cast : (role, n) ∈ g.kind.casts)
    (params : Registry ParamId (Param α)) : ((s.regrown g c).revalued params).CopyAt g.id ⟨.entity id, role, n⟩
      (((g.motion role n).point p).eval ((s.regrown g c).revalued params).valueOf) := by
  have solid : g.kind.isSolid = true := by
    cases kind : g.kind <;> simp_all [GroupKind.casts, GroupKind.isSolid, GroupKind.isDerived]
  obtain ⟨es, read, _, kept⟩ := copiedCasts h.toIntact h.grounded found ok solid
  obtain ⟨e, source, rfl, place⟩ := original.before h.toIntact found ok read fun e member => (kept e member _ cast).1
  obtain ⟨_, slot, given, made⟩ := kept e source _ cast
  have new := regrownSpec h.params (copiedFits h.entities ok)
  obtain ⟨copy, there, froze⟩ := copyThere h.toIntact found ok new given made
  exact copyFound h.toIntact found ok given there (froze.position e.id p (castsWhole cast e.id) place) params

theorem copiedLinked (ok : s.copied g = .ok c) {points : List (Vec3 α)} {shell : Option ShellId}
    (kind : g.kind = .linked points shell) {i : Nat} (point : points[i]? = some p) :
    ∃ slot, c.remap.get? ⟨.imported i, .copy, 0⟩ = some slot ∧ ∃ e ∈ c.made, e.id = .derived g.id slot := by
  have solid : g.kind.isSolid = true := by rw [kind]; rfl
  unfold copied at ok
  rw [solid] at ok
  obtain ⟨sources, _, run⟩ := copiesRun ok
  unfold Copying.all at run
  rw [kind] at run
  have casts := Copying.castsLinked (P := fun _ => True) (N := fun _ => True) (R := fun _ => True) (g := g)
    (fun _ => trivial) points
  obtain ⟨_, _, _, under⟩ := casts _ _ _ run
  exact (under _ ⟨(p, i), List.mem_zipIdx_iff_getElem?.mpr point, rfl⟩).2

theorem linkedCopied (h : s.Intact) (found : s.groups.get? g.id = some g) (ok : s.copied g = .ok c)
    {points : List (Vec3 α)} {shell : Option ShellId} (kind : g.kind = .linked points shell) {i : Nat}
    (point : points[i]? = some p) (params : Registry ParamId (Param α)) :
    ((s.regrown g c).revalued params).CopyAt g.id ⟨.imported i, .copy, 0⟩
      (((g.motion .copy 0).point p).eval ((s.regrown g c).revalued params).valueOf) := by
  have new := regrownSpec h.params (copiedFits h.entities ok)
  obtain ⟨slot, given, made⟩ := copiedLinked ok kind point
  obtain ⟨copy, there, froze⟩ := copyThere h found ok new given made
  exact copyFound h found ok given there (froze.linked i p points shell rfl kind point) params

end Copies

section Alike
variable {s t : Sketch ℝ} {g : Group ℝ}

def CopiesPlaced (u : Sketch ℝ) (g : Group ℝ) (base : EntityId → Vec3 ℝ → Prop)
    (places : List (Quat ℝ × Vec3 ℝ)) : Prop :=
  ∀ k rotation offset, places[k]? = some (rotation, offset) → ∀ id p, base id p →
    u.CopyAt g.id ⟨.entity id, .copy, k⟩ (rotation.rotate p + offset) ∧
      Kernel.Takes rotation offset p (rotation.rotate p + offset)

/-- The copies of points in a group and its solid are placed by one motion, at the values that a sketch has. -/
def MovesAlike (u : Sketch ℝ) (g : Group ℝ) (base : EntityId → Vec3 ℝ → Prop) : Prop :=
  match g.kind with
  | .drawing3d | .drawingWorkplane .. | .lathe _ => True
  | .extrude sides _ =>
    let ends := u.extrusionEnds g sides
    (u.buildShell g = do
      let profile ← u.sourceProfile g
      Solids.make (·.extrude profile ends.1 ends.2)) ∧
    ∀ id p, base id p → u.CopyAt g.id ⟨.entity id, .bottom, 0⟩ (p + ends.1) ∧
      u.CopyAt g.id ⟨.entity id, .top, 0⟩ (p + ends.2)
  | .translate copies sides skipFirst =>
    let places := u.translations g (sides.multiples copies skipFirst)
    (u.buildShell g = do Solids.repeated (← u.sourceShell g) places) ∧ u.CopiesPlaced g base places
  | .rotate _ _ copies sides skipFirst => u.vectorOf g.rotateAxis ≠ .zero →
    let places := u.rotations g (sides.multiples copies skipFirst)
    (u.buildShell g = do Solids.repeated (← u.sourceShell g) places) ∧ u.CopiesPlaced g base places
  | .revolve axis => axis.direction.length = 1 →
    let angle := u.valueOf g.revolveAngle
    (u.buildShell g = do
      let profile ← u.sourceProfile g
      Solids.make (·.revolve profile axis angle)) ∧
    ∀ (profile : Profile ℝ) (segments : Nat),
      let ring := profile.ring segments axis angle
      let steps := Profile.turnSteps segments angle
      profile.revolve segments axis angle = profile.throughRings axis angle ring steps ∧
      ∀ id x, base id (profile.toWorld x) → u.CopyAt g.id ⟨.entity id, .latheEnd, 0⟩ (ring steps x)
  | .linked points shell => (g.linkRotation.map u.valueOf).length = 1 →
    let rotation := (g.linkRotation.map u.valueOf).normalize
    let offset := u.vectorOf g.linkOffset
    (u.buildShell g = do
      let part ← found (KernelError.noPart g.name) shell
      Solids.make (·.transform part rotation offset)) ∧
    ∀ i p, points[i]? = some p → u.CopyAt g.id ⟨.imported i, .copy, 0⟩ (rotation.rotate p + offset) ∧
      Kernel.Takes rotation offset p (rotation.rotate p + offset)

section Motions
variable {u : Sketch ℝ} {base : EntityId → Vec3 ℝ → Prop}

theorem takesUnit {rotation : Quat ℝ} (unit : rotation.length = 1) (offset p : Vec3 ℝ) :
    Kernel.Takes rotation offset p (rotation.rotate p + offset) := by
  have takes := Kernel.takesMoved rotation offset p
  rwa [Quat.unitNormalized unit] at takes

structure Copied (u : Sketch ℝ) (g : Group ℝ) (base : EntityId → Vec3 ℝ → Prop) : Prop where
  points : ∀ id p, base id p → ∀ role n, (role, n) ∈ g.kind.casts →
    u.CopyAt g.id ⟨.entity id, role, n⟩ (((g.motion role n).point p).eval u.valueOf)
  linked : ∀ points shell i p, g.kind = .linked points shell → points[i]? = some p →
    u.CopyAt g.id ⟨.imported i, .copy, 0⟩ (((g.motion .copy 0).point p).eval u.valueOf)

theorem Copied.placed (copied : u.Copied g base) {multiples : List ℝ} {place : ℝ → Quat ℝ × Vec3 ℝ}
    {transform : ℝ → CopyTransform ℝ} (casts : g.kind.casts = multiples.zipIdx.map fun step => (.copy, step.2))
    (motion : ∀ k, g.motion .copy k = (multiples[k]?).elim .identity transform)
    (unit : ∀ times, (place times).1.length = 1)
    (moved : ∀ times p, ((transform times).point p).eval u.valueOf = (place times).1.rotate p + (place times).2) :
    u.CopiesPlaced g base (multiples.map place) := by
  intro k rotation offset there id p original
  rw [List.getElem?_map, Option.map_eq_some_iff] at there
  obtain ⟨times, step, same⟩ := there
  have cast : (.copy, k) ∈ g.kind.casts := by
    rw [casts]
    exact List.mem_map.mpr ⟨(times, k), List.mem_zipIdx_iff_getElem?.mpr step, rfl⟩
  have copy := copied.points id p original .copy k cast
  have unit := unit times
  rw [motion, step, Option.elim_some, moved] at copy
  rw [same] at copy unit
  exact ⟨copy, takesUnit unit offset p⟩

theorem Copied.alike (copied : u.Copied g base) : u.MovesAlike g base := by
  unfold MovesAlike
  cases kind : g.kind with
  | drawing3d | drawingWorkplane | lathe => trivial
  | extrude sides lock =>
    refine ⟨by rw [buildShell, kind], fun id p original => ⟨?_, ?_⟩⟩
    · have copy := copied.points id p original .bottom 0 (by simp [kind, GroupKind.casts])
      cases sides <;> simpa [Group.motion, kind, extrusionEnds, vectorOf, Vec3.scaleMinusOne] using copy
    · have copy := copied.points id p original .top 0 (by simp [kind, GroupKind.casts])
      cases sides <;> simpa [Group.motion, kind, extrusionEnds, vectorOf] using copy
  | revolve axis =>
    intro unit
    refine ⟨by rw [buildShell, kind], fun profile segments => ⟨profile.revolveRings segments axis _, ?_⟩⟩
    intro id x original
    have copy := copied.points id _ original .latheEnd 0 (by simp [kind, GroupKind.casts])
    rw [profile.lastRing]
    simpa [Group.motion, kind, CopyTransform.evalRevolve unit] using copy
  | translate copies sides skip =>
    have motion (k : Nat) : g.motion .copy k =
        ((sides.multiples copies skip)[k]?).elim .identity (.translate g.delta) := by simp [Group.motion, kind]
    refine ⟨by rw [buildShell, kind], copied.placed (kind ▸ rfl) motion (fun _ => Quat.identityUnit) fun times p => ?_⟩
    rw [CopyTransform.evalTranslate, Quat.rotateIdentity]
    rfl
  | rotate center axis copies sides skip =>
    intro long
    have motion (k : Nat) : g.motion .copy k = ((sides.multiples copies skip)[k]?).elim .identity
        (.rotate g.rotateCenter g.rotateAxis g.rotateAngle) := by simp [Group.motion, kind]
    have unit := Vec3.normalizedLength (Vec3.lengthPositive long)
    refine ⟨by rw [buildShell, kind], copied.placed (kind ▸ rfl) motion (fun times => ?_) fun times p => ?_⟩
    · exact Quat.ofAxisAngleUnit unit _
    · exact CopyTransform.evalRotate long
  | linked points shell =>
    intro unit
    refine ⟨by rw [buildShell, kind], fun i p point => ?_⟩
    have copy := copied.linked points shell i p kind point
    rw [Quat.unitNormalized unit]
    refine ⟨?_, takesUnit unit _ _⟩
    simpa [Group.motion, kind, vectorOf] using copy

end Motions

/- The copies of points that a group makes and its solid move alike, whatever values its parameters have later. -/
theorem copiesFollowSolid {group : GroupId} (h : s.Furnished) (ok : generateGroup group s = (.ok (), t))
    (found : t.groups.get? group = some g) (params : Registry ParamId (Param ℝ)) :
    (t.revalued params).MovesAlike g (t.Original g) := by
  obtain ⟨g₀, c, before, rfl, made, rfl⟩ := generateGroupOk h.groups ok
  have fits := copiedFits h.entities made
  have record := regrownGroup h.groups before fits (regrownSpec h.params fits) g₀.id
  rw [if_pos rfl] at record
  obtain rfl := Option.some.inj (record.symm.trans found)
  refine Copied.alike ⟨fun id p original role n cast => ?_, fun points shell i p kind point => ?_⟩
  · have same : (s.regrown g₀ c).Original g₀ id p := ⟨original.source, original.other, original.place⟩
    exact originalCopied h before made same cast params
  · exact linkedCopied h.toIntact before made kind point params

theorem linkedPointTurned : ∃ (s t : Sketch ℝ) (g : Group ℝ) (params : Registry ParamId (Param ℝ)), s.Furnished ∧
    generateGroup ⟨1⟩ s = (.ok (), t) ∧ t.groups.get? ⟨1⟩ = some g ∧
      (t.revalued params).CopyAt ⟨1⟩ ⟨.imported 0, .copy, 0⟩ ⟨-1, 1, 0⟩ := by
  let part : Group ℝ := { id := ⟨1⟩, name := "part", kind := .linked [⟨1, 0, 0⟩] none }
  let key : RemapKey := ⟨.imported 0, .copy, 0⟩
  let c : Copies ℝ :=
    { remap := (({} : RemapTable).slot key).2
      made := #[{ id := .derived ⟨1⟩ (({} : RemapTable).slot key).1, group := ⟨1⟩, construction := false,
                  kind := .pointCopy ⟨1, 0, 0⟩ (.linked part.linkOffset part.linkRotation) }] }
  let s := ({} : Sketch ℝ).withGroup "part" part.kind none
  have furnished : s.Furnished := withGroupFurnished startFurnished "part" part.kind none
  have registered : s.groups.get? ⟨1⟩ = some part := startConsistent.groups.getAddSelf part
  have copied : s.copied part = .ok c := rfl
  have run := generateGroupRun registered rfl
  rw [copied] at run
  have fits := copiedFits furnished.entities copied
  have record := regrownGroup furnished.groups registered fits (regrownSpec furnished.params fits) ⟨1⟩
  rw [if_pos rfl] at record
  let values : List (Param ℝ) := [⟨part.param 0, ⟨1⟩, 0⟩, ⟨part.param 1, ⟨1⟩, 1⟩, ⟨part.param 2, ⟨1⟩, 0⟩,
    ⟨part.param 3, ⟨1⟩, 0⟩, ⟨part.param 4, ⟨1⟩, 0⟩, ⟨part.param 5, ⟨1⟩, 0⟩, ⟨part.param 6, ⟨1⟩, 1⟩]
  let params : Registry ParamId (Param ℝ) := values.foldl Registry.add {}
  refine ⟨s, s.regrown part c, _, params, furnished, run, record, ?_⟩
  have value (p : Param ℝ) (member : p ∈ values) : ((s.regrown part c).revalued params).valueOf p.id = p.value := by
    have there : params.get? p.id = some p :=
      startConsistent.params.getAddAllMem (r := {}) (by decide) member
    rw [valueOf, revalued, there]
    rfl
  have rotation : part.linkRotation.map ((s.regrown part c).revalued params).valueOf = ⟨0, 0, 1, 0⟩ := by
    simp only [Quat.map, Group.linkRotation]
    rw [value ⟨part.param 3, ⟨1⟩, 0⟩ (by simp [values]), value ⟨part.param 4, ⟨1⟩, 0⟩ (by simp [values]),
      value ⟨part.param 5, ⟨1⟩, 0⟩ (by simp [values]), value ⟨part.param 6, ⟨1⟩, 1⟩ (by simp [values])]
  have offset : ((s.regrown part c).revalued params).vectorOf part.linkOffset = ⟨0, 1, 0⟩ := by
    simp only [vectorOf, Vec3.map, Group.linkOffset, Group.paramVec]
    rw [value ⟨part.param 0, ⟨1⟩, 0⟩ (by simp [values]), value ⟨part.param 1, ⟨1⟩, 1⟩ (by simp [values]),
      value ⟨part.param 2, ⟨1⟩, 0⟩ (by simp [values])]
  have unit : (part.linkRotation.map ((s.regrown part c).revalued params).valueOf).length = 1 := by
    rw [rotation]
    exact Quat.unitSquares.mpr (by norm_num)
  have alike := copiesFollowSolid furnished run record params
  have copy := ((alike unit).2 0 ⟨1, 0, 0⟩ rfl).1
  change CopyAt _ _ _ ((part.linkRotation.map _).normalize.rotate ⟨1, 0, 0⟩ + vectorOf _ part.linkOffset) at copy
  rw [Quat.unitNormalized unit, rotation, offset] at copy
  simpa [Quat.rotate, Vec3.scale, Vec3.dot, Vec3.cross, Vec3.mkAdd] using copy

end Alike
end Sketch
end Drafting
