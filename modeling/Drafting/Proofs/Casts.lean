import Drafting.Proofs.Copies
/-! What a run of copies leaves and what stops it. Everything is copied in every role of the kind of group, a
workplane is put together from copies of its parts made the same way, and a run stops only at an entity that
has no place. -/
namespace Drafting

def EntityKind.Plain : EntityKind α → Prop
  | .workplane .. | .normalIn2d => False
  | _ => True

/-- The kinds that copies can have, a workplane being put together from copies of points and normals. -/
inductive Cast {α : Type} (h : GroupId) (P N : RemapKey → Prop) (t : RemapTable) : EntityKind α → Prop
  | plain {k : EntityKind α} (plain : k.Plain) : Cast h P N t k
  | plane {o n : RemapKey} {a b : Nat} (point : P o) (normal : N n) (origin : t.get? o = some a)
      (direction : t.get? n = some b) : Cast h P N t (.workplane (.derived h a) (.derived h b))

theorem Cast.later {h : GroupId} {P N : RemapKey → Prop} {t u : RemapTable} {k : EntityKind α} (here : Cast h P N t k)
    (grown : t.Extends u) : Cast h P N u k := by
  cases here with
  | plain plain => exact .plain plain
  | plane point normal origin direction =>
    exact .plane point normal (grown.found _ _ origin) (grown.found _ _ direction)

structure Sketch.Placed [Scalar α] (s : Sketch α) (e : Entity α) : Prop where
  point : e.isA .point = true → ∃ p, s.position e.id = .ok p
  normal : e.isA .normal = true → ∃ q, s.orientation e.id = .ok q

def GroupKind.casts [Scalar α] : GroupKind α → List (RemapRole × Nat)
  | .drawing3d | .drawingWorkplane .. | .linked .. => []
  | .extrude .. => [(.bottom, 0), (.top, 0)]
  | .lathe _ => [(.copy, 0)]
  | .revolve _ => [(.latheStart, 0), (.latheEnd, 0)]
  | .translate copies sides skipFirst | .rotate _ _ copies sides skipFirst =>
    (sides.multiples (α := α) copies skipFirst).zipIdx.map fun step => (.copy, step.2)

namespace Copying
variable {h : GroupId} {P N R : RemapKey → Prop} {keys more : RemapKey → Prop}

def Casts (h : GroupId) (P N R keys : RemapKey → Prop) (m : Copying α τ) : Prop :=
  ∀ c x c', m c = .ok (x, c') → c.remap.Extends c'.remap ∧ (∀ e ∈ c.made, e ∈ c'.made) ∧
    (∀ e ∈ c'.made, e ∈ c.made ∨ Cast h P N c'.remap e.kind) ∧
      ∀ key, keys key → R key ∧ ∃ slot, c'.remap.get? key = some slot ∧ ∃ e ∈ c'.made, e.id = .derived h slot

theorem Casts.fewer {m : Copying α τ} (casts : Casts h P N R keys m) (fewer : ∀ key, more key → keys key) :
    Casts h P N R more m := by
  intro c x c' run
  obtain ⟨grown, still, made, under⟩ := casts c x c' run
  exact ⟨grown, still, made, fun key wanted => under key (fewer key wanted)⟩

theorem castsPure (x : τ) : Casts h P N R (fun _ => False) (pure x : Copying α τ) := by
  intro c y c' run
  cases run
  exact ⟨.refl _, fun _ member => member, fun _ member => .inl member, fun _ none => none.elim⟩

theorem castsLift (r : Except SketchError τ) : Casts h P N R (fun _ => False) (liftM r : Copying α τ) := by
  intro c y c' run
  obtain ⟨z, _, rest⟩ := Result.bindOk.mp run
  cases rest
  exact ⟨.refl _, fun _ member => member, fun _ member => .inl member, fun _ none => none.elim⟩

theorem castsBind {m : Copying α σ} {k : σ → Copying α τ} (first : Casts h P N R keys m)
    (next : ∀ x, Casts h P N R more (k x)) : Casts h P N R (fun key => keys key ∨ more key) (m >>= k) := by
  intro c y c'' run
  obtain ⟨⟨x, c'⟩, here, rest⟩ := Result.bindOk.mp run
  obtain ⟨grown, still, made, under⟩ := first c x c' here
  obtain ⟨grown', still', made', under'⟩ := next x c' y c'' rest
  refine ⟨grown.trans grown', fun e member => still' e (still e member), fun e member => ?_, fun key wanted => ?_⟩
  · rcases made' e member with before | new
    · exact (made e before).imp_right (·.later grown')
    · exact .inr new
  · rcases wanted with early | late
    · obtain ⟨holds, slot, found, e, member, same⟩ := under key early
      exact ⟨holds, slot, grown'.found key slot found, e, still' e member, same⟩
    · exact under' key late

theorem castsAfter {m : Copying α σ} {k : σ → Copying α τ} (first : Casts h P N R (fun _ => False) m)
    (next : ∀ x, Casts h P N R keys (k x)) : Casts h P N R keys (m >>= k) :=
  (castsBind first next).fewer fun _ wanted => .inr wanted

theorem castsFirst {m : Copying α σ} {k : σ → Copying α τ} (first : Casts h P N R keys m)
    (next : ∀ x, Casts h P N R (fun _ => False) (k x)) : Casts h P N R keys (m >>= k) :=
  (castsBind first next).fewer fun _ wanted => .inl wanted

theorem castsForM {f : σ → Copying α Unit} {wanted : σ → RemapKey → Prop} {l : List σ}
    (each : ∀ x ∈ l, Casts h P N R (wanted x) (f x)) :
    Casts h P N R (fun key => ∃ x ∈ l, wanted x key) (l.forM f) := by
  induction l with
  | nil => exact (castsPure ()).fewer fun _ none => nomatch none
  | cons x rest ih =>
    simp only [List.forM_eq_forM, List.forM_cons] at ih ⊢
    have others := ih fun y member => each y (List.mem_cons_of_mem _ member)
    refine (castsBind (each x List.mem_cons_self) fun _ => others).fewer fun key asked => ?_
    obtain ⟨y, member, asked⟩ := asked
    rcases List.mem_cons.mp member with same | later
    · exact .inl (same ▸ asked)
    · exact .inr ⟨y, later, asked⟩

theorem castsPush {k : EntityKind α} (plain : k.Plain) (id : EntityId) (construction : Bool) :
    Casts h P N R (fun _ => False) (push h id construction k) := by
  intro c x c' run
  cases run
  refine ⟨.refl _, fun e member => Array.mem_push_of_mem _ member, fun e member => ?_, fun _ none => none.elim⟩
  rcases Array.mem_push.mp member with before | same
  · exact .inl before
  · subst same
    exact .inr (.plain plain)

def Hands (Q : RemapTable → τ → Prop) (m : Copying α τ) : Prop :=
  ∀ c x c', m c = .ok (x, c') → c.remap.Extends c'.remap ∧ c'.made = c.made ∧ Q c'.remap x

theorem handsBind {S : σ → Prop} {Q : RemapTable → τ → Prop} {m : Copying α σ} {k : σ → Copying α τ}
    (first : Hands (fun _ => S) m) (next : ∀ x, S x → Hands Q (k x)) : Hands Q (m >>= k) := by
  intro c y c'' run
  obtain ⟨⟨x, c'⟩, here, rest⟩ := Result.bindOk.mp run
  obtain ⟨grown, same, holds⟩ := first c x c' here
  obtain ⟨grown', same', done⟩ := next x holds c' y c'' rest
  exact ⟨grown.trans grown', same'.trans same, done⟩

theorem handsPure {Q : RemapTable → τ → Prop} {x : τ} (ok : ∀ t, Q t x) : Hands Q (pure x : Copying α τ) := by
  intro c y c' run
  cases run
  exact ⟨.refl _, rfl, ok _⟩

theorem handsLift (r : Except SketchError τ) : Hands (fun _ x => r = .ok x) (liftM r : Copying α τ) := by
  intro c y c' run
  obtain ⟨z, read, rest⟩ := Result.bindOk.mp run
  cases rest
  exact ⟨.refl _, rfl, read⟩

variable [Scalar α] {s : Sketch α} {e : Entity α} {transform : CopyTransform α} {role : RemapRole} {n : Nat}

omit [Scalar α] in
theorem handsDerive [Scalar α] (role : RemapRole) (n : Nat) (id : EntityId) :
    Hands (fun _ _ => True) (derive (α := α) h role n id) := by
  intro c x c' run
  cases run
  exact ⟨c.remap.slotExtends _, rfl, trivial⟩

omit [Scalar α] in
theorem castsHandle [Scalar α] (key : RemapKey) : Casts h P N R (fun _ => False) (handle (α := α) h key) := by
  intro c x c' run
  cases run
  exact ⟨c.remap.slotExtends _, fun _ member => member, fun _ member => .inl member, fun _ none => none.elim⟩

omit [Scalar α] in
theorem castsDerive [Scalar α] (role : RemapRole) (n : Nat) (id : EntityId) :
    Casts h P N R (fun _ => False) (derive (α := α) h role n id) := castsHandle _

theorem handsCopiedKind (parts : ∀ o d, e.kind = .workplane o d → P ⟨.entity o, role, n⟩ ∧ N ⟨.entity d, role, n⟩) :
    Hands (fun t k => Cast h P N t k ∧ s.Placed e) (copiedKind s (derive h role n) transform e) := by
  have hands (id : EntityId) := handsDerive (α := α) (h := h) role n id
  have plain {k : EntityKind α} (plain : k.Plain) (placed : s.Placed e) :
      Hands (fun t k => Cast h P N t k ∧ s.Placed e) (pure k : Copying α (EntityKind α)) :=
    handsPure fun _ => ⟨.plain plain, placed⟩
  have isA (c : EntityClass) : e.isA c = e.kind.isA c := rfl
  have apart (other : e.kind.isA .point = false ∧ e.kind.isA .normal = false) : s.Placed e :=
    ⟨fun point => absurd point (by simp [isA, other.1]), fun normal => absurd normal (by simp [isA, other.2])⟩
  unfold copiedKind
  cases kind : e.kind with
  | pointIn3d | pointIn2d | pointCopy =>
    refine handsBind (handsLift _) fun p read => plain trivial ⟨fun _ => ⟨p, read⟩, fun normal => ?_⟩
    rw [isA, kind] at normal
    exact absurd normal Bool.false_ne_true
  | normalIn3d | normalIn2d | normalCopy =>
    refine handsBind (handsLift _) fun q read => plain trivial ⟨fun point => ?_, fun _ => ⟨q, read⟩⟩
    rw [isA, kind] at point
    exact absurd point Bool.false_ne_true
  | distance | distanceCopy =>
    exact handsBind (handsLift _) fun x _ => plain trivial (apart (by rw [kind]; exact ⟨rfl, rfl⟩))
  | workplane o d =>
    obtain ⟨point, normal⟩ := parts o d kind
    intro c x c' run
    cases run
    have first := c.remap.slotExtends ⟨.entity o, role, n⟩
    have second := (c.remap.slot ⟨.entity o, role, n⟩).2.slotExtends ⟨.entity d, role, n⟩
    refine ⟨first.trans second, rfl, .plane point normal ?_ (RemapTable.slotGiven _ _), ?_⟩
    · exact second.found _ _ (RemapTable.slotGiven _ _)
    · exact apart (by rw [kind]; exact ⟨rfl, rfl⟩)
  | line a b =>
    refine handsBind (hands a) fun a _ => handsBind (hands b) fun b _ => plain trivial ?_
    exact apart (by rw [kind]; exact ⟨rfl, rfl⟩)
  | circle c d r =>
    refine handsBind (hands c) fun c _ => handsBind (hands d) fun d _ => handsBind (hands r) fun r _ => plain trivial ?_
    exact apart (by rw [kind]; exact ⟨rfl, rfl⟩)
  | arc c a b d =>
    refine handsBind (hands c) fun c _ => handsBind (hands a) fun a _ => handsBind (hands b) fun b _ =>
      handsBind (hands d) fun d _ => plain trivial ?_
    exact apart (by rw [kind]; exact ⟨rfl, rfl⟩)
  | cubic p q r t =>
    refine handsBind (hands p) fun p _ => handsBind (hands q) fun q _ => handsBind (hands r) fun r _ =>
      handsBind (hands t) fun t _ => plain trivial ?_
    exact apart (by rw [kind]; exact ⟨rfl, rfl⟩)
  | face => exact fun c x c' run => nomatch run

theorem castsCopy (parts : ∀ o d, e.kind = .workplane o d → P ⟨.entity o, role, n⟩ ∧ N ⟨.entity d, role, n⟩)
    (placed : s.Placed e → R ⟨.entity e.id, role, n⟩) :
    Casts h P N R (· = ⟨.entity e.id, role, n⟩) (copy s h role n transform e) := by
  intro c id c' run
  obtain ⟨⟨kind, c₁⟩, first, rest⟩ := Result.bindOk.mp run
  obtain ⟨grown, same, cast, there⟩ := handsCopiedKind parts c kind c₁ first
  cases rest
  have next := c₁.remap.slotExtends ⟨.entity e.id, role, n⟩
  refine ⟨grown.trans next, fun e member => ?_, fun e' member => ?_, fun key wanted => ?_⟩
  · exact Array.mem_push_of_mem _ (same ▸ member)
  · rcases Array.mem_push.mp member with before | new
    · exact .inl (same ▸ before)
    · subst new
      exact .inr (cast.later next)
  · subst wanted
    exact ⟨placed there, _, RemapTable.slotGiven _ _, _, Array.mem_push_self, rfl⟩

theorem castsTurnPath (axis : Axis α) (ends : Option (EntityId × EntityId)) :
    Casts h P N R (fun _ => False) (turnPath s h axis ends e) := by
  refine castsAfter (castsLift _) fun p => ?_
  dsimp only
  split
  · exact castsPure ()
  · refine castsAfter (castsDerive _ _ _) fun center => castsAfter (castsPush (by trivial) _ _) fun _ => ?_
    refine castsAfter (castsDerive _ _ _) fun normal => castsAfter (castsPush (by trivial) _ _) fun _ => ?_
    refine castsAfter (castsDerive _ _ _) fun curve => ?_
    cases ends with
    | some both => exact castsPush (by trivial) _ _
    | none =>
      refine castsAfter (castsDerive _ _ _) fun radius => castsAfter (castsPush (by trivial) _ _) fun _ => ?_
      exact castsPush (by trivial) _ _

structure Wants (s : Sketch α) (P N R : RemapKey → Prop) (casts : List (RemapRole × Nat)) (e : Entity α) : Prop where
  parts : ∀ cast ∈ casts, ∀ o d, e.kind = .workplane o d →
    P ⟨.entity o, cast.1, cast.2⟩ ∧ N ⟨.entity d, cast.1, cast.2⟩
  placed : ∀ cast ∈ casts, s.Placed e → R ⟨.entity e.id, cast.1, cast.2⟩

theorem Wants.copy {casts : List (RemapRole × Nat)} (wants : Wants s P N R casts e) (member : (role, n) ∈ casts) :
    Casts h P N R (· = ⟨.entity e.id, role, n⟩) (copy s h role n transform e) :=
  castsCopy (wants.parts _ member) (wants.placed _ member)

variable {g : Group α}

theorem castsExtrude {bottom top : CopyTransform α} (wants : Wants s P N R [(.bottom, 0), (.top, 0)] e) :
    Casts g.id P N R (fun key => key = ⟨.entity e.id, .bottom, 0⟩ ∨ key = ⟨.entity e.id, .top, 0⟩)
      (extrude s g bottom top e) := by
  have edge (low high : EntityId) (rest : Copying α Unit) (plain : Casts g.id P N R (fun _ => False) rest) :
      Casts g.id P N R (fun _ => False) (do
        if e.isA .point then push g.id (← derive g.id .pointToLine 0 e.id) e.construction (.line low high)
        rest) := by
    cases e.isA .point with
    | false => exact plain
    | true => exact castsAfter (castsDerive _ _ _) fun _ => castsAfter (castsPush (by trivial) _ _) fun _ => plain
  refine castsBind (wants.copy (by simp)) fun low => ?_
  refine castsFirst (wants.copy (by simp)) fun high => edge low high _ ?_
  cases e.kind with
  | line a b =>
    refine castsAfter (castsDerive _ _ _) fun source => castsAfter (castsDerive _ _ _) fun target => ?_
    exact castsAfter (castsDerive _ _ _) fun _ => castsPush (by trivial) _ _
  | _ => exact castsPure ()

theorem castsLathe {axis : Axis α} (wants : Wants s P N R [(.copy, 0)] e) :
    Casts h P N R (· = ⟨.entity e.id, .copy, 0⟩) (lathe s h axis e) := by
  refine castsFirst (wants.copy (by simp)) fun _ => ?_
  cases e.isA .point with
  | false => exact castsPure ()
  | true => exact castsTurnPath axis none

theorem castsRevolve {axis : Axis α} (wants : Wants s P N R [(.latheStart, 0), (.latheEnd, 0)] e) :
    Casts g.id P N R (fun key => key = ⟨.entity e.id, .latheStart, 0⟩ ∨ key = ⟨.entity e.id, .latheEnd, 0⟩)
      (revolve s g axis e) := by
  refine castsBind (wants.copy (by simp)) fun start => ?_
  refine castsFirst (wants.copy (by simp)) fun finish => ?_
  cases e.isA .point with
  | false => exact castsPure ()
  | true => exact castsTurnPath axis (some (start, finish))

theorem castsRepeated {transform : α → CopyTransform α} {multiples : List α} {sources : List (Entity α)}
    (wants : ∀ e ∈ sources, Wants s P N R (multiples.zipIdx.map fun step => (.copy, step.2)) e) :
    Casts h P N R (fun key => ∃ step ∈ multiples.zipIdx, ∃ e ∈ sources, key = ⟨.entity e.id, .copy, step.2⟩)
      (repeated s h transform multiples sources) := by
  refine castsForM fun step there => castsForM fun e member => ?_
  refine castsFirst ((wants e member).copy ?_) fun _ => castsPure ()
  exact List.mem_map.mpr ⟨step, there, rfl⟩

theorem castsAll {sources : List (Entity α)} (wants : ∀ e ∈ sources, Wants s P N R g.kind.casts e) :
    Casts g.id P N R (fun key => ∃ e ∈ sources, ∃ cast ∈ g.kind.casts, key = ⟨.entity e.id, cast.1, cast.2⟩)
      (all s g sources) := by
  unfold all
  cases kind : g.kind with
  | drawing3d | drawingWorkplane => exact (castsPure ()).fewer fun _ asked => by simp [GroupKind.casts] at asked
  | extrude sides lock =>
    rw [kind] at wants
    exact (castsForM fun e member => castsExtrude (wants e member)).fewer fun _ asked => by
      simpa [GroupKind.casts] using asked
  | lathe axis =>
    rw [kind] at wants
    exact (castsForM fun e member => castsLathe (wants e member)).fewer fun _ asked => by
      simpa [GroupKind.casts] using asked
  | revolve axis =>
    rw [kind] at wants
    exact (castsForM fun e member => castsRevolve (wants e member)).fewer fun _ asked => by
      simpa [GroupKind.casts] using asked
  | translate copies sides skip | rotate _ _ copies sides skip =>
    rw [kind] at wants
    refine (castsRepeated wants).fewer fun key asked => ?_
    obtain ⟨e, member, cast, way, same⟩ := asked
    obtain ⟨step, there, rfl⟩ := List.mem_map.mp way
    exact ⟨step, there, e, member, same⟩
  | linked points shell =>
    have each (step : Vec3 α × Nat) : Casts g.id P N R (fun _ => False) (do
        push g.id (← handle g.id ⟨.imported step.2, .copy, 0⟩) false
          (.pointCopy step.1 (.linked g.linkOffset g.linkRotation))) :=
      castsAfter (castsHandle _) fun _ => castsPush (by trivial) _ _
    refine (castsForM fun step _ => each step).fewer fun _ asked => ?_
    simp [GroupKind.casts] at asked

omit [Scalar α] in
theorem castsLinked (holds : ∀ i, R ⟨.imported i, .copy, 0⟩) (points : List (Vec3 α)) :
    Casts g.id P N R (fun key => ∃ step ∈ points.zipIdx, key = ⟨.imported step.2, .copy, 0⟩)
      (points.zipIdx.forM fun (p, i) => do
        push g.id (← handle g.id ⟨.imported i, .copy, 0⟩) false
          (.pointCopy p (.linked g.linkOffset g.linkRotation))) := by
  refine castsForM fun step _ c x c' run => ?_
  cases run
  refine ⟨c.remap.slotExtends _, fun e member => Array.mem_push_of_mem _ member, fun e member => ?_,
    fun key wanted => ?_⟩
  · rcases Array.mem_push.mp member with before | same
    · exact .inl before
    · subst same
      exact .inr (.plain trivial)
  · subst wanted
    exact ⟨holds step.2, _, RemapTable.slotGiven _ _, _, Array.mem_push_self, rfl⟩

def Stops (E : SketchError → Prop) (m : Copying α τ) : Prop := ∀ c cause, m c = .error cause → E cause

section Stops
variable {E : SketchError → Prop}

omit [Scalar α] in
theorem stopsBind {m : Copying α σ} {k : σ → Copying α τ} (first : Stops E m) (next : ∀ x, Stops E (k x)) :
    Stops E (m >>= k) := by
  intro c cause failed
  rcases Result.bindError.mp failed with here | ⟨⟨x, c'⟩, _, later⟩
  · exact first c cause here
  · exact next x c' cause later

omit [Scalar α] in
theorem stopsPure (x : τ) : Stops E (pure x : Copying α τ) := fun _ _ failed => nomatch failed

omit [Scalar α] in
theorem stopsLift {r : Except SketchError τ} (causes : ∀ cause, r = .error cause → E cause) :
    Stops E (liftM r : Copying α τ) := by
  intro c cause failed
  rcases Result.bindError.mp failed with here | ⟨_, _, last⟩
  · exact causes cause here
  · exact nomatch last

omit [Scalar α] in
theorem stopsForM {f : σ → Copying α Unit} {l : List σ} (each : ∀ x ∈ l, Stops E (f x)) : Stops E (l.forM f) := by
  induction l with
  | nil => exact stopsPure ()
  | cons x rest ih =>
    simp only [List.forM_eq_forM, List.forM_cons] at ih ⊢
    exact stopsBind (each x List.mem_cons_self) fun _ => ih fun y member => each y (List.mem_cons_of_mem _ member)

omit [Scalar α] in
theorem stopsHandle [Scalar α] (key : RemapKey) : Stops E (handle (α := α) h key) := fun _ _ failed => nomatch failed

omit [Scalar α] in
theorem stopsPush (id : EntityId) (construction : Bool) (k : EntityKind α) : Stops E (push h id construction k) :=
  fun _ _ failed => nomatch failed

omit [Scalar α] in
theorem stopsDerive [Scalar α] (role : RemapRole) (n : Nat) (id : EntityId) : Stops E (derive (α := α) h role n id) :=
  stopsHandle _

structure Yields (s : Sketch α) (E : SketchError → Prop) (e : Entity α) : Prop where
  point : e.isA .point = true → ∀ cause, s.position e.id = .error cause → E cause
  normal : e.isA .normal = true → ∀ cause, s.orientation e.id = .error cause → E cause
  distance : e.isA .distance = true → ∀ cause, s.distance e.id = .error cause → E cause
  whole : e.isA .face = false

theorem stopsCopy (yields : Yields s E e) : Stops E (copy s h role n transform e) := by
  have hands (id : EntityId) := stopsDerive (α := α) (h := h) (E := E) role n id
  have isA (c : EntityClass) : e.isA c = e.kind.isA c := rfl
  have whole := yields.whole
  refine stopsBind ?_ fun kind => stopsBind (hands _) fun id => stopsBind (stopsPush _ _ _) fun _ => stopsPure _
  unfold copiedKind
  cases kind : e.kind with
  | pointIn3d | pointIn2d | pointCopy =>
    exact stopsBind (stopsLift (yields.point (by rw [isA, kind]; rfl))) fun p => stopsPure _
  | normalIn3d | normalIn2d | normalCopy =>
    exact stopsBind (stopsLift (yields.normal (by rw [isA, kind]; rfl))) fun q => stopsPure _
  | distance | distanceCopy =>
    exact stopsBind (stopsLift (yields.distance (by rw [isA, kind]; rfl))) fun x => stopsPure _
  | workplane o d | line o d => exact stopsBind (hands o) fun _ => stopsBind (hands d) fun _ => stopsPure _
  | circle c d r =>
    exact stopsBind (hands c) fun _ => stopsBind (hands d) fun _ => stopsBind (hands r) fun _ => stopsPure _
  | arc a b c d | cubic a b c d =>
    exact stopsBind (hands a) fun _ => stopsBind (hands b) fun _ => stopsBind (hands c) fun _ =>
      stopsBind (hands d) fun _ => stopsPure _
  | face =>
    rw [isA, kind] at whole
    exact absurd whole (by simp [EntityKind.isA, EntityKind.classes])

theorem stopsTurnPath (axis : Axis α) (ends : Option (EntityId × EntityId))
    (point : ∀ cause, s.position e.id = .error cause → E cause) : Stops E (turnPath s h axis ends e) := by
  refine stopsBind (stopsLift point) fun p => ?_
  dsimp only
  split
  · exact stopsPure ()
  · refine stopsBind (stopsDerive _ _ _) fun center => stopsBind (stopsPush _ _ _) fun _ => ?_
    refine stopsBind (stopsDerive _ _ _) fun normal => stopsBind (stopsPush _ _ _) fun _ => ?_
    refine stopsBind (stopsDerive _ _ _) fun curve => ?_
    cases ends with
    | some both => exact stopsPush _ _ _
    | none =>
      exact stopsBind (stopsDerive _ _ _) fun radius => stopsBind (stopsPush _ _ _) fun _ => stopsPush _ _ _

theorem stopsExtrude {bottom top : CopyTransform α} (yields : Yields s E e) : Stops E (extrude s g bottom top e) := by
  refine stopsBind (stopsCopy yields) fun low => stopsBind (stopsCopy yields) fun high => ?_
  have edge {face : Copying α Unit} (stops : Stops E face) :
      Stops E (do push g.id (← derive g.id .pointToLine 0 e.id) e.construction (.line low high); face) :=
    stopsBind (stopsDerive _ _ _) fun _ => stopsBind (stopsPush _ _ _) fun _ => stops
  cases e.kind with
  | line a b =>
    have face : Stops (α := α) E (do
        let source ← derive g.id .bottom 0 a
        let target ← derive g.id .bottom 0 b
        push g.id (← derive g.id .lineToFace 0 e.id) e.construction (.face source (.sweep source target g.delta))) := by
      refine stopsBind (stopsDerive _ _ _) fun source => stopsBind (stopsDerive _ _ _) fun target => ?_
      exact stopsBind (stopsDerive _ _ _) fun _ => stopsPush _ _ _
    cases e.isA .point with
    | false => exact face
    | true => exact edge face
  | _ =>
    cases e.isA .point with
    | false => exact stopsPure ()
    | true => exact edge (stopsPure ())

theorem stopsLathe (axis : Axis α) (yields : Yields s E e) : Stops E (lathe s h axis e) := by
  refine stopsBind (stopsCopy yields) fun _ => ?_
  cases point : e.isA .point with
  | false => exact stopsPure ()
  | true => exact stopsTurnPath axis none (yields.point point)

theorem stopsRevolve (axis : Axis α) (yields : Yields s E e) : Stops E (revolve s g axis e) := by
  refine stopsBind (stopsCopy yields) fun start => stopsBind (stopsCopy yields) fun finish => ?_
  cases point : e.isA .point with
  | false => exact stopsPure ()
  | true => exact stopsTurnPath axis (some (start, finish)) (yields.point point)

theorem stopsRepeated {transform : α → CopyTransform α} {multiples : List α} {sources : List (Entity α)}
    (yields : ∀ e ∈ sources, Yields s E e) : Stops E (repeated s h transform multiples sources) :=
  stopsForM fun _ _ => stopsForM fun e member => stopsBind (stopsCopy (yields e member)) fun _ => stopsPure ()

theorem stopsAll {sources : List (Entity α)} (yields : ∀ e ∈ sources, Yields s E e) : Stops E (all s g sources) := by
  unfold all
  cases g.kind with
  | drawing3d | drawingWorkplane => exact stopsPure ()
  | extrude sides lock => exact stopsForM fun e member => stopsExtrude (yields e member)
  | lathe axis => exact stopsForM fun e member => stopsLathe axis (yields e member)
  | revolve axis => exact stopsForM fun e member => stopsRevolve axis (yields e member)
  | translate | rotate => exact stopsRepeated yields
  | linked points shell => exact stopsForM fun _ _ => stopsBind (stopsHandle _) fun _ => stopsPush _ _ _

end Stops
end Copying
end Drafting
