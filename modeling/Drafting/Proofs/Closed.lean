import Drafting.Proofs.Casts
import Drafting.Proofs.Generate
import Drafting.Scalar.Binary64
/-! Groups whose entities are put together from one another. What a group makes of closed sources is closed again:
everything planned stands under the slot of its own key, no two things under one, and whatever an entity is
put together from has been made along with it, of the class that it has to be of. -/
namespace Drafting

namespace RemapTable
variable {t : RemapTable}

/-- The tables there are: read from a list of entries, and grown by handing out slots. -/
inductive Built : RemapTable → Prop
  | entries (list : List (RemapKey × Nat)) : Built (ofList list)
  | slot {t : RemapTable} (key : RemapKey) (built : Built t) : Built (t.slot key).2

theorem enteredBelow (list : List (RemapKey × Nat)) {m : Std.HashMap RemapKey Nat} {n : Nat}
    (below : ∀ (key : RemapKey) (s : Nat), m[key]? = some s → s < n) :
    ∀ (key : RemapKey) (s : Nat), (list.foldl (fun m entry => m.insert entry.1 entry.2) m)[key]? = some s →
      s < list.foldl (fun n entry => Nat.max n (entry.2 + 1)) n := by
  induction list generalizing m n with
  | nil => exact below
  | cons entry rest ih =>
    refine ih fun key s found => ?_
    rw [Std.HashMap.getElem?_insert] at found
    split at found
    · obtain rfl := Option.some.inj found
      exact Nat.lt_of_lt_of_le (Nat.lt_succ_self _) (Nat.le_max_right _ _)
    · exact Nat.lt_of_lt_of_le (below key s found) (Nat.le_max_left _ _)

theorem Built.bounded (built : t.Built) : ∀ key s, t.get? key = some s → s < t.next := by
  induction built with
  | entries list => exact enteredBelow list fun key s found => by simp at found
  | @slot t key _ ih =>
    cases given : t.get? key with
    | some s =>
      rw [slotAgain given (.refl t)]
      exact ih
    | none =>
      intro other s found
      rw [(slotNew given other).1] at found
      rw [(slotNew given other).2]
      split at found
      · exact Option.some.inj found ▸ Nat.lt_succ_self _
      · exact Nat.lt_succ_of_lt (ih other s found)

def Named (h : GroupId) (t : RemapTable) (key : RemapKey) (id : EntityId) : Prop :=
  ∃ slot, t.get? key = some slot ∧ id = .derived h slot

namespace Named
variable {h : GroupId} {u : RemapTable} {a b : RemapKey} {id id' : EntityId}

theorem later (named : Named h t a id) (grown : t.Extends u) : Named h u a id := by
  obtain ⟨slot, found, same⟩ := named
  exact ⟨slot, grown.found a slot found, same⟩

theorem unique (first : Named h t a id) (second : Named h t a id') : id' = id := by
  obtain ⟨slot, found, rfl⟩ := first
  obtain ⟨slot', found', rfl⟩ := second
  rw [Option.some.inj (found'.symm.trans found)]

theorem once (proper : t.Proper) (first : Named h t a id) (second : Named h t b id) : a = b := by
  obtain ⟨slot, found, rfl⟩ := first
  obtain ⟨slot', found', same⟩ := second
  have slots : slot = slot' := congrArg EntityId.index same
  exact proper.once a b slot found (slots ▸ found')

end Named
end RemapTable

open RemapTable (Named)

namespace EntityKind

theorem roleClass (k : EntityKind α) : ∀ part ∈ k.roles, part.1 = .point ∨ part.1 = .normal ∨ part.1 = .distance := by
  cases k with
  | face point direction => cases direction <;> simp
  | _ => simp [roles]

theorem roleNoFace {k k' : EntityKind α} {part : EntityClass × EntityId} (member : part ∈ k.roles)
    (sort : k'.isA part.1 = true) : k'.isA .face = false := by
  cases k' with
  | face =>
    rcases roleClass k part member with same | same | same <;> rw [same] at sort <;> simp [isA, EntityKind.classes] at sort
  | _ => rfl

end EntityKind

/-- Whatever the entities are put together from is among them, and of the class that it has to be of. -/
def Closed (es : List (Entity α)) : Prop :=
  ∀ e ∈ es, ∀ part ∈ e.kind.roles, ∃ e' ∈ es, e'.id = part.2 ∧ e'.isA part.1 = true

def Sketch.ofGroup (s : Sketch α) (k : GroupId) : List (Entity α) := s.entities.toList.filter (·.group == k)

abbrev Planned := RemapKey × List EntityClass

def Expected (plan : List Planned) (key : RemapKey) (k : EntityClass) : Prop :=
  ∃ planned ∈ plan, planned.1 = key ∧ k ∈ planned.2

namespace Copying
section Plans
variable [Scalar α]

def turns (s : Sketch α) (axis : Axis α) (e : Entity α) : Bool :=
  match s.position e.id with
  | .ok p => !decide (p.distance (axis.project p) < onAxisEpsilon)
  | .error _ => false

omit [Scalar α] in
def planWhole (role : RemapRole) (n : Nat) (e : Entity α) : Planned := (⟨.entity e.id, role, n⟩, e.kind.classes)

def planPath (s : Sketch α) (axis : Axis α) (closed : Bool) (e : Entity α) : List Planned :=
  if e.isA .point && turns s axis e then
    [(⟨.entity e.id, .latheArcCenter, 0⟩, [.point]), (⟨.entity e.id, .pointToNormal, 0⟩, [.normal])] ++
      (if closed then [(⟨.entity e.id, .latheRadius, 0⟩, [.distance])] else []) ++
      [(⟨.entity e.id, .pointToArc, 0⟩, [.round])]
  else []

omit [Scalar α] in
def planEdge (e : Entity α) : List Planned :=
  if e.isA .point then [(⟨.entity e.id, .pointToLine, 0⟩, [.line])] else []

omit [Scalar α] in
def planFace (e : Entity α) : List Planned :=
  match e.kind with
  | .line .. => [(⟨.entity e.id, .lineToFace, 0⟩, [.face])]
  | _ => []

def plan (s : Sketch α) (g : Group α) (sources : List (Entity α)) : List Planned :=
  match g.kind with
  | .drawing3d | .drawingWorkplane .. => []
  | .extrude .. => sources.flatMap fun e =>
    planWhole .bottom 0 e :: planWhole .top 0 e :: (planEdge e ++ planFace e)
  | .lathe axis => sources.flatMap fun e => planWhole .copy 0 e :: planPath s axis true e
  | .revolve axis => sources.flatMap fun e =>
    planWhole .latheStart 0 e :: planWhole .latheEnd 0 e :: planPath s axis false e
  | .translate copies sides skipFirst | .rotate _ _ copies sides skipFirst =>
    (sides.multiples (α := α) copies skipFirst).zipIdx.flatMap fun step => sources.map (planWhole .copy step.2)
  | .linked points _ => points.zipIdx.map fun step => (⟨.imported step.2, .copy, 0⟩, [.point])

end Plans

section Runs
variable {h : GroupId} {W : RemapKey → EntityClass → Prop} {t u : RemapTable} {Q : RemapTable → τ → Prop}
  {planned : Planned} {first more : List Planned}

/-- An entity made as planned, put together from what stands under keys that are planned for it. -/
structure Filed (h : GroupId) (W : RemapKey → EntityClass → Prop) (t : RemapTable) (planned : Planned) (e : Entity α) :
    Prop where
  group : e.group = h
  named : Named h t planned.1 e.id
  classes : ∀ c ∈ planned.2, e.isA c = true
  parts : ∀ part ∈ e.kind.roles, ∃ key, Named h t key part.2 ∧ W key part.1

theorem Filed.later {e : Entity α} (filed : Filed h W t planned e) (grown : t.Extends u) : Filed h W u planned e where
  group := filed.group
  named := filed.named.later grown
  classes := filed.classes
  parts part member := by
    obtain ⟨key, named, wanted⟩ := filed.parts part member
    exact ⟨key, named.later grown, wanted⟩

theorem Filed.plain {id : EntityId} {key : RemapKey} {c : EntityClass} {construction : Bool} {kind : EntityKind α}
    (named : Named h t key id) (sort : kind.isA c = true) (none : kind.roles = []) :
    Filed h W t (key, [c]) { id, group := h, construction, kind } where
  group := rfl
  named := named
  classes c' member := by
    obtain rfl := List.mem_singleton.mp member
    exact sort
  parts part member := by
    rw [none] at member
    exact absurd member List.not_mem_nil

/-- From a table on, a run makes what is planned, in order, and gives back something that its table bears out. -/
def Makes (h : GroupId) (W : RemapKey → EntityClass → Prop) (t : RemapTable) (plan : List Planned)
    (Q : RemapTable → τ → Prop) (m : Copying α τ) : Prop :=
  ∀ c x c', t.Extends c.remap → m c = .ok (x, c') → c.remap.Extends c'.remap ∧ Q c'.remap x ∧
    ∃ es, c'.made.toList = c.made.toList ++ es ∧ List.Forall₂ (Filed h W c'.remap) plan es

theorem makesBind {P : RemapTable → σ → Prop} {m : Copying α σ} {k : σ → Copying α τ} (run : Makes h W t first P m)
    (next : ∀ u x, t.Extends u → P u x → Makes h W u more Q (k x)) : Makes h W t (first ++ more) Q (m >>= k) := by
  intro c y c'' start ok
  obtain ⟨⟨x, c'⟩, here, rest⟩ := Result.bindOk.mp ok
  obtain ⟨grown, holds, es, made, filed⟩ := run c x c' start here
  obtain ⟨grown', done, es', made', filed'⟩ := next c'.remap x (start.trans grown) holds c' y c'' (.refl _) rest
  refine ⟨grown.trans grown', done, es ++ es', by rw [made', made, List.append_assoc], ?_⟩
  exact List.rel_append (filed.imp fun _ _ filed => filed.later grown') filed'

theorem makesAfter {P : RemapTable → σ → Prop} {m : Copying α σ} {k : σ → Copying α τ} (run : Makes h W t [] P m)
    (next : ∀ u x, t.Extends u → P u x → Makes h W u more Q (k x)) : Makes h W t more Q (m >>= k) :=
  makesBind run next

theorem makesThen {P : RemapTable → σ → Prop} {m : Copying α σ} {k : σ → Copying α τ} (run : Makes h W t [planned] P m)
    (next : ∀ u x, t.Extends u → P u x → Makes h W u more Q (k x)) : Makes h W t (planned :: more) Q (m >>= k) :=
  makesBind run next

theorem makesPure {x : τ} (ok : ∀ u, t.Extends u → Q u x) : Makes h W t [] Q (pure x : Copying α τ) := by
  intro c y c' start run
  cases run
  exact ⟨.refl _, ok _ start, [], by simp, .nil⟩

theorem makesLift (r : Except SketchError τ) : Makes h W t [] (fun _ x => r = .ok x) (liftM r : Copying α τ) := by
  intro c y c' start run
  obtain ⟨z, read, rest⟩ := Result.bindOk.mp run
  cases rest
  exact ⟨.refl _, read, [], by simp, .nil⟩

theorem makesHandle [Scalar α] (key : RemapKey) :
    Makes h W t [] (fun u id => Named h u key id) (handle (α := α) h key) := by
  intro c x c' start run
  cases run
  exact ⟨c.remap.slotExtends key, ⟨_, c.remap.slotGiven key, rfl⟩, [], by simp, .nil⟩

theorem makesPush {id : EntityId} {construction : Bool} {kind : EntityKind α}
    (filed : Filed h W t planned { id, group := h, construction, kind }) :
    Makes h W t [planned] (fun _ _ => True) (push h id construction kind) := by
  intro c x c' start run
  cases run
  exact ⟨.refl _, trivial, [_], by simp, .cons (filed.later start) .nil⟩

theorem makesForM {f : σ → Copying α Unit} {planOf : σ → List Planned} {l : List σ}
    (each : ∀ x ∈ l, ∀ u, t.Extends u → Makes h W u (planOf x) (fun _ _ => True) (f x)) :
    Makes h W t (l.flatMap planOf) (fun _ _ => True) (l.forM f) := by
  induction l generalizing t with
  | nil => exact makesPure fun _ _ => trivial
  | cons x rest ih =>
    simp only [List.forM_eq_forM, List.forM_cons, List.flatMap_cons] at ih ⊢
    refine makesBind (each x List.mem_cons_self t (.refl t)) fun u _ grown _ => ?_
    exact ih fun y member v further => each y (List.mem_cons_of_mem _ member) v (grown.trans further)

end Runs

section Steps
variable [Scalar α] {h : GroupId} {W : RemapKey → EntityClass → Prop} {t : RemapTable} {s : Sketch α} {g : Group α}
  {e : Entity α} {role : RemapRole} {n : Nat} {transform : CopyTransform α}

theorem makesDerive (role : RemapRole) (n : Nat) (id : EntityId) :
    Makes h W t [] (fun u x => Named h u ⟨.entity id, role, n⟩ x) (derive (α := α) h role n id) := makesHandle _

structure KindFiled (h : GroupId) (W : RemapKey → EntityClass → Prop) (e : Entity α) (t : RemapTable) (k : EntityKind α) :
    Prop where
  classes : k.classes = e.kind.classes
  parts : ∀ part ∈ k.roles, ∃ key, Named h t key part.2 ∧ W key part.1

theorem makesCopiedKind (parts : ∀ part ∈ e.kind.roles, W ⟨.entity part.2, role, n⟩ part.1) :
    Makes h W t [] (KindFiled h W e) (copiedKind s (derive h role n) transform e) := by
  have hands {t : RemapTable} (id : EntityId) := makesDerive (α := α) (h := h) (W := W) (t := t) role n id
  unfold copiedKind
  cases kind : e.kind with
  | pointIn3d | pointIn2d | pointCopy | normalIn3d | normalIn2d | normalCopy | distance | distanceCopy =>
    refine makesAfter (makesLift _) fun _ _ _ _ => makesPure fun _ _ => ⟨by rw [kind]; rfl, ?_⟩
    exact fun part member => absurd member List.not_mem_nil
  | workplane a b | line a b =>
    simp [kind] at parts
    refine makesAfter (hands a) fun _ _ _ ha => makesAfter (hands b) fun _ _ gb hb =>
      makesPure fun _ grown => ⟨by rw [kind]; rfl, ?_⟩
    simp only [EntityKind.rolesWorkplane, EntityKind.rolesLine, List.forall_mem_cons]
    exact ⟨⟨_, (ha.later gb).later grown, parts.1⟩, ⟨_, hb.later grown, parts.2⟩, by simp⟩
  | circle a b c =>
    simp [kind] at parts
    refine makesAfter (hands a) fun _ _ _ ha => makesAfter (hands b) fun _ _ gb hb => makesAfter (hands c) fun _ _ gc hc =>
      makesPure fun _ grown => ⟨by rw [kind]; rfl, ?_⟩
    simp only [EntityKind.rolesCircle, List.forall_mem_cons]
    exact ⟨⟨_, ((ha.later gb).later gc).later grown, parts.1⟩, ⟨_, (hb.later gc).later grown, parts.2.1⟩,
      ⟨_, hc.later grown, parts.2.2⟩, by simp⟩
  | arc a b c d | cubic a b c d =>
    simp [kind] at parts
    refine makesAfter (hands a) fun _ _ _ ha => makesAfter (hands b) fun _ _ gb hb => makesAfter (hands c) fun _ _ gc hc =>
      makesAfter (hands d) fun _ _ gd hd => makesPure fun _ grown => ⟨by rw [kind]; rfl, ?_⟩
    simp only [EntityKind.rolesArc, EntityKind.rolesCubic, List.forall_mem_cons]
    exact ⟨⟨_, (((ha.later gb).later gc).later gd).later grown, parts.1⟩,
      ⟨_, ((hb.later gc).later gd).later grown, parts.2.1⟩, ⟨_, (hc.later gd).later grown, parts.2.2.1⟩,
      ⟨_, hd.later grown, parts.2.2.2⟩, by simp⟩
  | face =>
    intro c x c' _ run
    cases run

theorem makesCopy (parts : ∀ part ∈ e.kind.roles, W ⟨.entity part.2, role, n⟩ part.1) :
    Makes h W t [planWhole role n e] (fun u id => Named h u ⟨.entity e.id, role, n⟩ id) (copy s h role n transform e) := by
  refine makesAfter (makesCopiedKind parts) fun _ kind _ made => ?_
  refine makesAfter (makesDerive role n e.id) fun _ id grown named => ?_
  have filed (c : Bool) : Filed h W _ (planWhole role n e) { id, group := h, construction := c, kind } :=
    { group := rfl
      named
      classes := fun c member => by simpa [Entity.isA, EntityKind.isA, made.classes, planWhole] using member
      parts := fun part member => by
        obtain ⟨key, there, wanted⟩ := made.parts part member
        exact ⟨key, there.later grown, wanted⟩ }
  refine makesThen (makesPush (filed e.construction)) fun _ _ further _ => ?_
  exact makesPure fun _ later => (named.later further).later later

theorem planPathOf {axis : Axis α} {p : Vec3 α} (point : e.isA .point = true) (read : s.position e.id = .ok p)
    (closed : Bool) : planPath s axis closed e = if p.distance (axis.project p) < onAxisEpsilon then [] else
      (⟨.entity e.id, .latheArcCenter, 0⟩, [.point]) :: (⟨.entity e.id, .pointToNormal, 0⟩, [.normal]) ::
        ((if closed then [(⟨.entity e.id, .latheRadius, 0⟩, [.distance])] else []) ++
          [(⟨.entity e.id, .pointToArc, 0⟩, [.round])]) := by
  unfold planPath turns
  rw [point, read]
  by_cases near : p.distance (axis.project p) < onAxisEpsilon <;> simp [near]

theorem makesTurnPath {axis : Axis α} (ends : Option (EntityId × EntityId)) (point : e.isA .point = true)
    (own : ∀ planned ∈ planPath s axis ends.isNone e, ∀ c ∈ planned.2, W planned.1 c)
    (between : ∀ a b, ends = some (a, b) → (∃ key, Named h t key a ∧ W key .point) ∧ ∃ key, Named h t key b ∧ W key .point) :
    Makes h W t (planPath s axis ends.isNone e) (fun _ _ => True) (turnPath s h axis ends e) := by
  refine makesAfter (makesLift _) fun t₁ p g₁ read => ?_
  rw [planPathOf point read] at own ⊢
  dsimp only
  split
  · exact makesPure fun _ _ => trivial
  · rename_i off
    rw [if_neg off] at own
    have center := own _ List.mem_cons_self _ List.mem_cons_self
    have normal := own _ (List.mem_cons_of_mem _ List.mem_cons_self) _ List.mem_cons_self
    refine makesAfter (makesDerive _ _ _) fun _ _ gc hc => makesThen (makesPush (.plain hc rfl rfl)) fun _ _ gc' _ => ?_
    refine makesAfter (makesDerive _ _ _) fun _ _ gn hn => makesThen (makesPush (.plain hn rfl rfl)) fun _ _ gn' _ => ?_
    have hc := ((hc.later gc').later gn).later gn'
    have hn' := hn.later gn'
    refine makesAfter (makesDerive _ _ _) fun _ _ gk hk => ?_
    cases ends with
    | some both =>
      obtain ⟨⟨from', start, first⟩, to', finish, second⟩ := between both.1 both.2 rfl
      have grown {key : RemapKey} {id : EntityId} (named : Named h t key id) :=
        (((((named.later g₁).later gc).later gc').later gn).later gn').later gk
      refine makesPush ⟨rfl, hk, by simp [Entity.isA, EntityKind.isA, EntityKind.classes], ?_⟩
      simp only [EntityKind.rolesArc, List.forall_mem_cons]
      exact ⟨⟨_, hc.later gk, center⟩, ⟨_, grown start, first⟩, ⟨_, grown finish, second⟩, ⟨_, hn'.later gk, normal⟩, by simp⟩
    | none =>
      have radius := own _ (List.mem_cons_of_mem _ (List.mem_cons_of_mem _ List.mem_cons_self)) _ List.mem_cons_self
      refine makesAfter (makesDerive _ _ _) fun _ _ gr hr => makesThen (makesPush (.plain hr rfl rfl)) fun _ _ gr' _ => ?_
      refine makesPush ⟨rfl, (hk.later gr).later gr', by simp [Entity.isA, EntityKind.isA, EntityKind.classes], ?_⟩
      simp only [EntityKind.rolesCircle, List.forall_mem_cons]
      exact ⟨⟨_, ((hc.later gk).later gr).later gr', center⟩, ⟨_, ((hn'.later gk).later gr).later gr', normal⟩,
        ⟨_, hr.later gr', radius⟩, by simp⟩

structure Foreseen (W : RemapKey → EntityClass → Prop) (casts : List (RemapRole × Nat)) (plan : List Planned) (e : Entity α) :
    Prop where
  own : ∀ planned ∈ plan, ∀ c ∈ planned.2, W planned.1 c
  parts : ∀ cast ∈ casts, ∀ part ∈ e.kind.roles, W ⟨.entity part.2, cast.1, cast.2⟩ part.1

omit [Scalar α] in
theorem Foreseen.point {casts : List (RemapRole × Nat)} {plan : List Planned} (foreseen : Foreseen W casts plan e)
    (planned : planWhole role n e ∈ plan) (point : e.isA .point = true) : W ⟨.entity e.id, role, n⟩ .point :=
  foreseen.own _ planned .point (by simpa [planWhole, Entity.isA, EntityKind.isA] using point)

theorem Foreseen.copy {casts : List (RemapRole × Nat)} {plan : List Planned} (foreseen : Foreseen W casts plan e)
    (cast : (role, n) ∈ casts) :
    Makes h W t [planWhole role n e] (fun u id => Named h u ⟨.entity e.id, role, n⟩ id) (copy s h role n transform e) :=
  makesCopy (foreseen.parts _ cast)

theorem makesSweep (parts : ∀ part ∈ e.kind.roles, W ⟨.entity part.2, .bottom, 0⟩ part.1) :
    Makes g.id W t (planFace e) (fun _ _ => True) (match e.kind with
      | .line a b => do
        let source ← derive g.id .bottom 0 a
        let target ← derive g.id .bottom 0 b
        push g.id (← derive g.id .lineToFace 0 e.id) e.construction (.face source (.sweep source target g.delta))
      | _ => pure () : Copying α Unit) := by
  unfold planFace
  cases kind : e.kind with
  | line a b =>
    simp [kind] at parts
    refine makesAfter (makesDerive _ _ _) fun _ _ _ hs => makesAfter (makesDerive _ _ _) fun _ _ gt ht => ?_
    refine makesAfter (makesDerive _ _ _) fun _ _ gf hf => ?_
    refine makesPush ⟨rfl, hf, by simp [Entity.isA, EntityKind.isA, EntityKind.classes], ?_⟩
    simp only [EntityKind.rolesSweep, List.forall_mem_cons]
    exact ⟨⟨_, (hs.later gt).later gf, parts.1⟩, ⟨_, (hs.later gt).later gf, parts.1⟩, ⟨_, ht.later gf, parts.2⟩, by simp⟩
  | _ => exact makesPure fun _ _ => trivial

theorem makesExtrude {bottom top : CopyTransform α}
    (foreseen : Foreseen W [(.bottom, 0), (.top, 0)]
      (planWhole .bottom 0 e :: planWhole .top 0 e :: (planEdge e ++ planFace e)) e) :
    Makes g.id W t (planWhole .bottom 0 e :: planWhole .top 0 e :: (planEdge e ++ planFace e)) (fun _ _ => True)
      (extrude s g bottom top e) := by
  refine makesThen (foreseen.copy (by simp)) fun t₁ low g₁ hl => ?_
  refine makesThen (foreseen.copy (by simp)) fun t₂ high g₂ hh => ?_
  have parts := foreseen.parts (.bottom, 0) (by simp)
  cases point : e.isA .point with
  | false =>
    simp only [planEdge, point, Bool.false_eq_true, if_false, List.nil_append]
    exact makesSweep parts
  | true =>
    simp only [planEdge, point, if_true, List.cons_append, List.nil_append]
    refine makesAfter (makesDerive _ _ _) fun _ _ ge he =>
      makesThen (makesPush ⟨rfl, he, ?_, ?_⟩) fun _ _ _ _ => makesSweep parts
    · simp [Entity.isA, EntityKind.isA, EntityKind.classes]
    · simp only [EntityKind.rolesLine, List.forall_mem_cons]
      exact ⟨⟨_, (hl.later g₂).later ge, foreseen.point (by simp) point⟩,
        ⟨_, hh.later ge, foreseen.point (by simp) point⟩, by simp⟩

theorem makesLathe {axis : Axis α} (foreseen : Foreseen W [(.copy, 0)] (planWhole .copy 0 e :: planPath s axis true e) e) :
    Makes h W t (planWhole .copy 0 e :: planPath s axis true e) (fun _ _ => True) (lathe s h axis e) := by
  refine makesThen (foreseen.copy (by simp)) fun t₁ _ g₁ _ => ?_
  cases point : e.isA .point with
  | false =>
    rw [show planPath s axis _ e = [] by simp [planPath, point]]
    exact makesPure fun _ _ => trivial
  | true =>
    refine makesTurnPath none point (fun planned member => ?_) nofun
    exact foreseen.own planned (List.mem_cons_of_mem _ member)

theorem makesRevolve {axis : Axis α} (foreseen : Foreseen W [(.latheStart, 0), (.latheEnd, 0)]
      (planWhole .latheStart 0 e :: planWhole .latheEnd 0 e :: planPath s axis false e) e) :
    Makes g.id W t (planWhole .latheStart 0 e :: planWhole .latheEnd 0 e :: planPath s axis false e) (fun _ _ => True)
      (revolve s g axis e) := by
  refine makesThen (foreseen.copy (by simp)) fun t₁ start g₁ hs => ?_
  refine makesThen (foreseen.copy (by simp)) fun t₂ finish g₂ hf => ?_
  cases point : e.isA .point with
  | false =>
    rw [show planPath s axis _ e = [] by simp [planPath, point]]
    exact makesPure fun _ _ => trivial
  | true =>
    refine makesTurnPath (some (start, finish)) point (fun planned member => ?_) fun a b same => ?_
    · exact foreseen.own planned (List.mem_cons_of_mem _ (List.mem_cons_of_mem _ member))
    · cases same
      exact ⟨⟨_, hs.later g₂, foreseen.point (by simp) point⟩, ⟨_, hf, foreseen.point (by simp) point⟩⟩

theorem makesRepeated {transform : α → CopyTransform α} {multiples : List α} {sources : List (Entity α)}
    (parts : ∀ e ∈ sources, ∀ step ∈ multiples.zipIdx, ∀ part ∈ e.kind.roles, W ⟨.entity part.2, .copy, step.2⟩ part.1) :
    Makes h W t (multiples.zipIdx.flatMap fun step => sources.map (planWhole .copy step.2)) (fun _ _ => True)
      (repeated s h transform multiples sources) := by
  refine makesForM fun step there u _ => ?_
  rw [← List.flatMap_singleton' (sources.map _), List.flatMap_map]
  refine makesForM fun e member v _ => ?_
  exact makesThen (makesCopy (parts e member step there)) fun _ _ _ _ => makesPure fun _ _ => trivial

variable {sources : List (Entity α)}

theorem wholePlanned (member : e ∈ sources) (cast : (role, n) ∈ g.kind.casts) : planWhole role n e ∈ plan s g sources := by
  unfold plan
  cases kind : g.kind with
  | drawing3d | drawingWorkplane | linked => simp [kind, GroupKind.casts] at cast
  | extrude | revolve =>
    simp [kind, GroupKind.casts] at cast
    rcases cast with ⟨rfl, rfl⟩ | ⟨rfl, rfl⟩
    · exact List.mem_flatMap.mpr ⟨e, member, by simp⟩
    · exact List.mem_flatMap.mpr ⟨e, member, by simp⟩
  | lathe =>
    simp [kind, GroupKind.casts] at cast
    obtain ⟨rfl, rfl⟩ := cast
    exact List.mem_flatMap.mpr ⟨e, member, List.mem_cons_self⟩
  | translate | rotate =>
    simp only [kind, GroupKind.casts, List.mem_map, Prod.mk.injEq] at cast
    obtain ⟨step, there, rfl, rfl⟩ := cast
    exact List.mem_flatMap.mpr ⟨step, there, List.mem_map.mpr ⟨e, member, rfl⟩⟩

theorem makesAll (own : ∀ planned ∈ plan s g sources, ∀ c ∈ planned.2, W planned.1 c)
    (parts : ∀ e ∈ sources, ∀ cast ∈ g.kind.casts, ∀ part ∈ e.kind.roles, W ⟨.entity part.2, cast.1, cast.2⟩ part.1) :
    Makes g.id W t (plan s g sources) (fun _ _ => True) (all s g sources) := by
  unfold all plan at *
  cases kind : g.kind with
  | drawing3d | drawingWorkplane => exact makesPure fun _ _ => trivial
  | extrude sides lock =>
    rw [kind] at own parts
    exact makesForM fun e member u _ => makesExtrude
      ⟨fun planned inside => own planned (List.mem_flatMap.mpr ⟨e, member, inside⟩), parts e member⟩
  | lathe axis =>
    rw [kind] at own parts
    exact makesForM fun e member u _ => makesLathe
      ⟨fun planned inside => own planned (List.mem_flatMap.mpr ⟨e, member, inside⟩), parts e member⟩
  | revolve axis =>
    rw [kind] at own parts
    exact makesForM fun e member u _ => makesRevolve
      ⟨fun planned inside => own planned (List.mem_flatMap.mpr ⟨e, member, inside⟩), parts e member⟩
  | translate copies sides skip | rotate _ _ copies sides skip =>
    rw [kind] at parts
    exact makesRepeated fun e member step there => parts e member (.copy, step.2) (List.mem_map.mpr ⟨step, there, rfl⟩)
  | linked points shell =>
    dsimp only
    rw [← List.flatMap_singleton' (points.zipIdx.map _), List.flatMap_map]
    refine makesForM fun step _ u _ => makesAfter (makesHandle _) fun _ _ _ named => makesPush ?_
    exact ⟨rfl, named, by simp [Entity.isA, EntityKind.isA, EntityKind.classes], fun part member => nomatch member⟩

end Steps

theorem plannedOnce {l : List σ} {f : σ → List Planned} {label : σ → ρ} (tag : RemapKey → ρ)
    (distinct : (l.map label).Nodup)
    (each : ∀ x ∈ l, ((f x).map Prod.fst).Nodup) (tagged : ∀ x ∈ l, ∀ planned ∈ f x, tag planned.1 = label x) :
    ((l.flatMap f).map Prod.fst).Nodup := by
  rw [List.map_flatMap]
  have apart : l.Pairwise fun x y => label x ≠ label y := List.pairwise_map.mp distinct
  refine List.nodup_flatMap.mpr ⟨each, apart.imp_of_mem fun {x y} left right differs key first second => ?_⟩
  obtain ⟨p, inside, rfl⟩ := List.mem_map.mp first
  obtain ⟨q, inside', same⟩ := List.mem_map.mp second
  exact differs ((tagged x left p inside).symm.trans ((congrArg tag same.symm).trans (tagged y right q inside')))

theorem planOnce [Scalar α] (s : Sketch α) (g : Group α) {sources : List (Entity α)}
    (distinct : (sources.map Entity.id).Nodup) : ((plan s g sources).map Prod.fst).Nodup := by
  have labels : (sources.map fun e => RemapSource.entity e.id).Nodup := by
    have tagged := distinct.map (f := RemapSource.entity) fun _ _ same => RemapSource.entity.inj same
    rwa [List.map_map] at tagged
  have wholes (role : RemapRole) (n : Nat) : ((sources.map (planWhole role n)).map Prod.fst).Nodup := by
    rw [List.map_map]
    refine .of_map RemapKey.source ?_
    rw [List.map_map]
    exact labels
  have numbers {σ : Type} (l : List σ) : (l.zipIdx.map Prod.snd).Nodup := by
    rw [List.zipIdx_map_snd]
    exact List.nodup_range'
  unfold plan
  cases g.kind with
  | drawing3d | drawingWorkplane => exact .nil
  | extrude =>
    refine plannedOnce RemapKey.source labels (fun e _ => ?_) fun e _ planned inside => ?_
    · unfold planEdge planFace
      split <;> split <;> simp [planWhole]
    · unfold planEdge planFace at inside
      split at inside <;> split at inside <;> simp [planWhole] at inside <;> grind
  | lathe axis | revolve axis =>
    refine plannedOnce RemapKey.source labels (fun e _ => ?_) fun e _ planned inside => ?_
    · unfold planPath
      split <;> simp [planWhole]
    · unfold planPath at inside
      split at inside <;> simp [planWhole] at inside <;> grind
  | translate copies sides skip | rotate _ _ copies sides skip =>
    refine plannedOnce RemapKey.copy (numbers _) (fun step _ => wholes _ _) fun step _ planned inside => ?_
    obtain ⟨e, _, rfl⟩ := List.mem_map.mp inside
    rfl
  | linked points shell =>
    rw [List.map_map]
    refine .of_map RemapKey.source ?_
    rw [List.map_map]
    have tagged := (numbers points).map (f := RemapSource.imported) fun _ _ same => RemapSource.imported.inj same
    rwa [List.map_map] at tagged

end Copying

theorem partners {R : σ → τ → Prop} {xs : List σ} {ys : List τ} (pairs : List.Forall₂ R xs ys) :
    (∀ x ∈ xs, ∃ y ∈ ys, R x y) ∧ ∀ y ∈ ys, ∃ x ∈ xs, R x y := by
  induction pairs with
  | nil => exact ⟨by simp, by simp⟩
  | @cons x y xs ys here _ ih =>
    refine ⟨List.forall_mem_cons.mpr ⟨⟨y, List.mem_cons_self, here⟩, fun x' member => ?_⟩,
      List.forall_mem_cons.mpr ⟨⟨x, List.mem_cons_self, here⟩, fun y' member => ?_⟩⟩
    · obtain ⟨y', inside, related⟩ := ih.1 x' member
      exact ⟨y', List.mem_cons_of_mem _ inside, related⟩
    · obtain ⟨x', inside, related⟩ := ih.2 y' member
      exact ⟨x', List.mem_cons_of_mem _ inside, related⟩

namespace Sketch
open Copying (plan Filed)
variable [Scalar α] {s : Sketch α} {g : Group α} {c : Copies α}

omit [Scalar α] in
theorem sourcesOwnParts (closed : ∀ k, g.source = some k → Closed (s.ofGroup k)) {es : List (Entity α)}
    (read : s.sources g = .ok es) : Closed es := by
  rcases sourcesRead read with ⟨_, rfl⟩ | ⟨_, k, source, rfl⟩
  · exact fun _ member => nomatch member
  · intro e member part wanted
    obtain ⟨listed, mine⟩ := List.mem_filter.mp member
    have inside : e ∈ s.ofGroup k := List.mem_filter.mpr ⟨listed, (Bool.and_eq_true_iff.mp mine).1⟩
    obtain ⟨e', there, same, sort⟩ := closed k source e inside part wanted
    obtain ⟨listed', mine'⟩ := List.mem_filter.mp there
    refine ⟨e', List.mem_filter.mpr ⟨listed', ?_⟩, same, sort⟩
    have noFace : e'.isA .face = false := EntityKind.roleNoFace wanted sort
    simp [mine', noFace]

omit [Scalar α] in
theorem ofGroupEntered (h : s.entities.Consistent) {k : GroupId} {es : List (Entity α)} (distinct : (es.map Entity.id).Nodup)
    (ours : ∀ e ∈ es, e.group = k) (e : Entity α) : e ∈ ((s.clearGroup k).enterEntities es).ofGroup k ↔ e ∈ es := by
  have cleared := h.filter (·.group != k)
  constructor
  · intro member
    obtain ⟨listed, mine⟩ := List.mem_filter.mp member
    have there := (cleared.addAll es).getOfMem listed
    by_cases entered : e.id ∈ es.map Entity.id
    · obtain ⟨e', inside, same⟩ := List.mem_map.mp entered
      have found := cleared.getAddAllMem distinct inside
      rw [show Keyed.key e' = e.id from same] at found
      exact Option.some.inj (found.symm.trans there) ▸ inside
    · have found := (cleared.getAddAllOther entered).symm.trans there
      have other := (h.foundFilter.mp found).2
      simp_all
  · intro member
    refine List.mem_filter.mpr ⟨Registry.memOfGet (cleared.getAddAllMem distinct member), ?_⟩
    simp [ours e member]

theorem copiesFiled (closed : ∀ k, g.source = some k → Closed (s.ofGroup k)) (ok : s.copies g = .ok c) :
    g.remap.Extends c.remap ∧ ∃ es, s.sources g = .ok es ∧
      List.Forall₂ (Filed g.id (Expected (plan s g es)) c.remap) (plan s g es) c.made.toList := by
  obtain ⟨es, read, run⟩ := copiesRun ok
  have whole := sourcesOwnParts closed read
  have makes : Copying.Makes g.id (Expected (plan s g es)) g.remap (plan s g es) (fun _ _ => True)
      (Copying.all s g es) := by
    refine Copying.makesAll (fun planned member k inside => ⟨planned, member, rfl, inside⟩)
      fun e member cast way part wanted => ?_
    obtain ⟨e', there, same, sort⟩ := whole e member part wanted
    refine ⟨_, Copying.wholePlanned there way, by rw [← same]; rfl, ?_⟩
    simpa [Copying.planWhole, Entity.isA, EntityKind.isA] using sort
  obtain ⟨grown, _, made, all, filed⟩ := makes _ _ _ (.refl _) run
  refine ⟨grown, es, read, ?_⟩
  rw [all]
  exact filed

/- A group made of closed sources: everything under its own key, nothing twice, and closed again. -/
theorem copiesClosed (h : s.entities.Consistent) (built : g.remap.Built)
    (once : ∀ a b slot, g.remap.get? a = some slot → g.remap.get? b = some slot → a = b)
    (closed : ∀ k, g.source = some k → Closed (s.ofGroup k)) (ok : s.copies g = .ok c) :
    (∃ es, s.sources g = .ok es ∧ ((plan s g es).map Prod.fst).Nodup ∧
      List.Forall₂ (fun planned e => Named g.id c.remap planned.1 e.id ∧ ∀ k ∈ planned.2, e.isA k = true)
        (plan s g es) c.made.toList) ∧
    (c.made.toList.map Entity.id).Nodup ∧ Closed c.made.toList ∧
    (∀ e ∈ c.made, (s.enterEntities c.made.toList).entities.get? e.id = some e) ∧
    Closed (((s.clearGroup g.id).enterEntities c.made.toList).ofGroup g.id) := by
  obtain ⟨grown, es, read, filed⟩ := copiesFiled closed ok
  have proper := grown.proper ⟨built.bounded, once⟩
  have listed : (es.map Entity.id).Nodup := by
    rcases sourcesRead read with ⟨_, rfl⟩ | ⟨_, k, _, rfl⟩
    · exact .nil
    · exact (List.filter_sublist.map Entity.id).nodup h.keysNodup
  have keys := Copying.planOnce s g listed
  have distinct : (c.made.toList.map Entity.id).Nodup := by
    have pairs : List.Forall₂ (Named g.id c.remap) ((plan s g es).map Prod.fst) (c.made.toList.map Entity.id) :=
      List.forall₂_map_left_iff.mpr (List.forall₂_map_right_iff.mpr (filed.imp fun _ _ filed => filed.named))
    have both : Relator.BiUnique (Named g.id c.remap) :=
      ⟨fun _ _ _ first second => first.once proper second, fun _ _ _ first second => second.unique first⟩
    exact (List.rel_nodup both pairs).mp keys
  have again : Closed c.made.toList := by
    intro e member part wanted
    obtain ⟨planned, _, this⟩ := (partners filed).2 e member
    obtain ⟨key, named, planned', inside, rfl, sort⟩ := this.parts part wanted
    obtain ⟨e', there, this'⟩ := (partners filed).1 planned' inside
    exact ⟨e', there, this'.named.unique named ▸ rfl, this'.classes _ sort⟩
  refine ⟨⟨es, read, keys, filed.imp fun _ _ filed => ⟨filed.named, filed.classes⟩⟩, distinct, again, fun e member => ?_, ?_⟩
  · exact h.getAddAllMem distinct (Array.mem_toList_iff.mpr member)
  · have ours : ∀ e ∈ c.made.toList, e.group = g.id := fun e member => by
      obtain ⟨_, _, this⟩ := (partners filed).2 e member
      exact this.group
    intro e member part wanted
    obtain ⟨e', there, same⟩ := again e ((ofGroupEntered h distinct ours e).mp member) part wanted
    exact ⟨e', (ofGroupEntered h distinct ours e').mpr there, same⟩

theorem extrudedLineClosed : ∃ (s : Sketch Float) (g : Group Float) (c : Copies Float), s.copies g = .ok c ∧
    c.made.size = 9 ∧ (c.made.toList.map Entity.id).Nodup ∧ Closed c.made.toList := by
  let point (n : Nat) (p : Vec3 Float) : Entity Float :=
    { id := .request ⟨n⟩ 0, group := ⟨1⟩, kind := .pointCopy p .identity }
  let line : Entity Float := { id := .request ⟨3⟩ 0, group := ⟨1⟩, kind := .line (.request ⟨1⟩ 0) (.request ⟨2⟩ 0) }
  let es : List (Entity Float) := [point 1 .zero, point 2 .unitX, line]
  let s : Sketch Float := { ({} : Sketch Float) with entities := Registry.ofList es }
  let g : Group Float := { id := ⟨2⟩, name := "wall", kind := .straightExtrude, source := some ⟨1⟩ }
  have h : s.entities.Consistent := Registry.ofListConsistent (by decide)
  have whole : s.ofGroup ⟨1⟩ = es := rfl
  have closed : ∀ k, g.source = some k → Closed (s.ofGroup k) := by
    intro k source
    obtain rfl := Option.some.inj source
    rw [whole]
    simp only [Closed, es, List.forall_mem_cons]
    refine ⟨fun _ part => absurd part List.not_mem_nil, fun _ part => absurd part List.not_mem_nil,
      fun part wanted => ?_, by simp⟩
    rcases List.mem_pair.mp wanted with rfl | rfl
    · exact ⟨point 1 .zero, by simp, rfl, rfl⟩
    · exact ⟨point 2 .unitX, by simp, rfl, rfl⟩
  have placed (n : Nat) (p : Vec3 Float) (member : point n p ∈ es) : Copying.Yields s (fun _ => False) (point n p) := by
    refine ⟨fun _ cause failed => ?_, fun normal => absurd normal Bool.false_ne_true,
      fun distance => absurd distance Bool.false_ne_true, rfl⟩
    have read : s.entity (point n p).id = .ok (point n p) := entityFound.mpr (h.getOfMem member)
    rw [position, pointExpr, pointFrom, read] at failed
    exact nomatch failed
  have yields : ∀ e ∈ es, Copying.Yields s (fun _ => False) e := by
    simp only [es, List.forall_mem_cons]
    refine ⟨placed 1 .zero (by simp [es]), placed 2 .unitX (by simp [es]), ?_, by simp⟩
    exact ⟨fun point => absurd point Bool.false_ne_true, fun normal => absurd normal Bool.false_ne_true,
      fun distance => absurd distance Bool.false_ne_true, rfl⟩
  have read : s.sources g = .ok es := rfl
  obtain ⟨c, ok⟩ : ∃ c, s.copies g = .ok c := by
    cases run : Copying.all s g es { remap := g.remap } with
    | error cause => exact (Copying.stopsAll yields _ cause run).elim
    | ok result => exact ⟨result.2, Result.bindOk.mpr ⟨es, read, Result.bindOk.mpr ⟨result, run, rfl⟩⟩⟩
  have main := copiesClosed h (.entries []) (fun a b slot found => by simp [RemapTable.get?, g] at found) closed ok
  obtain ⟨⟨es', read', _, made⟩, distinct, again, _⟩ := main
  obtain rfl : es' = es := Except.ok.inj (read'.symm.trans read)
  exact ⟨s, g, c, ok, by rw [← Array.length_toList, ← made.length_eq]; rfl, distinct, again⟩

end Sketch
end Drafting
