import Drafting.Group.Generate
import Drafting.Proofs.Result
import Drafting.Sketch.Rounding
import Drafting.Sketch.Splitting
import Mathlib.Logic.Relation
/-! What an edit can do to a sketch. Every edit, also one that fails half-way, comes down to a few
changes of one record and of what belongs to it, so a property of sketches is kept by all edits as soon
as it is kept by each of these. -/
namespace Drafting
open Relation (ReflTransGen)

theorem helpersOfSetValue (x : α) (k : ConstraintKind α) (w : Option EntityId) :
    (k.setValue x).helperCount w = k.helperCount w := by
  cases k <;> rfl

theorem helpersOfMapPoints (f : EntityId → EntityId) (k : ConstraintKind α) (w : Option EntityId) :
    (k.mapPoints f).helperCount w = k.helperCount w := by
  cases k <;> rfl

namespace Sketch
variable [Scalar α]

inductive Adjustment : Sketch α → Sketch α → Prop
  | dirty (s : Sketch α) (g : GroupId) : Adjustment s (s.markDirty g)
  | value {s : Sketch α} {p : ParamId} {r : Param α} (found : s.params.get? p = some r) (value : α) :
      Adjustment s ({ s with params := s.params.modify p ({ · with value }) }.markDirty r.group)
  | constrained {s : Sketch α} {c : Constraint α} {g : Group α} (fresh : c.id = ⟨s.nextConstraint⟩)
      (registered : s.groups.get? c.group = some g) :
      Adjustment s { s with
        nextConstraint := s.nextConstraint + 1
        params := c.helpers.foldl (fun ps p => ps.add ⟨p, c.group, 0.0⟩) s.params
        constraints := s.constraints.add c }
  | restated {s : Sketch α} {id : ConstraintId} {c : Constraint α} (found : s.constraints.get? id = some c)
      {kind : ConstraintKind α} (helpers : ∀ w, kind.helperCount w = c.kind.helperCount w) :
      Adjustment s { s with constraints := s.constraints.modify id ({ · with kind }) }
  | redirected (s : Sketch α) (old new : EntityId) :
      Adjustment s { s with constraints := s.constraints.map fun c =>
        { c with kind := c.kind.mapPoints fun p => if p = old then new else p } }
  | released {s : Sketch α} {id : ConstraintId} {c : Constraint α} (found : s.constraints.get? id = some c) :
      Adjustment s ({ s with
        constraints := s.constraints.remove id
        params := s.params.filter (·.id.owner != ParamOwner.constraint id) }.markDirty c.group)

/-- A change by an edit, with what the edit has checked before it. -/
inductive Change : Sketch α → Sketch α → Prop
  | adjusted {s t : Sketch α} (h : Adjustment s t) : Change s t
  | drawn {s : Sketch α} {r : Request} (fresh : r.id = ⟨s.nextRequest⟩)
      (allowed : s.checkRequest r.group r.kind r.workplane = .ok ()) :
      Change s (
        let t := { s with nextRequest := s.nextRequest + 1 }.enterRequest (fun _ => none) r
        { t with requests := t.requests.add r }.markDirty r.group)
  | construction {s : Sketch α} {id : RequestId} {r : Request} (found : s.requests.get? id = some r)
      (construction : Bool) :
      Change s ({ s with
        requests := s.requests.modify id ({ · with construction })
        entities := s.entities.map fun e =>
          if e.id.request? = some id then { e with construction } else e }.markDirty r.group)
  | erased {s : Sketch α} {id : RequestId} {r : Request} (found : s.requests.get? id = some r) :
      Change s ({ s with
        entities := s.entities.filter fun e => !(e.id.request? == some id)
        params := s.params.filter (·.id.owner != ParamOwner.request id)
        requests := s.requests.remove id }.markDirty r.group)

abbrev Changes : Sketch α → Sketch α → Prop := ReflTransGen Change

abbrev Adjustments : Sketch α → Sketch α → Prop := ReflTransGen Adjustment

theorem Adjustments.changes {s t : Sketch α} (h : Adjustments s t) : Changes s t := by
  induction h with
  | refl => exact .refl
  | tail _ step ih => exact ih.tail (.adjusted step)

theorem Adjustment.requests {s t : Sketch α} (h : Adjustment s t) : t.requests = s.requests := by
  cases h <;> rfl

theorem Adjustments.requests {s t : Sketch α} (h : Adjustments s t) : t.requests = s.requests := by
  induction h with
  | refl => rfl
  | tail _ step ih => exact step.requests.trans ih

theorem Adjustment.entities {s t : Sketch α} (h : Adjustment s t) : t.entities = s.entities := by
  cases h <;> rfl

theorem Adjustments.entities {s t : Sketch α} (h : Adjustments s t) : t.entities = s.entities := by
  induction h with
  | refl => rfl
  | tail _ step ih => exact step.entities.trans ih

end Sketch

namespace Edit
open Attempt
open Sketch (Change Changes Adjustment)
variable {R : Sketch α → Sketch α → Prop}

def Gradual (R : Sketch α → Sketch α → Prop) (e : Edit α ε τ) : Prop :=
  ∀ s, ReflTransGen R s (e s).2

theorem gradualPure (x : τ) : Gradual R (pure x : Edit α ε τ) := fun _ => .refl

theorem gradualThrow (e : ε) : Gradual R (throw e : Edit α ε τ) := fun _ => .refl

theorem gradualModify {f : Sketch α → Sketch α} (h : ∀ s, ReflTransGen R s (f s)) :
    Gradual R (modify f : Edit α ε Unit) := h

theorem gradualRead [Raises ε ε'] (f : Sketch α → Except ε τ) : Gradual R (read f : Edit α ε' τ) := by
  intro s
  rw [runRead]
  cases f s <;> exact .refl

theorem gradualFound (e : ε) (o : Option τ) : Gradual R (found e o : Edit α ε τ) := by
  cases o with
  | none => exact gradualThrow e
  | some x => exact gradualPure x

theorem gradualBind {e : Edit α ε σ} {k : σ → Edit α ε τ} (first : Gradual R e) (next : ∀ x, Gradual R (k x)) :
    Gradual R (e >>= k) := by
  intro s
  rw [runBind]
  have start := first s
  generalize e s = result at start ⊢
  rcases result with ⟨_ | x, t⟩
  · exact start
  · exact start.trans (next x t)

theorem gradualReadBind [Raises ε ε'] {f : Sketch α → Except ε σ} {k : σ → Edit α ε' τ}
    (next : ∀ s x, f s = .ok x → ReflTransGen R s (k x s).2) : Gradual R (read f >>= k) := by
  intro s
  rw [runBind, runRead]
  cases result : f s with
  | error e => exact .refl
  | ok x => exact next s x result

theorem gradualGetBind {k : Sketch α → Edit α ε τ} (next : ∀ s, ReflTransGen R s (k s s).2) :
    Gradual R (get >>= k) := by
  intro s
  rw [getBind]
  exact next s

theorem gradualLower [Raises ε ε'] {e : Edit α ε τ} (h : Gradual R e) : Gradual R (lower e : Edit α ε' τ) := by
  intro s
  have whole := h s
  rw [lower]
  generalize e s = result at whole ⊢
  rcases result with ⟨_ | x, t⟩ <;> exact whole

theorem gradualOrUndo {e : Edit α ε τ} (h : Gradual R e) : Gradual R e.orUndo := by
  intro s
  have whole := h s
  rw [orUndo]
  generalize e s = result at whole ⊢
  rcases result with ⟨_ | x, t⟩
  · exact .refl
  · exact whole

theorem gradualTry {e : Edit α ε τ} {handle : ε → Edit α ε τ} (h : Gradual R e)
    (caught : ∀ c, Gradual R (handle c)) : Gradual R (tryCatch e handle) := by
  intro s
  have start := h s
  change ReflTransGen R s (ExceptT.tryCatch e handle s).2
  simp only [ExceptT.tryCatch, ExceptT.mk, bind, StateT.bind]
  generalize e s = result at start ⊢
  rcases result with ⟨c | x, t⟩
  · exact start.trans (caught c t)
  · exact start

theorem gradualGuard {p : Prop} [Decidable p] {e : ε} {rest : PUnit → Edit α ε τ} (h : Gradual R (rest ⟨⟩)) :
    Gradual R (if p then throw e >>= rest else rest ⟨⟩) := by
  split
  · exact gradualBind (gradualThrow e) fun _ => h
  · exact h

theorem gradualForM {f : σ → Edit α ε Unit} {l : List σ} (h : ∀ x ∈ l, Gradual R (f x)) : Gradual R (l.forM f) := by
  induction l with
  | nil => exact gradualPure ()
  | cons x xs ih =>
    rw [List.forM_eq_forM, List.forM_cons]
    refine gradualBind (h x List.mem_cons_self) fun _ => ?_
    exact ih fun y member => h y (List.mem_cons_of_mem _ member)

theorem gradualAttempts {f : σ → Edit α ε τ} (h : ∀ x, Gradual R (f x)) (l : List σ) (s : Sketch α) :
    ReflTransGen R s (l.foldl (fun s x => (f x).attempt s) s) := by
  induction l generalizing s with
  | nil => exact .refl
  | cons x xs ih => exact (h x s).trans (ih _)

theorem Gradual.changes [Scalar α] {e : Edit α ε τ} (h : Gradual Adjustment e) : Gradual Change e :=
  fun s => Sketch.Adjustments.changes (h s)

end Edit

namespace Sketch
open Attempt Edit
variable [Scalar α]

theorem setParamGradual (id : ParamId) (x : α) : Gradual Adjustment (setParam id x) := by
  refine gradualGetBind fun s => ?_
  cases found : s.params.get? id with
  | none => exact .refl
  | some p => exact .single (.value found x)

theorem deleteConstraintGradual (id : ConstraintId) : Gradual Adjustment (deleteConstraint (α := α) id) := by
  refine gradualReadBind fun s c found => ?_
  exact .single (.released (constraintFound.mp found))

theorem measuredKeeps {f : ConstraintKind α → β} (value : ∀ x k, f (.setValue x k) = f k)
    (angle : ∀ a b x y supplementary other, f (.angle a b x supplementary) = f (.angle a b y other)) {s : Sketch α}
    {c : Constraint α} {kind : ConstraintKind α} (ok : s.measured c = .ok kind) : f kind = f c.kind := by
  unfold measured at ok
  split at ok
  · rename_i a b _ _ same
    obtain ⟨_, _, ok⟩ := Result.bindOk.mp ok
    obtain ⟨_, _, ok⟩ := Result.bindOk.mp ok
    obtain ⟨_, _, ok⟩ := Result.bindOk.mp ok
    rw [same]
    cases ok
    split <;> exact angle a b _ _ _ _
  · split at ok
    · obtain ⟨_, _, ok⟩ := Result.bindOk.mp ok
      split at ok
      · cases ok
        exact value _ _
      · cases ok
        rfl
    · cases ok
      rfl

theorem helpersOfMeasured {s : Sketch α} {c : Constraint α} {kind : ConstraintKind α}
    (ok : s.measured c = .ok kind) (w : Option EntityId) : kind.helperCount w = c.kind.helperCount w :=
  measuredKeeps (f := (·.helperCount w)) (fun x k => helpersOfSetValue x k w) (fun _ _ _ _ _ _ => rfl) ok

theorem remeasureBy {R : Sketch α → Sketch α → Prop} (restated : ∀ {s : Sketch α} {id : ConstraintId} {c : Constraint α}
    {kind : ConstraintKind α}, s.constraints.get? id = some c → s.measured c = .ok kind →
      ReflTransGen R s { s with constraints := s.constraints.modify id ({ · with kind }) }) (id : ConstraintId) :
    Gradual R (remeasure (α := α) id) := by
  refine gradualReadBind fun s c found => ?_
  rw [runBind, runRead]
  cases result : s.measured c with
  | error e => exact .refl
  | ok kind => exact restated (constraintFound.mp found) result

theorem remeasureGradual (id : ConstraintId) : Gradual Adjustment (remeasure (α := α) id) :=
  remeasureBy (fun found measured => .single (.restated found (helpersOfMeasured measured))) id

theorem improveGuessGradual {R : Sketch α → Sketch α → Prop} (set : ∀ p x, Gradual R (setParam p x)) (id : ConstraintId) :
    Gradual R (improveGuess (α := α) id) := by
  refine gradualBind (gradualRead _) fun c => ?_
  cases c.helpers.head? with
  | none => exact gradualPure ()
  | some p =>
    refine gradualBind (gradualRead _) fun x => ?_
    cases x with
    | none => exact gradualPure ()
    | some x => exact gradualLower (set p x)

theorem forcePointBy {R : Sketch α → Sketch α → Prop} (set : ∀ p x, Gradual R (setParam p x)) (point : EntityId)
    (place : Vec3 α) : Gradual R (forcePoint point place) := by
  refine gradualBind (gradualRead _) fun e => ?_
  cases e.kind with
  | pointIn3d p => exact gradualBind (set _ _) fun _ => gradualBind (set _ _) fun _ => set _ _
  | pointIn2d p =>
    exact gradualBind (gradualFound _ _) fun _ => gradualBind (gradualRead _) fun _ =>
      gradualBind (set _ _) fun _ => set _ _
  | _ => exact gradualThrow _

theorem addConstraintBy {R : Sketch α → Sketch α → Prop} {group : GroupId} {workplane : Option EntityId}
    {kind : ConstraintKind α} {reference : Bool}
    (entered : ∀ {s : Sketch α} {g : Group α}, s.groups.get? group = some g → s.validate group workplane kind = .ok () →
      let c : Constraint α := ⟨⟨s.nextConstraint⟩, group, workplane, kind, reference⟩
      ReflTransGen R s { s with
        nextConstraint := s.nextConstraint + 1
        params := c.helpers.foldl (fun ps p => ps.add ⟨p, c.group, 0.0⟩) s.params
        constraints := s.constraints.add c })
    (set : ∀ p x, Gradual R (setParam p x)) (remeasure : ∀ id, Gradual R (remeasure (α := α) id))
    (delete : ∀ id, Gradual R (deleteConstraint (α := α) id)) (dirty : ∀ s, ReflTransGen R s (s.markDirty group)) :
    Gradual R (addConstraint group workplane kind reference) := by
  refine gradualReadBind fun s g found => ?_
  rw [runBind, runRead]
  cases valid : s.validate group workplane kind with
  | error e => exact .refl
  | ok _ =>
    let c : Constraint α := ⟨⟨s.nextConstraint⟩, group, workplane, kind, reference⟩
    refine (entered (groupFound.mp found) valid).trans ?_
    -- What follows is an edit of its own, whatever it is run on.
    have rest : Gradual R (α := α) (ε := ConstraintError) (do
        try
          if reference then
            Sketch.remeasure c.id
          improveGuess c.id
        catch e =>
          Edit.lower (deleteConstraint c.id)
          throw e
        modify (·.markDirty group)
        return c.id) := by
      refine gradualBind (gradualTry ?_ fun _ => ?_) fun _ => ?_
      · cases reference with
        | true => exact gradualBind (remeasure _) fun _ => improveGuessGradual set _
        | false => exact improveGuessGradual set _
      · exact gradualBind (gradualLower (delete _)) fun _ => gradualThrow _
      · exact gradualBind (gradualModify dirty) fun _ => gradualPure _
    exact rest _

theorem addConstraintGradual (group : GroupId) (workplane : Option EntityId) (kind : ConstraintKind α)
    (reference : Bool) : Gradual Adjustment (addConstraint group workplane kind reference) :=
  addConstraintBy (fun found _ => .single (.constrained rfl found)) setParamGradual remeasureGradual
    deleteConstraintGradual fun s => .single (.dirty s group)

theorem setConstraintValueGradual (id : ConstraintId) (value : α) :
    Gradual Adjustment (setConstraintValue id value) := by
  refine gradualReadBind fun s c found => ?_
  have kept := Adjustment.restated (constraintFound.mp found) (helpersOfSetValue value c.kind)
  exact (ReflTransGen.single kept).tail (.dirty _ c.group)

theorem dirtyAll (groups : List GroupId) (s : Sketch α) : Adjustments s (groups.foldl markDirty s) := by
  induction groups generalizing s with
  | nil => exact .refl
  | cons g rest ih => exact .head (.dirty s g) (ih _)

theorem replacePointGradual (s : Sketch α) (old new : EntityId) : Adjustments s (s.replacePoint old new).2 :=
  .head (.redirected s old new) (dirtyAll _ _)

theorem addRequestGradual (group : GroupId) (kind : RequestKind) (workplane : Option EntityId)
    (construction : Bool) : Gradual Change (addRequest (α := α) group kind workplane construction) := by
  refine gradualReadBind fun s _ allowed => ?_
  exact .single (.drawn (r := ⟨⟨s.nextRequest⟩, group, workplane, kind, construction⟩) rfl allowed)

theorem setConstructionGradual (id : RequestId) (construction : Bool) :
    Gradual Change (setConstruction (α := α) id construction) := by
  refine gradualReadBind fun s r found => ?_
  exact .single (.construction (requestFound.mp found) construction)

class Adjusts (R : Sketch α → Sketch α → Prop) : Prop where
  setParam (id : ParamId) (x : α) : Gradual R (setParam id x)
  addConstraint (group : GroupId) (workplane : Option EntityId) (kind : ConstraintKind α) (reference : Bool) :
    Gradual R (addConstraint group workplane kind reference)
  setConstraintValue (id : ConstraintId) (value : α) : Gradual R (setConstraintValue id value)
  deleteConstraint (id : ConstraintId) : Gradual R (deleteConstraint (α := α) id)
  replacePoint (s : Sketch α) (old new : EntityId) : ReflTransGen R s (s.replacePoint old new).2

class Draws (R : Sketch α → Sketch α → Prop) : Prop extends Adjusts R where
  addRequest (group : GroupId) (kind : RequestKind) (workplane : Option EntityId) (construction : Bool) :
    Gradual R (addRequest (α := α) group kind workplane construction)
  setConstruction (id : RequestId) (construction : Bool) : Gradual R (setConstruction (α := α) id construction)
  erase {s : Sketch α} {id : RequestId} {r : Request} (found : s.requests.get? id = some r) :
    ReflTransGen R s ({ s with
      entities := s.entities.filter fun e => !(e.id.request? == some id)
      params := s.params.filter (·.id.owner != ParamOwner.request id)
      requests := s.requests.remove id }.markDirty r.group)

instance : Adjusts (Adjustment (α := α)) where
  setParam := setParamGradual
  addConstraint := addConstraintGradual
  setConstraintValue := setConstraintValueGradual
  deleteConstraint := deleteConstraintGradual
  replacePoint := replacePointGradual

theorem Draws.coarser {R R' : Sketch α → Sketch α → Prop} [Draws R]
    (h : ∀ {s t : Sketch α}, ReflTransGen R s t → ReflTransGen R' s t) : Draws R' where
  setParam id x s := h (Adjusts.setParam id x s)
  addConstraint group workplane kind reference s := h (Adjusts.addConstraint group workplane kind reference s)
  setConstraintValue id value s := h (Adjusts.setConstraintValue id value s)
  deleteConstraint id s := h (Adjusts.deleteConstraint id s)
  replacePoint s old new := h (Adjusts.replacePoint s old new)
  addRequest group kind workplane construction s := h (Draws.addRequest group kind workplane construction s)
  setConstruction id construction s := h (Draws.setConstruction id construction s)
  erase found := h (Draws.erase found)

instance : Draws (Change (α := α)) where
  setParam id x := (setParamGradual id x).changes
  addConstraint group workplane kind reference := (addConstraintGradual group workplane kind reference).changes
  setConstraintValue id value := (setConstraintValueGradual id value).changes
  deleteConstraint id := (deleteConstraintGradual id).changes
  replacePoint s old new := (replacePointGradual s old new).changes
  addRequest := addRequestGradual
  setConstruction := setConstructionGradual
  erase found := .single (.erased found)

section Adjusts
variable {R : Sketch α → Sketch α → Prop} [Adjusts R]

theorem forcePointGradual (point : EntityId) (place : Vec3 α) : Gradual R (forcePoint point place) :=
  forcePointBy Adjusts.setParam point place

theorem forceNormalGradual (normal : EntityId) (orientation : Quat α) :
    Gradual R (forceNormal normal orientation) := by
  refine gradualBind (gradualRead _) fun e => ?_
  cases e.kind with
  | normalIn3d p =>
    exact gradualBind (Adjusts.setParam _ _) fun _ => gradualBind (Adjusts.setParam _ _) fun _ =>
      gradualBind (Adjusts.setParam _ _) fun _ => Adjusts.setParam _ _
  | _ => exact gradualThrow _

theorem forceDistanceGradual (distance : EntityId) (value : α) :
    Gradual R (forceDistance distance value) := by
  refine gradualBind (gradualRead _) fun e => ?_
  cases e.kind with
  | distance p => exact Adjusts.setParam _ _
  | _ => exact gradualThrow _

theorem deleteConstraintsGradual (ids : List ConstraintId) (s : Sketch α) :
    ReflTransGen R s (s.deleteConstraints ids) :=
  gradualAttempts Adjusts.deleteConstraint ids s

theorem removeConstraintsForGradual (s : Sketch α) (point : EntityId) :
    ReflTransGen R s (s.removeConstraintsFor point).2 := deleteConstraintsGradual _ s

theorem pruneGradual (s : Sketch α) (group : GroupId) : ReflTransGen R s (s.prune group).2 :=
  deleteConstraintsGradual _ s

theorem rejoinGradual (group : GroupId) (workplane : Option EntityId) (pairs : List (EntityId × EntityId))
    (s : Sketch α) : ReflTransGen R s (pairs.foldl (fun s (a, b) =>
      (addConstraint group workplane (.pointsCoincident a b)).attempt s) s) := by
  induction pairs generalizing s with
  | nil => exact .refl
  | cons p rest ih =>
    exact (Adjusts.addConstraint group workplane (.pointsCoincident p.1 p.2) false s).trans (ih _)

theorem detachPointGradual (s : Sketch α) (point : EntityId) : ReflTransGen R s (s.detachPoint point) := by
  unfold detachPoint
  split
  · exact .refl
  · rename_i e _
    exact (deleteConstraintsGradual _ s).trans (rejoinGradual e.group e.workplane _ _)

theorem detachPointsGradual (points : List EntityId) (s : Sketch α) :
    ReflTransGen R s (points.foldl detachPoint s) := by
  induction points generalizing s with
  | nil => exact .refl
  | cons p rest ih => exact (detachPointGradual s p).trans (ih _)

theorem joinIfCoincidentGradual (point : EntityId) : Gradual R (joinIfCoincident (α := α) point) := by
  refine gradualBind (gradualRead _) fun others => ?_
  cases others with
  | nil => exact gradualPure _
  | cons other _ =>
    refine gradualBind (gradualRead _) fun e => ?_
    intro s
    have whole := Adjusts.addConstraint (R := R) e.group e.workplane (.pointsCoincident point other) false s
    dsimp only
    generalize addConstraint e.group e.workplane (.pointsCoincident point other) false s = result at whole ⊢
    rcases result with ⟨_ | x, t⟩ <;> exact whole

theorem joinGradual (a b : EntityId) : Gradual R (join (α := α) a b) :=
  gradualBind (gradualRead _) fun _ =>
    gradualBind (gradualLower (Adjusts.addConstraint _ _ _ _)) fun _ => gradualPure _

theorem redirectGradual (old new : EntityId) : Gradual R (redirect (α := α) old new) :=
  gradualModify fun s => Adjusts.replacePoint s old new

end Adjusts

section Looked
variable {R : Sketch α → Sketch α → Prop}

omit [Scalar α] in
theorem requireWorkplaneGradual (id : EntityId) : Gradual R (requireWorkplane (α := α) id) := by
  refine gradualBind (gradualRead _) fun e => ?_
  split
  · exact gradualThrow _
  · exact gradualPure _

theorem placeOnGradual (entity point : EntityId) : Gradual R (placeOn (α := α) entity point) := by
  refine gradualBind (gradualRead _) fun e => ?_
  cases e.kind with
  | line a b =>
    exact gradualBind (gradualRead _) fun _ => gradualBind (gradualRead _) fun _ =>
      gradualBind (gradualPure _) fun _ => gradualRead _
  | _ => exact gradualBind (gradualPure _) fun _ => gradualRead _

theorem crossingGradual (a b : EntityId) (hint : Vec3 α) : Gradual R (crossing a b hint) :=
  gradualBind (gradualRead _) fun _ => gradualBind (gradualRead _) fun _ => gradualFound _ _

end Looked

section Draws
variable {R : Sketch α → Sketch α → Prop} [Draws R]

theorem addShapeGradual (group : GroupId) (kind : RequestKind) (workplane : Option EntityId)
    (places : List (Vec3 α)) : Gradual R (addShape group kind workplane places) := by
  refine gradualBind (Draws.addRequest _ _ _ _) fun _ => ?_
  exact gradualBind (gradualForM fun _ _ => (forcePointGradual _ _)) fun _ => gradualPure _

theorem addPointGradual (group : GroupId) (workplane : Option EntityId) (place : Vec3 α) :
    Gradual R (addPoint group workplane place) :=
  gradualBind (addShapeGradual _ _ _ _) fun _ => gradualPure _

theorem addLineGradual (group : GroupId) (workplane : Option EntityId) (a b : Vec3 α) :
    Gradual R (addLine group workplane a b) :=
  gradualBind (addShapeGradual _ _ _ _) fun _ => gradualPure _

theorem addCircleGradual (group : GroupId) (workplane : Option EntityId) (center : Vec3 α) (radius : α) :
    Gradual R (addCircle group workplane center radius) :=
  gradualBind (addShapeGradual _ _ _ _) fun _ =>
    gradualBind (forceDistanceGradual _ _) fun _ => gradualPure _

theorem addArcGradual (group : GroupId) (workplane : Option EntityId) (center start finish : Vec3 α) :
    Gradual R (addArc group workplane center start finish) :=
  gradualBind (addShapeGradual _ _ _ _) fun _ => gradualPure _

theorem addCubicGradual (group : GroupId) (workplane : Option EntityId) (p0 p1 p2 p3 : Vec3 α) :
    Gradual R (addCubic group workplane p0 p1 p2 p3) :=
  gradualBind (addShapeGradual _ _ _ _) fun _ => gradualPure _

theorem addWorkplaneGradual (group : GroupId) (origin : Vec3 α) (orientation : Quat α) :
    Gradual R (addWorkplane group origin orientation) :=
  gradualBind (addShapeGradual _ _ _ _) fun _ =>
    gradualBind (forceNormalGradual _ _) fun _ => gradualPure _

/- The request is still there when its entities go, since only constraints went before. -/
theorem deleteRequestGradual (id : RequestId) : Gradual R (deleteRequest (α := α) id) := by
  refine gradualReadBind fun s r found => ?_
  let points := (s.entities.toList.filter fun e => e.id.request? == some id && e.isA .point).map Entity.id
  have freed : ReflTransGen R s (points.foldl detachPoint s) := detachPointsGradual points s
  have drawn : Adjustments s (points.foldl detachPoint s) := detachPointsGradual points s
  rw [runBind, runModify]
  change ReflTransGen R s _
  generalize List.foldl _ _ _ = t at freed drawn ⊢
  dsimp only
  rw [getBind, runBind]
  have unbound (R : Sketch α → Sketch α → Prop) [Adjusts R] : Gradual R (α := α) (ε := SketchError)
      ((t.constraints.toList.filter (·.references.any fun e => e.request? == some id)).forM fun c =>
        deleteConstraint c.id) := gradualForM fun c _ => Adjusts.deleteConstraint c.id
  have done := freed.trans (unbound R t)
  have still := drawn.trans (unbound Adjustment t)
  generalize (List.forM _ _ : Edit α SketchError Unit) t = result at done still ⊢
  rcases result with ⟨_ | _, u⟩
  · exact done
  · exact done.trans (Draws.erase (Adjustments.requests still ▸ requestFound.mp found))

theorem addTrimmedGradual (group : GroupId) (workplane : Option EntityId) (source : EntityId)
    (curve : Parametric α) (x : α) : Gradual R (addTrimmed group workplane source curve x) := by
  have joined (r : Request) (ns : List Nat) : Gradual R (α := α) (ε := CurveError) (ns.forM fun n => do
      let _ ← Edit.lower (joinIfCoincident (r.point n))) := gradualForM fun n _ =>
    gradualBind (gradualLower (joinIfCoincidentGradual _)) fun _ => gradualPure _
  refine gradualGuard ?_
  cases curve with
  | line p0 p1 =>
    refine gradualBind (gradualLower (addShapeGradual _ _ _ _)) fun r => ?_
    refine gradualBind (joined r [0, 1]) fun _ => ?_
    exact gradualBind (gradualLower (Adjusts.addConstraint _ _ _ _)) fun _ => gradualPure _
  | arc center radius theta dtheta u v =>
    refine gradualBind (gradualLower (addShapeGradual _ _ _ _)) fun r => ?_
    exact gradualBind (joined r [0, 1, 2]) fun _ => gradualPure _

theorem trimGradual (mode : RoundingMode) (corner : Corner) (curve : Parametric α) (x : α) (arc : EntityId)
    (tip : ArcEnd) : Gradual R (trim mode corner curve x arc tip) := by
  refine gradualBind (gradualRead _) fun e => gradualBind (gradualFound _ _) fun ends => ?_
  have tangent (kind : ConstraintKind α) : Gradual R (α := α) (ε := CurveError) (do
      let _ ← Edit.lower (addConstraint e.group e.workplane kind)) :=
    gradualBind (gradualLower (Adjusts.addConstraint _ _ _ _)) fun _ => gradualPure _
  cases mode with
  | modify =>
    exact gradualBind (gradualLower (forcePointGradual _ _)) fun _ =>
      gradualBind (gradualLower (joinIfCoincidentGradual _)) fun _ =>
        gradualBind (gradualPure _) fun _ => tangent _
  | duplicate => exact gradualBind (addTrimmedGradual _ _ _ _ _) fun _ => tangent _

theorem roundCornerGradual (point : EntityId) (options : RoundingOptions α) :
    Gradual R (roundCorner point options) := by
  refine gradualBind (gradualRead _) fun e => gradualBind (gradualFound _ _) fun w => ?_
  refine gradualBind (gradualRead _) fun place => gradualBind (gradualRead _) fun corners => ?_
  split
  · refine gradualBind (gradualRead _) fun _ => gradualBind (gradualRead _) fun a => ?_
    refine gradualBind (gradualRead _) fun b => gradualBind (gradualFound _ _) fun fit => gradualOrUndo ?_
    have rounded (mode : RoundingMode) (places : List (Vec3 α)) (first second : Corner) (x y : α)
        (tip other : ArcEnd) : Gradual R (α := α) (ε := CurveError) (do
          let r ← Edit.lower (addShape e.group .arc (some w) places)
          trim mode first a x r.entity tip
          trim mode second b y r.entity other
          return r.entity) :=
      gradualBind (gradualLower (addShapeGradual _ _ _ _)) fun r =>
        gradualBind (trimGradual _ _ _ _ _ _) fun _ => gradualBind (trimGradual _ _ _ _ _ _) fun _ =>
          gradualPure _
    cases options.mode with
    | modify =>
      refine gradualGetBind fun s => ?_
      exact gradualBind (gradualForM fun c _ => gradualLower (Adjusts.deleteConstraint c.id))
        (fun _ => rounded _ _ _ _ _ _ _ _) s
    | duplicate =>
      exact gradualBind (gradualLower (Draws.setConstruction _ _)) fun _ =>
        gradualBind (gradualLower (Draws.setConstruction _ _)) fun _ => rounded _ _ _ _ _ _ _ _
  · exact gradualThrow _

theorem cutLineGradual (group : GroupId) (workplane : Option EntityId) (start finish : EntityId)
    (place : Vec3 α) : Gradual R (cutLine group workplane start finish place) := by
  refine gradualBind (gradualRead _) fun _ => gradualBind (gradualRead _) fun _ => ?_
  refine gradualBind (gradualLower (addShapeGradual _ _ _ _)) fun first => ?_
  refine gradualBind (gradualLower (addShapeGradual _ _ _ _)) fun second => ?_
  refine gradualBind (redirectGradual _ _) fun _ => gradualBind (redirectGradual _ _) fun _ => ?_
  exact gradualBind (joinGradual _ _) fun _ => gradualPure _

theorem cutCircleGradual (group : GroupId) (workplane : Option EntityId) (center : EntityId)
    (place : Vec3 α) : Gradual R (cutCircle group workplane center place) := by
  refine gradualBind (gradualRead _) fun _ => gradualBind (gradualLower (addShapeGradual _ _ _ _)) fun arc => ?_
  exact gradualBind (redirectGradual _ _) fun _ =>
    gradualBind (joinGradual _ _) fun _ => gradualPure _

theorem cutArcGradual (group : GroupId) (workplane : Option EntityId) (center start finish : EntityId)
    (place : Vec3 α) : Gradual R (cutArc group workplane center start finish place) := by
  refine gradualBind (gradualRead _) fun _ => gradualBind (gradualRead _) fun _ => ?_
  refine gradualBind (gradualRead _) fun _ => gradualBind (gradualLower (addShapeGradual _ _ _ _)) fun first => ?_
  refine gradualBind (gradualLower (addShapeGradual _ _ _ _)) fun second => ?_
  refine gradualBind (redirectGradual _ _) fun _ => gradualBind (redirectGradual _ _) fun _ => ?_
  refine gradualBind (redirectGradual _ _) fun _ => gradualBind (joinGradual _ _) fun _ => ?_
  exact gradualBind (joinGradual _ _) fun _ => gradualPure _

theorem cutCubicGradual (group : GroupId) (workplane : Option EntityId) (id start finish : EntityId)
    (place : Vec3 α) : Gradual R (cutCubic group workplane id start finish place) := by
  refine gradualBind (gradualRead _) fun pieces => ?_
  split
  · refine gradualBind (gradualRead _) fun parts => ?_
    refine gradualBind (gradualLower (addShapeGradual _ _ _ _)) fun first => ?_
    refine gradualBind (gradualLower (addShapeGradual _ _ _ _)) fun second => ?_
    refine gradualBind (redirectGradual _ _) fun _ => ?_
    refine gradualBind (redirectGradual _ _) fun _ => ?_
    exact gradualBind (joinGradual _ _) fun _ => gradualPure _
  · exact gradualThrow _

theorem splitEntityGradual (id : EntityId) (place : Vec3 α) : Gradual R (splitEntity id place) := by
  refine gradualBind (gradualRead _) fun e => gradualBind (gradualFound _ _) fun request => ?_
  refine gradualBind (gradualRead _) fun r => gradualGuard ?_
  have cleared (cut : EntityId) : Gradual R (α := α) (ε := CurveError) (do
      if !r.construction then
        Edit.lower (deleteRequest request)
      return cut) := by
    cases r.construction with
    | true => exact gradualPure _
    | false => exact gradualBind (gradualLower (deleteRequestGradual _)) fun _ => gradualPure _
  cases e.kind with
  | line a b => exact gradualBind (cutLineGradual _ _ _ _ _) cleared
  | circle center _ _ => exact gradualBind (cutCircleGradual _ _ _ _) cleared
  | arc center start finish _ => exact gradualBind (cutArcGradual _ _ _ _ _ _) cleared
  | cubic p0 _ _ p3 => exact gradualBind (cutCubicGradual _ _ _ _ _ _) cleared
  | _ => exact gradualBind (gradualThrow _) cleared

theorem splitAtPointGradual (entity point : EntityId) : Gradual R (splitAtPoint (α := α) entity point) := by
  refine gradualBind (placeOnGradual _ _) fun held => gradualOrUndo ?_
  refine gradualBind (gradualLower (Adjusts.deleteConstraint _)) fun _ => ?_
  refine gradualBind (splitEntityGradual _ _) fun cut => ?_
  cases point.request? with
  | none => exact gradualBind (joinGradual _ _) fun _ => gradualPure _
  | some r =>
    refine gradualBind (gradualRead _) fun request => ?_
    split
    · exact gradualBind (gradualLower (deleteRequestGradual r)) fun _ => gradualPure _
    · exact gradualBind (joinGradual _ _) fun _ => gradualPure _

theorem splitPairGradual (a b : EntityId) (hint : Vec3 α) : Gradual R (splitPair a b hint) := by
  refine gradualBind (crossingGradual _ _ _) fun place => gradualOrUndo ?_
  exact gradualBind (splitEntityGradual _ _) fun _ => gradualBind (splitEntityGradual _ _) fun _ =>
    gradualBind (joinGradual _ _) fun _ => gradualPure _

theorem splitGradual (selection : SplitSelection) (hint : Vec3 α) : Gradual R (split selection hint) := by
  cases selection with
  | atPoint entity point =>
    exact gradualBind (requireWorkplaneGradual entity) fun _ => gradualBind (requireWorkplaneGradual point) fun _ =>
      splitAtPointGradual _ _
  | pair a b =>
    exact gradualBind (requireWorkplaneGradual a) fun _ => gradualBind (requireWorkplaneGradual b) fun _ =>
      splitPairGradual _ _ _

end Draws

end Sketch
end Drafting
