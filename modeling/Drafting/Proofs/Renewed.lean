import Drafting.Proofs.Handles
import Drafting.Proofs.Inventory
import Drafting.Proofs.Mapping
import Drafting.Proofs.Standing
/-! A group made anew keeps the values it had, and a second time it is made into the same: what the first
run entered under each handle is what the second one carries over, and the copies are frozen at the same
places again. So the second run gives back the sketch as it was, in all its records. -/
namespace Drafting
open Result

namespace Registry
variable {κ τ : Type} [DecidableEq κ] [Hashable κ]

theorem modifyAgain {r : Registry κ τ} {k : κ} {f : τ → τ} (same : ∀ x, r.get? k = some x → f x = x) :
    r.modify k f = r := by
  unfold Registry.modify
  cases place : r.index[k]? with
  | none => rfl
  | some i =>
    suffices items : r.items.modify i f = r.items by
      dsimp only
      rw [items]
    refine Array.ext_getElem? fun j => ?_
    rw [Array.getElem?_modify]
    split
    · rename_i here
      subst here
      cases there : r.items[i]? with
      | none => rfl
      | some x => exact congrArg some (same x (by rw [get?, place]; exact there))
    · rfl

end Registry

def Group.withSlots (g : Group α) (remap : RemapTable) : Group α := { g with remap }

namespace Sketch

/-- Parameters of a group have been entered under some handles, with the values that were kept for them. -/
structure Carried (kept : ParamId → Option α) (g : GroupId) (ids : List ParamId)
    (before after : Registry ParamId (Param α)) : Prop where
  listed : ∃ xs : List (Param α), xs.map Param.id = ids ∧ (∀ x ∈ xs, x.group = g ∧ ∀ v, kept x.id = some v → x.value = v) ∧
    after = xs.foldl Registry.add before

namespace Carried
variable {kept kept' : ParamId → Option α} {g : GroupId} {ids more : List ParamId}
  {before between after after' : Registry ParamId (Param α)}

theorem refl : Carried kept g [] before before := ⟨[], rfl, by simp, rfl⟩

theorem trans (first : Carried kept g ids before between) (next : Carried kept g more between after) :
    Carried kept g (ids ++ more) before after where
  listed := Registry.addsAppend first.listed next.listed

theorem all (name : σ → ParamId) {f : Registry ParamId (Param α) → σ → Registry ParamId (Param α)}
    (each : ∀ ps x, ∃ v, f ps x = ps.add ⟨name x, g, v⟩ ∧ ∀ w, kept (name x) = some w → v = w) (xs : List σ) :
    Carried kept g (xs.map name) before (xs.foldl f before) := by
  induction xs generalizing before with
  | nil => exact refl
  | cons x rest ih =>
    obtain ⟨v, same, carried⟩ := each before x
    have first : Carried kept g [name x] before (f before x) := ⟨[⟨name x, g, v⟩], rfl, by simpa using carried, same⟩
    exact first.trans ih

theorem value (h : Carried kept g ids before after) (consistent : before.Consistent) {p : ParamId} {y : Param α}
    (member : p ∈ ids) (found : after.get? p = some y) : y.group = g ∧ ∀ v, kept p = some v → y.value = v := by
  obtain ⟨xs, rfl, ours, rfl⟩ := h
  obtain ⟨x, there, rfl⟩ := List.mem_map.mp member
  obtain ⟨y', inside, named, now⟩ := consistent.addAllPresent there
  obtain rfl := Option.some.inj (now.symm.trans found)
  have named : y'.id = x.id := named
  exact named ▸ ours y' inside

theorem again (h : Carried kept g ids before after) (consistent : before.Consistent) (distinct : ids.Nodup)
    (same : ∀ p ∈ ids, kept' p = (after.get? p).map Param.value) (h' : Carried kept' g ids before after') :
    after' = after := by
  obtain ⟨xs, rfl, ours, rfl⟩ := h
  obtain ⟨ys, named, ours', rfl⟩ := h'
  have entered (x : Param α) (member : x ∈ xs) : (xs.foldl Registry.add before).get? x.id = some x :=
    consistent.getAddAllMem distinct member
  have entered' (y : Param α) (member : y ∈ ys) : (xs.foldl Registry.add before).get? y.id = some y := by
    obtain ⟨x, there, same'⟩ := List.mem_map.mp (named ▸ List.mem_map_of_mem member : y.id ∈ xs.map Param.id)
    rw [← same', entered x there]
    have stays : kept' y.id = some x.value := by
      rw [same y.id (same' ▸ List.mem_map_of_mem there), ← same', entered x there]
      rfl
    have value := (ours' y member).2 x.value stays
    have group := (ours x there).1.trans (ours' y member).1.symm
    cases x
    cases y
    simp_all
  have read : ∀ zs : List (Param α), (∀ z ∈ zs, (xs.foldl Registry.add before).get? z.id = some z) →
      zs.map some = (zs.map Param.id).map fun p => (xs.foldl Registry.add before).get? p := by
    intro zs each
    rw [List.map_map]
    exact List.map_congr_left fun z member => (each z member).symm
  have lists : ys.map some = xs.map some := by rw [read ys entered', read xs entered, named]
  rw [List.map_injective_iff.mpr (Option.some_injective _) lists]

end Carried

theorem valuesListed {l : List (Param α)} (distinct : (l.map Param.id).Nodup) (m : Std.HashMap ParamId α) (p : ParamId) :
    (l.foldl (fun m p => m.insert p.id p.value) m)[p]? = ((Registry.listFind p l).map Param.value).or m[p]? := by
  induction l generalizing m with
  | nil => simp [Registry.listFind]
  | cons x rest ih =>
    obtain ⟨fresh, distinct⟩ := List.nodup_cons.mp distinct
    rw [List.foldl_cons, ih distinct, Std.HashMap.getElem?_insert]
    by_cases same : x.id = p
    · subst same
      have none : Registry.listFind x.id rest = none := by
        refine List.find?_eq_none.mpr fun y member named => fresh (List.mem_map.mpr ⟨y, member, ?_⟩)
        exact of_decide_eq_true named
      have first : Registry.listFind x.id (x :: rest) = some x := List.find?_cons_of_pos (decide_eq_true rfl)
      simp [none, first]
    · have later : Registry.listFind p (x :: rest) = Registry.listFind p rest :=
        List.find?_cons_of_neg fun named => same (of_decide_eq_true named)
      simp [same, later]

theorem keptValue {s : Sketch α} (h : s.params.Consistent) (id : GroupId) (p : ParamId) :
    (s.groupValues id)[p]? = ((s.params.get? p).filter (·.group == id)).map Param.value := by
  have ours := h.filter (·.group == id)
  rw [groupValues, ← Registry.toListFilter, valuesListed ours.keysNodup, ← h.getFilter, ours.getFind]
  simp

section Renewed
variable [Scalar α] {s : Sketch α} {g : Group α} {c : Copies α}

theorem carriedRequests {group : GroupId} {kept : ParamId → Option α} {qs : List Request}
    (ours : ∀ q ∈ qs, q.group = group) : Carried kept group (qs.flatMap fun q => (q.params (α := α)).map Prod.fst) s.params
      (qs.foldl (·.enterRequest kept ·) s).params := by
  induction qs generalizing s with
  | nil => exact .refl
  | cons q rest ih =>
    have first : Carried kept q.group ((q.params (α := α)).map Prod.fst) s.params (s.enterRequest kept q).params := by
      unfold enterRequest
      rw [enterParams]
      exact Carried.all Prod.fst (fun ps p => ⟨_, rfl, fun w known => by simp [known]⟩) q.params
    rw [ours q List.mem_cons_self] at first
    exact first.trans (ih fun q' member => ours q' (List.mem_cons_of_mem _ member))

omit [Scalar α] in
theorem carriedOwn (s : Sketch α) (kept : Std.HashMap ParamId α) (id : GroupId) (ps : List (ParamId × α)) :
    Carried (kept[·]?) id (ps.map Prod.fst) s.params (s.enterGroupParams kept id ps).params :=
  Carried.all Prod.fst (fun _ _ => ⟨_, rfl, fun w known => by simp [known]⟩) ps

theorem redrawnCarried (s : Sketch α) (g : Group α) : Carried ((s.groupValues g.id)[·]?) g.id (s.paramsOf g)
    (s.params.filter (·.group != g.id)) (s.redrawn g).params := by
  have ours : ∀ q ∈ s.requestsOf g, q.group = g.id := by
    intro q member
    simpa using (List.mem_filter.mp member).2
  exact (carriedOwn (s.clearGroup g.id) _ g.id (s.groupParams g)).trans (carriedRequests
    (s := ((s.clearGroup g.id).enterGroupParams (s.groupValues g.id) g.id (s.groupParams g)).enterEntities (fixtures g)) ours)

theorem regrownCarried (s : Sketch α) (g : Group α) (c : Copies α) : Carried ((s.groupValues g.id)[·]?) g.id
    (s.paramsOf g ++ s.helpersOf g) (s.params.filter (·.group != g.id)) (s.regrown g c).params := by
  have helpers : ((s.helpersOf g).map fun p => (p, (0.0 : α))).map Prod.fst = s.helpersOf g := by
    rw [List.map_map]
    exact List.map_id _
  have all (t : Sketch α) (same : t.params = (s.redrawn g).params) : Carried ((s.groupValues g.id)[·]?) g.id
      (s.paramsOf g ++ s.helpersOf g) (s.params.filter (·.group != g.id))
        (t.enterGroupParams (s.groupValues g.id) g.id ((s.helpersOf g).map (·, 0.0))).params := by
    have more := carriedOwn t (s.groupValues g.id) g.id ((s.helpersOf g).map (·, 0.0))
    rw [helpers, same] at more
    exact (redrawnCarried s g).trans more
  unfold regrown
  cases g.kind.isSolid with
  | true => exact all _ rfl
  | false => exact all _ rfl

theorem enteredOnce (h : s.Intact) (g : Group α) : (s.paramsOf g ++ s.helpersOf g).Nodup := by
  have own : ((s.groupParams g).map Prod.fst).Nodup := groupParamIds s g ▸ g.paramsDistinct
  have drawn : ((s.requestsOf g).flatMap fun q => (q.params (α := α)).map Prod.fst).Nodup :=
    (h.requests.filter (·.group == g.id)).flatMapNodup ParamId.owner (fun _ _ same => ParamOwner.request.inj same)
      (fun q _ => Request.paramsDistinct q) fun q _ p own => paramOfRequest own
  have helpers : (s.helpersOf g).Nodup :=
    (h.constraints.filter (·.group == g.id)).flatMapNodup ParamId.owner (fun _ _ same => ParamOwner.constraint.inj same)
      (fun k _ => k.helpersDistinct) fun k _ p helper => helperOwner helper
  have ofRequest {p : ParamId} (member : p ∈ (s.requestsOf g).flatMap fun q => (q.params (α := α)).map Prod.fst) :
      ∃ r, p.owner = .request r := by
    obtain ⟨q, _, mine⟩ := List.mem_flatMap.mp member
    exact ⟨q.id, paramOfRequest mine⟩
  have ofConstraint {p : ParamId} (member : p ∈ s.helpersOf g) : ∃ k, p.owner = .constraint k := by
    obtain ⟨k, _, mine⟩ := List.mem_flatMap.mp member
    exact ⟨k.id, helperOwner mine⟩
  refine List.nodup_append'.mpr ⟨List.nodup_append'.mpr ⟨own, drawn, fun p first second => ?_⟩, helpers,
    fun p first second => ?_⟩
  · obtain ⟨r, owner⟩ := ofRequest second
    exact nomatch (groupParamsOwned s g p first).symm.trans owner
  · obtain ⟨k, owner⟩ := ofConstraint second
    rcases List.mem_append.mp first with own | drawn
    · exact nomatch (groupParamsOwned s g p own).symm.trans owner
    · obtain ⟨r, other⟩ := ofRequest drawn
      exact nomatch other.symm.trans owner

theorem regrownRecords (fits : Fits g c) : s.regrown g c = { s with
    params := (s.regrown g c).params
    entities := (s.content g c).foldl Registry.add (s.entities.filter (·.group != g.id))
    groups := if g.kind.isSolid then s.groups.modify g.id ({ · with remap := c.remap }) else s.groups } := by
  unfold regrown
  rw [redrawnRecords]
  cases solid : g.kind.isSolid with
  | true => simp [enterEntities, modifyGroup, enterGroupParams, content]
  | false => simp [enterGroupParams, content, fits.plain solid]

theorem staysOfRecords {t : Sketch α} (entities : s.entities = t.entities) (params : s.params = t.params) (id : EntityId) :
    s.Stays t id := by
  have plane : s.planeExpr = t.planeExpr := funext fun w => by
    rw [planeExpr, planeExpr, entities, planeWithinOfEntities entities]
  have values : s.valueOf = t.valueOf := funext fun p => by rw [valueOf, valueOf, params]
  refine ⟨fun p ok => ?_, fun q ok => ?_, fun x ok => ?_⟩
  · simpa only [position, pointExpr, pointFrom, entity, entities, plane, values] using ok
  · simpa only [orientation, normalExpr, normalFrom, entity, entities, plane, values] using ok
  · simpa only [Sketch.distance, distanceExpr, entity, entities, values] using ok

section Twice
variable (h : s.Intact) (made : s.copied g = .ok c)
include h made

theorem renewedFrom : (s.regrown g c).entities.filter (·.group != g.id) = s.entities.filter (·.group != g.id) ∧
    (s.regrown g c).params.filter (·.group != g.id) = s.params.filter (·.group != g.id) ∧
    (s.regrown g c).requestsOf (g.withSlots c.remap) = s.requestsOf g ∧
    (s.regrown g c).paramsOf (g.withSlots c.remap) = s.paramsOf g ∧
    (s.regrown g c).helpersOf (g.withSlots c.remap) = s.helpersOf g := by
  have fits := copiedFits h.entities made
  have new := regrownSpec h.params fits
  have apart := regrownConfined h fits new
  have requests : (s.regrown g c).requestsOf (g.withSlots c.remap) = s.requestsOf g := by
    unfold requestsOf
    rw [new.requests]
    rfl
  refine ⟨congrArg Registry.ofList apart.entities, congrArg Registry.ofList apart.params, requests, ?_, ?_⟩
  · unfold paramsOf
    rw [requests, groupParamIds, groupParamIds]
    rfl
  · unfold helpersOf
    rw [new.constraints]
    rfl

theorem renewedValue {p : ParamId} (member : p ∈ s.paramsOf g ++ s.helpersOf g) :
    ((s.regrown g c).groupValues g.id)[p]? = ((s.regrown g c).params.get? p).map Param.value := by
  have new := regrownSpec h.params (copiedFits h.entities made)
  obtain ⟨x, entered⟩ := new.params.new p member
  rw [keptValue new.params.consistent, entered]
  simp [Option.filter]

theorem redrawnTwice : ((s.regrown g c).redrawn (g.withSlots c.remap)).entities = (s.redrawn g).entities ∧
    ((s.regrown g c).redrawn (g.withSlots c.remap)).params = (s.redrawn g).params := by
  obtain ⟨entities, params, requests, ids, _⟩ := renewedFrom h made
  constructor
  · rw [redrawnRecords, redrawnRecords s g, requests]
    change List.foldl Registry.add ((s.regrown g c).entities.filter (·.group != g.id)) _ = _
    rw [entities]
    rfl
  · have again := redrawnCarried (s.regrown g c) (g.withSlots c.remap)
    rw [ids] at again
    change Carried (((s.regrown g c).groupValues g.id)[·]?) g.id _ ((s.regrown g c).params.filter (·.group != g.id)) _ at again
    rw [params] at again
    have once := enteredOnce h g
    refine (redrawnCarried s g).again (h.params.filter _) once.of_append_left (fun p member => ?_) again
    rw [renewedValue h made (List.mem_append_left _ member), regrownPlain h.params]
    exact fun helper => List.disjoint_of_nodup_append once member helper

theorem copiedTwice : (s.regrown g c).copied (g.withSlots c.remap) = .ok c := by
  obtain ⟨entities, params⟩ := redrawnTwice h made
  unfold copied at made ⊢
  change (if g.kind.isSolid then _ else _) = _
  cases solid : g.kind.isSolid with
  | false =>
    rw [solid] at made
    cases made
    rfl
  | true =>
    rw [solid] at made
    obtain ⟨es, read, run⟩ := copiesRun made
    have here := sourceThere (redrawnConsistent h.entities g) read
    have stays (e : Entity α) (_ : e ∈ es) := staysOfRecords entities.symm params.symm e.id
    obtain ⟨_, _, added, pushed, _, replay⟩ :=
      Copying.replaysAll here stays (rfl : (g.withSlots c.remap).id = g.id) rfl _ _ _ run
    have rerun := replay { remap := c.remap } (.refl _)
    have source : ((s.regrown g c).redrawn (g.withSlots c.remap)).sources (g.withSlots c.remap) = .ok es := by
      unfold sources at read ⊢
      rw [entities]
      exact read
    refine bindOk.mpr ⟨es, source, bindOk.mpr ⟨((), c), ?_, rfl⟩⟩
    refine rerun.trans (congrArg (fun c => Except.ok ((), c)) ?_)
    cases c
    simp_all

theorem regrownTwice (found : s.groups.get? g.id = some g) :
    (s.regrown g c).regrown (g.withSlots c.remap) c = s.regrown g c := by
  have fits := copiedFits h.entities made
  have new := regrownSpec h.params fits
  have fits' := copiedFits (regrownIntact h found fits new).entities (copiedTwice h made)
  obtain ⟨entities, params, requests, ids, helpers⟩ := renewedFrom h made
  have carried : ((s.regrown g c).regrown (g.withSlots c.remap) c).params = (s.regrown g c).params := by
    have again := regrownCarried (s.regrown g c) (g.withSlots c.remap) c
    rw [ids, helpers] at again
    change Carried (((s.regrown g c).groupValues g.id)[·]?) g.id _ ((s.regrown g c).params.filter (·.group != g.id)) _ at again
    rw [params] at again
    exact (regrownCarried s g c).again (h.params.filter _) (enteredOnce h g) (fun p member => renewedValue h made member)
      again
  have content : (s.regrown g c).content (g.withSlots c.remap) c = s.content g c := by
    unfold Sketch.content
    rw [requests]
    rfl
  have groups : (s.regrown g c).groups.modify g.id ({ · with remap := c.remap }) = (s.regrown g c).groups := by
    refine Registry.modifyAgain fun x there => ?_
    rw [new.groups] at there
    cases solid : g.kind.isSolid with
    | true =>
      rw [solid, if_pos rfl, h.groups.getModify g.id (f := ({ · with remap := c.remap })) fun _ same => same, if_pos rfl,
        found] at there
      cases there
      rfl
    | false =>
      rw [solid, if_neg Bool.false_ne_true, found] at there
      cases there
      rw [fits.plain solid]
  have id : (g.withSlots c.remap).id = g.id := rfl
  have kind : (g.withSlots c.remap).kind = g.kind := rfl
  rw [regrownRecords fits', carried, content, id, kind, entities, groups, ite_self, ← new.entities]

end Twice

theorem regrownValue (h : s.Intact) {p : ParamId} {x y : Param α} (before : s.params.get? p = some x)
    (ours : x.group = g.id) (after : (s.regrown g c).params.get? p = some y) : y = x := by
  have kept : (s.groupValues g.id)[p]? = some x.value := by
    rw [keptValue h.params, before]
    simp [Option.filter, ours]
  have entered := regrownCarried s g c
  have cleared := h.params.filter (·.group != g.id)
  have named : x.id = p := h.params.keyOfGet before
  have member : p ∈ s.paramsOf g ++ s.helpersOf g := by
    obtain ⟨xs, ids, _, same⟩ := entered
    by_contra absent
    rw [same, cleared.getAddAllOther (by rw [show xs.map Keyed.key = _ from ids]; exact absent), h.params.getFilter,
      before] at after
    simp [Option.filter, ours] at after
  have named' : y.id = p := by
    obtain ⟨xs, _, _, same⟩ := entered
    exact (same ▸ cleared.addAll xs : (s.regrown g c).params.Consistent).keyOfGet after
  obtain ⟨group, carried⟩ := entered.value cleared member after
  have value := carried x.value kept
  cases x
  cases y
  simp_all

end Renewed

theorem madeAnewOnce [Scalar α] {config : EngineConfig α} {a : Session α} (reached : Session.Reached config a)
    {id : GroupId} {t : Sketch α} (ok : generateGroup id a.sketch = (.ok (), t)) :
    (∀ p x y, a.sketch.params.get? p = some x → x.group = id → t.params.get? p = some y → y = x) ∧
    (∃ g g', a.sketch.groups.get? id = some g ∧ t.groups.get? id = some g' ∧
      ∀ key slot, g.remap.get? key = some slot → g'.remap.get? key = some slot) ∧
    generateGroup id t = (.ok (), t) := by
  have intact := (Session.reachedIntact reached).sketch
  obtain ⟨g, c, found, rfl, made, rfl⟩ := generateGroupOk intact.groups ok
  have fits := copiedFits intact.entities made
  have record := regrownGroup intact.groups found fits (regrownSpec intact.params fits) g.id
  rw [if_pos rfl] at record
  refine ⟨fun p x y before ours after => regrownValue intact before ours after,
    ⟨g, _, found, record, fun _ _ given => fits.slots.found _ _ given⟩, ?_⟩
  have again : (a.sketch.regrown g c).copied { g with remap := c.remap } = .ok c := copiedTwice intact made
  rw [generateGroupRun record rfl, again]
  exact congrArg (Prod.mk _) (regrownTwice intact made found)

theorem movedPartOnce : ∃ (a : Session Float) (t : Sketch Float), Session.Reached .standard a ∧
    generateGroup ⟨1⟩ a.sketch = (.ok (), t) ∧
    (∃ y, t.params.get? (.group ⟨1⟩ 0) = some y ∧ y.value = 2.5) ∧ generateGroup ⟨1⟩ t = (.ok (), t) := by
  have drawn : Session.Reached .standard ((Session.start .standard).withSketch stamped) :=
    Session.Reached.start.edited (c := .addGroup "stamp" stamp.kind none) rfl stampAdded
  have intact : stamped.Intact := (Session.reachedIntact drawn).sketch
  obtain ⟨x, there⟩ := stampRegrown.params.new (.group ⟨1⟩ 0)
    (List.mem_append_left _ (List.mem_append_left _ List.mem_cons_self))
  let moved : Sketch Float :=
    Sketch.markDirty { stamped with params := stamped.params.modify (.group ⟨1⟩ 0) ({ · with value := 2.5 }) } ⟨1⟩
  have set : setParam (.group ⟨1⟩ 0) 2.5 stamped = (.ok (), moved) := by
    rw [setParam, Attempt.getBind, there]
    rfl
  have reached := drawn.edited (c := .setParam (.group ⟨1⟩ 0) 2.5) rfl set
  let g : Group Float := { stamp with remap := stampCopies.remap, clean := false }
  have found : moved.groups.get? ⟨1⟩ = some g := by
    change (stamped.groups.modify _ _).get? _ = _
    rw [intact.groups.getModify ⟨1⟩ (f := ({ · with clean := false })) fun _ same => same, if_pos rfl, stampRegistered]
    rfl
  have before : moved.params.get? (.group ⟨1⟩ 0) = some ⟨.group ⟨1⟩ 0, ⟨1⟩, 2.5⟩ := by
    change (stamped.params.modify _ _).get? _ = _
    rw [intact.params.getModify (.group ⟨1⟩ 0) (f := ({ · with value := 2.5 })) fun _ same => same, if_pos rfl, there]
    rfl
  obtain ⟨c, made⟩ : ∃ c, moved.copied g = .ok c := ⟨_, rfl⟩
  have ok : generateGroup ⟨1⟩ moved = (.ok (), moved.regrown g c) := by
    rw [generateGroupRun found rfl, made]
  obtain ⟨kept, _, again⟩ := madeAnewOnce reached ok
  have here : moved.Intact := (Session.reachedIntact reached).sketch
  obtain ⟨y, after⟩ := (regrownSpec here.params (copiedFits here.entities made)).params.new (.group ⟨1⟩ 0)
    (List.mem_append_left _ (List.mem_append_left _ List.mem_cons_self))
  exact ⟨_, _, reached, ok, ⟨_, after, congrArg Param.value (kept _ _ _ before rfl after)⟩, again⟩

end Sketch
end Drafting
