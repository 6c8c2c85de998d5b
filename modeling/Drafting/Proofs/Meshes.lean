import Mathlib.Logic.Function.Basic
import Drafting.Proofs.Solid
import Drafting.Scalar.Binary64
/-! What the mesh kernel keeps. Every mesh it stores is well formed: each vertex has a normal, and the indices name
vertices, three to a triangle. A stored mesh is never written again: work that fails leaves all as it was, work that
makes a shell adds that one, and a shell is read back unchanged until it is discarded. -/
namespace Drafting

namespace Mesh

/-- As many normals as vertices, and indices of vertices, three to a triangle. -/
structure WellFormed (m : Mesh α) : Prop where
  normals : m.normals.size = m.vertices.size
  inside : ∀ i ∈ m.indices, i < m.vertices.size
  whole : 3 ∣ m.indices.size

theorem emptyWellFormed : ({} : Mesh α).WellFormed := ⟨rfl, by simp, by simp⟩

theorem WellFormed.append {m n : Mesh α} (hm : m.WellFormed) (hn : n.WellFormed) : (m.append n).WellFormed where
  normals := by
    change (m.normals ++ n.normals).size = (m.vertices ++ n.vertices).size
    rw [Array.size_append, Array.size_append, hm.normals, hn.normals]
  inside i member := by
    change i < (m.vertices ++ n.vertices).size
    rw [Array.size_append]
    rcases Array.mem_append.mp member with old | new
    · exact Nat.lt_add_right _ (hm.inside i old)
    · obtain ⟨j, there, rfl⟩ := Array.mem_map.mp new
      have below := hn.inside j there
      omega
  whole := by
    change 3 ∣ (m.indices ++ n.indices.map _).size
    rw [Array.size_append, Array.size_map]
    exact Nat.dvd_add hm.whole hn.whole

theorem WellFormed.move [Scalar α] {m : Mesh α} (hm : m.WellFormed) (rotation : Vec3 α → Vec3 α) (offset : Vec3 α) :
    (m.move rotation offset).WellFormed where
  normals := by
    change (m.normals.map _).size = (m.vertices.map _).size
    rw [Array.size_map, Array.size_map, hm.normals]
  inside i member := by
    change i < (m.vertices.map _).size
    rw [Array.size_map]
    exact hm.inside i member
  whole := hm.whole

theorem WellFormed.push [Scalar α] {m : Mesh α} (hm : m.WellFormed) (t : Triangle α) : (m.push t).WellFormed where
  normals := by simp [Mesh.push, hm.normals]
  inside i member := by
    have below (i : Nat) (old : i ∈ m.indices) : i < m.vertices.size := hm.inside i old
    simp only [Mesh.push, Array.mem_push, Array.size_push] at member ⊢
    rcases member with ((old | rfl) | rfl) | rfl
    · have := below i old
      omega
    all_goals omega
  whole := by
    have threes := hm.whole
    simp only [Mesh.push, Array.size_push]
    omega

theorem wellFormedOfTriangles [Scalar α] (ts : List (Triangle α)) : (ofTriangles ts).WellFormed := by
  unfold ofTriangles
  suffices each : ∀ m : Mesh α, m.WellFormed → (ts.foldl Mesh.push m).WellFormed from each _ emptyWellFormed
  induction ts with
  | nil => exact fun m hm => hm
  | cons t ts ih => exact fun m hm => ih _ (hm.push t)

def threes : List β → List (β × β × β)
  | a :: b :: c :: rest => (a, b, c) :: threes rest
  | _ => []

theorem threesAppend {l : List β} (r : List β) (whole : 3 ∣ l.length) : threes (l ++ r) = threes l ++ threes r := by
  induction l using threes.induct with
  | case1 a b c rest ih =>
    have shorter : 3 ∣ rest.length := by
      rw [List.length_cons, List.length_cons, List.length_cons] at whole
      omega
    simp only [List.cons_append, threes, ih shorter]
  | case2 l short =>
    rcases l with _ | ⟨a, _ | ⟨b, _ | ⟨c, rest⟩⟩⟩
    · rfl
    · exact absurd (show 3 ∣ 1 from whole) (by decide)
    · exact absurd (show 3 ∣ 2 from whole) (by decide)
    · exact absurd rfl (short a b c rest)

def corner (m : Mesh α) (i : Nat) : Option (Vec3 α) × Option (Vec3 α) := (m.vertices[i]?, m.normals[i]?)

def faces (m : Mesh α) :=
  threes (m.indices.toList.map m.corner)

theorem WellFormed.facesAppend {m : Mesh α} (hm : m.WellFormed) (n : Mesh α) :
    (m.append n).faces = m.faces ++ n.faces := by
  have first : m.indices.toList.map (m.append n).corner = m.indices.toList.map m.corner := by
    refine List.map_congr_left fun i member => ?_
    have below := hm.inside i (Array.mem_toList_iff.mp member)
    change ((m.vertices ++ n.vertices)[i]?, (m.normals ++ n.normals)[i]?) = _
    rw [Array.getElem?_append_left below, Array.getElem?_append_left (hm.normals ▸ below)]
    rfl
  have second (i : Nat) : (m.append n).corner (i + m.vertices.size) = n.corner i := by
    change ((m.vertices ++ n.vertices)[_]?, (m.normals ++ n.normals)[_]?) = _
    rw [Array.getElem?_append_right (Nat.le_add_left _ _), Array.getElem?_append_right (hm.normals ▸ Nat.le_add_left _ _),
      hm.normals, Nat.add_sub_cancel]
    rfl
  have listed : (m.append n).indices.toList = m.indices.toList ++ n.indices.toList.map (· + m.vertices.size) := by
    change (m.indices ++ n.indices.map _).toList = _
    rw [Array.toList_append, Array.toList_map]
  unfold faces
  rw [listed, List.map_append, first, List.map_map, threesAppend _ (by simpa using hm.whole)]
  exact congrArg _ (congrArg threes (List.map_congr_left fun i _ => second i))

end Mesh

namespace Kernel
open Mesh (WellFormed)

inductive Making (α : Type) where
  | extrude (profile : Profile α) (bottom top : Vec3 α)
  | revolve (profile : Profile α) (axis : Axis α) (angle : α)
  | transform (shell : ShellId) (rotation : Quat α) (offset : Vec3 α)
  | combine (a b : ShellId) (op : BooleanType)
  | assemble (a b : ShellId)
  | importMesh (mesh : Mesh α)

inductive Call (α : Type) where
  | make (work : Making α)
  | tessellate (shell : ShellId)
  | discard (shell : ShellId)

inductive Reply (α : Type) where
  | made (shell : ShellId)
  | read (mesh : Mesh α)
  | done

section Calls
variable [Scalar α]

def Making.run (k : Kernel α) : Making α → Except KernelError (ShellId × Kernel α)
  | extrude profile bottom top => k.extrude profile bottom top
  | revolve profile axis angle => k.revolve profile axis angle
  | transform shell rotation offset => k.transform shell rotation offset
  | combine a b op => k.combine a b op
  | assemble a b => k.assemble a b
  | importMesh mesh => k.importMesh mesh

def combined (a b : Mesh α) : BooleanType → Mesh α
  | .union => a.append b
  | .subtract => a
  | .intersect => {}

def Making.mesh (k : Kernel α) : Making α → Except KernelError (Mesh α)
  | extrude profile bottom top => (profile.extrude bottom top).map .ofTriangles
  | revolve profile axis angle => (profile.revolve k.segments axis angle).map .ofTriangles
  | transform shell rotation offset => (k.mesh shell).map (·.move rotation.normalize.rotate offset)
  | combine a b op => do
    let ma ← k.mesh a
    let mb ← k.mesh b
    if overlap ma mb then throw (.overlapping op)
    return combined ma mb op
  | assemble a b => do
    let ma ← k.mesh a
    return ma.append (← k.mesh b)
  | importMesh mesh => .ok mesh

def Call.run (k : Kernel α) : Call α → Except KernelError (Reply α) × Kernel α
  | make work => Prod.map (·.map .made) id (Solids.make (work.run ·) k)
  | tessellate shell => ((k.tessellate shell).map .read, k)
  | discard shell => (.ok .done, k.discard shell)

def after (k : Kernel α) (calls : List (Call α)) : Kernel α := calls.foldl (fun k c => (c.run k).2) k

def Call.Proper : Call α → Prop
  | make (.importMesh mesh) => mesh.WellFormed
  | _ => True

end Calls

def contents (k : Kernel α) (s : ShellId) : Option (Mesh α) := k.shells[s]?

inductive Call.Effect [Scalar α] (k : Kernel α) : Call α → Except KernelError (Reply α) → Kernel α → Prop where
  | failed {c e} : Effect k c (.error e) k
  | made {work s m k'} (mesh : work.mesh k = .ok m) (gains : Gains k s m k') :
      Effect k (.make work) (.ok (.made s)) k'
  | read {s m} (found : k.contents s = some m) : Effect k (.tessellate s) (.ok (.read m)) k
  | done {s} : Effect k (.discard s) (.ok .done) (k.discard s)

variable [Scalar α] {k k' : Kernel α} {s : ShellId} {m : Mesh α} {work : Making α} {c : Call α} {calls : List (Call α)}

theorem Making.runStores (there : k.available = .ok ()) : work.run k = (work.mesh k).map k.store := by
  cases work with
  | extrude profile bottom top =>
    rw [run, mesh, Kernel.extrude, there]
    cases profile.extrude bottom top <;> rfl
  | revolve profile axis angle =>
    rw [run, mesh, Kernel.revolve, there]
    cases profile.revolve k.segments axis angle <;> rfl
  | transform shell rotation offset =>
    rw [run, mesh, Kernel.transform, there]
    cases k.mesh shell <;> rfl
  | combine a b op =>
    rw [run, mesh, Kernel.combine, there]
    cases k.mesh a with
    | error e => rfl
    | ok ma =>
      cases k.mesh b with
      | error e => rfl
      | ok mb =>
        simp only [bind, Except.bind]
        cases overlap ma mb with
        | true => rfl
        | false => cases op <;> rfl
  | assemble a b =>
    rw [run, mesh, Kernel.assemble, there]
    cases k.mesh a with
    | error e => rfl
    | ok ma => cases k.mesh b <;> rfl
  | importMesh m =>
    rw [run, mesh, Kernel.importMesh, there]
    rfl

theorem Making.runOk (there : k.available = .ok ()) (ok : work.run k = .ok (s, k')) :
    ∃ m, work.mesh k = .ok m ∧ Gains k s m k' := by
  rw [runStores there] at ok
  cases found : work.mesh k with
  | error e =>
    rw [found] at ok
    cases ok
  | ok m =>
    rw [found] at ok
    exact ⟨m, rfl, storedGains ok⟩

theorem combinedMesh {a b : ShellId} {op : BooleanType} (found : (Making.combine a b op).mesh k = .ok m) :
    ∃ ma mb, k.contents a = some ma ∧ k.contents b = some mb ∧ m = combined ma mb op := by
  obtain ⟨ma, first, found⟩ := Result.bindOk.mp found
  obtain ⟨mb, second, found⟩ := Result.bindOk.mp found
  refine ⟨ma, mb, meshOk.mp first, meshOk.mp second, ?_⟩
  cases apart : overlap ma mb with
  | true =>
    rw [apart] at found
    cases found
  | false =>
    rw [apart] at found
    exact (Except.ok.inj found).symm

theorem assembledMesh {a b : ShellId} (found : (Making.assemble a b).mesh k = .ok m) :
    ∃ ma mb, k.contents a = some ma ∧ k.contents b = some mb ∧ m = ma.append mb := by
  obtain ⟨ma, first, found⟩ := Result.bindOk.mp found
  obtain ⟨mb, second, found⟩ := Result.bindOk.mp found
  exact ⟨ma, mb, meshOk.mp first, meshOk.mp second, (Except.ok.inj found).symm⟩

def WellStocked (k : Kernel α) : Prop := ∀ s m, k.contents s = some m → m.WellFormed

omit [Scalar α] in
theorem mapOk {x : Except ε σ} {f : σ → τ} {y : τ} (ok : x.map f = .ok y) : ∃ a, x = .ok a ∧ f a = y := by
  cases x with
  | error e => cases ok
  | ok a => exact ⟨a, rfl, Except.ok.inj ok⟩

theorem Making.meshWellFormed (stocked : k.WellStocked) (proper : (Call.make work).Proper)
    (found : work.mesh k = .ok m) : m.WellFormed := by
  cases work with
  | extrude profile bottom top =>
    obtain ⟨ts, _, rfl⟩ := mapOk found
    exact Mesh.wellFormedOfTriangles ts
  | revolve profile axis angle =>
    obtain ⟨ts, _, rfl⟩ := mapOk found
    exact Mesh.wellFormedOfTriangles ts
  | transform shell rotation offset =>
    obtain ⟨before, there, rfl⟩ := mapOk found
    exact (stocked shell before (meshOk.mp there)).move _ _
  | combine a b op =>
    obtain ⟨ma, mb, first, second, rfl⟩ := combinedMesh found
    cases op with
    | union => exact (stocked a ma first).append (stocked b mb second)
    | subtract => exact stocked a ma first
    | intersect => exact Mesh.emptyWellFormed
  | assemble a b =>
    obtain ⟨ma, mb, first, second, rfl⟩ := assembledMesh found
    exact (stocked a ma first).append (stocked b mb second)
  | importMesh mesh =>
    obtain rfl := Except.ok.inj found
    exact proper

theorem readBack (there : k.available = .ok ()) (found : k.contents s = some m) :
    (Call.tessellate s).run k = (.ok (.read m), k) := by
  have mesh : k.mesh s = .ok m := meshOk.mpr found
  rw [Call.run, Kernel.tessellate, there, mesh]
  rfl

theorem Call.effect (there : k.available = .ok ()) (c : Call α) : c.Effect k (c.run k).1 (c.run k).2 := by
  cases c with
  | make work =>
    rcases result : Solids.make (work.run ·) k with ⟨e | s, k'⟩
    · rw [run, result, Solids.makeError result]
      exact .failed
    · obtain ⟨m, mesh, gains⟩ := Making.runOk there (Solids.makeOk result)
      rw [run, result]
      exact .made mesh gains
  | tessellate s =>
    cases found : k.mesh s with
    | error e =>
      rw [show (tessellate s).run k = (.error .notTessellated, k) by
        rw [run, Kernel.tessellate, there, found]
        rfl]
      exact .failed
    | ok m =>
      rw [readBack there (meshOk.mp found)]
      exact .read (meshOk.mp found)
  | discard s => exact .done

omit [Scalar α] in
theorem Gains.contents (h : Gains k s m k') : k'.contents = Function.update k.contents s (some m) := by
  funext x
  rw [Function.update_apply]
  exact h.shells x

omit [Scalar α] in
theorem discardContents (k : Kernel α) (s : ShellId) : (k.discard s).contents = Function.update k.contents s none := by
  funext x
  rw [Function.update_apply]
  exact discardGet k s x

structure Running (k : Kernel α) : Prop where
  issued : k.Issued
  available : k.available = .ok ()

omit [Scalar α] in
theorem startRunning (segments : Nat) : (ofBackend .mesh segments : Kernel α).Running := by
  refine ⟨fun s m found => ?_, rfl⟩
  change (∅ : Std.HashMap ShellId (Mesh α))[s]? = some m at found
  simp at found

omit [Scalar α] in
theorem Running.gains (h : k.Running) (gains : Gains k s m k') : k'.Running := by
  refine ⟨gains.keepsIssued h.issued, ?_⟩
  unfold Kernel.available
  rw [gains.backend]
  exact h.available

omit [Scalar α] in
theorem Running.discard (h : k.Running) (s : ShellId) : (k.discard s).Running := by
  refine ⟨fun x m found => ?_, h.available⟩
  rw [discardGet] at found
  split at found
  · cases found
  · exact h.issued x m found

theorem Running.call (h : k.Running) (c : Call α) : (c.run k).2.Running := by
  have effect := c.effect h.available
  generalize (c.run k).1 = r, (c.run k).2 = k' at effect
  cases effect with
  | failed => exact h
  | made _ gains => exact h.gains gains
  | read => exact h
  | done => exact h.discard _

theorem WellStocked.call (stocked : k.WellStocked) (h : k.Running) (proper : c.Proper) : (c.run k).2.WellStocked := by
  have effect := c.effect h.available
  generalize (c.run k).1 = r, (c.run k).2 = k' at effect
  cases effect with
  | failed => exact stocked
  | @made work s m k' mesh gains =>
    intro x n found
    rw [gains.contents, Function.update_apply] at found
    split at found
    · cases found
      exact Making.meshWellFormed stocked proper mesh
    · exact stocked x n found
  | read => exact stocked
  | @done s =>
    intro x n found
    rw [discardContents, Function.update_apply] at found
    split at found
    · cases found
    · exact stocked x n found

theorem Running.keeps (h : k.Running) (found : k.contents s = some m) (kept : c ≠ .discard s) :
    (c.run k).2.contents s = some m := by
  have effect := c.effect h.available
  generalize (c.run k).1 = r, (c.run k).2 = k' at effect
  cases effect with
  | failed => exact found
  | made _ gains => exact (gains.other h.issued found).2
  | read => exact found
  | @done x =>
    have other : s ≠ x := fun same => kept (congrArg Call.discard same.symm)
    rw [discardContents, Function.update_of_ne other]
    exact found

theorem Running.after (h : k.Running) (calls : List (Call α)) : (k.after calls).Running := by
  induction calls generalizing k with
  | nil => exact h
  | cons c calls ih => exact ih (h.call c)

theorem WellStocked.after (stocked : k.WellStocked) (h : k.Running) (proper : ∀ c ∈ calls, c.Proper) :
    (k.after calls).WellStocked := by
  induction calls generalizing k with
  | nil => exact stocked
  | cons c calls ih =>
    exact ih (stocked.call h (proper c List.mem_cons_self)) (h.call c) fun d later => proper d (List.mem_cons_of_mem _ later)

theorem Running.lasting (h : k.Running) (found : k.contents s = some m) (kept : .discard s ∉ calls) :
    (k.after calls).contents s = some m := by
  induction calls generalizing k with
  | nil => exact found
  | cons c calls ih =>
    obtain ⟨other, rest⟩ := not_or.mp (mt List.mem_cons.mpr kept)
    exact ih (h.call c) (h.keeps found (Ne.symm other)) rest

theorem madeLasts (running : k.Running) (next : k'.Running) (effect : c.Effect k (.ok (.made s)) k') :
    k.contents s = none ∧ ∃ m, k'.contents = Function.update k.contents s (some m) ∧
      ∀ later, .discard s ∉ later → ((Call.tessellate s).run (k'.after later)).1 = .ok (.read m) := by
  cases effect with
  | @made work _ m _ mesh gains =>
    refine ⟨running.issued.absent gains.fresh, m, gains.contents, fun later kept => ?_⟩
    have there : k'.contents s = some m := by rw [gains.contents, Function.update_self]
    rw [readBack (next.after later).available (next.lasting there kept)]

theorem sidesJoined {a b : ShellId} (joined : c = .make (.combine a b .union) ∨ c = .make (.assemble a b))
    (stocked : k.WellStocked) (effect : c.Effect k (.ok (.made s)) k') :
    ∃ ma mb m, k.contents a = some ma ∧ k.contents b = some mb ∧ k'.contents s = some m ∧
      m.faces = ma.faces ++ mb.faces := by
  cases effect with
  | @made work _ m _ mesh gains =>
    have sides : ∃ ma mb, k.contents a = some ma ∧ k.contents b = some mb ∧ m = ma.append mb := by
      rcases joined with union | side
      · cases union
        exact combinedMesh mesh
      · cases side
        exact assembledMesh mesh
    obtain ⟨ma, mb, first, second, rfl⟩ := sides
    refine ⟨ma, mb, _, first, second, ?_, (stocked a ma first).facesAppend mb⟩
    rw [gains.contents, Function.update_self]

theorem meshesPersist (segments : Nat) (proper : ∀ c ∈ calls, c.Proper) (c : Call α) :
    let k := (ofBackend .mesh segments : Kernel α).after calls
    let r := (c.run k).1
    let k' := (c.run k).2
    (∀ s m, k.contents s = some m → m.WellFormed) ∧
    (∀ e, r = .error e → k' = k) ∧
    (∀ s, r = .ok (.made s) → k.contents s = none ∧ ∃ m, k'.contents = Function.update k.contents s (some m) ∧
      ∀ later, .discard s ∉ later → ((Call.tessellate s).run (k'.after later)).1 = .ok (.read m)) ∧
    (∀ s, c = .discard s → k'.contents = Function.update k.contents s none) ∧
    (∀ s, c = .tessellate s → k' = k) ∧
    ∀ a b s, c = .make (.combine a b .union) ∨ c = .make (.assemble a b) → r = .ok (.made s) →
      ∃ ma mb m, k.contents a = some ma ∧ k.contents b = some mb ∧ k'.contents s = some m ∧
        m.faces = ma.faces ++ mb.faces := by
  intro k r k'
  have running : k.Running := (startRunning segments).after calls
  have stocked : k.WellStocked := by
    refine WellStocked.after (fun s m found => ?_) (startRunning segments) proper
    change (∅ : Std.HashMap ShellId (Mesh α))[s]? = some m at found
    simp at found
  have next : k'.Running := running.call c
  have effect : c.Effect k r k' := c.effect running.available
  refine ⟨stocked, ?_, ?_, ?_, ?_, ?_⟩
  · rintro e failed
    clear_value r k'
    rw [failed] at effect
    cases effect
    rfl
  · rintro s made
    exact madeLasts running next (made ▸ effect)
  · rintro s rfl
    exact discardContents k s
  · rintro s rfl
    rfl
  · rintro a b s joined made
    exact sidesJoined joined stocked (made ▸ effect)

theorem triangleTwice : ∃ (m : Mesh Float) (a s : ShellId) (k k' : Kernel Float),
    (∀ c ∈ [Call.make (.importMesh m)], c.Proper) ∧ k = (ofBackend .mesh 32).after [.make (.importMesh m)] ∧
      (Call.make (.assemble a a)).run k = (.ok (.made s), k') ∧
      ∃ both, k'.contents s = some both ∧ both.faces = m.faces ++ m.faces ∧ m.faces.length = 1 := by
  let m : Mesh Float := .ofTriangles [⟨.zero, .unitX, .unitY⟩]
  let k : Kernel Float := (ofBackend .mesh 32).after [.make (.importMesh m)]
  let a : ShellId := ((ofBackend .mesh 32 : Kernel Float).store m).1
  have proper : ∀ c ∈ [Call.make (.importMesh m)], c.Proper := by
    intro c only
    rw [List.mem_singleton.mp only]
    exact Mesh.wellFormedOfTriangles _
  have stored : k.contents a = some m := by
    have gains := storeGains (ofBackend .mesh 32 : Kernel Float) m
    rw [show k.contents = _ from gains.contents, Function.update_self]
  have mesh : (Making.assemble a a).mesh k = .ok (m.append m) := by
    rw [Making.mesh, meshOk.mpr stored]
    rfl
  have made : (Making.assemble a a).run k = .ok (k.store (m.append m)) := by
    rw [Making.runStores rfl, mesh]
    rfl
  have ran : (Call.make (.assemble a a)).run k = (.ok (.made (k.store (m.append m)).1), (k.store (m.append m)).2) := by
    rw [Call.run, Solids.make, made]
    rfl
  obtain ⟨_, _, _, _, _, sides⟩ := meshesPersist 32 proper (.make (.assemble a a))
  obtain ⟨ma, mb, both, first, second, there, faces⟩ := sides a a _ (.inr rfl) (congrArg Prod.fst ran)
  obtain rfl := Option.some.inj (stored.symm.trans first)
  obtain rfl := Option.some.inj (stored.symm.trans second)
  have after : k.after [.make (.assemble a a)] = (k.store (m.append m)).2 := congrArg Prod.snd ran
  exact ⟨m, a, _, k, _, proper, rfl, ran, both, after ▸ there, faces, rfl⟩

end Kernel
end Drafting
