import Drafting.Proofs.Result
import Drafting.Regeneration.Solid
/-! Which shells a kernel holds while solids are made. Work that makes a shell leaves behind that one and
no other, under a handle that was never issued before; work that fails leaves nothing behind. -/
namespace Drafting

namespace Kernel
variable {k k' k'' : Kernel α} {s x : ShellId} {m : Mesh α}

def Issued (k : Kernel α) : Prop :=
  ∀ (s : ShellId) (m : Mesh α), k.shells[s]? = some m → s.number < firstShell + k.issued

def Keeps (k : Kernel α) (s : ShellId) : Prop := ∃ m, k.shells[s]? = some m

structure Same (k k' : Kernel α) : Prop where
  shells : ∀ s : ShellId, k'.shells[s]? = k.shells[s]?
  issued : k.issued ≤ k'.issued
  backend : k'.backend = k.backend

/-- One more mesh is held, under a handle that was not issued before. -/
structure Gains (k : Kernel α) (s : ShellId) (m : Mesh α) (k' : Kernel α) : Prop where
  shells : ∀ x : ShellId, k'.shells[x]? = if x = s then some m else k.shells[x]?
  fresh : firstShell + k.issued ≤ s.number
  issued : s.number < firstShell + k'.issued
  backend : k'.backend = k.backend

theorem Same.refl (k : Kernel α) : Same k k := ⟨fun _ => rfl, Nat.le_refl _, rfl⟩

theorem Same.keepsIssued (h : Same k k') (old : k.Issued) : k'.Issued := by
  intro s m found
  have before := old s m ((h.shells s).symm.trans found)
  have more := h.issued
  omega

theorem Gains.keepsIssued (h : Gains k s m k') (old : k.Issued) : k'.Issued := by
  intro x n found
  rw [h.shells] at found
  split at found
  · rename_i same
    exact same ▸ h.issued
  · have before := old x n found
    have fresh := h.fresh
    have issued := h.issued
    omega

theorem Issued.absent (h : k.Issued) (fresh : firstShell + k.issued ≤ s.number) : k.shells[s]? = none := by
  cases found : k.shells[s]? with
  | none => rfl
  | some m => exact absurd (h s m found) (Nat.not_lt.mpr fresh)

theorem Gains.unheld (h : Gains k s m k') (old : k.Issued) : ¬ k.Keeps s := by
  rintro ⟨n, found⟩
  rw [old.absent h.fresh] at found
  cases found

theorem Gains.other (h : Gains k s m k') (old : k.Issued) {n : Mesh α} (there : k.shells[x]? = some n) :
    x ≠ s ∧ k'.shells[x]? = some n := by
  have differs : x ≠ s := by
    intro same
    rw [same, old.absent h.fresh] at there
    cases there
  exact ⟨differs, by rw [h.shells, if_neg differs, there]⟩

theorem Same.keeps (h : Same k k') : k'.Keeps x ↔ k.Keeps x := by
  rw [Keeps, Keeps, h.shells]

theorem Gains.keeps (h : Gains k s m k') : k'.Keeps x ↔ k.Keeps x ∨ x = s := by
  rw [Keeps, Keeps, h.shells]
  split
  · rename_i same
    simp [same]
  · rename_i other
    simp [other]

theorem discardGet (k : Kernel α) (s x : ShellId) :
    (k.discard s).shells[x]? = if x = s then none else k.shells[x]? := by
  unfold discard
  rw [Std.HashMap.getElem?_erase]
  by_cases same : x = s
  · simp [same]
  · have differs : ¬ s = x := fun eq => same eq.symm
    simp [same, differs]

theorem Gains.undone {a b : ShellId} {k₁ k₂ : Kernel α} {m₁ m₂ : Mesh α} (old : k.Issued)
    (first : Gains k a m₁ k₁) (second : Gains k₁ b m₂ k₂) : Same k ((k₂.discard a).discard b) where
  shells x := by
    have absentA := old.absent first.fresh
    have absentB : k.shells[b]? = none := by
      refine old.absent ?_
      have := second.fresh
      have := first.fresh
      have := first.issued
      omega
    rw [discardGet, discardGet, second.shells, first.shells]
    by_cases isB : x = b
    · rw [if_pos isB, isB, absentB]
    · by_cases isA : x = a
      · rw [if_neg isB, if_pos isA, isA, absentA]
      · rw [if_neg isB, if_neg isA, if_neg isB, if_neg isA]
  issued := by
    have := first.fresh
    have := first.issued
    have := second.fresh
    have := second.issued
    change k.issued ≤ k₂.issued
    omega
  backend := second.backend.trans first.backend

theorem Gains.replaces {a b : ShellId} {k₁ k₂ k₃ : Kernel α} {m₁ m₂ : Mesh α} (old : k.Issued)
    (first : Gains k a m₁ k₁) (second : Gains k₁ b m₂ k₂) (last : Gains k₂ s m k₃) :
    Gains k s m ((k₃.discard a).discard b) where
  shells x := by
    have apart : s ≠ a ∧ s ≠ b := by
      have := first.issued
      have := second.fresh
      have := second.issued
      have := last.fresh
      constructor
      · rintro rfl
        omega
      · rintro rfl
        omega
    have before := (first.undone old second).shells x
    rw [discardGet, discardGet] at before
    rw [discardGet, discardGet, last.shells]
    by_cases new : x = s
    · rw [new, if_neg apart.2, if_neg apart.1, if_pos rfl, if_pos rfl]
    · rw [if_neg new, if_neg new, before]
  fresh := by
    have := first.fresh
    have := first.issued
    have := second.fresh
    have := second.issued
    have := last.fresh
    omega
  issued := last.issued
  backend := last.backend.trans (second.backend.trans first.backend)

theorem meshOk : k.mesh s = .ok m ↔ k.shells[s]? = some m := by
  unfold mesh
  cases k.shells[s]? <;> simp

theorem storeGains (k : Kernel α) (m : Mesh α) : Gains k (k.store m).1 m (k.store m).2 where
  shells x := by
    change (k.shells.insert _ m)[x]? = _
    rw [Std.HashMap.getElem?_insert]
    by_cases same : x = (k.store m).1
    · subst same
      simp [store]
    · have differs : ¬ (⟨firstShell + k.issued⟩ : ShellId) = x := fun eq => same eq.symm
      simp [same, differs]
  fresh := Nat.le_refl _
  issued := by
    change firstShell + k.issued < firstShell + (k.issued + 1)
    omega
  backend := rfl

theorem storedGains (stored : (Except.ok (k.store m) : Except KernelError (ShellId × Kernel α)) = .ok (s, k')) :
    Gains k s m k' := by
  have same : k.store m = (s, k') := Except.ok.inj stored
  have gains := storeGains k m
  rw [same] at gains
  exact gains

theorem importGains (ok : k.importMesh m = .ok (s, k')) : Gains k s m k' := by
  obtain ⟨_, _, stored⟩ := Result.bindOk.mp ok
  exact storedGains stored

theorem assembleGains {a b : ShellId} (ok : k.assemble a b = .ok (s, k')) : ∃ m, Gains k s m k' := by
  obtain ⟨_, _, ok⟩ := Result.bindOk.mp ok
  obtain ⟨_, _, ok⟩ := Result.bindOk.mp ok
  obtain ⟨_, _, stored⟩ := Result.bindOk.mp ok
  exact ⟨_, storedGains stored⟩

variable [Scalar α]

theorem extrudeGains {p : Profile α} {bottom top : Vec3 α} (ok : k.extrude p bottom top = .ok (s, k')) :
    ∃ m, Gains k s m k' := by
  obtain ⟨_, _, ok⟩ := Result.bindOk.mp ok
  obtain ⟨_, _, stored⟩ := Result.bindOk.mp ok
  exact ⟨_, storedGains stored⟩

theorem revolveGains {p : Profile α} {axis : Axis α} {angle : α} (ok : k.revolve p axis angle = .ok (s, k')) :
    ∃ m, Gains k s m k' := by
  obtain ⟨_, _, ok⟩ := Result.bindOk.mp ok
  obtain ⟨_, _, stored⟩ := Result.bindOk.mp ok
  exact ⟨_, storedGains stored⟩

theorem transformOk {rotation : Quat α} {offset : Vec3 α} :
    k.transform x rotation offset = .ok (s, k') ↔ k.available = .ok () ∧
      ∃ m, k.shells[x]? = some m ∧ k.store (m.move rotation.normalize.rotate offset) = (s, k') := by
  unfold transform
  constructor
  · intro ok
    obtain ⟨_, there, ok⟩ := Result.bindOk.mp ok
    obtain ⟨m, found, stored⟩ := Result.bindOk.mp ok
    exact ⟨there, m, meshOk.mp found, Except.ok.inj stored⟩
  · rintro ⟨there, m, found, stored⟩
    exact Result.bindOk.mpr ⟨(), there, Result.bindOk.mpr ⟨m, meshOk.mpr found, congrArg Except.ok stored⟩⟩

theorem transformGains {rotation : Quat α} {offset : Vec3 α} (ok : k.transform x rotation offset = .ok (s, k')) :
    ∃ m, Gains k s m k' := by
  obtain ⟨_, m, _, stored⟩ := transformOk.mp ok
  exact ⟨_, storedGains (congrArg Except.ok stored)⟩

theorem combineGains {a b : ShellId} {op : BooleanType} (ok : k.combine a b op = .ok (s, k')) : ∃ m, Gains k s m k' := by
  obtain ⟨_, _, ok⟩ := Result.bindOk.mp ok
  obtain ⟨before, _, ok⟩ := Result.bindOk.mp ok
  obtain ⟨new, _, ok⟩ := Result.bindOk.mp ok
  cases apart : overlap before new with
  | true =>
    rw [apart] at ok
    cases ok
  | false =>
    rw [apart] at ok
    exact ⟨_, storedGains ok⟩

end Kernel

namespace Solids
open Kernel (Same Gains)
variable {k : Kernel α}

inductive Leaves (k : Kernel α) : Except KernelError ShellId × Kernel α → Prop
  | made {s : ShellId} {m : Mesh α} {k' : Kernel α} (gains : Gains k s m k') : Leaves k (.ok s, k')
  | failed {e : KernelError} {k' : Kernel α} (same : Same k k') : Leaves k (.error e, k')

def Makes (w : Solids α ShellId) : Prop := ∀ k, k.Issued → Leaves k (w k)

theorem throwMakes (e : KernelError) : Makes (throw e : Solids α ShellId) := fun k _ => .failed (.refl k)

theorem makeOk {op : Kernel α → Except KernelError (ShellId × Kernel α)} {s : ShellId} {k' : Kernel α}
    (ok : make op k = (.ok s, k')) : op k = .ok (s, k') := by
  unfold make at ok
  cases result : op k with
  | error e =>
    rw [result] at ok
    cases ok
  | ok made =>
    rw [result] at ok
    cases ok
    rfl

theorem makeError {op : Kernel α → Except KernelError (ShellId × Kernel α)} {e : KernelError} {k' : Kernel α}
    (failed : make op k = (.error e, k')) : k' = k := by
  unfold make at failed
  cases result : op k with
  | error e =>
    rw [result] at failed
    cases failed
    rfl
  | ok made =>
    rw [result] at failed
    cases failed

theorem makeMakes {op : Kernel α → Except KernelError (ShellId × Kernel α)}
    (h : ∀ k s k', op k = .ok (s, k') → ∃ m, Gains k s m k') : Makes (make op) := by
  intro k _
  rcases result : make op k with ⟨e | s, k'⟩
  · obtain rfl := makeError result
    exact .failed (.refl k')
  · obtain ⟨m, gains⟩ := h k s k' (makeOk result)
    exact .made gains

theorem liftMakes {x : Except KernelError ρ} {next : ρ → Solids α ShellId} (h : ∀ y, Makes (next y)) :
    Makes (liftM x >>= next) := by
  intro k old
  rw [Attempt.runBind]
  cases x with
  | error e => exact .failed (.refl k)
  | ok y => exact h y k old

variable [Scalar α]

/- While copies are joined, the shell they are copies of stays, so that no copy fails after the first. -/
theorem repeatOntoLeaves {source joined : ShellId} {m m' : Mesh α} {k' : Kernel α} {places : List (Quat α × Vec3 α)}
    (old : k.Issued) (there : k.available = .ok ()) (found : k.shells[source]? = some m)
    (gains : Gains k joined m' k') : Leaves k (repeatOnto source joined places k') := by
  induction places generalizing joined m' k' with
  | nil => exact .made gains
  | cons place rest ih =>
    have issued := gains.keepsIssued old
    have still : k'.available = .ok () := by
      unfold Kernel.available at there ⊢
      rw [gains.backend]
      exact there
    let copied := m.move place.1.normalize.rotate place.2
    have copy : k'.transform source place.1 place.2 = .ok (k'.store copied) :=
      Kernel.transformOk.mpr ⟨still, m, (gains.other old found).2, rfl⟩
    have second : Gains k' (k'.store copied).1 copied (k'.store copied).2 := Kernel.storeGains k' copied
    rw [repeatOnto, Attempt.runBind, make, copy]
    dsimp only
    rw [Attempt.runBind, merge]
    generalize k'.store copied = stored at second
    obtain ⟨new, k₂⟩ := stored
    dsimp only at second ⊢
    cases result : k₂.combine joined new .union with
    | error e => exact .failed (gains.undone old second)
    | ok made =>
      obtain ⟨s, k₃⟩ := made
      obtain ⟨_, last⟩ := Kernel.combineGains result
      exact ih (Gains.replaces old gains second last)

theorem repeatedMakes (source : ShellId) (places : List (Quat α × Vec3 α)) : Makes (repeated source places) := by
  intro k old
  cases places with
  | nil => exact .failed (.refl k)
  | cons place rest =>
    rw [repeated, Attempt.runBind, make]
    cases copy : k.transform source place.1 place.2 with
    | error e => exact .failed (.refl k)
    | ok made =>
      obtain ⟨first, k'⟩ := made
      obtain ⟨there, m, found, _⟩ := Kernel.transformOk.mp copy
      obtain ⟨m', gains⟩ := Kernel.transformGains copy
      exact repeatOntoLeaves old there found gains

def joinedMesh (before new : ShellId) (c : CombineAs) (k : Kernel α) : Except KernelError (Mesh α) :=
  match join before new c k with
  | (.ok s, after) => after.mesh s
  | (.error e, _) => .error e

theorem joinedMeshCongr {k' : Kernel α} {before new : ShellId} (c : CombineAs) (backend : k'.backend = k.backend)
    (first : k'.shells[before]? = k.shells[before]?) (second : k'.shells[new]? = k.shells[new]?) :
    joinedMesh before new c k' = joinedMesh before new c k := by
  have available : k'.available = k.available := by rw [Kernel.available, Kernel.available, backend]
  have meshes : k'.mesh before = k.mesh before ∧ k'.mesh new = k.mesh new := by
    simp only [Kernel.mesh, first, second, and_self]
  have stored (k : Kernel α) (m : Mesh α) : (k.store m).2.mesh (k.store m).1 = .ok m :=
    Kernel.meshOk.mpr (by rw [(Kernel.storeGains k m).shells, if_pos rfl])
  unfold joinedMesh join make
  cases c.boolean? with
  | none =>
    simp only [Kernel.assemble, available, meshes.1, meshes.2]
    rcases k.available with _ | _
    · rfl
    rcases k.mesh before with _ | mb
    · rfl
    rcases k.mesh new with _ | mn
    · rfl
    · exact (stored k' _).trans (stored k _).symm
  | some op =>
    simp only [Kernel.combine, available, meshes.1, meshes.2]
    rcases k.available with _ | _
    · rfl
    rcases k.mesh before with _ | mb
    · rfl
    rcases k.mesh new with _ | mn
    · rfl
    simp only [bind, Except.bind]
    cases Kernel.overlap mb mn with
    | true => rfl
    | false => exact (stored k' _).trans (stored k _).symm

theorem joinOk {k' : Kernel α} {before new s : ShellId} {c : CombineAs} (ok : join before new c k = (.ok s, k')) :
    ∃ m, joinedMesh before new c k = .ok m ∧ Gains k s m k' := by
  have gains : ∃ m, Gains k s m k' := by
    unfold join at ok
    cases kind : c.boolean? with
    | none =>
      rw [kind] at ok
      exact Kernel.assembleGains (makeOk ok)
    | some op =>
      rw [kind] at ok
      exact Kernel.combineGains (makeOk ok)
  obtain ⟨m, gains⟩ := gains
  refine ⟨m, ?_, gains⟩
  rw [joinedMesh, ok]
  exact Kernel.meshOk.mpr (by rw [gains.shells, if_pos rfl])

theorem joinError {k' : Kernel α} {before new : ShellId} {c : CombineAs} {e : KernelError}
    (failed : join before new c k = (.error e, k')) : joinedMesh before new c k = .error e ∧ k' = k := by
  refine ⟨by rw [joinedMesh, failed], ?_⟩
  unfold join at failed
  cases kind : c.boolean? with
  | none =>
    rw [kind] at failed
    exact makeError failed
  | some op =>
    rw [kind] at failed
    exact makeError failed

end Solids

theorem Sketch.buildShellMakes [Scalar α] (s : Sketch α) (g : Group α) : Solids.Makes (s.buildShell g) := by
  unfold buildShell
  cases g.kind with
  | drawing3d | drawingWorkplane => exact Solids.throwMakes _
  | extrude sides =>
    refine Solids.liftMakes fun profile => Solids.makeMakes fun k s k' ok => ?_
    exact Kernel.extrudeGains ok
  | lathe axis =>
    refine Solids.liftMakes fun profile => Solids.makeMakes fun k s k' ok => ?_
    exact Kernel.revolveGains ok
  | revolve axis =>
    refine Solids.liftMakes fun profile => Solids.makeMakes fun k s k' ok => ?_
    exact Kernel.revolveGains ok
  | rotate center axis copies sides skipFirst => exact Solids.liftMakes fun source => Solids.repeatedMakes source _
  | translate copies sides skipFirst => exact Solids.liftMakes fun source => Solids.repeatedMakes source _
  | linked points shell =>
    refine Solids.liftMakes fun part => Solids.makeMakes fun k s k' ok => ?_
    exact Kernel.transformGains ok

end Drafting
