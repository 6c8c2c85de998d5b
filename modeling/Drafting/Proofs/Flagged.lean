import Drafting.Proofs.Gradient
import Drafting.Proofs.Solve
/-! Which constraints a solution flags. Rows are collected by constraint from the order of the equations; each
constraint has its equations in one place there, so it is met once, with all of its rows, in the order of
the registry. -/
namespace Drafting

namespace System

def enterRow (row : Equation α × Nat) (groups : List (ConstraintId × List Nat)) : List (ConstraintId × List Nat) :=
  match row.1.id.constraint?, groups with
  | none, _ => groups
  | some c, (d, rows) :: rest => if c = d then (d, row.2 :: rows) :: rest else (c, [row.2]) :: groups
  | some c, [] => [(c, [row.2])]

def grouped (rows : List (Equation α × Nat)) : List (ConstraintId × List Nat) := rows.foldr enterRow []

theorem rowsGrouped (sys : System α) : sys.rowsByConstraint = grouped sys.equations.zipIdx := rfl

def Collected (groups : List (ConstraintId × List Nat)) (c : ConstraintId) (i : Nat) : Prop :=
  ∃ own, (c, own) ∈ groups ∧ i ∈ own

variable {q : Equation α} {c : ConstraintId} {i j : Nat} {groups : List (ConstraintId × List Nat)}

theorem enterFree (free : q.id.constraint? = none) : enterRow (q, i) groups = groups := by
  unfold enterRow
  rw [free]

theorem enterOwn (i : Nat) (groups : List (ConstraintId × List Nat)) (own : q.id.constraint? = some c) :
    ∃ rows rest, enterRow (q, i) groups = (c, i :: rows) :: rest ∧
      (groups = (c, rows) :: rest ∨ groups = rest ∧ rows = [] ∧ (rest.map Prod.fst).head? ≠ some c) := by
  unfold enterRow
  rw [own]
  cases groups with
  | nil => exact ⟨[], [], rfl, .inr ⟨rfl, rfl, by simp⟩⟩
  | cons g rest =>
    obtain ⟨d, rows⟩ := g
    by_cases same : c = d
    · obtain rfl := same
      exact ⟨rows, rest, by simp, .inl rfl⟩
    · exact ⟨[], (d, rows) :: rest, by simp [same], .inr ⟨rfl, rfl, by simp [Ne.symm same]⟩⟩

theorem enterKeys (own : q.id.constraint? = some c) : (enterRow (q, i) groups).map Prod.fst =
    if (groups.map Prod.fst).head? = some c then groups.map Prod.fst else c :: groups.map Prod.fst := by
  obtain ⟨rows, rest, entered, continued | ⟨begun, _, fresh⟩⟩ := enterOwn i groups own
  · rw [entered, continued]
    simp
  · rw [entered, begun, if_neg fresh]
    rfl

@[simp] theorem collectedCons {rows : List Nat} : Collected ((d, rows) :: groups) c i ↔
    (d = c ∧ i ∈ rows) ∨ Collected groups c i := by
  simp [Collected, or_and_right, exists_or, eq_comm]

theorem enterCollected : Collected (enterRow (q, j) groups) c i ↔
    (q.id.constraint? = some c ∧ i = j) ∨ Collected groups c i := by
  cases owner : q.id.constraint? with
  | none => simp [enterFree owner]
  | some d =>
    obtain ⟨rows, rest, entered, continued | ⟨begun, none, _⟩⟩ := enterOwn j groups owner
    · rw [entered, continued]
      simp only [collectedCons, List.mem_cons, Option.some.injEq, and_or_left, or_assoc]
    · rw [entered, begun, none]
      simp

theorem groupedCollected {rows : List (Equation α × Nat)} :
    Collected (grouped rows) c i ↔ ∃ q, (q, i) ∈ rows ∧ q.id.constraint? = some c := by
  induction rows with
  | nil => simp [grouped, Collected]
  | cons row rest ih =>
    obtain ⟨q, j⟩ := row
    change Collected (enterRow (q, j) (grouped rest)) c i ↔ _
    rw [enterCollected, ih]
    simp only [List.mem_cons, Prod.mk.injEq, or_and_right, exists_or, and_assoc]
    simp [and_comm]

theorem groupedKeys {rows : List (Equation α × Nat)} :
    c ∈ (grouped rows).map Prod.fst ↔ ∃ row ∈ rows, row.1.id.constraint? = some c := by
  induction rows with
  | nil => simp [grouped]
  | cons row rest ih =>
    obtain ⟨q, j⟩ := row
    change c ∈ (enterRow (q, j) (grouped rest)).map Prod.fst ↔ _
    rw [List.exists_mem_cons_iff, ← ih]
    cases owner : q.id.constraint? with
    | none => simp [enterFree owner]
    | some d =>
      rw [enterKeys owner]
      split
      · rename_i first
        have there : d ∈ (grouped rest).map Prod.fst := List.mem_of_head? first
        simp only [Option.some.injEq]
        exact ⟨.inr, fun either => either.elim (· ▸ there) id⟩
      · simp [eq_comm]

theorem groupedBlock {block rest : List (Equation α × Nat)} (own : ∀ row ∈ block, row.1.id.constraint? = some c)
    (apart : ∀ row ∈ rest, row.1.id.constraint? ≠ some c) :
    (grouped (block ++ rest)).map Prod.fst = (if block = [] then [] else [c]) ++ (grouped rest).map Prod.fst := by
  induction block with
  | nil => rfl
  | cons row block ih =>
    obtain ⟨q, j⟩ := row
    have ih := ih fun row member => own row (List.mem_cons_of_mem _ member)
    calc (grouped ((q, j) :: block ++ rest)).map Prod.fst
        = (enterRow (q, j) (grouped (block ++ rest))).map Prod.fst := rfl
      _ = c :: (grouped rest).map Prod.fst := by
        rw [enterKeys (own _ List.mem_cons_self), ih]
        cases block with
        | nil =>
          have later : ((grouped rest).map Prod.fst).head? ≠ some c := fun first => by
            obtain ⟨row, member, owner⟩ := groupedKeys.mp (List.mem_of_head? first)
            exact apart row member owner
          simp only [if_true, List.nil_append, if_neg later]
        | cons => simp

theorem groupedSublist {cs : List (Constraint α)} {written : Constraint α → List (Equation α)} {others : List (Equation α)}
    (distinct : (cs.map Constraint.id).Nodup) (own : ∀ k ∈ cs, ∀ q ∈ written k, q.id.constraint? = some k.id)
    (free : ∀ q ∈ others, q.id.constraint? = none) (start : Nat) :
    ((grouped ((cs.flatMap written ++ others).zipIdx start)).map Prod.fst).Sublist (cs.map Constraint.id) := by
  induction cs generalizing start with
  | nil =>
    have empty : (grouped (others.zipIdx start)).map Prod.fst = [] := List.eq_nil_iff_forall_not_mem.mpr fun c there => by
      obtain ⟨⟨q, i⟩, member, owner⟩ := groupedKeys.mp there
      rw [free q (List.fst_mem_of_mem_zipIdx member)] at owner
      cases owner
    rw [List.flatMap_nil, List.nil_append, empty]
    exact .refl _
  | cons k rest ih =>
    obtain ⟨fresh, distinct⟩ := List.nodup_cons.mp distinct
    have later := ih distinct (fun k member => own k (List.mem_cons_of_mem _ member)) (start + (written k).length)
    have apart : ∀ row ∈ (rest.flatMap written ++ others).zipIdx (start + (written k).length),
        row.1.id.constraint? ≠ some k.id := by
      intro row member owner
      rcases List.mem_append.mp (List.fst_mem_of_mem_zipIdx member) with theirs | other
      · obtain ⟨k', there, wrote⟩ := List.mem_flatMap.mp theirs
        have same := Option.some.inj ((own k' (List.mem_cons_of_mem _ there) _ wrote).symm.trans owner)
        exact fresh (List.mem_map.mpr ⟨k', there, same⟩)
      · rw [free _ other] at owner
        cases owner
    rw [List.flatMap_cons, List.append_assoc, List.zipIdx_append, groupedBlock
      (fun row member => own k List.mem_cons_self _ (List.fst_mem_of_mem_zipIdx member)) apart]
    split
    · exact later.cons _
    · exact later.cons_cons _

theorem rowsCollected {sys : System α} : Collected sys.rowsByConstraint c i ↔
    ∃ q, sys.equations[i]? = some q ∧ q.id.constraint? = some c := by
  rw [rowsGrouped, groupedCollected]
  simp only [List.mem_zipIdx_iff_getElem?]

theorem rowsKeys {sys : System α} :
    c ∈ sys.rowsByConstraint.map Prod.fst ↔ ∃ q ∈ sys.equations, q.id.constraint? = some c := by
  rw [rowsGrouped, groupedKeys]
  constructor
  · exact fun ⟨row, member, owner⟩ => ⟨row.1, List.fst_mem_of_mem_zipIdx member, owner⟩
  · intro ⟨q, member, owner⟩
    obtain ⟨i, place⟩ := List.mem_iff_getElem?.mp member
    exact ⟨(q, i), List.mem_zipIdx_iff_getElem?.mpr place, owner⟩

theorem rowsOwned {sys : System α} (distinct : (sys.rowsByConstraint.map Prod.fst).Nodup) {own : List Nat}
    (there : (c, own) ∈ sys.rowsByConstraint) (place : sys.equations[i]? = some q) :
    i ∈ own ↔ q.id.constraint? = some c := by
  constructor
  · intro inside
    obtain ⟨q', place', owner⟩ := rowsCollected.mp ⟨own, there, inside⟩
    rwa [Option.some.inj (place.symm.trans place')]
  · intro owner
    obtain ⟨own', there', inside⟩ := rowsCollected.mpr ⟨q, place, owner⟩
    cases List.inj_on_of_nodup_map distinct there' there rfl
    exact inside

section Flagged
variable [Scalar α] {sys : System α} {config : SolverConfig α} {clock : Nat → Nat}

def rowsWithout (sys : System α) (c : ConstraintId) (rows : List (Array α)) : List (Array α) :=
  ((rows.zip sys.equations).filter fun (_, q) => q.id.constraint? != some c).map Prod.fst

omit [Scalar α] in
theorem leftOut {rows : List τ} {qs : List (Equation α)} (many : rows.length = qs.length) {start : Nat} {own : List Nat}
    (exact : ∀ row ∈ qs.zipIdx start, row.2 ∈ own ↔ row.1.id.constraint? = some c) :
    ((rows.zipIdx start).filter fun (_, i) => !own.contains i).map Prod.fst =
      ((rows.zip qs).filter fun (_, q) => q.id.constraint? != some c).map Prod.fst := by
  induction rows generalizing qs start with
  | nil => rfl
  | cons r rows ih =>
    cases qs with
    | nil => cases many
    | cons q qs =>
      obtain ⟨first, later⟩ := List.forall_mem_cons.mp (List.zipIdx_cons ▸ exact)
      have ih := ih (Nat.succ.inj many) later
      by_cases mine : q.id.constraint? = some c
      · simpa [List.filter_cons, first, mine] using ih
      · simpa [List.filter_cons, first, mine] using ih

theorem redundantFilter (timely : ∀ reading, config.expired clock reading = false) (rows : List (Array α)) (rank reading : Nat)
    (groups : List (ConstraintId × List Nat)) : redundant config clock rows rank reading groups =
      (groups.filter fun (_, own) => Rank.of config.rankTolerance
        ((rows.zipIdx.filter fun (_, i) => !own.contains i).map Prod.fst) == rank).map Prod.fst := by
  induction groups generalizing reading with
  | nil => rfl
  | cons g rest ih =>
    rw [redundant, timely, ih, List.filter_cons]
    simp only [Bool.false_eq_true, if_false]
    split <;> rfl

theorem redundantExact (timely : ∀ reading, config.expired clock reading = false)
    (distinct : (sys.rowsByConstraint.map Prod.fst).Nodup) {rows : List (Array α)} (many : rows.length = sys.equations.length)
    (rank reading : Nat) : c ∈ redundant config clock rows rank reading sys.rowsByConstraint ↔
      (∃ q ∈ sys.equations, q.id.constraint? = some c) ∧ Rank.of config.rankTolerance (sys.rowsWithout c rows) = rank := by
  have others {own : List Nat} (there : (c, own) ∈ sys.rowsByConstraint) :
      (rows.zipIdx.filter fun (_, i) => !own.contains i).map Prod.fst = sys.rowsWithout c rows :=
    leftOut many fun _ member => rowsOwned distinct there (List.mem_zipIdx_iff_getElem?.mp member)
  rw [redundantFilter timely, ← rowsKeys]
  constructor
  · intro flagged
    obtain ⟨⟨_, own⟩, kept, rfl⟩ := List.mem_map.mp flagged
    obtain ⟨there, same⟩ := List.mem_filter.mp kept
    exact ⟨List.mem_map_of_mem there, others there ▸ eq_of_beq same⟩
  · intro ⟨member, same⟩
    obtain ⟨⟨_, own⟩, there, rfl⟩ := List.mem_map.mp member
    exact List.mem_map.mpr ⟨(_, own), List.mem_filter.mpr ⟨there, beq_iff_eq.mpr (others there ▸ same)⟩, rfl⟩

theorem unsatisfiedExact {tolerance : α} {x : Array α} : c ∈ sys.unsatisfied tolerance (sys.residuals x) ↔
    ∃ q ∈ sys.equations, q.id.constraint? = some c ∧ ¬ Arith.abs (q.expr.eval (sys.lookup x)) < tolerance := by
  have fails {q : Equation α} {i : Nat} (place : sys.equations[i]? = some q) :
      (!((sys.residuals x)[i]?.any fun r => decide (Arith.abs r < tolerance))) = true ↔
        ¬ Arith.abs (q.expr.eval (sys.lookup x)) < tolerance := by
    simp [residuals, place]
  unfold unsatisfied
  constructor
  · intro flagged
    obtain ⟨⟨_, own⟩, kept, rfl⟩ := List.mem_map.mp flagged
    obtain ⟨there, some⟩ := List.mem_filter.mp kept
    obtain ⟨i, inside, above⟩ := List.any_eq_true.mp some
    obtain ⟨q, place, owner⟩ := rowsCollected.mp ⟨own, there, inside⟩
    exact ⟨q, List.mem_of_getElem? place, owner, (fails place).mp above⟩
  · intro failing
    obtain ⟨q, member, owner, above⟩ := failing
    obtain ⟨i, place⟩ := List.mem_iff_getElem?.mp member
    obtain ⟨own, there, inside⟩ := rowsCollected.mpr ⟨q, place, owner⟩
    exact List.mem_map.mpr ⟨(c, own), List.mem_filter.mpr
      ⟨there, List.any_eq_true.mpr ⟨i, inside, (fails place).mpr above⟩⟩, rfl⟩

/-- What a classified iteration flags, by its status. -/
inductive Flags (sys : System α) (config : SolverConfig α) (clock : Nat → Nat) (r : Iterate α) :
    SolveStatus → List ConstraintId → Prop
  | dependent {status : SolveStatus} {rows : List (Array α)} (deficient : status ∈ [.overconstrained, .inconsistent])
      (jacobian : rows = sys.denseRows (sys.jacobianAt r.values)) : Flags sys config clock r status
        (redundant config clock rows (Rank.of config.rankTolerance rows) r.readings sys.rowsByConstraint)
  | unsatisfied : Flags sys config clock r .notConverged (sys.unsatisfied config.tolerance (sys.residuals r.values))
  | nothing {status : SolveStatus} (fine : status ∈ [.converged, .underconstrained, .timedOut]) :
      Flags sys config clock r status []

theorem classifyFlags (sys : System α) (config : SolverConfig α) (clock : Nat → Nat) (allowRedundant : Bool) (r : Iterate α) :
    Flags sys config clock r (sys.classify config clock allowRedundant r).status
      (sys.classify config clock allowRedundant r).flagged := by
  unfold classify
  dsimp only
  split
  · exact .nothing (by simp)
  · split
    · exact .dependent (by simp) rfl
    · split
      · exact .nothing (by simp)
      · exact .nothing (by simp)
  · split
    · exact .nothing (by simp)
    · exact .nothing (by simp)
  · exact .dependent (by simp) rfl
  · exact .unsatisfied

theorem Flags.ordered {r : Iterate α} {status : SolveStatus} {flagged : List ConstraintId}
    (flags : Flags sys config clock r status flagged) (timely : ∀ reading, config.expired clock reading = false) :
    flagged.Sublist (sys.rowsByConstraint.map Prod.fst) := by
  cases flags with
  | dependent =>
    rw [redundantFilter timely]
    exact List.filter_sublist.map _
  | unsatisfied => exact List.filter_sublist.map _
  | nothing => exact List.nil_sublist _

theorem Flags.exact {r : Iterate α} {status : SolveStatus} {flagged : List ConstraintId}
    (flags : Flags sys config clock r status flagged) (timely : ∀ reading, config.expired clock reading = false)
    (distinct : (sys.rowsByConstraint.map Prod.fst).Nodup)
    (many : (sys.denseRows (sys.jacobianAt r.values)).length = sys.equations.length) :
    (status ∉ [.overconstrained, .inconsistent, .notConverged] → flagged = []) ∧
      (status ∈ [.overconstrained, .inconsistent] →
        let rows := sys.denseRows (sys.jacobianAt r.values)
        ∀ c, c ∈ flagged ↔ (∃ q ∈ sys.equations, q.id.constraint? = some c) ∧
          Rank.of config.rankTolerance (sys.rowsWithout c rows) = Rank.of config.rankTolerance rows) ∧
      (status = .notConverged → ∀ c, c ∈ flagged ↔ ∃ q ∈ sys.equations, q.id.constraint? = some c ∧
        ¬ Arith.abs (q.expr.eval (sys.lookup r.values)) < config.tolerance) := by
  cases flags with
  | dependent deficient jacobian =>
    refine ⟨fun other => ?_, fun _ c => ?_, fun other => ?_⟩
    · cases status <;> simp at deficient other
    · rw [jacobian]
      exact redundantExact timely distinct many _ _
    · rw [other] at deficient
      simp at deficient
  | unsatisfied => exact ⟨by simp, by simp, fun _ _ => unsatisfiedExact⟩
  | nothing fine =>
    refine ⟨fun _ => rfl, fun other => ?_, fun other => ?_⟩
    · cases status <;> simp at fine other
    · rw [other] at fine
      simp at fine

end Flagged
end System

namespace Sketch
open Result
variable [Scalar α] {s : Sketch α} {group : GroupId} {dims : Bool} {sys : System α}

theorem constraintOwned {k : Constraint α} : ∀ q ∈ (s.constraintEquations k).toOption.getD [],
    q.id.constraint? = some k.id := by
  intro q member
  cases written : s.constraintEquations k with
  | error => simp [written, Except.toOption] at member
  | ok qs =>
    rw [written] at member
    unfold constraintEquations at written
    split at written
    · cases written
      cases member
    · obtain ⟨setting, _, written⟩ := bindOk.mp written
      obtain ⟨residuals, _, same⟩ := bindOk.mp written
      cases same
      obtain ⟨i, _, rfl⟩ := List.mem_mapIdx.mp member
      rfl

theorem entityFree {qs : List (Equation α)} (written : s.entityEquations group = .ok qs) :
    ∀ q ∈ qs, q.id.constraint? = none := by
  intro q member
  obtain ⟨e, _, _, x, _, rfl⟩ := entityEquationsOk written q member
  rfl

theorem groupFree {qs : List (Equation α)} (written : s.groupEquations group = .ok qs) :
    ∀ q ∈ qs, q.id.constraint? = none := by
  intro q member
  obtain ⟨g, plane, _, _, rfl⟩ := groupEquationsOk written
  obtain ⟨i, _, rfl⟩ := List.mem_mapIdx.mp member
  rfl

def written (s : Sketch α) (known : ParamId → Option α) (k : Constraint α) : List (Equation α) :=
  ((s.constraintEquations k).toOption.getD []).map fun q => ⟨q.id, q.expr.substitute known⟩

def asked (s : Sketch α) (group : GroupId) (dims : Bool) : List (Constraint α) :=
  s.constraints.toList.filter fun k => k.group == group && !(dims && k.kind.isDimensional)

def Contributes (s : Sketch α) (group : GroupId) (dims : Bool) (c : ConstraintId) : Prop :=
  ∃ k ∈ s.asked group dims, k.id = c ∧ ∃ q qs, s.constraintEquations k = .ok (q :: qs)

theorem writtenOwned {known : ParamId → Option α} {k : Constraint α} :
    ∀ q ∈ s.written known k, q.id.constraint? = some k.id := by
  intro q member
  obtain ⟨q', there, rfl⟩ := List.mem_map.mp member
  exact constraintOwned q' there

theorem buildEquations (built : System.build s group dims = .ok sys) : ∃ known others,
    (∀ q ∈ others, q.id.constraint? = none) ∧ sys.equations = (s.asked group dims).flatMap (s.written known) ++ others := by
  obtain ⟨all, collected, same⟩ := bindOk.mp built
  obtain ⟨drawn, entities, collected⟩ := bindOk.mp collected
  obtain ⟨own, groups, total⟩ := bindOk.mp collected
  cases total
  have substituted : ∃ known : ParamId → Option α, sys.equations =
      (System.constraintEquations s group dims ++ drawn ++ own).map fun q => ⟨q.id, q.expr.substitute known⟩ := by
    cases same
    exact ⟨_, rfl⟩
  obtain ⟨known, whole⟩ := substituted
  refine ⟨known, (drawn ++ own).map fun q => ⟨q.id, q.expr.substitute known⟩, fun q member => ?_, ?_⟩
  · obtain ⟨q', there, rfl⟩ := List.mem_map.mp member
    rcases List.mem_append.mp there with theirs | mine
    · exact entityFree entities q' theirs
    · exact groupFree groups q' mine
  · rw [whole, List.append_assoc, List.map_append, System.constraintEquations, List.map_flatMap]
    rfl

theorem jacobianSize (built : System.build s group dims = .ok sys) (x : Array α) :
    (sys.denseRows (sys.jacobianAt x)).length = sys.equations.length := by
  obtain ⟨all, _, same⟩ := bindOk.mp built
  cases same
  simp [System.denseRows, System.jacobianAt]

theorem rowsOrdered (built : System.build s group dims = .ok sys) (h : s.Consistent) :
    (sys.rowsByConstraint.map Prod.fst).Sublist (s.constraints.toList.map Constraint.id) := by
  obtain ⟨known, others, free, whole⟩ := buildEquations built
  have listed : ((s.asked group dims).map Constraint.id).Sublist (s.constraints.toList.map Constraint.id) :=
    List.filter_sublist.map _
  rw [System.rowsGrouped, whole]
  exact (System.groupedSublist (listed.nodup h.constraints.keysNodup) (fun _ _ => writtenOwned) free 0).trans listed

theorem contributesIff (built : System.build s group dims = .ok sys) (c : ConstraintId) :
    (∃ q ∈ sys.equations, q.id.constraint? = some c) ↔ s.Contributes group dims c := by
  obtain ⟨known, others, free, whole⟩ := buildEquations built
  rw [whole]
  constructor
  · intro ⟨q, member, owner⟩
    rcases List.mem_append.mp member with theirs | other
    · obtain ⟨k, there, wrote⟩ := List.mem_flatMap.mp theirs
      have same : k.id = c := Option.some.inj ((writtenOwned q wrote).symm.trans owner)
      cases result : s.constraintEquations k with
      | error => simp [written, result, Except.toOption] at wrote
      | ok qs =>
        cases qs with
        | nil => simp [written, result, Except.toOption] at wrote
        | cons q qs => exact ⟨k, there, same, q, qs, result⟩
    · rw [free q other] at owner
      cases owner
  · intro ⟨k, there, same, q, qs, result⟩
    have wrote : ⟨q.id, q.expr.substitute known⟩ ∈ s.written known k := by
      simp [written, result, Except.toOption]
    exact ⟨_, List.mem_append_left _ (List.mem_flatMap.mpr ⟨k, there, wrote⟩), same ▸ writtenOwned _ wrote⟩

theorem Solves.flags {u : Sketch α} {g : Group α} {config : SolverConfig α} {clock : Nat → Nat} {outcome : SolveOutcome}
    (h : s.Consistent) (solves : Solves s group g config clock outcome u) :
    (outcome.flagged = [] ∧ (outcome.status ∈ [.skipped, .tooManyUnknowns] ∨ outcome.status = .notConverged ∧
        ∃ e, System.build (s.prune group).2 group g.allDimsReference = .error e)) ∨
      ∃ sys r, System.build (s.prune group).2 group g.allDimsReference = .ok sys ∧
        (sys.unknowns.map u.valueOf).toArray = r.values ∧ System.Flags sys config clock r outcome.status outcome.flagged := by
  cases solves with
  | relaxed => exact .inl ⟨rfl, .inl (by simp)⟩
  | unwritten _ failed => exact .inl ⟨rfl, .inr ⟨rfl, _, failed⟩⟩
  | tooMany => exact .inl ⟨rfl, .inl (by simp)⟩
  | iterated _ built _ start ran =>
    exact .inr ⟨_, _, built, iterateStored h built start ran, System.classifyFlags ..⟩

theorem flaggedExact (s : Sketch α) (consistent : s.Consistent) (group : GroupId) (config : SolverConfig α)
    (clock : Nat → Nat) (timely : ∀ reading, config.expired clock reading = false) :
    let outcome := (s.solveGroup group config clock).1
    let t := (s.solveGroup group config clock).2
    outcome.flagged.Nodup ∧ outcome.flagged.Sublist (s.constraints.toList.map Constraint.id) ∧
      (outcome.status ∉ [.overconstrained, .inconsistent, .notConverged] → outcome.flagged = []) ∧
      (outcome.status ∈ [.overconstrained, .inconsistent] → ∃ g sys, s.groups.get? group = some g ∧
        System.build (s.prune group).2 group g.allDimsReference = .ok sys ∧
        let rows := sys.denseRows (sys.jacobianAt (sys.unknowns.map t.valueOf).toArray)
        ∀ c, c ∈ outcome.flagged ↔ (s.prune group).2.Contributes group g.allDimsReference c ∧
          Rank.of config.rankTolerance (sys.rowsWithout c rows) = Rank.of config.rankTolerance rows) ∧
      (outcome.status = .notConverged → ∃ g, s.groups.get? group = some g ∧
        ((∃ e, System.build (s.prune group).2 group g.allDimsReference = .error e) ∧ outcome.flagged = [] ∨
          ∃ sys, System.build (s.prune group).2 group g.allDimsReference = .ok sys ∧
            ∀ c, c ∈ outcome.flagged ↔ ∃ q ∈ sys.equations, q.id.constraint? = some c ∧
              ¬ Arith.abs (q.expr.eval (sys.lookup (sys.unknowns.map t.valueOf).toArray)) < config.tolerance)) := by
  intro outcome t
  have pruned : (s.prune group).2.Consistent := Adjustments.consistent (pruneGradual s group) consistent
  have left : ((s.prune group).2.constraints.toList.map Constraint.id).Sublist (s.constraints.toList.map Constraint.id) :=
    (deleteConstraintsThin consistent _).2.map _
  cases found : s.groups.get? group with
  | none =>
    have same : outcome = {} := congrArg Prod.fst (solveGroupMissing found)
    simp [same]
  | some g =>
    obtain ⟨u, solves, result⟩ := solveGroupCases found config clock
    have values : t.valueOf = u.valueOf := recordedValue result
    rw [values]
    change Solves s group g config clock outcome u at solves
    rcases solves.flags consistent with ⟨none, idle⟩ | ⟨sys, r, built, stored, flags⟩
    · generalize outcome.status = status, outcome.flagged = flagged at none idle
      subst none
      refine ⟨.nil, List.nil_sublist _, fun _ => rfl, fun deficient => ?_, fun failed => ⟨g, rfl, ?_⟩⟩
      · rcases idle with other | ⟨other, _⟩
        · cases status <;> simp at deficient other
        · rw [other] at deficient
          simp at deficient
      · rcases idle with other | ⟨_, error⟩
        · rw [failed] at other
          simp at other
        · exact .inl ⟨error, rfl⟩
    · have order := rowsOrdered built pruned
      have listed := (flags.ordered timely).trans order
      obtain ⟨nothing, dependent, above⟩ :=
        flags.exact timely (order.nodup pruned.constraints.keysNodup) (jacobianSize built _)
      refine ⟨listed.nodup pruned.constraints.keysNodup, listed.trans left, nothing, fun deficient => ?_, fun failed => ?_⟩
      · refine ⟨g, sys, rfl, built, ?_⟩
        rw [stored]
        intro rows c
        rw [dependent deficient c, contributesIff built]
      · refine ⟨g, rfl, .inr ⟨sys, built, ?_⟩⟩
        rw [stored]
        exact above failed

def sheet : Group Float := { id := ⟨1⟩, name := "drawing", kind := .inXY }

def wheel (n : Nat) : Request := ⟨⟨n⟩, ⟨1⟩, some (.predefined ⟨1⟩ 0), .circle, false⟩

def wheelSize (c r : Nat) (d : Float) : Constraint Float :=
  ⟨⟨c⟩, ⟨1⟩, none, .diameter (wheel r).entity d, false⟩

/- Two circles in a plane. The first has its diameter twice, so that neither of these two dimensions adds to the rank. -/
def wheels : Sketch Float where
  groups := .ofList [sheet]
  requests := .ofList [wheel 1, wheel 2]
  entities := .ofList (fixtures sheet ++ (wheel 1).entities ++ (wheel 2).entities)
  params := .ofList
    [⟨.request ⟨1⟩ 0, ⟨1⟩, 0.0⟩, ⟨.request ⟨1⟩ 1, ⟨1⟩, 0.0⟩, ⟨.request ⟨1⟩ 2, ⟨1⟩, 2.0⟩,
      ⟨.request ⟨2⟩ 0, ⟨1⟩, 9.0⟩, ⟨.request ⟨2⟩ 1, ⟨1⟩, 0.0⟩, ⟨.request ⟨2⟩ 2, ⟨1⟩, 3.0⟩]
  constraints := .ofList [wheelSize 1 1 4.0, wheelSize 2 2 6.0, wheelSize 3 1 4.0]
  nextGroup := 2
  nextRequest := 3
  nextConstraint := 4

def wheelEquation (c r : Nat) (d : Float) : Equation Float :=
  ⟨.constraint ⟨c⟩ 0, .difference (.product (.const 2.0) (.param (.request ⟨r⟩ 2))) (.const d)⟩

def wheelSlope : Expr Float := .const (0.0 + 2.0 * 1.0 - 0.0)

def wheelSystem : System Float where
  unknowns := wheels.params.toList.map Param.id
  index := System.columns (wheels.params.toList.map Param.id)
  equations := [wheelEquation 1 1 4.0, wheelEquation 2 2 6.0, wheelEquation 3 1 4.0]
  jacobian := [[(2, wheelSlope)], [(5, wheelSlope)], [(2, wheelSlope)]]

theorem wheelsConsistent : wheels.Consistent where
  groups := Registry.ofListConsistent (by decide)
  requests := Registry.ofListConsistent (by decide)
  constraints := Registry.ofListConsistent (by decide)
  entities := Registry.ofListConsistent (by decide)
  params := Registry.ofListConsistent (by decide)

theorem wheelThere {e : Entity Float} (i : Nat) (place : wheels.entities.toList[i]? = some e) :
    wheels.entity e.id = .ok e :=
  entityFound.mpr (wheelsConsistent.entities.getOfMem (List.mem_of_getElem? place))

theorem wheelsPruned : (wheels.prune ⟨1⟩).2 = wheels := by
  have there {e : Entity Float} (i : Nat) (place : wheels.entities.toList[i]? = some e) :
      wheels.hasEntity e.id = true :=
    wheelsConsistent.entities.containsIff.mpr ⟨e, entityFound.mp (wheelThere i place)⟩
  have none : (wheels.prune ⟨1⟩).1 = [] := by
    refine List.map_eq_nil_iff.mpr (List.filter_eq_nil_iff.mpr fun c member => ?_)
    have first : wheels.hasEntity (wheel 1).entity = true := there 6 rfl
    have second : wheels.hasEntity (wheel 2).entity = true := there 10 rfl
    rw [wheels, Registry.toListOfList] at member
    simp only [List.mem_cons, List.not_mem_nil, or_false] at member
    rcases member with rfl | rfl | rfl <;>
      simp [wheelSize, Constraint.references, ConstraintKind.references, first, second]
  change wheels.deleteConstraints (wheels.prune ⟨1⟩).1 = wheels
  rw [none]
  rfl

theorem wheelWritten (c i j : Nat) {r : Nat} {d : Float} (nonzero : (d == 0.0) = false)
    (circle : wheels.entities.toList[i]? = some ((wheel r).part (wheel r).entity
      (.circle ((wheel r).point 0) (wheel r).normal (wheel r).distance)))
    (distance : wheels.entities.toList[j]? =
      some ((wheel r).part (wheel r).distance (.distance ((wheel r).param 2)))) :
    wheels.constraintEquations (wheelSize c r d) = .ok [wheelEquation c r d] := by
  have radius : wheels.radiusExpr (wheel r).entity = .ok (.param (.request ⟨r⟩ 2)) :=
    bindOk.mpr ⟨_, wheelThere i circle, bindOk.mpr ⟨_, wheelThere j distance, rfl⟩⟩
  have equation : (Expr.const 2.0 * .param (.request ⟨r⟩ 2) - .const d : Expr Float) = (wheelEquation c r d).expr :=
    if_neg (by rw [nonzero]; decide)
  refine bindOk.mpr ⟨_, rfl, bindOk.mpr ⟨[(wheelEquation c r d).expr], ?_, rfl⟩⟩
  refine bindOk.mpr ⟨.param (.request ⟨r⟩ 2), ?_, ?_⟩
  · change (wheels.radiusExpr (wheel r).entity).mapError _ = _
    rw [radius]
    rfl
  · exact congrArg (fun e => Except.ok [e]) equation

theorem wheelColumn {p : ParamId} {i : Nat} (place : wheelSystem.unknowns[i]? = some p) :
    wheelSystem.index[p]? = some i :=
  (System.columnsAt (by decide)).mpr place

theorem wheelSubstituted {known : ParamId → Option Float} (c : Nat) {r : Nat} {d : Float} (nonzero : (d == 0.0) = false)
    (free : known (.request ⟨r⟩ 2) = none) :
    (⟨(wheelEquation c r d).id, (wheelEquation c r d).expr.substitute known⟩ : Equation Float) = wheelEquation c r d := by
  have kept : (wheelEquation c r d).expr.substitute known = (wheelEquation c r d).expr := by
    simp only [wheelEquation, Expr.substitute, free]
    exact if_neg (by rw [nonzero]; decide)
  rw [kept]

theorem wheelDerived (c : Nat) {r i : Nat} (d : Float) (place : wheelSystem.unknowns[i]? = some (.request ⟨r⟩ 2)) :
    System.derivatives wheelSystem.index (wheelEquation c r d).expr = [(i, wheelSlope)] := by
  have gone : (.const 0.0 * .param (.request ⟨r⟩ 2) : Expr Float) = .const 0.0 := rfl
  have slope : (wheelEquation c r d).expr.partialIn (.request ⟨r⟩ 2) = wheelSlope := by
    simp only [wheelEquation, Expr.partialIn, Expr.dependsOn, BEq.rfl, Bool.or_true, Bool.true_or, if_true, gone]
    rfl
  change [ParamId.request ⟨r⟩ 2].filterMap _ = _
  rw [List.filterMap_cons, wheelColumn place]
  change [(i, (wheelEquation c r d).expr.partialIn _)] = _
  rw [slope]

theorem wheelsBuilt : System.build wheels ⟨1⟩ false = .ok wheelSystem := by
  have written : System.constraintEquations wheels ⟨1⟩ false = wheelSystem.equations := by
    change [_, _, _].flatMap (fun c => (wheels.constraintEquations c).toOption.getD []) = _
    rw [List.flatMap_cons, wheelWritten 1 6 5 (by decide) rfl rfl, List.flatMap_cons,
      wheelWritten 2 10 9 (by decide) rfl rfl, List.flatMap_cons, wheelWritten 3 6 5 (by decide) rfl rfl]
    rfl
  have drawn : wheels.entityEquations ⟨1⟩ = .ok [] := rfl
  have own : wheels.groupEquations ⟨1⟩ = .ok [] :=
    bindOk.mpr ⟨sheet, groupFound.mpr (wheelsConsistent.groups.getOfMem List.mem_cons_self), rfl⟩
  let known (p : ParamId) := if wheelSystem.index.contains p then none else some (wheels.valueOf p)
  have free {p : ParamId} {i : Nat} (place : wheelSystem.unknowns[i]? = some p) : known p = none :=
    if_pos (by rw [Std.HashMap.contains_eq_isSome_getElem?, wheelColumn place]; rfl)
  let put (q : Equation Float) : Equation Float := ⟨q.id, q.expr.substitute known⟩
  have substituted : wheelSystem.equations.map put = wheelSystem.equations := by
    have first : put (wheelEquation 1 1 4.0) = _ := wheelSubstituted 1 (by decide) (free (i := 2) rfl)
    have second : put (wheelEquation 2 2 6.0) = _ := wheelSubstituted 2 (by decide) (free (i := 5) rfl)
    have third : put (wheelEquation 3 1 4.0) = _ := wheelSubstituted 3 (by decide) (free (i := 2) rfl)
    change [_, _, _] = [_, _, _]
    rw [first, second, third]
  have derived : wheelSystem.equations.map (fun q => System.derivatives wheelSystem.index q.expr) =
      wheelSystem.jacobian := by
    change [_, _, _].map _ = [_, _, _]
    simp only [List.map_cons, List.map_nil]
    rw [wheelDerived 1 4.0 (i := 2) rfl, wheelDerived 2 6.0 (i := 5) rfl, wheelDerived 3 4.0 (i := 2) rfl]
  refine bindOk.mpr ⟨_, bindOk.mpr ⟨_, drawn, bindOk.mpr ⟨_, own, rfl⟩⟩, ?_⟩
  rw [List.append_nil, List.append_nil, written]
  change Except.ok (System.mk wheelSystem.unknowns wheelSystem.index (wheelSystem.equations.map put)
    ((wheelSystem.equations.map put).map fun q => System.derivatives wheelSystem.index q.expr)) = _
  rw [substituted, derived]

def wheelValues : Array Float := #[0.0, 0.0, 2.0, 9.0, 0.0, 3.0]

theorem wheelsStart : (wheelSystem.unknowns.map wheels.valueOf).toArray = wheelValues := by
  have values : wheelSystem.unknowns.map wheels.valueOf = wheels.params.toList.map Param.value := by
    rw [wheelSystem, List.map_map]
    refine List.map_congr_left fun p member => ?_
    have there : wheels.params.get? p.id = some p := wheelsConsistent.params.getOfMem member
    simp [valueOf, there]
  rw [values]
  rfl

theorem wheelResidual (c : Nat) {r i : Nat} {d v : Float} (place : wheelSystem.unknowns[i]? = some (.request ⟨r⟩ 2))
    (value : wheelValues[i]? = some v) :
    (wheelEquation c r d).expr.eval (wheelSystem.lookup wheelValues) = 2.0 * v - d := by
  simp only [wheelEquation, Expr.eval, System.lookup, wheelColumn place, Option.bind_some, value, Option.getD_some]

theorem wheelsAtRest : wheelSystem.iterate .standard (fun _ => 0) 50 0 wheelValues wheelValues =
    ⟨wheelValues, .converged, 0, 0⟩ := by
  have residuals : wheelSystem.residuals wheelValues = [2.0 * 2.0 - 4.0, 2.0 * 3.0 - 6.0, 2.0 * 2.0 - 4.0] := by
    change [_, _, _].map _ = _
    simp only [List.map_cons, List.map_nil]
    rw [wheelResidual 1 (i := 2) rfl rfl, wheelResidual 2 (i := 5) rfl rfl, wheelResidual 3 (i := 2) rfl rfl]
    rfl
  unfold System.iterate
  simp only [residuals]
  rw [if_neg (by decide +kernel), if_pos (by decide +kernel)]

theorem wheelsSolved : (wheels.solveGroup ⟨1⟩ .standard fun _ => 0).1 = ⟨.overconstrained, 4, [⟨1⟩, ⟨3⟩], 0⟩ := by
  have found : wheels.groups.get? ⟨1⟩ = some sheet := wheelsConsistent.groups.getOfMem List.mem_cons_self
  have enforced : sheet.relaxConstraints = false := rfl
  have built : System.build (wheels.prune ⟨1⟩).2 ⟨1⟩ sheet.allDimsReference = .ok wheelSystem := by
    rw [wheelsPruned]
    exact wheelsBuilt
  simp only [solveGroup, found, enforced, built, Bool.false_eq_true, if_false]
  rw [wheelsPruned, solveSystem, if_neg (by decide), wheelsStart]
  change wheelSystem.classify _ _ _ (wheelSystem.iterate .standard _ 50 0 wheelValues wheelValues) = _
  rw [wheelsAtRest]
  decide +kernel

theorem wheelsFlagged :
    (∀ reading, (.standard : SolverConfig Float).expired (fun _ => 0) reading = false) ∧ wheels.Consistent ∧
      let outcome := (wheels.solveGroup ⟨1⟩ .standard fun _ => 0).1
      let t := (wheels.solveGroup ⟨1⟩ .standard fun _ => 0).2
      outcome.status = .overconstrained ∧ outcome.flagged = [⟨1⟩, ⟨3⟩] ∧
        outcome.flagged.Nodup ∧ outcome.flagged.Sublist [⟨1⟩, ⟨2⟩, ⟨3⟩] ∧
        ∃ g sys, wheels.groups.get? ⟨1⟩ = some g ∧
          System.build (wheels.prune ⟨1⟩).2 ⟨1⟩ g.allDimsReference = .ok sys ∧
          let rows := sys.denseRows (sys.jacobianAt (sys.unknowns.map t.valueOf).toArray)
          ∀ c, c ∈ outcome.flagged ↔ (wheels.prune ⟨1⟩).2.Contributes ⟨1⟩ g.allDimsReference c ∧
            Rank.of 1e-8 (sys.rowsWithout c rows) = Rank.of 1e-8 rows := by
  have timely (reading : Nat) : (.standard : SolverConfig Float).expired (fun _ => 0) reading = false := rfl
  have status : (wheels.solveGroup ⟨1⟩ .standard fun _ => 0).1.status = .overconstrained := by rw [wheelsSolved]
  have exact := flaggedExact wheels wheelsConsistent ⟨1⟩ .standard (fun _ => 0) timely
  refine ⟨timely, wheelsConsistent, status, by rw [wheelsSolved], exact.1, exact.2.1, ?_⟩
  exact exact.2.2.2.1 (status ▸ List.mem_cons_self)

end Sketch
end Drafting
