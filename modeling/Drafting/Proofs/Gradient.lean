import Drafting.Proofs.Expression
import Drafting.Proofs.Solve
/-! A system is written over its own unknowns. The other parameters of its equations are put in with their values, so
every row of the Jacobian has the derivatives in just the unknowns that its equation mentions, and only these are
ever looked up. -/
namespace Drafting.System
open Drafting.Expr

theorem columnsFrom {unknowns : List ParamId} (distinct : unknowns.Nodup) (m : Std.HashMap ParamId Nat) (start : Nat)
    (p : ParamId) : ((unknowns.zipIdx start).foldl (fun m (p, i) => m.insert p i) m)[p]? =
      if p ∈ unknowns then some (start + unknowns.idxOf p) else m[p]? := by
  induction unknowns generalizing m start with
  | nil => simp
  | cons q rest ih =>
    obtain ⟨fresh, distinct⟩ := List.nodup_cons.mp distinct
    rw [List.zipIdx_cons, List.foldl_cons, ih distinct, Std.HashMap.getElem?_insert]
    by_cases same : q = p
    · obtain rfl := same
      simp [fresh]
    · simp [same, Ne.symm same, Nat.add_assoc, Nat.add_comm 1]

theorem columnsAt {unknowns : List ParamId} (distinct : unknowns.Nodup) {p : ParamId} {i : Nat} :
    (columns unknowns)[p]? = some i ↔ unknowns[i]? = some p := by
  rw [columns, columnsFrom distinct, Nat.zero_add]
  constructor
  · intro found
    split at found
    · rename_i member
      obtain rfl := Option.some.inj found
      exact List.getElem?_eq_some_iff.mpr ⟨List.idxOf_lt_length_iff.mpr member, List.getElem_idxOf _⟩
    · simp at found
  · intro place
    obtain ⟨inside, rfl⟩ := List.getElem?_eq_some_iff.mp place
    rw [if_pos (List.getElem_mem inside), distinct.idxOf_getElem]

section Rows
variable [Scalar α] {unknowns : List ParamId} {e : Expr α} {row : List (Nat × Expr α)} {sys : System α}

/-- A row has one entry for every unknown that an expression mentions, with the derivative in it, and no others. -/
structure Gradient (unknowns : List ParamId) (e : Expr α) (row : List (Nat × Expr α)) : Prop where
  mentioned : ∀ p ∈ e.params, p ∈ unknowns
  once : (row.map Prod.fst).Nodup
  entries : ∀ column, column ∈ row.map Prod.fst ↔ ∃ p ∈ e.params, unknowns[column]? = some p
  slopes : ∀ column d, (column, d) ∈ row →
    ∃ p, unknowns[column]? = some p ∧ d = e.partialIn p ∧ ∀ q ∈ d.params, q ∈ e.params

theorem partialMentions (p : ParamId) {q : ParamId} (mentioned : q ∈ (e.partialIn p).params) : q ∈ e.params :=
  overIff.mp (overPartial (P := (· ∈ e.params)) p (overIff.mpr fun _ => id)) q mentioned

theorem derivativesGradient (distinct : unknowns.Nodup) (within : e.Over (· ∈ unknowns)) :
    Gradient unknowns e (derivatives (columns unknowns) e) := by
  have mentioned := overIff.mp within
  have entry (column : Nat) (d : Expr α) : (column, d) ∈ derivatives (columns unknowns) e ↔
      ∃ p ∈ e.params, unknowns[column]? = some p ∧ d = e.partialIn p := by
    simp only [derivatives, List.mem_filterMap, Option.map_eq_some_iff, Prod.mk.injEq, columnsAt distinct]
    grind
  constructor
  case mentioned => exact mentioned
  case once =>
    rw [derivatives, List.map_filterMap]
    refine (paramsNodup e).filterMap fun p q column first second => ?_
    simp only [Option.map_map, Option.mem_def, Option.map_eq_some_iff, Function.comp_apply,
      columnsAt distinct] at first second
    obtain ⟨i, place, rfl⟩ := first
    obtain ⟨j, place', rfl⟩ := second
    exact Option.some.inj (place.symm.trans place')
  case entries =>
    intro column
    rw [List.mem_map]
    constructor
    · rintro ⟨⟨_, d⟩, member, rfl⟩
      obtain ⟨p, there, place, _⟩ := (entry _ d).mp member
      exact ⟨p, there, place⟩
    · rintro ⟨p, there, place⟩
      exact ⟨(column, e.partialIn p), (entry ..).mpr ⟨p, there, place, rfl⟩, rfl⟩
  case slopes =>
    intro column d member
    obtain ⟨p, _, place, rfl⟩ := (entry column d).mp member
    exact ⟨p, place, rfl, fun q => partialMentions p⟩

/-- What a row is worth at `x` is decided by the coordinates of the unknowns that its equation mentions: it has the
values of the equation and of its derivatives there, and no other coordinate changes these. -/
structure Reads (sys : System α) (i : Nat) (q : Equation α) (row : List (Nat × Expr α)) : Prop where
  valued : ∀ (x : Array α) (f : ParamId → α),
    (∀ (column : Nat) (p : ParamId), sys.unknowns[column]? = some p → p ∈ q.expr.params → x[column]? = some (f p)) →
    (sys.residuals x)[i]? = some (q.expr.eval f) ∧
      (sys.jacobianAt x)[i]? = some (row.map fun (column, d) => (column, d.eval f))
  confined : ∀ x y : Array α,
    (∀ (column : Nat) (p : ParamId), sys.unknowns[column]? = some p → p ∈ q.expr.params → x[column]? = y[column]?) →
    (sys.residuals x)[i]? = (sys.residuals y)[i]? ∧ (sys.jacobianAt x)[i]? = (sys.jacobianAt y)[i]?

end Rows

section Build
variable [Scalar α] {s : Sketch α} {group : GroupId} {dims : Bool} {sys : System α} {q : Equation α}
  {row : List (Nat × Expr α)} {x y : Array α} {i : Nat}

theorem buildParts (built : build s group dims = .ok sys) : sys.index = columns sys.unknowns ∧
    sys.jacobian = sys.equations.map (fun q => derivatives sys.index q.expr) ∧
    ∀ q ∈ sys.equations, ∃ e : Expr α, q.expr =
      e.substitute fun p => if sys.index.contains p then none else some (s.valueOf p) := by
  obtain ⟨qs, _, same⟩ := Result.bindOk.mp built
  cases same
  refine ⟨rfl, rfl, fun q member => ?_⟩
  obtain ⟨q, _, rfl⟩ := List.mem_map.mp member
  exact ⟨q.expr, rfl⟩

theorem columnsHas {unknowns : List ParamId} (distinct : unknowns.Nodup) {p : ParamId}
    (has : (columns unknowns).contains p = true) : p ∈ unknowns := by
  rw [Std.HashMap.contains_eq_isSome_getElem?] at has
  obtain ⟨i, place⟩ := Option.isSome_iff_exists.mp has
  exact List.mem_of_getElem? ((columnsAt distinct).mp place)

theorem builtOver (distinct : sys.unknowns.Nodup) (built : build s group dims = .ok sys) (member : q ∈ sys.equations) :
    q.expr.Over (· ∈ sys.unknowns) := by
  obtain ⟨index, _, written⟩ := buildParts built
  obtain ⟨e, same⟩ := written q member
  rw [same]
  refine overSubstitute (P := fun _ => True) (overIff.mpr fun _ _ => trivial) fun p _ unknown => ?_
  have has : sys.index.contains p = true := by
    by_contra other
    simp [other] at unknown
  exact columnsHas distinct (index ▸ has)

theorem rowValues (place : sys.equations[i]? = some q) (beside : sys.jacobian[i]? = some row)
    (gradient : Gradient sys.unknowns q.expr row) {f : ParamId → α} (same : ∀ p ∈ q.expr.params, sys.lookup x p = f p) :
    (sys.residuals x)[i]? = some (q.expr.eval f) ∧
      (sys.jacobianAt x)[i]? = some (row.map fun (column, d) => (column, d.eval f)) := by
  have agree {e : Expr α} (within : ∀ p ∈ e.params, p ∈ q.expr.params) : e.eval (sys.lookup x) = e.eval f :=
    evalCongr (overIff.mpr within) same
  constructor
  · rw [residuals, List.getElem?_map, place, Option.map_some, agree fun _ => id]
  · rw [jacobianAt, List.getElem?_map, beside, Option.map_some]
    refine congrArg some (List.map_congr_left fun (column, d) member => ?_)
    obtain ⟨_, _, _, within⟩ := gradient.slopes column d member
    exact congrArg (Prod.mk column) (agree within)

theorem lookupAt (distinct : sys.unknowns.Nodup) (index : sys.index = columns sys.unknowns) {p : ParamId} {column : Nat}
    (place : sys.unknowns[column]? = some p) : sys.lookup x p = x[column]?.getD Scalar.undefined := by
  rw [lookup, index, (columnsAt distinct).mpr place]
  rfl

theorem builtReads (distinct : sys.unknowns.Nodup) (index : sys.index = columns sys.unknowns)
    (place : sys.equations[i]? = some q) (beside : sys.jacobian[i]? = some row)
    (gradient : Gradient sys.unknowns q.expr row) : Reads sys i q row := by
  have columnOf (p : ParamId) (mentioned : p ∈ q.expr.params) : ∃ column : Nat, sys.unknowns[column]? = some p :=
    List.mem_iff_getElem?.mp (gradient.mentioned p mentioned)
  constructor
  case valued =>
    refine fun x f values => rowValues place beside gradient fun p mentioned => ?_
    obtain ⟨column, there⟩ := columnOf p mentioned
    rw [lookupAt distinct index there, values column p there mentioned, Option.getD_some]
  case confined =>
    intro x y agree
    have same (p : ParamId) (mentioned : p ∈ q.expr.params) : sys.lookup x p = sys.lookup y p := by
      obtain ⟨column, there⟩ := columnOf p mentioned
      rw [lookupAt distinct index there, lookupAt distinct index there, agree column p there mentioned]
    obtain ⟨residual, slopes⟩ := rowValues place beside gradient same
    obtain ⟨residual', slopes'⟩ := rowValues place beside gradient (f := sys.lookup y) fun _ _ => rfl
    exact ⟨residual.trans residual'.symm, slopes.trans slopes'.symm⟩

theorem builtClosed (s : Sketch α) (distinct : s.params.keys.Nodup) (built : build s group dims = .ok sys) :
    sys.unknowns = (s.params.toList.filter (·.group == group)).map Param.id ∧ sys.unknowns.Nodup ∧
      sys.jacobian.length = sys.equations.length ∧
      ∀ (i : Nat) (q : Equation α) (row : List (Nat × Expr α)), sys.equations[i]? = some q → sys.jacobian[i]? = some row →
        Gradient sys.unknowns q.expr row ∧ Reads sys i q row := by
  have unknowns := Sketch.buildUnknowns built
  have once : sys.unknowns.Nodup := unknowns ▸ (List.filter_sublist.map Param.id).nodup distinct
  obtain ⟨index, each, _⟩ := buildParts built
  refine ⟨unknowns, once, by rw [each, List.length_map], fun i q row place beside => ?_⟩
  have gradient : Gradient sys.unknowns q.expr row := by
    rw [each, List.getElem?_map, place] at beside
    obtain rfl := Option.some.inj beside
    exact index ▸ derivativesGradient once (builtOver once built (List.mem_of_getElem? place))
  exact ⟨gradient, builtReads once index place beside gradient⟩

theorem heldPointEquations {sys : System Float} (built : build Sketch.heldPoint ⟨1⟩ false = .ok sys) :
    3 ≤ sys.equations.length := by
  have held : Sketch.heldPoint.entity (.request ⟨1⟩ 0) = .ok _ :=
    Sketch.entityFound.mpr (Sketch.heldPointConsistent.entities.getIff.mpr ⟨List.mem_cons_self, rfl⟩)
  have written : (constraintEquations Sketch.heldPoint ⟨1⟩ false).length = 3 := by
    change ((Sketch.heldPoint.constraintEquations
      ⟨⟨1⟩, ⟨1⟩, none, .whereDragged (.request ⟨1⟩ 0), false⟩).toOption.getD [] ++ []).length = 3
    simp [Sketch.constraintEquations, Sketch.measuredEquations, Setting.of, Setting.residuals, held]
    rfl
  obtain ⟨_, collected, same⟩ := Result.bindOk.mp built
  obtain ⟨entities, _, collected⟩ := Result.bindOk.mp collected
  obtain ⟨own, _, joined⟩ := Result.bindOk.mp collected
  cases same
  cases joined
  simp [written]

theorem heldPointClosed : ∃ sys : System Float, build Sketch.heldPoint ⟨1⟩ false = .ok sys ∧
    sys.unknowns = [.request ⟨1⟩ 0, .request ⟨1⟩ 1, .request ⟨1⟩ 2] ∧ 3 ≤ sys.jacobian.length ∧
    ∀ (i : Nat) (q : Equation Float) (row : List (Nat × Expr Float)),
      sys.equations[i]? = some q → sys.jacobian[i]? = some row →
        Gradient sys.unknowns q.expr row ∧ Reads sys i q row := by
  obtain ⟨sys, built⟩ := Sketch.heldPointBuilt
  obtain ⟨unknowns, _, beside, rows⟩ := builtClosed Sketch.heldPoint (by decide) built
  exact ⟨sys, built, unknowns, beside ▸ heldPointEquations built, rows⟩

end Build
end Drafting.System
