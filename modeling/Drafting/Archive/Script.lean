import Drafting.Archive.Config
import Drafting.Archive.Sketch
import Drafting.Session.Command
import Drafting.Session.Query
/-! Commands and queries as records with a field `do`. In them a handle that may be missing stands
without a wrapper. -/
namespace Drafting
open Archive Value

namespace Archive.Value

def nullable? (read : Value α → Option τ) : Value α → Option (Option τ)
  | word "None" => some none
  | v => (read v).map some

def numbers? [Scalar α] : Value α → Option (List α)
  | list vs | tuple "" vs => vs.mapM number?
  | _ => none

end Archive.Value

def Axis.ofWords? [Scalar α] : Value α → Option (Axis α)
  | .word "x" => some .x
  | .word "y" => some .y
  | .word "z" => some .z
  | .list [o, d] => do return .through (← Vec3.ofValue? number? o) (← Vec3.ofValue? number? d)
  | _ => none

def GroupKind.ofScript? [Scalar α] (parts : List (String × ShellId)) : Value α → Option (GroupKind α)
  | .word "xy" => some .inXY
  | .word "extrude" => some .straightExtrude
  | .record "" [("plane", .list [o, q])] => do
    return .inPlane (← Vec3.ofValue? number? o) (← Quat.ofValue? q)
  | .record "" [("translate", .integer n)] => some (.copiesAlong n)
  | .record "" [("lathe", a)] => (Axis.ofWords? a).map .lathe
  | .record "" [("revolve", a)] => (Axis.ofWords? a).map .revolve
  | .record "Linked" fs => do
    let part (v : Value α) := v.text?.bind fun s => parts.lookup s <|> ShellId.ofText? s
    return .linked (← field fs "points" (list? (Vec3.ofValue? number?)))
      (← fieldD fs "shell" none (nullable? part))
  | v => ofValue? v

def GroupChange.ofField? [Scalar α] (parts : List (String × ShellId)) (key : String) (v : Value α) :
    Option (GroupChange α) :=
  match key with
  | "op_a" => (v.nullable? GroupId.ofValue?).map source
  | "op_b" => (v.nullable? GroupId.ofValue?).map after
  | "workplane" => (v.nullable? EntityId.ofValue?).map workplane
  | "combine" => (v.const? CombineAs.names).map combine
  | "visible" => v.flag?.map visible
  | "suppress" => v.flag?.map suppress
  | "relax_constraints" => v.flag?.map relaxConstraints
  | "allow_redundant" => v.flag?.map allowRedundant
  | "all_dims_reference" => v.flag?.map allDimsReference
  | "kind" => (GroupKind.ofScript? parts v).map kind
  | "name" => v.text?.map name
  | _ => none

def RadiusPolicy.ofValue? [Scalar α] : Value α → Option (RadiusPolicy α)
  | .word "None" => some (.auto 1.0)
  | .record "" [("Fixed", v)] => v.number?.map .fixed
  | .record "Auto" [("view_scale", v)] => v.number?.map .auto
  | _ => none

def RoundingMode.names : List (RoundingMode × String) := [(modify, "Modify"), (duplicate, "Duplicate")]

def Triangle.ofValue? [Scalar α] : Value α → Option (Triangle α)
  | .list [a, b, c] => do
    return ⟨← Vec3.ofValue? number? a, ← Vec3.ofValue? number? b, ← Vec3.ofValue? number? c⟩
  | _ => none

structure Fields (α : Type) where
  fields : List (String × Value α)

namespace Fields
variable [Scalar α] (f : Fields α)

def name? : Option String := field f.fields "do" fun v => match v with
  | .word w => some w
  | _ => none
def group : Option GroupId := field f.fields "group" GroupId.ofValue?
def constraint : Option ConstraintId := field f.fields "constraint" ConstraintId.ofValue?
def request : Option RequestId := field f.fields "request" RequestId.ofValue?
def param : Option ParamId := field f.fields "param" ParamId.ofValue?
def entity (key : String) : Option EntityId := field f.fields key EntityId.ofValue?
def workplane : Option (Option EntityId) := fieldD f.fields "workplane" none (nullable? EntityId.ofValue?)
def vector (key : String) : Option (Vec3 α) := field f.fields key (Vec3.ofValue? number?)
def rotation (key : String) : Option (Quat α) := field f.fields key Quat.ofValue?
def number (key : String) : Option α := field f.fields key number?
def text (key : String) : Option String := field f.fields key text?
def flag (key : String) : Bool := (field f.fields key flag?).getD false
def kind : Option (ConstraintKind α) := field f.fields "kind" ConstraintKind.ofValue?

def config (standard : τ) (read : Value α → Option τ) : Option τ :=
  (fieldD f.fields "config" none (nullable? read)).map (·.getD standard)

end Fields

namespace Command
variable [Scalar α]

def ofFields? (parts : List (String × ShellId)) (f : Fields α) : Option (Command α) := do
  match ← f.name? with
  | "add_group" =>
    let name ← fieldD f.fields "name" none (nullable? text?)
    return addGroup (name.getD "g") (← field f.fields "kind" (GroupKind.ofScript? parts))
      (← fieldD f.fields "op_a" none (nullable? GroupId.ofValue?))
  | "set_group" =>
    let changes ← field f.fields "set" record?
    return changeGroup (← f.group) (← changes.mapM fun (k, v) => GroupChange.ofField? parts k v)
  | "mark_dirty" => return markDirty (← f.group)
  | "import" =>
    return importPart (← f.text "as") (← fieldD f.fields "triangles" [] (list? Triangle.ofValue?))
  | "null_kernel" => return withoutKernel
  | "add_request" =>
    return addRequest (← f.group) (← field f.fields "kind" (const? RequestKind.names)) (← f.workplane)
      (f.flag "construction")
  | "add_point" => return addPoint (← f.group) (← f.workplane) (← f.vector "at")
  | "add_line" => return addLine (← f.group) (← f.workplane) (← f.vector "a") (← f.vector "b")
  | "add_circle" => return addCircle (← f.group) (← f.workplane) (← f.vector "center") (← f.number "radius")
  | "add_arc" =>
    return addArc (← f.group) (← f.workplane) (← f.vector "center") (← f.vector "start") (← f.vector "finish")
  | "add_cubic" =>
    match ← field f.fields "points" (list? (Vec3.ofValue? number?)) with
    | [p0, p1, p2, p3] => return addCubic (← f.group) (← f.workplane) p0 p1 p2 p3
    | _ => none
  | "add_workplane" => return addWorkplane (← f.group) (← f.vector "origin") (← f.rotation "orientation")
  | "add_constraint" => return addConstraint (← f.group) (← f.workplane) (← f.kind) false
  | "add_reference" => return addConstraint (← f.group) (← f.workplane) (← f.kind) true
  | "add_tangent" => return addTangent (← f.group) (← f.workplane) (← f.entity "a") (← f.entity "b")
  | "modify_to_satisfy" => return remeasure (← f.constraint)
  | "improve_guess" => return improveGuess (← f.constraint)
  | "set_value" => return setValue (← f.constraint) (← f.number "value")
  | "delete_constraint" => return deleteConstraint (← f.constraint)
  | "delete_request" => return deleteRequest (← f.request)
  | "set_construction" => return setConstruction (← f.request) (f.flag "construction")
  | "replace_point" => return replacePoint (← f.entity "old") (← f.entity "new")
  | "remove_constraints_for_point" => return removeConstraintsFor (← f.entity "point")
  | "fix_point" => return detachPoint (← f.entity "point")
  | "prune" => return prune (← f.group)
  | "force_point" => return forcePoint (← f.entity "point") (← f.vector "at")
  | "force_normal" => return forceNormal (← f.entity "normal") (← f.rotation "orientation")
  | "force_distance" => return forceDistance (← f.entity "distance") (← f.number "value")
  | "set_param" => return setParam (← f.param) (← f.number "value")
  | "constrain_if_coincident" => return joinIfCoincident (← f.entity "point")
  | "tangent_arc" =>
    let mode ← fieldD f.fields "mode" none (nullable? (const? RoundingMode.names))
    return roundCorner (← f.entity "point") {
      mode := mode.getD .modify
      radius := ← fieldD f.fields "radius" (.auto 1.0) RadiusPolicy.ofValue?
      config := ← f.config .standard RoundingConfig.ofValue? }
  | "split" =>
    let a ← f.entity "a"
    let selection ← match ← fieldD f.fields "b" none (nullable? EntityId.ofValue?) with
      | some b => pure (SplitSelection.pair a b)
      | none => do pure (.atPoint a (← f.entity "point"))
    return split selection (← f.vector "hint")
  | "solve" => return solve (← f.group) (← f.config .standard SolverConfig.ofValue?)
  | "regen_all" => return regenerateAll
  | "regen_from" => return regenerateFrom (← f.group)
  | "snapshot" => return snapshot (← f.text "as")
  | "restore" => return restore (← f.text "from")
  | "reset" => return reset
  | _ => none

def ofValue? (parts : List (String × ShellId)) (v : Value α) : Option (Command α) := do
  ofFields? parts ⟨← v.record?⟩

end Command

namespace Query
variable [Scalar α]

def ofFields? (f : Fields α) : Option (Query α) := do
  let e := f.entity "entity"
  match ← f.name? with
  | "validate" => return validate (← f.group) (← f.workplane) (← f.kind)
  | "tangent_between" => return tangentBetween (← f.entity "a") (← f.entity "b")
  | "equations" => return equations (← f.constraint) (f.flag "for_reference")
  | "compile" =>
    return compile ⟨⟨900⟩, ← f.group, ← f.workplane, ← f.kind, f.flag "reference"⟩ (f.flag "for_reference")
  | "entity_equations" => return entityEquations (← f.group)
  | "group_equations" => return groupEquations (← f.group)
  | "system" => return system (← f.group) (f.flag "all_dims_reference")
  | "coincident_with" => return pointsAt (← f.entity "point")
  | "group" => return group (← f.group)
  | "constraint" => return constraint (← f.constraint)
  | "request" => return request (← f.request)
  | "entity" => return entity (← e)
  | "has_entity" => return hasEntity (← e)
  | "entity_flags" => return entityParts (← e)
  | "position" => return position (← e)
  | "orientation" => return orientation (← e)
  | "distance" => return distance (← e)
  | "radius" => return radius (← e)
  | "angles" => return arcAngles (← e)
  | "center_of" => return centerOf (← e)
  | "normal_of" => return normalOf (← e)
  | "plane_of" => return plane (← e)
  | "frame" => return frame (← e)
  | "param" => return param (← f.param)
  | "value_of" => return valueOf (← f.param)
  | "derived" =>
    return derived (← f.group) (← f.entity "source") (← field f.fields "role" (const? RemapRole.names))
      ((← fieldD f.fields "copy" none (nullable? short?)).getD 0)
  | "curves" => return pieces (← e)
  | "parametric" => return parametric (← e) (f.flag "reverse") (← fieldD f.fields "t" [] numbers?)
  | "loops" =>
    return loops (← f.group) (← f.entity "workplane") (← f.config .standard LoopConfig.ofValue?)
  | "mesh" => return mesh (← f.group) (f.flag "running")
  | _ => none

def ofValue? (v : Value α) : Option (Query α) := do
  ofFields? ⟨← v.record?⟩

end Query
end Drafting
