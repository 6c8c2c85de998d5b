import Std.Data.HashMap
import Drafting.Group.Copies
import Drafting.Sketch.Edit
/-! The entities and parameters of a group, made anew from its kind, its requests and its source.
Parameters keep their values. -/
namespace Drafting

namespace Sketch
variable [Scalar α]

def planeAxis (s : Sketch α) (g : Group α) (pick : Frame α → Vec3 α) (otherwise : Vec3 α) : Vec3 α :=
  match g.workplane.bind fun w => (s.frame w).toOption with
  | some f => pick f
  | none => otherwise

/-- The parameters of a group with the values they begin with: ten units along, thirty degrees for a
rotation and a quarter turn for a revolution. -/
def groupParams (s : Sketch α) (g : Group α) : List (ParamId × α) :=
  let vector (p : Vec3 ParamId) (v : Vec3 α) := p.toList.zip v.toList
  match g.kind with
  | .drawing3d | .drawingWorkplane .. | .lathe _ => []
  | .extrude .. => vector g.delta ((s.planeAxis g Frame.normal .unitZ).scale 10.0)
  | .translate .. => vector g.delta ((s.planeAxis g Frame.u .unitX).scale 10.0)
  | .rotate center axis .. =>
    vector g.rotateCenter center ++ vector g.rotateAxis axis.normalizeOrZero ++
      [(g.rotateAngle, 0.5235987755982989)]
  | .revolve _ => [(g.revolveAngle, Scalar.halfPi)]
  | .linked .. =>
    let q := g.linkRotation
    vector g.linkOffset .zero ++ [(q.w, 1.0), (q.x, 0.0), (q.y, 0.0), (q.z, 0.0)]

def fixtures (g : Group α) : List (Entity α) :=
  match g.kind with
  | .drawingWorkplane origin orientation =>
    let o : EntityId := .predefined g.id 1
    let n : EntityId := .predefined g.id 2
    [{ id := o, group := g.id, kind := .pointCopy origin .identity },
     { id := n, group := g.id, kind := .normalCopy orientation.normalize .identity },
     { id := .predefined g.id 0, group := g.id, kind := .workplane o n }]
  | _ => []

def groupValues (s : Sketch α) (group : GroupId) : Std.HashMap ParamId α :=
  (s.params.toList.filter (·.group == group)).foldl (fun m p => m.insert p.id p.value) {}

def clearGroup (s : Sketch α) (group : GroupId) : Sketch α :=
  { s with
    entities := s.entities.filter (·.group != group)
    params := s.params.filter (·.group != group) }

def enterGroupParams (s : Sketch α) (kept : Std.HashMap ParamId α) (group : GroupId)
    (ps : List (ParamId × α)) : Sketch α :=
  { s with params := ps.foldl (fun r (p, x) => r.add ⟨p, group, kept[p]?.getD x⟩) s.params }

def enterEntities (s : Sketch α) (es : List (Entity α)) : Sketch α :=
  { s with entities := es.foldl (·.add ·) s.entities }

def generateGroup (group : GroupId) : Edit α SketchError Unit := do
  let g ← Edit.read (·.group group)
  let kept := (← get).groupValues group
  let own := (← get).groupParams g
  modify fun s =>
    let s := ((s.clearGroup group).enterGroupParams kept group own).enterEntities (fixtures g)
    (s.requests.toList.filter (·.group == group)).foldl (·.enterRequest (kept[·]?) ·) s
  if g.kind.isSolid then
    let copies ← Edit.read (·.copies g)
    modify fun s =>
      (s.enterEntities copies.made.toList).modifyGroup group ({ · with remap := copies.remap })
  modify fun s =>
    let helpers := (s.constraints.toList.filter (·.group == group)).flatMap Constraint.helpers
    s.enterGroupParams kept group (helpers.map (·, 0.0))

def groupResiduals (g : Group α) (plane : Option (PlaneExpr α)) : List (Expr α) :=
  let delta : Vec3 (Expr α) := .ofParams g.delta
  match g.kind, plane with
  | .extrude _ true, some p => [delta.dot p.orientation.imageU, delta.dot p.orientation.imageV]
  | .translate .., some p => [delta.dot p.orientation.imageN]
  | .rotate .., plane =>
    let axis : Vec3 (Expr α) := .ofParams g.rotateAxis
    let center : Vec3 (Expr α) := .ofParams g.rotateCenter
    let upright := match plane with
      | some p => [axis.dot p.orientation.imageU, axis.dot p.orientation.imageV,
          (center - p.origin).dot p.orientation.imageN]
      | none => []
    upright ++ [axis.dot axis - .const 1.0]
  | .linked .., _ => [(Quat.ofParams g.linkRotation).magnitudeSquared - .const 1.0]
  | _, _ => []

def groupEquations (s : Sketch α) (group : GroupId) : Except SketchError (List (Equation α)) := do
  let g ← s.group group
  let plane ← match g.workplane with
    | some w => do pure (some (← s.planeExpr w))
    | none => pure none
  return (groupResiduals g plane).mapIdx fun i r => ⟨.group group i, r⟩

def derivedEntity? (s : Sketch α) (group : GroupId) (source : EntityId) (role : RemapRole) (copy : Nat) :
    Option EntityId := do
  let slot ← (← s.groups.get? group).remap.get? ⟨.entity source, role, copy⟩
  let id : EntityId := .derived group slot
  if s.hasEntity id then some id else none

def startingWorkplane (s : Sketch α) (id : GroupId) (kind : GroupKind α) (source : Option GroupId) :
    Option EntityId :=
  match kind with
  | .drawingWorkplane .. => some (.predefined id 0)
  | _ => source.bind fun g => (s.groups.get? g).bind Group.workplane

def checkGroup (s : Sketch α) (kind : GroupKind α) (source : Option GroupId) : Except SketchError Unit :=
  match source with
  | some g => if s.groups.contains g then return else throw (.groupNotFound g)
  | none => if kind.isDerived then throw (.sourceRequired kind.typeName) else return

/-- Adds a group and makes its entities; a group that cannot be made is taken out again. -/
def addGroup (name : String) (kind : GroupKind α) (source : Option GroupId) :
    Edit α SketchError GroupId := do
  Edit.read (·.checkGroup kind source)
  let id : GroupId := ⟨(← get).nextGroup⟩
  modify fun s => { s with
    nextGroup := s.nextGroup + 1
    groups := s.groups.add { id, name, kind, source, workplane := s.startingWorkplane id kind source } }
  try
    generateGroup id
  catch e =>
    modify fun s => { s with groups := s.groups.remove id }
    throw e
  return id

end Sketch
end Drafting
