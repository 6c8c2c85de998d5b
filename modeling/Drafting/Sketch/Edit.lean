import Drafting.Sketch.Measure
import Drafting.Sketch.Validate
/-! Edits of a sketch: drawing, constraining, deleting and forcing values. An edit marks as dirty
every group in which it changes something. -/
namespace Drafting

def Edit.attempt (e : Edit α ε τ) (s : Sketch α) : Sketch α := (e s).2

namespace Sketch
variable [Scalar α]

def setParam (id : ParamId) (value : α) : Edit α SketchError Unit := do
  let p ← Edit.found (.paramNotFound id) ((← get).params.get? id)
  modify fun s => { s with params := s.params.modify id ({ · with value }) }.markDirty p.group

/-- Moves a drawn point; in a workplane to the nearest place within it. -/
def forcePoint (point : EntityId) (place : Vec3 α) : Edit α SketchError Unit := do
  let e ← Edit.read (·.entity point)
  match e.kind with
  | .pointIn3d p =>
    setParam p.x place.x
    setParam p.y place.y
    setParam p.z place.z
  | .pointIn2d p =>
    let w ← Edit.found (.missingWorkplane point) e.workplane
    let uv := (← Edit.read (·.frame w)).project place
    setParam p.x uv.x
    setParam p.y uv.y
  | .pointCopy .. => throw (.notEditable point)
  | _ => throw (.wrongKind point .point)

def forceNormal (normal : EntityId) (orientation : Quat α) : Edit α SketchError Unit := do
  match (← Edit.read (·.entity normal)).kind with
  | .normalIn3d p =>
    let q := orientation.normalize
    setParam p.w q.w
    setParam p.x q.x
    setParam p.y q.y
    setParam p.z q.z
  | .normalIn2d | .normalCopy .. => throw (.notEditable normal)
  | _ => throw (.wrongKind normal .normal)

def forceDistance (distance : EntityId) (value : α) : Edit α SketchError Unit := do
  match (← Edit.read (·.entity distance)).kind with
  | .distance p => setParam p value
  | .distanceCopy _ => throw (.notEditable distance)
  | _ => throw (.wrongKind distance .distance)

/-- Enters a parameter with a value kept from before, or the one it has now, or a given one. -/
def enterParam (s : Sketch α) (kept : ParamId → Option α) (group : GroupId) (p : ParamId × α) : Sketch α :=
  let value := (kept p.1 <|> (s.params.get? p.1).map Param.value).getD p.2
  { s with params := s.params.add ⟨p.1, group, value⟩ }

def enterRequest (s : Sketch α) (kept : ParamId → Option α) (r : Request) : Sketch α :=
  let s := r.params.foldl (·.enterParam kept r.group ·) s
  { s with entities := r.entities.foldl (·.add ·) s.entities }

def checkRequest (s : Sketch α) (group : GroupId) (kind : RequestKind) (workplane : Option EntityId) :
    Except SketchError Unit := do
  let _ ← s.group group
  if let some w := workplane then
    if !(← s.entity w).isA .workplane then
      throw (.wrongKind w .workplane)
  match kind with
  | .arc => if workplane.isNone then throw (.workplaneRequired kind)
  | .workplane => if workplane.isSome then throw .workplaneInWorkplane
  | _ => return

def addRequest (group : GroupId) (kind : RequestKind) (workplane : Option EntityId)
    (construction : Bool) : Edit α SketchError RequestId := do
  Edit.read (·.checkRequest group kind workplane)
  let id : RequestId := ⟨(← get).nextRequest⟩
  let r : Request := ⟨id, group, workplane, kind, construction⟩
  modify fun s =>
    let s := { s with nextRequest := s.nextRequest + 1 }.enterRequest (fun _ => none) r
    { s with requests := s.requests.add r }.markDirty group
  return id

def addShape (group : GroupId) (kind : RequestKind) (workplane : Option EntityId)
    (places : List (Vec3 α)) : Edit α SketchError Request := do
  let r : Request := ⟨← addRequest group kind workplane false, group, workplane, kind, false⟩
  places.zipIdx.forM fun (p, i) => forcePoint (r.point i) p
  return r

def addPoint (group : GroupId) (workplane : Option EntityId) (place : Vec3 α) :
    Edit α SketchError RequestId :=
  return (← addShape group .datumPoint workplane [place]).id

def addLine (group : GroupId) (workplane : Option EntityId) (a b : Vec3 α) :
    Edit α SketchError RequestId :=
  return (← addShape group .line workplane [a, b]).id

def addCircle (group : GroupId) (workplane : Option EntityId) (center : Vec3 α) (radius : α) :
    Edit α SketchError RequestId := do
  let r ← addShape group .circle workplane [center]
  forceDistance r.distance radius
  return r.id

def addArc (group : GroupId) (workplane : Option EntityId) (center start finish : Vec3 α) :
    Edit α SketchError RequestId :=
  return (← addShape group .arc workplane [center, start, finish]).id

def addCubic (group : GroupId) (workplane : Option EntityId) (p0 p1 p2 p3 : Vec3 α) :
    Edit α SketchError RequestId :=
  return (← addShape group .cubic workplane [p0, p1, p2, p3]).id

def addWorkplane (group : GroupId) (origin : Vec3 α) (orientation : Quat α) :
    Edit α SketchError RequestId := do
  let r ← addShape group .workplane none [origin]
  forceNormal r.normal orientation
  return r.id

def setConstruction (id : RequestId) (construction : Bool) : Edit α SketchError Unit := do
  let r ← Edit.read (·.request id)
  modify fun s => { s with
    requests := s.requests.modify id ({ · with construction })
    entities := s.entities.map fun e =>
      if e.id.request? = some id then { e with construction } else e }.markDirty r.group

def deleteConstraint (id : ConstraintId) : Edit α SketchError Unit := do
  let c ← Edit.read (·.constraint id)
  modify fun s => { s with
    constraints := s.constraints.remove id
    params := s.params.filter (·.id.owner != ParamOwner.constraint id) }.markDirty c.group

def deleteConstraints (s : Sketch α) (ids : List ConstraintId) : Sketch α :=
  ids.foldl (fun s id => (deleteConstraint id).attempt s) s

def remeasure (id : ConstraintId) : Edit α ConstraintError Unit := do
  let c ← Edit.read (·.constraint id)
  let kind ← Edit.read (·.measured c)
  modify fun s => { s with constraints := s.constraints.modify id ({ · with kind }) }

/-- Gives the constraint's own parameter a value close to the present geometry. -/
def improveGuess (id : ConstraintId) : Edit α ConstraintError Unit := do
  let c ← Edit.read (·.constraint id)
  if let some p := c.helpers.head? then
    if let some x ← Edit.read (·.guess c.kind) then
      Edit.lower (setParam p x)

/-- Adds a constraint, enforced or only measured; one that cannot be evaluated is taken back. -/
def addConstraint (group : GroupId) (workplane : Option EntityId) (kind : ConstraintKind α)
    (reference : Bool := false) : Edit α ConstraintError ConstraintId := do
  let _ ← Edit.read (·.group group)
  Edit.read (·.validate group workplane kind)
  let id : ConstraintId := ⟨(← get).nextConstraint⟩
  let c : Constraint α := ⟨id, group, workplane, kind, reference⟩
  modify fun s => { s with
    nextConstraint := s.nextConstraint + 1
    params := c.helpers.foldl (fun ps p => ps.add ⟨p, group, 0.0⟩) s.params
    constraints := s.constraints.add c }
  try
    if reference then
      remeasure id
    improveGuess id
  catch e =>
    Edit.lower (deleteConstraint id)
    throw e
  modify (·.markDirty group)
  return id

def setConstraintValue (id : ConstraintId) (value : α) : Edit α SketchError Bool := do
  let c ← Edit.read (·.constraint id)
  modify fun s => { s with
    constraints := s.constraints.modify id ({ · with kind := c.kind.setValue value }) }.markDirty c.group
  return c.kind.isDimensional

def replacePoint (s : Sketch α) (old new : EntityId) : Nat × Sketch α :=
  let touched := s.constraints.toList.flatMap fun c =>
    (c.kind.points.filter (· == old)).map fun _ => c.group
  let s := { s with constraints := s.constraints.map fun c =>
    { c with kind := c.kind.mapPoints fun p => if p = old then new else p } }
  (touched.length, touched.foldl markDirty s)

def removeConstraintsFor (s : Sketch α) (point : EntityId) : Nat × Sketch α :=
  let doomed := (s.constraints.toList.filter (·.kind.points.contains point)).map Constraint.id
  (doomed.length, s.deleteConstraints doomed)

def partner? (point : EntityId) (c : Constraint α) : Option EntityId :=
  match c.kind with
  | .pointsCoincident a b => if a = point then some b else if b = point then some a else none
  | _ => none

/-- Takes a point out of the coincidences of its group and joins those that it held together. -/
def detachPoint (s : Sketch α) (point : EntityId) : Sketch α :=
  match s.entities.get? point with
  | none => s
  | some e =>
    let through := s.constraints.toList.filterMap fun c =>
      if c.group = e.group then (partner? point c).map (c.id, ·) else none
    let others := through.map Prod.snd
    let s := s.deleteConstraints (through.map Prod.fst)
    (others.zip (others.drop 1)).foldl (fun s (a, b) =>
      (addConstraint e.group e.workplane (.pointsCoincident a b)).attempt s) s

def deleteRequest (id : RequestId) : Edit α SketchError Unit := do
  let r ← Edit.read (·.request id)
  let ours (e : EntityId) := e.request? == some id
  modify fun s => ((s.entities.toList.filter fun e => ours e.id && e.isA .point).map Entity.id).foldl detachPoint s
  let doomed := (← get).constraints.toList.filter (·.references.any ours)
  doomed.forM fun c => deleteConstraint c.id
  modify fun s => { s with
    entities := s.entities.filter (!ours ·.id)
    params := s.params.filter (·.id.owner != ParamOwner.request id)
    requests := s.requests.remove id }.markDirty r.group

def prune (s : Sketch α) (group : GroupId) : List ConstraintId × Sketch α :=
  let dangling := (s.constraints.toList.filter fun c =>
    c.group == group && c.references.any (!s.hasEntity ·)).map Constraint.id
  (dangling, s.deleteConstraints dangling)

def pointsAt (s : Sketch α) (point : EntityId) : Except SketchError (List EntityId) := do
  let e ← s.entity point
  let place ← s.position point
  let others := s.entities.toList.filter fun o =>
    o.id != point && o.isA .point && o.group == e.group && o.workplane == e.workplane
  return (others.filter fun o => match s.position o.id with
    | .ok p => decide (p.distanceSquared place < 1e-18)
    | .error _ => false).map Entity.id

def joinIfCoincident (point : EntityId) : Edit α SketchError Bool := do
  match ← Edit.read (·.pointsAt point) with
  | [] => return false
  | other :: _ =>
    let e ← Edit.read (·.entity point)
    fun s => match addConstraint e.group e.workplane (.pointsCoincident point other) false s with
      | (.ok _, s) => (.ok true, s)
      | (.error cause, s) => (.error (.notJoined cause.message), s)

end Sketch
end Drafting
