import Drafting.Sketch.Request
import Mathlib.Data.List.Nodup
/-! What a request expands into: parts of one group and one workplane that name only each other and hold
only parameters of the request. -/
namespace Drafting

def CopyTransform.params : CopyTransform α → List ParamId
  | identity => []
  | translate delta _ => delta.toList
  | rotate center axis angle _ => center.toList ++ axis.toList ++ [angle]
  | revolve _ _ angle => [angle]
  | linked offset rotation => offset.toList ++ [rotation.w, rotation.x, rotation.y, rotation.z]

namespace EntityKind

def parts (k : EntityKind α) : List EntityId := k.points ++ k.otherParts

@[simp] theorem partsPointIn3d (p : Vec3 ParamId) : (pointIn3d p : EntityKind α).parts = [] := rfl

@[simp] theorem partsPointIn2d (p : Vec2 ParamId) : (pointIn2d p : EntityKind α).parts = [] := rfl

@[simp] theorem partsPointCopy (a : Vec3 α) (t : CopyTransform α) : (pointCopy a t).parts = [] := rfl

@[simp] theorem partsNormalIn3d (q : Quat ParamId) : (normalIn3d q : EntityKind α).parts = [] := rfl

@[simp] theorem partsNormalIn2d : (normalIn2d : EntityKind α).parts = [] := rfl

@[simp] theorem partsNormalCopy (a : Quat α) (t : CopyTransform α) : (normalCopy a t).parts = [] := rfl

@[simp] theorem partsDistance (p : ParamId) : (distance p : EntityKind α).parts = [] := rfl

@[simp] theorem partsDistanceCopy (a : α) : (distanceCopy a).parts = [] := rfl

@[simp] theorem partsWorkplane (a b : EntityId) : (workplane a b : EntityKind α).parts = [a, b] := rfl

@[simp] theorem partsLine (a b : EntityId) : (line a b : EntityKind α).parts = [a, b] := rfl

@[simp] theorem partsCircle (a b c : EntityId) : (circle a b c : EntityKind α).parts = [a, b, c] := rfl

@[simp] theorem partsArc (a b c d : EntityId) : (arc a b c d : EntityKind α).parts = [a, b, c, d] := rfl

@[simp] theorem partsCubic (a b c d : EntityId) : (cubic a b c d : EntityKind α).parts = [a, b, c, d] := rfl

@[simp] theorem partsPlane (a b : EntityId) : (face a (.normal b) : EntityKind α).parts = [a, b] := rfl

@[simp] theorem partsSweep (a b c : EntityId) (direction : Vec3 ParamId) :
    (face a (.sweep b c direction) : EntityKind α).parts = [a, b, c] := rfl

@[simp] theorem facePart (a : EntityId) (direction : FaceNormal) : a ∈ (face a direction : EntityKind α).parts :=
  List.mem_append_left _ (List.mem_singleton_self a)

/-- The parts of an entity, each with the class it must belong to. -/
def roles : EntityKind α → List (EntityClass × EntityId)
  | workplane origin normal => [(.point, origin), (.normal, normal)]
  | line a b => [(.point, a), (.point, b)]
  | circle center normal radius => [(.point, center), (.normal, normal), (.distance, radius)]
  | arc center start finish normal => [(.point, center), (.point, start), (.point, finish), (.normal, normal)]
  | cubic p0 p1 p2 p3 => [(.point, p0), (.point, p1), (.point, p2), (.point, p3)]
  | face point (.normal n) => [(.point, point), (.normal, n)]
  | face point (.sweep source target _) => [(.point, point), (.point, source), (.point, target)]
  | _ => []

@[simp] theorem rolesWorkplane (a b : EntityId) :
    (workplane a b : EntityKind α).roles = [(.point, a), (.normal, b)] := rfl

@[simp] theorem rolesLine (a b : EntityId) : (line a b : EntityKind α).roles = [(.point, a), (.point, b)] := rfl

@[simp] theorem rolesCircle (a b c : EntityId) :
    (circle a b c : EntityKind α).roles = [(.point, a), (.normal, b), (.distance, c)] := rfl

@[simp] theorem rolesArc (a b c d : EntityId) :
    (arc a b c d : EntityKind α).roles = [(.point, a), (.point, b), (.point, c), (.normal, d)] := rfl

@[simp] theorem rolesCubic (a b c d : EntityId) :
    (cubic a b c d : EntityKind α).roles = [(.point, a), (.point, b), (.point, c), (.point, d)] := rfl

@[simp] theorem rolesPlane (a b : EntityId) :
    (face a (.normal b) : EntityKind α).roles = [(.point, a), (.normal, b)] := rfl

@[simp] theorem rolesSweep (a b c : EntityId) (direction : Vec3 ParamId) :
    (face a (.sweep b c direction) : EntityKind α).roles = [(.point, a), (.point, b), (.point, c)] := rfl

theorem rolesNamed (k : EntityKind α) : k.roles.map Prod.snd = k.parts := by
  cases k with
  | face point direction => cases direction <;> rfl
  | _ => rfl

theorem rolePart {k : EntityKind α} {role : EntityClass × EntityId} (member : role ∈ k.roles) : role.2 ∈ k.parts :=
  k.rolesNamed ▸ List.mem_map_of_mem member

def placing : EntityKind α → List ParamId
  | pointCopy _ t | normalCopy _ t => t.params
  | face _ (.sweep _ _ direction) => direction.toList
  | _ => []

end EntityKind

structure Entity.DrawnBy (q : Request) (e : Entity α) : Prop where
  origin : e.id.origin = .request q.id
  group : e.group = q.group
  workplane : e.workplane = q.workplane
  construction : e.construction = q.construction
  parts : ∀ id ∈ e.kind.parts, id.origin = .request q.id
  own : ∀ p ∈ e.kind.ownParams, p.owner = .request q.id
  placing : e.kind.placing = []

namespace Request
variable {q : Request} {e : Entity α}

theorem pointOrigin (q : Request) (n : Nat) : (q.point n).origin = .request q.id := by
  unfold point
  split <;> rfl

theorem pointPartsDrawn {count : Nat} (member : e ∈ q.pointParts count) : e.DrawnBy q := by
  obtain ⟨n, _, same⟩ := List.mem_map.mp member
  subst same
  unfold part
  constructor
  case origin => exact pointOrigin q n
  all_goals split <;> simp [EntityKind.ownParams, EntityKind.placing, Vec3.toList, param, ParamId.request]

theorem normalPartDrawn (q : Request) (first : Nat) : (q.normalPart (α := α) first).DrawnBy q := by
  unfold normalPart part
  constructor
  case origin => rfl
  all_goals split <;> simp [EntityKind.ownParams, EntityKind.placing, param, ParamId.request]

theorem mainDrawn (q : Request) {id : EntityId} {kind : EntityKind α} (origin : id.origin = .request q.id)
    (parts : ∀ p ∈ kind.parts, p.origin = .request q.id) (own : ∀ p ∈ kind.ownParams, p.owner = .request q.id)
    (placing : kind.placing = []) : (q.part id kind).DrawnBy q := ⟨origin, rfl, rfl, rfl, parts, own, placing⟩

theorem drawn (member : e ∈ q.entities) : e.DrawnBy q := by
  have byPoints (n : Nat) := pointOrigin q n
  unfold entities at member
  cases kind : q.kind with
  | datumPoint =>
    simp only [kind] at member
    exact pointPartsDrawn member
  | workplane =>
    simp only [kind, List.mem_append, List.mem_cons, List.not_mem_nil, or_false] at member
    rcases member with point | same | same
    · exact pointPartsDrawn point
    · exact same ▸ normalPartDrawn q _
    · exact same ▸ mainDrawn q rfl (by simpa using ⟨byPoints 0, rfl⟩) (by simp [EntityKind.ownParams]) rfl
  | line =>
    simp only [kind, List.mem_append, List.mem_cons, List.not_mem_nil, or_false] at member
    rcases member with point | same
    · exact pointPartsDrawn point
    · exact same ▸ mainDrawn q rfl (by simpa using ⟨byPoints 0, byPoints 1⟩) (by simp [EntityKind.ownParams]) rfl
  | circle =>
    simp only [kind, List.mem_append, List.mem_cons, List.not_mem_nil, or_false] at member
    rcases member with point | same | same | same
    · exact pointPartsDrawn point
    · exact same ▸ normalPartDrawn q _
    · exact same ▸ mainDrawn q rfl (by simp) (by simp [EntityKind.ownParams, param, ParamId.request]) rfl
    · exact same ▸ mainDrawn q rfl (by simpa using ⟨byPoints 0, rfl, rfl⟩) (by simp [EntityKind.ownParams]) rfl
  | arc =>
    simp only [kind, List.mem_append, List.mem_cons, List.not_mem_nil, or_false] at member
    rcases member with point | same | same
    · exact pointPartsDrawn point
    · exact same ▸ normalPartDrawn q _
    · exact same ▸ mainDrawn q rfl (by simpa using ⟨byPoints 0, byPoints 1, byPoints 2, rfl⟩)
        (by simp [EntityKind.ownParams]) rfl
  | cubic =>
    simp only [kind, List.mem_append, List.mem_cons, List.not_mem_nil, or_false] at member
    rcases member with point | same
    · exact pointPartsDrawn point
    · exact same ▸ mainDrawn q rfl (by simpa using ⟨byPoints 0, byPoints 1, byPoints 2, byPoints 3⟩)
        (by simp [EntityKind.ownParams]) rfl

theorem workplaneDrawn (q : Request) : ∀ e ∈ q.entities (α := α), e.isA .workplane = true → q.kind = .workplane := by
  rcases q with ⟨id, group, workplane, kind, construction⟩
  cases workplane <;> cases kind <;> simp [entities, pointParts, part, normalPart, Entity.isA, EntityKind.isA,
    EntityKind.classes, List.range_succ]

theorem entitiesDistinct (q : Request) : ((q.entities (α := α)).map Entity.id).Nodup := by
  rcases q with ⟨id, group, workplane, kind, construction⟩
  cases kind <;> simp [entities, pointParts, part, normalPart, point, normal, distance, entity, EntityId.request,
    pointIndex, normalIndex, distanceIndex, List.range_succ]

theorem entitiesOfConstruction (q : Request) (construction : Bool) :
    ({ q with construction } : Request).entities (α := α) = q.entities.map ({ · with construction }) := by
  rcases q with ⟨id, group, workplane, kind, before⟩
  cases kind <;> simp [entities, pointParts, part, normalPart, point, normal, distance, entity, param, coordinates]

end Request

theorem Entity.initialIds [Scalar α] (e : Entity α) : e.initial.map Prod.fst = e.kind.ownParams := by
  unfold Entity.initial
  split
  · rename_i q same
    simp [same, EntityKind.ownParams]
  · rw [List.map_map]
    exact List.map_id _

theorem Request.paramIds [Scalar α] (q : Request) :
    (q.params (α := α)).map Prod.fst = (q.entities (α := α)).flatMap fun e => e.kind.ownParams := by
  rw [Request.params, List.map_flatMap]
  congr 1
  funext e
  exact e.initialIds

end Drafting
