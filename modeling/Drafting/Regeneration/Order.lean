import Drafting.Pick
import Drafting.Sketch.Basic
/-! The order in which groups are regenerated: each after those it draws upon, and of those that are
ready the one with the least number first. -/
namespace Drafting

inductive RegenError where
  | sketch (cause : SketchError)
  | cycle (group : GroupId)
  | groupNotFound (group : GroupId)
  deriving DecidableEq, Repr

def RegenError.message : RegenError → String
  | sketch cause => s!"Sketch error: {cause.message}"
  | cycle group => s!"Groups depend on each other in a cycle through {group}"
  | groupNotFound group => s!"Group not found: {group}"

def RegenError.label : RegenError → String
  | sketch cause => "Sketch." ++ cause.label
  | cycle _ => "Cycle"
  | groupNotFound _ => "GroupNotFound"

namespace Sketch

def groupOf? (s : Sketch α) (e : EntityId) : Option GroupId := (s.entities.get? e).map Entity.group

/-- The other groups whose geometry a group builds upon: those it is made from, and those of its
workplane and of everything its constraints and requests name. -/
def dependencies (s : Sketch α) (g : Group α) : List GroupId :=
  let constraints := s.constraints.toList.filter (·.group == g.id)
  let requests := s.requests.toList.filter (·.group == g.id)
  let named := g.workplane.toList ++ constraints.flatMap Constraint.references ++
    requests.flatMap (·.workplane.toList)
  (g.predecessors ++ named.filterMap s.groupOf?).filter (· != g.id)

def dependenciesOf (s : Sketch α) (id : GroupId) : List GroupId :=
  match s.groups.get? id with
  | some g => s.dependencies g
  | none => []

/-- Brings groups into order, given those already done; the first one left is named if none is ready. -/
def orderFrom (needs : GroupId → List GroupId) (done pending : List GroupId) :
    Except RegenError (List GroupId) :=
  match _ : pick? (fun g => (needs g).all done.contains) pending with
  | some (g, rest) => return g :: (← orderFrom needs (g :: done) rest)
  | none => match pending with
    | [] => return []
    | stuck :: _ => throw (.cycle stuck)
termination_by pending.length
decreasing_by exact length_of_pick? (by assumption)

def groupIds (s : Sketch α) : List GroupId :=
  (s.groups.keys.mergeSort fun a b => a.number ≤ b.number).eraseDups

def regenerationOrder (s : Sketch α) : Except RegenError (List GroupId) := do
  s.groups.toList.forM fun g => g.predecessors.forM fun p =>
    if s.groups.contains p then return else throw (.groupNotFound p)
  orderFrom s.dependenciesOf [] s.groupIds

end Sketch
end Drafting
