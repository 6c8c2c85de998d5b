import Drafting.Config
import Drafting.Pick
import Drafting.Sketch.Curves
/-! Closed loops from the drawn curves of a group. Each curve is sampled; a curve that ends where it
starts is a loop, and the others are chained end to end. -/
namespace Drafting

structure Edge (α : Type) where
  entity : EntityId
  start : Vec3 α
  rest : List (Vec3 α)

namespace Edge

def points (e : Edge α) : List (Vec3 α) := e.start :: e.rest
def finish (e : Edge α) : Vec3 α := e.rest.getLastD e.start

def reverse (e : Edge α) : Edge α :=
  match e.points.reverse with
  | p :: rest => { e with start := p, rest }
  | [] => e

def touches [Scalar α] (tolerance : α) (place : Vec3 α) (e : Edge α) : Bool :=
  decide (e.start.distance place ≤ tolerance) || decide (e.finish.distance place ≤ tolerance)

def isRing [Scalar α] (tolerance : α) (e : Edge α) : Bool := decide (e.start.distance e.finish ≤ tolerance)

def length [Scalar α] (e : Edge α) : α :=
  ((e.points.zip e.rest).map fun (p, q) => p.distance q).foldl (· + ·) 0.0

end Edge

structure Chain (α : Type) where
  origin : Vec3 α
  tip : Vec3 α
  points : List (Vec3 α)
  curves : List EntityId

namespace Chain
variable [Scalar α]

def ofEdge (e : Edge α) : Chain α := ⟨e.start, e.finish, e.points, [e.entity]⟩

def add (tolerance : α) (c : Chain α) (e : Edge α) : Chain α :=
  let e := if tolerance < e.start.distance c.tip then e.reverse else e
  { c with tip := e.finish, points := c.points ++ e.rest, curves := c.curves ++ [e.entity] }

def isOpen (tolerance : α) (c : Chain α) : Bool := decide (tolerance < c.tip.distance c.origin)

def close (tolerance : α) (c : Chain α) (edges : List (Edge α)) : Except (LoopError α) (List (Chain α)) :=
  if c.isOpen tolerance then
    match _ : pick? (Edge.touches tolerance c.tip) edges with
    | none => throw (.notClosed c.tip)
    | some (e, others) => (c.add tolerance e).close tolerance others
  else match edges with
    | [] => return [c]
    | e :: others => return c :: (← (ofEdge e).close tolerance others)
termination_by edges.length
decreasing_by
  · exact length_of_pick? (by assumption)
  · simp

def toLoop (frame : Frame α) (c : Chain α) : Loop α := ⟨c.points.dropLast.map frame.project, c.curves⟩

end Chain

namespace Sketch
variable [Scalar α]

def sample (s : Sketch α) (config : LoopConfig α) (id : EntityId) :
    Except (LoopError α) (List (Vec3 α)) :=
  match s.pieces id with
  | .error e => throw (.notSampled id e)
  | .ok pieces =>
    match pieces.map (·.polyline config.chordTolerance config.maxSegments) with
    | [] => return []
    | first :: others => return first ++ others.flatMap (·.drop 1)

def edge (s : Sketch α) (frame : Frame α) (config : LoopConfig α) (id : EntityId) :
    Except (LoopError α) (Edge α) := do
  let points ← s.sample config id
  if points.any fun p => decide (Arith.max config.joinTolerance 1e-9 < Arith.abs (frame.height p)) then
    throw (.notCoplanar id)
  match points with
  | [] => throw (.zeroLength id)
  | start :: rest =>
    let e : Edge α := ⟨id, start, rest⟩
    if e.length ≤ config.joinTolerance then
      throw (.zeroLength id)
    return e

/-- Whether a curve takes part in the loops of a group: drawn there, and not for construction. -/
def outlines (group : GroupId) (e : Entity α) : Bool :=
  e.group == group && e.id.isFromRequest && !e.construction && e.isA .curve

/-- All closed loops of a group: curves that close by themselves, then chains. -/
def assemble (s : Sketch α) (group : GroupId) (frame : Frame α) (config : LoopConfig α) :
    Except (LoopError α) (LoopSet α) := do
  let curves := (s.entities.toList.filter (outlines group)).map Entity.id
  let edges ← curves.mapM (s.edge frame config)
  let (rings, others) := edges.partition (·.isRing config.joinTolerance)
  let chains ← match others with
    | [] => pure []
    | e :: others => (Chain.ofEdge e).close config.joinTolerance others
  return ⟨frame, (rings.map Chain.ofEdge ++ chains).map (Chain.toLoop frame)⟩

end Sketch
end Drafting
