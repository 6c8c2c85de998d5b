import Drafting.Handle
/-! Handles of stored solids, and what an operation on solids can fail with. -/
namespace Drafting

structure ShellId where
  number : Nat
  deriving DecidableEq, Hashable, Repr, Inhabited

inductive BooleanType where
  | union
  | subtract
  | intersect
  deriving DecidableEq, Repr

def BooleanType.name : BooleanType → String
  | union => "Union"
  | subtract => "Subtract"
  | intersect => "Intersect"

inductive KernelError where
  | noLoops
  | shortLoop
  | selfIntersecting
  | nestedLoops
  | overlapping (op : BooleanType)
  | notTessellated
  | unavailable
  | flatExtrusion
  | degenerateRevolve
  | shellNotFound (shell : ShellId)
  | noSource (group : GroupId)
  | noClosedLoops (group : String)
  | noSolid (group : String)
  | noPart (group : String)
  | notSolid (group : String)
  | noCopies
  deriving DecidableEq, Repr

def KernelError.message : KernelError → String
  | noLoops => "Invalid profile: profile has no loops"
  | shortLoop => "Invalid profile: loop must have at least 3 points"
  | selfIntersecting => "Invalid profile: loop is self-intersecting"
  | nestedLoops => "Invalid profile: holes are not supported by the mesh kernel"
  | overlapping op =>
    s!"Boolean operation failed: {op.name} of overlapping shells needs a B-rep kernel"
  | notTessellated => "Tessellation failed: Shell not found"
  | unavailable => "Kernel not available: No solid kernel available"
  | flatExtrusion => "Operation failed: zero-length extrusion"
  | degenerateRevolve => "Operation failed: degenerate revolve"
  | shellNotFound _ => "Shell not found"
  | noSource group => s!"Operation failed: {group} has no source group"
  | noClosedLoops group => s!"Invalid profile: {group} has no closed loops"
  | noSolid group => s!"Invalid profile: {group} has no solid"
  | noPart group => s!"Invalid profile: {group} links no part"
  | notSolid group => s!"Operation failed: {group} is not a solid group"
  | noCopies => "Operation failed: no copies to make"

def KernelError.label : KernelError → String
  | noLoops | shortLoop | selfIntersecting | nestedLoops | noClosedLoops _ | noSolid _ | noPart _ =>
    "InvalidProfile"
  | overlapping _ => "BooleanFailed"
  | notTessellated => "TessellationFailed"
  | unavailable => "KernelNotAvailable"
  | flatExtrusion | degenerateRevolve | noSource _ | notSolid _ | noCopies => "OperationFailed"
  | shellNotFound _ => "ShellNotFound"

end Drafting
