import Drafting.Archive.Printer
import Drafting.Archive.Reader
import Drafting.Config
/-! Settings as documents. A field that is missing takes its standard value. -/
namespace Drafting
open Archive Value

def Backend.names : List (Backend × String) := [(mesh, "Mesh"), (null, "Null")]

namespace SolverConfig

def shape : Shape :=
  .record "SolverConfig" [("convergence_tolerance", .number), ("max_iterations", .natural),
    ("damping", .number), ("rank_tolerance", .number), ("regularization", .number),
    ("max_unknowns", .natural), ("timeout_ms", .option .natural), ("band_left", .natural),
    ("band_right", .natural)]

def toValue (c : SolverConfig α) : Value α :=
  record "" [("convergence_tolerance", number c.tolerance), ("max_iterations", integer c.maxIterations),
    ("damping", number c.damping), ("rank_tolerance", number c.rankTolerance),
    ("regularization", number c.regularization), ("max_unknowns", integer c.maxUnknowns),
    ("timeout_ms", optional integer c.timeoutMs), ("band_left", integer c.bandLeft),
    ("band_right", integer c.bandRight)]

def ofValue? [Scalar α] (v : Value α) : Option (SolverConfig α) := do
  let fs ← v.record?
  let d : SolverConfig α := .standard
  return {
    tolerance := ← fieldD fs "convergence_tolerance" d.tolerance number?
    maxIterations := ← fieldD fs "max_iterations" d.maxIterations long?
    damping := ← fieldD fs "damping" d.damping number?
    rankTolerance := ← fieldD fs "rank_tolerance" d.rankTolerance number?
    regularization := ← fieldD fs "regularization" d.regularization number?
    maxUnknowns := ← fieldD fs "max_unknowns" d.maxUnknowns long?
    timeoutMs := ← fieldD fs "timeout_ms" d.timeoutMs (optional? long?)
    bandLeft := ← fieldD fs "band_left" d.bandLeft long?
    bandRight := ← fieldD fs "band_right" d.bandRight long? }

end SolverConfig

namespace RoundingConfig

def shape : Shape :=
  .record "TangentArcConfig" [("iterations", .natural), ("polish_iterations", .natural),
    ("convergence", .number), ("min_t", .number), ("max_t", .number)]

def toValue (c : RoundingConfig α) : Value α :=
  record "" [("iterations", integer c.iterations), ("polish_iterations", integer c.polishIterations),
    ("convergence", number c.convergence), ("min_t", number c.minT), ("max_t", number c.maxT)]

def ofValue? [Scalar α] (v : Value α) : Option (RoundingConfig α) := do
  let fs ← v.record?
  let d : RoundingConfig α := .standard
  return {
    iterations := ← fieldD fs "iterations" d.iterations long?
    polishIterations := ← fieldD fs "polish_iterations" d.polishIterations long?
    convergence := ← fieldD fs "convergence" d.convergence number?
    minT := ← fieldD fs "min_t" d.minT number?
    maxT := ← fieldD fs "max_t" d.maxT number? }

end RoundingConfig

namespace LoopConfig

def shape : Shape :=
  .record "LoopConfig" [("chord_tolerance", .number), ("max_segments", .natural),
    ("join_tolerance", .number)]

def toValue (c : LoopConfig α) : Value α :=
  record "" [("chord_tolerance", number c.chordTolerance), ("max_segments", integer c.maxSegments),
    ("join_tolerance", number c.joinTolerance)]

def ofValue? [Scalar α] (v : Value α) : Option (LoopConfig α) := do
  let fs ← v.record?
  let d : LoopConfig α := .standard
  return {
    chordTolerance := ← fieldD fs "chord_tolerance" d.chordTolerance number?
    maxSegments := ← fieldD fs "max_segments" d.maxSegments long?
    joinTolerance := ← fieldD fs "join_tolerance" d.joinTolerance number? }

end LoopConfig

namespace KernelConfig

def shape : Shape :=
  .record "KernelConfig" [("backend", .constant), ("revolve_segments", .natural),
    ("tessellation_tolerance", .number)]

def toValue (c : KernelConfig α) : Value α :=
  record "" [("backend", ofConst Backend.names c.backend), ("revolve_segments", integer c.revolveSegments),
    ("tessellation_tolerance", number c.tessellationTolerance)]

def ofValue? [Scalar α] (v : Value α) : Option (KernelConfig α) := do
  let fs ← v.record?
  let d : KernelConfig α := .standard
  return {
    backend := ← fieldD fs "backend" d.backend (const? Backend.names)
    revolveSegments := ← fieldD fs "revolve_segments" d.revolveSegments short?
    tessellationTolerance := ← fieldD fs "tessellation_tolerance" d.tessellationTolerance number? }

end KernelConfig

inductive ConfigError where
  | unreadable
  | noSuchFile
  deriving DecidableEq, Repr

namespace EngineConfig

def shape : Shape :=
  .record "EngineConfig" [("solver", SolverConfig.shape), ("tangent_arc", RoundingConfig.shape),
    ("loops", LoopConfig.shape), ("kernel", KernelConfig.shape)]

def toValue (c : EngineConfig α) : Value α :=
  record "" [("solver", c.solver.toValue), ("tangent_arc", c.rounding.toValue), ("loops", c.loops.toValue),
    ("kernel", c.kernel.toValue)]

def ofValue? [Scalar α] (v : Value α) : Option (EngineConfig α) := do
  let fs ← v.record?
  return {
    solver := ← fieldD fs "solver" .standard SolverConfig.ofValue?
    rounding := ← fieldD fs "tangent_arc" .standard RoundingConfig.ofValue?
    loops := ← fieldD fs "loops" .standard LoopConfig.ofValue?
    kernel := ← fieldD fs "kernel" .standard KernelConfig.ofValue? }

def write (c : EngineConfig Float) : String := print c.toValue

def read (document : String) : Except ConfigError (EngineConfig Float) :=
  match (parse shape document).bind ofValue? with
  | some c => .ok c
  | none => .error .unreadable

def load (texts : String → Option String) (path : String) : Except ConfigError (EngineConfig Float) :=
  match texts path with
  | some document => read document
  | none => .error .noSuchFile

end EngineConfig
end Drafting
