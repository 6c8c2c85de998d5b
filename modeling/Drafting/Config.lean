import Drafting.Scalar.Basic
import Drafting.Solid.Kernel
/-! Settings of the engine, each with its standard values. -/
namespace Drafting

structure SolverConfig (α : Type) where
  tolerance : α
  maxIterations : Nat
  damping : α
  /-- Relative size below which a row of the Jacobian counts as dependent. -/
  rankTolerance : α
  regularization : α
  maxUnknowns : Nat
  timeoutMs : Option Nat
  bandLeft : Nat
  bandRight : Nat
  deriving Repr, BEq

structure RoundingConfig (α : Type) where
  iterations : Nat
  polishIterations : Nat
  convergence : α
  minT : α
  maxT : α
  deriving Repr, BEq

structure LoopConfig (α : Type) where
  chordTolerance : α
  maxSegments : Nat
  joinTolerance : α
  deriving Repr, BEq

structure KernelConfig (α : Type) where
  backend : Backend
  revolveSegments : Nat
  tessellationTolerance : α
  deriving Repr, BEq

structure EngineConfig (α : Type) where
  solver : SolverConfig α
  rounding : RoundingConfig α
  loops : LoopConfig α
  kernel : KernelConfig α
  deriving Repr, BEq

variable [Arith α]

namespace SolverConfig

def standard : SolverConfig α where
  tolerance := 1e-10
  maxIterations := 50
  damping := 1.0
  rankTolerance := 1e-8
  regularization := 1e-10
  maxUnknowns := 2048
  timeoutMs := none
  bandLeft := 8
  bandRight := 8

def withDamping (c : SolverConfig α) (damping : α) : SolverConfig α :=
  { c with damping := Arith.clamp damping 0.1 1.0 }

def withBand (c : SolverConfig α) (left right : Nat) : SolverConfig α :=
  { c with bandLeft := left, bandRight := right }

end SolverConfig

namespace RoundingConfig

def standard : RoundingConfig α where
  iterations := 1000
  polishIterations := 20
  convergence := 1e-3
  minT := 0.01
  maxT := 0.99

def withIterations (c : RoundingConfig α) (n : Nat) : RoundingConfig α :=
  { c with iterations := Nat.max n 1 }

end RoundingConfig

namespace LoopConfig

def standard : LoopConfig α where
  chordTolerance := 0.01
  maxSegments := 64
  joinTolerance := 1e-6

def withChordTolerance (c : LoopConfig α) (x : α) : LoopConfig α :=
  { c with chordTolerance := Arith.max x 1e-9 }

def withMaxSegments (c : LoopConfig α) (n : Nat) : LoopConfig α :=
  { c with maxSegments := Nat.max n 1 }

end LoopConfig

namespace KernelConfig

def standard : KernelConfig α where
  backend := .mesh
  revolveSegments := 32
  tessellationTolerance := 0.1

def withRevolveSegments (c : KernelConfig α) (n : Nat) : KernelConfig α :=
  { c with revolveSegments := Nat.max n 3 }

def build (c : KernelConfig α) : Kernel α := .ofBackend c.backend c.revolveSegments

end KernelConfig

def EngineConfig.standard : EngineConfig α := ⟨.standard, .standard, .standard, .standard⟩

end Drafting
