import Drafting.Archive.Config
import Drafting.Archive.Script
import Drafting.Archive.Sketch
import Drafting.Curve.Intersection
import Drafting.Curve.Parametric
import Drafting.Expr.Vector
import Drafting.Group.Assembly
import Drafting.Group.Generate
import Drafting.Group.Kind
import Drafting.Group.Remap
import Drafting.Linear.Banded
import Drafting.Regeneration.Pass
import Drafting.Registry
import Drafting.Scalar.Exact
import Drafting.Scalar.Field
import Drafting.Sketch.Edit
import Drafting.Sketch.Request
import Drafting.Sketch.Rounding
import Drafting.Sketch.Splitting
import Drafting.Solid.Kernel
import Drafting.Solve.Group
import Drafting.Proofs.Access
import Drafting.Proofs.ArcLength
import Drafting.Proofs.Arcs
import Drafting.Proofs.Band
import Drafting.Proofs.Cancelling
import Drafting.Proofs.Casts
import Drafting.Proofs.Chains
import Drafting.Proofs.Change
import Drafting.Proofs.Clipping
import Drafting.Proofs.Closed
import Drafting.Proofs.Comparing
import Drafting.Proofs.Confined
import Drafting.Proofs.Consistent
import Drafting.Proofs.Copies
import Drafting.Proofs.Corners
import Drafting.Proofs.Cycle
import Drafting.Proofs.Defined
import Drafting.Proofs.Dependency
import Drafting.Proofs.Derivative
import Drafting.Proofs.Detaching
import Drafting.Proofs.Distances
import Drafting.Proofs.Divisors
import Drafting.Proofs.Documents
import Drafting.Proofs.Drawing
import Drafting.Proofs.Ears
import Drafting.Proofs.Elimination
import Drafting.Proofs.Endings
import Drafting.Proofs.Erasing
import Drafting.Proofs.Evaluation
import Drafting.Proofs.Exact
import Drafting.Proofs.Expression
import Drafting.Proofs.FailedGroup
import Drafting.Proofs.Failing
import Drafting.Proofs.Firm
import Drafting.Proofs.Flagged
import Drafting.Proofs.Folding
import Drafting.Proofs.Forcing
import Drafting.Proofs.Generate
import Drafting.Proofs.Gradient
import Drafting.Proofs.Handles
import Drafting.Proofs.Intact
import Drafting.Proofs.Inventory
import Drafting.Proofs.Iterates
import Drafting.Proofs.LeastSquares
import Drafting.Proofs.Mapping
import Drafting.Proofs.Marking
import Drafting.Proofs.Measured
import Drafting.Proofs.Meetings
import Drafting.Proofs.Meshes
import Drafting.Proofs.Mirror
import Drafting.Proofs.Motion
import Drafting.Proofs.Naming
import Drafting.Proofs.Order
import Drafting.Proofs.Parity
import Drafting.Proofs.Pass
import Drafting.Proofs.Passes
import Drafting.Proofs.Pivoting
import Drafting.Proofs.Placing
import Drafting.Proofs.Planar
import Drafting.Proofs.Polyline
import Drafting.Proofs.Projection
import Drafting.Proofs.Quaternion
import Drafting.Proofs.Rank
import Drafting.Proofs.Reading
import Drafting.Proofs.Rebuild
import Drafting.Proofs.Registry
import Drafting.Proofs.Reloaded
import Drafting.Proofs.Renewed
import Drafting.Proofs.Repeated
import Drafting.Proofs.Residual
import Drafting.Proofs.Resolved
import Drafting.Proofs.Result
import Drafting.Proofs.Revolution
import Drafting.Proofs.Rotation
import Drafting.Proofs.Running
import Drafting.Proofs.Scalar
import Drafting.Proofs.Session
import Drafting.Proofs.Shedding
import Drafting.Proofs.Shells
import Drafting.Proofs.SlotUse
import Drafting.Proofs.Solid
import Drafting.Proofs.Solve
import Drafting.Proofs.SplitPoint
import Drafting.Proofs.Splitting
import Drafting.Proofs.Standing
import Drafting.Proofs.Steady
import Drafting.Proofs.Stopping
import Drafting.Proofs.Storage
import Drafting.Proofs.Subdivision
import Drafting.Proofs.Substitution
import Drafting.Proofs.Turns
import Drafting.Proofs.Typing
import Drafting.Proofs.Undo
import Drafting.Proofs.Validated
import Drafting.Proofs.Volume
import Drafting.Proofs.Watertight
import Drafting.Proofs.Workplanes
