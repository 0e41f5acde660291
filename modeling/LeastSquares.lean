import LeastSquares.Binary64
import LeastSquares.Wide
import LeastSquares.Number
import LeastSquares.Decimal.Digits
import LeastSquares.Decimal.Text
import LeastSquares.Decimal.ByteSize
import LeastSquares.Decimal.Reading
import LeastSquares.Text.Printable
import LeastSquares.Text.Quoted
import LeastSquares.Text.Numeral
import LeastSquares.Text.WordCharacter
import LeastSquares.Text.Conversion
import LeastSquares.Value
import LeastSquares.ElementType
import LeastSquares.Fault
import LeastSquares.Arithmetic
import LeastSquares.Rotation
import LeastSquares.Estimate.Residual
import LeastSquares.Estimate.Norm
import LeastSquares.Stopping
import LeastSquares.Bidiagonal
import LeastSquares.History
import LeastSquares.Observer
import LeastSquares.Solve
import LeastSquares.Chain
import LeastSquares.Scalar
import LeastSquares.Tensor
import LeastSquares.Plain
import LeastSquares.PlainMatrix
import LeastSquares.Held
import LeastSquares.Sparse
import LeastSquares.Operator
import LeastSquares.Dimension
import LeastSquares.Options
import LeastSquares.Log.Message
import LeastSquares.Log.Template
import LeastSquares.Log.Registry
import LeastSquares.Progress
import LeastSquares.Solver
import LeastSquares.Counting
import LeastSquares.Difference
import LeastSquares.Blur
import LeastSquares.Plot
import LeastSquares.Proofs.Exact
import LeastSquares.Proofs.Process
import LeastSquares.Proofs.Orthogonal
import LeastSquares.Proofs.Rotations
import LeastSquares.Proofs.Factorization
import LeastSquares.Proofs.Course
import LeastSquares.Proofs.Normal
import LeastSquares.Proofs.Damped
import LeastSquares.Proofs.Iterations
import LeastSquares.Proofs.RealSolve
import LeastSquares.Proofs.NormalCourse
import LeastSquares.Proofs.Ongoing
import LeastSquares.Proofs.Solution
import LeastSquares.Proofs.Termination
import LeastSquares.Proofs.Objective
import LeastSquares.Proofs.MinimumNorm
import LeastSquares.Proofs.Stacking
import LeastSquares.Proofs.Steps
import LeastSquares.Proofs.Calls
import LeastSquares.Proofs.Halves
import LeastSquares.Proofs.Independence
import LeastSquares.Proofs.Closure
import LeastSquares.Proofs.Record
import LeastSquares.Proofs.Frobenius
import LeastSquares.Proofs.Convergence
import LeastSquares.Proofs.Singular
import LeastSquares.Proofs.Condition
import LeastSquares.Proofs.Alternation
import LeastSquares.Proofs.Descent
import LeastSquares.Proofs.Bidiagonals
import LeastSquares.Proofs.Chains
import LeastSquares.Proofs.Judgement
import LeastSquares.Proofs.Failures
import LeastSquares.Proofs.NotANumber
import LeastSquares.Proofs.Loosening
import LeastSquares.Proofs.Isometry
import LeastSquares.Proofs.Scaling
import LeastSquares.Proofs.ScalarFaults
import LeastSquares.Proofs.Divisors
import LeastSquares.Proofs.Columns
import LeastSquares.Proofs.BesideOne
import LeastSquares.Proofs.ZeroTolerances
import LeastSquares.Proofs.Damping
import LeastSquares.Proofs.Magnitude
import LeastSquares.Proofs.Resolution
import LeastSquares.Proofs.Nullspace
import LeastSquares.Proofs.Narration
import LeastSquares.Proofs.Lines
import LeastSquares.Proofs.Handlers
