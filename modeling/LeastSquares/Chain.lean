import LeastSquares.Estimate.Norm
import LeastSquares.Estimate.Residual
import LeastSquares.Stopping

/-!
# The recurrences without vectors

The scalars of a solve depend on the vectors only through the entries of the bidiagonal and the norm
of the solution. Given these, the recurrences run on their own.

* `Recurrences.initial`, `Recurrences.advance`: the three states, and one iteration of all of them.
* `Recurrences.trace`: the iterations of a sequence of entries, up to a failure.
-/

namespace LeastSquares

open Arithmetic

/-- The three states that the scalars of a solve consist of. -/
structure Recurrences (α : Type) where
  rotation : Rotation α
  residual : ResidualEstimate α
  norms : NormEstimate α

/-- What a step of the bidiagonalization and the update of the solution give to the scalars: the
next entries of the bidiagonal and the norm of the solution. -/
structure Entries (α : Type) where
  alpha : α
  beta : α
  normx : α

/-- What the scalars are compared with. -/
structure Tolerances (α : Type) where
  damp : α
  atol : α
  btol : α
  ctol : α
  maxiter : Int

/-- One iteration of the scalars. -/
structure Recurrences.Row (α : Type) where
  state : Recurrences α
  step : RotationStep α
  normr : α
  values : NormEstimate.Values α
  tests : StoppingTests α
  stop : StopReason

namespace Recurrences

variable {α : Type} [Arithmetic α]

/-- The states before the first iteration. -/
def initial (alpha beta : α) : Except Fault (Recurrences α) := do
  let norms ← NormEstimate.initial alpha
  pure ⟨.initial alpha beta, .initial beta, norms⟩

/-- **One iteration**: the rotations, the two estimates, the statistics and the rules. -/
def advance (s : Recurrences α) (P : Tolerances α) (normb : α) (e : Entries α)
    (iteration : Int) : Except Fault (Row α) := do
  let (rotation, step) ← s.rotation.advance e.alpha e.beta P.damp
  let (residual, normr) ← s.residual.advance step rotation
  let (norms, values) ← s.norms.advance e.alpha e.beta step iteration
  let tests ← StoppingTests.compute normr (Arithmetic.abs rotation.zetabar) values.norma
    values.conda e.normx normb P.atol P.btol
  pure
    { state := ⟨rotation, residual, norms⟩, step := step, normr := normr, values := values
      tests := tests, stop := tests.check iteration P.maxiter P.atol (← use P.ctol) }

/-- The iterations of a sequence of entries from a state on, which is the one after `done`
iterations. Rules that fire end nothing; a failure does. -/
def traceFrom (P : Tolerances α) (normb : α) (s : Recurrences α) (done : Nat) :
    List (Entries α) → List (Except Fault (Row α))
  | [] => []
  | e :: rest =>
    match s.advance P normb e (done + 1 : Nat) with
    | .error f => [.error f]
    | .ok row => .ok row :: traceFrom P normb row.state (done + 1) rest

/-- **The iterations of a sequence of entries**, after the states they start from. -/
def trace (P : Tolerances α) (alpha beta : α) (entries : List (Entries α)) :
    Except Fault (Recurrences α × List (Except Fault (Row α))) := do
  let s ← initial alpha beta
  pure (s, traceFrom P beta s 0 entries)

/-- The iterations for a budget of any kind. One that is no number fails where it is first
compared. -/
def traceValues (P : Tolerances α) (maxiter : Value) (alpha beta : α) (entries : List (Entries α)) :
    Except Fault (Recurrences α × List (Except Fault (Row α))) := do
  let far : Int := entries.length + 1
  let (s, rows) ← trace { P with maxiter := (maxiter.ceiling? far).getD far } alpha beta entries
  match StoppingTests.isUsedUp (.integer 1) maxiter with
  | .ok _ => pure (s, rows)
  | .error f => pure (s, (rows.take 1).map fun row => row.bind fun _ => .error f)

end Recurrences

end LeastSquares
