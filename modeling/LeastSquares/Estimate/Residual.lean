import LeastSquares.Rotation

/-!
# The running estimate of the residual

A further chain of rotations (`Q̃`), one step behind the primary one, carries the right-hand side
along. It yields the norm of the damped residual without forming the residual.

* `ResidualEstimate.initial`, `ResidualEstimate.advance`: the state before the first iteration, and
  after one more together with the norm.
-/

namespace LeastSquares

open Arithmetic

/-- What the estimate of the residual carries from one iteration to the next. -/
structure ResidualEstimate (α : Type) where
  betadd : α
  betad : α
  rhodold : α
  tautildeold : α
  thetatilde : α
  d : α

namespace ResidualEstimate

variable {α : Type} [Arithmetic α]

/-- The state before the first iteration. -/
def initial (beta : α) : ResidualEstimate α := ⟨beta, 0, 1, 0, 0, 0⟩

/-- **One application of `Q̂`, `Q` and the lagged `Q̃` to the right-hand side.** The step and the
rotation are those of this iteration. The second result is the norm of the residual. -/
def advance (e : ResidualEstimate α) (t : RotationStep α) (q : Rotation α) :
    Except Fault (ResidualEstimate α × α) := do
  let betaacute := t.chat * e.betadd
  let betacheck := -t.shat * e.betadd
  let betahat := t.c * betaacute
  let betadd := -t.s * betaacute
  let tilde ← PlaneRotation.ofPair e.rhodold t.thetabar
  let thetatilde := tilde.s * q.rhobar
  let rhodold := tilde.c * q.rhobar
  let betad := -tilde.s * e.betad + tilde.c * betahat
  let tautildeold ← div (t.zetaold - e.thetatilde * e.tautildeold) tilde.r
  let taud ← div (q.zeta - thetatilde * tautildeold) rhodold
  let d := e.d + (← square betacheck)
  let normr ← sqrt (d + (← square (betad - taud)) + (← square betadd))
  pure
    ({ betadd := betadd, betad := betad, rhodold := rhodold, tautildeold := tautildeold,
       thetatilde := thetatilde, d := d }, normr)

end ResidualEstimate

end LeastSquares
