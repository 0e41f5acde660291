import LeastSquares.Rotation

/-!
# The running estimates of the norm and the condition number

The squares of all entries of the bidiagonal add up to the square of a norm of the operator; the
extremes of the diagonal that the rotations leave bound its condition number from below.

* `NormEstimate.initial`, `NormEstimate.advance`: the state before the first iteration, and after
  one more together with both estimates.
-/

namespace LeastSquares

open Arithmetic

/-- What the estimates of the norm and of the condition number carry along. -/
structure NormEstimate (α : Type) where
  normA2 : α
  maxrbar : α
  minrbar : α

/-- The two estimates of one iteration. -/
structure NormEstimate.Values (α : Type) where
  norma : α
  conda : Extended α

namespace NormEstimate

variable {α : Type} [Arithmetic α]

/-- The state before the first iteration. The least diagonal entry starts from `10 ^ 100`. -/
def initial (alpha : α) : Except Fault (NormEstimate α) := do
  pure ⟨← square alpha, 0, ofNat (Nat.pow 10 100)⟩

/-- The estimates of one iteration, the first one or, if `isLater` says so, a later one. -/
def advanceIf (e : NormEstimate α) (alpha beta : α) (t : RotationStep α)
    (isLater : Except Fault Bool) : Except Fault (NormEstimate α × Values α) := do
  let normA2 := e.normA2 + (← square beta)
  let norma ← sqrt normA2
  let normA2 := normA2 + (← square alpha)
  let maxrbar := larger e.maxrbar t.rhobarold
  let minrbar := if ← isLater then smaller e.minrbar t.rhobarold else e.minrbar
  let least := smaller minrbar t.rhotemp
  let conda ←
    if eq least 0 then pure .infinite
    else (div (larger maxrbar t.rhotemp) least).map Extended.finite
  pure (⟨normA2, maxrbar, minrbar⟩, ⟨norma, conda⟩)

/-- **The estimates of one iteration.** That of the norm includes `beta` of this iteration, and
`alpha` only from the next one on. The condition number is infinite if the least entry vanishes. -/
def advance (e : NormEstimate α) (alpha beta : α) (t : RotationStep α) (iteration : Int) :
    Except Fault (NormEstimate α × Values α) :=
  e.advanceIf alpha beta t (.ok (decide (1 < iteration)))

/-- The estimates of an iteration whose number is of any kind. -/
def advanceValue (e : NormEstimate α) (alpha beta : α) (t : RotationStep α) (iteration : Value) :
    Except Fault (NormEstimate α × Values α) :=
  e.advanceIf alpha beta t (Fault.exceeds iteration (.integer 1))

end NormEstimate

end LeastSquares
