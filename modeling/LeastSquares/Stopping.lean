import LeastSquares.Arithmetic

/-!
# Stopping rules

After every iteration three statistics are compared with the tolerances: the relative residual, the
relative residual of the normal equations, and the inverse of the condition number. Rules at the
precision of the machine come before the ones that use tolerances, and stand in for tolerances of
zero.

* `StopReason`: why an iteration ended, with the classical codes.
* `StoppingTests.compute`: the statistics.
* `StoppingTests.check`: the first rule that fires.
-/

namespace LeastSquares

open Arithmetic

/-- Why an iteration ended. -/
inductive StopReason where
  /-- No rule has fired; before the first iteration: the start already solves the problem. -/
  | ongoing
  /-- `‖r‖ / ‖b‖ ≤ btol + atol * ‖A‖ * ‖x‖ / ‖b‖`. -/
  | btol
  /-- `‖Aᴴ r‖ / (‖A‖ * ‖r‖) ≤ atol`. -/
  | atol
  /-- The condition number is estimated at `conlim` or more. -/
  | conlim
  /-- As `btol`, at the precision of the machine. -/
  | btolEps
  /-- As `atol`, at the precision of the machine. -/
  | atolEps
  /-- The inverse of the condition number is below the precision of the machine. -/
  | condEps
  /-- The budget of iterations is used up. -/
  | maxiter
  deriving DecidableEq

namespace StopReason

/-- All reasons, in the order of their codes. -/
def all : List StopReason :=
  [.ongoing, .btol, .atol, .conlim, .btolEps, .atolEps, .condEps, .maxiter]

/-- The classical code. -/
def code : StopReason → Nat
  | .ongoing => 0
  | .btol => 1
  | .atol => 2
  | .conlim => 3
  | .btolEps => 4
  | .atolEps => 5
  | .condEps => 6
  | .maxiter => 7

/-- The name of a reason. -/
def name : StopReason → String
  | .ongoing => "CONTINUE"
  | .btol => "BTOL"
  | .atol => "ATOL"
  | .conlim => "CONLIM"
  | .btolEps => "BTOL_EPS"
  | .atolEps => "ATOL_EPS"
  | .condEps => "COND_EPS"
  | .maxiter => "MAXITER"

/-- Whether a reason means that the solution is as good as was asked for. -/
def converged : StopReason → Bool
  | .conlim | .condEps | .maxiter => false
  | _ => true

/-- What a reason says to the user. -/
def message : StopReason → String
  | .ongoing => "The exact solution is x = x0"
  | .btol => "Ax - b is small enough, given atol, btol"
  | .atol => "The least-squares solution is good enough, given atol"
  | .conlim => "The estimate of cond(Abar) has exceeded conlim"
  | .btolEps => "Ax - b is small enough for this machine"
  | .atolEps => "The least-squares solution is good enough for this machine"
  | .condEps => "Cond(Abar) seems to be too large for this machine"
  | .maxiter => "The iteration limit has been reached"

/-- The reason of a code. -/
def ofCode? (n : Int) : Option StopReason := all.find? fun r => (r.code : Int) == n

/-- **The reason that a value stands for**: a truth value or a double that equals a code is that
code, and nothing else is one. -/
def ofValue? : Value → Option StopReason
  | .integer n => ofCode? n
  | .boolean b => ofCode? (if b then 1 else 0)
  | .number x => all.find? fun r => Binary64.ofInt r.code == x
  | _ => none

end StopReason

/-- The statistics of an iteration, and the quantities that the rules derive from them. -/
structure StoppingTests (α : Type) where
  /-- The relative residual `‖r‖ / ‖b‖`. -/
  test1 : α
  /-- The relative residual of the normal equations, `‖Aᴴ r‖ / (‖A‖ * ‖r‖)`. -/
  test2 : Extended α
  /-- The inverse of the condition number. -/
  test3 : α
  /-- `test1 / (1 + ‖A‖ * ‖x‖ / ‖b‖)`. -/
  t1 : α
  /-- `btol + atol * ‖A‖ * ‖x‖ / ‖b‖`. -/
  rtol : α

namespace StoppingTests

variable {α : Type} [Arithmetic α]

/-- **The statistics**, from the current estimates. The second one is infinite if the residual or
the norm is not positive. -/
def compute (normr normar norma : α) (conda : Extended α) (normx normb atol btol : α) :
    Except Fault (StoppingTests α) := do
  let test1 ← div normr normb
  let test2 ←
    if lt 0 normr && lt 0 norma then (div normar (norma * normr)).map Extended.finite
    else pure .infinite
  let test3 ← conda.reciprocal
  let t1 ← div test1 (1 + (← div (norma * normx) normb))
  let slack ← div ((← use atol) * norma * normx) normb
  pure ⟨test1, test2, test3, t1, (← use btol) + slack⟩

/-- **The first rule that fires**, in order of priority. -/
def check (t : StoppingTests α) (iteration maxiter : Int) (atol ctol : α) : StopReason :=
  if maxiter ≤ iteration then .maxiter
  else if le (1 + t.test3) 1 then .condEps
  else if t.test2.isNegligible then .atolEps
  else if le (1 + t.t1) 1 then .btolEps
  else if le t.test3 ctol then .conlim
  else if t.test2.le atol then .atol
  else if le t.test1 t.rtol then .btol
  else .ongoing

/-- Whether an iteration number of any kind has used up a budget of any kind. -/
def isUsedUp (iteration maxiter : Value) : Except Fault Bool :=
  match iteration.atLeast? maxiter with
  | some b => .ok b
  | none => .error (.notComparable ">=" iteration maxiter)

/-- The first rule that fires, for an iteration number and a budget of any kind. -/
def checkValues (t : StoppingTests α) (iteration maxiter : Value) (atol ctol : α) :
    Except Fault StopReason := do
  if ← isUsedUp iteration maxiter then pure .maxiter else pure (t.check 0 1 atol ctol)

end StoppingTests

end LeastSquares
