import LeastSquares.Fault
import LeastSquares.Scalar

/-!
# Options of a solve

Options are given by name as values of any kind. They are judged together once the shape of the
operator is known: tolerances and damping must not be negative, the callback must be callable, and
the budget of iterations becomes a natural number.

* `Options.ofList`: options by name.
* `Options.ctol`: the inverse of the limit of the condition number.
* `Options.resolve`: the judgement, in the order of the fields.
* `Settings.ofOptions`: what a solve takes from resolved options.
-/

namespace LeastSquares

/-- **The options of a solve.** -/
structure Options where
  /-- The regularization parameter `λ` in `‖A x - b‖² + λ² ‖x‖²`. -/
  damp : Value := .number 0
  /-- The tolerance for the normal equations. -/
  atol : Value := .number 1e-6
  /-- The tolerance for the residual. -/
  btol : Value := .number 1e-6
  /-- The limit of the condition number; zero disables the rule. -/
  conlim : Value := .number 1e8
  /-- The budget of iterations; if it is absent, the larger extent of the operator. -/
  maxiter : Value := .null
  /-- Whether the history is returned. -/
  log : Value := .boolean false
  /-- Whether progress is logged. -/
  verbose : Value := .boolean false
  /-- What is called after every iteration. -/
  callback : Value := .null

namespace Options

/-- The options with one of them set. -/
def set (o : Options) (name : String) (v : Value) : Except Fault Options :=
  match name with
  | "damp" => .ok { o with damp := v }
  | "atol" => .ok { o with atol := v }
  | "btol" => .ok { o with btol := v }
  | "conlim" => .ok { o with conlim := v }
  | "maxiter" => .ok { o with maxiter := v }
  | "log" => .ok { o with log := v }
  | "verbose" => .ok { o with verbose := v }
  | "callback" => .ok { o with callback := v }
  | "self" => .error (.givenTwice "LSMROptions.__init__" name)
  | _ => .error (.unknownOption name)

/-- **Options by name**; those that are not named have their defaults. -/
def ofList (given : List (String × Value)) : Except Fault Options :=
  given.foldlM (fun o (name, v) => o.set name v) {}

/-- The comparison of an option with zero, written with `sign` in the message if there is none. -/
def compareZero (sign : String) (v : Value) : Except Fault Sign :=
  match v.sign with
  | some s => .ok s
  | none => .error (.notComparable sign v (.integer 0))

/-- An option that must not be negative. -/
def requireNonnegative (name : String) (v : Value) : Except Fault Unit := do
  if (← compareZero "<" v) = .negative then throw (.negativeOption name v)

/-- The quotient of one by a positive number; an integer must not be too large for a double. -/
def reciprocal (v : Value) : Except Fault Float :=
  (Fault.double v).map fun x => 1 / x

/-- **The tolerance for the inverse of the condition number**: that of a positive limit, and zero
otherwise. -/
def ctol (o : Options) : Except Fault Float := do
  if (← compareZero ">" o.conlim) = .positive then reciprocal o.conlim else pure 0

/-- The whole part of a number, where it has one. -/
def wholePart (v : Value) : Except Fault Int :=
  match v with
  | .number x =>
    match Binary64.truncate x with
    | some n => .ok n
    | none => .error (if x.isNaN then .integerOfNan else .integerOfInfinity)
  | _ => .ok (v.toInt?.getD 0)

/-- The largest extent of a shape, whose extents must compare. -/
def largest (shape : List Value) : Except Fault Value :=
  match shape with
  | [] => .error .emptyShape
  | n :: rest => rest.foldlM (fun m v => do pure (if ← Fault.exceeds v m then v else m)) n

/-- **The judgement of the options**, in the order of the fields. The budget becomes an integer:
the largest extent of the operator if it is absent, and otherwise the whole part of the number that
was given. -/
def resolve (o : Options) (shape : List Value) : Except Fault Options := do
  requireNonnegative "damp" o.damp
  requireNonnegative "atol" o.atol
  requireNonnegative "btol" o.btol
  requireNonnegative "conlim" o.conlim
  if !o.callback.isNull && !o.callback.isCallable then throw .notCallable
  if o.maxiter.isNull then
    pure { o with maxiter := ← largest shape }
  else
    requireNonnegative "maxiter" o.maxiter
    pure { o with maxiter := .integer (← wholePart o.maxiter) }

end Options

/-- What a solve takes from resolved options. -/
structure Settings where
  damp : Double
  atol : Double
  btol : Double
  ctol : Double
  maxiter : Nat
  log : Bool
  verbose : Bool
  hasCallback : Bool

/-- The settings of resolved options: numbers are checked, the budget is a natural number, and any
value tells whether it counts as true. A limit of the condition number that no double can hold
leaves a tolerance that cannot be used either. -/
def Settings.ofOptions (o : Options) : Settings :=
  { damp := .ofValue o.damp
    atol := .ofValue o.atol
    btol := .ofValue o.btol
    ctol := (o.ctol.toOption.map Double.ofFloat).getD .oversized
    maxiter := (o.maxiter.toInt?.getD 0).toNat
    log := o.log.truthy
    verbose := o.verbose.truthy
    hasCallback := !o.callback.isNull }

end LeastSquares
