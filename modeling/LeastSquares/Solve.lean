import LeastSquares.Bidiagonal
import LeastSquares.Estimate.Norm
import LeastSquares.Estimate.Residual
import LeastSquares.Observer

/-!
# The solve

Minimizes `‖A x - b‖² + damp² ‖x‖²` by the bidiagonalization of `A` and two chains of rotations. The
method is equivalent to minimal residuals on the normal equations `(Aᴴ A + damp² I) x = Aᴴ b`.

Everything that a run carries is one value, `Run`; an iteration changes it, and a failure leaves it
as it was when it failed.

* `Run.begin`: the state after the start of the process.
* `Run.advance`: one iteration.
* `Run.loop`: iterations until a rule fires or the budget is used up.
* `Problem.solve`: a whole solve.
-/

namespace LeastSquares

open Arithmetic

/-- A problem, and how its solve is to end and to be watched. -/
structure Problem (α U V : Type) where
  operator : LinearOperator V U
  damp : α
  atol : α
  btol : α
  ctol : α
  maxiter : Nat

/-- Everything that a solve carries from one iteration to the next. -/
structure Run (α U V : Type) where
  process : Bidiagonal α U V
  rotation : Rotation α
  residual : ResidualEstimate α
  norms : NormEstimate α
  iterate : Iterate V
  /-- The norm of the first residual. -/
  normb : α
  normr : α
  normar : α
  norma : α
  conda : Extended α
  normx : α
  iteration : Nat
  stop : StopReason
  observers : Observers α

/-- Acts on a part of a state. -/
def onPart {σ τ ε α : Type} (get : σ → τ) (set : τ → σ → σ) (action : EStateM ε τ α) :
    EStateM ε σ α := fun s =>
  match action (get s) with
  | .ok a t => .ok a (set t s)
  | .error e t => .error e (set t s)

namespace Run

variable {α U V : Type} [Arithmetic α] [Vectors α U] [Vectors α V]

/-- Acts on the process. -/
def onProcess {β : Type} (action : EStateM Fault (Bidiagonal α U V) β) :
    EStateM Fault (Run α U V) β :=
  onPart Run.process (fun p s => { s with process := p }) action

/-- Acts on the solution and its directions. -/
def onIterate {β : Type} (action : EStateM Fault (Iterate V) β) :
    EStateM Fault (Run α U V) β :=
  onPart Run.iterate (fun w s => { s with iterate := w }) action

/-- Acts on the observers. -/
def onObservers {β : Type} (action : EStateM Fault (Observers α) β) :
    EStateM Fault (Run α U V) β :=
  onPart Run.observers (fun o s => { s with observers := o }) action

/-- **The state after the start of the process**, for a solution `x` and a vector of zeros. -/
def begin (p : Bidiagonal α U V) (x zero : V) (o : Observers α) :
    Except Fault (Run α U V) := do
  let norms ← NormEstimate.initial p.alpha
  pure
    { process := p
      rotation := .initial p.alpha p.beta
      residual := .initial p.beta
      norms := norms
      iterate := ⟨x, p.v, zero⟩
      normb := p.beta
      normr := p.beta
      normar := p.alpha * p.beta
      norma := p.alpha
      conda := .finite 1
      normx := Vectors.norm x
      iteration := 0
      stop := .ongoing
      observers := o }

/-- **One iteration**: a step of the process, the rotations, the update of the solution, the
estimates, the observers, the rules. -/
def advance (P : Problem α U V) : EStateM Fault (Run α U V) Unit := do
  modify fun s => { s with iteration := s.iteration + 1 }
  onProcess (Bidiagonal.step P.operator)
  let s ← get
  let alpha := s.process.alpha
  let beta := s.process.beta
  let (rotation, t) ← ofExcept (s.rotation.advance alpha beta P.damp)
  modify fun s => { s with rotation := rotation }
  onIterate (Iterate.update rotation t s.process.v)
  let (residual, normr) ← ofExcept (s.residual.advance t rotation)
  modify fun s => { s with residual := residual, normr := normr }
  let (norms, values) ← ofExcept (s.norms.advance alpha beta t s.iteration)
  modify fun s =>
    { s with
      norms := norms, norma := values.norma, conda := values.conda
      normar := Arithmetic.abs rotation.zetabar, normx := Vectors.norm s.iterate.x }
  let s ← get
  let tests ← ofExcept
    (StoppingTests.compute s.normr s.normar s.norma s.conda s.normx s.normb P.atol P.btol)
  onObservers (Observers.see s.iteration tests)
  let ctol ← ofExcept (use P.ctol)
  modify fun s => { s with stop := tests.check s.iteration P.maxiter P.atol ctol }

/-- **Iterations until a rule fires**, or as many as the budget allows. -/
def loop (P : Problem α U V) : Nat → EStateM Fault (Run α U V) Unit
  | 0 => pure ()
  | budget + 1 => do
    advance P
    if (← get).stop = .ongoing then loop P budget

/-- The estimates with which a run ends. -/
def summary (s : Run α U V) : Summary α := ⟨s.norma, s.normr, s.normar, s.conda, s.normx⟩

/-- A run that has ended, with its observers told. -/
def close (s : Run α U V) : Run α U V :=
  { s with
    observers := s.observers.finish s.process.counted s.stop s.summary s.iteration }

/-- Whether there is anything to do: `alpha * beta` of the start does not vanish. -/
def isOpen (s : Run α U V) : Bool := !eq s.normar 0

end Run

/-- What a failed solve leaves behind. -/
structure Wreck (α V : Type) where
  fault : Fault
  x : V
  asked : Tally
  observers : Observers α

/-- How a solve ends: with a run that is closed, or with a failure. -/
inductive Ending (α U V : Type) where
  | returned (s : Run α U V)
  | failed (w : Wreck α V)

/-- **A whole solve**, from a process that has not started, a solution `x` to begin with, and a
vector of zeros. There is nothing to iterate if the first residual, or its product with the adjoint,
vanishes. -/
def Problem.solve {α U V : Type} [Arithmetic α] [Vectors α U] [Vectors α V] (P : Problem α U V)
    (p : Bidiagonal α U V) (x zero : V) (o : Observers α) : Ending α U V :=
  match (Bidiagonal.start P.operator x).run p with
  | .error e p => .failed ⟨e, x, p.asked, o⟩
  | .ok _ p =>
    match Run.begin p x zero o with
    | .error e => .failed ⟨e, x, p.asked, o⟩
    | .ok s =>
      match (if s.isOpen then Run.loop P P.maxiter else pure ()).run s with
      | .error e s => .failed ⟨e, s.iterate.x, s.process.asked, s.observers⟩
      | .ok _ s => .returned s.close

end LeastSquares
