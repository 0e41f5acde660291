import LeastSquares.Dimension
import LeastSquares.Options
import LeastSquares.Progress
import LeastSquares.Solve

/-!
# The solver

A request gives the matrix, the right-hand side, the solution to begin with and the options as
things of any kind. All of it is judged before anything is done; then the solve runs on arrays.

* `Request.prepare`: the judgement.
* `bidiagonalize`: a process that has not started.
* `Request.run`: a solve that updates the solution in place.
* `Request.ofGuess`: a solution to begin with, from a guess or from nothing.
* `Request.ofArguments`: the same, where the guess may be given among the options.
-/

namespace LeastSquares

open Log (Emission Registry Written)

/-- What is asked of the solver. The solution to begin with is updated; `callback` is what a
callback among the options does. -/
structure Request where
  x : Given
  source : Source
  b : Given
  options : List (String × Value)
  callback : Callback Double

/-- A request that has been judged, with the history that it asks for. -/
structure Prepared where
  x : Tensor
  operator : Operator
  b : Given
  settings : Settings
  type : ElementType
  history : Option (History Nat Double)

/-- What is to be seen of a solve: what it returned, the solution as it was left, the products that
were asked for, the calls of the callback, and the records that were emitted. -/
structure Report where
  result : Except Fault (Option (History Nat Double))
  x : Option Tensor
  asked : Tally
  calls : List (Nat × StoppingTests Double)
  emitted : List Emission

/-- What was written during a solve. -/
def Report.written (r : Report) : List Written := r.emitted.flatMap Emission.written

/-- A vector of zeros, if its length is one. -/
def zeroVector (type : ElementType) (n : Int) : Except Fault Tensor :=
  if n < 0 then .error .negativeExtent else .ok (.zeros type n.toNat)

/-- **A bidiagonalization process that has not started.** Its working type is the given one, if
there is one of that name, or that of the operator and the right-hand side. -/
def bidiagonalize (A : Operator) (b : Given) (x : Option Given)
    (type : Except Fault (Option ElementType)) :
    Except Fault (Bidiagonal Double Tensor Tensor) := do
  checkLength "b" b (.integer A.rows)
  x.forM fun x => checkLength "x" x (.integer A.cols)
  let type ← (← type).elim (solverType A b) pure
  let u ← b.copy type
  pure (.initial u (← zeroVector type A.cols))

/-- The starting point of a process, zero if none is given. -/
def startingPoint (A : Operator) (x : Option Given) (type : ElementType) : Except Fault Tensor :=
  match x with
  | some x => x.toTensor
  | none => zeroVector type A.cols

/-- The history of a solve, if it is kept. It needs all tolerances. -/
def Settings.history (s : Settings) : Except Fault (Option (History Nat Double)) :=
  if s.log then (Arithmetic.use s.ctol).map fun ctol => some (.initial 0 s.atol s.btol ctol)
  else .ok none

/-- Refuses options that have the name of another argument of a function. -/
def refuseTwice (function : String) (arguments : List String)
    (options : List (String × Value)) : Except Fault Unit :=
  match options.find? fun o => arguments.contains o.1 with
  | some o => .error (.givenTwice function o.1)
  | none => .ok ()

namespace Request

/-- **The judgement of a request**, in this order: no option has the name of another argument, the
solution can be updated, the matrix acts as an operator, the options are valid, the lengths agree,
the solution holds what is computed, the history can be kept. -/
def prepare (r : Request) : Except Fault Prepared := do
  refuseTwice "lsmr_inplace" ["x", "A", "b"] r.options
  let x ←
    match r.x with
    | .array t => pure t
    | _ => throw .notUpdatable
  let A ← r.source.toOperator
  let shape : List Value := [.integer A.rows, .integer A.cols]
  let options ← (← Options.ofList r.options).resolve shape
  let type := (← solverType A r.b).promote x.type
  let zero ← zeroVector type A.cols
  checkDimensions shape r.b r.x [("h", .array zero), ("hbar", .array zero)]
  if !x.type.accepts type then throw (.narrowTarget x.type type)
  let settings := Settings.ofOptions options
  pure ⟨x, A, r.b, settings, type, ← settings.history⟩

end Request

namespace Prepared

/-- The problem of a prepared request. -/
def problem (p : Prepared) : Problem Double Tensor Tensor :=
  { operator := p.operator.toLinear, damp := p.settings.damp, atol := p.settings.atol
    btol := p.settings.btol, ctol := p.settings.ctol, maxiter := p.settings.maxiter }

/-- The observers of a prepared request. -/
def observers (p : Prepared) (callback : Callback Double) : Observers Double :=
  .initial p.history p.settings.verbose (if p.settings.hasCallback then some callback else none)

/-- The solve of a prepared request. -/
def solve (p : Prepared) (callback : Callback Double) : Ending Double Tensor Tensor :=
  let o := p.observers callback
  match bidiagonalize p.operator p.b (some (.array p.x)) (.ok (some p.type)) with
  | .error e => .failed ⟨e, p.x, .zero, o⟩
  | .ok process =>
    p.problem.solve process p.x (.zeros p.type p.operator.cols.toNat) o

end Prepared

/-- **The records of some events** that a logger lets pass. -/
def emissions (g : Registry) (name : String) (events : List (Event Double)) : List Emission :=
  events.filterMap fun e => g.emit (Progress.record name e)

/-- What is written when a logger announces events. -/
def announceAll (g : Registry) (name : String) (events : List (Event Double)) : List Written :=
  (emissions g name events).flatMap Emission.written

/-- The report of a solve that has ended. -/
def Ending.report (e : Ending Double Tensor Tensor)
    (emitted : List (Event Double) → List Emission) : Report :=
  match e with
  | .returned s =>
    ⟨.ok s.observers.history, some s.iterate.x, s.process.asked, s.observers.calls,
      emitted s.observers.events⟩
  | .failed w =>
    ⟨.error w.fault, some w.x, w.asked, w.observers.calls, emitted w.observers.events⟩

namespace Request

/-- The solution as it was given, if it is an array. -/
def given? (r : Request) : Option Tensor :=
  match r.x with
  | .array t => some t
  | _ => none

/-- The report of a request that was refused. -/
def refused (r : Request) (e : Fault) : Report := ⟨.error e, r.given?, .zero, [], []⟩

/-- **A solve that updates the solution in place**, with the loggers before and after. The logger of
the solver is configured on its first use. -/
def run (r : Request) (g : Registry) : Report × Registry :=
  match r.prepare with
  | .error e => (r.refused e, g)
  | .ok p =>
    let ending := p.solve r.callback
    if p.settings.verbose then
      match (Registry.obtain (.text Log.solverName)).run g with
      | .ok name g => (ending.report (emissions g name), g)
      | .error _ g => (ending.report fun _ => [], g)
    else (ending.report fun _ => [], g)

/-- **A solution to begin with**: zeros, or a copy of a guess in a type that also holds what is
computed. -/
def ofGuess (source : Source) (b : Given) (guess : Option Given)
    (options : List (String × Value)) (callback : Callback Double) : Except Fault Request := do
  refuseTwice "lsmr" ["A", "b"] options
  let A ← source.toOperator
  let type ← solverType A b
  let x ←
    match guess with
    | none => zeroVector type A.cols
    | some x0 => do
      let t ← x0.toTensor
      pure (t.cast (type.promote t.type))
  pure ⟨.array x, .operator A, b, options, callback⟩

/-- The name of the guess among the options. -/
def guessName : String := "x0"

/-- The guess: the one that is given as an argument, or the option of its name, but not both. -/
def guessOf (argument : Option (Option Given)) (options : List (String × Value)) :
    Except Fault (Option Given) :=
  match argument, options.lookup guessName with
  | some _, some _ => .error (.namedTwice "pylsmr.lsmr.lsmr" guessName)
  | some guess, none => .ok guess
  | none, none | none, some .null => .ok none
  | none, some v => .ok (some (.plain (.ofValue v)))

/-- **A solution to begin with**, from a guess that is an argument or stands among the options. -/
def ofArguments (source : Source) (b : Given) (argument : Option (Option Given))
    (options : List (String × Value)) (callback : Callback Double) : Except Fault Request := do
  let guess ← guessOf argument options
  ofGuess source b guess (options.filter fun o => o.1 != guessName) callback

end Request

end LeastSquares
