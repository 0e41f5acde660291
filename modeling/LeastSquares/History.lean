import LeastSquares.Stopping

/-!
# The record of a solve

A history keeps the tolerances, the statistics of every iteration, the numbers of products and the
estimates at the end. Iteration numbers and counts may be of any type: a solve uses natural numbers,
a history that is filled by hand takes values of any kind.

* `History.record`, `History.count`, `History.finalize`: what is written.
* `History.series`: one of the three sequences of statistics, by its key.
* `History.length`: the number of iterations, as far as it is one.
-/

namespace LeastSquares

/-- The estimates with which a solve ends. -/
structure Summary (α : Type) where
  normA : α
  normR : α
  normAR : α
  condA : Extended α
  normX : α

/-- The record of one solve. The statistics stand in the order of the iterations. -/
structure History (ι α : Type) where
  atol : α
  btol : α
  ctol : α
  iters : ι
  products : ι
  adjointProducts : ι
  tests : List (StoppingTests α)
  stop : Option StopReason
  summary : Option (Summary α)

namespace History

variable {ι α : Type}

/-- An empty history; `zero` is the number of iterations and products so far. -/
def initial (zero : ι) (atol btol ctol : α) : History ι α :=
  ⟨atol, btol, ctol, zero, zero, zero, [], none, none⟩

/-- Writes down the statistics of an iteration. -/
def record (h : History ι α) (iteration : ι) (t : StoppingTests α) : History ι α :=
  { h with iters := iteration, tests := h.tests ++ [t] }

/-- Writes down the numbers of products. -/
def count (h : History ι α) (products adjointProducts : ι) : History ι α :=
  { h with products := products, adjointProducts := adjointProducts }

/-- Writes down how a solve has ended. -/
def finalize (h : History ι α) (stop : StopReason) (s : Summary α) : History ι α :=
  { h with stop := some stop, summary := some s }

/-- Whether the solve has ended, and as well as was asked for. -/
def isConverged (h : History ι α) : Bool :=
  match h.stop with
  | some r => r.converged
  | none => false

/-- The three sequences of statistics. -/
inductive Key where
  | anorm
  | rnorm
  | cnorm
  deriving DecidableEq

/-- All keys, in the order in which they are listed. -/
def Key.all : List Key := [.anorm, .rnorm, .cnorm]

/-- The name of a key. -/
def Key.name : Key → String
  | .anorm => "anorm"
  | .rnorm => "rnorm"
  | .cnorm => "cnorm"

/-- The key that a value names. -/
def Key.ofValue? : Value → Option Key
  | .text s => Key.all.find? fun k => k.name == s
  | _ => none

/-- The statistic of a key. -/
def Key.select (k : Key) (t : StoppingTests α) : Extended α :=
  match k with
  | .anorm => t.test2
  | .rnorm => .finite t.test1
  | .cnorm => .finite t.test3

/-- **The sequence of a key**, one entry per record, as an array of doubles. -/
def series [ToDouble α] (h : History ι α) (k : Key) : List (Extended Float) :=
  h.tests.map fun t => (k.select t).map ToDouble.toDouble

end History

/-- Why a history cannot be read or ended as it was asked. -/
inductive HistoryFault where
  /-- There is no sequence of this key. -/
  | unknownKey (key : Value)
  /-- A value of this kind is no key. -/
  | notKey (given : Value)
  /-- The number of iterations is no integer. -/
  | lengthNotInteger (iters : Value)
  /-- The number of iterations is negative. -/
  | lengthNegative
  /-- The number of iterations is larger than any length. -/
  | lengthTooLarge
  /-- The value is no stop code. -/
  | notStopReason
  /-- A history that records nothing has no length. -/
  | noLength
  /-- A history that records nothing has no sequences. -/
  | noSequences

/-- The text of a cause; `none` where only the kind of failure is told. -/
def HistoryFault.message : HistoryFault → Option String
  | .unknownKey key => some key.display
  | .notKey given => some ("unhashable type: '" ++ given.kindName ++ "'")
  | .lengthNotInteger iters =>
    some ("'" ++ iters.kindName ++ "' object cannot be interpreted as an integer")
  | .lengthNegative => some "__len__() should return >= 0"
  | .lengthTooLarge => some "cannot fit 'int' into an index-sized integer"
  | .notStopReason => none
  | .noLength => some "object of type 'NullHistory' has no len()"
  | .noSequences => some "'NullHistory' object is not subscriptable"

namespace History

variable {α : Type}

/-- The length of a history: its number of iterations, if that is an integer from zero on that fits
into 63 bits. -/
def length (h : History Value α) : Except HistoryFault Nat :=
  match h.iters.toInt? with
  | none => .error (.lengthNotInteger h.iters)
  | some n =>
    if n < 0 then .error .lengthNegative
    else if (Nat.pow 2 63 : Nat) ≤ n then .error .lengthTooLarge
    else .ok n.toNat

/-- The sequence that a value names. -/
def get [ToDouble α] (h : History Value α) (key : Value) :
    Except HistoryFault (List (Extended Float)) :=
  match Key.ofValue? key with
  | some k => .ok (h.series k)
  | none => .error (if key.isKey then .unknownKey key else .notKey key)

/-- Ends a history with a stop code of any kind. A value that is no code changes nothing. -/
def finish (h : History Value α) (stop : Value) (s : Summary α) :
    Except HistoryFault (History Value α) :=
  match StopReason.ofValue? stop with
  | some r => .ok (h.finalize r s)
  | none => .error .notStopReason

/-- How a stop reason is shown. -/
def stopText : Option StopReason → String
  | some r => "<StopReason." ++ r.name ++ ": " ++ Nat.repr r.code ++ ">"
  | none => "None"

/-- How a history is shown. -/
def display (h : History Value α) : String :=
  "ConvergenceHistory(iters=" ++ h.iters.message ++ ", converged=" ++
    Value.truthText h.isConverged ++ ", stop=" ++ stopText h.stop ++ ")"

end History

end LeastSquares
