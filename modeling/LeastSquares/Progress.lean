import LeastSquares.Log.Registry
import LeastSquares.Observer
import LeastSquares.Scalar

/-!
# Progress lines

The progress of a solve as messages: a title, the heads of four columns, a row per iteration with
the relative residual of the normal equations, the inverse condition number and the relative
residual, and a closing line with the stop code.

* `Progress.row`, `Progress.closing`: the messages.
* `Progress.message`: the message of an event of a solve.
* `Progress.record`: the record of it.
-/

namespace LeastSquares.Progress

open Log (Argument Message)

/-- The title. -/
def title : Message := ⟨"=== lsmr ===", []⟩

/-- The heads of the columns. -/
def columns : Message :=
  ⟨"%4s\t%7s\t\t%7s\t\t%7s", [.text "iter", .text "anorm", .text "cnorm", .text "rnorm"]⟩

/-- **The row of an iteration**: statistics have two places after the point. -/
def row (iteration : Value) (test1 test2 test3 : Number) : Message :=
  ⟨"%3d\t%1.2e\t%1.2e\t%1.2e",
    [.value iteration, .number test2, .number test3, .number test1]⟩

/-- **The closing line.** -/
def closing (stop : StopReason) (iteration : Value) : Message :=
  ⟨"stop %d after %d iterations: %s",
    [.integer stop.code, .value iteration, .text stop.message]⟩

/-- The message of an event. -/
def message : Event Double → Message
  | .title => title
  | .columns => columns
  | .row iteration t =>
    row (.integer iteration) t.test1.value (Double.numberOf t.test2) t.test3.value
  | .closing stop iteration => closing stop (.integer iteration)

/-- The record with which a logger announces an event. -/
def record (logger : String) (e : Event Double) : Log.Record :=
  ⟨logger, .integer Log.info, message e⟩

/-- Why progress cannot be closed. -/
inductive ProgressFault where
  /-- The stop code is no reason to stop. -/
  | notStopReason
  /-- The stop code is no number. -/
  | notNumber (given : Value)
  /-- The stop code is a text that writes no integer. -/
  | notInteger (given : String)
  /-- The stop code is a text that begins with more digits than are read. -/
  | tooManyDigits (count : Nat)
  /-- The stop code is not a number as a double. -/
  | nan
  /-- The stop code is infinite. -/
  | infinite

/-- The largest number of digits of an integer that is read. -/
def digitLimit : Nat := 4300

/-- The beginning of a text that is shown in a message. -/
def beginning (s : String) : String := String.ofList (s.toList.take 200)

/-- The text of a cause; `none` where only the kind of failure is told. -/
def ProgressFault.message : ProgressFault → Option String
  | .notStopReason => none
  | .notNumber given =>
    some ("int() argument must be a string, a bytes-like object or a real number, not '" ++
      given.kindName ++ "'")
  | .notInteger given =>
    some ("invalid literal for int() with base 10: " ++ beginning (Text.quoted given))
  | .tooManyDigits count =>
    some ("Exceeds the limit (" ++ Nat.repr digitLimit ++ " digits) for integer string " ++
      "conversion: value has " ++ Nat.repr count ++
      " digits; use sys.set_int_max_str_digits() to increase the limit")
  | .nan => Fault.message .integerOfNan
  | .infinite => Fault.message .integerOfInfinity

/-- The reason that a stop code of any kind stands for. It must be convertible to an integer first,
and then be a code. -/
def stopOf (v : Value) : Except ProgressFault StopReason := do
  match v with
  | .null | .callable | .list _ | .record _ => throw (.notNumber v)
  | .text s => do
    let count := Decimal.digitCount s
    if digitLimit < count then throw (.tooManyDigits count)
    if (Decimal.integer? s).isNone then throw (.notInteger s)
  | .number x =>
    if x.isNaN then throw .nan
    else if (Binary64.truncate x).isNone then throw .infinite
  | _ => pure ()
  match StopReason.ofValue? v with
  | some r => pure r
  | none => throw .notStopReason

/-- The row of an iteration number of any kind; there is none unless the number can be written. -/
def row? (iteration : Value) (test1 test2 test3 : Float) : Option String :=
  (row iteration test1 test2 test3).text?

/-- The closing line for a stop code and an iteration number of any kind. -/
def closing? (stop iteration : Value) : Except ProgressFault (Option String) := do
  let r ← stopOf stop
  pure (closing r iteration).text?

end LeastSquares.Progress
