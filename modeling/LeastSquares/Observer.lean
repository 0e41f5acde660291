import LeastSquares.Bidiagonal
import LeastSquares.History

/-!
# Observers of a solve

After every iteration the statistics are handed to whoever watches: the history, the progress lines,
and the caller's callback, in this order. Observers see numbers and change none; a callback may end
the solve.

* `Event`: what the progress of a solve announces.
* `Observers`: what has been seen so far.
* `Observers.see`: one iteration.
-/

namespace LeastSquares

/-- What the progress of a solve announces, in the order of a whole solve: a title, the heads of the
columns, a row per iteration, and a closing line. -/
inductive Event (α : Type) where
  | title
  | columns
  | row (iteration : Nat) (t : StoppingTests α)
  | closing (stop : StopReason) (iteration : Nat)

/-- A callback is told of every iteration; it answers whether it ends the solve there. -/
structure Callback (α : Type) where
  interrupts : Nat → StoppingTests α → Bool

/-- What the observers of a solve have seen: the history if one is kept, the events if progress is
announced, the calls if there is a callback. -/
structure Observers (α : Type) where
  history : Option (History Nat α)
  verbose : Bool
  callback : Option (Callback α)
  events : List (Event α)
  calls : List (Nat × StoppingTests α)

namespace Observers

variable {α : Type}

/-- Announces an event, if progress is announced. -/
def announce (o : Observers α) (e : Event α) : Observers α :=
  if o.verbose then { o with events := o.events ++ [e] } else o

/-- The observers before the first iteration. -/
def initial (history : Option (History Nat α)) (verbose : Bool) (callback : Option (Callback α)) :
    Observers α :=
  ((⟨history, verbose, callback, [], []⟩ : Observers α).announce .title).announce .columns

/-- **One iteration**: it is recorded, announced, and told to the callback, which may end the
solve. -/
def see (iteration : Nat) (t : StoppingTests α) : EStateM Fault (Observers α) Unit := do
  modify fun o => { o with history := o.history.map fun h => h.record iteration t }
  modify fun o => o.announce (.row iteration t)
  match (← get).callback with
  | none => pure ()
  | some c =>
    modify fun o => { o with calls := o.calls ++ [(iteration, t)] }
    if c.interrupts iteration t then throw (.interrupted iteration)

/-- The end of a solve: the history is completed and the closing line is announced. -/
def finish (o : Observers α) (products : Tally) (stop : StopReason) (s : Summary α)
    (iteration : Nat) : Observers α :=
  let close (h : History Nat α) : History Nat α :=
    (h.count products.forward products.adjoint).finalize stop s
  ({ o with history := o.history.map close } : Observers α).announce (.closing stop iteration)

end Observers

end LeastSquares
