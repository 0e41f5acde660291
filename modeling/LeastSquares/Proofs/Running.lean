import Mathlib.Tactic.Common
import LeastSquares.Solve

/-!
# Running the parts of a solve

What an action on a part of a state does to the state, and what observers see of an iteration. It is
recorded and announced before the callback hears of it, so the record is the same whether the
callback goes on or ends the solve. Observers fail in no other way.

* `run_ofExcept_ok`, `run_onPart`: the state after an action.
* `Observers.seen`: the observers after an iteration.
* `Observers.run_see`: **one iteration**, as the callback answers.
-/

namespace LeastSquares

section

variable {σ τ ε α : Type}

@[simp] theorem run_ofExcept_ok (a : α) (s : σ) :
    (ofExcept (.ok a : Except ε α) : EStateM ε σ α).run s = .ok a s := rfl

@[simp] theorem run_onPart (get : σ → τ) (set : τ → σ → σ) (action : EStateM ε τ α) (s : σ) :
    (onPart get set action).run s =
      match action.run (get s) with
      | .ok a t => .ok a (set t s)
      | .error e t => .error e (set t s) := rfl

end

namespace Observers

variable {α : Type} (o : Observers α) (n : ℕ) (t : StoppingTests α)

/-- The observers after an iteration is recorded and announced. -/
def noted : Observers α :=
  ({ o with history := o.history.map fun h => h.record n t } : Observers α).announce (.row n t)

/-- **The observers after an iteration.** -/
def seen : Observers α :=
  match o.callback with
  | none => o.noted n t
  | some _ => { o.noted n t with calls := (o.noted n t).calls ++ [(n, t)] }

/-- Whether the callback ends the solve at an iteration. -/
def interrupts : Bool :=
  match o.callback with
  | none => false
  | some c => c.interrupts n t

@[simp] theorem announce_callback (e : Event α) : (o.announce e).callback = o.callback := by
  unfold announce; split_ifs <;> rfl

@[simp] theorem announce_history (e : Event α) : (o.announce e).history = o.history := by
  unfold announce; split_ifs <;> rfl

@[simp] theorem announce_calls (e : Event α) : (o.announce e).calls = o.calls := by
  unfold announce; split_ifs <;> rfl

theorem initial_history (h : Option (History ℕ α)) (verbose : Bool) (c : Option (Callback α)) :
    (initial h verbose c).history = h := by
  rw [initial, announce_history, announce_history]

@[simp] theorem noted_callback : (o.noted n t).callback = o.callback := announce_callback _ _

@[simp] theorem noted_history :
    (o.noted n t).history = o.history.map fun h => h.record n t := announce_history _ _

@[simp] theorem noted_calls : (o.noted n t).calls = o.calls := announce_calls _ _

/-- **One iteration**, as the callback answers. -/
theorem run_see : (see n t).run o =
    if o.interrupts n t then .error (.interrupted n) (o.seen n t) else .ok () (o.seen n t) := by
  have h : (see n t).run o = EStateM.run (match (o.noted n t).callback with
    | none => pure ()
    | some c => do
      modify fun o => { o with calls := o.calls ++ [(n, t)] }
      if c.interrupts n t then throw (.interrupted n) : EStateM Fault (Observers α) Unit)
      (o.noted n t) := rfl
  rw [h, noted_callback, seen, interrupts]
  cases o.callback with
  | none => rfl
  | some c =>
    by_cases hi : c.interrupts n t = true <;> simp only [hi, if_true] <;> rfl

@[simp] theorem seen_callback : (o.seen n t).callback = o.callback := by
  unfold seen
  cases h : o.callback <;> simp [h]

@[simp] theorem seen_history :
    (o.seen n t).history = o.history.map fun h => h.record n t := by
  unfold seen
  cases h : o.callback <;> simp

theorem seen_calls :
    (o.seen n t).calls = if o.callback.isSome then o.calls ++ [(n, t)] else o.calls := by
  unfold seen
  cases h : o.callback <;> simp

variable (products : Tally) (stop : StopReason) (m : Summary α)

theorem finish_history : (o.finish products stop m n).history =
    o.history.map fun h => (h.count products.forward products.adjoint).finalize stop m :=
  announce_history _ _

theorem finish_calls : (o.finish products stop m n).calls = o.calls := announce_calls _ _

end Observers

end LeastSquares
