import LeastSquares.Proofs.Independence
import LeastSquares.Proofs.Record

/-!
# What the progress of a solve announces

A solve announces a title and the heads of the columns before anything else, then each iteration as
soon as its statistics are computed, and at last how it has ended. So a solve that returns has
announced all of its iterations, each of them once and in order, whatever the arithmetic; and what
the rows say is what the history keeps.

* `Event.script`: what is announced of a solve with some statistics.
* `Observers.Narrated`: what observers have announced of some iterations.
* `Problem.Account`: **what is said of the first iterations**, with the history next to it.
* `Problem.Reaches.account`: it is kept in every state of a solve.
* `Problem.returned_events`: **what a solve that returns has announced.**
-/

namespace LeastSquares

/-- The rows of iterations with some statistics. -/
def Event.rows {α : Type} (tests : List (StoppingTests α)) : List (Event α) :=
  (List.range' 1 tests.length).zipWith Event.row tests

/-- **What is announced of a solve** whose iterations have some statistics. -/
def Event.script {α : Type} (tests : List (StoppingTests α)) (stop : StopReason) : List (Event α) :=
  .title :: .columns :: (Event.rows tests ++ [.closing stop tests.length])

namespace Event

variable {α : Type} (tests : List (StoppingTests α)) (t : StoppingTests α) (stop : StopReason)

theorem rows_concat : rows (tests ++ [t]) = rows tests ++ [.row (tests.length + 1) t] := by
  unfold rows
  rw [List.length_append, List.length_singleton, List.range'_concat,
    List.zipWith_append List.length_range', Nat.one_mul, Nat.add_comm]
  rfl

theorem length_rows : (rows tests).length = tests.length := by
  simp [rows]

/-- Each row is of its own iteration. -/
theorem rows_getElem {j : ℕ} {t : StoppingTests α} (h : tests[j]? = some t) :
    (rows tests)[j]? = some (.row (j + 1) t) := by
  obtain ⟨hlt, -⟩ := List.getElem?_eq_some_iff.1 h
  unfold rows
  rw [List.getElem?_zipWith, h, List.getElem?_range' hlt, Nat.one_mul, Nat.add_comm]

/-- Three events more than iterations. -/
theorem length_script : (script tests stop).length = tests.length + 3 := by
  simp [script, length_rows]

end Event

/-! ### Observers -/

namespace Observers

variable {α : Type} {o o' : Observers α} {tests : List (StoppingTests α)}

theorem announce_verbose (o : Observers α) (e : Event α) : (o.announce e).verbose = o.verbose := by
  unfold announce
  split_ifs <;> rfl

theorem announce_events (o : Observers α) (e : Event α) :
    (o.announce e).events = if o.verbose then o.events ++ [e] else o.events := by
  unfold announce
  split_ifs <;> rfl

theorem initial_verbose (h : Option (History ℕ α)) (verbose : Bool) (c : Option (Callback α)) :
    (initial h verbose c).verbose = verbose := by
  rw [initial, announce_verbose, announce_verbose]

theorem initial_events (h : Option (History ℕ α)) (verbose : Bool) (c : Option (Callback α)) :
    (initial h verbose c).events = if verbose then [.title, .columns] else [] := by
  rw [initial, announce_events, announce_verbose, announce_events]
  split_ifs <;> rfl

theorem seen_verbose (o : Observers α) (n : ℕ) (t : StoppingTests α) :
    (o.seen n t).verbose = o.verbose := by
  have hnoted : (o.noted n t).verbose = o.verbose := announce_verbose _ _
  unfold seen
  cases o.callback <;> exact hnoted

theorem seen_events (o : Observers α) (n : ℕ) (t : StoppingTests α) :
    (o.seen n t).events = if o.verbose then o.events ++ [.row n t] else o.events := by
  have hnoted : (o.noted n t).events = if o.verbose then o.events ++ [.row n t] else o.events :=
    announce_events _ _
  unfold seen
  cases o.callback <;> exact hnoted

theorem finish_events (o : Observers α) (products : Tally) (stop : StopReason) (m : Summary α)
    (n : ℕ) : (o.finish products stop m n).events =
      if o.verbose then o.events ++ [.closing stop n] else o.events :=
  announce_events _ _

/-- **What observers have announced** who were `o` before some iterations with the statistics
`tests`. -/
structure Narrated (o : Observers α) (tests : List (StoppingTests α)) (o' : Observers α) :
    Prop where
  verbose_eq : o'.verbose = o.verbose
  events_eq : o'.events = if o.verbose then o.events ++ Event.rows tests else o.events

theorem Narrated.refl (o : Observers α) : Narrated o [] o where
  verbose_eq := rfl
  events_eq := by simp [Event.rows]

theorem Narrated.seen (h : Narrated o tests o') (t : StoppingTests α) :
    Narrated o (tests ++ [t]) (o'.seen (tests.length + 1) t) where
  verbose_eq := by rw [seen_verbose, h.verbose_eq]
  events_eq := by
    rw [seen_events, h.verbose_eq, h.events_eq, Event.rows_concat]
    split_ifs
    · rw [List.append_assoc]
    · rfl

end Observers

/-! ### Solves -/

namespace Problem

variable {α U V : Type} [Arithmetic α] [Vectors α U] [Vectors α V]

section

variable (P : Problem α U V) (p : Bidiagonal α U V) (x zero : V) (o : Observers α)

/-- **What is said of the first iterations**, which have the statistics `tests` and leave the state
`s`: they are completed, and they are recorded and announced. -/
structure Account (tests : List (StoppingTests α)) (s : Run α U V) : Prop where
  length_eq : tests.length = s.iteration
  completed : ∀ j t, tests[j]? = some t → ∃ w, P.Completes p x zero o (j + 1) w t
  watched : o.Watched tests s.observers
  narrated : o.Narrated tests s.observers

end

variable {P : Problem α U V} {p : Bidiagonal α U V} {x zero : V} {o : Observers α} {k : ℕ}
  {s s' : Run α U V} {tests : List (StoppingTests α)}

theorem account_begin {q : Bidiagonal α U V} (ho : o.Fresh) (h : Run.begin q x zero o = .ok s) :
    P.Account p x zero o [] s := by
  have hb := begun h
  exact ⟨hb.iteration_eq.symm, nofun, hb.observers_eq ▸ ho.watched,
    hb.observers_eq ▸ .refl o⟩

/-- **The step of the account**: an iteration is recorded and announced as the next one. -/
theorem Account.advance (h : P.Account p x zero o tests s) (hb : P.Begins p x zero o k s)
    (hs : (Run.advance P).run s = .ok () s') :
    ∃ t, P.Account p x zero o (tests ++ [t]) s' := by
  obtain ⟨w, t, ctol, hw, ht, -, -, rfl⟩ := Run.run_advance_eq_ok.1 hs
  obtain ⟨hobs, hiter⟩ := Run.compute_kept hw
  have hk : tests.length = k := h.length_eq.trans hb.reached.iteration_eq
  refine ⟨t, ?_, ?_, ?_, ?_⟩
  · rw [List.length_append, h.length_eq]
    exact hiter.symm
  · intro j u hu
    rw [List.getElem?_append] at hu
    split_ifs at hu with hj
    · exact h.completed j u hu
    · obtain ⟨hlen, rfl⟩ := List.getElem?_eq_some_iff.1 hu
      obtain rfl : j = k := by
        rw [List.length_singleton] at hlen
        omega
      rw [List.getElem_singleton]
      exact ⟨w, .intro hb hw ht⟩
  · change o.Watched _ (w.observers.seen w.iteration t)
    rw [hobs, hiter, ← h.length_eq]
    exact h.watched.seen t
  · change o.Narrated _ (w.observers.seen w.iteration t)
    rw [hobs, hiter, ← h.length_eq]
    exact h.narrated.seen t

/-- **Every state of a solve has its account.** -/
theorem Reaches.account (ho : o.Fresh) (h : P.Reaches p x zero o k s) :
    ∃ tests, P.Account p x zero o tests s := by
  induction h with
  | begin _ hbegin _ => exact ⟨[], account_begin ho hbegin⟩
  | advance h hstop hk hs ih =>
    obtain ⟨tests, haccount⟩ := ih
    obtain ⟨t, hnext⟩ := haccount.advance ⟨h, hstop, hk⟩ hs
    exact ⟨tests ++ [t], hnext⟩

theorem returned_account (ho : o.Fresh) (h : P.solve p x zero o = .returned s) :
    ∃ tests s', s = s'.close ∧ P.Account p x zero o tests s' := by
  rcases returned_cases h with ⟨q, s', -, hbegin, -, rfl⟩ | ⟨k, s', hr, -, rfl⟩
  · exact ⟨[], s', rfl, account_begin ho hbegin⟩
  · obtain ⟨tests, haccount⟩ := hr.account ho
    exact ⟨tests, s', rfl, haccount⟩

/-- **What a solve that returns has announced**: all of its iterations, with their own statistics,
between a title and its end, if it announces anything. What the history keeps is the same. -/
theorem returned_events {hist : Option (History ℕ α)} {verbose : Bool} {c : Option (Callback α)}
    (hfresh : ∀ t, hist = some t → t.iters = 0 ∧ t.tests = [])
    (h : P.solve p x zero (.initial hist verbose c) = .returned s) :
    ∃ tests, tests.length = s.iteration ∧
      (∀ j t, tests[j]? = some t →
        ∃ w, P.Completes p x zero (.initial hist verbose c) (j + 1) w t) ∧
      s.observers.events = (if verbose then Event.script tests s.stop else []) ∧
      ∀ kept, s.observers.history = some kept →
        kept.iters = tests.length ∧ kept.tests = tests ∧ kept.stop = some s.stop := by
  obtain ⟨tests, s', rfl, haccount⟩ :=
    returned_account (Observers.initial_fresh verbose c hfresh) h
  refine ⟨tests, haccount.length_eq, haccount.completed, ?_, ?_⟩
  · rw [Run.close, Observers.finish_events, haccount.narrated.verbose_eq,
      haccount.narrated.events_eq, Observers.initial_verbose, Observers.initial_events,
      ← haccount.length_eq]
    split_ifs <;> rfl
  · intro kept hkept
    rw [Run.close, Observers.finish_history, haccount.watched.history_eq, Option.map_map] at hkept
    obtain ⟨h₀, -, rfl⟩ := Option.map_eq_some_iff.1 hkept
    exact ⟨rfl, rfl, rfl⟩

end Problem

end LeastSquares
