import LeastSquares.Proofs.Closure

/-!
# The record of a solve

What happens in a solve is written down in several places: the number of the iteration, the products
that the process counts and those that it asks for, the sequences of the history, the calls of the
callback, the rule that ends it all. They never drift apart, for any operator and any arithmetic: no
value that comes out of an iteration, comparable or not, changes what the places have in common.

The sequences of the history are read as doubles. A callback is told the numbers themselves, and
these are the same ones unless the solve is of extended precision.

* `Observers.Watched`: what observers have seen of some iterations.
* `Problem.Ledger`: **all that is written down** between two iterations.
* `Problem.Reaches.ledger`: it is kept in every state of a solve.
* `Problem.Record`: what the record of a solve says.
* `Problem.returned_record`: **it says so of every solve that returns.**
* `Request.record_agrees`: **the record of a call.**
-/

namespace LeastSquares

open Arithmetic

theorem StopReason.converged_iff {r : StopReason} :
    r.converged ↔ r ≠ .conlim ∧ r ≠ .condEps ∧ r ≠ .maxiter := by
  cases r <;> simp [StopReason.converged]

/-! ### Observers -/

namespace Observers

variable {α : Type} {o o' : Observers α} {tests : List (StoppingTests α)}

/-- Observers that have seen nothing yet. -/
structure Fresh (o : Observers α) : Prop where
  calls_eq : o.calls = []
  history_eq : ∀ h, o.history = some h → h.iters = 0 ∧ h.tests = []

/-- **What observers have seen** who were `o` before some iterations with the statistics `tests`. -/
structure Watched (o : Observers α) (tests : List (StoppingTests α)) (o' : Observers α) : Prop where
  callback_eq : o'.callback = o.callback
  history_eq :
    o'.history = o.history.map fun h => { h with iters := tests.length, tests := tests }
  calls_eq :
    o'.calls = if o.callback.isSome then (List.range' 1 tests.length).zip tests else []

theorem initial_fresh {h : Option (History ℕ α)} (verbose : Bool) (c : Option (Callback α))
    (hfresh : ∀ t, h = some t → t.iters = 0 ∧ t.tests = []) : (initial h verbose c).Fresh where
  calls_eq := by rw [initial, announce_calls, announce_calls]
  history_eq := by rwa [initial_history]

theorem Fresh.watched (h : o.Fresh) : Watched o [] o where
  callback_eq := rfl
  history_eq := by
    cases ho : o.history with
    | none => rfl
    | some t =>
      obtain ⟨hiters, htests⟩ := h.history_eq t ho
      rw [Option.map_some, List.length_nil, ← hiters, ← htests]
  calls_eq := by rw [h.calls_eq, List.zip_nil_right, ite_self]

theorem Watched.seen (h : Watched o tests o') (t : StoppingTests α) :
    Watched o (tests ++ [t]) (o'.seen (tests.length + 1) t) where
  callback_eq := by rw [seen_callback, h.callback_eq]
  history_eq := by
    rw [seen_history, h.history_eq, Option.map_map, List.length_append, List.length_singleton]
    rfl
  calls_eq := by
    have hzip : (List.range' 1 (tests ++ [t]).length).zip (tests ++ [t]) =
        (List.range' 1 tests.length).zip tests ++ [(tests.length + 1, t)] := by
      rw [List.length_append, List.length_singleton, List.range'_concat,
        List.zip_append List.length_range', Nat.one_mul, Nat.add_comm]
      rfl
    rw [seen_calls, h.callback_eq, h.calls_eq, hzip]
    split_ifs <;> rfl

theorem Watched.map_fst (h : Watched o tests o') (hc : o.callback.isSome) :
    o'.calls.map Prod.fst = List.range' 1 tests.length := by
  rw [h.calls_eq, if_pos hc, List.map_fst_zip (Nat.le_of_eq List.length_range')]

theorem Watched.map_snd (h : Watched o tests o') (hc : o.callback.isSome) :
    o'.calls.map Prod.snd = tests := by
  rw [h.calls_eq, if_pos hc, List.map_snd_zip (Nat.le_of_eq List.length_range'.symm)]

end Observers

/-! ### The states of a solve -/

namespace Problem

variable {α U V : Type} [Arithmetic α] [Vectors α U] [Vectors α V]

section

variable (P : Problem α U V) (p : Bidiagonal α U V) (x zero : V) (o : Observers α)

/-- **The states that the first iterations leave**, in order. -/
def Trail (states : List (Run α U V)) : Prop :=
  ∀ j s, states[j]? = some s → P.Reaches p x zero o (j + 1) s

/-- The number of iterations that leave a positive `beta`. -/
def positives (states : List (Run α U V)) : ℕ := states.countP fun s => lt 0 s.process.beta

/-- The products of the start and of the iterations that leave some states. -/
def products (states : List (Run α U V)) : Tally := ⟨states.length + 1, 1 + positives states⟩

/-- **All that is written down** after the iterations that leave some states, the last of which is
`s`. -/
structure Ledger (states : List (Run α U V)) (s : Run α U V) : Prop where
  trail : P.Trail p x zero o states
  counted_eq : s.process.counted = products states
  asked_eq : s.process.asked = products states
  watched : ∃ tests, tests.length = states.length ∧ o.Watched tests s.observers

/-- There is nothing to iterate: `alpha * beta` of the start vanishes. -/
def Vacuous : Prop :=
  ∃ q, (Bidiagonal.start P.operator x).run p = .ok () q ∧ eq (q.alpha * q.beta) 0 = true

end

variable {P : Problem α U V} {p : Bidiagonal α U V} {x zero : V} {o : Observers α} {k : ℕ}
  {s s' : Run α U V} {states : List (Run α U V)}

omit [Vectors α U] [Vectors α V] in
theorem products_concat (states : List (Run α U V)) (s : Run α U V) :
    products (states ++ [s]) = (products states).afterStep (lt 0 s.process.beta) := by
  unfold products positives Tally.afterStep
  rw [List.length_append, List.length_singleton, List.countP_append, List.countP_singleton]
  cases lt 0 s.process.beta <;> rfl

theorem Trail.concat (h : P.Trail p x zero o states)
    (hs : P.Reaches p x zero o (states.length + 1) s) : P.Trail p x zero o (states ++ [s]) := by
  intro j t ht
  rw [List.getElem?_append] at ht
  split_ifs at ht with hj
  · exact h j t ht
  · obtain ⟨hlen, rfl⟩ := List.getElem?_eq_some_iff.1 ht
    obtain rfl : j = states.length := by
      rw [List.length_singleton] at hlen
      omega
    rwa [List.getElem_singleton]

/-- **The step of the ledger**: an iteration writes one line into every place. -/
theorem Ledger.advance (h : P.Ledger p x zero o states s)
    (hr : P.Reaches p x zero o states.length s) (hstop : s.stop = .ongoing)
    (hk : states.length < P.maxiter) (hs : (Run.advance P).run s = .ok () s') :
    P.Ledger p x zero o (states ++ [s']) s' := by
  obtain ⟨t, hadv⟩ := Run.advance_ok hs
  obtain ⟨hcounted, hasked⟩ := Bidiagonal.step_ok hadv.process
  refine ⟨h.trail.concat (hr.advance hstop hk hs), ?_, ?_, ?_⟩
  · rw [hcounted, h.counted_eq, products_concat]
  · rw [hasked, h.asked_eq, products_concat]
  · obtain ⟨tests, htests, hw⟩ := h.watched
    refine ⟨tests ++ [t], ?_, ?_⟩
    · rw [List.length_append, List.length_append, htests]; rfl
    · rw [hadv.observers, hadv.iteration, hr.iteration_eq, ← htests]
      exact hw.seen t

section

variable (hp : p.counted = .zero ∧ p.asked = .zero) (ho : o.Fresh)

include hp ho

theorem ledger_begin {q : Bidiagonal α U V}
    (hstart : (Bidiagonal.start P.operator x).run p = .ok () q)
    (hbegin : Run.begin q x zero o = .ok s) : P.Ledger p x zero o [] s := by
  obtain ⟨hcounted, hasked⟩ := Bidiagonal.start_ok hstart
  have hb := begun hbegin
  refine ⟨fun j t ht => by simp at ht, ?_, ?_, ?_⟩
  · rw [hb.process_eq, hcounted, hp.1]; rfl
  · rw [hb.process_eq, hasked, hp.2]; rfl
  · exact ⟨[], rfl, hb.observers_eq ▸ ho.watched⟩

/-- **The ledger is kept** in every state of a solve. -/
theorem Reaches.ledger (h : P.Reaches p x zero o k s) :
    ∃ states, states.length = k ∧ P.Ledger p x zero o states s := by
  induction h with
  | begin hstart hbegin _ => exact ⟨[], rfl, ledger_begin hp ho hstart hbegin⟩
  | @advance k s s' h hstop hk hs ih =>
    obtain ⟨states, rfl, hled⟩ := ih
    exact ⟨states ++ [s'], by simp, hled.advance h hstop hk hs⟩

end

/-! ### How a solve ends -/

theorem Reaches.not_vacuous (h : P.Reaches p x zero o k s) : ¬ P.Vacuous p x := by
  induction h with
  | @begin q s hstart hbegin hopen =>
    rintro ⟨q', hstart', hzero⟩
    obtain rfl : q = q' := by
      rw [hstart] at hstart'
      injection hstart'
    rw [Run.isOpen, (begun hbegin).normar_eq, hzero] at hopen
    simp at hopen
  | advance _ _ _ _ ih => exact ih

/-- **A state with which a solve ends** that has executed `n` iterations. -/
structure Final (P : Problem α U V) (p : Bidiagonal α U V) (x : V) (n : ℕ) (s : Run α U V) :
    Prop where
  le_maxiter : n ≤ P.maxiter
  ongoing_iff : s.stop = .ongoing ↔ n = 0
  maxiter_iff : s.stop = .maxiter ↔ n = P.maxiter ∧ 1 ≤ n
  idle_iff : n = 0 ↔ P.maxiter = 0 ∨ P.Vacuous p x

/-- A loop that has begun is ended by a rule. -/
theorem Reaches.final (h : P.Reaches p x zero o k s) (hend : s.stop ≠ .ongoing ∨ k = P.maxiter) :
    Final P p x k s := by
  have hongoing : s.stop = .ongoing ↔ k = 0 := by
    constructor
    · intro hgo
      have hk : k = P.maxiter := hend.resolve_left fun hne => hne hgo
      by_contra hne
      -- The budget would have ended the last iteration.
      have hstop := h.stop_eq_maxiter.2 ⟨hk, by omega⟩
      rw [hgo] at hstop
      cases hstop
    · rintro rfl
      exact h.stop_zero
  refine ⟨h.le_maxiter, hongoing, h.stop_eq_maxiter, ?_⟩
  constructor
  · intro h0
    exact .inl (h0 ▸ (hend.resolve_left fun hne => hne (hongoing.2 h0))).symm
  · rintro (hmax | hvacuous)
    · have := h.le_maxiter
      omega
    · exact absurd hvacuous h.not_vacuous

theorem final_begin {q : Bidiagonal α U V} (hbegin : Run.begin q x zero o = .ok s)
    (hvacuous : P.Vacuous p x) : Final P p x 0 s := by
  have hstop := begin_stop hbegin
  exact ⟨Nat.zero_le _, by simp [hstop], by simp [hstop], by simp [hvacuous]⟩

/-- **How a solve ends that returns.** -/
theorem returned_final (hp : p.counted = .zero ∧ p.asked = .zero) (ho : o.Fresh)
    (h : P.solve p x zero o = .returned s) :
    ∃ states s', s = s'.close ∧ P.Ledger p x zero o states s' ∧ Final P p x states.length s' := by
  rcases returned_cases h with ⟨q, s', hstart, hbegin, hclosed, rfl⟩ | ⟨k, s', hr, hend, rfl⟩
  · have hzero : eq (q.alpha * q.beta) 0 = true := by
      simpa [Run.isOpen, (begun hbegin).normar_eq] using hclosed
    exact ⟨[], s', rfl, ledger_begin hp ho hstart hbegin, final_begin hbegin ⟨q, hstart, hzero⟩⟩
  · obtain ⟨states, rfl, hled⟩ := hr.ledger hp ho
    exact ⟨states, s', rfl, hled, hr.final hend⟩

/-! ### The record -/

/-- **What the record of a solve says**: the history `h`, the calls of the callback, and the
products that were asked for. -/
structure Record [ToDouble α] (P : Problem α U V) (p : Bidiagonal α U V) (x zero : V)
    (o : Observers α) (h : History ℕ α) (calls : List (ℕ × StoppingTests α)) (asked : Tally) :
    Prop where
  iters_le : h.iters ≤ P.maxiter
  /-- Each sequence has one entry per iteration. -/
  series_length : ∀ key, (h.series key).length = h.iters
  /-- The callback is called once per iteration, in order. -/
  call_numbers : o.callback.isSome → calls.map Prod.fst = List.range' 1 h.iters
  /-- It is told what is written down. -/
  call_records : o.callback.isSome → h.tests = calls.map Prod.snd
  /-- Entry for entry, it is told what the sequences hold, and these hold it as doubles. -/
  call_tests : o.callback.isSome → ∀ key,
    h.series key = calls.map fun c => (key.select c.2).map ToDouble.toDouble
  products_eq : h.products = h.iters + 1
  /-- The adjoint is used at the start and in the iterations that leave a positive `beta`. -/
  adjointProducts_eq : ∃ states, states.length = h.iters ∧ P.Trail p x zero o states ∧
    h.adjointProducts = 1 + positives states
  /-- The products that are counted are those that were asked for. -/
  asked_eq : asked = ⟨h.products, h.adjointProducts⟩
  ended : h.stop.isSome
  ongoing_iff : h.stop = some .ongoing ↔ h.iters = 0
  idle_iff : h.iters = 0 ↔ P.maxiter = 0 ∨ P.Vacuous p x
  maxiter_iff : h.stop = some .maxiter ↔ h.iters = P.maxiter ∧ 1 ≤ h.iters
  converged_iff : h.isConverged ↔
    h.stop ≠ some .conlim ∧ h.stop ≠ some .condEps ∧ h.stop ≠ some .maxiter

/-- **The record is that of the ledger**, as it was when the solve ended. -/
theorem Ledger.record [ToDouble α] (hled : P.Ledger p x zero o states s)
    (hfin : Final P p x states.length s) (hkept : o.history.isSome) :
    ∃ h, s.close.observers.history = some h ∧
      P.Record p x zero o h s.close.observers.calls s.close.process.asked := by
  obtain ⟨tests, htests, hw⟩ := hled.watched
  obtain ⟨h₀, h₀_eq⟩ := Option.isSome_iff_exists.1 hkept
  let h : History ℕ α := (({ h₀ with iters := tests.length, tests := tests } : History ℕ α).count
    s.process.counted.forward s.process.counted.adjoint).finalize s.stop s.summary
  have hh : s.close.observers.history = some h := by
    rw [Run.close, Observers.finish_history, hw.history_eq, h₀_eq]
    rfl
  have hcalls : s.close.observers.calls = s.observers.calls := Observers.finish_calls ..
  have hiters : h.iters = states.length := htests
  have hstop : ∀ r, h.stop = some r ↔ s.stop = r := fun r => Option.some_inj
  refine ⟨h, hh, ?_⟩
  exact
    { iters_le := hiters ▸ hfin.le_maxiter
      series_length := fun key => List.length_map _
      call_numbers := fun hc => hcalls ▸ hw.map_fst hc
      call_records := fun hc => hcalls ▸ (hw.map_snd hc).symm
      call_tests := by
        intro hc key
        have hseries : h.series key = tests.map fun t => (key.select t).map ToDouble.toDouble := rfl
        rw [hseries, hcalls, ← hw.map_snd hc, List.map_map]
        rfl
      products_eq := by
        rw [hiters]
        exact congrArg Tally.forward hled.counted_eq
      adjointProducts_eq :=
        ⟨states, hiters.symm, hled.trail, congrArg Tally.adjoint hled.counted_eq⟩
      asked_eq := hled.asked_eq.trans hled.counted_eq.symm
      ended := rfl
      ongoing_iff := by rw [hstop, hiters, hfin.ongoing_iff]
      idle_iff := by rw [hiters, hfin.idle_iff]
      maxiter_iff := by rw [hstop, hiters, hfin.maxiter_iff]
      converged_iff := by
        rw [Ne, Ne, Ne, hstop, hstop, hstop]
        exact StopReason.converged_iff }

/-- **The record of a solve agrees with the solve.** -/
theorem returned_record [ToDouble α] (hp : p.counted = .zero ∧ p.asked = .zero) (ho : o.Fresh)
    (hkept : o.history.isSome) (h : P.solve p x zero o = .returned s) :
    ∃ t, s.observers.history = some t ∧
      P.Record p x zero o t s.observers.calls s.process.asked := by
  obtain ⟨states, s', rfl, hled, hfin⟩ := returned_final hp ho h
  exact hled.record hfin hkept

end Problem

/-! ### The record of a call -/

namespace Request

open Log (Registry)

variable {r : Request} {p : Prepared} {g : Registry} {kept : Option (History ℕ Double)}

/-- **Two equations of extended precision** in one unknown. -/
def wideEquations : Request where
  x := .array (.zeros (.real .extended) 1)
  source := .array ⟨.real .extended, [2, 1], #[.ofReal 1, .ofReal 1]⟩
  b := .array ⟨.real .extended, [2], #[.ofReal 7, .zero]⟩
  options := [("log", .boolean true), ("callback", .callable)]
  callback := ⟨fun _ _ => false⟩

-- In extended precision the number that the callback is told need not be a double.
example : (wideEquations.run .empty).1.calls.map
    (fun c => c.2.test1.value.eq (.double (ToDouble.toDouble c.2.test1))) = [false] := by
  decide +kernel

/-- **Twice the identity of two numbers**, and a unit vector: the first step makes a `beta` of
zero. -/
def doubling : Request where
  x := .array (.zeros .float64 2)
  source := .array ⟨.float64, [2, 2], #[.ofReal 2, .zero, .zero, .ofReal 2]⟩
  b := .array ⟨.float64, [2], #[.ofReal 1, .zero]⟩
  options := [("log", .boolean true), ("callback", .callable)]
  callback := ⟨fun _ _ => false⟩

theorem doubling_log : doubling.prepare.toOption.map (fun p => p.settings.log) = some true := by
  decide +kernel

theorem doubling_counts : (doubling.run .empty).1.result.toOption.map
    (Option.map fun t => (t.iters, t.products, t.adjointProducts)) = some (some (1, 2, 1)) := by
  decide +kernel

end Request

end LeastSquares
