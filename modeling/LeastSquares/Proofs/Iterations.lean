import LeastSquares.Proofs.Running

/-!
# The iterations that a solve executes

A solve is a loop over one iteration. This file says which states it goes through, for any
arithmetic: what holds of them by induction holds of every solve.

* `Problem.Reaches`: the states between two iterations.
* `Problem.Executes`: **an iteration that is executed**, with the state that it leaves.
* `Problem.Ends`, `Problem.solve_ends`: **a solve ends in one of these states**, or before any.
* `Problem.Reaches.solve_eq`: **from each of these states the solve goes on**, so none is reached in
  vain.
-/

namespace LeastSquares

variable {α U V : Type} [Arithmetic α] [Vectors α U] [Vectors α V]

/-- The budget is the first rule, and no other one names it. -/
theorem StoppingTests.check_eq_maxiter {t : StoppingTests α} {n m : Int} {a c : α} :
    t.check n m a c = .maxiter ↔ m ≤ n := by
  unfold check
  split_ifs <;> simp [*]

namespace Problem

variable (P : Problem α U V) (p : Bidiagonal α U V) (x zero : V) (o : Observers α)

/-- **The states between two iterations** of a solve, by the number of iterations so far. -/
inductive Reaches : ℕ → Run α U V → Prop
  | begin {p' : Bidiagonal α U V} {s : Run α U V}
      (hstart : (Bidiagonal.start P.operator x).run p = .ok () p')
      (hbegin : Run.begin p' x zero o = .ok s) (hopen : s.isOpen = true) : Reaches 0 s
  | advance {k : ℕ} {s s' : Run α U V} (h : Reaches k s) (hstop : s.stop = .ongoing)
      (hk : k < P.maxiter) (hs : (Run.advance P).run s = .ok () s') : Reaches (k + 1) s'

/-- **An iteration begins**: no rule has fired, and the budget allows one more. -/
structure Begins (k : ℕ) (s : Run α U V) : Prop where
  reached : P.Reaches p x zero o k s
  ongoing : s.stop = .ongoing
  budget : k < P.maxiter

/-- **The `k`-th iteration is executed** and leaves the state `s'`, whether it ends or fails. -/
inductive Executes : ℕ → Run α U V → Prop
  | ends {k : ℕ} {s s' : Run α U V} (h : P.Begins p x zero o k s)
      (hs : (Run.advance P).run s = .ok () s') : Executes (k + 1) s'
  | fails {k : ℕ} {s s' : Run α U V} {e : Fault} (h : P.Begins p x zero o k s)
      (hs : (Run.advance P).run s = .error e s') : Executes (k + 1) s'

variable {P p x zero o}

theorem Reaches.le_maxiter {k : ℕ} {s : Run α U V} (h : P.Reaches p x zero o k s) :
    k ≤ P.maxiter := by
  cases h with
  | begin => exact Nat.zero_le _
  | advance _ _ hk _ => exact hk

theorem Reaches.executes {k : ℕ} {s : Run α U V} (h : P.Reaches p x zero o (k + 1) s) :
    P.Executes p x zero o (k + 1) s := by
  cases h with
  | advance h hstop hk hs => exact .ends ⟨h, hstop, hk⟩ hs

/-- An iteration that begins is executed. -/
theorem Begins.executes {k : ℕ} {s : Run α U V} (h : P.Begins p x zero o k s) :
    ∃ s', P.Executes p x zero o (k + 1) s' := by
  cases hs : (Run.advance P).run s with
  | ok _ s' => exact ⟨s', .ends h hs⟩
  | error e s' => exact ⟨s', .fails h hs⟩

/-- **How a loop ends**: after an iteration that was the last, or in one that fails. -/
theorem loop_cases {k : ℕ} {s : Run α U V} (budget : ℕ) (h : P.Reaches p x zero o k s)
    (hstop : s.stop = .ongoing) (hk : k + budget = P.maxiter) :
    (∃ j s', (Run.loop P budget).run s = .ok () s' ∧ P.Reaches p x zero o j s' ∧
      (s'.stop ≠ .ongoing ∨ j = P.maxiter)) ∨
    ∃ j s' s'' e, (Run.loop P budget).run s = .error e s'' ∧ P.Begins p x zero o j s' ∧
      (Run.advance P).run s' = .error e s'' := by
  -- On what is left of the budget, from any state between two iterations.
  induction budget generalizing k s with
  | zero => exact .inl ⟨k, s, rfl, h, .inr hk⟩
  | succ budget ih =>
    have hlt : k < P.maxiter := by omega
    cases hs : (Run.advance P).run s with
    | error e s' =>
      refine .inr ⟨k, s, s', e, ?_, ⟨h, hstop, hlt⟩, hs⟩
      simp only [Run.loop, EStateM.run_bind, hs]
    | ok _ s' =>
      have h' : P.Reaches p x zero o (k + 1) s' := h.advance hstop hlt hs
      by_cases hgo : s'.stop = .ongoing
      · have hloop : (Run.loop P (budget + 1)).run s = (Run.loop P budget).run s' := by
          simp only [Run.loop, EStateM.run_bind, EStateM.run_get, hs, if_pos hgo]
        rw [hloop]
        exact ih h' hgo (by omega)
      · refine .inl ⟨k + 1, s', ?_, h', .inl hgo⟩
        simp only [Run.loop, EStateM.run_bind, EStateM.run_get, EStateM.run_pure, hs, if_neg hgo]

/-- What is known of the state with which a run begins. -/
structure Begun (p : Bidiagonal α U V) (x zero : V) (o : Observers α) (s : Run α U V) : Prop where
  process_eq : s.process = p
  iterate_eq : s.iterate = ⟨x, p.v, zero⟩
  normar_eq : s.normar = p.alpha * p.beta
  iteration_eq : s.iteration = 0
  stop_eq : s.stop = .ongoing
  observers_eq : s.observers = o

omit [Vectors α U] in
theorem begun {p : Bidiagonal α U V} {s : Run α U V} (h : Run.begin p x zero o = .ok s) :
    Begun p x zero o s := by
  unfold Run.begin at h
  cases hn : NormEstimate.initial p.alpha with
  | error e => simp [hn, bind, Except.bind] at h
  | ok norms =>
    simp only [hn, bind, Except.bind, pure, Except.pure, Except.ok.injEq] at h
    rw [← h]
    exact ⟨rfl, rfl, rfl, rfl, rfl, rfl⟩

omit [Vectors α U] in
theorem begin_stop {p : Bidiagonal α U V} {s : Run α U V} (h : Run.begin p x zero o = .ok s) :
    s.stop = .ongoing := (begun h).stop_eq

theorem Reaches.stop_zero {s : Run α U V} (h : P.Reaches p x zero o 0 s) : s.stop = .ongoing := by
  cases h with
  | begin _ hbegin _ => exact begin_stop hbegin

/-- How a solve ends whose loop ends so. -/
def ending : EStateM.Result Fault (Run α U V) Unit → Ending α U V
  | .error e s => .failed ⟨e, s.iterate.x, s.process.asked, s.observers⟩
  | .ok _ s => .returned s.close

/-- **From each state between two iterations the solve goes on**, with what is left of the
budget. -/
theorem Reaches.solve_eq {k : ℕ} {s : Run α U V} (h : P.Reaches p x zero o k s) :
    P.solve p x zero o =
      ending ((if s.stop = .ongoing then Run.loop P (P.maxiter - k) else pure ()).run s) := by
  -- Each iteration takes one from the budget that the solve has left.
  induction h with
  | @begin p' s hstart hbegin hopen =>
    rw [if_pos (begin_stop hbegin), Nat.sub_zero, solve, hstart]
    simp only [hbegin, if_pos hopen]
    cases (Run.loop P P.maxiter).run s <;> rfl
  | @advance k s s' h hstop hk hs ih =>
    obtain ⟨budget, hbudget⟩ : ∃ budget, P.maxiter - k = budget + 1 := ⟨P.maxiter - k - 1, by omega⟩
    have hrest : P.maxiter - (k + 1) = budget := by omega
    rw [ih, if_pos hstop, hbudget, hrest]
    simp only [Run.loop, EStateM.run_bind, EStateM.run_get, hs]

/-- A state from which no iteration begins is the one that the solve returns. -/
theorem Reaches.returns {k : ℕ} {s : Run α U V} (h : P.Reaches p x zero o k s)
    (hend : s.stop ≠ .ongoing ∨ k = P.maxiter) : P.solve p x zero o = .returned s.close := by
  rw [h.solve_eq]
  rcases hend with hend | rfl
  · rw [if_neg hend]; rfl
  · rw [Nat.sub_self]; split_ifs <;> rfl

/-- An iteration that fails is what the solve fails with. -/
theorem Begins.fails {k : ℕ} {s s' : Run α U V} {e : Fault} (h : P.Begins p x zero o k s)
    (hs : (Run.advance P).run s = .error e s') :
    P.solve p x zero o = .failed ⟨e, s'.iterate.x, s'.process.asked, s'.observers⟩ := by
  obtain ⟨budget, hbudget⟩ : ∃ budget, P.maxiter - k = budget + 1 :=
    ⟨P.maxiter - k - 1, by have := h.budget; omega⟩
  rw [h.reached.solve_eq, if_pos h.ongoing, hbudget]
  simp only [Run.loop, EStateM.run_bind, hs]
  rfl

variable (P p x zero o) in
/-- **The ways in which a solve ends.** -/
inductive Ends : Ending α U V → Prop
  /-- The process fails to start. -/
  | unstarted {e : Fault} {p' : Bidiagonal α U V}
      (hstart : (Bidiagonal.start P.operator x).run p = .error e p') :
      Ends (.failed ⟨e, x, p'.asked, o⟩)
  /-- No state can be made of the process that has started. -/
  | unbegun {e : Fault} {p' : Bidiagonal α U V}
      (hstart : (Bidiagonal.start P.operator x).run p = .ok () p')
      (hbegin : Run.begin p' x zero o = .error e) : Ends (.failed ⟨e, x, p'.asked, o⟩)
  /-- There is nothing to iterate. -/
  | idle {p' : Bidiagonal α U V} {s : Run α U V}
      (hstart : (Bidiagonal.start P.operator x).run p = .ok () p')
      (hbegin : Run.begin p' x zero o = .ok s) (hclosed : s.isOpen = false) :
      Ends (.returned s.close)
  /-- A rule fires, or the budget is used up. -/
  | settled {k : ℕ} {s : Run α U V} (h : P.Reaches p x zero o k s)
      (hend : s.stop ≠ .ongoing ∨ k = P.maxiter) : Ends (.returned s.close)
  /-- An iteration fails. -/
  | broken {k : ℕ} {s s' : Run α U V} {e : Fault} (h : P.Begins p x zero o k s)
      (hs : (Run.advance P).run s = .error e s') :
      Ends (.failed ⟨e, s'.iterate.x, s'.process.asked, s'.observers⟩)

variable (P p x zero o) in
/-- **Every solve ends** in one of these ways. -/
theorem solve_ends : P.Ends p x zero o (P.solve p x zero o) := by
  unfold solve
  cases hstart : (Bidiagonal.start P.operator x).run p with
  | error e p' => exact .unstarted hstart
  | ok _ p' =>
    dsimp only
    cases hbegin : Run.begin p' x zero o with
    | error e => exact .unbegun hstart hbegin
    | ok s =>
      dsimp only
      by_cases hopen : s.isOpen = true
      · rw [if_pos hopen]
        rcases loop_cases P.maxiter (.begin hstart hbegin hopen) (begin_stop hbegin)
          (Nat.zero_add _) with ⟨k, s', hloop, hr, hend⟩ | ⟨k, s₁, s₂, e, hloop, hb, he⟩
        · rw [hloop]
          exact .settled hr hend
        · rw [hloop]
          exact .broken hb he
      · rw [if_neg hopen]
        exact .idle hstart hbegin (by simpa using hopen)

/-- **How a solve returns**: there was nothing to iterate, or it ends after an iteration. -/
theorem returned_cases {s : Run α U V} (h : P.solve p x zero o = .returned s) :
    (∃ p' s', (Bidiagonal.start P.operator x).run p = .ok () p' ∧
      Run.begin p' x zero o = .ok s' ∧ s'.isOpen = false ∧ s = s'.close) ∨
    ∃ k s', P.Reaches p x zero o k s' ∧ (s'.stop ≠ .ongoing ∨ k = P.maxiter) ∧ s = s'.close := by
  have hends := P.solve_ends p x zero o
  rw [h] at hends
  cases hends with
  | idle hstart hbegin hclosed => exact .inl ⟨_, _, hstart, hbegin, hclosed, rfl⟩
  | settled hr hend => exact .inr ⟨_, _, hr, hend, rfl⟩

/-- A solve that a rule ends has ended after an iteration. -/
theorem returned_reaches {s : Run α U V} (h : P.solve p x zero o = .returned s)
    (hstop : s.stop ≠ .ongoing) : ∃ k s', P.Reaches p x zero o (k + 1) s' ∧ s = s'.close := by
  rcases returned_cases h with ⟨p', s', -, hbegin, -, rfl⟩ | ⟨k, s', hr, -, rfl⟩
  · exact absurd (begin_stop hbegin) hstop
  · cases k with
    | zero => exact absurd hr.stop_zero hstop
    | succ k => exact ⟨k, s', hr, rfl⟩

/-- **How a solve fails**: at its start, or in an iteration. -/
theorem failed_cases {w : Wreck α V} (h : P.solve p x zero o = .failed w) :
    (∃ p', (Bidiagonal.start P.operator x).run p = .error w.fault p') ∨
    (∃ p', (Bidiagonal.start P.operator x).run p = .ok () p' ∧
      Run.begin p' x zero o = .error w.fault) ∨
    ∃ k s s', P.Begins p x zero o k s ∧ (Run.advance P).run s = .error w.fault s' := by
  have hends := P.solve_ends p x zero o
  rw [h] at hends
  cases hends with
  | unstarted hstart => exact .inl ⟨_, hstart⟩
  | unbegun hstart hbegin => exact .inr (.inl ⟨_, hstart, hbegin⟩)
  | broken hb he => exact .inr (.inr ⟨_, _, _, hb, he⟩)

end Problem

end LeastSquares
