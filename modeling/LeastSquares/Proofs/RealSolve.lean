import LeastSquares.Proofs.Course
import LeastSquares.Proofs.Iterations

/-!
# A solve over the real numbers

The states of a solve are those of its course (`Follows`), as long as the solve goes on. The link
between the two goes through the rules: where a scalar of the process vanishes, so does the residual
of the normal equations, and then a rule at the precision of the machine fires, whatever the
tolerances are.

* `StoppingTests.check_vanished`: the rule that fires where the residual vanishes.
* `Problem.Reaches.follows`: **the states of a solve are those of its course.**
* `Problem.advance_of_live`, `Problem.Executes.follows`: an iteration of a solve, and the state that
  it leaves.
* `Problem.Reaches.stop_eq`: **how an iteration ends in which a scalar of the process vanishes.**
-/

namespace LeastSquares

open Bidiagonal

/-- **The rule that fires where the residual of the normal equations vanishes.** -/
theorem StoppingTests.check_vanished {normr norma conda normx normb atol btol : ℝ} {n m : ℤ}
    (hr : 0 ≤ normr) (hA : 0 < norma) (hc : 0 < conda) (a c : ℝ) :
    (StoppingTests.exact normr 0 norma conda normx normb atol btol).check n m a c =
      if m ≤ n then .maxiter else if 0 < normr then .atolEps else .btolEps := by
  have h3 : ¬ 1 + 1 / conda ≤ 1 := by
    have := one_div_pos.2 hc
    linarith
  unfold check StoppingTests.exact Extended.isNegligible
  simp only [Arithmetic.le, h3, decide_false, Bool.false_eq_true, if_false]
  rcases hr.lt_or_eq with h | h
  · simp [h, hA]
  · simp [← h]

variable {𝕜 E F : Type} [RCLike 𝕜]
  [NormedAddCommGroup E] [InnerProductSpace 𝕜 E] [NormedSpace ℝ E] [FiniteDimensional 𝕜 E]
  [NormedAddCommGroup F] [InnerProductSpace 𝕜 F] [NormedSpace ℝ F] [FiniteDimensional 𝕜 F]
  {A : E →ₗ[𝕜] F} {b : F} {x₀ : E} {S : ℕ → Run ℝ F E} {k : ℕ} {s s' : Run ℝ F E}

/-- **A state of a solve against its course.** The callback and whether a history is kept do not
change, and the solve goes on only if no scalar of the process has vanished. -/
structure Follows (S : ℕ → Run ℝ F E) (o : Observers ℝ) (k : ℕ) (s : Run ℝ F E) : Prop where
  bare_eq : s.bare = S k
  callback_eq : s.observers.callback = o.callback
  kept_eq : s.observers.history.isSome = o.history.isSome
  ongoing : s.stop = .ongoing → Live (processOf S) k

namespace Problem

variable {P : Problem ℝ F E} {o : Observers ℝ}

section

variable (hP : P.operator = .exact A) (hS : Course A b x₀ P.damp S) (hb : s.bare = S k)
  (hl : Live (processOf S) k)

include hP hS hb hl

omit hP in
theorem sound_of_live : s.Sound := .of_bare (hb ▸ hS.sound hl)

omit hP in
/-- **The rule that fires where a scalar of the process vanishes.** -/
theorem check_of_vanished
    (h0 : (S (k + 1)).process.alpha = 0 ∨ (S (k + 1)).process.beta = 0) :
    (s.tests A P.damp P.atol P.btol).check (k + 1 : ℕ) P.maxiter P.atol P.ctol =
      if P.maxiter ≤ k + 1 then .maxiter
      else if 0 < (S (k + 1)).normr then .atolEps else .btolEps := by
  have hs := sound_of_live hS hb hl
  have hnext : (s.next A P.damp).bare = S (k + 1) := by rw [Run.bare_next, hb, hS.succ]
  have hnormr : (s.next A P.damp).normr = (S (k + 1)).normr := by rw [← hnext, Run.bare_normr]
  have hnormar : (s.next A P.damp).normar = 0 := by
    rw [← Run.bare_normar, hnext, hS.normar_succ, hS.zetabar_eq_zero hl h0, abs_zero]
  rw [Run.tests, hnormar, hnormr, StoppingTests.check_vanished (hS.normr_nonneg k)
    (hs.norma_pos P.damp) (hs.ratio_pos P.damp)]
  simp only [Nat.cast_le]

omit hP hl in
theorem iteration_of_bare : s.iteration = k := by
  rw [← Run.bare_iteration, hb, hS.iteration_eq]

omit hP in
/-- The first statistic is the estimate of the residual, relative to the first one. -/
theorem test1_mul_normb (atol btol : ℝ) :
    (s.tests A P.damp atol btol).test1 * s.normb = (s.next A P.damp).normr :=
  div_mul_cancel₀ _ (sound_of_live hS hb hl).normb_pos.ne'

/-- **An iteration of a solve that goes on.** -/
theorem advance_of_live : (Run.advance P).run s =
    let t := s.tests A P.damp P.atol P.btol
    if s.observers.interrupts (k + 1) t then
      .error (.interrupted (k + 1)) { s.next A P.damp with observers := s.observers.seen (k + 1) t }
    else
      .ok () { s.next A P.damp with
        observers := s.observers.seen (k + 1) t
        stop := t.check (k + 1 : ℕ) P.maxiter P.atol P.ctol } := by
  rw [Run.advance_eq P hP (sound_of_live hS hb hl), iteration_of_bare hS hb]

end

/-- **The states of a solve are those of its course.** -/
theorem Reaches.follows (hP : P.operator = .exact A) (hS : Course A b x₀ P.damp S)
    (h : P.Reaches (.initial b 0) x₀ 0 o k s) : Follows S o k s := by
  -- The step lemma is `advance_of_live`; that it applies again is what the rules are needed for.
  induction h with
  | @begin p' s hstart hbegin hopen =>
    rw [hP, start_eq] at hstart
    obtain rfl : Bidiagonal.opening A b x₀ = p' := by injection hstart
    rw [Run.begin_eq] at hbegin
    obtain rfl : Run.opening A b x₀ o = s := by injection hbegin
    have hne : (Bidiagonal.opening A b x₀).alpha * (Bidiagonal.opening A b x₀).beta ≠ 0 := by
      simpa [Run.isOpen, Arithmetic.eq, Run.opening] using hopen
    refine ⟨hS.zero.symm, rfl, rfl, ?_⟩
    intro _ j hj
    obtain rfl : j = 0 := by omega
    rw [processOf, hS.zero]
    exact mul_ne_zero_iff.1 hne
  | @advance k s s' h hstop hk hs ih =>
    have hb := ih.bare_eq
    have hl := ih.ongoing hstop
    rw [advance_of_live hP hS hb hl] at hs
    dsimp only at hs
    split_ifs at hs
    injection hs with _ hs
    subst hs
    refine ⟨?_, ?_, ?_, ?_⟩
    · rw [hS.succ, ← hb]; rfl
    · exact (s.observers.seen_callback _ _).trans ih.callback_eq
    · rw [Observers.seen_history, Option.isSome_map, ih.kept_eq]
    · intro hgo
      rcases hl.succ_or_eq_zero with hl' | h0
      · exact hl'
      -- Had a scalar vanished, a rule would have fired.
      · simp only at hgo
        rw [check_of_vanished hS hb hl h0] at hgo
        split_ifs at hgo

section

variable (hP : P.operator = .exact A) (hS : Course A b x₀ P.damp S)

include hP hS

theorem Begins.live (h : P.Begins (.initial b 0) x₀ 0 o k s) : Live (processOf S) k :=
  (h.reached.follows hP hS).ongoing h.ongoing

/-- **An iteration fails only where the callback ends the solve.** -/
theorem Begins.fault_eq {e : Fault} (h : P.Begins (.initial b 0) x₀ 0 o k s)
    (hs : (Run.advance P).run s = .error e s') : e = .interrupted (k + 1) ∧
      s.observers.interrupts (k + 1) (s.tests A P.damp P.atol P.btol) = true := by
  rw [advance_of_live hP hS (h.reached.follows hP hS).bare_eq (h.live hP hS)] at hs
  dsimp only at hs
  split_ifs at hs with hi
  injection hs with he
  exact ⟨he.symm, hi⟩

/-- **The state that an iteration leaves**, whether the callback ends the solve there or not. -/
theorem Executes.follows {n : ℕ} (h : P.Executes (.initial b 0) x₀ 0 o n s') :
    ∃ k s, n = k + 1 ∧ P.Begins (.initial b 0) x₀ 0 o k s ∧ s'.bare = S (k + 1) ∧
      s'.observers = s.observers.seen (k + 1) (s.tests A P.damp P.atol P.btol) := by
  cases h with
  | ends h hs | fails h hs =>
    have hb := (h.reached.follows hP hS).bare_eq
    rw [advance_of_live hP hS hb (h.live hP hS)] at hs
    dsimp only at hs
    split_ifs at hs
    injection hs with _ hs
    subst hs
    exact ⟨_, _, rfl, h, by rw [hS.succ, ← hb]; rfl, rfl⟩

/-- **The rule after an iteration that has ended.** -/
theorem Reaches.stop_eq_check (h : P.Reaches (.initial b 0) x₀ 0 o (k + 1) s') :
    ∃ s, P.Begins (.initial b 0) x₀ 0 o k s ∧ s'.stop =
      (s.tests A P.damp P.atol P.btol).check (k + 1 : ℕ) P.maxiter P.atol P.ctol := by
  cases h with
  | @advance _ s _ h hstop hk hs =>
    have hbegins : P.Begins (.initial b 0) x₀ 0 o k s := ⟨h, hstop, hk⟩
    rw [advance_of_live hP hS (h.follows hP hS).bare_eq (hbegins.live hP hS)] at hs
    dsimp only at hs
    split_ifs at hs
    injection hs with _ hs
    exact ⟨s, hbegins, by rw [← hs]⟩

/-- **How an iteration ends in which a scalar of the process vanishes.** -/
theorem Reaches.stop_eq (h : P.Reaches (.initial b 0) x₀ 0 o (k + 1) s')
    (h0 : s'.process.alpha = 0 ∨ s'.process.beta = 0) :
    s'.stop = if P.maxiter ≤ k + 1 then .maxiter
      else if 0 < s'.normr then .atolEps else .btolEps := by
  have hb' := (h.follows hP hS).bare_eq
  obtain ⟨s, hbegins, hstop⟩ := h.stop_eq_check hP hS
  rw [← Run.bare_process, hb'] at h0
  have hnormr : s'.normr = (S (k + 1)).normr := by rw [← Run.bare_normr, hb']
  rw [hstop, hnormr,
    check_of_vanished hS (hbegins.reached.follows hP hS).bare_eq (hbegins.live hP hS) h0]

end

/-- A first iteration is executed if there is anything to iterate. -/
theorem executes_one (hP : P.operator = .exact A)
    (h : (Bidiagonal.opening A b x₀).alpha * (Bidiagonal.opening A b x₀).beta ≠ 0)
    (hmax : 0 < P.maxiter) : ∃ s, P.Executes (.initial b 0) x₀ 0 o 1 s := by
  have hr : P.Reaches (.initial b 0) x₀ 0 o 0 (Run.opening A b x₀ o) := by
    have hstart : (Bidiagonal.start P.operator x₀).run (.initial b 0) =
        .ok () (Bidiagonal.opening A b x₀) := by rw [hP, start_eq]
    refine .begin hstart (Run.begin_eq A b x₀ o) ?_
    simpa [Run.isOpen, Arithmetic.eq, Run.opening] using h
  exact Begins.executes ⟨hr, rfl, hmax⟩

/-- The first iteration ends if the callback does not end the solve. -/
theorem reaches_one (hP : P.operator = .exact A)
    (h : (Bidiagonal.opening A b x₀).alpha * (Bidiagonal.opening A b x₀).beta ≠ 0)
    (hmax : 0 < P.maxiter) (hquiet : ∀ n t, o.interrupts n t = false) :
    ∃ s, P.Reaches (.initial b 0) x₀ 0 o 1 s := by
  have hS := course_spec A b x₀ P.damp
  obtain ⟨s, h⟩ := executes_one (o := o) hP h hmax
  cases h with
  | ends h hs => exact ⟨s, h.reached.advance h.ongoing h.budget hs⟩
  | fails h hs =>
    have hi := (h.fault_eq hP hS hs).2
    rw [Observers.interrupts, (h.reached.follows hP hS).callback_eq] at hi
    exact absurd (hi.symm.trans (hquiet _ _)) (by simp)

/-- **The identity of the real line**, with damping, without tolerances, and with a budget. -/
noncomputable def identityProblem : Problem ℝ ℝ ℝ := ⟨.exact (𝕜 := ℝ) LinearMap.id, 1, 0, 0, 0, 10⟩

theorem identityProblem_operator : identityProblem.operator = .exact (𝕜 := ℝ) LinearMap.id := rfl

end Problem

end LeastSquares
