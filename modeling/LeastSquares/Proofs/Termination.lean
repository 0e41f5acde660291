import LeastSquares.Proofs.RealSolve
import LeastSquares.Proofs.Steps

/-!
# Termination within the rank

Over the real numbers a solve takes no more iterations than the operator has rank. Each iteration
after which no scalar of the process has vanished adds a vector to an orthonormal family in the row
space, and an iteration in which one vanishes is the last: what it leaves behind in the process is
never used.

* `Problem.Executes.le_rank`: the number of iterations.
* `Problem.terminates`: **how a solve ends.**
* `Problem.returns_of_quiet`: a solve returns unless the callback ends it.
-/

namespace LeastSquares.Problem

open Bidiagonal

variable {𝕜 E F : Type} [RCLike 𝕜]
  [NormedAddCommGroup E] [InnerProductSpace 𝕜 E] [NormedSpace ℝ E] [FiniteDimensional 𝕜 E]
  [NormedAddCommGroup F] [InnerProductSpace 𝕜 F] [NormedSpace ℝ F] [FiniteDimensional 𝕜 F]
  {A : E →ₗ[𝕜] F} {b : F} {x₀ : E} {P : Problem ℝ F E} {o : Observers ℝ} {k n : ℕ}
  {s : Run ℝ F E}

section

variable (hP : P.operator = .exact A)

include hP

theorem Begins.lt_rank (h : P.Begins (.initial b 0) x₀ 0 o k s) :
    k < Module.finrank 𝕜 A.range := by
  have hS := course_spec A b x₀ P.damp
  exact hS.recurs.succ_le_rank (h.live hP hS)

/-- **There are no more iterations than the rank.** -/
theorem Executes.le_rank (h : P.Executes (.initial b 0) x₀ 0 o n s) :
    n ≤ Module.finrank 𝕜 A.range := by
  cases h with
  | ends h _ | fails h _ => exact h.lt_rank hP

theorem Reaches.le_rank (h : P.Reaches (.initial b 0) x₀ 0 o k s) :
    k ≤ Module.finrank 𝕜 A.range := by
  cases k with
  | zero => exact Nat.zero_le _
  | succ k => exact h.executes.le_rank hP

/-- **An iteration in which a scalar vanishes is the last.** -/
theorem Executes.last {m : ℕ} {s' : Run ℝ F E} (h : P.Executes (.initial b 0) x₀ 0 o n s)
    (h0 : s.process.alpha = 0 ∨ s.process.beta = 0)
    (h' : P.Executes (.initial b 0) x₀ 0 o m s') : m ≤ n := by
  have hS := course_spec A b x₀ P.damp
  obtain ⟨k, -, rfl, -, hb, -⟩ := h.follows hP hS
  obtain ⟨j, s₁, rfl, hbegins, -, -⟩ := h'.follows hP hS
  rw [← Run.bare_process, hb] at h0
  by_contra hlt
  -- A later iteration would have begun with all scalars so far nonzero.
  have hl := hbegins.live hP hS (k + 1) (by omega)
  exact h0.elim hl.1 hl.2

/-- **How the last iteration ends**, if a scalar vanishes in it and the callback goes on. -/
theorem Reaches.returns_of_vanished (h : P.Reaches (.initial b 0) x₀ 0 o (k + 1) s)
    (h0 : s.process.alpha = 0 ∨ s.process.beta = 0) :
    P.solve (.initial b 0) x₀ 0 o = .returned s.close ∧
      s.stop = if P.maxiter ≤ k + 1 then .maxiter
        else if 0 < s.normr then .atolEps else .btolEps := by
  have hstop := h.stop_eq hP (course_spec A b x₀ P.damp) h0
  have hne : s.stop ≠ .ongoing := by rw [hstop]; split_ifs <;> simp
  exact ⟨h.returns (.inl hne), hstop⟩

/-- An iteration whose number is the rank leaves no room for another vector. -/
theorem Executes.vanished (h : P.Executes (.initial b 0) x₀ 0 o (Module.finrank 𝕜 A.range) s) :
    s.process.alpha = 0 ∨ s.process.beta = 0 := by
  have hS := course_spec A b x₀ P.damp
  obtain ⟨k, s₁, hk, hbegins, hb, -⟩ := h.follows hP hS
  rw [← Run.bare_process, hb]
  rcases (hbegins.live hP hS).succ_or_eq_zero with hl | h0
  -- One more vector would make more than the rank of them.
  · have := hS.recurs.succ_le_rank (𝕜 := 𝕜) hl
    omega
  · exact h0

/-- **A budget above the rank is never used up.** -/
theorem stop_ne_maxiter_of_rank_lt (hmax : Module.finrank 𝕜 A.range < P.maxiter)
    (h : P.solve (.initial b 0) x₀ 0 o = .returned s) : s.stop ≠ .maxiter := by
  rcases returned_cases h with ⟨p, s', -, hbegin, -, rfl⟩ | ⟨k, s', hr, -, rfl⟩
  · rw [Run.close, begin_stop hbegin]; simp
  · have hstop : s'.close.stop = s'.stop := rfl
    rw [hstop, Ne, hr.stop_eq_maxiter]
    have := hr.le_rank hP
    omega

/-- **A solve fails only where the callback ends it.** -/
theorem failed_interrupted {w : Wreck ℝ E} (h : P.solve (.initial b 0) x₀ 0 o = .failed w) :
    ∃ k t, w.fault = .interrupted (k + 1) ∧ o.interrupts (k + 1) t = true := by
  have hS := course_spec A b x₀ P.damp
  rcases failed_cases h with ⟨p, hstart⟩ | ⟨p, hstart, hbegin⟩ | ⟨k, s₁, s₂, hbegins, hs⟩
  · rw [hP, start_eq] at hstart
    injection hstart
  · rw [hP, start_eq] at hstart
    obtain rfl : Bidiagonal.opening A b x₀ = p := by injection hstart
    rw [Run.begin_eq] at hbegin
    injection hbegin
  · obtain ⟨he, hi⟩ := hbegins.fault_eq hP hS hs
    have hc := (hbegins.reached.follows hP hS).callback_eq
    exact ⟨k, _, he, by rwa [Observers.interrupts, hc] at hi⟩

/-- **A solve returns** if the callback never ends it. -/
theorem returns_of_quiet (hquiet : ∀ n t, o.interrupts n t = false) :
    ∃ s, P.solve (.initial b 0) x₀ 0 o = .returned s := by
  cases h : P.solve (.initial b 0) x₀ 0 o with
  | returned s => exact ⟨s, rfl⟩
  | failed w =>
    obtain ⟨k, t, -, hi⟩ := failed_interrupted hP h
    rw [hquiet] at hi
    exact absurd hi (by simp)

variable (b x₀ o) in
/-- **How a solve ends**: after at most as many iterations as the rank, the last of which is the
first in which a scalar of the process vanishes, if it comes to that. -/
theorem terminates :
    (∀ n s, P.Executes (.initial b 0) x₀ 0 o n s → n ≤ Module.finrank 𝕜 A.range) ∧
    (∀ n s, P.Executes (.initial b 0) x₀ 0 o n s → (s.process.alpha = 0 ∨ s.process.beta = 0) →
      ∀ m s', P.Executes (.initial b 0) x₀ 0 o m s' → m ≤ n) ∧
    (∀ k s, P.Reaches (.initial b 0) x₀ 0 o (k + 1) s →
      (s.process.alpha = 0 ∨ s.process.beta = 0) →
        P.solve (.initial b 0) x₀ 0 o = .returned s.close ∧
          s.stop = if P.maxiter ≤ k + 1 then .maxiter
            else if 0 < s.normr then .atolEps else .btolEps) ∧
    (∀ s, P.Executes (.initial b 0) x₀ 0 o (Module.finrank 𝕜 A.range) s →
      s.process.alpha = 0 ∨ s.process.beta = 0) ∧
    (Module.finrank 𝕜 A.range < P.maxiter →
      ∀ s, P.solve (.initial b 0) x₀ 0 o = .returned s → s.stop ≠ .maxiter) ∧
    ((∀ n t, o.interrupts n t = false) →
      ∃ s, P.solve (.initial b 0) x₀ 0 o = .returned s) := by
  refine ⟨?_, ?_, ?_, ?_, ?_, returns_of_quiet hP⟩
  · intro n s h
    exact h.le_rank hP
  · intro n s h h0 m s' h'
    exact h.last hP h0 h'
  · intro k s h h0
    exact h.returns_of_vanished hP h0
  · intro s h
    exact h.vanished hP
  · intro hmax s h
    exact stop_ne_maxiter_of_rank_lt hP hmax h

end

theorem finrank_identity : Module.finrank ℝ (LinearMap.id : ℝ →ₗ[ℝ] ℝ).range = 1 := by
  rw [LinearMap.range_id, finrank_top, Module.finrank_self]

theorem identityProblem_terminates :
    ∃ s, identityProblem.solve (.initial 2 0) 1 0 Run.unwatched = .returned s ∧
      s.stop ≠ .maxiter := by
  obtain ⟨-, -, -, -, hmax, hret⟩ :=
    terminates 2 1 Run.unwatched identityProblem_operator
  obtain ⟨s, h⟩ := hret fun _ _ => rfl
  exact ⟨s, h, hmax (by rw [finrank_identity]; decide) s h⟩

end LeastSquares.Problem
