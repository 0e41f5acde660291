import LeastSquares.Proofs.MinimumNorm

/-!
# More damping

Damping trades the residual for the norm of the solution. Of two solves from zero that are left to
run, the one with more damping returns the solution that is no longer, and whose residual is no
smaller. Each of the two solutions does at least as well as the other one on its own objective, and
the two objectives differ by a multiple of the norm only. Solves with the same damping return the
same solution, which for an operator without full column rank is due to the least norm.

* `ClosestMinimizer.unique`: there is one minimizer closest to a point.
* `norm_le_of_minimizes`, `residual_le_of_minimizes`: minimizers under two dampings.
* `Problem.damping_shrinks`: **the solutions of two solves.**
-/

namespace LeastSquares

variable {𝕜 E F : Type} [RCLike 𝕜] [NormedAddCommGroup E] [InnerProductSpace 𝕜 E]
  [NormedAddCommGroup F] [InnerProductSpace 𝕜 F] {A : E →ₗ[𝕜] F} {b : F} {c d : ℝ} {x y : E}

/-- **There is one minimizer closest to a point.** -/
theorem ClosestMinimizer.unique {f : E → ℝ} {p : E} (hx : ClosestMinimizer f p x)
    (hy : ClosestMinimizer f p y) : x = y := by
  by_contra hne
  have h₁ : ‖x - p‖ < ‖y - p‖ := hx.closest y hy.minimizes (Ne.symm hne)
  have h₂ : ‖y - p‖ < ‖x - p‖ := hy.closest x hx.minimizes hne
  exact lt_asymm h₁ h₂

/-- The objective under another damping. -/
theorem objective_damping (c d : ℝ) (x : E) :
    objective A b d x = objective A b c x + (d ^ 2 - c ^ 2) * ‖x‖ ^ 2 := by
  unfold objective
  ring

/-- **The minimizer under more damping is no longer.** -/
theorem norm_le_of_minimizes (hcd : c ^ 2 < d ^ 2)
    (hx : objective A b c x ≤ objective A b c y) (hy : objective A b d y ≤ objective A b d x) :
    ‖y‖ ≤ ‖x‖ := by
  -- Each is at least as good as the other by its own objective; the sum of both inequalities is one
  -- between the norms.
  rw [objective_damping c d x, objective_damping c d y] at hy
  have hpos : 0 < d ^ 2 - c ^ 2 := sub_pos.2 hcd
  have hmul : (d ^ 2 - c ^ 2) * ‖y‖ ^ 2 ≤ (d ^ 2 - c ^ 2) * ‖x‖ ^ 2 := by linarith
  exact le_of_sq_le_sq (le_of_mul_le_mul_left hmul hpos) (norm_nonneg x)

/-- **A minimizer that is no shorter has no larger a residual.** -/
theorem residual_le_of_minimizes (hx : objective A b c x ≤ objective A b c y)
    (hnorm : ‖y‖ ≤ ‖x‖) : ‖b - A x‖ ≤ ‖b - A y‖ := by
  have hsq : ‖y‖ ^ 2 ≤ ‖x‖ ^ 2 := pow_le_pow_left₀ (norm_nonneg y) hnorm 2
  have hmul : c ^ 2 * ‖y‖ ^ 2 ≤ c ^ 2 * ‖x‖ ^ 2 := mul_le_mul_of_nonneg_left hsq (sq_nonneg c)
  unfold objective at hx
  rw [norm_sub_rev b, norm_sub_rev b]
  exact le_of_sq_le_sq (by linarith) (norm_nonneg _)

/-- **The minimizers of least norm under two dampings.** -/
theorem ClosestMinimizer.damping (hx : ClosestMinimizer (objective A b c) 0 x)
    (hy : ClosestMinimizer (objective A b d) 0 y) (hc : 0 ≤ c) (hcd : c ≤ d) :
    ‖y‖ ≤ ‖x‖ ∧ ‖b - A x‖ ≤ ‖b - A y‖ := by
  have hxy : objective A b c x ≤ objective A b c y := hx.minimizes y
  rcases hcd.eq_or_lt with rfl | hlt
  · rw [hx.unique hy]
    exact ⟨le_rfl, le_rfl⟩
  · have hsq : c ^ 2 < d ^ 2 := pow_lt_pow_left₀ hlt hc two_ne_zero
    have hnorm : ‖y‖ ≤ ‖x‖ := norm_le_of_minimizes hsq hxy (hy.minimizes x)
    exact ⟨hnorm, residual_le_of_minimizes hxy hnorm⟩

namespace Problem

variable [NormedSpace ℝ E] [FiniteDimensional 𝕜 E] [NormedSpace ℝ F] [FiniteDimensional 𝕜 F]
  {P Q : Problem ℝ F E}

/-- **A problem that is left to run**: it has no tolerances and a budget above the rank of its
operator. -/
structure Unending (P : Problem ℝ F E) (A : E →ₗ[𝕜] F) : Prop where
  operator : P.operator = .exact A
  atol : P.atol = 0
  btol : P.btol = 0
  ctol : P.ctol = 0
  maxiter : Module.finrank 𝕜 A.range < P.maxiter

/-- A solve from zero that is left to run finds the minimizer of least norm. -/
theorem Unending.closest (hP : P.Unending A) {o : Observers ℝ} {s : Run ℝ F E}
    (h : P.solve (.initial b 0) 0 0 o = .returned s) :
    ClosestMinimizer (objective A b P.damp) 0 s.iterate.x :=
  ((exhausted_closest b 0 o hP.operator hP.atol hP.btol hP.ctol hP.maxiter).1 s h).2.2 rfl

variable (b) in
/-- **More damping shrinks the solution** and lets the residual grow. Two solves from zero that are
left to run, on the same operator and right-hand side, return unless the callback ends them; the
solution under more damping is then no longer, and its residual no smaller. -/
theorem damping_shrinks (hP : P.Unending A) (hQ : Q.Unending A) (hdamp : 0 ≤ P.damp)
    (hle : P.damp ≤ Q.damp) (o o' : Observers ℝ) :
    (∀ s t, P.solve (.initial b 0) 0 0 o = .returned s →
      Q.solve (.initial b 0) 0 0 o' = .returned t →
      ‖t.iterate.x‖ ≤ ‖s.iterate.x‖ ∧ ‖b - A s.iterate.x‖ ≤ ‖b - A t.iterate.x‖) ∧
    ((∀ n t, o.interrupts n t = false) → ∃ s, P.solve (.initial b 0) 0 0 o = .returned s) ∧
    ((∀ n t, o'.interrupts n t = false) → ∃ t, Q.solve (.initial b 0) 0 0 o' = .returned t) := by
  refine ⟨?_, returns_of_quiet hP.operator, returns_of_quiet hQ.operator⟩
  intro s t hs ht
  exact (hP.closest hs).damping (hQ.closest ht) hdamp hle

theorem realPartProblem_unending (damp : ℝ) :
    ({ realPartProblem with damp := damp } : Problem ℝ ℝ ℂ).Unending Complex.reLm :=
  ⟨rfl, rfl, rfl, rfl, finrank_reLm⟩

/-- The real part, which does not have full column rank, without damping and with it. -/
theorem realPartProblem_shrinks : ∃ s t,
    realPartProblem.solve (.initial 2 0) 0 0 Run.unwatched = .returned s ∧
    ({ realPartProblem with damp := 1 } : Problem ℝ ℝ ℂ).solve (.initial 2 0) 0 0 Run.unwatched =
      .returned t ∧
    ‖t.iterate.x‖ ≤ ‖s.iterate.x‖ ∧
      ‖2 - Complex.reLm s.iterate.x‖ ≤ ‖2 - Complex.reLm t.iterate.x‖ := by
  obtain ⟨hshrinks, hs, ht⟩ := damping_shrinks 2 (realPartProblem_unending 0)
    (realPartProblem_unending 1) le_rfl zero_le_one Run.unwatched Run.unwatched
  obtain ⟨s, hs⟩ := hs fun _ _ => rfl
  obtain ⟨t, ht⟩ := ht fun _ _ => rfl
  exact ⟨s, t, hs, ht, hshrinks s t hs ht⟩

end Problem

end LeastSquares
