import Mathlib.LinearAlgebra.Complex.FiniteDimensional
import LeastSquares.Proofs.Objective

/-!
# The minimizer of least norm

An operator without full column rank leaves many minimizers. A solve changes its solution only
within the row space, and no two minimizers differ there; so among all of them it finds the one
closest to where it began.

* `ClosestMinimizer`: **the minimizer closest to a point**, and the only one as close.
* `closest_of_normalResidual`: a solution of the normal equations is the one closest to any point
  from which the row space leads to it.
* `Problem.sub_mem_range`: **a solve stays in the row space.**
* `Problem.exhausted_closest`: **which minimizer a solve finds.**
-/

namespace LeastSquares

open Bidiagonal

variable {𝕜 E F : Type} [RCLike 𝕜]
  [NormedAddCommGroup E] [InnerProductSpace 𝕜 E] [NormedSpace ℝ E] [FiniteDimensional 𝕜 E]
  [NormedAddCommGroup F] [InnerProductSpace 𝕜 F] [NormedSpace ℝ F] [FiniteDimensional 𝕜 F]

/-- **The minimizer closest to a point** `p`: all other minimizers are further away. For `p = 0` it
is the minimizer of least norm. -/
structure ClosestMinimizer (f : E → ℝ) (p x : E) : Prop where
  minimizes : ∀ y, f x ≤ f y
  closest : ∀ y, (∀ z, f y ≤ f z) → y ≠ x → ‖x - p‖ < ‖y - p‖

variable {A : E →ₗ[𝕜] F} {b : F} {x₀ : E} {damp : ℝ} {p x : E}

omit [NormedSpace ℝ F] in
/-- Two solutions of the normal equations differ by what the operator does not see. -/
theorem apply_sub_eq_zero {y : E} (hx : normalResidual A b x₀ damp x = 0)
    (hy : normalResidual A b x₀ damp y = 0) : A (y - x) = 0 := by
  have h : normalResidual A b x₀ damp (x + (y - x)) =
      normalResidual A b x₀ damp x - normalMap A damp (y - x) := normalResidual_add x (y - x)
  rw [add_sub_cancel, hx, hy, zero_sub, eq_comm, neg_eq_zero] at h
  exact apply_eq_zero_of_normalMap h

/-- **The solution of the normal equations closest to a point** is the one to which the row space
leads. -/
theorem closest_of_normalResidual (hx : normalResidual A b 0 damp x = 0)
    (hp : x - p ∈ A.adjoint.range) : ClosestMinimizer (objective A b damp) p x where
  minimizes := objective_le_iff.2 hx
  closest := by
    intro y hy hne
    have hA : A (y - x) = 0 := apply_sub_eq_zero hx (objective_le_iff.1 hy)
    have hpos : 0 < ‖y - x‖ := norm_pos_iff.2 (sub_ne_zero.2 hne)
    -- The way on to another minimizer is orthogonal to the way so far.
    have hsq : ‖y - p‖ ^ 2 = ‖x - p‖ ^ 2 + ‖y - x‖ ^ 2 := by
      rw [← norm_add_of_orthogonal (inner_eq_zero_of_range hp hA), add_comm, sub_add_sub_cancel]
    refine lt_of_pow_lt_pow_left₀ 2 (norm_nonneg _) ?_
    rw [hsq]
    exact lt_add_of_pos_right _ (pow_pos hpos 2)

omit [NormedSpace ℝ F] in
/-- The increment solves the normal equations of the first residual. -/
theorem normalResidual_sub (x₀ x : E) :
    normalResidual A (b - A x₀) 0 damp (x - x₀) = normalResidual A b x₀ damp x := by
  rw [normalResidual, normalResidual, sub_zero, map_sub A, sub_sub_sub_cancel_right]

omit [NormedSpace ℝ E] [FiniteDimensional 𝕜 E] [NormedSpace ℝ F] [FiniteDimensional 𝕜 F] in
/-- Without damping the objective is the square of the residual. -/
theorem objective_zero (x : E) : objective A b 0 x = ‖A x - b‖ ^ 2 := by
  rw [objective, zero_pow two_ne_zero, zero_mul, add_zero]

namespace Problem

variable {P : Problem ℝ F E} {o : Observers ℝ} {s : Run ℝ F E}

section

variable (hP : P.operator = .exact A)

include hP

theorem Reaches.sub_mem_range {k : ℕ} (h : P.Reaches (.initial b 0) x₀ 0 o k s) :
    s.iterate.x - x₀ ∈ A.adjoint.range := by
  have hS := course_spec A b x₀ P.damp
  cases k with
  | zero =>
    rw [← Run.bare_iterate, (h.follows hP hS).bare_eq, hS.iterate_zero, sub_self]
    exact zero_mem _
  | succ k =>
    obtain ⟨s₁, hbegins, -⟩ := h.stop_eq_check hP hS
    have hl := hbegins.live hP hS
    rw [← Run.bare_iterate, (h.follows hP hS).bare_eq]
    exact hS.recurs.vSpan_le_range (fun j hj => hl.mono (Nat.le_of_lt_succ hj)) (hS.x_sub_mem hl)

/-- **A solve stays in the row space**, as seen from the solution to begin with. -/
theorem sub_mem_range (h : P.solve (.initial b 0) x₀ 0 o = .returned s) :
    s.iterate.x - x₀ ∈ A.adjoint.range := by
  rcases returned_cases h with ⟨p, s', -, hbegin, -, rfl⟩ | ⟨k, s', hr, -, rfl⟩
  · have hx : s'.close.iterate.x = x₀ := by rw [Run.close, (begun hbegin).iterate_eq]
    rw [hx, sub_self]
    exact zero_mem _
  · exact hr.sub_mem_range (s := s') hP

variable (b x₀ o) in
/-- **Which minimizer a solve finds** that is left to run: its increment is the one of least norm
for the first residual. Without damping its solution is the least-squares solution closest to the
one to begin with; from zero it is the regularized solution of least norm. The solve returns unless
the callback ends it. -/
theorem exhausted_closest (hatol : P.atol = 0) (hbtol : P.btol = 0) (hctol : P.ctol = 0)
    (hmax : Module.finrank 𝕜 A.range < P.maxiter) :
    (∀ s, P.solve (.initial b 0) x₀ 0 o = .returned s →
      ClosestMinimizer (objective A (b - A x₀) P.damp) 0 (s.iterate.x - x₀) ∧
      (P.damp = 0 → ClosestMinimizer (fun y => ‖A y - b‖ ^ 2) x₀ s.iterate.x) ∧
      (x₀ = 0 → ClosestMinimizer (objective A b P.damp) 0 s.iterate.x)) ∧
    ((∀ n t, o.interrupts n t = false) →
      ∃ s, P.solve (.initial b 0) x₀ 0 o = .returned s) := by
  refine ⟨?_, returns_of_quiet hP⟩
  intro s h
  have hres := exhausted_residual hP h (.inl ⟨hatol, hbtol, hctol, hmax⟩)
  have hrange := sub_mem_range hP h
  refine ⟨?_, ?_, ?_⟩
  · refine closest_of_normalResidual ?_ (by rwa [sub_zero])
    rw [normalResidual_sub, hres]
  · intro hdamp
    have hfun : (fun y => ‖A y - b‖ ^ 2) = objective A b 0 :=
      funext fun y => (objective_zero y).symm
    rw [hdamp] at hres
    rw [hfun]
    refine closest_of_normalResidual ?_ hrange
    rw [normalResidual_eq_sub x₀, hres, zero_pow two_ne_zero, zero_smul, sub_zero]
  · rintro rfl
    exact closest_of_normalResidual hres hrange

end

/-- **Complex numbers of a given real part**, without damping, without tolerances, and with a
budget. -/
noncomputable def realPartProblem : Problem ℝ ℝ ℂ := ⟨.exact Complex.reLm, 0, 0, 0, 0, 10⟩

theorem finrank_reLm : Module.finrank ℝ Complex.reLm.range < realPartProblem.maxiter := by
  have h : Module.finrank ℝ Complex.reLm.range ≤ 1 := by
    simpa using Submodule.finrank_le Complex.reLm.range
  exact lt_of_le_of_lt h (by decide)

/-- Of all complex numbers of real part two the solve finds the one closest to where it began. -/
theorem realPartProblem_closest : ∃ s,
    realPartProblem.solve (.initial 2 0) Complex.I 0 Run.unwatched = .returned s ∧
      ClosestMinimizer (fun z => ‖Complex.reLm z - 2‖ ^ 2) Complex.I s.iterate.x := by
  obtain ⟨hclosest, hreturns⟩ := exhausted_closest 2 Complex.I Run.unwatched
    (P := realPartProblem) (A := Complex.reLm) rfl rfl rfl rfl finrank_reLm
  obtain ⟨s, h⟩ := hreturns fun _ _ => rfl
  exact ⟨s, h, (hclosest s h).2.1 rfl⟩

end Problem

end LeastSquares
