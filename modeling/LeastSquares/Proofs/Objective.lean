import LeastSquares.Proofs.Solution
import LeastSquares.Proofs.Termination

/-!
# The problem that is solved

A solve that is left to run until its residual vanishes solves the normal equations in which damping
pulls towards the solution to begin with. They are those of the regularized problem
`‖A x - b‖² + damp² ‖x‖²` if and only if there is no damping or the solve begins at zero.

* `objective_le_iff`: **the minimizers of the regularized problem** by its normal equations.
* `Problem.exhausted_residual`: where a solve ends without tolerances.
* `Problem.exhausted_minimizes_iff`: **when this is a minimizer of the regularized problem.**
-/

namespace LeastSquares

open Bidiagonal

variable {𝕜 E F : Type} [RCLike 𝕜]
  [NormedAddCommGroup E] [InnerProductSpace 𝕜 E] [NormedSpace ℝ E] [FiniteDimensional 𝕜 E]
  [NormedAddCommGroup F] [InnerProductSpace 𝕜 F] [NormedSpace ℝ F] [FiniteDimensional 𝕜 F]

/-- **The regularized objective** `‖A x - b‖² + damp² ‖x‖²`. -/
noncomputable def objective (A : E →ₗ[𝕜] F) (b : F) (damp : ℝ) (x : E) : ℝ :=
  ‖A x - b‖ ^ 2 + damp ^ 2 * ‖x‖ ^ 2

variable {A : E →ₗ[𝕜] F} {b : F} {x₀ : E} {damp : ℝ}

omit [NormedSpace ℝ F] in
/-- The objective beside a point, by the residual of its normal equations there. -/
theorem objective_add (x z : E) : objective A b damp (x + z) = objective A b damp x +
    (‖A z‖ ^ 2 + damp ^ 2 * ‖z‖ ^ 2) -
      2 * RCLike.re (inner 𝕜 z (normalResidual A b 0 damp x)) := by
  have h1 : ‖A (x + z) - b‖ ^ 2 =
      ‖A x - b‖ ^ 2 + 2 * RCLike.re (inner 𝕜 (A x - b) (A z)) + ‖A z‖ ^ 2 := by
    rw [map_add, add_sub_right_comm, norm_add_sq (𝕜 := 𝕜)]
  have h2 : ‖x + z‖ ^ 2 = ‖x‖ ^ 2 + 2 * RCLike.re (inner 𝕜 x z) + ‖z‖ ^ 2 := norm_add_sq x z
  have h3 : RCLike.re (inner 𝕜 z (normalResidual A b 0 damp x)) =
      -RCLike.re (inner 𝕜 (A x - b) (A z)) - damp ^ 2 * RCLike.re (inner 𝕜 x z) := by
    rw [normalResidual, sub_zero, inner_sub_right, LinearMap.adjoint_inner_right,
      inner_real_smul_right, ← neg_sub (A x) b, inner_neg_right, map_sub, map_neg,
      RCLike.re_ofReal_mul, inner_re_symm, inner_re_symm z x]
  rw [objective, objective, h1, h2, h3]
  ring

/-- **The minimizers of the objective** are the solutions of its normal equations. -/
theorem objective_le_iff {x : E} : (∀ y, objective A b damp x ≤ objective A b damp y) ↔
    normalResidual A b 0 damp x = 0 := by
  constructor
  · intro h
    set g := normalResidual A b 0 damp x with hg
    set C := ‖A g‖ ^ 2 + damp ^ 2 * ‖g‖ ^ 2 with hC
    have hC0 : 0 ≤ C := by positivity
    -- Any other point along `g` at this distance would lower the objective.
    set t := ‖g‖ ^ 2 / (C + 1)
    have ht : t * (C + 1) = ‖g‖ ^ 2 := div_mul_cancel₀ _ (by positivity)
    have hquad : ‖A (t • g)‖ ^ 2 + damp ^ 2 * ‖t • g‖ ^ 2 = t ^ 2 * C := by
      rw [LinearMap.map_smul_of_tower, norm_smul, norm_smul, mul_pow, mul_pow, Real.norm_eq_abs,
        sq_abs, hC]
      ring
    have hlin : RCLike.re (inner 𝕜 (t • g) g) = t * ‖g‖ ^ 2 := by
      rw [inner_real_smul_left, RCLike.re_ofReal_mul, inner_self_eq_norm_sq]
    have hstep := h (x + t • g)
    rw [objective_add, ← hg, hquad, hlin, ← ht] at hstep
    have ht0 : t = 0 := pow_eq_zero_iff two_ne_zero |>.1 (by nlinarith [sq_nonneg t])
    rw [ht0, zero_mul] at ht
    exact norm_eq_zero.1 (pow_eq_zero_iff two_ne_zero |>.1 ht.symm)
  -- Beside a solution of the normal equations the objective has no linear term.
  · intro h y
    obtain ⟨z, rfl⟩ : ∃ z, y = x + z := ⟨y - x, by abel⟩
    rw [objective_add, h, inner_zero_right, map_zero]
    have : 0 ≤ ‖A z‖ ^ 2 + damp ^ 2 * ‖z‖ ^ 2 := by positivity
    linarith

omit [NormedSpace ℝ F] in
/-- Damping pulls towards `x₀` in the one residual, and towards zero in the other. -/
theorem normalResidual_eq_sub (x₀ x : E) :
    normalResidual A b 0 damp x = normalResidual A b x₀ damp x - damp ^ 2 • x₀ := by
  rw [normalResidual, normalResidual]
  module

namespace Problem

variable {P : Problem ℝ F E} {o : Observers ℝ} {s : Run ℝ F E}

/-- **A solve is left to run**: it has no tolerances and a budget above the rank, or there was
nothing to iterate. -/
def Exhausts (P : Problem ℝ F E) (A : E →ₗ[𝕜] F) (s : Run ℝ F E) : Prop :=
  (P.atol = 0 ∧ P.btol = 0 ∧ P.ctol = 0 ∧ Module.finrank 𝕜 A.range < P.maxiter) ∨
    (s.iteration = 0 ∧ s.process.alpha * s.process.beta = 0)

/-- Where there is nothing to iterate, the solution to begin with solves the normal equations. -/
theorem normalResidual_opening
    (h : (Bidiagonal.opening A b x₀).alpha * (Bidiagonal.opening A b x₀).beta = 0) :
    normalResidual A b x₀ damp x₀ = 0 := by
  have hrec := recurs_after A b x₀
  have hu := hrec.start_u
  have hv := hrec.start_v
  rw [normalResidual_start, ← hu, LinearMap.map_smul_of_tower, ← hv, smul_smul, mul_comm]
  exact (congrArg (· • _) h).trans (zero_smul ℝ _)

section

variable (hP : P.operator = .exact A)

include hP

/-- **A solve that is left to run solves the normal equations** in which damping pulls towards the
solution to begin with. -/
theorem exhausted_residual (h : P.solve (.initial b 0) x₀ 0 o = .returned s)
    (hex : P.Exhausts A s) : normalResidual A b x₀ P.damp s.iterate.x = 0 := by
  have hS := course_spec A b x₀ P.damp
  rcases returned_cases h with ⟨p, s', hstart, hbegin, hopen, rfl⟩ | ⟨k, s', hr, hend, rfl⟩
  · rw [hP, start_eq] at hstart
    obtain rfl : Bidiagonal.opening A b x₀ = p := by injection hstart
    rw [Run.begin_eq] at hbegin
    obtain rfl : Run.opening A b x₀ o = s' := by injection hbegin
    refine normalResidual_opening ?_
    simpa [Run.isOpen, Arithmetic.eq, Run.opening, or_iff_not_imp_left] using hopen
  · rcases hex with ⟨hatol, hbtol, hctol, hmax⟩ | ⟨hzero, hvan⟩
    · have hk := lt_of_le_of_lt (hr.le_rank hP) hmax
      exact Reaches.residual_eq_zero (s := s') hP hr (hend.resolve_right hk.ne) hatol hbtol hctol hk
    -- A solve that goes through the loop without iterating had something to iterate.
    · have hf := hr.follows hP hS
      have hiter : s'.iteration = k := iteration_of_bare hS hf.bare_eq
      obtain rfl : k = 0 := hiter.symm.trans hzero
      have hl := hf.ongoing hr.stop_zero 0 le_rfl
      rw [processOf, ← hf.bare_eq] at hl
      exact absurd hvan (mul_ne_zero hl.1 hl.2)

/-- **When the solution of a solve that is left to run minimizes the regularized problem**: if and
only if there is no damping or the solve began at zero. -/
theorem exhausted_minimizes_iff (h : P.solve (.initial b 0) x₀ 0 o = .returned s)
    (hex : P.Exhausts A s) :
    A.adjoint (b - A s.iterate.x) = P.damp ^ 2 • (s.iterate.x - x₀) ∧
    ((∀ y, objective A b P.damp s.iterate.x ≤ objective A b P.damp y) ↔
      A.adjoint (b - A s.iterate.x) = P.damp ^ 2 • s.iterate.x) ∧
    ((∀ y, objective A b P.damp s.iterate.x ≤ objective A b P.damp y) ↔
      P.damp = 0 ∨ x₀ = 0) := by
  have hres := exhausted_residual hP h hex
  refine ⟨sub_eq_zero.1 hres, ?_, ?_⟩
  · rw [objective_le_iff, normalResidual, sub_zero, sub_eq_zero]
  · rw [objective_le_iff, normalResidual_eq_sub x₀, hres, zero_sub, neg_eq_zero,
      smul_eq_zero, pow_eq_zero_iff two_ne_zero]

end

theorem identityProblem_exhausts (s : Run ℝ ℝ ℝ) :
    identityProblem.Exhausts (LinearMap.id : ℝ →ₗ[ℝ] ℝ) s :=
  .inl ⟨rfl, rfl, rfl, by rw [finrank_identity]; decide⟩

/-- The solve of the identity that begins at zero. -/
theorem identityProblem_minimizes : ∃ s, identityProblem.solve (.initial 2 0) 0 0 Run.unwatched =
    .returned s ∧ identityProblem.Exhausts (LinearMap.id : ℝ →ₗ[ℝ] ℝ) s ∧
      ∀ y : ℝ, objective (LinearMap.id : ℝ →ₗ[ℝ] ℝ) 2 1 s.iterate.x ≤
        objective (LinearMap.id : ℝ →ₗ[ℝ] ℝ) 2 1 y := by
  obtain ⟨s, h⟩ : ∃ s, identityProblem.solve (.initial 2 0) 0 0 Run.unwatched = .returned s :=
    returns_of_quiet identityProblem_operator fun _ _ => rfl
  have hex := identityProblem_exhausts s
  exact ⟨s, h, hex, (exhausted_minimizes_iff identityProblem_operator h hex).2.2.2 (.inr rfl)⟩

/-- **A solve that begins elsewhere misses the minimizer**, which is one. -/
theorem identityProblem_misses : ∃ s, identityProblem.solve (.initial 2 0) 1 0 Run.unwatched =
    .returned s ∧ identityProblem.Exhausts (LinearMap.id : ℝ →ₗ[ℝ] ℝ) s ∧ s.iterate.x = 3 / 2 ∧
      ¬ ∀ y : ℝ, objective (LinearMap.id : ℝ →ₗ[ℝ] ℝ) 2 1 s.iterate.x ≤
        objective (LinearMap.id : ℝ →ₗ[ℝ] ℝ) 2 1 y := by
  obtain ⟨s, h⟩ : ∃ s, identityProblem.solve (.initial 2 0) 1 0 Run.unwatched = .returned s :=
    returns_of_quiet identityProblem_operator fun _ _ => rfl
  have hex := identityProblem_exhausts s
  have hres := exhausted_residual identityProblem_operator h hex
  have hx : s.iterate.x = 3 / 2 := by
    have hdamp : identityProblem.damp = 1 := rfl
    simp only [normalResidual, LinearMap.adjoint_id, LinearMap.id_coe, id_eq, hdamp, one_pow,
      one_smul] at hres
    linarith
  refine ⟨s, h, hex, hx, fun hmin => ?_⟩
  have h1 := hmin 1
  rw [hx] at h1
  norm_num [objective] at h1

end Problem

end LeastSquares
