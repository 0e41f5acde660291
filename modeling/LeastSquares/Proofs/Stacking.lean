import Mathlib.RingTheory.Finiteness.Prod
import LeastSquares.Proofs.NormalCourse
import LeastSquares.Proofs.Objective

/-!
# Damping by stacking

The damped problem of `A` and `b` from zero is the problem of `A` stacked on `damp I` and of `b`
stacked on zero, without damping. The two have the same normal equations, so damping by rotations
and damping by stacking lead to the same solutions in the same iterations, with the same estimates.

* `normalMap_damped`, `adjoint_damped_stacked`: **the normal equations of the stacked problem.**
* `Problem.stacking_agrees`: **the two solves, iteration by iteration.**
-/

namespace LeastSquares

open Bidiagonal

variable {𝕜 E F : Type} [RCLike 𝕜]
  [NormedAddCommGroup E] [InnerProductSpace 𝕜 E] [NormedSpace ℝ E] [FiniteDimensional 𝕜 E]
  [NormedAddCommGroup F] [InnerProductSpace 𝕜 F] [FiniteDimensional 𝕜 F]
  {A : E →ₗ[𝕜] F} {b : F} {damp : ℝ}

/-! ### The normal equations of the stacked problem -/

theorem adjoint_damped_stacked (y : F) (z : E) :
    (damped A damp).adjoint (stacked y z) = A.adjoint y + damp • z := by
  refine ext_inner_right 𝕜 fun w => ?_
  rw [LinearMap.adjoint_inner_left, damped_apply, inner_stacked, inner_add_left,
    LinearMap.adjoint_inner_left, inner_real_smul_left, inner_real_smul_right]

/-- **Stacking makes the same normal equations as damping.** -/
theorem normalMap_damped : normalMap (damped A damp) 0 = normalMap A damp := by
  ext z
  rw [normalMap_apply, normalMap_apply, damped_apply, adjoint_damped_stacked, smul_smul, pow_two,
    pow_two, mul_zero, zero_smul, add_zero]

theorem adjoint_damped_sub : (damped A damp).adjoint (stacked b 0 - damped A damp 0) =
    A.adjoint (b - A 0) := by
  rw [map_zero, sub_zero, map_zero, sub_zero, adjoint_damped_stacked, smul_zero, add_zero]

omit [FiniteDimensional 𝕜 E] [FiniteDimensional 𝕜 F] in
/-- The residual of the stacked problem is the damped one. -/
theorem norm_stacked_residual_sq (x : E) : ‖stacked b 0 - damped A damp x‖ ^ 2 =
    ‖b - A x‖ ^ 2 + damp ^ 2 * ‖x - 0‖ ^ 2 := by
  have h : stacked b 0 - damped A damp x = dampedResidual A b 0 damp x := by
    rw [dampedResidual, sub_zero, neg_smul, damped_apply, ← zero_sub (damp • x)]
    rfl
  rw [h, norm_dampedResidual_sq]

variable [NormedSpace ℝ F]

/-- **One iteration of the two solves.** -/
theorem Course.stacking {S : ℕ → Run ℝ F E} {S' : ℕ → Run ℝ (WithLp 2 (F × E)) E} {k : ℕ}
    (hS : Course A b 0 damp S) (hS' : Course (damped A damp) (stacked b 0) 0 0 S')
    (hl : Live (processOf S) k) :
    (S (k + 1)).iterate.x = (S' (k + 1)).iterate.x ∧ (S (k + 1)).normr = (S' (k + 1)).normr ∧
      (S (k + 1)).normar = (S' (k + 1)).normar ∧ (S (k + 1)).conda = (S' (k + 1)).conda := by
  have hN : normalMap A damp = normalMap (damped A damp) 0 := normalMap_damped.symm
  have hl' := (hS.paired hS' hN adjoint_damped_sub.symm hl).1
  obtain ⟨hcore, hconda⟩ := hS.core_eq hS' hN adjoint_damped_sub.symm hl
  have hx : (S (k + 1)).iterate.x = (S' (k + 1)).iterate.x := congrArg Core.x hcore
  have hzetabar : (S (k + 1)).rotation.zetabar = (S' (k + 1)).rotation.zetabar :=
    congrArg Core.zetabar hcore
  refine ⟨hx, ?_, ?_, hconda⟩
  -- Both estimates are norms of the same residual.
  · have hsq : (S (k + 1)).normr ^ 2 = (S' (k + 1)).normr ^ 2 := by
      rw [hS.normr_sq hl, hS'.normr_sq hl', norm_stacked_residual_sq, ← hx, zero_pow two_ne_zero,
        zero_mul, add_zero]
    exact (pow_left_inj₀ (hS.normr_nonneg k) (hS'.normr_nonneg k) two_ne_zero).1 hsq
  · rw [hS.normar_succ, hS'.normar_succ, hzetabar]

namespace Problem

variable {P : Problem ℝ F E} {P' : Problem ℝ (WithLp 2 (F × E)) E} {o o' : Observers ℝ} {n : ℕ}
  {s : Run ℝ F E} {s' : Run ℝ (WithLp 2 (F × E)) E}

/-- **Damping by rotations is damping by stacking**: in every iteration that both solves execute
they have the same solution, the same norms of both residuals, and the same estimate of the
condition number. Tolerances, budgets and observers may differ. -/
theorem stacking_agrees (hP : P.operator = .exact A)
    (hP' : P'.operator = .exact (damped A P.damp)) (hdamp : P'.damp = 0)
    (h : P.Executes (.initial b 0) 0 0 o n s)
    (h' : P'.Executes (.initial (stacked b 0) 0) 0 0 o' n s') :
    s.iterate.x = s'.iterate.x ∧ s.normr = s'.normr ∧ s.normar = s'.normar ∧
      s.normar = |s.rotation.zetabar| ∧ s'.normar = |s'.rotation.zetabar| ∧ s.conda = s'.conda := by
  have hS := course_spec A b 0 P.damp
  obtain ⟨S', hS'⟩ : ∃ S', Course (damped A P.damp) (stacked b 0) 0 P'.damp S' :=
    ⟨_, course_spec _ _ _ _⟩
  obtain ⟨k, s₀, rfl, hbegins, hb, -⟩ := h.follows hP hS
  obtain ⟨k', s₀', hk, -, hb', -⟩ := h'.follows hP' hS'
  obtain rfl : k = k' := Nat.succ_injective hk
  rw [hdamp] at hS'
  obtain ⟨hx, hnormr, hnormar, hconda⟩ := hS.stacking hS' (hbegins.live hP hS)
  rw [← Run.bare_iterate, ← Run.bare_normr, ← Run.bare_normar, ← Run.bare_rotation,
    ← Run.bare_conda, hb, ← Run.bare_iterate (s := s'), ← Run.bare_normr (s := s'),
    ← Run.bare_normar (s := s'), ← Run.bare_rotation (s := s'), ← Run.bare_conda (s := s'), hb']
  exact ⟨hx, hnormr, hnormar, hS.normar_succ k, hS'.normar_succ k, hconda⟩

/-- The identity of the real line stacked on itself has something to iterate. -/
theorem executes_stacked_one {P : Problem ℝ (WithLp 2 (ℝ × ℝ)) ℝ}
    (hP : P.operator = .exact (damped (LinearMap.id : ℝ →ₗ[ℝ] ℝ) 1)) (hmax : 0 < P.maxiter) :
    ∃ s, P.Executes (.initial (stacked 2 0) 0) 0 0 Run.unwatched 1 s := by
  refine executes_one hP ?_ hmax
  intro h
  have hres : normalResidual (damped (LinearMap.id : ℝ →ₗ[ℝ] ℝ) 1) (stacked 2 0) 0 0 0 = 0 :=
    normalResidual_opening h
  rw [normalResidual_start, adjoint_damped_sub] at hres
  simp at hres

theorem identityProblem_executes_zero : ∃ s,
    identityProblem.Executes (.initial 2 0) 0 0 Run.unwatched 1 s := by
  refine executes_one identityProblem_operator ?_ (by decide)
  intro h
  have hres : normalResidual (LinearMap.id : ℝ →ₗ[ℝ] ℝ) 2 0 0 0 = 0 := normalResidual_opening h
  rw [normalResidual_start] at hres
  simp at hres

/-- The damped identity, by rotations and by stacking. -/
theorem identityProblem_stacked : ∃ (P : Problem ℝ (WithLp 2 (ℝ × ℝ)) ℝ) (s : Run ℝ ℝ ℝ)
    (s' : Run ℝ (WithLp 2 (ℝ × ℝ)) ℝ),
    P.operator = .exact (damped (LinearMap.id : ℝ →ₗ[ℝ] ℝ) 1) ∧ P.damp = 0 ∧
    identityProblem.Executes (.initial 2 0) 0 0 Run.unwatched 1 s ∧
    P.Executes (.initial (stacked 2 0) 0) 0 0 Run.unwatched 1 s' ∧
      s.iterate.x = s'.iterate.x ∧ s.normr = s'.normr ∧ s.normar = s'.normar ∧
        s.conda = s'.conda := by
  let P : Problem ℝ (WithLp 2 (ℝ × ℝ)) ℝ :=
    ⟨.exact (damped (LinearMap.id : ℝ →ₗ[ℝ] ℝ) 1), 0, 0, 0, 0, 10⟩
  obtain ⟨s, h⟩ := identityProblem_executes_zero
  obtain ⟨s', h'⟩ := executes_stacked_one (P := P) rfl (by decide)
  obtain ⟨hx, hnormr, hnormar, -, -, hconda⟩ :=
    stacking_agrees identityProblem_operator rfl rfl h h'
  exact ⟨P, s, s', rfl, rfl, h, h', hx, hnormr, hnormar, hconda⟩

end Problem

end LeastSquares
