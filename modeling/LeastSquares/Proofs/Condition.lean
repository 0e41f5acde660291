import LeastSquares.Proofs.Convergence
import LeastSquares.Proofs.Singular

/-!
# The estimate of the condition number

The estimate divides the largest by the smallest of the diagonal entries of the second chain of
rotations. On the row space of the operator these entries lie between the extreme singular values of
the damped problem: the first direction of an iteration bounds them from above, the second one from
below. So the estimate never exceeds the condition number, with one reservation: the extremes do not
begin with an entry of the diagonal but with the numbers `1` and `10 ^ 100`, and the first of these
counts as an entry. For an operator on a small scale it is by far the largest.

* `RowBounds`: how far the damped problem stretches the vectors of the row space.
* `RowBounds.extreme`: **the extreme singular values are such bounds.**
* `Course.rhobar_le`, `Course.le_rhotemp`: **the diagonal lies between such bounds.**
* `Course.conda_bounds`: what the estimate of an iteration is worth.
* `Problem.condition_bounded`: **what the estimate of a solve is worth**, and the rule that uses it.
* `Problem.stretchingProblem_overestimates`: on a small scale it is worth little.
-/

namespace LeastSquares

open Bidiagonal Module

variable {𝕜 E F : Type} [RCLike 𝕜]
  [NormedAddCommGroup E] [InnerProductSpace 𝕜 E] [NormedSpace ℝ E] [FiniteDimensional 𝕜 E]
  [NormedAddCommGroup F] [InnerProductSpace 𝕜 F] [FiniteDimensional 𝕜 F]

/-! ### The damped operator on the row space -/

/-- **How far the damped operator stretches** the vectors of the row space: at least by `τ`, and at
most by `σ`. -/
structure RowBounds (A : E →ₗ[𝕜] F) (damp τ σ : ℝ) : Prop where
  nonneg : 0 ≤ σ
  lower : ∀ z ∈ A.adjoint.range, τ * ‖z‖ ≤ ‖damped A damp z‖
  upper : ∀ z ∈ A.adjoint.range, ‖damped A damp z‖ ≤ σ * ‖z‖

section

variable {A : E →ₗ[𝕜] F} {damp τ σ : ℝ} {z : E}

/-- **The extreme singular values** on the row space are such bounds. -/
theorem RowBounds.extreme : RowBounds A damp (sigmaMin (damped A damp) A.adjoint.range)
    (sigmaMax (damped A damp) A.adjoint.range) where
  nonneg := sigmaMax_nonneg
  lower _ hz := sigmaMin_mul_le_norm hz
  upper _ hz := norm_le_sigmaMax_mul hz

theorem inner_normalMap (z w : E) :
    inner 𝕜 z (normalMap A damp w) = inner 𝕜 (damped A damp z) (damped A damp w) := by
  rw [normalMap_apply, damped_apply, damped_apply, inner_stacked, inner_add_right,
    LinearMap.adjoint_inner_right, inner_real_smul_left, inner_real_smul_right,
    inner_real_smul_right, ← mul_assoc, ← RCLike.ofReal_mul, ← sq]

theorem norm_damped_sq (z : E) :
    ‖damped A damp z‖ ^ 2 = RCLike.re (inner 𝕜 z (normalMap A damp z)) := by
  rw [inner_normalMap, inner_self_eq_norm_sq]

theorem normalMap_mem (hz : z ∈ A.adjoint.range) : normalMap A damp z ∈ A.adjoint.range := by
  rw [normalMap_apply]
  exact add_mem (LinearMap.mem_range_self _ _) (Submodule.smul_of_tower_mem _ _ hz)

/-- The normal equations stretch a product by no more than the operator does. -/
theorem RowBounds.norm_normalMap_le (h : RowBounds A damp τ σ) (hz : z ∈ A.adjoint.range) :
    ‖normalMap A damp z‖ ≤ σ * ‖damped A damp z‖ := by
  set w := normalMap A damp z with hw
  have hle : ‖w‖ * ‖w‖ ≤ ‖w‖ * (σ * ‖damped A damp z‖) := by
    calc ‖w‖ * ‖w‖ = ‖inner 𝕜 w w‖ := by
          rw [inner_self_eq_norm_sq_to_K, norm_pow, RCLike.norm_ofReal, abs_norm, sq]
      _ = ‖inner 𝕜 (damped A damp w) (damped A damp z)‖ := by rw [← inner_normalMap]
      _ ≤ ‖damped A damp w‖ * ‖damped A damp z‖ := norm_inner_le_norm _ _
      _ ≤ σ * ‖w‖ * ‖damped A damp z‖ := by
          gcongr
          exact h.upper w (normalMap_mem hz)
      _ = ‖w‖ * (σ * ‖damped A damp z‖) := by ring
  rcases (norm_nonneg w).eq_or_lt with h0 | h0
  · rw [← h0]
    exact mul_nonneg h.nonneg (norm_nonneg _)
  · exact le_of_mul_le_mul_left hle h0

/-- A vector of the row space whose product vanishes does so itself. -/
theorem eq_zero_of_damped (hz : z ∈ A.adjoint.range) (h : damped A damp z = 0) : z = 0 := by
  have h0 : normalMap A damp z = 0 := by
    refine (inner_self_eq_zero (𝕜 := 𝕜)).1 ?_
    rw [inner_normalMap, h, inner_zero_right]
  exact eq_zero_of_normalMap hz h0

end

/-! ### The diagonal of the rotations -/

variable [NormedSpace ℝ F]

namespace Course

variable {A : E →ₗ[𝕜] F} {b : F} {x₀ : E} {damp τ σ : ℝ} {k : ℕ} {S : ℕ → Run ℝ F E}
  (hS : Course A b x₀ damp S)

include hS

theorem rhotemp_eq (k : ℕ) :
    (stepOf damp S k).rhotemp = (S k).rotation.cbar * (S (k + 1)).rotation.rho := by
  rw [hS.rotation_succ k]; rfl

theorem rhobar_sq (k : ℕ) : (S (k + 1)).rotation.rhobar ^ 2 =
    (stepOf damp S k).rhotemp ^ 2 + (stepOf damp S k).thetanew ^ 2 := by
  rw [hS.rotation_succ k]; exact PlaneRotation.turn_r_sq _ _

variable (hl : Live (processOf S) k)

include hl

/-- The share of the next `v` is orthogonal to all that the process has reached. -/
theorem inner_share_of_mem {z : E} (hz : z ∈ vSpan 𝕜 (processOf S) (k + 1)) :
    inner 𝕜 z ((stepOf damp S k).thetanew • (S (k + 1)).process.v) = 0 := by
  rw [inner_real_smul_right]
  by_cases h0 : (stepOf damp S k).thetanew = 0
  · rw [h0, RCLike.ofReal_zero, zero_mul]
  · have ho : inner 𝕜 z (S (k + 1)).process.v = 0 :=
      hS.recurs.inner_vSpan ((hS.live_succ_iff hl).2 h0) hz
    rw [ho, mul_zero]

theorem vSpan_le_row : vSpan 𝕜 (processOf S) (k + 1) ≤ A.adjoint.range :=
  hS.recurs.vSpan_le_range fun _ hj => hl.mono (Nat.le_of_lt_succ hj)

/-- The products with `h` are orthogonal to those with what the process had reached before. -/
theorem inner_normal_h {z : E} (hz : z ∈ vSpan 𝕜 (processOf S) k) :
    inner 𝕜 z (normalMap A damp (S k).iterate.h) = 0 := by
  have hv : inner 𝕜 z (S k).process.v = 0 := hS.recurs.inner_vSpan hl hz
  rw [hS.normal_h_share hl, inner_add_right, inner_real_smul_right, hv, inner_real_smul_right,
    hS.inner_share_of_mem hl (vSpan_mono (Nat.le_succ k) hz), mul_zero, mul_zero, add_zero]

theorem norm_damped_h : ‖damped A damp (S k).iterate.h‖ = (S (k + 1)).rotation.rho := by
  obtain ⟨y, ybar, h⟩ := hS.steered hl
  have hv : inner 𝕜 (S k).process.v (normalMap A damp (S k).iterate.h) =
      (((S (k + 1)).rotation.rho ^ 2 : ℝ) : 𝕜) := by
    rw [hS.normal_h_share hl, inner_add_right, inner_real_smul_right, inner_real_smul_right,
      hS.inner_share hl, inner_self_eq_one_of_norm_eq_one (hS.norm_v hl), mul_one, mul_zero,
      add_zero]
  have hsq : ‖damped A damp (S k).iterate.h‖ ^ 2 = (S (k + 1)).rotation.rho ^ 2 := by
    have hsplit : inner 𝕜 (S k).iterate.h (normalMap A damp (S k).iterate.h) =
        inner 𝕜 ((S k).iterate.h - (S k).process.v) (normalMap A damp (S k).iterate.h) +
          inner 𝕜 (S k).process.v (normalMap A damp (S k).iterate.h) := by
      rw [← inner_add_left, sub_add_cancel]
    rw [norm_damped_sq, hsplit, hS.inner_normal_h hl h.h_sub_mem, hv, zero_add, RCLike.ofReal_re]
  exact (pow_left_inj₀ (norm_nonneg _) (hS.rho_pos hl).le two_ne_zero).1 hsq

/-- **No change within reach of the process makes the product with `h` smaller.** -/
theorem rho_le_norm_damped {z : E} (hz : z ∈ vSpan 𝕜 (processOf S) k) :
    (S (k + 1)).rotation.rho ≤ ‖damped A damp (z + (S k).iterate.h)‖ := by
  have hort : inner 𝕜 (damped A damp z) (damped A damp (S k).iterate.h) = 0 := by
    rw [← inner_normalMap, hS.inner_normal_h hl hz]
  have hsq := norm_add_sq_eq_norm_sq_add_norm_sq_of_inner_eq_zero _ _ hort
  rw [← map_add, hS.norm_damped_h hl] at hsq
  refine le_of_sq_le_sq ?_ (norm_nonneg _)
  nlinarith [mul_self_nonneg ‖damped A damp z‖]

/-- The product of the normal equations with `h` has both entries of a row of the bidiagonal. -/
theorem norm_normal_h_sq : ‖normalMap A damp (S k).iterate.h‖ ^ 2 =
    (S (k + 1)).rotation.rho ^ 2 *
      ((S (k + 1)).rotation.rho ^ 2 + (stepOf damp S k).thetanew ^ 2) := by
  have hort : inner 𝕜 ((S (k + 1)).rotation.rho ^ 2 • (S k).process.v)
      ((S (k + 1)).rotation.rho • (stepOf damp S k).thetanew • (S (k + 1)).process.v) = 0 := by
    rw [inner_real_smul_left, inner_real_smul_right, hS.inner_share hl, mul_zero, mul_zero]
  rw [hS.normal_h_share hl, norm_add_of_orthogonal hort, norm_smul, norm_smul, hS.norm_v hl,
    hS.norm_share hl, Real.norm_of_nonneg (sq_nonneg _), Real.norm_of_nonneg (hS.rho_pos hl).le]
  ring

/-- **The diagonal does not exceed what bounds the products from above.** -/
theorem rhobar_le (hb : RowBounds A damp τ σ) : (S (k + 1)).rotation.rhobar ≤ σ := by
  obtain ⟨y, ybar, h⟩ := hS.steered hl
  have hc := (hS.sound hl).rotation
  set θ := (stepOf damp S k).thetanew
  set rho := (S (k + 1)).rotation.rho
  have hle : rho ^ 2 * (rho ^ 2 + θ ^ 2) ≤ rho ^ 2 * σ ^ 2 := by
    have hN := hb.norm_normalMap_le (hS.vSpan_le_row hl (h_mem h))
    rw [hS.norm_damped_h hl, mul_comm] at hN
    rw [← hS.norm_normal_h_sq hl, ← mul_pow]
    gcongr
  have hrow : rho ^ 2 + θ ^ 2 ≤ σ ^ 2 := le_of_mul_le_mul_left hle (pow_pos (hS.rho_pos hl) 2)
  have hcbar : (S k).rotation.cbar ^ 2 ≤ 1 := by nlinarith [hc.unit, sq_nonneg (S k).rotation.sbar]
  refine le_of_sq_le_sq ?_ hb.nonneg
  rw [hS.rhobar_sq, hS.rhotemp_eq, mul_pow]
  nlinarith [mul_le_mul_of_nonneg_right hcbar (sq_nonneg rho)]

theorem rhotemp_pos : 0 < (stepOf damp S k).rhotemp := by
  rw [hS.rhotemp_eq]
  exact mul_pos (hS.sound hl).rotation.cbar_pos (hS.rho_pos hl)

theorem rhotemp_le_rhobar : (stepOf damp S k).rhotemp ≤ (S (k + 1)).rotation.rhobar := by
  refine le_of_sq_le_sq ?_ (hS.rhobar_pos hl).le
  rw [hS.rhobar_sq]
  exact le_add_of_nonneg_right (sq_nonneg _)

/-- The product with the second direction is at least `rho` long. -/
theorem rho_le_norm_damped_hbar :
    (S (k + 1)).rotation.rho ≤ ‖damped A damp (S (k + 1)).iterate.hbar‖ := by
  obtain ⟨y, ybar, h⟩ := hS.steered hl
  rw [hS.hbar_succ]
  exact hS.rho_le_norm_damped hl (Submodule.smul_of_tower_mem _ _ h.hbar_mem)

/-- The square of that product is at most `rho` times what is left over. -/
theorem norm_damped_hbar_sq_le : ‖damped A damp (S (k + 1)).iterate.hbar‖ ^ 2 ≤
    (S (k + 1)).rotation.rho * (stepOf damp S k).rhotemp * ‖(S (k + 1)).iterate.hbar‖ := by
  obtain ⟨y, ybar, h⟩ := hS.steered hl
  set z := (S (k + 1)).iterate.hbar
  have hnormal : normalMap A damp z = (S (k + 1)).rotation.rho •
      ((stepOf damp S k).rhotemp • ybar +
        (stepOf damp S k).thetanew • (S (k + 1)).process.v) := by
    rw [hS.normal_hbar_succ h hl, fixedAt, hS.rhotemp_eq, ← hS.cbar_mul_succ, ← hS.sbar_mul_succ]
    module
  have hinner : inner 𝕜 z (normalMap A damp z) =
      (((S (k + 1)).rotation.rho * (stepOf damp S k).rhotemp : ℝ) : 𝕜) * inner 𝕜 z ybar := by
    rw [hnormal, inner_real_smul_right, inner_add_right, inner_real_smul_right,
      hS.inner_share_of_mem hl (hS.hbar_mem_succ h), add_zero, ← mul_assoc, RCLike.ofReal_mul]
  rw [norm_damped_sq, hinner, RCLike.re_ofReal_mul]
  refine mul_le_mul_of_nonneg_left ?_ (mul_pos (hS.rho_pos hl) (hS.rhotemp_pos hl)).le
  calc RCLike.re (inner 𝕜 z ybar) ≤ ‖z‖ * ‖ybar‖ := re_inner_le_norm z ybar
    _ = ‖z‖ := by rw [h.norm_ybar, mul_one]

/-- **What is left over for the diagonal is no less than what bounds the products from below.** -/
theorem le_rhotemp (hb : RowBounds A damp τ σ) : τ ≤ (stepOf damp S k).rhotemp := by
  obtain ⟨y, ybar, h⟩ := hS.steered hl
  have htemp := hS.rhotemp_pos hl
  have hlower := hS.rho_le_norm_damped_hbar hl
  have hupper := hS.norm_damped_hbar_sq_le hl
  set z := (S (k + 1)).iterate.hbar
  have hτ : τ * ‖z‖ ≤ ‖damped A damp z‖ := hb.lower z (hS.vSpan_le_row hl (hS.hbar_mem_succ h))
  have hz0 : 0 < ‖z‖ := by
    refine norm_pos_iff.2 fun h0 => ?_
    rw [h0, map_zero, norm_zero] at hlower
    exact absurd hlower (hS.rho_pos hl).not_ge
  have hy0 : 0 < ‖damped A damp z‖ := (hS.rho_pos hl).trans_le hlower
  have hprod : τ * ‖z‖ * ‖damped A damp z‖ ≤
      (stepOf damp S k).rhotemp * ‖z‖ * ‖damped A damp z‖ := by
    calc τ * ‖z‖ * ‖damped A damp z‖
        ≤ ‖damped A damp z‖ ^ 2 := by rw [sq]; gcongr
      _ ≤ (S (k + 1)).rotation.rho * ((stepOf damp S k).rhotemp * ‖z‖) := by
          rw [← mul_assoc]; exact hupper
      _ ≤ ‖damped A damp z‖ * ((stepOf damp S k).rhotemp * ‖z‖) := by gcongr
      _ = (stepOf damp S k).rhotemp * ‖z‖ * ‖damped A damp z‖ := mul_comm _ _
  exact le_of_mul_le_mul_right (le_of_mul_le_mul_right hprod hy0) hz0

end Course

/-! ### The estimate -/

namespace Course

variable {A : E →ₗ[𝕜] F} {b : F} {x₀ : E} {damp τ σ : ℝ} {k : ℕ} {S : ℕ → Run ℝ F E}
  (hS : Course A b x₀ damp S)

include hS

theorem maxrbar_succ (k : ℕ) : (S (k + 1)).norms.maxrbar =
    max (S k).norms.maxrbar (S k).rotation.rhobar := by
  rw [hS.succ]; rfl

theorem minrbar_succ (k : ℕ) : (S (k + 1)).norms.minrbar =
    if 1 < k + 1 then min (S k).norms.minrbar (S k).rotation.rhobar
    else (S k).norms.minrbar := by
  have h : ((S k).next A damp).norms.minrbar = if 1 < (S k).iteration + 1
      then min (S k).norms.minrbar (S k).rotation.rhobar else (S k).norms.minrbar := rfl
  rw [hS.succ, h, hS.iteration_eq]

/-- **The estimate of the condition number**, by the extremes so far and what is left over. -/
theorem conda_succ (k : ℕ) : (S (k + 1)).conda =
    .finite (max (S (k + 1)).norms.maxrbar (stepOf damp S k).rhotemp /
      min (S (k + 1)).norms.minrbar (stepOf damp S k).rhotemp) := by
  rw [← hS.between_eq, hS.succ]; rfl

variable (hl : Live (processOf S) k)

include hl

theorem finrank_row_pos : 0 < finrank 𝕜 A.adjoint.range := by
  have h := hS.recurs.succ_le_rank (𝕜 := 𝕜) hl
  rw [A.finrank_range_adjoint]
  omega

/-- The largest entry so far is one that the rotations begin with, or one of the diagonal. -/
theorem maxrbar_mem (hb : RowBounds A damp τ σ) :
    1 ≤ (S (k + 1)).norms.maxrbar ∧ (S (k + 1)).norms.maxrbar ≤ max 1 σ := by
  induction k with
  | zero =>
    have h1 : (S 1).norms.maxrbar = 1 := by
      rw [hS.maxrbar_succ, hS.zero]
      exact max_eq_right zero_le_one
    rw [h1]
    exact ⟨le_rfl, le_max_left _ _⟩
  | succ k ih =>
    have hl' := hl.mono (Nat.le_succ k)
    obtain ⟨h1, h2⟩ := ih hl'
    rw [hS.maxrbar_succ]
    exact ⟨h1.trans (le_max_left _ _),
      max_le h2 ((hS.rhobar_le hl' hb).trans (le_max_right _ _))⟩

/-- The smallest entry so far is the bound that the estimate begins with, or one of the diagonal. -/
theorem le_minrbar (hb : RowBounds A damp τ σ) :
    min (10 ^ 100) τ ≤ (S (k + 1)).norms.minrbar := by
  induction k with
  | zero =>
    have h1 : (S 1).norms.minrbar = 10 ^ 100 := by rw [hS.minrbar_succ, hS.zero]; rfl
    rw [h1]
    exact min_le_left _ _
  | succ k ih =>
    have hl' := hl.mono (Nat.le_succ k)
    have hrhobar : τ ≤ (S (k + 1)).rotation.rhobar :=
      (hS.le_rhotemp hl' hb).trans (hS.rhotemp_le_rhobar hl')
    rw [hS.minrbar_succ, if_pos (by omega)]
    exact le_min (ih hl') ((min_le_right _ _).trans hrhobar)

/-- **What the estimate of the condition number is worth.** -/
theorem conda_bounds (hb : RowBounds A damp τ σ) (hτ : 0 < τ) : ∃ c,
    (S (k + 1)).conda = .finite c ∧ max 1 (1 / σ) ≤ c ∧ c ≤ max 1 σ / min (10 ^ 100) τ := by
  have htemp := hS.rhotemp_pos hl
  have hmin : τ ≤ (stepOf damp S k).rhotemp := hS.le_rhotemp hl hb
  have hmax : (stepOf damp S k).rhotemp ≤ σ :=
    (hS.rhotemp_le_rhobar hl).trans (hS.rhobar_le hl hb)
  obtain ⟨h1, h2⟩ := hS.maxrbar_mem hl hb
  have h3 : min (10 ^ 100) τ ≤ (S (k + 1)).norms.minrbar := hS.le_minrbar hl hb
  have hτ' : 0 < min (10 ^ 100) τ := lt_min (by positivity) hτ
  have hleast : 0 < min (S (k + 1)).norms.minrbar (stepOf damp S k).rhotemp :=
    lt_min (hτ'.trans_le h3) htemp
  refine ⟨_, hS.conda_succ k, max_le ?_ ?_, ?_⟩
  · rw [one_le_div hleast]
    exact (min_le_right _ _).trans (le_max_right _ _)
  · exact div_le_div₀ (zero_le_one.trans (h1.trans (le_max_left _ _)))
      (h1.trans (le_max_left _ _)) hleast ((min_le_right _ _).trans hmax)
  · exact div_le_div₀ (zero_le_one.trans (le_max_left _ _))
      (max_le h2 (hmax.trans (le_max_right _ _))) hτ'
      (le_min h3 ((min_le_right _ _).trans hmin))

end Course

namespace Problem

variable {A : E →ₗ[𝕜] F} {b : F} {x₀ : E} {P : Problem ℝ F E} {o : Observers ℝ} {n : ℕ}
  {s : Run ℝ F E}

/-- **What the estimate is worth** after every iteration. -/
theorem Executes.conda_bounds (hP : P.operator = .exact A)
    (h : P.Executes (.initial b 0) x₀ 0 o n s) : ∃ c, s.conda = .finite c ∧
      max 1 (1 / sigmaMax (damped A P.damp) A.adjoint.range) ≤ c ∧
      c ≤ max 1 (sigmaMax (damped A P.damp) A.adjoint.range) /
        min (10 ^ 100) (sigmaMin (damped A P.damp) A.adjoint.range) := by
  have hS := course_spec A b x₀ P.damp
  obtain ⟨k, s₀, rfl, hbegins, hb, -⟩ := h.follows hP hS
  have hl := hbegins.live hP hS
  rw [← Run.bare_conda, hb]
  have hpos : 0 < sigmaMin (damped A P.damp) A.adjoint.range :=
    sigmaMin_pos (hS.finrank_row_pos hl) fun _ => eq_zero_of_damped
  exact hS.conda_bounds hl .extreme hpos

/-- **The rule of the condition number has found its limit in the estimate.** -/
theorem conlim_le_conda (hP : P.operator = .exact A)
    (h : P.solve (.initial b 0) x₀ 0 o = .returned s) (hstop : s.stop = .conlim) {conlim : ℝ}
    (h0 : 0 < conlim) (hctol : P.ctol = 1 / conlim) : ∃ c, s.conda = .finite c ∧ conlim ≤ c := by
  obtain ⟨-, k, c, hc, hc0, hf⟩ := returned_fires hP h (by simp [hstop])
  rw [hstop] at hf
  have hle : 1 / c ≤ 1 / conlim := by
    simpa [StoppingTests.Fires, StoppingTests.exact, Arithmetic.le, hctol] using hf
  exact ⟨c, hc, (one_div_le_one_div hc0 h0).1 hle⟩

variable (b x₀ o) in
/-- **What the estimate of the condition number is worth.** It lies between one and the condition
number as long as the numbers that the estimate begins with lie between the extreme singular values,
and so does the limit then that the rule of the condition number finds exceeded. Otherwise those
numbers take the place of the extremes. -/
theorem condition_bounded (hP : P.operator = .exact A) :
    let σ := sigmaMax (damped A P.damp) A.adjoint.range
    let τ := sigmaMin (damped A P.damp) A.adjoint.range
    (∀ n s, P.Executes (.initial b 0) x₀ 0 o n s → ∃ c, s.conda = .finite c ∧
      max 1 (1 / σ) ≤ c ∧ c ≤ max 1 σ / min (10 ^ 100) τ ∧
      (1 ≤ σ → τ ≤ 10 ^ 100 → c ≤ σ / τ)) ∧
    (∀ s conlim, P.solve (.initial b 0) x₀ 0 o = .returned s → s.stop = .conlim → 0 < conlim →
      P.ctol = 1 / conlim →
      conlim ≤ max 1 σ / min (10 ^ 100) τ ∧ (1 ≤ σ → τ ≤ 10 ^ 100 → conlim ≤ σ / τ)) := by
  intro σ τ
  have hscale : 1 ≤ σ → τ ≤ 10 ^ 100 → max 1 σ / min (10 ^ 100) τ = σ / τ := by
    intro hmax hmin
    rw [max_eq_right hmax, min_eq_right hmin]
  constructor
  · intro n s h
    obtain ⟨c, hc, hlower, hupper⟩ := h.conda_bounds hP
    exact ⟨c, hc, hlower, hupper, fun hmax hmin => hscale hmax hmin ▸ hupper⟩
  · intro s conlim h hstop h0 hctol
    obtain ⟨k, s', hr, rfl⟩ := returned_reaches h (by simp [hstop])
    obtain ⟨c, hc, hle⟩ := conlim_le_conda hP h hstop h0 hctol
    obtain ⟨c', hc', -, hupper⟩ := hr.executes.conda_bounds hP
    obtain rfl : c' = c := by
      rw [show s'.close.conda = s'.conda from rfl, hc'] at hc
      exact Extended.finite.inj hc
    have hle' := hle.trans hupper
    exact ⟨hle', fun hmax hmin => hscale hmax hmin ▸ hle'⟩

/-! ### Small operators -/

section

variable {a : ℝ} (ha : 0 < a)

include ha

theorem stretching_rowBounds : RowBounds (stretching a) 0 a (2 * a) := by
  have hz : ∀ z : ℂ, ‖z‖ ^ 2 = z.re ^ 2 + z.im ^ 2 := by
    intro z
    rw [Complex.sq_norm, Complex.normSq_apply]
    ring
  have hAz : ∀ z, ‖damped (stretching a) 0 z‖ ^ 2 = a ^ 2 * (z.re ^ 2 + 4 * z.im ^ 2) := by
    intro z
    rw [damped_apply, norm_stacked_sq, zero_smul, norm_zero, stretching_apply, hz]
    ring
  refine ⟨by positivity, fun z _ => ?_, fun z _ => ?_⟩
  · refine le_of_sq_le_sq ?_ (norm_nonneg _)
    rw [hAz, mul_pow, hz]
    nlinarith [mul_nonneg (sq_nonneg a) (sq_nonneg z.im)]
  · refine le_of_sq_le_sq ?_ (by positivity)
    rw [hAz, mul_pow, hz]
    nlinarith [mul_nonneg (sq_nonneg a) (sq_nonneg z.re)]

/-- **The condition number is at most two**, whatever the scale is. -/
theorem sigma_stretching :
    a ≤ sigmaMin (damped (stretching a) 0) (stretching a).adjoint.range ∧
      sigmaMax (damped (stretching a) 0) (stretching a).adjoint.range ≤ 2 * a := by
  have hrank : 0 < finrank ℝ (stretching a).adjoint.range := by
    refine finrank_pos_iff_exists_ne_zero.2
      ⟨⟨(stretching a).adjoint 1, LinearMap.mem_range_self _ _⟩, fun h0 => ?_⟩
    have h1 : (stretching a).adjoint 1 = 0 := congrArg Subtype.val h0
    rw [stretching_adjoint, stretching_apply] at h1
    exact ha.ne' (by simpa using congrArg Complex.re h1)
  have h := stretching_rowBounds ha
  exact ⟨le_sigmaMin hrank h.lower, sigmaMax_le h.nonneg h.upper⟩

end

/-- The estimate is good for the problem that is stretched by one and by two. -/
theorem stretchingProblem_condition : ∃ s c,
    (stretchingProblem 1 (3 / 4) 0).Executes (.initial ⟨1, 1⟩ 0) (-1) 0 Run.unwatched 1 s ∧
      s.conda = .finite c ∧ 1 ≤ c ∧
      c ≤ sigmaMax (damped (stretching 1) 0) (stretching 1).adjoint.range /
        sigmaMin (damped (stretching 1) 0) (stretching 1).adjoint.range := by
  obtain ⟨s, hr, -⟩ := stretchingProblem_reaches
  obtain ⟨c, hc, hlower, -, hupper⟩ := (condition_bounded ⟨1, 1⟩ (-1) Run.unwatched
    (P := stretchingProblem 1 (3 / 4) 0) (A := stretching 1) rfl).1 1 s hr.executes
  obtain ⟨hmin, hmax⟩ := sigma_stretching one_pos
  have hscale := (sigmaMin_le_sigmaMax.trans hmax).trans (by norm_num : (2 * 1 : ℝ) ≤ 10 ^ 100)
  exact ⟨s, c, hr.executes, hc, (le_max_left _ _).trans hlower,
    hupper (hmin.trans sigmaMin_le_sigmaMax) hscale⟩

/-- **On a small scale the condition number is overestimated**: the solve stops at a limit that is
nowhere near the condition number. -/
theorem stretchingProblem_overestimates : ∃ s c,
    (stretchingProblem (1 / 10 ^ 9) 0 (1 / 10 ^ 8)).solve (.initial ⟨1, 1⟩ 0) 0 0 Run.unwatched =
        .returned s ∧
      s.stop = .conlim ∧ s.conda = .finite c ∧ 10 ^ 8 ≤ c ∧
      sigmaMax (damped (stretching (1 / 10 ^ 9)) 0) (stretching (1 / 10 ^ 9)).adjoint.range /
        sigmaMin (damped (stretching (1 / 10 ^ 9)) 0) (stretching (1 / 10 ^ 9)).adjoint.range ≤
        2 := by
  have ha : (0 : ℝ) < 1 / 10 ^ 9 := by positivity
  obtain ⟨hmin, hmax⟩ := sigma_stretching ha
  obtain ⟨s, _, c, hr, -, -, hc, hc0, hstop⟩ := stretching_stops ⟨1, 1⟩ 0 (a := 1 / 10 ^ 9)
    (P := stretchingProblem (1 / 10 ^ 9) 0 (1 / 10 ^ 8)) (o := Run.unwatched) rfl ha.ne' rfl rfl
    (by decide) (by simp) (by simp) fun _ _ => rfl
  obtain ⟨c', hc', hlower, -⟩ := hr.executes.conda_bounds (A := stretching (1 / 10 ^ 9)) rfl
  rw [Extended.finite.inj (hc'.symm.trans hc)] at hlower
  have hmax0 := ha.trans_le (hmin.trans sigmaMin_le_sigmaMax)
  -- The one that the rotations begin with is much larger than what is left over.
  have hle : 10 ^ 8 ≤ c := by
    calc (10 : ℝ) ^ 8 ≤ 1 / (2 * (1 / 10 ^ 9)) := by norm_num
      _ ≤ c := (one_div_le_one_div_of_le hmax0 hmax).trans ((le_max_right _ _).trans hlower)
  have hconlim : s.stop = .conlim := by
    rw [hstop]
    exact if_pos (one_div_le_one_div_of_le (by positivity) hle)
  refine ⟨s.close, c, hr.returns (.inl (by simp [hconlim])), hconlim, hc, hle, ?_⟩
  rw [div_le_iff₀ (ha.trans_le hmin)]
  linarith

end Problem

end LeastSquares
