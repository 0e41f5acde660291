import Mathlib.Geometry.Convex.Cone.Pointed
import LeastSquares.Proofs.Normal

/-!
# The signs along a solve

The coefficients of a solve against the vectors `v` of its process alternate: those of the solution,
of its directions and of the residual of the normal equations are nonnegative and nonpositive in
turn. Since the vectors are orthonormal, any two such combinations are at most at right angles to
each other. Whatever a solve adds to the solution therefore leads on from where it began.

* `alternating`: **the combinations whose coefficients alternate.**
* `Recurs.re_inner_nonneg`: two of them are at most at right angles.
* `Alternates`, `Course.alternates`: **the signs of a solve**, after any number of iterations.
* `Course.x_sub_mem_alternating`: what an iteration adds to the solution alternates as well.
-/

namespace LeastSquares

open Bidiagonal

variable {𝕜 E F : Type} [RCLike 𝕜]
  [NormedAddCommGroup E] [InnerProductSpace 𝕜 E] [NormedSpace ℝ E] [FiniteDimensional 𝕜 E]
  [NormedAddCommGroup F] [InnerProductSpace 𝕜 F] [NormedSpace ℝ F] [FiniteDimensional 𝕜 F]
  {A : E →ₗ[𝕜] F} {b : F} {x₀ : E} {damp : ℝ}

/-! ### Alternating combinations -/

omit [FiniteDimensional 𝕜 E] in
/-- A cone whose generators are at most at right angles to each other is one of such vectors. -/
theorem re_inner_hull_nonneg {s : Set E}
    (h : ∀ x ∈ s, ∀ y ∈ s, 0 ≤ RCLike.re (inner 𝕜 x y)) {x y : E}
    (hx : x ∈ PointedCone.hull ℝ s) (hy : y ∈ PointedCone.hull ℝ s) :
    0 ≤ RCLike.re (inner 𝕜 x y) := by
  have hleft : ∀ y ∈ s, 0 ≤ RCLike.re (inner 𝕜 x y) := by
    intro y hy
    induction hx using Submodule.span_induction with
    | mem x hx => exact h x hx y hy
    | zero => rw [inner_zero_left, map_zero]
    | add x x' _ _ ih ih' =>
      rw [inner_add_left, map_add]
      exact add_nonneg ih ih'
    | smul a x _ ih =>
      have ha : inner 𝕜 (a • x) y = ((a : ℝ) : 𝕜) * inner 𝕜 x y := inner_real_smul_left _ _ _
      rw [ha, RCLike.re_ofReal_mul]
      exact mul_nonneg a.2 ih
  induction hy using Submodule.span_induction with
  | mem y hy => exact hleft y hy
  | zero => rw [inner_zero_right, map_zero]
  | add y y' _ _ ih ih' =>
    rw [inner_add_right, map_add]
    exact add_nonneg ih ih'
  | smul a y _ ih =>
    have ha : inner 𝕜 x (a • y) = ((a : ℝ) : 𝕜) * inner 𝕜 x y := inner_real_smul_right _ _ _
    rw [ha, RCLike.re_ofReal_mul]
    exact mul_nonneg a.2 ih

namespace Bidiagonal

variable {r : F} {P : ℕ → Bidiagonal ℝ F E} {j k : ℕ}

/-- **The combinations whose coefficients alternate**, of the first `k` vectors `v`: those with even
numbers have nonnegative coefficients, the others nonpositive ones. -/
def alternating (P : ℕ → Bidiagonal ℝ F E) (k : ℕ) : PointedCone ℝ E :=
  .hull ℝ ((fun j => (-1 : ℝ) ^ j • (P j).v) '' Set.Iio k)

omit [NormedAddCommGroup F] [NormedSpace ℝ F] in
theorem v_mem_alternating (h : j < k) : (-1 : ℝ) ^ j • (P j).v ∈ alternating P k :=
  PointedCone.subset_hull ⟨j, h, rfl⟩

omit [NormedAddCommGroup F] [NormedSpace ℝ F] in
theorem alternating_mono (h : j ≤ k) : alternating P j ≤ alternating P k :=
  Submodule.span_mono (Set.image_mono (Set.Iio_subset_Iio h))

theorem neg_one_pow_sq (k : ℕ) : (-1 : ℝ) ^ k * (-1) ^ k = 1 := by
  rw [← mul_pow, neg_mul_neg, one_mul, one_pow]

/-- **Combinations that alternate are at most at right angles.** -/
theorem Recurs.re_inner_nonneg (hP : Recurs A r P) (hl : Live P k) {x y : E}
    (hx : x ∈ alternating P (k + 1)) (hy : y ∈ alternating P (k + 1)) :
    0 ≤ RCLike.re (inner 𝕜 x y) := by
  refine re_inner_hull_nonneg ?_ hx hy
  rintro _ ⟨i, hi, rfl⟩ _ ⟨j, hj, rfl⟩
  have ho : Orthonormal 𝕜 fun i : Fin (k + 1) => (P i).v := hP.orthonormal_v hl
  have hij : inner 𝕜 (P i).v (P j).v = if (⟨i, hi⟩ : Fin (k + 1)) = ⟨j, hj⟩ then 1 else 0 :=
    orthonormal_iff_ite.1 ho ⟨i, hi⟩ ⟨j, hj⟩
  rw [inner_real_smul_left, inner_real_smul_right, RCLike.re_ofReal_mul, RCLike.re_ofReal_mul, hij]
  split_ifs with h
  · obtain rfl : i = j := congrArg Fin.val h
    rw [RCLike.one_re, mul_one, neg_one_pow_sq]
    exact zero_le_one
  · rw [map_zero, mul_zero, mul_zero]

end Bidiagonal

/-! ### The signs of a solve -/

variable (A b x₀ damp) in
/-- **The signs of a solve** after `k` iterations. -/
structure Alternates (S : ℕ → Run ℝ F E) (k : ℕ) : Prop where
  zetabar_sign : 0 ≤ (-1) ^ k * (S k).rotation.zetabar
  h_mem : (-1 : ℝ) ^ k • (S k).iterate.h ∈ alternating (processOf S) (k + 1)
  hbar_mem : -(-1 : ℝ) ^ k • (S k).iterate.hbar ∈ alternating (processOf S) k
  x_mem : (S k).iterate.x - x₀ ∈ alternating (processOf S) k
  residual_mem : normalResidual A b x₀ damp (S k).iterate.x ∈ alternating (processOf S) (k + 1)

namespace Course

variable {S : ℕ → Run ℝ F E} (hS : Course A b x₀ damp S) {k : ℕ}

include hS

/-- The signs of the rotations after an iteration. -/
theorem rotation_sound_succ (hl : Live (processOf S) k) : (S (k + 1)).rotation.Sound := by
  rw [hS.rotation_succ]
  exact (hS.sound hl).rotation.next damp (hS.sound hl).alphabar_pos
    (hS.recurs.alpha_nonneg (k + 1)) (hS.recurs.beta_nonneg (k + 1))

/-- **The residual of the normal equations keeps a share of what it was**, and gets one of the next
`v`. -/
theorem normalResidual_succ (hl : Live (processOf S) k) :
    normalResidual A b x₀ damp (S (k + 1)).iterate.x =
      (S (k + 1)).rotation.sbar ^ 2 • normalResidual A b x₀ damp (S k).iterate.x +
        ((S (k + 1)).rotation.zetabar * (S (k + 1)).rotation.cbar) • (S (k + 1)).process.v := by
  obtain ⟨y, ybar, h⟩ := hS.steered hl
  rw [hS.residual_succ_eq h hl, h.residual_eq, leftAt, hS.zetabar_succ]
  module

theorem alternates_zero : Alternates A b x₀ damp S 0 := by
  have ha : 0 ≤ (S 0).process.alpha := hS.recurs.alpha_nonneg 0
  have hb : 0 ≤ (S 0).process.beta := hS.recurs.beta_nonneg 0
  have hv : (S 0).process.v ∈ alternating (processOf S) 1 := by
    have h := v_mem_alternating (P := processOf S) Nat.zero_lt_one
    rwa [pow_zero, one_smul] at h
  refine
    { zetabar_sign := ?_
      h_mem := by simpa [hS.iterate_zero] using hv
      hbar_mem := by simp [hS.iterate_zero]
      x_mem := by simp [hS.iterate_zero]
      residual_mem := ?_ }
  · rw [hS.rotation_zero, pow_zero, one_mul]
    exact mul_nonneg ha hb
  · have hstart : (S 0).process.alpha • (S 0).process.v = A.adjoint (S 0).process.u := hS.start_v
    rw [hS.iterate_zero, normalResidual_start, ← hS.start_u, LinearMap.map_smul_of_tower, ← hstart]
    exact PointedCone.smul_mem _ hb (PointedCone.smul_mem _ ha hv)

section

variable (h : Alternates A b x₀ damp S k) (hl : Live (processOf S) k)

include h hl

/-- The next direction of the solution, with the sign of its iteration. -/
theorem hbar_succ_mem :
    (-1 : ℝ) ^ k • (S (k + 1)).iterate.hbar ∈ alternating (processOf S) (k + 1) := by
  have hq := (hS.sound hl).rotation
  set a := (S k).rotation.sbar * (S (k + 1)).rotation.rho * (S (k + 1)).rotation.rho /
    ((S k).rotation.rho * (S k).rotation.rhobar) with ha
  have ha0 : 0 ≤ a :=
    div_nonneg (mul_nonneg (mul_nonneg hq.sbar_nonneg (hS.rho_pos hl).le) (hS.rho_pos hl).le)
      (mul_nonneg hq.rho_pos.le hq.rhobar_pos.le)
  have heq : (-1 : ℝ) ^ k • (S (k + 1)).iterate.hbar =
      a • (-(-1 : ℝ) ^ k • (S k).iterate.hbar) + (-1 : ℝ) ^ k • (S k).iterate.h := by
    rw [hS.hbar_succ, neg_mul, neg_div, ← ha]
    module
  rw [heq]
  exact add_mem (PointedCone.smul_mem _ ha0 (alternating_mono (Nat.le_succ k) h.hbar_mem)) h.h_mem

/-- **What an iteration adds to the solution.** -/
theorem x_sub_mem_alternating :
    (S (k + 1)).iterate.x - (S k).iterate.x ∈ alternating (processOf S) (k + 1) := by
  set a := (S (k + 1)).rotation.cbar * ((-1) ^ k * (S k).rotation.zetabar) /
    ((S (k + 1)).rotation.rho * (S (k + 1)).rotation.rhobar) with ha
  have ha0 : 0 ≤ a :=
    div_nonneg (mul_nonneg (hS.rotation_sound_succ hl).cbar_pos.le h.zetabar_sign)
      (mul_pos (hS.rho_pos hl) (hS.rhobar_pos hl)).le
  -- The sign of the step is that of the direction.
  have hcoeff : (S (k + 1)).rotation.zeta /
      ((S (k + 1)).rotation.rho * (S (k + 1)).rotation.rhobar) = a * (-1) ^ k := by
    rw [ha, hS.zeta_succ, div_mul_eq_mul_div]
    congr 1
    linear_combination -(S (k + 1)).rotation.cbar * (S k).rotation.zetabar * neg_one_pow_sq k
  rw [hS.x_succ, add_sub_cancel_left, hcoeff, mul_smul]
  exact PointedCone.smul_mem _ ha0 (hS.hbar_succ_mem h hl)

/-- **One iteration keeps the signs**, also one in which a scalar vanishes. -/
theorem alternates_succ : Alternates A b x₀ damp S (k + 1) := by
  have hq := hS.rotation_sound_succ hl
  have hsign : 0 ≤ (-1) ^ (k + 1) * (S (k + 1)).rotation.zetabar := by
    have heq : (-1) ^ (k + 1) * (S (k + 1)).rotation.zetabar =
        (S (k + 1)).rotation.sbar * ((-1) ^ k * (S k).rotation.zetabar) := by
      rw [hS.zetabar_succ, pow_succ]; ring
    rw [heq]
    exact mul_nonneg hq.sbar_nonneg h.zetabar_sign
  have hv : (-1 : ℝ) ^ (k + 1) • (S (k + 1)).process.v ∈ alternating (processOf S) (k + 2) :=
    v_mem_alternating (P := processOf S) (Nat.lt_succ_self (k + 1))
  have hmono := alternating_mono (P := processOf S) (Nat.le_succ (k + 1))
  refine
    { zetabar_sign := hsign
      h_mem := ?_
      hbar_mem := ?_
      x_mem := ?_
      residual_mem := ?_ }
  · have heq : (-1 : ℝ) ^ (k + 1) • (S (k + 1)).iterate.h =
        ((stepOf damp S k).thetanew / (S (k + 1)).rotation.rho) • (-1 : ℝ) ^ k • (S k).iterate.h +
          (-1 : ℝ) ^ (k + 1) • (S (k + 1)).process.v := by
      rw [hS.h_succ, neg_div, pow_succ]
      module
    have htheta : 0 ≤ (stepOf damp S k).thetanew := by
      rw [← hS.sbar_mul_succ]
      exact mul_nonneg hq.sbar_nonneg hq.rhobar_pos.le
    rw [heq]
    exact add_mem (PointedCone.smul_mem _ (div_nonneg htheta hq.rho_pos.le) (hmono h.h_mem)) hv
  · rw [pow_succ, mul_neg_one, neg_neg]
    exact hS.hbar_succ_mem h hl
  · rw [← sub_add_sub_cancel _ (S k).iterate.x]
    exact add_mem (hS.x_sub_mem_alternating h hl) (alternating_mono (Nat.le_succ k) h.x_mem)
  · have hcoeff : (S (k + 1)).rotation.zetabar * (S (k + 1)).rotation.cbar =
        (S (k + 1)).rotation.cbar * ((-1) ^ (k + 1) * (S (k + 1)).rotation.zetabar) *
          (-1) ^ (k + 1) := by
      linear_combination -(S (k + 1)).rotation.zetabar * (S (k + 1)).rotation.cbar *
        neg_one_pow_sq (k + 1)
    rw [hS.normalResidual_succ hl, hcoeff, mul_smul]
    exact add_mem (PointedCone.smul_mem _ (sq_nonneg _) (hmono h.residual_mem))
      (PointedCone.smul_mem _ (mul_nonneg hq.cbar_pos.le hsign) hv)

end

/-- **The signs of a solve** after any number of iterations before which no scalar has vanished. -/
theorem alternates (hl : ∀ j < k, Live (processOf S) j) : Alternates A b x₀ damp S k := by
  induction k with
  | zero => exact hS.alternates_zero
  | succ k ih =>
    refine hS.alternates_succ (ih ?_) (hl k (Nat.lt_succ_self k))
    intro j hj
    exact hl j (Nat.lt_succ_of_lt hj)

end Course

end LeastSquares
