import Mathlib.Analysis.InnerProductSpace.Basic
import Mathlib.Tactic.LinearCombination

/-!
# Real combinations of vectors

Inner products and norms of combinations with real coefficients, in spaces over the real or the
complex numbers. Turning two orthogonal unit vectors in their plane gives two orthogonal unit
vectors.

* `inner_real_smul_left`, `inner_real_smul_right`: real factors leave an inner product.
* `norm_turned`, `inner_turned`: what a plane rotation does to two orthogonal unit vectors.
-/

namespace LeastSquares

variable {𝕜 W : Type} [RCLike 𝕜] [NormedAddCommGroup W] [InnerProductSpace 𝕜 W] {x y : W}

theorem norm_add_of_orthogonal (h : inner 𝕜 x y = 0) : ‖x + y‖ ^ 2 = ‖x‖ ^ 2 + ‖y‖ ^ 2 := by
  simpa only [pow_two] using norm_add_sq_eq_norm_sq_add_norm_sq_of_inner_eq_zero x y h

variable [NormedSpace ℝ W] {c s : ℝ}

theorem mem_of_real_smul_mem {K : Submodule 𝕜 W} {a : ℝ} (ha : a ≠ 0) (h : a • x ∈ K) : x ∈ K :=
  ((K.restrictScalars ℝ).smul_mem_iff ha).1 h

theorem inner_real_smul_left (a : ℝ) (x y : W) : inner 𝕜 (a • x) y = (a : 𝕜) * inner 𝕜 x y := by
  rw [inner_smul_left_eq_smul, RCLike.real_smul_eq_coe_mul]

theorem inner_real_smul_right (a : ℝ) (x y : W) : inner 𝕜 x (a • y) = (a : 𝕜) * inner 𝕜 x y := by
  rw [inner_smul_right_eq_smul, RCLike.real_smul_eq_coe_mul]

theorem inner_combination {z : W} (hx : inner 𝕜 z x = 0) (hy : inner 𝕜 z y = 0) (a c : ℝ) :
    inner 𝕜 z (a • x + c • y) = 0 := by
  rw [inner_add_right, inner_real_smul_right, inner_real_smul_right, hx, hy, mul_zero, mul_zero,
    add_zero]

theorem norm_smul_sq {a : ℝ} (h : ‖x‖ = 1 ∨ a = 0) : ‖a • x‖ ^ 2 = a ^ 2 := by
  rw [norm_smul, mul_pow, Real.norm_eq_abs, sq_abs]
  rcases h with h | h <;> rw [h] <;> ring

/-- A plane rotation keeps norms. A vector that it leaves out may be any. -/
theorem norm_turned (hx : ‖x‖ = 1 ∨ c = 0) (hy : ‖y‖ = 1 ∨ s = 0) (h : inner 𝕜 x y = 0)
    (hcs : c ^ 2 + s ^ 2 = 1) : ‖c • x + s • y‖ = 1 := by
  have ho : inner 𝕜 (c • x) (s • y) = 0 := by
    rw [inner_real_smul_left, inner_real_smul_right, h, mul_zero, mul_zero]
  have h2 : ‖c • x + s • y‖ ^ 2 = 1 := by
    rw [norm_add_of_orthogonal ho, norm_smul_sq hx, norm_smul_sq hy, hcs]
  exact (pow_eq_one_iff_of_nonneg (norm_nonneg _) two_ne_zero).1 h2

/-- A plane rotation keeps angles. -/
theorem inner_turned (hx : ‖x‖ = 1) (hy : ‖y‖ = 1 ∨ s = 0) (h : inner 𝕜 x y = 0) :
    inner 𝕜 (c • x + s • y) (-s • x + c • y) = 0 := by
  have h' : inner 𝕜 y x = 0 := inner_eq_zero_symm.1 h
  simp only [inner_add_left, inner_add_right, inner_real_smul_left, inner_real_smul_right, h, h',
    inner_self_eq_one_of_norm_eq_one hx, RCLike.ofReal_neg]
  rcases hy with hy | hs
  · rw [inner_self_eq_one_of_norm_eq_one hy]; ring
  · rw [hs]; simp

end LeastSquares
