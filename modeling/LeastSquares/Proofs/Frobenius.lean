import Mathlib.Analysis.InnerProductSpace.PiL2
import LeastSquares.Proofs.Course

/-!
# The estimate of the norm

The estimate of the norm of the operator is the root of a sum of squares that grows with every
iteration. Each of its terms is the square of a product with one vector of the process, and these
vectors are orthonormal; so the estimate never exceeds the Frobenius norm, whatever the basis is in
which that is taken.

* `frobenius`: the Frobenius norm of an operator.
* `sum_sq_norm_apply`, `frobenius_sq`: **it does not depend on the basis.**
* `sum_sq_norm_le_frobenius`: orthonormal vectors do not exceed it.
* `Course.norma_sq`: **what the estimate is**, the sum over the vectors of the process.
* `Course.norma_le_frobenius`: **it does not exceed the norm.**
-/

namespace LeastSquares

open Bidiagonal

section

variable {𝕜 E F ι κ : Type} [RCLike 𝕜] [Fintype ι] [Fintype κ]
  [NormedAddCommGroup E] [InnerProductSpace 𝕜 E] [FiniteDimensional 𝕜 E]
  [NormedAddCommGroup F] [InnerProductSpace 𝕜 F] [FiniteDimensional 𝕜 F]

/-- **The Frobenius norm**: the root of the sum of the squares of the columns. -/
noncomputable def frobenius (A : E →ₗ[𝕜] F) : ℝ :=
  √(∑ i, ‖A (stdOrthonormalBasis 𝕜 E i)‖ ^ 2)

variable {A : E →ₗ[𝕜] F}

omit [FiniteDimensional 𝕜 F] in
theorem frobenius_nonneg : 0 ≤ frobenius A := Real.sqrt_nonneg _

/-- **The squares of the columns sum to those of the rows**, in any two bases. -/
theorem sum_sq_norm_apply (b : OrthonormalBasis ι 𝕜 E) (c : OrthonormalBasis κ 𝕜 F) :
    ∑ i, ‖A (b i)‖ ^ 2 = ∑ j, ‖A.adjoint (c j)‖ ^ 2 := by
  calc ∑ i, ‖A (b i)‖ ^ 2
      = ∑ i, ∑ j, ‖inner 𝕜 (c j) (A (b i))‖ ^ 2 := by simp only [c.sum_sq_norm_inner_right]
    _ = ∑ j, ∑ i, ‖inner 𝕜 (A.adjoint (c j)) (b i)‖ ^ 2 := by
        rw [Finset.sum_comm]
        simp only [LinearMap.adjoint_inner_left]
    _ = ∑ j, ‖A.adjoint (c j)‖ ^ 2 := by simp only [b.sum_sq_norm_inner_left]

/-- **Every basis gives the same norm.** -/
theorem frobenius_sq (b : OrthonormalBasis ι 𝕜 E) : frobenius A ^ 2 = ∑ i, ‖A (b i)‖ ^ 2 := by
  rw [frobenius, Real.sq_sqrt (by positivity), sum_sq_norm_apply b (stdOrthonormalBasis 𝕜 F),
    sum_sq_norm_apply _ (stdOrthonormalBasis 𝕜 F)]

/-- **Orthonormal vectors that are no basis give no more.** -/
theorem sum_sq_norm_le_frobenius {v : ι → E} (hv : Orthonormal 𝕜 v) :
    ∑ i, ‖A (v i)‖ ^ 2 ≤ frobenius A ^ 2 := by
  set c := stdOrthonormalBasis 𝕜 F
  calc ∑ i, ‖A (v i)‖ ^ 2
      = ∑ i, ∑ j, ‖inner 𝕜 (c j) (A (v i))‖ ^ 2 := by simp only [c.sum_sq_norm_inner_right]
    _ = ∑ j, ∑ i, ‖inner 𝕜 (v i) (A.adjoint (c j))‖ ^ 2 := by
        rw [Finset.sum_comm]
        simp only [LinearMap.adjoint_inner_right, norm_inner_symm (A _)]
    _ ≤ ∑ j, ‖A.adjoint (c j)‖ ^ 2 :=
        Finset.sum_le_sum fun j _ => hv.sum_inner_products_le (A.adjoint (c j))
    _ = frobenius A ^ 2 := by
        rw [frobenius_sq (stdOrthonormalBasis 𝕜 E), sum_sq_norm_apply _ c]

end

variable {𝕜 E F : Type} [RCLike 𝕜]
  [NormedAddCommGroup E] [InnerProductSpace 𝕜 E] [NormedSpace ℝ E] [FiniteDimensional 𝕜 E]
  [NormedAddCommGroup F] [InnerProductSpace 𝕜 F] [NormedSpace ℝ F] [FiniteDimensional 𝕜 F]
  {A : E →ₗ[𝕜] F} {r b : F} {x₀ : E} {damp : ℝ} {k : ℕ}

/-- **The product with a vector of the process** has the two scalars for its parts. -/
theorem Bidiagonal.Recurs.norm_apply_v_sq {P : ℕ → Bidiagonal ℝ F E} (hP : Recurs A r P)
    (hl : Live P k) : ‖A (P k).v‖ ^ 2 = (P k).alpha ^ 2 + (P (k + 1)).beta ^ 2 := by
  have hu : ‖(P k).alpha • (P k).u‖ = (P k).alpha := by
    rw [norm_smul, hP.norm_u k (hl k le_rfl).2, mul_one, Real.norm_of_nonneg (hP.alpha_nonneg k)]
  have hu' : ‖(P (k + 1)).beta • (P (k + 1)).u‖ = (P (k + 1)).beta := by
    by_cases hb : (P (k + 1)).beta = 0
    · rw [hb, zero_smul, norm_zero]
    · rw [norm_smul, hP.norm_u _ hb, mul_one, Real.norm_of_nonneg (hP.beta_nonneg _)]
  have hort : inner 𝕜 ((P k).alpha • (P k).u) ((P (k + 1)).beta • (P (k + 1)).u) = 0 := by
    rw [inner_real_smul_left, inner_real_smul_right, hP.inner_u_next hl le_rfl, mul_zero, mul_zero]
  rw [hP.apply_v k, sq, norm_add_sq_eq_norm_sq_add_norm_sq_of_inner_eq_zero _ _ hort, hu, hu']
  ring

namespace Course

variable {S : ℕ → Run ℝ F E} (hS : Course A b x₀ damp S)

include hS

theorem normA2_succ (k : ℕ) : (S (k + 1)).norms.normA2 = (S k).norms.normA2 +
    (S (k + 1)).process.beta ^ 2 + (S (k + 1)).process.alpha ^ 2 := by
  rw [← hS.process_succ, hS.succ]; rfl

/-- **The sum that the estimate is the root of**, before the scalar that an iteration adds last. -/
theorem normA2_eq (hl : Live (processOf S) k) : (S k).norms.normA2 =
    ∑ j ∈ Finset.range k, ‖A (S j).process.v‖ ^ 2 + (S k).process.alpha ^ 2 := by
  induction k with
  | zero => rw [hS.zero, Finset.sum_range_zero, zero_add]; rfl
  | succ k ih =>
    have hl' := hl.mono (Nat.le_succ k)
    have hv : ‖A (S k).process.v‖ ^ 2 = _ := hS.recurs.norm_apply_v_sq hl'
    rw [hS.normA2_succ, ih hl', Finset.sum_range_succ, hv, processOf, processOf]
    ring

/-- **What the estimate of the norm is.** -/
theorem norma_sq (hl : Live (processOf S) k) :
    (S (k + 1)).norma ^ 2 = ∑ j : Fin (k + 1), ‖A (S j).process.v‖ ^ 2 := by
  have hnorma : (S (k + 1)).norma = √((S k).norms.normA2 + (S (k + 1)).process.beta ^ 2) := by
    rw [← hS.process_succ, hS.succ]; rfl
  have hv : ‖A (S k).process.v‖ ^ 2 = _ := hS.recurs.norm_apply_v_sq hl
  have h0 := (hS.sound hl).normA2_pos.le
  rw [hnorma, Real.sq_sqrt (by positivity), hS.normA2_eq hl,
    Fin.sum_univ_eq_sum_range fun j => ‖A (S j).process.v‖ ^ 2, Finset.sum_range_succ, hv,
    processOf, processOf]
  ring

/-- **The estimate does not exceed the norm.** -/
theorem norma_le_frobenius (hl : Live (processOf S) k) : (S (k + 1)).norma ≤ frobenius A := by
  refine le_of_sq_le_sq ?_ frobenius_nonneg
  rw [hS.norma_sq hl]
  exact sum_sq_norm_le_frobenius (hS.recurs.orthonormal_v hl)

end Course

end LeastSquares
