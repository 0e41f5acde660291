import Mathlib.Analysis.InnerProductSpace.SingularValues

/-!
# Singular values as bounds

How far an operator stretches a vector, by its singular values. An operator has an orthonormal basis
along which it only stretches; the square of the length of any product is the sum of the squares
along that basis. The same holds for the vectors of a subspace and the singular values of the
operator on it.

* `exists_basis_norm_sq`: **the length of a product.**
* `norm_apply_le`, `le_norm_apply`: it lies between the last and the first singular value.
* `exists_norm_eq`: every singular value is such a length.
* `sigmaMax`, `sigmaMin`: **the extreme singular values on a subspace.**
-/

namespace LeastSquares

open Module

variable {𝕜 E F : Type} [RCLike 𝕜]
  [NormedAddCommGroup E] [InnerProductSpace 𝕜 E] [FiniteDimensional 𝕜 E]
  [NormedAddCommGroup F] [InnerProductSpace 𝕜 F] [FiniteDimensional 𝕜 F] (T : E →ₗ[𝕜] F)

/-- **The length of a product**, by the singular values, along a basis in which the operator only
stretches. -/
theorem exists_basis_norm_sq : ∃ b : OrthonormalBasis (Fin (finrank 𝕜 E)) 𝕜 E, ∀ z,
    ‖T z‖ ^ 2 = ∑ i : Fin (finrank 𝕜 E), T.singularValues i ^ 2 * ‖inner 𝕜 (b i) z‖ ^ 2 := by
  -- The basis is one of eigenvectors of the normal equations.
  let b := T.isSymmetric_adjoint_comp_self.eigenvectorBasis rfl
  have hb : ∀ i : Fin (finrank 𝕜 E),
      T.adjoint (T (b i)) = ((T.singularValues i ^ 2 : ℝ) : 𝕜) • b i := by
    intro i
    rw [T.sq_singularValues_fin rfl i]
    exact T.isSymmetric_adjoint_comp_self.apply_eigenvectorBasis rfl i
  refine ⟨b, fun z => ?_⟩
  have hterm : ∀ i, inner 𝕜 z (b i) * inner 𝕜 (b i) (T.adjoint (T z)) =
      ((T.singularValues i ^ 2 * ‖inner 𝕜 (b i) z‖ ^ 2 : ℝ) : 𝕜) := by
    intro i
    rw [LinearMap.adjoint_inner_right, ← LinearMap.adjoint_inner_left, hb, inner_smul_left,
      RCLike.conj_ofReal, mul_left_comm, ← inner_conj_symm z, RCLike.conj_mul]
    push_cast
    rfl
  have h := b.sum_inner_mul_inner z (T.adjoint (T z))
  rw [Finset.sum_congr rfl fun i _ => hterm i, LinearMap.adjoint_inner_right,
    inner_self_eq_norm_sq_to_K, ← RCLike.ofReal_sum] at h
  exact_mod_cast h.symm

/-- **No vector is stretched more** than by the first singular value. -/
theorem norm_apply_le (z : E) : ‖T z‖ ≤ T.singularValues 0 * ‖z‖ := by
  obtain ⟨b, hb⟩ := exists_basis_norm_sq T
  have h0 := T.singularValues_nonneg
  refine le_of_sq_le_sq ?_ (mul_nonneg (h0 0) (norm_nonneg z))
  rw [hb, mul_pow, ← b.sum_sq_norm_inner_right z, Finset.mul_sum]
  gcongr with i
  · exact h0 _
  · exact T.singularValues_antitone (Nat.zero_le _)

/-- **No vector is stretched less** than by the last singular value. -/
theorem le_norm_apply (z : E) : T.singularValues (finrank 𝕜 E - 1) * ‖z‖ ≤ ‖T z‖ := by
  obtain ⟨b, hb⟩ := exists_basis_norm_sq T
  have h0 := T.singularValues_nonneg
  refine le_of_sq_le_sq ?_ (norm_nonneg _)
  rw [hb, mul_pow, ← b.sum_sq_norm_inner_right z, Finset.mul_sum]
  gcongr with i
  · exact h0 _
  · exact T.singularValues_antitone (by omega)

/-- **Every singular value is the length of a product** with a unit vector. -/
theorem exists_norm_eq (i : Fin (finrank 𝕜 E)) : ∃ z, ‖z‖ = 1 ∧ ‖T z‖ = T.singularValues i := by
  obtain ⟨b, hb⟩ := exists_basis_norm_sq T
  have h : ‖T (b i)‖ ^ 2 = T.singularValues i ^ 2 := by
    rw [hb, Finset.sum_eq_single i]
    · simp
    · intro j _ hj
      simp [b.inner_eq_zero hj]
    · simp
  exact ⟨b i, b.norm_eq_one i,
    (pow_left_inj₀ (norm_nonneg _) (T.singularValues_nonneg _) two_ne_zero).1 h⟩

/-! ### Subspaces -/

variable (K : Submodule 𝕜 E)

/-- **The largest singular value on a subspace.** -/
noncomputable def sigmaMax : ℝ := (T.domRestrict K).singularValues 0

/-- **The smallest singular value on a subspace.** -/
noncomputable def sigmaMin : ℝ := (T.domRestrict K).singularValues (finrank 𝕜 K - 1)

variable {T K} {c : ℝ} {z : E}

theorem sigmaMax_nonneg : 0 ≤ sigmaMax T K := LinearMap.singularValues_nonneg _ _

theorem sigmaMin_le_sigmaMax : sigmaMin T K ≤ sigmaMax T K :=
  LinearMap.singularValues_antitone _ (Nat.zero_le _)

theorem norm_le_sigmaMax_mul (hz : z ∈ K) : ‖T z‖ ≤ sigmaMax T K * ‖z‖ :=
  norm_apply_le (T.domRestrict K) ⟨z, hz⟩

theorem sigmaMin_mul_le_norm (hz : z ∈ K) : sigmaMin T K * ‖z‖ ≤ ‖T z‖ :=
  le_norm_apply (T.domRestrict K) ⟨z, hz⟩

/-- What bounds the lengths of all products from above bounds the largest singular value. -/
theorem sigmaMax_le (hc : 0 ≤ c) (h : ∀ z ∈ K, ‖T z‖ ≤ c * ‖z‖) : sigmaMax T K ≤ c := by
  by_cases hK : 0 < finrank 𝕜 K
  · obtain ⟨z, hz, hTz⟩ := exists_norm_eq (T.domRestrict K) ⟨0, hK⟩
    calc sigmaMax T K = ‖T z‖ := hTz.symm
      _ ≤ c * ‖z‖ := h z z.2
      _ = c := by rw [hz, mul_one]
  · rw [sigmaMax, LinearMap.singularValues_of_finrank_le _ (not_lt.1 hK)]
    exact hc

/-- What bounds them from below bounds the smallest one. -/
theorem le_sigmaMin (hK : 0 < finrank 𝕜 K) (h : ∀ z ∈ K, c * ‖z‖ ≤ ‖T z‖) : c ≤ sigmaMin T K := by
  obtain ⟨z, hz, hTz⟩ := exists_norm_eq (T.domRestrict K) ⟨finrank 𝕜 K - 1, by omega⟩
  calc c = c * ‖z‖ := by rw [hz, mul_one]
    _ ≤ ‖T z‖ := h z z.2
    _ = sigmaMin T K := hTz

/-- **No singular value vanishes** where the operator is injective. -/
theorem sigmaMin_pos (hK : 0 < finrank 𝕜 K) (hinj : ∀ z ∈ K, T z = 0 → z = 0) :
    0 < sigmaMin T K := by
  have hinj' : Function.Injective (T.domRestrict K) :=
    (injective_iff_map_eq_zero _).2 fun z hz => Subtype.ext (hinj z z.2 hz)
  exact (T.domRestrict K).injective_iff_forall_lt_finrank_singularValues_pos.1 hinj' _ (by omega)

end LeastSquares
