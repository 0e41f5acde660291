import LeastSquares.Proofs.Course

/-!
# The residual of the normal equations along a solve

With `N = Aᴴ A + damp² I`, the products of `N` with the directions of a solve stay in the plane
chain of the rotations: the one with `hbar` is a multiple of a turned vector, and the residual of
the normal equations is a multiple of the vector that is left over (`Steered`). The residual is
therefore orthogonal to `N z` for every `z` in the span of the vectors `v`, which makes the
solution the only minimizer in it.

* `Course.steered`: **the directions of a solve after any number of iterations.**
* `Course.norm_residual`: the norm of the residual is the one that the rotations keep.
* `Course.inner_residual`: the residual is orthogonal to what a further change could reach.
* `Course.residual_lt`: **the solution is the only minimizer.**
-/

namespace LeastSquares

open Bidiagonal Submodule

variable {𝕜 E F : Type} [RCLike 𝕜]
  [NormedAddCommGroup E] [InnerProductSpace 𝕜 E] [NormedSpace ℝ E] [FiniteDimensional 𝕜 E]
  [NormedAddCommGroup F] [InnerProductSpace 𝕜 F] [NormedSpace ℝ F] [FiniteDimensional 𝕜 F]
  {A : E →ₗ[𝕜] F} {b : F} {x₀ : E} {damp : ℝ}

/-- **The directions of a solve** after `k` iterations, against two vectors `y` and `ybar` of the
plane chain. -/
structure Steered (A : E →ₗ[𝕜] F) (b : F) (x₀ : E) (damp : ℝ) (S : ℕ → Run ℝ F E) (k : ℕ)
    (y ybar : E) : Prop where
  x_mem : (S k).iterate.x - x₀ ∈ vSpan 𝕜 (processOf S) k
  hbar_mem : (S k).iterate.hbar ∈ vSpan 𝕜 (processOf S) k
  h_sub_mem : (S k).iterate.h - (S k).process.v ∈ vSpan 𝕜 (processOf S) k
  ybar_mem : ybar ∈ vSpan 𝕜 (processOf S) (k + 1)
  norm_ybar : ‖ybar‖ = 1
  v_eq : (S k).process.v = (S k).rotation.sbar • y + (S k).rotation.cbar • ybar
  normal_h : normalMap A damp (S k).iterate.h =
    A.adjoint (A (S k).process.v - (S k).process.alpha • (S k).process.u) +
      ((S k).rotation.alphabar ^ 2 + damp ^ 2) • (S k).process.v
  normal_hbar : normalMap A damp (S k).iterate.hbar =
    ((S k).rotation.rho * (S k).rotation.rhobar) • y
  inner_normal : ∀ z ∈ vSpan 𝕜 (processOf S) k, inner 𝕜 (normalMap A damp z) ybar = 0
  residual_eq : normalResidual A b x₀ damp (S k).iterate.x = (S k).rotation.zetabar • ybar

/-- What the iteration after the `k`-th settles, of the vector that was left over. -/
noncomputable def fixedAt (S : ℕ → Run ℝ F E) (k : ℕ) (ybar : E) : E :=
  (S (k + 1)).rotation.cbar • ybar + (S (k + 1)).rotation.sbar • (S (k + 1)).process.v

/-- What the iteration after the `k`-th leaves over. -/
noncomputable def leftAt (S : ℕ → Run ℝ F E) (k : ℕ) (ybar : E) : E :=
  -(S (k + 1)).rotation.sbar • ybar + (S (k + 1)).rotation.cbar • (S (k + 1)).process.v

namespace Course

variable {S : ℕ → Run ℝ F E} (hS : Course A b x₀ damp S) {k : ℕ} {y ybar : E}

include hS

/-! ### One iteration -/

section

variable (h : Steered A b x₀ damp S k y ybar)

include h

/-- The product with `h` stays among the next two vectors `v`. -/
theorem normal_h_eq : normalMap A damp (S k).iterate.h =
    (S (k + 1)).rotation.rho ^ 2 • (S k).process.v +
      ((S (k + 1)).rotation.rho * (stepOf damp S k).thetanew) • (S (k + 1)).process.v := by
  have hlan := hS.recurs.lanczos k
  simp only [processOf] at hlan
  rw [h.normal_h, hlan, hS.rotation_succ k, Rotation.next_rho_sq, stepOf, Rotation.next_rho_mul]
  module

omit hS in
theorem h_mem : (S k).iterate.h ∈ vSpan 𝕜 (processOf S) (k + 1) := by
  have h1 := vSpan_mono (Nat.le_succ k) h.h_sub_mem
  have h2 : (S k).process.v ∈ vSpan 𝕜 (processOf S) (k + 1) :=
    v_mem_vSpan (P := processOf S) (Nat.lt_succ_self k)
  simpa using add_mem h1 h2

theorem hbar_mem_succ : (S (k + 1)).iterate.hbar ∈ vSpan 𝕜 (processOf S) (k + 1) := by
  rw [hS.hbar_succ]
  exact add_mem (smul_of_tower_mem _ _ (vSpan_mono (Nat.le_succ k) h.hbar_mem)) (h_mem h)

theorem h_sub_mem_succ :
    (S (k + 1)).iterate.h - (S (k + 1)).process.v ∈ vSpan 𝕜 (processOf S) (k + 1) := by
  rw [hS.h_succ, add_sub_cancel_right]
  exact smul_of_tower_mem _ _ (h_mem h)

theorem x_mem_succ : (S (k + 1)).iterate.x - x₀ ∈ vSpan 𝕜 (processOf S) (k + 1) := by
  rw [hS.x_succ, add_sub_right_comm]
  exact add_mem (vSpan_mono (Nat.le_succ k) h.x_mem)
    (smul_of_tower_mem _ _ (hS.hbar_mem_succ h))

theorem inner_ybar_v (hl' : Live (processOf S) (k + 1)) :
    inner 𝕜 ybar (S (k + 1)).process.v = 0 := hS.recurs.inner_vSpan hl' h.ybar_mem

variable (hl : Live (processOf S) k)

include hl

/-- The product with the next `hbar` is a multiple of the turned vector. -/
theorem normal_hbar_succ : normalMap A damp (S (k + 1)).iterate.hbar =
    ((S (k + 1)).rotation.rho * (S (k + 1)).rotation.rhobar) • fixedAt S k ybar := by
  have hs := (hS.sound hl).rotation
  have hne : (S k).rotation.rho * (S k).rotation.rhobar ≠ 0 :=
    (mul_pos hs.rho_pos hs.rhobar_pos).ne'
  -- The divisor in the factor of the old `hbar` cancels against the product with it.
  rw [hS.hbar_succ, map_add, LinearMap.map_smul_of_tower, h.normal_hbar, hS.normal_h_eq h,
    smul_smul, div_mul_cancel₀ _ hne, ← hS.sbar_mul_succ, h.v_eq]
  calc _ = ((S (k + 1)).rotation.rho * ((S k).rotation.cbar * (S (k + 1)).rotation.rho)) • ybar +
        ((S (k + 1)).rotation.rho * ((S (k + 1)).rotation.sbar * (S (k + 1)).rotation.rhobar)) •
          (S (k + 1)).process.v := by module
    _ = _ := by rw [← hS.cbar_mul_succ, fixedAt]; module

/-- **The residual of the normal equations** after one more iteration. -/
theorem residual_succ_eq : normalResidual A b x₀ damp (S (k + 1)).iterate.x =
    (S (k + 1)).rotation.zetabar • leftAt S k ybar := by
  have hrho := (mul_pos (hS.rho_pos hl) (hS.rhobar_pos hl)).ne'
  rw [hS.x_succ, normalResidual_add, h.residual_eq, LinearMap.map_smul_of_tower,
    hS.normal_hbar_succ h hl, smul_smul, div_mul_cancel₀ _ hrho, hS.zeta_succ, hS.zetabar_succ,
    fixedAt]
  calc _ = ((S k).rotation.zetabar * (1 - (S (k + 1)).rotation.cbar ^ 2)) • ybar -
        ((S k).rotation.zetabar * (S (k + 1)).rotation.cbar * (S (k + 1)).rotation.sbar) •
          (S (k + 1)).process.v := by module
    _ = _ := by rw [← hS.unit_succ k, leftAt]; module

/-- The product with the next `h`, as the iteration after it will find it. -/
theorem normal_h_succ (hb : (S (k + 1)).process.beta ≠ 0) :
    normalMap A damp (S (k + 1)).iterate.h =
      A.adjoint (A (S (k + 1)).process.v - (S (k + 1)).process.alpha • (S (k + 1)).process.u) +
        ((S (k + 1)).rotation.alphabar ^ 2 + damp ^ 2) • (S (k + 1)).process.v := by
  have hrho := (hS.rho_pos hl).ne'
  have hmul : (S (k + 1)).rotation.rho * (stepOf damp S k).thetanew =
      (S (k + 1)).process.alpha * (S (k + 1)).process.beta := by
    rw [hS.rotation_succ k]; exact Rotation.next_rho_mul _ _ _ _
  have hsq : (S (k + 1)).rotation.alphabar ^ 2 + (stepOf damp S k).thetanew ^ 2 =
      (S (k + 1)).process.alpha ^ 2 := by
    rw [hS.rotation_succ k]; exact Rotation.next_alphabar_sq _ _ _ _
  have hu : A.adjoint (S (k + 1)).process.u = (S (k + 1)).process.beta • (S k).process.v +
      (S (k + 1)).process.alpha • (S (k + 1)).process.v := hS.recurs.adjoint_u_succ hb
  have hquot : -(stepOf damp S k).thetanew / (S (k + 1)).rotation.rho *
      (S (k + 1)).rotation.rho = -(stepOf damp S k).thetanew := div_mul_cancel₀ _ hrho
  have hh : normalMap A damp (S (k + 1)).iterate.h =
      -((S (k + 1)).rotation.rho * (stepOf damp S k).thetanew) • (S k).process.v -
        (stepOf damp S k).thetanew ^ 2 • (S (k + 1)).process.v +
        (A.adjoint (A (S (k + 1)).process.v) + damp ^ 2 • (S (k + 1)).process.v) := by
    rw [hS.h_succ, map_add, LinearMap.map_smul_of_tower, hS.normal_h_eq h, normalMap_apply, pow_two,
      mul_smul (S (k + 1)).rotation.rho, mul_smul (S (k + 1)).rotation.rho, ← smul_add, smul_smul,
      hquot]
    module
  rw [hh, hmul, map_sub, LinearMap.map_smul_of_tower, hu, eq_sub_of_add_eq hsq]
  module

omit h in
theorem inner_normal_v_succ (hl' : Live (processOf S) (k + 1)) {z : E}
    (hz : z ∈ vSpan 𝕜 (processOf S) k) :
    inner 𝕜 (normalMap A damp z) (S (k + 1)).process.v = 0 := by
  refine hS.recurs.inner_vSpan hl' ?_
  rw [normalMap_apply]
  exact add_mem (hS.recurs.normal_mem (fun j hj => hl.mono hj.le) hz)
    (smul_of_tower_mem _ _ (vSpan_mono (Nat.le_succ k) hz))

/-- The product with anything reached so far is orthogonal to the vector that is left over. -/
theorem inner_normal_succ (hl' : Live (processOf S) (k + 1)) {z : E}
    (hz : z ∈ vSpan 𝕜 (processOf S) (k + 1)) :
    inner 𝕜 (normalMap A damp z) (leftAt S k ybar) = 0 := by
  -- The span grows by one vector only, and `hbar` is new in it.
  have hold : ∀ z ∈ vSpan 𝕜 (processOf S) k,
      inner 𝕜 (normalMap A damp z) (leftAt S k ybar) = 0 := by
    intro z hz
    exact inner_combination (h.inner_normal z hz) (hS.inner_normal_v_succ hl hl' hz) _ _
  have hbar : inner 𝕜 (normalMap A damp (S (k + 1)).iterate.hbar) (leftAt S k ybar) = 0 := by
    have hturn : inner 𝕜 (fixedAt S k ybar) (leftAt S k ybar) = 0 :=
      inner_turned h.norm_ybar (.inl (hS.norm_v hl')) (hS.inner_ybar_v h hl')
    rw [hS.normal_hbar_succ h hl, inner_real_smul_left, hturn, mul_zero]
  have hv : (S (k + 1)).iterate.hbar - (S k).process.v ∈ vSpan 𝕜 (processOf S) k := by
    rw [hS.hbar_succ, add_sub_assoc]
    exact add_mem (smul_of_tower_mem _ _ h.hbar_mem) h.h_sub_mem
  have hle : vSpan 𝕜 (processOf S) (k + 1) ≤ (𝕜 ∙ leftAt S k ybar)ᗮ.comap (normalMap A damp) := by
    refine vSpan_le fun j hj => mem_orthogonal_singleton_iff_inner_left.2 ?_
    rcases Nat.lt_succ_iff_lt_or_eq.1 hj with hj' | rfl
    · exact hold _ (v_mem_vSpan hj')
    -- The last vector differs from the next `hbar` by what was reached before.
    · have hsub := hold _ hv
      rw [map_sub, inner_sub_left, hbar, zero_sub, neg_eq_zero] at hsub
      exact hsub
  exact mem_orthogonal_singleton_iff_inner_left.1 (hle hz)

/-- **One iteration after which no scalar has vanished keeps the directions.** -/
theorem steered_succ (hl' : Live (processOf S) (k + 1)) :
    Steered A b x₀ damp S (k + 1) (fixedAt S k ybar) (leftAt S k ybar) := by
  have hu := hS.unit_succ k
  refine
    { x_mem := hS.x_mem_succ h
      hbar_mem := hS.hbar_mem_succ h
      h_sub_mem := hS.h_sub_mem_succ h
      ybar_mem := ?_
      norm_ybar := norm_turned (.inl h.norm_ybar) (.inl (hS.norm_v hl')) (hS.inner_ybar_v h hl')
        (by linear_combination hu)
      v_eq := ?_
      normal_h := hS.normal_h_succ h hl (hl' _ le_rfl).2
      normal_hbar := hS.normal_hbar_succ h hl
      inner_normal := ?_
      residual_eq := hS.residual_succ_eq h hl }
  · exact add_mem (smul_of_tower_mem _ _ (vSpan_mono (Nat.le_succ _) h.ybar_mem))
      (smul_of_tower_mem _ _ (v_mem_vSpan (P := processOf S) (Nat.lt_succ_self _)))
  · calc _ = (1 : ℝ) • (S (k + 1)).process.v := (one_smul ℝ _).symm
      _ = _ := by rw [← hu, fixedAt, leftAt]; module
  · intro z hz
    exact hS.inner_normal_succ h hl hl' hz

end

/-! ### Any number of iterations -/

theorem steered_zero (hl : Live (processOf S) 0) : Steered A b x₀ damp S 0 0 (S 0).process.v := by
  have hv := hS.norm_v hl
  have hmem : (S 0).process.v ∈ vSpan 𝕜 (processOf S) 1 :=
    v_mem_vSpan (P := processOf S) Nat.zero_lt_one
  have h1 := hS.iterate_zero
  have h2 := hS.rotation_zero
  refine
    { x_mem := by simp [h1]
      hbar_mem := by simp [h1]
      h_sub_mem := by simp [h1]
      ybar_mem := hmem
      norm_ybar := hv
      v_eq := by simp [h2, Rotation.initial]
      normal_h := ?_
      normal_hbar := by simp [h1]
      inner_normal := ?_
      residual_eq := ?_ }
  · have hα : (S 0).rotation.alphabar = (S 0).process.alpha := by rw [h2]; rfl
    rw [h1, normalMap_apply, hα, map_sub, LinearMap.map_smul_of_tower, ← hS.start_v]
    module
  · intro z hz
    have hz0 : z = 0 := by simpa [vSpan] using hz
    rw [hz0, map_zero, inner_zero_left]
  · have hζ : (S 0).rotation.zetabar = (S 0).process.alpha * (S 0).process.beta := by rw [h2]; rfl
    rw [h1, normalResidual_start, ← hS.start_u, LinearMap.map_smul_of_tower, ← hS.start_v,
      smul_smul, hζ, mul_comm]

/-- **The directions of a solve** after any number of iterations. -/
theorem steered (hl : Live (processOf S) k) : ∃ y ybar, Steered A b x₀ damp S k y ybar := by
  induction k with
  | zero => exact ⟨_, _, hS.steered_zero hl⟩
  | succ k ih =>
    have hl' := hl.mono (Nat.le_succ k)
    obtain ⟨y, ybar, h⟩ := ih hl'
    exact ⟨_, _, hS.steered_succ h hl' hl⟩

section

variable (hl : Live (processOf S) k)

include hl

theorem x_sub_mem : (S (k + 1)).iterate.x - x₀ ∈ vSpan 𝕜 (processOf S) (k + 1) := by
  obtain ⟨y, ybar, h⟩ := hS.steered hl
  exact hS.x_mem_succ h

/-- **The residual vanishes with a scalar of the process.** -/
theorem residual_eq_zero (h0 : (S (k + 1)).process.alpha = 0 ∨ (S (k + 1)).process.beta = 0) :
    normalResidual A b x₀ damp (S (k + 1)).iterate.x = 0 := by
  obtain ⟨y, ybar, h⟩ := hS.steered hl
  rw [hS.residual_succ_eq h hl, hS.zetabar_eq_zero hl h0, zero_smul]

/-- **The norm of the residual is the one that the rotations keep.** -/
theorem norm_residual :
    ‖normalResidual A b x₀ damp (S (k + 1)).iterate.x‖ = (S (k + 1)).normar := by
  rw [hS.normar_succ]
  rcases hl.succ_or_eq_zero with hl' | h0
  · obtain ⟨y, ybar, h⟩ := hS.steered hl'
    rw [h.residual_eq, norm_smul, h.norm_ybar, mul_one, Real.norm_eq_abs]
  · rw [hS.residual_eq_zero hl h0, hS.zetabar_eq_zero hl h0, norm_zero, abs_zero]

/-- **The residual is orthogonal to what a further change could reach.** -/
theorem inner_residual {z : E} (hz : z ∈ vSpan 𝕜 (processOf S) (k + 1)) :
    inner 𝕜 (normalMap A damp z) (normalResidual A b x₀ damp (S (k + 1)).iterate.x) = 0 := by
  rcases hl.succ_or_eq_zero with hl' | h0
  · obtain ⟨y, ybar, h⟩ := hS.steered hl'
    rw [h.residual_eq, inner_real_smul_right, h.inner_normal z hz, mul_zero]
  · rw [hS.residual_eq_zero hl h0, inner_zero_right]

/-- **The solution is the only minimizer** of the residual among what could be reached. -/
theorem residual_lt {y : E} (hy : y - x₀ ∈ vSpan 𝕜 (processOf S) (k + 1))
    (hne : y ≠ (S (k + 1)).iterate.x) :
    ‖normalResidual A b x₀ damp (S (k + 1)).iterate.x‖ < ‖normalResidual A b x₀ damp y‖ := by
  obtain ⟨z, rfl⟩ : ∃ z, y = (S (k + 1)).iterate.x + z := ⟨y - (S (k + 1)).iterate.x, by abel⟩
  have hz : z ∈ vSpan 𝕜 (processOf S) (k + 1) := by
    have h := sub_mem hy (hS.x_sub_mem hl)
    rwa [sub_sub_sub_cancel_right, add_sub_cancel_left] at h
  have hz0 : z ≠ 0 := by rintro rfl; exact hne (add_zero _)
  -- No change within reach is lost on the normal equations, even without damping.
  have hrange : z ∈ A.adjoint.range :=
    hS.recurs.vSpan_le_range (fun j hj => hl.mono (Nat.le_of_lt_succ hj)) hz
  have hN : 0 < ‖normalMap A damp z‖ :=
    norm_pos_iff.2 fun h => hz0 (eq_zero_of_normalMap hrange h)
  have hsq : ‖normalResidual A b x₀ damp ((S (k + 1)).iterate.x + z)‖ ^ 2 =
      ‖normalResidual A b x₀ damp (S (k + 1)).iterate.x‖ ^ 2 + ‖normalMap A damp z‖ ^ 2 := by
    have ho := inner_eq_zero_symm.1 (hS.inner_residual hl hz)
    rw [normalResidual_add, sub_eq_add_neg, norm_add_of_orthogonal (𝕜 := 𝕜), norm_neg]
    rw [inner_neg_right, ho, neg_zero]
  refine lt_of_pow_lt_pow_left₀ 2 (norm_nonneg _) ?_
  rw [hsq]
  exact lt_add_of_pos_right _ (pow_pos hN 2)

end

end Course

end LeastSquares
