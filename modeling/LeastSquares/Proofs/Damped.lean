import Mathlib.Analysis.InnerProductSpace.ProdL2
import LeastSquares.Proofs.Course
import LeastSquares.Proofs.Parts

/-!
# The damped residual along a solve

The damped problem is the least-squares problem of `A` stacked on `damp I`, whose residual at `x` is
`b - A x` stacked on `-damp (x - x₀)`. A solve never forms it; the estimate of its norm follows the
three chains of rotations. What it follows is the residual as a sum of three orthogonal parts
(`Split`): one settled for good (its squared norm is `d`), one in the lagged chain (of length
`gap`), and one along the last vector of the process (of length `betadd`).

* `Course.split`: **the three parts after any number of iterations.**
* `Course.normr_sq`: **the estimate of the residual is its norm.**
-/

namespace LeastSquares

open Bidiagonal Submodule

variable {𝕜 E F : Type} [RCLike 𝕜] [NormedAddCommGroup E] [InnerProductSpace 𝕜 E]
  [NormedAddCommGroup F] [InnerProductSpace 𝕜 F]

/-! ### Stacked vectors -/

/-- A vector of `F` stacked on one of `E`. -/
def stacked (y : F) (z : E) : WithLp 2 (F × E) := WithLp.toLp 2 (y, z)

theorem norm_stacked_sq (y : F) (z : E) : ‖stacked y z‖ ^ 2 = ‖y‖ ^ 2 + ‖z‖ ^ 2 :=
  WithLp.prod_norm_sq_eq_of_L2 _

theorem norm_stacked_left (y : F) : ‖stacked y (0 : E)‖ = ‖y‖ := WithLp.norm_toLp_fst 2 F E y

theorem norm_stacked_right (z : E) : ‖stacked (0 : F) z‖ = ‖z‖ := WithLp.norm_toLp_snd 2 F E z

theorem inner_stacked (y y' : F) (z z' : E) :
    inner 𝕜 (stacked y z) (stacked y' z') = inner 𝕜 y y' + inner 𝕜 z z' :=
  WithLp.prod_inner_apply _ _

theorem stacked_add_left (y y' : F) (z : E) : stacked (y + y') z = stacked y 0 + stacked y' z := by
  have h : stacked (y + y') (0 + z) = stacked y 0 + stacked y' z := rfl
  rwa [zero_add] at h

/-! ### The damped problem -/

variable [NormedSpace ℝ E]

/-- **The operator of the damped problem**, `A` stacked on `damp I`. -/
noncomputable def damped (A : E →ₗ[𝕜] F) (damp : ℝ) : E →ₗ[𝕜] WithLp 2 (F × E) where
  toFun z := stacked (A z) (damp • z)
  map_add' z z' := by rw [map_add, smul_add]; rfl
  map_smul' a z := by rw [map_smul, smul_comm]; rfl

/-- **The damped residual.** -/
noncomputable def dampedResidual (A : E →ₗ[𝕜] F) (b : F) (x₀ : E) (damp : ℝ) (x : E) :
    WithLp 2 (F × E) :=
  stacked (b - A x) (-damp • (x - x₀))

variable {A : E →ₗ[𝕜] F} {b : F} {x₀ : E} {damp : ℝ}

theorem damped_apply (z : E) : damped A damp z = stacked (A z) (damp • z) := rfl

theorem dampedResidual_add (x z : E) :
    dampedResidual A b x₀ damp (x + z) = dampedResidual A b x₀ damp x - damped A damp z := by
  rw [damped_apply, dampedResidual, dampedResidual, map_add, ← sub_sub, add_sub_right_comm,
    smul_add, neg_smul damp z, ← sub_eq_add_neg]
  rfl

theorem norm_dampedResidual_sq (x : E) : ‖dampedResidual A b x₀ damp x‖ ^ 2 =
    ‖b - A x‖ ^ 2 + damp ^ 2 * ‖x - x₀‖ ^ 2 := by
  rw [dampedResidual, norm_stacked_sq, norm_smul, norm_neg, mul_pow, Real.norm_eq_abs, sq_abs]

variable [NormedSpace ℝ F]

theorem damped_smul (a : ℝ) (z : E) : damped A damp (a • z) = a • damped A damp z := by
  rw [damped_apply, LinearMap.map_smul_of_tower, smul_comm]; rfl

theorem stacked_eq (y : F) (z : E) (a c : ℝ) :
    stacked (a • y) (c • z) = a • stacked y (0 : E) + c • stacked (0 : F) z := by
  simp only [stacked, ← WithLp.toLp_smul, ← WithLp.toLp_add, Prod.smul_mk, Prod.mk_add_mk,
    smul_zero, add_zero, zero_add]

theorem stacked_smul_left (a : ℝ) (y : F) : stacked (a • y) (0 : E) = a • stacked y 0 := by
  have h : stacked (a • y) (a • (0 : E)) = a • stacked y 0 := rfl
  rwa [smul_zero] at h

/-! ### What the vectors of the process reach -/

/-- **The reach of a process**: the span of the first `k + 1` vectors `u` and the first `k` vectors
`v`, each stacked on or under zero. -/
def reach (𝕜 : Type) [RCLike 𝕜] [InnerProductSpace 𝕜 E] [InnerProductSpace 𝕜 F]
    (P : ℕ → Bidiagonal ℝ F E) (k : ℕ) : Submodule 𝕜 (WithLp 2 (F × E)) :=
  span 𝕜 ((fun j => stacked (P j).u 0) '' Set.Iio (k + 1) ∪
    (fun j => stacked 0 (P j).v) '' Set.Iio k)

section

omit [NormedSpace ℝ E] [NormedSpace ℝ F]

variable {P : ℕ → Bidiagonal ℝ F E} {j k : ℕ}

theorem u_mem_reach (h : j < k + 1) : stacked (P j).u 0 ∈ reach 𝕜 P k :=
  subset_span (.inl ⟨j, h, rfl⟩)

theorem v_mem_reach (h : j < k) : stacked 0 (P j).v ∈ reach 𝕜 P k :=
  subset_span (.inr ⟨j, h, rfl⟩)

theorem reach_mono (h : j ≤ k) : reach 𝕜 P j ≤ reach 𝕜 P k :=
  span_mono (Set.union_subset_union (Set.image_mono (Set.Iio_subset_Iio (Nat.succ_le_succ h)))
    (Set.image_mono (Set.Iio_subset_Iio h)))

/-- What a vector is orthogonal to, if it is orthogonal to all vectors of the process. -/
theorem inner_reach {z w : WithLp 2 (F × E)} (hz : z ∈ reach 𝕜 P k)
    (hu : ∀ j ≤ k, inner 𝕜 (stacked (P j).u 0) w = 0)
    (hv : ∀ j < k, inner 𝕜 (stacked 0 (P j).v) w = 0) : inner 𝕜 z w = 0 := by
  have hle : reach 𝕜 P k ≤ (𝕜 ∙ w)ᗮ := by
    refine span_le.2 ?_
    rintro _ (⟨j, hj, rfl⟩ | ⟨j, hj, rfl⟩)
    · exact mem_orthogonal_singleton_iff_inner_left.2 (hu j (Nat.le_of_lt_succ hj))
    · exact mem_orthogonal_singleton_iff_inner_left.2 (hv j hj)
  exact mem_orthogonal_singleton_iff_inner_left.1 (hle hz)

end

variable [FiniteDimensional 𝕜 E] [FiniteDimensional 𝕜 F]

section

variable {r : F} {P : ℕ → Bidiagonal ℝ F E} {k : ℕ} (hP : Recurs A r P) (hl : Live P k)

include hP hl

theorem inner_reach_v {z : WithLp 2 (F × E)} (hz : z ∈ reach 𝕜 P k) :
    inner 𝕜 z (stacked 0 (P k).v) = 0 := by
  refine inner_reach hz ?_ ?_
  · intro j _
    rw [inner_stacked, inner_zero_right, inner_zero_left, add_zero]
  · intro j hj
    rw [inner_stacked, inner_zero_left, (hP.orthogonalAt hl).v j hj, add_zero]

theorem inner_reach_u {z : WithLp 2 (F × E)} (hz : z ∈ reach 𝕜 P k) :
    inner 𝕜 z (stacked (P (k + 1)).u 0) = 0 := by
  refine inner_reach hz ?_ ?_
  · intro j hj
    rw [inner_stacked, inner_zero_left, hP.inner_u_next hl hj, add_zero]
  · intro j _
    rw [inner_stacked, inner_zero_left, inner_zero_right, add_zero]

end

/-! ### The parts of the residual -/

/-- The directions of the three parts after the iteration that follows the `k`-th. -/
noncomputable def nextParts (damp : ℝ) (S : ℕ → Run ℝ F E) (k : ℕ) (p : Parts (WithLp 2 (F × E))) :
    Parts (WithLp 2 (F × E)) :=
  p.next (S k).residual (stepOf damp S k) (stacked 0 (S k).process.v)
    (stacked (S (k + 1)).process.u 0)

/-- **The directions of the three parts** after any number of iterations. -/
noncomputable def partsOf (damp : ℝ) (S : ℕ → Run ℝ F E) : ℕ → Parts (WithLp 2 (F × E))
  | 0 => ⟨stacked (S 0).process.u 0, 0, 0⟩
  | k + 1 => nextParts damp S k (partsOf damp S k)

/-- **The residual is the sum of the three parts** after `k` iterations, and how the products with
the directions of the solve lie in them. -/
structure Split (A : E →ₗ[𝕜] F) (b : F) (x₀ : E) (damp : ℝ) (S : ℕ → Run ℝ F E) (k : ℕ)
    (p : Parts (WithLp 2 (F × E))) : Prop where
  within : p.Within (reach 𝕜 (processOf S) k)
  orthogonal : p.Orthogonal 𝕜
  norm_last : ‖p.last‖ = 1 ∨ (S k).process.beta = 0 ∧ (S k).residual.betadd = 0
  norm_lagged : ‖p.lagged‖ = 1 ∨ (S k).rotation.sbar = 0 ∧ (S k).residual.gap (S k).rotation = 0
  norm_settled : ‖p.settled‖ ^ 2 = (S k).residual.d
  damped_h : damped A damp (S k).iterate.h = (S k).rotation.alphabar • p.last +
    (damped A damp (S k).process.v - (S k).process.alpha • stacked (S k).process.u 0)
  damped_hbar : (S k).residual.rhodold • damped A damp (S k).iterate.hbar =
    ((S k).rotation.rho * (S k).rotation.rhobar) • p.lagged
  residual_eq : dampedResidual A b x₀ damp (S k).iterate.x =
    (S k).residual.gap (S k).rotation • p.lagged + p.settled + (S k).residual.betadd • p.last

namespace Course

variable {S : ℕ → Run ℝ F E} (hS : Course A b x₀ damp S) {k : ℕ} {p : Parts (WithLp 2 (F × E))}

include hS

theorem split_zero (hl : Live (processOf S) 0) : Split A b x₀ damp S 0 (partsOf damp S 0) := by
  have hu : ‖(S 0).process.u‖ = 1 := hS.recurs.norm_u 0 (hl 0 le_rfl).2
  have h1 := hS.iterate_zero
  have h2 := hS.rotation_zero
  have h3 := hS.residual_zero
  refine
    { within := ⟨u_mem_reach (P := processOf S) Nat.zero_lt_one, zero_mem _, zero_mem _⟩
      orthogonal := ⟨inner_zero_left _, inner_zero_left _, inner_zero_left _⟩
      norm_last := .inl ((norm_stacked_left _).trans hu)
      norm_lagged := .inr ?_
      norm_settled := ?_
      damped_h := ?_
      damped_hbar := ?_
      residual_eq := ?_ }
  · simp [h2, h3, Rotation.initial, ResidualEstimate.initial, ResidualEstimate.gap]
  · simp [h3, partsOf, ResidualEstimate.initial]
  · rw [h1, h2]
    simp [partsOf, Rotation.initial]
  · rw [h1, map_zero, smul_zero]
    simp [partsOf]
  · have hx : dampedResidual A b x₀ damp x₀ = (S 0).process.beta • stacked (S 0).process.u 0 := by
      rw [dampedResidual, sub_self, smul_zero, ← hS.start_u, stacked_smul_left]
    rw [h1, h3, hx]
    simp [partsOf, ResidualEstimate.initial]

/-! ### One iteration -/

/-- What the product with a vector `v` brings that the process has not met. -/
theorem damped_v_sub (k : ℕ) :
    damped A damp (S k).process.v - (S k).process.alpha • stacked (S k).process.u 0 =
      (S (k + 1)).process.beta • stacked (S (k + 1)).process.u 0 +
        damp • stacked 0 (S k).process.v := by
  have hf := hS.recurs.apply_v k
  simp only [processOf] at hf
  rw [damped_apply, hf, stacked_add_left, stacked_smul_left, add_sub_cancel_left, stacked_eq]

section

variable (h : Split A b x₀ damp S k p) (hl : Live (processOf S) k)

include h hl

theorem fresh : p.Fresh 𝕜 (stepOf damp S k) (stacked 0 (S k).process.v)
    (stacked (S (k + 1)).process.u 0) where
  norm_last := h.norm_last.resolve_right fun h0 => (hl k le_rfl).2 h0.1
  norm_v := (norm_stacked_right _).trans (hS.recurs.norm_v k (hl k le_rfl).1)
  norm_w := by
    by_cases hb : (S (k + 1)).process.beta = 0
    · exact .inr (hS.s_eq_zero hl hb)
    · exact .inl ((norm_stacked_left _).trans (hS.recurs.norm_u (k + 1) hb))
  avoids_v := ⟨inner_reach_v hS.recurs hl h.within.last, inner_reach_v hS.recurs hl h.within.lagged,
    inner_reach_v hS.recurs hl h.within.settled⟩
  avoids_w := ⟨inner_reach_u hS.recurs hl h.within.last, inner_reach_u hS.recurs hl h.within.lagged,
    inner_reach_u hS.recurs hl h.within.settled⟩
  inner_v_w := by rw [inner_stacked, inner_zero_left, inner_zero_right, add_zero]
  hat := Rotation.hat_unit _ _ _ _
  fold := Rotation.fold_unit _ _ _ _

omit hl in
/-- The product with `h` is a multiple of the direction that is handed over. -/
theorem damped_h_eq : damped A damp (S k).iterate.h = (S (k + 1)).rotation.rho •
    p.turned (stepOf damp S k) (stacked 0 (S k).process.v) (stacked (S (k + 1)).process.u 0) := by
  have h1 : (stepOf damp S k).chat * ((stepOf damp S k).c * (S (k + 1)).rotation.rho) =
      (S k).rotation.alphabar := by
    rw [hS.rotation_succ k]; exact Rotation.chat_mul_c_mul_rho _ _ _ _
  have h2 : (stepOf damp S k).shat * ((stepOf damp S k).c * (S (k + 1)).rotation.rho) = damp := by
    rw [hS.rotation_succ k]; exact Rotation.shat_mul_c_mul_rho _ _ _ _
  have h3 : damp • stacked 0 (S k).process.v = ((stepOf damp S k).shat *
      ((stepOf damp S k).c * (S (k + 1)).rotation.rho)) • stacked (0 : F) (S k).process.v := by
    rw [h2]
  rw [h.damped_h, hS.damped_v_sub, h3, ← h1, ← hS.s_mul_rho, Parts.turned, Parts.folded]
  module

/-- The product with the next `h`, as the iteration after it will find it. -/
theorem damped_h_succ : damped A damp (S (k + 1)).iterate.h = (S (k + 1)).rotation.alphabar •
      (nextParts damp S k p).last +
    (damped A damp (S (k + 1)).process.v -
      (S (k + 1)).process.alpha • stacked (S (k + 1)).process.u 0) := by
  have hrho := (hS.rho_pos hl).ne'
  have hfold := (hS.fresh h hl).fold
  have hα : (S (k + 1)).rotation.alphabar = (stepOf damp S k).c * (S (k + 1)).process.alpha := by
    rw [hS.rotation_succ k]; rfl
  have hθ : (stepOf damp S k).thetanew = (stepOf damp S k).s * (S (k + 1)).process.alpha := rfl
  have hh : damped A damp (S (k + 1)).iterate.h = damped A damp (S (k + 1)).process.v -
      (stepOf damp S k).thetanew • p.turned (stepOf damp S k) (stacked 0 (S k).process.v)
        (stacked (S (k + 1)).process.u 0) := by
    rw [hS.h_succ, map_add, damped_smul, hS.damped_h_eq h, smul_smul, div_mul_cancel₀ _ hrho]
    module
  set a := p.folded (stepOf damp S k) (stacked 0 (S k).process.v)
  set w : WithLp 2 (F × E) := stacked (S (k + 1)).process.u 0
  -- Write `alpha` as the sum of its two parts, along the last direction and the turned one.
  have hw : (S (k + 1)).process.alpha • w = ((S (k + 1)).process.alpha *
      ((stepOf damp S k).c ^ 2 + (stepOf damp S k).s ^ 2)) • w := by rw [hfold, mul_one]
  rw [hh, hw, hα, hθ, Parts.turned, nextParts, Parts.next]
  module

/-- The product with the next `hbar` is a multiple of the next lagged direction. -/
theorem damped_hbar_succ :
    (S (k + 1)).residual.rhodold • damped A damp (S (k + 1)).iterate.hbar =
      ((S (k + 1)).rotation.rho * (S (k + 1)).rotation.rhobar) • (nextParts damp S k p).lagged := by
  have hs := hS.sound hl
  have hne : (S k).rotation.rho * (S k).rotation.rhobar ≠ 0 :=
    (mul_pos hs.rotation.rho_pos hs.rotation.rhobar_pos).ne'
  have hd := hs.residual.rhodold_pos.ne'
  have hr : (S (k + 1)).residual.rhodold =
      ((S k).residual.tilde (stepOf damp S k)).c * (S (k + 1)).rotation.rhobar := by
    rw [hS.residual_succ k]; rfl
  have hcs : ((S k).residual.tilde (stepOf damp S k)).c *
      ((S k).rotation.sbar * (S (k + 1)).rotation.rho) =
        ((S k).residual.tilde (stepOf damp S k)).s * (S k).residual.rhodold := by
    rw [← hS.thetabar_eq]; exact ResidualEstimate.tilde_c_mul_thetabar _ _
  have hbar : damped A damp (S k).iterate.hbar = ((S k).rotation.rho * (S k).rotation.rhobar /
      (S k).residual.rhodold) • p.lagged := by
    rw [div_eq_inv_mul, mul_smul, ← h.damped_hbar, inv_smul_smul₀ hd]
  -- The lagged rotation takes `thetabar` to its sine, whatever the old directions were.
  have hcoef : ((S k).residual.tilde (stepOf damp S k)).c * (S (k + 1)).rotation.rhobar *
      (-((S k).rotation.sbar * (S (k + 1)).rotation.rho) * (S (k + 1)).rotation.rho /
        ((S k).rotation.rho * (S k).rotation.rhobar)) *
          ((S k).rotation.rho * (S k).rotation.rhobar / (S k).residual.rhodold) =
      -((S (k + 1)).rotation.rho * (S (k + 1)).rotation.rhobar *
        ((S k).residual.tilde (stepOf damp S k)).s) := by
    rw [mul_assoc, div_mul_div_cancel₀ hne]
    field_simp
    linear_combination -((S (k + 1)).rotation.rhobar * (S (k + 1)).rotation.rho) * hcs
  rw [hS.hbar_succ, map_add, damped_smul, hbar, hS.damped_h_eq h, hr, smul_add, smul_smul,
    smul_smul, hcoef, nextParts, Parts.next]
  module

/-- **The residual after one more iteration**, split along the next directions. -/
theorem dampedResidual_succ : dampedResidual A b x₀ damp (S (k + 1)).iterate.x =
    (S (k + 1)).residual.gap (S (k + 1)).rotation • (nextParts damp S k p).lagged +
      (nextParts damp S k p).settled +
      (S (k + 1)).residual.betadd • (nextParts damp S k p).last := by
  have hs := hS.sound hl
  have hrho := (mul_pos (hS.rho_pos hl) (hS.rhobar_pos hl)).ne'
  have hr : 0 < (S (k + 1)).residual.rhodold := by
    rw [hS.residual_succ k, hS.rotation_succ k]
    exact hs.residual.next_rhodold_pos _ _ _ hs.rotation hs.alphabar_pos
  have hgap : (S (k + 1)).residual.gap (S (k + 1)).rotation =
      -((S k).residual.tilde (stepOf damp S k)).s * (S k).residual.gap (S k).rotation +
        ((S k).residual.tilde (stepOf damp S k)).c * (S k).residual.betahat (stepOf damp S k) -
        (S (k + 1)).rotation.zeta / (S (k + 1)).residual.rhodold := by
    rw [hS.residual_succ k, hS.rotation_succ k]
    exact hs.residual.next_gap _ _ _ hs.rotation hs.alphabar_pos
  have hsettle : ((S k).residual.tilde (stepOf damp S k)).c * (S k).residual.gap (S k).rotation +
      ((S k).residual.tilde (stepOf damp S k)).s * (S k).residual.betahat (stepOf damp S k) = 0 :=
    hs.residual.settled _ _ _
  have hsum : (S k).residual.gap (S k).rotation • p.lagged + p.settled +
      (S k).residual.betadd • p.last = (-((S k).residual.tilde (stepOf damp S k)).s *
        (S k).residual.gap (S k).rotation + ((S k).residual.tilde (stepOf damp S k)).c *
          (S k).residual.betahat (stepOf damp S k)) • (nextParts damp S k p).lagged +
      (nextParts damp S k p).settled +
      (S (k + 1)).residual.betadd • (nextParts damp S k p).last := by
    rw [hS.residual_succ]
    exact Parts.next_sum _ (hS.fresh h hl).hat (hS.fresh h hl).fold hsettle _
  -- The change of the solution takes its share from the lagged part alone.
  have hbar : (((S (k + 1)).rotation.zeta /
      ((S (k + 1)).rotation.rho * (S (k + 1)).rotation.rhobar)) •
        damped A damp (S (k + 1)).iterate.hbar) =
      ((S (k + 1)).rotation.zeta / (S (k + 1)).residual.rhodold) •
        (nextParts damp S k p).lagged := by
    have h1 := congrArg (fun z => ((S (k + 1)).rotation.zeta /
      ((S (k + 1)).rotation.rho * (S (k + 1)).rotation.rhobar) /
        (S (k + 1)).residual.rhodold) • z) (hS.damped_hbar_succ h hl)
    simp only [smul_smul] at h1
    rwa [div_mul_cancel₀ _ hr.ne', div_right_comm, div_mul_cancel₀ _ hrho] at h1
  rw [hS.x_succ, dampedResidual_add, damped_smul, hbar, h.residual_eq, hsum, hgap]
  module

/-- **One iteration keeps the parts**, also one in which a scalar of the process vanishes. -/
theorem split_succ : Split A b x₀ damp S (k + 1) (nextParts damp S k p) := by
  have hf := hS.fresh h hl
  have hv : stacked 0 (S k).process.v ∈ reach 𝕜 (processOf S) (k + 1) :=
    v_mem_reach (P := processOf S) (Nat.lt_succ_self k)
  have hw : stacked (S (k + 1)).process.u 0 ∈ reach 𝕜 (processOf S) (k + 1) :=
    u_mem_reach (P := processOf S) (Nat.lt_succ_self (k + 1))
  -- Before the first iteration the lagged direction is zero, and then its rotation leaves it out.
  have hlagged : ‖p.lagged‖ = 1 ∨ ((S k).residual.tilde (stepOf damp S k)).s = 0 := by
    refine h.norm_lagged.imp_right fun h0 => ?_
    have hs := (S k).residual.tilde_s_mul (stepOf damp S k)
    rw [hS.thetabar_eq, h0.1, zero_mul] at hs
    exact (mul_eq_zero.1 hs).resolve_right
      (ResidualEstimate.tilde_r_pos (hS.sound hl).residual _).ne'
  refine
    { within := (h.within.mono (reach_mono (Nat.le_succ k))).next _ hv hw
      orthogonal := Parts.next_orthogonal _ hf h.orthogonal
      norm_last := ?_
      norm_lagged := .inl (Parts.norm_next_lagged _ hf h.orthogonal hlagged)
      norm_settled := ?_
      damped_h := hS.damped_h_succ h hl
      damped_hbar := hS.damped_hbar_succ h hl
      residual_eq := hS.dampedResidual_succ h hl }
  · by_cases hb : (S (k + 1)).process.beta = 0
    · have hbetadd : (S (k + 1)).residual.betadd =
          -(stepOf damp S k).s * ((stepOf damp S k).chat * (S k).residual.betadd) := by
        rw [hS.residual_succ k]; rfl
      exact .inr ⟨hb, by rw [hbetadd, hS.s_eq_zero hl hb, neg_zero, zero_mul]⟩
    · exact .inl (Parts.norm_next_last _ hf
        ((norm_stacked_left _).trans (hS.recurs.norm_u (k + 1) hb)))
  · rw [nextParts, Parts.norm_next_settled _ hf h.orthogonal, h.norm_settled, hS.residual_succ k]
    rfl

end

/-- **The three parts** after any number of iterations. -/
theorem split (hl : Live (processOf S) k) : Split A b x₀ damp S k (partsOf damp S k) := by
  induction k with
  | zero => exact hS.split_zero hl
  | succ k ih =>
    have hl' := hl.mono (Nat.le_succ k)
    exact hS.split_succ (ih hl') hl'

/-- **The estimate of the residual is its norm.** -/
theorem normr_sq (hl : Live (processOf S) k) : (S (k + 1)).normr ^ 2 =
    ‖b - A (S (k + 1)).iterate.x‖ ^ 2 + damp ^ 2 * ‖(S (k + 1)).iterate.x - x₀‖ ^ 2 := by
  have h := hS.split_succ (hS.split hl) hl
  have hd : 0 ≤ (S (k + 1)).residual.d := h.norm_settled ▸ sq_nonneg _
  have hnormr : (S (k + 1)).normr ^ 2 = (S (k + 1)).residual.d +
      (S (k + 1)).residual.gap (S (k + 1)).rotation ^ 2 + (S (k + 1)).residual.betadd ^ 2 := by
    rw [hS.normr_succ, ResidualEstimate.normr, Real.sq_sqrt (by positivity)]
  rw [← norm_dampedResidual_sq, h.residual_eq, hnormr, Parts.norm_sum_sq h.orthogonal
    (h.norm_last.imp_right And.right) (h.norm_lagged.imp_right And.right), h.norm_settled]

end Course

end LeastSquares
