import LeastSquares.Proofs.Normal

/-!
# Solves of the same normal equations

A solve sees its operator and its damping only through the normal equations: two solves with the
same map `Aᴴ A + damp² I` and the same `Aᴴ (b - A x₀)` have the same solutions, the same residuals
of the normal equations and the same estimates of the condition number, although their
bidiagonalizations differ. They also meet a vanishing scalar in the same iteration, if not in the
same scalar.

* `Core`, `Core.next`: the part of a state that the normal equations determine, and one more
  iteration of it from `rho`, `thetanew` and the direction `h`.
* `eq_of_ladder`: how `rho` and `thetanew` are read off one product with the normal equations.
* `Course.paired`: **two solves of the same normal equations go in step.**
* `Course.core_eq`: what this says of an iteration in which a scalar vanishes.
-/

namespace LeastSquares

open Bidiagonal

/-- **What a run carries beside its process and the direction `h`.** -/
structure Core (E : Type) where
  x : E
  hbar : E
  rho : ℝ
  rhobar : ℝ
  cbar : ℝ
  sbar : ℝ
  zetabar : ℝ
  maxrbar : ℝ
  minrbar : ℝ
  iteration : ℕ

namespace Core

variable {E : Type} (c : Core E) (rho : ℝ)

/-- The largest and the least entry of the diagonal before an iteration. -/
noncomputable def extremes : ℝ × ℝ :=
  (max c.maxrbar c.rhobar, if 1 < c.iteration + 1 then min c.minrbar c.rhobar else c.minrbar)

/-- The estimate of the condition number in one more iteration. -/
noncomputable def ratio : ℝ :=
  max c.extremes.1 (c.cbar * rho) / min c.extremes.2 (c.cbar * rho)

variable [NormedAddCommGroup E] [NormedSpace ℝ E]

/-- The direction `hbar` after one more iteration. -/
noncomputable def direction (h : E) : E :=
  (-(c.sbar * rho) * rho / (c.rho * c.rhobar)) • c.hbar + h

/-- **One more iteration**, from the direction `h` and the two new entries of the upper bidiagonal
matrix. -/
noncomputable def next (h : E) (thetanew : ℝ) : Core E :=
  let bar := PlaneRotation.turn (c.cbar * rho) thetanew
  { x := c.x + (bar.c * c.zetabar / (rho * bar.r)) • c.direction rho h
    hbar := c.direction rho h
    rho := rho
    rhobar := bar.r
    cbar := bar.c
    sbar := bar.s
    zetabar := -bar.s * c.zetabar
    maxrbar := c.extremes.1
    minrbar := c.extremes.2
    iteration := c.iteration + 1 }

end Core

/-- **Two orthogonal shares of one vector** determine the lengths of both. -/
theorem eq_of_ladder {𝕜 E : Type} [RCLike 𝕜] [NormedAddCommGroup E] [InnerProductSpace 𝕜 E]
    [NormedSpace ℝ E] {v z z' : E} {rho rho' : ℝ} (hv : ‖v‖ = 1) (hz : inner 𝕜 v z = 0)
    (hz' : inner 𝕜 v z' = 0) (hrho : 0 < rho) (hrho' : 0 < rho')
    (h : rho ^ 2 • v + rho • z = rho' ^ 2 • v + rho' • z') : rho = rho' ∧ z = z' := by
  have hinner := congrArg (inner 𝕜 v) h
  simp only [inner_add_right, inner_real_smul_right, hz, hz',
    inner_self_eq_one_of_norm_eq_one hv, mul_one, mul_zero, add_zero] at hinner
  have hsq : rho ^ 2 = rho' ^ 2 := by exact_mod_cast hinner
  have heq : rho = rho' := (pow_left_inj₀ hrho.le hrho'.le two_ne_zero).1 hsq
  subst heq
  exact ⟨rfl, smul_right_injective E hrho.ne' (add_left_cancel h)⟩

variable {𝕜 E F G : Type} [RCLike 𝕜]
  [NormedAddCommGroup E] [InnerProductSpace 𝕜 E] [NormedSpace ℝ E] [FiniteDimensional 𝕜 E]
  [NormedAddCommGroup F] [InnerProductSpace 𝕜 F] [NormedSpace ℝ F] [FiniteDimensional 𝕜 F]
  [NormedAddCommGroup G] [InnerProductSpace 𝕜 G] [NormedSpace ℝ G] [FiniteDimensional 𝕜 G]

namespace Run

/-- The part of a state that the normal equations determine. -/
noncomputable def core (s : Run ℝ F E) : Core E :=
  ⟨s.iterate.x, s.iterate.hbar, s.rotation.rho, s.rotation.rhobar, s.rotation.cbar,
    s.rotation.sbar, s.rotation.zetabar, s.norms.maxrbar, s.norms.minrbar, s.iteration⟩

variable (A : E →ₗ[𝕜] F) (damp : ℝ) (s : Run ℝ F E)

theorem core_next : (s.next A damp).core =
    s.core.next (s.turned A damp).rho s.iterate.h (s.between A damp).thetanew := rfl

theorem ratio_eq : s.ratio A damp = s.core.ratio (s.turned A damp).rho := rfl

end Run

namespace Bidiagonal.Recurs

variable {A : E →ₗ[𝕜] F} {r : F} {P : ℕ → Bidiagonal ℝ F E}

/-- The first two scalars together are the norm of `Aᴴ r`. -/
theorem alpha_mul_beta (hP : Recurs A r P) : (P 0).alpha * (P 0).beta = ‖A.adjoint r‖ := by
  have h0 : 0 ≤ (P 0).alpha * (P 0).beta := mul_nonneg (hP.alpha_nonneg 0) (hP.beta_nonneg 0)
  rw [← hP.adjoint_start, norm_smul, Real.norm_of_nonneg h0]
  by_cases ha : (P 0).alpha = 0
  · rw [ha, zero_mul, zero_mul]
  · rw [hP.norm_v 0 ha, mul_one]

/-- A process lives on after its start if and only if `Aᴴ r` is nonzero. -/
theorem live_zero_iff (hP : Recurs A r P) : Live P 0 ↔ A.adjoint r ≠ 0 := by
  rw [← norm_ne_zero_iff, ← hP.alpha_mul_beta, mul_ne_zero_iff]
  constructor
  · intro h
    exact h 0 le_rfl
  · intro h j hj
    obtain rfl : j = 0 := by omega
    exact h

end Bidiagonal.Recurs

namespace Course

variable {A : E →ₗ[𝕜] F} {b : F} {x₀ : E} {damp : ℝ} {S : ℕ → Run ℝ F E} {k : ℕ}

/-! ### The share of the next vector -/

section

variable (hS : Course A b x₀ damp S) (hl : Live (processOf S) k)

include hS

theorem rho_mul_thetanew (k : ℕ) : (S (k + 1)).rotation.rho * (stepOf damp S k).thetanew =
    (S (k + 1)).process.alpha * (S (k + 1)).process.beta := by
  rw [hS.rotation_succ k]; exact Rotation.next_rho_mul _ _ _ _

include hl

theorem thetanew_nonneg : 0 ≤ (stepOf damp S k).thetanew :=
  Rotation.thetanew_nonneg damp (hS.sound hl).alphabar_pos (hS.recurs.alpha_nonneg (k + 1))
    (hS.recurs.beta_nonneg (k + 1))

/-- **No scalar vanishes** in an iteration if and only if it leaves an entry beside the diagonal. -/
theorem live_succ_iff : Live (processOf S) (k + 1) ↔ (stepOf damp S k).thetanew ≠ 0 := by
  have hmul := hS.rho_mul_thetanew k
  have hrho := (hS.rho_pos hl).ne'
  constructor
  · intro hl' h0
    rw [h0, mul_zero, eq_comm] at hmul
    obtain ⟨ha, hb⟩ := hl' _ le_rfl
    exact mul_ne_zero ha hb hmul
  · intro h0
    have hne : (S (k + 1)).process.alpha * (S (k + 1)).process.beta ≠ 0 :=
      hmul ▸ mul_ne_zero hrho h0
    exact hl.succ (left_ne_zero_of_mul hne) (right_ne_zero_of_mul hne)

/-- The share of the next `v` is orthogonal to the last one, also where it vanishes. -/
theorem inner_share : inner 𝕜 (S k).process.v
    ((stepOf damp S k).thetanew • (S (k + 1)).process.v) = 0 := by
  rw [inner_real_smul_right]
  by_cases h0 : (stepOf damp S k).thetanew = 0
  · rw [h0, RCLike.ofReal_zero, zero_mul]
  · have hl' := (hS.live_succ_iff hl).2 h0
    have ho : inner 𝕜 (S k).process.v (S (k + 1)).process.v = 0 :=
      (hS.recurs.orthogonalAt hl').v k (Nat.lt_succ_self k)
    rw [ho, mul_zero]

theorem norm_share :
    ‖(stepOf damp S k).thetanew • (S (k + 1)).process.v‖ = (stepOf damp S k).thetanew := by
  by_cases h0 : (stepOf damp S k).thetanew = 0
  · rw [h0, zero_smul, norm_zero]
  · rw [norm_smul, hS.norm_v ((hS.live_succ_iff hl).2 h0), mul_one,
      Real.norm_of_nonneg (hS.thetanew_nonneg hl)]

/-- The product of the normal equations with `h`, by `rho` and the share of the next `v`. -/
theorem normal_h_share : normalMap A damp (S k).iterate.h =
    (S (k + 1)).rotation.rho ^ 2 • (S k).process.v + (S (k + 1)).rotation.rho •
      (stepOf damp S k).thetanew • (S (k + 1)).process.v := by
  obtain ⟨y, ybar, h⟩ := hS.steered hl
  rw [hS.normal_h_eq h, mul_smul]

end

/-! ### Two solves -/

variable {A' : E →ₗ[𝕜] G} {b' : G} {damp' : ℝ} {S' : ℕ → Run ℝ G E}

/-- **Two states in step**: besides the part that the normal equations determine they share the
vector `v` and the direction `h`. -/
structure Paired (s : Run ℝ F E) (s' : Run ℝ G E) : Prop where
  core_eq : s.core = s'.core
  v_eq : s.process.v = s'.process.v
  h_eq : s.iterate.h = s'.iterate.h

variable (hS : Course A b x₀ damp S) (hS' : Course A' b' x₀ damp' S')

include hS hS'

theorem paired_zero (hr : A.adjoint (b - A x₀) = A'.adjoint (b' - A' x₀))
    (hl : Live (processOf S) 0) : Live (processOf S') 0 ∧ Paired (S 0) (S' 0) := by
  have hne := hS.recurs.live_zero_iff.1 hl
  have hl' : Live (processOf S') 0 := hS'.recurs.live_zero_iff.2 (hr ▸ hne)
  have hαβ : (S 0).process.alpha * (S 0).process.beta =
      (S' 0).process.alpha * (S' 0).process.beta := by
    have h : (S 0).process.alpha * (S 0).process.beta = ‖A.adjoint (b - A x₀)‖ :=
      hS.recurs.alpha_mul_beta
    have h' : (S' 0).process.alpha * (S' 0).process.beta = ‖A'.adjoint (b' - A' x₀)‖ :=
      hS'.recurs.alpha_mul_beta
    rw [h, h', hr]
  have hv : (S 0).process.v = (S' 0).process.v := by
    have h : ((S 0).process.alpha * (S 0).process.beta) • (S 0).process.v =
        A.adjoint (b - A x₀) := hS.recurs.adjoint_start
    have h' : ((S' 0).process.alpha * (S' 0).process.beta) • (S' 0).process.v =
        A'.adjoint (b' - A' x₀) := hS'.recurs.adjoint_start
    rw [hr, ← h', ← hαβ] at h
    exact smul_right_injective E (mul_ne_zero (hl 0 le_rfl).1 (hl 0 le_rfl).2) h
  refine ⟨hl', ?_, hv, ?_⟩
  · rw [hS.zero] at hαβ ⊢
    rw [hS'.zero] at hαβ ⊢
    simp only [Run.core, Run.opening, Rotation.initial] at hαβ ⊢
    rw [hαβ]
  · rw [hS.iterate_zero, hS'.iterate_zero]
    exact hv

section

variable (hN : normalMap A damp = normalMap A' damp') (h : Paired (S k) (S' k))
  (hl : Live (processOf S) k) (hl' : Live (processOf S') k)

include hN h hl hl'

/-- The two new entries of the upper bidiagonal matrix, and the share of the next `v`. -/
theorem entries_eq : (S (k + 1)).rotation.rho = (S' (k + 1)).rotation.rho ∧
    (stepOf damp S k).thetanew • (S (k + 1)).process.v =
      (stepOf damp' S' k).thetanew • (S' (k + 1)).process.v ∧
    (stepOf damp S k).thetanew = (stepOf damp' S' k).thetanew := by
  have hprod := hS.normal_h_share hl
  rw [hN, h.h_eq, hS'.normal_h_share hl', h.v_eq] at hprod
  have hz := hS.inner_share hl
  rw [h.v_eq] at hz
  obtain ⟨hrho, hshare⟩ := eq_of_ladder (hS'.norm_v hl') hz (hS'.inner_share hl')
    (hS.rho_pos hl) (hS'.rho_pos hl') hprod.symm
  refine ⟨hrho, hshare, ?_⟩
  rw [← hS.norm_share hl, hshare, hS'.norm_share hl']

/-- **One iteration of two solves in step**, also one in which a scalar vanishes. -/
theorem core_succ_eq : (S (k + 1)).core = (S' (k + 1)).core ∧
    (S (k + 1)).conda = (S' (k + 1)).conda := by
  obtain ⟨hrho, -, htheta⟩ := entries_eq hS hS' hN h hl hl'
  have hturned := hS.turned_eq k
  have hturned' := hS'.turned_eq k
  constructor
  · rw [hS.succ, hS'.succ, Run.core_next, Run.core_next, hturned, hturned', hS.between_eq,
      hS'.between_eq, h.core_eq, h.h_eq, hrho, htheta]
  · have hconda : (S (k + 1)).conda = .finite ((S k).ratio A damp) := by rw [hS.succ]; rfl
    have hconda' : (S' (k + 1)).conda = .finite ((S' k).ratio A' damp') := by rw [hS'.succ]; rfl
    rw [hconda, hconda', Run.ratio_eq, Run.ratio_eq, hturned, hturned', h.core_eq, hrho]

/-- Both solves meet a vanishing scalar, or none does; then they stay in step. -/
theorem paired_succ (hnext : Live (processOf S) (k + 1)) :
    Live (processOf S') (k + 1) ∧ Paired (S (k + 1)) (S' (k + 1)) := by
  obtain ⟨hrho, hshare, htheta⟩ := entries_eq hS hS' hN h hl hl'
  have h0 := (hS.live_succ_iff hl).1 hnext
  have hv : (S (k + 1)).process.v = (S' (k + 1)).process.v := by
    rw [← htheta] at hshare
    exact smul_right_injective E h0 hshare
  refine ⟨(hS'.live_succ_iff hl').2 (htheta ▸ h0), ?_, hv, ?_⟩
  · exact (core_succ_eq hS hS' hN h hl hl').1
  · rw [hS.h_succ, hS'.h_succ, htheta, hrho, h.h_eq, hv]

end

section

variable (hN : normalMap A damp = normalMap A' damp')
  (hr : A.adjoint (b - A x₀) = A'.adjoint (b' - A' x₀))

include hN hr

/-- **Two solves of the same normal equations go in step**, as long as no scalar of the one
vanishes. -/
theorem paired (hl : Live (processOf S) k) :
    Live (processOf S') k ∧ Paired (S k) (S' k) := by
  induction k with
  | zero => exact paired_zero hS hS' hr hl
  | succ k ih =>
    have hl₀ := hl.mono (Nat.le_succ k)
    obtain ⟨hl₀', h⟩ := ih hl₀
    exact paired_succ hS hS' hN h hl₀ hl₀' hl

/-- **An iteration of two solves of the same normal equations.** -/
theorem core_eq (hl : Live (processOf S) k) : (S (k + 1)).core = (S' (k + 1)).core ∧
    (S (k + 1)).conda = (S' (k + 1)).conda := by
  obtain ⟨hl', h⟩ := paired hS hS' hN hr hl
  exact core_succ_eq hS hS' hN h hl hl'

end

end Course

end LeastSquares
