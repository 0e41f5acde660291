import LeastSquares.Proofs.Descent

/-!
# Change of units

Over the real numbers a solve is free of units. If the operator and the damping are measured in
units `γ` times as small, and the right-hand side in units `τ` times as small, every iteration is
the same but for its units. That is not so at the start: the rotations and the estimate of the
residual begin with the number one in place of lengths that do not exist yet. What the first
iteration makes of these placeholders vanishes, in any units.

* `PlaneRotation.turn_scale`: a rotation has no units, and its length has those of the pair.
* `Rotation.Scaled`, `ResidualEstimate.Scaled`, `Iterate.Scaled`, `Bidiagonal.Scaled`: the parts of
  a state in other units.
* `Run.Scaled`, `Run.Scaled.next`: **a state in other units**, and after one more iteration.
* `Course.scaled`: **the states of two courses.**
* `Problem.unit_free`: **the iterations of two solves.**
-/

namespace LeastSquares

open Bidiagonal

variable {γ τ κ : ℝ}

/-! ### Rotations -/

/-- **A rotation has no units**, and its length has those of the pair. -/
theorem PlaneRotation.turn_scale (hκ : 0 < κ) (a b : ℝ) :
    turn (κ * a) (κ * b) = ⟨(turn a b).c, (turn a b).s, κ * (turn a b).r⟩ := by
  have hr : √((κ * a) ^ 2 + (κ * b) ^ 2) = κ * √(a ^ 2 + b ^ 2) := by
    rw [mul_pow, mul_pow, ← mul_add, Real.sqrt_mul (sq_nonneg κ), Real.sqrt_sq hκ.le]
  unfold turn
  rw [hr]
  by_cases h : √(a ^ 2 + b ^ 2) = 0
  · simp [h]
  · rw [if_neg h, if_neg (mul_ne_zero hκ.ne' h), mul_div_mul_left _ _ hκ.ne',
      mul_div_mul_left _ _ hκ.ne']

/-- **The rotations in other units.** Before the first iteration lengths have a factor `κ` of their
own. -/
structure Rotation.Scaled (γ τ κ : ℝ) (q q' : Rotation ℝ) : Prop where
  alphabar : q'.alphabar = γ * q.alphabar
  rho : q'.rho = κ * q.rho
  rhobar : q'.rhobar = κ * q.rhobar
  cbar : q'.cbar = q.cbar
  sbar : q'.sbar = q.sbar
  zeta : q'.zeta = γ * |τ| * q.zeta
  zetabar : q'.zetabar = γ * |τ| * q.zetabar

/-- What the rotations produce on the way, in other units. -/
structure RotationStep.Scaled (γ τ κ : ℝ) (w w' : RotationStep ℝ) : Prop where
  chat : w'.chat = w.chat
  shat : w'.shat = w.shat
  c : w'.c = w.c
  s : w'.s = w.s
  rhoold : w'.rhoold = κ * w.rhoold
  rhobarold : w'.rhobarold = κ * w.rhobarold
  thetanew : w'.thetanew = γ * w.thetanew
  thetabar : w'.thetabar = γ * w.thetabar
  zetaold : w'.zetaold = γ * |τ| * w.zetaold

namespace Rotation.Scaled

open PlaneRotation

variable {q q' : Rotation ℝ} {alpha beta damp : ℝ} (h : q.Scaled γ τ κ q') (hγ : 0 < γ)

include h hγ

theorem hat_eq : q'.hat (γ * damp) =
    ⟨(q.hat damp).c, (q.hat damp).s, γ * (q.hat damp).r⟩ := by
  rw [hat, hat, h.alphabar, turn_scale hγ]

theorem fold_eq : q'.fold (γ * beta) (γ * damp) =
    ⟨(q.fold beta damp).c, (q.fold beta damp).s, γ * (q.fold beta damp).r⟩ := by
  rw [fold, fold, h.hat_eq hγ, turn_scale hγ]

theorem bar_eq : q'.bar (γ * alpha) (γ * beta) (γ * damp) =
    ⟨(q.bar alpha beta damp).c, (q.bar alpha beta damp).s, γ * (q.bar alpha beta damp).r⟩ := by
  rw [bar, bar, h.fold_eq hγ, h.cbar]
  dsimp only
  rw [mul_left_comm q.cbar, mul_left_comm (q.fold beta damp).s, turn_scale hγ]

/-- **One application of the rotations** gives lengths their units. -/
theorem next : (q.next alpha beta damp).Scaled γ τ γ
    (q'.next (γ * alpha) (γ * beta) (γ * damp)) := by
  unfold Rotation.next
  rw [h.bar_eq hγ, h.fold_eq hγ, h.zetabar]
  constructor <;> dsimp only <;> ring

theorem between : (q.between alpha beta damp).Scaled γ τ κ
    (q'.between (γ * alpha) (γ * beta) (γ * damp)) := by
  unfold Rotation.between
  rw [h.hat_eq hγ, h.fold_eq hγ, h.rho, h.rhobar, h.sbar, h.zeta]
  constructor <;> dsimp only <;> ring

end Rotation.Scaled

/-! ### The estimate of the residual -/

/-- **The estimate of the residual in other units.** -/
structure ResidualEstimate.Scaled (γ τ κ : ℝ) (e e' : ResidualEstimate ℝ) : Prop where
  betadd : e'.betadd = |τ| * e.betadd
  betad : e'.betad = |τ| * e.betad
  rhodold : e'.rhodold = κ * e.rhodold
  tautildeold : e'.tautildeold = |τ| * e.tautildeold
  thetatilde : e'.thetatilde = γ * e.thetatilde
  d : e'.d = |τ| ^ 2 * e.d

namespace ResidualEstimate.Scaled

open PlaneRotation

variable {e e' : ResidualEstimate ℝ} {w w' : RotationStep ℝ} {q q' : Rotation ℝ}
  (h : e.Scaled γ τ κ e') (hw : w.Scaled γ τ κ w') (hγ : 0 < γ)

include h hw

theorem tilde_eq (hκ : 0 < κ) (hidle : κ = γ ∨ w.thetabar = 0) :
    e'.tilde w' = ⟨(e.tilde w).c, (e.tilde w).s, κ * (e.tilde w).r⟩ := by
  have hbar : w'.thetabar = κ * w.thetabar := by
    rw [hw.thetabar]
    rcases hidle with rfl | h0
    · rfl
    · rw [h0, mul_zero, mul_zero]
  rw [tilde, tilde, h.rhodold, hbar, turn_scale hκ]

/-- **One more iteration.** What the first one makes of the placeholders vanishes. -/
theorem next (hκ : 0 < κ) (hq : q.Scaled γ τ γ q')
    (hidle : κ = γ ∨ w.thetabar = 0 ∧ w.zetaold = 0 ∧ e.thetatilde = 0) :
    (e.next w q).Scaled γ τ γ (e'.next w' q') := by
  have htilde := h.tilde_eq hw hκ (hidle.imp_right And.left)
  have htau : (w'.zetaold - e'.thetatilde * e'.tautildeold) / (e'.tilde w').r =
      |τ| * ((w.zetaold - e.thetatilde * e.tautildeold) / (e.tilde w).r) := by
    rw [htilde, hw.zetaold, h.thetatilde, h.tautildeold]
    rcases hidle with rfl | ⟨-, hzeta, htheta⟩
    · rw [show κ * |τ| * w.zetaold - κ * e.thetatilde * (|τ| * e.tautildeold) =
          κ * (|τ| * (w.zetaold - e.thetatilde * e.tautildeold)) by ring,
        mul_div_mul_left _ _ hκ.ne', mul_div_assoc]
    · simp [hzeta, htheta]
  constructor
  · simp only [ResidualEstimate.next, hw.s, hw.chat, h.betadd]
    ring
  · simp only [ResidualEstimate.next, htilde, h.betad, hw.c, hw.chat, h.betadd]
    ring
  · simp only [ResidualEstimate.next, htilde, hq.rhobar]
    ring
  · exact htau
  · simp only [ResidualEstimate.next, htilde, hq.rhobar]
    ring
  · simp only [ResidualEstimate.next, h.d, hw.shat, h.betadd]
    ring

omit hw in
/-- **The norm of the residual** has the units of the right-hand side. -/
theorem normr_eq (hκ : κ = γ) (hγ : 0 < γ) (hq : q.Scaled γ τ κ q') :
    e'.normr q' = |τ| * e.normr q := by
  subst hκ
  have hgap : e'.gap q' = |τ| * e.gap q := by
    rw [gap, gap, h.betad, hq.zeta, h.thetatilde, h.tautildeold, h.rhodold,
      show κ * |τ| * q.zeta - κ * e.thetatilde * (|τ| * e.tautildeold) =
        κ * (|τ| * (q.zeta - e.thetatilde * e.tautildeold)) by ring,
      mul_div_mul_left _ _ hγ.ne', mul_div_assoc, mul_sub]
  rw [normr, normr, hgap, h.d, h.betadd,
    show |τ| ^ 2 * e.d + (|τ| * e.gap q) ^ 2 + (|τ| * e.betadd) ^ 2 =
      |τ| ^ 2 * (e.d + e.gap q ^ 2 + e.betadd ^ 2) by ring,
    Real.sqrt_mul (sq_nonneg _), Real.sqrt_sq (abs_nonneg τ)]

end ResidualEstimate.Scaled

variable {𝕜 E F : Type} [RCLike 𝕜]
  [NormedAddCommGroup E] [InnerProductSpace 𝕜 E] [NormedSpace ℝ E] [FiniteDimensional 𝕜 E]
  [NormedAddCommGroup F] [InnerProductSpace 𝕜 F] [NormedSpace ℝ F] [FiniteDimensional 𝕜 F]
  {A : E →ₗ[𝕜] F} {b : F} {x₀ : E} {damp : ℝ}

/-! ### Vectors -/

/-- **The solution in other units.** Its directions have none, but may change their signs. -/
structure Iterate.Scaled (γ τ : ℝ) (w w' : Iterate E) : Prop where
  x : w'.x = (τ / γ) • w.x
  h : w'.h = (τ / |τ|) • w.h
  hbar : w'.hbar = (τ / |τ|) • w.hbar

omit [FiniteDimensional 𝕜 E] [InnerProductSpace 𝕜 E] in
/-- **The update of the solution.** -/
theorem Iterate.Scaled.next {w w' : Iterate E} {q q' : Rotation ℝ} {r r' : RotationStep ℝ}
    {v v' : E} (h : w.Scaled γ τ w') (hγ : 0 < γ) (hτ : τ ≠ 0) (hq : q.Scaled γ τ γ q')
    (hr : r.Scaled γ τ κ r') (hidle : κ = γ ∨ r.thetabar = 0) (hv : v' = (τ / |τ|) • v) :
    (w.next q r v).Scaled γ τ (w'.next q' r' v') := by
  -- None of the three coefficients has units but the one of the solution.
  have ha : -r'.thetabar * q'.rho / (r'.rhoold * r'.rhobarold) =
      -r.thetabar * q.rho / (r.rhoold * r.rhobarold) := by
    rw [hr.thetabar, hr.rhoold, hr.rhobarold, hq.rho]
    rcases hidle with rfl | h0
    · rw [show -(κ * r.thetabar) * (κ * q.rho) = κ * κ * (-r.thetabar * q.rho) by ring,
        show κ * r.rhoold * (κ * r.rhobarold) = κ * κ * (r.rhoold * r.rhobarold) by ring,
        mul_div_mul_left _ _ (mul_ne_zero hγ.ne' hγ.ne')]
    · simp [h0]
  have hb : q'.zeta / (q'.rho * q'.rhobar) = |τ| / γ * (q.zeta / (q.rho * q.rhobar)) := by
    rw [hq.zeta, hq.rho, hq.rhobar,
      show γ * |τ| * q.zeta = γ * (|τ| * q.zeta) by ring,
      show γ * q.rho * (γ * q.rhobar) = γ * (γ * (q.rho * q.rhobar)) by ring,
      mul_div_mul_left _ _ hγ.ne', mul_div_mul_comm]
  have hc : -r'.thetanew / q'.rho = -r.thetanew / q.rho := by
    rw [hr.thetanew, hq.rho, ← mul_neg, mul_div_mul_left _ _ hγ.ne']
  have hsign : |τ| / γ * (τ / |τ|) = τ / γ := by
    field_simp
  have hhbar : (w'.next q' r' v').hbar = (τ / |τ|) • (w.next q r v).hbar := by
    simp only [Iterate.next, ha, h.hbar, h.h]
    module
  refine ⟨?_, ?_, hhbar⟩
  · have hx : (w'.next q' r' v').x =
        w'.x + (q'.zeta / (q'.rho * q'.rhobar)) • (w'.next q' r' v').hbar := rfl
    have hx₀ : (w.next q r v).x = w.x + (q.zeta / (q.rho * q.rhobar)) • (w.next q r v).hbar := rfl
    rw [hx, hx₀, hhbar, hb, h.x, smul_smul, mul_right_comm, hsign, smul_add, smul_smul]
  · simp only [Iterate.next, hc, h.h, hv]
    module

section

omit [FiniteDimensional 𝕜 E] [FiniteDimensional 𝕜 F]

theorem map_real_smul_of_linear (A : E →ₗ[𝕜] F) (a : ℝ) (x : E) : A (a • x) = a • A x := by
  rw [RCLike.real_smul_eq_coe_smul (K := 𝕜), map_smul, ← RCLike.real_smul_eq_coe_smul (K := 𝕜)]

omit [NormedSpace ℝ E] in
theorem inUnits_apply (γ : ℝ) (A : E →ₗ[𝕜] F) (x : E) : inUnits γ A x = γ • A x := by
  rw [inUnits, LinearMap.smul_apply, ← RCLike.real_smul_eq_coe_smul (K := 𝕜)]

end

omit [NormedSpace ℝ F] in
theorem inUnits_adjoint (γ : ℝ) (A : E →ₗ[𝕜] F) (y : F) :
    (inUnits γ A).adjoint y = γ • A.adjoint y := by
  rw [inUnits, map_smulₛₗ, RCLike.conj_ofReal, LinearMap.smul_apply,
    ← RCLike.real_smul_eq_coe_smul (K := 𝕜)]

namespace Bidiagonal

/-- **The process in other units.** Its vectors have none, but may change their signs. -/
structure Scaled (γ τ : ℝ) (p p' : Bidiagonal ℝ F E) : Prop where
  u : p'.u = (τ / |τ|) • p.u
  v : p'.v = (τ / |τ|) • p.v
  alpha : p'.alpha = γ * p.alpha

theorem norm_sign_smul {W : Type} [NormedAddCommGroup W] [NormedSpace ℝ W] (hτ : τ ≠ 0) (hκ : 0 < κ)
    (w : W) : ‖κ • (τ / |τ|) • w‖ = κ * ‖w‖ := by
  rw [norm_smul, norm_smul, Real.norm_eq_abs, Real.norm_eq_abs, abs_div, abs_abs,
    div_self (abs_ne_zero.2 hτ), one_mul, abs_of_pos hκ]

/-- A vector without units has none in any. -/
theorem unit_sign_smul {W : Type} [NormedAddCommGroup W] [NormedSpace ℝ W] (hτ : τ ≠ 0) (hκ : 0 < κ)
    (w : W) : unit (κ • (τ / |τ|) • w) = (τ / |τ|) • unit w := by
  rw [unit, unit, norm_sign_smul hτ hκ, mul_inv, smul_comm (τ / |τ|), smul_smul,
    mul_right_comm, inv_mul_cancel₀ hκ.ne', one_mul]

variable (A b x₀) in
theorem opening_scaled (hγ : 0 < γ) (hτ : τ ≠ 0) :
    (opening A b x₀).Scaled γ τ (opening (inUnits γ A) (τ • b) ((τ / γ) • x₀)) ∧
      (opening (inUnits γ A) (τ • b) ((τ / γ) • x₀)).beta = |τ| * (opening A b x₀).beta := by
  have hτ' : 0 < |τ| := abs_pos.2 hτ
  have hr : τ • b - inUnits γ A ((τ / γ) • x₀) = |τ| • (τ / |τ|) • (b - A x₀) := by
    rw [inUnits_apply, map_real_smul_of_linear, smul_smul, smul_smul, mul_div_cancel₀ _ hγ.ne',
      mul_div_cancel₀ _ hτ'.ne', smul_sub]
  have hu : unit (τ • b - inUnits γ A ((τ / γ) • x₀)) = (τ / |τ|) • unit (b - A x₀) := by
    rw [hr, unit_sign_smul hτ hτ']
  have hv : (inUnits γ A).adjoint (unit (τ • b - inUnits γ A ((τ / γ) • x₀))) =
      γ • (τ / |τ|) • A.adjoint (unit (b - A x₀)) := by
    rw [hu, inUnits_adjoint, map_real_smul_of_linear]
  refine ⟨⟨hu, ?_, ?_⟩, ?_⟩
  · simp only [opening, hv, unit_sign_smul hτ hγ]
  · simp only [opening, hv, norm_sign_smul hτ hγ]
  · simp only [opening, hr, norm_sign_smul hτ hτ']

/-- **A step of the process.** -/
theorem Scaled.next {p p' : Bidiagonal ℝ F E} (h : p.Scaled γ τ p') (hγ : 0 < γ) (hτ : τ ≠ 0) :
    (p.next A).Scaled γ τ (p'.next (inUnits γ A)) ∧
      (p'.next (inUnits γ A)).beta = γ * (p.next A).beta := by
  have hf : p'.forwardPart (inUnits γ A) = γ • (τ / |τ|) • p.forwardPart A := by
    rw [forwardPart, forwardPart, h.v, h.alpha, h.u, inUnits_apply, map_real_smul_of_linear]
    module
  have hfn : ‖p'.forwardPart (inUnits γ A)‖ = γ * ‖p.forwardPart A‖ := by
    rw [hf, norm_sign_smul hτ hγ]
  have hu : unit (p'.forwardPart (inUnits γ A)) = (τ / |τ|) • unit (p.forwardPart A) := by
    rw [hf, unit_sign_smul hτ hγ]
  have hb : p'.backwardPart (inUnits γ A) = γ • (τ / |τ|) • p.backwardPart A := by
    rw [backwardPart, backwardPart, hu, hfn, h.v, inUnits_adjoint, map_real_smul_of_linear]
    module
  have hzero : ‖p'.forwardPart (inUnits γ A)‖ = 0 ↔ ‖p.forwardPart A‖ = 0 := by
    rw [hfn, mul_eq_zero, or_iff_right hγ.ne']
  refine ⟨?_, by rw [next_beta, next_beta, hfn]⟩
  unfold Bidiagonal.next
  by_cases h0 : ‖p.forwardPart A‖ = 0
  · rw [if_pos h0, if_pos (hzero.2 h0)]
    exact ⟨(smul_zero _).symm, h.v, h.alpha⟩
  · rw [if_neg h0, if_neg (mt hzero.1 h0)]
    refine ⟨hu, ?_, ?_⟩
    · simp only [hb, unit_sign_smul hτ hγ]
    · simp only [hb, norm_sign_smul hτ hγ]

end Bidiagonal

/-! ### States -/

/-- **A state in other units.** -/
structure Run.Scaled (γ τ κ : ℝ) (s s' : Run ℝ F E) : Prop where
  process : s.process.Scaled γ τ s'.process
  rotation : s.rotation.Scaled γ τ κ s'.rotation
  residual : s.residual.Scaled γ τ κ s'.residual
  normA2 : s'.norms.normA2 = γ ^ 2 * s.norms.normA2
  iterate : s.iterate.Scaled γ τ s'.iterate
  normb : s'.normb = |τ| * s.normb
  normr : s'.normr = |τ| * s.normr
  normar : s'.normar = γ * |τ| * s.normar
  norma : s'.norma = γ * s.norma
  normx : s'.normx = |τ| / γ * s.normx
  /-- Before the first iteration what the placeholders are factors of vanishes. -/
  idle : κ = γ ∨ s.rotation.sbar = 0 ∧ s.rotation.zeta = 0 ∧ s.residual.thetatilde = 0

theorem norm_ratio_smul {W : Type} [NormedAddCommGroup W] [NormedSpace ℝ W] (hγ : 0 < γ) (w : W) :
    ‖(τ / γ) • w‖ = |τ| / γ * ‖w‖ := by
  rw [norm_smul, Real.norm_eq_abs, abs_div, abs_of_pos hγ]

namespace Run.Scaled

theorem opening (hγ : 0 < γ) (hτ : τ ≠ 0) (o o' : Observers ℝ) :
    (Run.opening A b x₀ o).Scaled γ τ 1 (Run.opening (inUnits γ A) (τ • b) ((τ / γ) • x₀) o') := by
  obtain ⟨hp, hbeta⟩ := opening_scaled A b x₀ hγ hτ
  have halphabeta : (Bidiagonal.opening (inUnits γ A) (τ • b) ((τ / γ) • x₀)).alpha *
      (Bidiagonal.opening (inUnits γ A) (τ • b) ((τ / γ) • x₀)).beta = γ * |τ| *
        ((Bidiagonal.opening A b x₀).alpha * (Bidiagonal.opening A b x₀).beta) := by
    rw [hp.alpha, hbeta]
    ring
  constructor
  · exact hp
  · exact ⟨hp.alpha, (one_mul 1).symm, (one_mul 1).symm, rfl, rfl, (mul_zero _).symm, halphabeta⟩
  · exact ⟨hbeta, (mul_zero _).symm, (one_mul 1).symm, (mul_zero _).symm, (mul_zero _).symm,
      (mul_zero _).symm⟩
  · simp only [Run.opening, hp.alpha, mul_pow]
  · exact ⟨rfl, hp.v, (smul_zero _).symm⟩
  · exact hbeta
  · exact hbeta
  · exact halphabeta
  · exact hp.alpha
  · exact norm_ratio_smul hγ x₀
  · exact .inr ⟨rfl, rfl, rfl⟩

/-- **One more iteration** gives everything its units. -/
theorem next {s s' : Run ℝ F E} (h : s.Scaled γ τ κ s') (hγ : 0 < γ) (hτ : τ ≠ 0) (hκ : 0 < κ) :
    (s.next A damp).Scaled γ τ γ (s'.next (inUnits γ A) (γ * damp)) := by
  obtain ⟨hp, hbeta⟩ := h.process.next (A := A) hγ hτ
  have hq : (s.turned A damp).Scaled γ τ γ (s'.turned (inUnits γ A) (γ * damp)) := by
    rw [turned, turned, hp.alpha, hbeta]
    exact h.rotation.next hγ
  have hr : (s.between A damp).Scaled γ τ κ (s'.between (inUnits γ A) (γ * damp)) := by
    rw [between, between, hp.alpha, hbeta]
    exact h.rotation.between hγ
  have hidle : κ = γ ∨ (s.between A damp).thetabar = 0 ∧ (s.between A damp).zetaold = 0 ∧
      s.residual.thetatilde = 0 := by
    refine h.idle.imp_right ?_
    rintro ⟨hsbar, hzeta, htheta⟩
    refine ⟨?_, hzeta, htheta⟩
    rw [between, Rotation.between_thetabar, hsbar, zero_mul]
  have he := h.residual.next hr hκ hq hidle
  have hw := h.iterate.next hγ hτ hq hr (hidle.imp_right And.left) hp.v
  constructor
  · exact hp
  · exact hq
  · exact he
  · simp only [Run.next, NormEstimate.next, h.normA2, hp.alpha, hbeta]
    ring
  · exact hw
  · exact h.normb
  · exact he.normr_eq rfl hγ hq
  · have hnormar : |(s'.turned (inUnits γ A) (γ * damp)).zetabar| =
        γ * |τ| * |(s.turned A damp).zetabar| := by
      rw [hq.zetabar, abs_mul, abs_mul, abs_abs, abs_of_pos hγ]
    exact hnormar
  · simp only [Run.next, h.normA2, hbeta]
    rw [mul_pow, ← mul_add, Real.sqrt_mul (sq_nonneg γ), Real.sqrt_sq hγ.le]
  · simp only [Run.next]
    rw [hw.x, norm_ratio_smul hγ]
  · exact .inl rfl

end Run.Scaled

section

variable {S S' : ℕ → Run ℝ F E} {k : ℕ}

/-- **The states of two courses** in different units. -/
theorem Course.scaled (hS : Course A b x₀ damp S)
    (hS' : Course (inUnits γ A) (τ • b) ((τ / γ) • x₀) (γ * damp) S') (hγ : 0 < γ) (hτ : τ ≠ 0)
    (k : ℕ) : ∃ κ, 0 < κ ∧ (S k).Scaled γ τ κ (S' k) := by
  induction k with
  | zero =>
    rw [hS.zero, hS'.zero]
    exact ⟨1, one_pos, .opening hγ hτ _ _⟩
  | succ k ih =>
    obtain ⟨κ, hκ, h⟩ := ih
    rw [hS.succ, hS'.succ]
    exact ⟨γ, hγ, h.next hγ hτ hκ⟩

/-- The statistics of an iteration that is sound. -/
theorem Course.statistics_eq (hS : Course A b x₀ damp S) (hl : Live (processOf S) k)
    (P : Problem ℝ F E) : (S (k + 1)).statistics P =
      .ok (.exact (S (k + 1)).normr (S (k + 1)).normar (S (k + 1)).norma ((S k).ratio A damp)
        (S (k + 1)).normx (S (k + 1)).normb P.atol P.btol) := by
  have he := hS.estimates hl
  have hc : (S (k + 1)).conda = .finite ((S k).ratio A damp) := by rw [hS.succ]; rfl
  rw [Run.statistics, hc]
  exact StoppingTests.compute_eq he.normb_pos he.norma_pos.le ((hS.sound hl).ratio_pos damp).ne'
    (he.normx_eq ▸ norm_nonneg _)

end

/-- **The statistics have no units**, and neither has the tolerance for the residual. -/
theorem StoppingTests.exact_units (hγ : 0 < γ) (hτ : τ ≠ 0)
    (normr normar norma conda conda' normx normb atol btol : ℝ) :
    let t := exact normr normar norma conda normx normb atol btol
    let t' := exact (|τ| * normr) (γ * |τ| * normar) (γ * norma) conda' (|τ| / γ * normx)
      (|τ| * normb) atol btol
    t'.test1 = t.test1 ∧ t'.test2 = t.test2 ∧ t'.t1 = t.t1 ∧ t'.rtol = t.rtol := by
  intro t t'
  have hτ' : 0 < |τ| := abs_pos.2 hτ
  have h1 : |τ| * normr / (|τ| * normb) = normr / normb := mul_div_mul_left _ _ hτ'.ne'
  have h2 : γ * |τ| * normar / (γ * norma * (|τ| * normr)) = normar / (norma * normr) := by
    rw [show γ * norma * (|τ| * normr) = γ * |τ| * (norma * normr) by ring]
    exact mul_div_mul_left _ _ (mul_pos hγ hτ').ne'
  have h3 : γ * norma * (|τ| / γ * normx) / (|τ| * normb) = norma * normx / normb := by
    rw [show γ * norma * (|τ| / γ * normx) = |τ| * (norma * normx) * (γ / γ) by ring,
      div_self hγ.ne', mul_one, mul_div_mul_left _ _ hτ'.ne']
  refine ⟨h1, ?_, ?_, ?_⟩
  · simp only [t, t', exact, h2, mul_pos_iff_of_pos_left hτ', mul_pos_iff_of_pos_left hγ]
  · simp only [t, t', exact, h1, h3]
  · have hslack : atol * (γ * norma) * (|τ| / γ * normx) / (|τ| * normb) =
        atol * norma * normx / normb := by
      rw [mul_assoc atol, mul_div_assoc, h3, ← mul_div_assoc, ← mul_assoc]
    simp only [t, t', exact, hslack]

namespace Problem

variable {P P' : Problem ℝ F E} {o o' : Observers ℝ} {k : ℕ} {s s' : Run ℝ F E}

/-- **The iterates and the residual tests are free of units.** An iteration that the solve of `A`,
`b`, `x₀` executes, and so does the solve of `γ A`, `τ b`, `(τ / γ) x₀` with `γ` times the damping,
leaves the same solution and the same estimates in other units, and the same statistics but for the
condition number. -/
theorem unit_free (hP : P.operator = .exact A) (hP' : P'.operator = .exact (inUnits γ A))
    (hdamp : P'.damp = γ * P.damp) (hatol : P'.atol = P.atol) (hbtol : P'.btol = P.btol)
    (hγ : 0 < γ) (hτ : τ ≠ 0) (h : P.Executes (.initial b 0) x₀ 0 o k s)
    (h' : P'.Executes (.initial (τ • b) 0) ((τ / γ) • x₀) 0 o' k s') :
    s'.iterate.x = (τ / γ) • s.iterate.x ∧ s'.normr = |τ| * s.normr ∧
      s'.normar = γ * |τ| * s.normar ∧ s'.norma = γ * s.norma ∧
      ∃ t t', s.statistics P = .ok t ∧ s'.statistics P' = .ok t' ∧ t'.test1 = t.test1 ∧
        t'.test2 = t.test2 ∧ t'.t1 = t.t1 ∧ t'.rtol = t.rtol := by
  have hS := course_spec A b x₀ P.damp
  have hS' := course_spec (inUnits γ A) (τ • b) ((τ / γ) • x₀) P'.damp
  obtain ⟨n, s₀, rfl, hbegins, hb, -⟩ := h.follows hP hS
  obtain ⟨n', s₀', hn, hbegins', hb', -⟩ := h'.follows hP' hS'
  obtain rfl : n = n' := Nat.succ.inj hn
  have ht : s.statistics P = s.bare.statistics P := rfl
  have ht' : s'.statistics P' = s'.bare.statistics P' := rfl
  rw [hb, hS.statistics_eq (hbegins.live hP hS)] at ht
  rw [hb', hS'.statistics_eq (hbegins'.live hP' hS')] at ht'
  have hscaled := hS.scaled (hdamp ▸ hS') hγ hτ (n + 1)
  rw [← hdamp] at hscaled
  obtain ⟨κ, -, hs⟩ := hscaled
  rw [hs.normr, hs.normar, hs.norma, hs.normx, hs.normb, hatol, hbtol] at ht'
  have hunits := StoppingTests.exact_units hγ hτ
    (course A b x₀ P.damp (n + 1)).normr (course A b x₀ P.damp (n + 1)).normar
    (course A b x₀ P.damp (n + 1)).norma ((course A b x₀ P.damp n).ratio A P.damp)
    ((course (inUnits γ A) (τ • b) ((τ / γ) • x₀) P'.damp n).ratio (inUnits γ A) P'.damp)
    (course A b x₀ P.damp (n + 1)).normx (course A b x₀ P.damp (n + 1)).normb P.atol P.btol
  rw [← hb, ← hb'] at hs
  exact ⟨hs.iterate.x, hs.normr, hs.normar, hs.norma, _, _, ht, ht', hunits⟩

/-- Twice an operator that stretches, with twice the damping. -/
noncomputable def doubledStretching : Problem ℝ ℂ ℂ :=
  { dampedStretching with
    operator := .exact (inUnits (2 : ℕ) (stretching 1)), damp := (2 : ℕ) }

theorem inUnits_stretching : inUnits 2 (stretching 1) = stretching 2 := by
  ext z
  rw [inUnits_apply, stretching_apply, stretching_apply]
  apply Complex.ext <;> simp [mul_assoc]

theorem doubledStretching_operator :
    doubledStretching.operator = .exact (inUnits 2 (stretching 1)) := rfl

theorem doubledStretching_executes : ∃ s,
    doubledStretching.Executes (.initial ((-3 : ℝ) • (⟨1, 1⟩ : ℂ)) 0) ((-3 / 2 : ℝ) • (-1 : ℂ)) 0
      Run.unwatched 2 s := by
  have hr : (-3 : ℝ) • (⟨1, 1⟩ : ℂ) - stretching 2 ((-3 / 2 : ℝ) • (-1 : ℂ)) = ⟨-6, -3⟩ := by
    rw [stretching_apply]
    apply Complex.ext <;> norm_num
  have hop : doubledStretching.operator = .exact (stretching 2) := by
    rw [doubledStretching_operator, inUnits_stretching]
  obtain ⟨-, s, -, h⟩ := stretching_goes_on Run.unwatched _ _ hop rfl rfl rfl (by decide) two_ne_zero
    (by rw [hr]; norm_num) (by rw [hr]; norm_num) fun _ _ => rfl
  exact ⟨s, h⟩

/-- The second iterations for an operator and for twice the operator, from a right-hand side of the
other sign. -/
theorem dampedStretching_rescaled : ∃ s s',
    dampedStretching.Executes (.initial ⟨1, 1⟩ 0) (-1) 0 Run.unwatched 2 s ∧
    doubledStretching.Executes (.initial ((-3 : ℝ) • (⟨1, 1⟩ : ℂ)) 0) ((-3 / 2 : ℝ) • (-1 : ℂ)) 0
      Run.unwatched 2 s' ∧
    s'.iterate.x = (-3 / 2 : ℝ) • s.iterate.x ∧ s'.normr = |-3| * s.normr := by
  obtain ⟨-, s, -, h⟩ := dampedStretching_executes (o := Run.unwatched) fun _ _ => rfl
  obtain ⟨s', h'⟩ := doubledStretching_executes
  obtain ⟨hx, hr, -⟩ := unit_free dampedStretching_operator doubledStretching_operator
    (mul_one 2).symm rfl rfl two_pos (by norm_num) h h'
  exact ⟨s, s', h, h', hx, hr⟩

end Problem

end LeastSquares
