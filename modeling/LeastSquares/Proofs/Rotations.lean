import LeastSquares.Proofs.Exact

/-!
# The scalar recurrences

What one application of the rotations keeps, and what its results have to do with each other. The
equations are free of divisions, so they hold at every step, also where a scalar of the process
vanishes.

* `Rotation.Sound`: the signs that every step keeps.
* `Rotation.next_rho_sq`, `Rotation.next_rho_mul`, `Rotation.next_alphabar_sq`: the squared
  bidiagonal entry by entry.
* `Rotation.next_zetabar_eq_zero`: **where a scalar of the process vanishes, so does the residual
  of the normal equations.**
* `ResidualEstimate.Tracks`: **how the estimate of the residual follows the rotations**, with the
  balance by which the lagged chain needs only its last entry.
-/

namespace LeastSquares

open PlaneRotation

namespace Rotation

/-- **The signs that every step keeps.** -/
structure Sound (q : Rotation ℝ) : Prop where
  rho_pos : 0 < q.rho
  rhobar_pos : 0 < q.rhobar
  cbar_pos : 0 < q.cbar
  sbar_nonneg : 0 ≤ q.sbar
  unit : q.cbar ^ 2 + q.sbar ^ 2 = 1

theorem sound_initial (alpha beta : ℝ) : (initial alpha beta).Sound :=
  ⟨one_pos, one_pos, one_pos, le_rfl, by simp [initial]⟩

variable (q : Rotation ℝ) (alpha beta damp : ℝ)

/-! ### The fields -/

@[simp] theorem between_rhoold : (q.between alpha beta damp).rhoold = q.rho := rfl

@[simp] theorem between_rhobarold : (q.between alpha beta damp).rhobarold = q.rhobar := rfl

@[simp] theorem between_thetabar :
    (q.between alpha beta damp).thetabar = q.sbar * (q.next alpha beta damp).rho := rfl

theorem between_thetanew :
    (q.between alpha beta damp).thetanew = (q.between alpha beta damp).s * alpha := rfl

@[simp] theorem next_alphabar :
    (q.next alpha beta damp).alphabar = (q.between alpha beta damp).c * alpha := rfl

@[simp] theorem next_zetabar :
    (q.next alpha beta damp).zetabar = -(q.next alpha beta damp).sbar * q.zetabar := rfl

/-! ### The equations of a step -/

theorem hat_unit :
    (q.between alpha beta damp).chat ^ 2 + (q.between alpha beta damp).shat ^ 2 = 1 :=
  turn_unit _ _

theorem fold_unit : (q.between alpha beta damp).c ^ 2 + (q.between alpha beta damp).s ^ 2 = 1 :=
  turn_unit _ _

theorem s_mul_rho : (q.between alpha beta damp).s * (q.next alpha beta damp).rho = beta :=
  turn_s_mul_r _ _

theorem chat_mul_c_mul_rho : (q.between alpha beta damp).chat *
    ((q.between alpha beta damp).c * (q.next alpha beta damp).rho) = q.alphabar := by
  have h : (q.between alpha beta damp).c * (q.next alpha beta damp).rho = (q.hat damp).r :=
    turn_c_mul_r _ _
  rw [h]; exact turn_c_mul_r _ _

theorem shat_mul_c_mul_rho : (q.between alpha beta damp).shat *
    ((q.between alpha beta damp).c * (q.next alpha beta damp).rho) = damp := by
  have h : (q.between alpha beta damp).c * (q.next alpha beta damp).rho = (q.hat damp).r :=
    turn_c_mul_r _ _
  rw [h]; exact turn_s_mul_r _ _

theorem next_unit : (q.next alpha beta damp).cbar ^ 2 + (q.next alpha beta damp).sbar ^ 2 = 1 :=
  turn_unit _ _

theorem next_cbar_mul : (q.next alpha beta damp).cbar * (q.next alpha beta damp).rhobar =
    q.cbar * (q.next alpha beta damp).rho := turn_c_mul_r _ _

theorem next_sbar_mul : (q.next alpha beta damp).sbar * (q.next alpha beta damp).rhobar =
    (q.between alpha beta damp).thetanew := turn_s_mul_r _ _

/-- The diagonal of the squared bidiagonal. -/
theorem next_rho_sq : (q.next alpha beta damp).rho ^ 2 = q.alphabar ^ 2 + damp ^ 2 + beta ^ 2 := by
  have h1 : (q.next alpha beta damp).rho ^ 2 = (q.hat damp).r ^ 2 + beta ^ 2 := turn_r_sq _ _
  rw [h1, hat, turn_r_sq]

/-- The entry beside the diagonal. -/
theorem next_rho_mul : (q.next alpha beta damp).rho * (q.between alpha beta damp).thetanew =
    alpha * beta := by
  rw [between_thetanew]
  linear_combination alpha * s_mul_rho q alpha beta damp

theorem next_alphabar_sq : (q.next alpha beta damp).alphabar ^ 2 +
    (q.between alpha beta damp).thetanew ^ 2 = alpha ^ 2 := by
  rw [next_alphabar, between_thetanew]
  linear_combination alpha ^ 2 * fold_unit q alpha beta damp

/-! ### Signs -/

variable {q}

theorem next_rho_pos (ha : 0 < q.alphabar) : 0 < (q.next alpha beta damp).rho :=
  turn_r_pos (turn_r_pos ha)

theorem c_pos (ha : 0 < q.alphabar) : 0 < (q.between alpha beta damp).c :=
  turn_c_pos (turn_r_pos ha)

theorem rhotemp_pos (h : q.Sound) (ha : 0 < q.alphabar) :
    0 < (q.between alpha beta damp).rhotemp :=
  mul_pos h.cbar_pos (next_rho_pos alpha beta damp ha)

theorem next_rhobar_pos (h : q.Sound) (ha : 0 < q.alphabar) :
    0 < (q.next alpha beta damp).rhobar :=
  turn_r_pos (rhotemp_pos alpha beta damp h ha)

variable {alpha beta}

theorem thetanew_nonneg (ha : 0 < q.alphabar) (h0 : 0 ≤ alpha) (hb : 0 ≤ beta) :
    0 ≤ (q.between alpha beta damp).thetanew :=
  mul_nonneg (turn_s_nonneg (turn_r_pos ha) hb) h0

theorem Sound.next (h : q.Sound) (ha : 0 < q.alphabar) (h0 : 0 ≤ alpha) (hb : 0 ≤ beta) :
    (q.next alpha beta damp).Sound where
  rho_pos := next_rho_pos alpha beta damp ha
  rhobar_pos := next_rhobar_pos alpha beta damp h ha
  cbar_pos := turn_c_pos (rhotemp_pos alpha beta damp h ha)
  sbar_nonneg := turn_s_nonneg (rhotemp_pos alpha beta damp h ha) (thetanew_nonneg damp ha h0 hb)
  unit := next_unit q alpha beta damp

theorem next_alphabar_pos (ha : 0 < q.alphabar) (h0 : 0 < alpha) :
    0 < (q.next alpha beta damp).alphabar := mul_pos (c_pos alpha beta damp ha) h0

theorem Sound.next_sbar_eq_zero (h : q.Sound) (ha : 0 < q.alphabar) (h0 : alpha = 0 ∨ beta = 0) :
    (q.next alpha beta damp).sbar = 0 := by
  have hr := next_rho_pos alpha beta damp ha
  have ht : (q.between alpha beta damp).thetanew = 0 := by
    have h := next_rho_mul q alpha beta damp
    have h0' : alpha * beta = 0 := mul_eq_zero.2 h0
    rw [h0'] at h
    exact (mul_eq_zero.1 h).resolve_left hr.ne'
  exact (turn_s_eq_zero (rhotemp_pos alpha beta damp h ha)).2 ht

/-- **Where a scalar of the process vanishes, so does the residual of the normal equations.** -/
theorem Sound.next_zetabar_eq_zero (h : q.Sound) (ha : 0 < q.alphabar)
    (h0 : alpha = 0 ∨ beta = 0) : (q.next alpha beta damp).zetabar = 0 := by
  rw [next_zetabar, h.next_sbar_eq_zero damp ha h0, neg_zero, zero_mul]

end Rotation

/-! ### The lagged chain -/

namespace ResidualEstimate

/-- **How the estimate of the residual follows the rotations.** The right-hand side of the primary
chain is a multiple of the residual of the normal equations (`zetabar_eq`), and the two right-hand
sides of the lagged chain agree except in their last entry (`balance`). -/
structure Tracks (e : ResidualEstimate ℝ) (q : Rotation ℝ) : Prop where
  rhodold_pos : 0 < e.rhodold
  d_nonneg : 0 ≤ e.d
  zetabar_eq : q.zetabar = q.cbar * q.alphabar * e.betadd
  balance : e.rhodold * e.gap q + q.sbar * q.alphabar * e.betadd = 0

theorem tracks_initial (alpha beta : ℝ) : (initial beta).Tracks (.initial alpha beta) :=
  ⟨one_pos, le_rfl, by simp [initial, Rotation.initial],
    by simp [initial, Rotation.initial, gap]⟩

section

variable (e : ResidualEstimate ℝ) (t : RotationStep ℝ)

theorem tilde_unit : (e.tilde t).c ^ 2 + (e.tilde t).s ^ 2 = 1 := turn_unit _ _

theorem tilde_c_mul : (e.tilde t).c * (e.tilde t).r = e.rhodold := turn_c_mul_r _ _

theorem tilde_s_mul : (e.tilde t).s * (e.tilde t).r = t.thetabar := turn_s_mul_r _ _

theorem tilde_c_mul_thetabar : (e.tilde t).c * t.thetabar = (e.tilde t).s * e.rhodold := by
  linear_combination (e.tilde t).s * tilde_c_mul e t - (e.tilde t).c * tilde_s_mul e t

end

variable {e : ResidualEstimate ℝ} {q : Rotation ℝ} (alpha beta damp : ℝ)

/-- The entry of the primary right-hand side that a step settles. -/
noncomputable def betahat (e : ResidualEstimate ℝ) (t : RotationStep ℝ) : ℝ :=
  t.c * (t.chat * e.betadd)

theorem rho_mul_betahat :
    (q.next alpha beta damp).rho * e.betahat (q.between alpha beta damp) =
      q.alphabar * e.betadd := by
  rw [betahat]
  linear_combination e.betadd * Rotation.chat_mul_c_mul_rho q alpha beta damp

theorem tilde_r_pos (h : e.Tracks q) (t : RotationStep ℝ) : 0 < (e.tilde t).r :=
  turn_r_pos h.rhodold_pos

theorem tilde_c_pos (h : e.Tracks q) (t : RotationStep ℝ) : 0 < (e.tilde t).c :=
  turn_c_pos h.rhodold_pos

theorem Tracks.next_rhodold_pos (h : e.Tracks q) (hq : q.Sound) (ha : 0 < q.alphabar) :
    0 < (e.next (q.between alpha beta damp) (q.next alpha beta damp)).rhodold :=
  mul_pos (tilde_c_pos h _) (Rotation.next_rhobar_pos alpha beta damp hq ha)

/-- **The entry that leaves the lagged chain is the same on both sides.** -/
theorem Tracks.settled (h : e.Tracks q) :
    (e.tilde (q.between alpha beta damp)).c * e.gap q +
      (e.tilde (q.between alpha beta damp)).s * e.betahat (q.between alpha beta damp) = 0 := by
  set t := q.between alpha beta damp
  have hr := tilde_r_pos h t
  have hc := tilde_c_mul e t
  have hs : (e.tilde t).s * (e.tilde t).r = q.sbar * (q.next alpha beta damp).rho := tilde_s_mul e t
  have hb := rho_mul_betahat (e := e) (q := q) alpha beta damp
  -- The balance is this equation times the length of the lagged rotation.
  have h0 : (e.tilde t).r *
      ((e.tilde t).c * e.gap q + (e.tilde t).s * e.betahat t) = 0 := by
    linear_combination h.balance + e.gap q * hc + e.betahat t * hs + q.sbar * hb
  exact (mul_eq_zero.1 h0).resolve_left hr.ne'

theorem Tracks.next_gap (h : e.Tracks q) (hq : q.Sound) (ha : 0 < q.alphabar) :
    (e.next (q.between alpha beta damp) (q.next alpha beta damp)).gap (q.next alpha beta damp) =
      -(e.tilde (q.between alpha beta damp)).s * e.gap q +
        (e.tilde (q.between alpha beta damp)).c * e.betahat (q.between alpha beta damp) -
        (q.next alpha beta damp).zeta /
          (e.next (q.between alpha beta damp) (q.next alpha beta damp)).rhodold := by
  set t := q.between alpha beta damp
  set q' := q.next alpha beta damp
  have hc := (tilde_c_pos h t).ne'
  have hb : q'.rhobar ≠ 0 := (Rotation.next_rhobar_pos alpha beta damp hq ha).ne'
  set W := q.zeta - e.thetatilde * e.tautildeold with hW
  have h1 : W / (e.tilde t).r / (e.tilde t).c = W / e.rhodold := by
    rw [div_div, mul_comm, tilde_c_mul]
  -- What the solution of the lagged chain carries over does not depend on `rhobar`.
  have h2 : (e.tilde t).s * q'.rhobar * (W / (e.tilde t).r) / ((e.tilde t).c * q'.rhobar) =
      (e.tilde t).s * (W / e.rhodold) := by
    rw [← h1]; field_simp
  have h3 : (e.next t q').gap q' = -(e.tilde t).s * e.betad + (e.tilde t).c * e.betahat t -
      (q'.zeta - (e.tilde t).s * q'.rhobar * (W / (e.tilde t).r)) /
        ((e.tilde t).c * q'.rhobar) := rfl
  have h4 : (e.next t q').rhodold = (e.tilde t).c * q'.rhobar := rfl
  rw [h3, h4, sub_div, h2, gap, ← hW]
  ring

/-- **One step keeps the balance.** -/
theorem Tracks.next (h : e.Tracks q) (hq : q.Sound) (ha : 0 < q.alphabar) :
    (e.next (q.between alpha beta damp) (q.next alpha beta damp)).Tracks
      (q.next alpha beta damp) := by
  have hg := h.next_gap alpha beta damp hq ha
  have hs := h.settled alpha beta damp
  have hr := h.next_rhodold_pos alpha beta damp hq ha
  have hb := rho_mul_betahat (e := e) (q := q) alpha beta damp
  have hu := Rotation.next_unit q alpha beta damp
  have hcb := Rotation.next_cbar_mul q alpha beta damp
  have hsb := Rotation.next_sbar_mul q alpha beta damp
  set t := q.between alpha beta damp with ht
  set q' := q.next alpha beta damp with hq'
  have hz : q.zetabar = q'.cbar * q'.rhobar * e.betahat t := by
    linear_combination h.zetabar_eq - q.cbar * hb - e.betahat t * hcb
  have hbd : q'.alphabar * (e.next t q').betadd = -(q'.sbar * q'.rhobar * e.betahat t) := by
    have h1 : q'.alphabar = t.c * alpha := rfl
    have h2 : (e.next t q').betadd = -t.s * (t.chat * e.betadd) := rfl
    have h3 : t.thetanew = t.s * alpha := rfl
    rw [h1, h2, hsb, h3, betahat]; ring
  refine ⟨hr, ?_, ?_, ?_⟩
  · have h1 : (e.next t q').d = e.d + (-t.shat * e.betadd) ^ 2 := rfl
    have := h.d_nonneg
    rw [h1]; positivity
  · have h1 : q'.zetabar = -q'.sbar * q.zetabar := rfl
    rw [h1, hz]
    linear_combination -q'.cbar * hbd
  · have h1 : (e.next t q').rhodold = (e.tilde t).c * q'.rhobar := rfl
    have h2 : q'.zeta = q'.cbar * q.zetabar := rfl
    have h3 : (e.next t q').rhodold * (e.next t q').gap q' = q'.rhobar * e.betahat t - q'.zeta := by
      rw [hg, mul_sub, mul_div_cancel₀ _ hr.ne', h1]
      linear_combination q'.rhobar * e.betahat t * tilde_unit e t - (e.tilde t).s * q'.rhobar * hs
    rw [h3, h2, hz]
    linear_combination q'.sbar * hbd - q'.rhobar * e.betahat t * hu

end ResidualEstimate

end LeastSquares
