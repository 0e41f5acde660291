import LeastSquares.Proofs.Shift
import LeastSquares.Proofs.Termination

/-!
# What an iteration divides by

The recurrences divide by each other across iterations: the rotations by their lengths, the update
of the solution by the diagonals of this iteration and of the last, the estimates by the diagonal of
the lagged chain and by the least entry so far. None of these is checked before the division. They
are positive because an iteration begins only where no scalar of the process has vanished; the last
iteration may leave zeros behind, and nothing divides by those.

* `Run.Divisors`: **the divisors of an iteration**, with the signs that they rest on.
* `Course.divisors`: they are positive as long as no scalar has vanished.
* `Problem.never_divides_by_zero`: **no division of a solve is by zero.**
-/

namespace LeastSquares

open Bidiagonal

variable {𝕜 E F : Type} [RCLike 𝕜]
  [NormedAddCommGroup E] [InnerProductSpace 𝕜 E] [NormedSpace ℝ E] [FiniteDimensional 𝕜 E]
  [NormedAddCommGroup F] [InnerProductSpace 𝕜 F] [NormedSpace ℝ F] [FiniteDimensional 𝕜 F]
  {A : E →ₗ[𝕜] F} {b : F} {x₀ : E} {damp : ℝ}

/-- **The divisors of an iteration** that takes `s₀` to `s`, with what its rotations produce on the
way and the rotation of the lagged chain. -/
structure Run.Divisors (s₀ s : Run ℝ F E) (t : RotationStep ℝ) (tilde : PlaneRotation ℝ) :
    Prop where
  rho_pos : 0 < s.rotation.rho
  rhobar_pos : 0 < s.rotation.rhobar
  cbar_pos : 0 < s.rotation.cbar
  sbar_nonneg : 0 ≤ s.rotation.sbar
  rhodold_pos : 0 < s₀.residual.rhodold
  rhodold_next_pos : 0 < s.residual.rhodold
  /-- The length of the lagged rotation. -/
  tilde_pos : 0 < tilde.r
  /-- The divisor of the coefficient of `hbar`. -/
  hbar_pos : 0 < t.rhoold * t.rhobarold
  /-- The divisor of the coefficient of the solution. -/
  x_pos : 0 < s.rotation.rho * s.rotation.rhobar
  /-- The divisor of the condition number. -/
  least_pos : 0 < smaller s.norms.minrbar t.rhotemp
  conda_finite : ∃ c, s.conda = .finite c ∧ 0 < c
  norma_pos : 0 < s.norma
  normb_pos : 0 < s.normb
  /-- The divisor of the residual at the precision of the machine. -/
  scale_pos : 0 < 1 + s.norma * s.normx / s.normb

omit [NormedAddCommGroup E] [NormedSpace ℝ E] [NormedAddCommGroup F] [NormedSpace ℝ F] in
/-- Divisors have nothing to do with what ends and watches a solve. -/
theorem Run.divisors_bare {s₀ s : Run ℝ F E} {t : RotationStep ℝ} {tilde : PlaneRotation ℝ} :
    s₀.bare.Divisors s.bare t tilde ↔ s₀.Divisors s t tilde := by
  constructor <;> intro h
  all_goals exact ⟨h.rho_pos, h.rhobar_pos, h.cbar_pos, h.sbar_nonneg, h.rhodold_pos,
    h.rhodold_next_pos, h.tilde_pos, h.hbar_pos, h.x_pos, h.least_pos, h.conda_finite, h.norma_pos,
    h.normb_pos, h.scale_pos⟩

/-- **The divisors of an iteration are positive** before which no scalar has vanished. -/
theorem Course.divisors {S : ℕ → Run ℝ F E} {k : ℕ} (hS : Course A b x₀ damp S)
    (hl : Live (processOf S) k) :
    (S k).Divisors (S (k + 1)) (stepOf damp S k) ((S k).residual.tilde (stepOf damp S k)) := by
  have hs := hS.sound hl
  have hq := hS.rotation_sound_succ hl
  have he := hS.estimates hl
  have hrhodold : 0 < (S (k + 1)).residual.rhodold := by
    rw [hS.residual_succ, hS.rotation_succ]
    exact hs.residual.next_rhodold_pos _ _ damp hs.rotation hs.alphabar_pos
  have hleast : 0 < smaller (S (k + 1)).norms.minrbar (stepOf damp S k).rhotemp := by
    rw [exact_smaller, hS.succ, ← hS.between_eq]
    exact hs.least_pos damp
  have hconda : (S (k + 1)).conda = .finite ((S k).ratio A damp) := by rw [hS.succ]; rfl
  exact {
    rho_pos := hq.rho_pos
    rhobar_pos := hq.rhobar_pos
    cbar_pos := hq.cbar_pos
    sbar_nonneg := hq.sbar_nonneg
    rhodold_pos := hs.residual.rhodold_pos
    rhodold_next_pos := hrhodold
    tilde_pos := ResidualEstimate.tilde_r_pos hs.residual _
    hbar_pos := mul_pos hs.rotation.rho_pos hs.rotation.rhobar_pos
    x_pos := mul_pos hq.rho_pos hq.rhobar_pos
    least_pos := hleast
    conda_finite := ⟨_, hconda, hs.ratio_pos damp⟩
    norma_pos := he.norma_pos
    normb_pos := he.normb_pos
    scale_pos := by
      have hnormx : 0 ≤ (S (k + 1)).normx := he.normx_eq ▸ norm_nonneg _
      have := he.norma_pos
      have := he.normb_pos
      positivity }

/-- The rule of the condition number at the precision of the machine asks for an infinite one. -/
theorem StoppingTests.check_ne_condEps {normr normar norma conda normx normb atol btol : ℝ}
    (hc : 0 < conda) (n m : ℤ) (a c : ℝ) :
    (exact normr normar norma conda normx normb atol btol).check n m a c ≠ .condEps := by
  intro h
  have hfires := check_fires (exact normr normar norma conda normx normb atol btol) n m a c
  rw [h] at hfires
  have hle : 1 + 1 / conda ≤ 1 := by simpa [Fires, exact, Arithmetic.le] using hfires
  have := one_div_pos.2 hc
  linarith

namespace Problem

variable {P : Problem ℝ F E} {o : Observers ℝ} {k : ℕ} {s₀ s : Run ℝ F E}

section

variable (hP : P.operator = .exact A)

include hP

/-- **The divisors of an iteration that a solve executes.** -/
theorem Executes.divisors (h₀ : P.Begins (.initial b 0) x₀ 0 o k s₀)
    (h : P.Executes (.initial b 0) x₀ 0 o (k + 1) s) : ∃ t tilde,
      s₀.rotation.advance s.process.alpha s.process.beta P.damp = .ok (s.rotation, t) ∧
      PlaneRotation.ofPair s₀.residual.rhodold t.thetabar = .ok tilde ∧
      s₀.Divisors s t tilde := by
  have hS := course_spec A b x₀ P.damp
  obtain ⟨_, _, hk, -, hb, -⟩ := h.follows hP hS
  obtain rfl := Nat.succ.inj hk
  have hd := hS.divisors (h₀.live hP hS)
  rw [← (h₀.reached.follows hP hS).bare_eq, ← hb] at hd
  exact ⟨_, _, h.advance_rotation hP h₀, PlaneRotation.ofPair_eq _ _, Run.divisors_bare.1 hd⟩

theorem Reaches.stop_ne_condEps (h : P.Reaches (.initial b 0) x₀ 0 o k s) : s.stop ≠ .condEps := by
  cases k with
  | zero => rw [h.stop_zero]; simp
  | succ k =>
    obtain ⟨-, c, -, hc, hstop⟩ := h.estimates hP
    rw [hstop]
    exact StoppingTests.check_ne_condEps hc _ _ _ _

theorem stop_ne_condEps (h : P.solve (.initial b 0) x₀ 0 o = .returned s) : s.stop ≠ .condEps := by
  intro hstop
  obtain ⟨k, s', hr, rfl⟩ := returned_reaches h (by rw [hstop]; simp)
  exact hr.stop_ne_condEps hP hstop

variable (b x₀ o) in
/-- **No division of a solve is by zero.** In every iteration that is executed the divisors are
positive, so the condition number is finite, and the rule that asks for an infinite one never fires.
No solve fails by a division: unless the callback ends it, it returns. -/
theorem never_divides_by_zero :
    (∀ k s₀ s, P.Begins (.initial b 0) x₀ 0 o k s₀ →
      P.Executes (.initial b 0) x₀ 0 o (k + 1) s → ∃ t tilde,
        s₀.rotation.advance s.process.alpha s.process.beta P.damp = .ok (s.rotation, t) ∧
        PlaneRotation.ofPair s₀.residual.rhodold t.thetabar = .ok tilde ∧
        s₀.Divisors s t tilde) ∧
    (∀ k s, P.Executes (.initial b 0) x₀ 0 o k s → ∃ t, s.statistics P = .ok t ∧
      ∀ n m a c, t.check n m a c ≠ .condEps) ∧
    (∀ k s, P.Reaches (.initial b 0) x₀ 0 o k s → s.stop ≠ .condEps) ∧
    (∀ s, P.solve (.initial b 0) x₀ 0 o = .returned s → s.stop ≠ .condEps) ∧
    (∀ w, P.solve (.initial b 0) x₀ 0 o = .failed w →
      ∃ n t, w.fault = .interrupted n ∧ o.interrupts n t = true) ∧
    ((∀ n t, o.interrupts n t = false) →
      ∃ s, P.solve (.initial b 0) x₀ 0 o = .returned s) := by
  refine ⟨?_, ?_, ?_, ?_, ?_, returns_of_quiet hP⟩
  · intro k s₀ s h₀ h
    exact h.divisors hP h₀
  · intro k s h
    have hS := course_spec A b x₀ P.damp
    obtain ⟨k, s₀, rfl, h₀, -⟩ := h.follows hP hS
    refine ⟨_, h.statistics_eq hP, ?_⟩
    exact StoppingTests.check_ne_condEps ((hS.sound (h₀.live hP hS)).ratio_pos P.damp)
  · intro k s h
    exact h.stop_ne_condEps hP
  · intro s h
    exact stop_ne_condEps hP h
  · intro w h
    obtain ⟨k, t, hfault, hi⟩ := failed_interrupted hP h
    exact ⟨k + 1, t, hfault, hi⟩

end

/-- The second iteration for an operator that stretches, and the return of its solve. -/
theorem dampedStretching_divisors : ∃ s₁ s₂ s t tilde,
    dampedStretching.Begins (.initial ⟨1, 1⟩ 0) (-1) 0 Run.unwatched 1 s₁ ∧
    dampedStretching.Executes (.initial ⟨1, 1⟩ 0) (-1) 0 Run.unwatched 2 s₂ ∧
    s₁.Divisors s₂ t tilde ∧
    dampedStretching.solve (.initial ⟨1, 1⟩ 0) (-1) 0 Run.unwatched = .returned s ∧
    s.stop ≠ .condEps := by
  obtain ⟨hdivisors, -, -, hstop, -, hreturns⟩ :=
    never_divides_by_zero ⟨1, 1⟩ (-1) Run.unwatched dampedStretching_operator
  obtain ⟨s₁, s₂, h₁, h₂⟩ := dampedStretching_executes (o := Run.unwatched) fun _ _ => rfl
  obtain ⟨t, tilde, -, -, hd⟩ := hdivisors 1 s₁ s₂ h₁ h₂
  obtain ⟨s, h⟩ := hreturns fun _ _ => rfl
  exact ⟨s₁, s₂, s, t, tilde, h₁, h₂, hd, h, hstop s h⟩

end Problem

end LeastSquares
