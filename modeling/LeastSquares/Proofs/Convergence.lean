import LeastSquares.Proofs.Frobenius
import LeastSquares.Proofs.Objective

/-!
# What it means that a solve stops

The rules of a solve compare estimates. Over the real numbers the estimates of the residuals are
their norms, and that of the operator is on the safe side of its norm; so a solve that says that it
has converged has done so. The residual is measured against the first one, `b - A x₀`, which is the
right-hand side only for a solve that begins at zero.

* `StoppingTests.Fires`, `StoppingTests.check_fires`: **what a rule asks for** that ends a solve.
* `Estimates`: **what the estimates of an iteration are worth.**
* `Problem.Reaches.estimates`, `Problem.returned_fires`: of every iteration, and of every solve.
* `Problem.convergence_sound`: **a solve that reports that it has converged has converged.**
* `Problem.residual_bounded`: **what the rule of the residual promises.**
-/

namespace LeastSquares

open Bidiagonal

/-! ### Rules -/

namespace StoppingTests

section

variable {α : Type} [Arithmetic α]

/-- **What a rule asks for** that ends an iteration. -/
def Fires (t : StoppingTests α) (n m : Int) (atol ctol : α) : StopReason → Prop
  | .ongoing => True
  | .maxiter => m ≤ n
  | .condEps => Arithmetic.le (1 + t.test3) 1
  | .atolEps => t.test2.isNegligible
  | .btolEps => Arithmetic.le (1 + t.t1) 1
  | .conlim => Arithmetic.le t.test3 ctol
  | .atol => t.test2.le atol
  | .btol => Arithmetic.le t.test1 t.rtol

/-- **The rule that ends an iteration has found what it asks for.** -/
theorem check_fires (t : StoppingTests α) (n m : Int) (atol ctol : α) :
    t.Fires n m atol ctol (t.check n m atol ctol) := by
  unfold check
  split_ifs <;> trivial

end

variable {normr normar norma conda normx normb atol btol ctol : ℝ} {n m : ℤ} {r : StopReason}

/-- **The rules of the normal equations bound their residual.** The infinite statistic of a residual
that vanishes fires neither of them. -/
theorem Fires.normar_le (hr : r = .atol ∨ r = .atolEps) (hatol : 0 ≤ atol)
    (h : (exact normr normar norma conda normx normb atol btol).Fires n m atol ctol r) :
    normar ≤ atol * norma * normr := by
  have hle : 0 < normr ∧ 0 < norma ∧ normar / (norma * normr) ≤ atol := by
    by_cases hpos : 0 < normr ∧ 0 < norma
    · refine ⟨hpos.1, hpos.2, ?_⟩
      rcases hr with rfl | rfl
      · simpa [Fires, exact, hpos, Extended.le, Arithmetic.le] using h
      · have h0 : normar / (norma * normr) ≤ 0 := by
          simpa [Fires, exact, hpos, Extended.isNegligible, Arithmetic.le] using h
        exact h0.trans hatol
    · rcases hr with rfl | rfl
      · simp [Fires, exact, hpos, Extended.le, Arithmetic.isTop] at h
      · simp [Fires, exact, hpos, Extended.isNegligible] at h
  obtain ⟨hnormr, hnorma, hle⟩ := hle
  rw [div_le_iff₀ (mul_pos hnorma hnormr)] at hle
  linarith

/-- **The rules of the residual bound it.** -/
theorem Fires.normr_le (hr : r = .btol ∨ r = .btolEps) (hb : 0 < normb) (hA : 0 ≤ norma)
    (hx : 0 ≤ normx) (hatol : 0 ≤ atol) (hbtol : 0 ≤ btol)
    (h : (exact normr normar norma conda normx normb atol btol).Fires n m atol ctol r) :
    normr ≤ btol * normb + atol * norma * normx := by
  rcases hr with rfl | rfl
  · have hle : normr / normb ≤ btol + atol * norma * normx / normb := by
      simpa [Fires, exact, Arithmetic.le] using h
    calc normr = normr / normb * normb := (div_mul_cancel₀ _ hb.ne').symm
      _ ≤ (btol + atol * norma * normx / normb) * normb :=
          mul_le_mul_of_nonneg_right hle hb.le
      _ = btol * normb + atol * norma * normx := by
          rw [add_mul, div_mul_cancel₀ _ hb.ne']
  · have hle : normr / normb / (1 + norma * normx / normb) ≤ 0 := by
      simpa [Fires, exact, Arithmetic.le] using h
    have hnormr : normr ≤ 0 := by
      rw [div_le_iff₀ (by positivity), zero_mul, div_le_iff₀ hb, zero_mul] at hle
      exact hle
    exact hnormr.trans (by positivity)

end StoppingTests

variable {𝕜 E F : Type} [RCLike 𝕜]
  [NormedAddCommGroup E] [InnerProductSpace 𝕜 E] [NormedSpace ℝ E] [FiniteDimensional 𝕜 E]
  [NormedAddCommGroup F] [InnerProductSpace 𝕜 F] [NormedSpace ℝ F] [FiniteDimensional 𝕜 F]
  {A : E →ₗ[𝕜] F} {b : F} {x₀ : E} {damp : ℝ} {k : ℕ}

/-! ### Estimates -/

variable (A b x₀ damp) in
/-- **The norm of both residuals together**, of the equations and of the damping. -/
noncomputable def dampedNorm (x : E) : ℝ := √(‖b - A x‖ ^ 2 + damp ^ 2 * ‖x - x₀‖ ^ 2)

variable (A b x₀ damp) in
/-- **What the estimates of an iteration are worth**: those of residuals and vectors are their
norms, and that of the operator does not exceed its norm. -/
structure Estimates (s : Run ℝ F E) : Prop where
  normr_eq : s.normr = dampedNorm A b x₀ damp s.iterate.x
  normar_eq : s.normar = ‖normalResidual A b x₀ damp s.iterate.x‖
  norma_pos : 0 < s.norma
  norma_le : s.norma ≤ frobenius A
  normx_eq : s.normx = ‖s.iterate.x‖
  normb_eq : s.normb = ‖b - A x₀‖
  normb_pos : 0 < s.normb

omit [NormedSpace ℝ F] in
/-- Estimates have nothing to do with what ends and watches a solve. -/
theorem estimates_bare {s : Run ℝ F E} :
    Estimates A b x₀ damp s.bare ↔ Estimates A b x₀ damp s := by
  constructor <;> intro h
  all_goals exact ⟨h.normr_eq, h.normar_eq, h.norma_pos, h.norma_le, h.normx_eq, h.normb_eq,
    h.normb_pos⟩

namespace Course

variable {S : ℕ → Run ℝ F E} (hS : Course A b x₀ damp S)

include hS

theorem normb_eq (k : ℕ) : (S k).normb = ‖b - A x₀‖ := by
  induction k with
  | zero => rw [hS.zero]; rfl
  | succ k ih => rw [hS.succ, ← ih]; rfl

/-- **The estimates of an iteration** before which no scalar of the process has vanished. -/
theorem estimates (hl : Live (processOf S) k) : Estimates A b x₀ damp (S (k + 1)) where
  normr_eq := by rw [dampedNorm, ← hS.normr_sq hl, Real.sqrt_sq (hS.normr_nonneg k)]
  normar_eq := (hS.norm_residual hl).symm
  norma_pos := by
    rw [hS.succ]
    exact (hS.sound hl).norma_pos damp
  norma_le := hS.norma_le_frobenius hl
  normx_eq := by rw [hS.succ]; rfl
  normb_eq := hS.normb_eq _
  normb_pos := by
    rw [hS.normb_eq, ← hS.normb_eq k]
    exact (hS.sound hl).normb_pos

end Course

namespace Problem

variable {P : Problem ℝ F E} {o : Observers ℝ} {s : Run ℝ F E} (hP : P.operator = .exact A)

include hP

/-- **What is made of the estimates** at the end of an iteration. -/
theorem Reaches.estimates (h : P.Reaches (.initial b 0) x₀ 0 o (k + 1) s) :
    Estimates A b x₀ P.damp s ∧ ∃ c, s.conda = .finite c ∧ 0 < c ∧ s.stop =
      (StoppingTests.exact s.normr s.normar s.norma c s.normx s.normb P.atol P.btol).check
        (k + 1 : ℕ) P.maxiter P.atol P.ctol := by
  have hS := course_spec A b x₀ P.damp
  obtain ⟨s₁, hbegins, hstop⟩ := h.stop_eq_check hP hS
  have hl := hbegins.live hP hS
  have hb := (h.follows hP hS).bare_eq
  have hnext : (s₁.next A P.damp).bare = s.bare := by
    rw [Run.bare_next, (hbegins.reached.follows hP hS).bare_eq, hb, hS.succ]
  -- The statistics are those of the state that the iteration leaves.
  have htests : s₁.tests A P.damp P.atol P.btol = .exact s.normr s.normar s.norma
      (s₁.ratio A P.damp) s.normx s.normb P.atol P.btol := by
    have h := congrArg (fun s : Run ℝ F E => StoppingTests.exact s.normr s.normar s.norma
      (s₁.ratio A P.damp) s.normx s.normb P.atol P.btol) hnext
    exact h
  refine ⟨estimates_bare.1 (hb ▸ hS.estimates hl), s₁.ratio A P.damp, ?_, ?_, ?_⟩
  · exact (congrArg Run.conda hnext).symm
  · exact (sound_of_live hS (hbegins.reached.follows hP hS).bare_eq hl).ratio_pos P.damp
  · rw [hstop, htests]

/-- **What has ended a solve** that a rule has ended. -/
theorem returned_fires (h : P.solve (.initial b 0) x₀ 0 o = .returned s)
    (hstop : s.stop ≠ .ongoing) : Estimates A b x₀ P.damp s ∧ ∃ k c, s.conda = .finite c ∧ 0 < c ∧
      (StoppingTests.exact s.normr s.normar s.norma c s.normx s.normb P.atol P.btol).Fires
        (k + 1 : ℕ) P.maxiter P.atol P.ctol s.stop := by
  obtain ⟨k, s', hr, rfl⟩ := returned_reaches h hstop
  obtain ⟨he, c, hc, hc0, hcheck⟩ := hr.estimates hP
  have he' : Estimates A b x₀ P.damp s'.close.bare :=
    (estimates_bare.2 he : Estimates A b x₀ P.damp s'.bare)
  refine ⟨estimates_bare.1 he', k, c, hc, hc0, ?_⟩
  rw [show s'.close.stop = s'.stop from rfl, hcheck]
  exact StoppingTests.check_fires _ _ _ _ _

end Problem

/-! ### The first iteration for an operator that stretches -/

section

variable {a : ℝ} {b x₀ : ℂ} {P : Problem ℝ ℂ ℂ} {o : Observers ℝ}

/-- **How far the first iteration goes**, without damping. -/
theorem stretching_one {S : ℕ → Run ℝ ℂ ℂ} (ha : a ≠ 0) (hS : Course (stretching a) b x₀ 0 S)
    (hl : Live (processOf S) 0) : ∃ c : ℝ,
      (S 1).iterate.x = x₀ + c • stretching a (b - stretching a x₀) ∧
      c * a ^ 2 * ((b - stretching a x₀).re ^ 2 + 64 * (b - stretching a x₀).im ^ 2) =
        (b - stretching a x₀).re ^ 2 + 16 * (b - stretching a x₀).im ^ 2 := by
  obtain ⟨c, hx, hvalue, horth⟩ := stretching_first hS hl
  set r := b - stretching a x₀
  refine ⟨c, hx, ?_⟩
  rw [hvalue, normalMap_stretching, stretching_apply] at horth
  have h : a ^ 4 * (c * a ^ 2 * (r.re ^ 2 + 64 * r.im ^ 2) - (r.re ^ 2 + 16 * r.im ^ 2)) = 0 := by
    simp only [Complex.inner, Complex.mul_re, Complex.conj_re, Complex.conj_im] at horth
    linarith
  linarith [(mul_eq_zero.1 h).resolve_left (pow_ne_zero 4 ha)]

variable (b x₀) in
/-- **How the first iteration of a stretching problem ends**, without damping and without a
tolerance for the normal equations. -/
theorem Problem.stretching_stops (hP : P.operator = .exact (stretching a)) (ha : a ≠ 0)
    (hdamp : P.damp = 0) (hatol : P.atol = 0) (hmax : 1 < P.maxiter)
    (hre : (b - stretching a x₀).re ≠ 0) (him : (b - stretching a x₀).im ≠ 0)
    (hquiet : ∀ n t, o.interrupts n t = false) : ∃ (s : Run ℝ ℂ ℂ) (c d : ℝ),
      P.Reaches (.initial b 0) x₀ 0 o 1 s ∧
      s.iterate.x = x₀ + c • stretching a (b - stretching a x₀) ∧
      c * a ^ 2 * ((b - stretching a x₀).re ^ 2 + 64 * (b - stretching a x₀).im ^ 2) =
        (b - stretching a x₀).re ^ 2 + 16 * (b - stretching a x₀).im ^ 2 ∧
      s.conda = .finite d ∧ 0 < d ∧ s.stop =
        if 1 / d ≤ P.ctol then .conlim
        else if ‖b - stretching a s.iterate.x‖ ≤ P.btol * ‖b - stretching a x₀‖ then .btol
        else .ongoing := by
  have hS := course_spec (stretching a) b x₀ P.damp
  have hab := opening_stretching_ne_zero ha hre
  obtain ⟨s, hr⟩ := reaches_one hP hab (by omega) hquiet
  obtain ⟨he, d, hd, hd0, hstop⟩ := hr.estimates hP
  rw [hdamp] at hS he
  have hx : (course (stretching a) b x₀ 0 1).iterate = s.iterate := by
    rw [← Run.bare_iterate (s := s), (hr.follows hP (course_spec _ _ _ _)).bare_eq, hdamp]
  have hl := hS.recurs.live_zero_iff.2 (adjoint_stretching_ne_zero ha hre)
  obtain ⟨c, hc, hc'⟩ := stretching_one ha hS hl
  have hres := residual_stretching_ne_zero ha hre him hS hl
  rw [hx] at hc hres
  refine ⟨s, c, d, hr, hc, hc', hd, hd0, ?_⟩
  have hnormr : s.normr = ‖b - stretching a s.iterate.x‖ := by
    rw [he.normr_eq, dampedNorm, zero_pow two_ne_zero, zero_mul, add_zero,
      Real.sqrt_sq (norm_nonneg _)]
  have hnormr0 : 0 < s.normr := by
    refine lt_of_le_of_ne (he.normr_eq ▸ Real.sqrt_nonneg _) fun h0 => hres ?_
    refine normalResidual_eq_zero ?_
    rw [zero_pow two_ne_zero, zero_mul, add_zero, ← hnormr, ← h0, zero_pow two_ne_zero]
  have hnormar : 0 < s.normar := he.normar_eq ▸ norm_pos_iff.2 hres
  have hnormx : 0 ≤ s.normx := he.normx_eq ▸ norm_nonneg _
  rw [hstop, hatol, StoppingTests.check_positive (by exact_mod_cast hmax) hnormr0 hnormar
    he.norma_pos hd0 hnormx he.normb_pos, hnormr, he.normb_eq]

end

/-! ### Solves that report that they have converged -/

namespace Problem

theorem norm_stretchingProblem :
    ‖(⟨1, 1⟩ : ℂ) - stretching 1 ⟨-(7 / 17), 10 / 17⟩‖ = √(585 / 289) := by
  rw [stretching_apply, Complex.norm_eq_sqrt_sq_add_sq]
  norm_num

/-- Its first iteration is the last one. -/
theorem stretchingProblem_reaches : ∃ s,
    (stretchingProblem 1 (3 / 4) 0).Reaches (.initial ⟨1, 1⟩ 0) (-1) 0 Run.unwatched 1 s ∧
      s.stop = .btol ∧ s.iterate.x = ⟨-(7 / 17), 10 / 17⟩ := by
  obtain ⟨s, c, d, h, hx, hc, -, hd, hstop⟩ := stretching_stops ⟨1, 1⟩ (-1) (a := 1)
    (P := stretchingProblem 1 (3 / 4) 0) (o := Run.unwatched) rfl one_ne_zero rfl rfl (by decide)
    (by rw [sub_stretching_one]; norm_num) (by rw [sub_stretching_one]; norm_num) fun _ _ => rfl
  rw [sub_stretching_one] at hx hc hstop
  obtain rfl : c = 5 / 17 := by linarith
  have hx' : s.iterate.x = ⟨-(7 / 17), 10 / 17⟩ := by
    rw [hx, stretching_apply]
    apply Complex.ext <;> norm_num
  have hle : ‖(⟨1, 1⟩ : ℂ) - stretching 1 s.iterate.x‖ ≤ 3 / 4 * ‖(⟨2, 1⟩ : ℂ)‖ := by
    rw [hx', norm_stretchingProblem, Complex.norm_eq_sqrt_sq_add_sq]
    refine Real.sqrt_le_iff.2 ⟨by positivity, ?_⟩
    rw [mul_pow, Real.sq_sqrt (by positivity)]
    norm_num
  have hctol : ¬ 1 / d ≤ (stretchingProblem 1 (3 / 4) 0).ctol := (one_div_pos.2 hd).not_ge
  have hbtol : s.stop = .btol := by
    rw [hstop, if_neg hctol]
    exact if_pos hle
  exact ⟨s, h, hbtol, hx'⟩

theorem stretchingProblem_solve : ∃ s,
    (stretchingProblem 1 (3 / 4) 0).solve (.initial ⟨1, 1⟩ 0) (-1) 0 Run.unwatched = .returned s ∧
      s.stop = .btol ∧ s.iterate.x = ⟨-(7 / 17), 10 / 17⟩ := by
  obtain ⟨s, h, hstop, hx⟩ := stretchingProblem_reaches
  exact ⟨s.close, h.returns (.inl (by simp [hstop])), hstop, hx⟩

variable {P : Problem ℝ F E} {o : Observers ℝ} {s : Run ℝ F E}

/-- The residual of a solve that a rule of the residual ends. -/
theorem dampedNorm_le (hP : P.operator = .exact A) (hatol : 0 ≤ P.atol) (hbtol : 0 ≤ P.btol)
    (h : P.solve (.initial b 0) x₀ 0 o = .returned s) (hr : s.stop = .btol ∨ s.stop = .btolEps) :
    dampedNorm A b x₀ P.damp s.iterate.x ≤
      P.btol * ‖b - A x₀‖ + P.atol * frobenius A * ‖s.iterate.x‖ := by
  obtain ⟨he, k, c, -, -, hf⟩ := returned_fires hP h (by rcases hr with hr | hr <;> simp [hr])
  have hx : 0 ≤ s.normx := he.normx_eq ▸ norm_nonneg _
  calc dampedNorm A b x₀ P.damp s.iterate.x
      = s.normr := he.normr_eq.symm
    _ ≤ P.btol * s.normb + P.atol * s.norma * s.normx :=
        hf.normr_le hr he.normb_pos he.norma_pos.le hx hatol hbtol
    _ ≤ P.btol * s.normb + P.atol * frobenius A * s.normx := by
        gcongr
        exact he.norma_le
    _ = P.btol * ‖b - A x₀‖ + P.atol * frobenius A * ‖s.iterate.x‖ := by
        rw [he.normb_eq, he.normx_eq]

/-- **A solve that reports that it has converged has converged**: by a rule of the normal equations
their residual is as small as was asked for, and by a rule of the residual that is, measured against
the first one. -/
theorem convergence_sound (hP : P.operator = .exact A) (hatol : 0 ≤ P.atol) (hbtol : 0 ≤ P.btol)
    (h : P.solve (.initial b 0) x₀ 0 o = .returned s) :
    (s.stop = .atol ∨ s.stop = .atolEps → ‖normalResidual A b x₀ P.damp s.iterate.x‖ ≤
      P.atol * frobenius A * dampedNorm A b x₀ P.damp s.iterate.x) ∧
    (s.stop = .btol ∨ s.stop = .btolEps → dampedNorm A b x₀ P.damp s.iterate.x ≤
      P.btol * ‖b - A x₀‖ + P.atol * frobenius A * ‖s.iterate.x‖) := by
  refine ⟨?_, dampedNorm_le hP hatol hbtol h⟩
  intro hr
  obtain ⟨he, k, c, -, -, hf⟩ := returned_fires hP h (by rcases hr with hr | hr <;> simp [hr])
  have hnormr : 0 ≤ s.normr := he.normr_eq ▸ Real.sqrt_nonneg _
  calc ‖normalResidual A b x₀ P.damp s.iterate.x‖
      = s.normar := he.normar_eq.symm
    _ ≤ P.atol * s.norma * s.normr := hf.normar_le hr hatol
    _ ≤ P.atol * frobenius A * s.normr := by
        gcongr
        exact he.norma_le
    _ = P.atol * frobenius A * dampedNorm A b x₀ P.damp s.iterate.x := by rw [he.normr_eq]

theorem stretchingProblem_sound : ∃ s,
    (stretchingProblem 1 (3 / 4) 0).solve (.initial ⟨1, 1⟩ 0) (-1) 0 Run.unwatched = .returned s ∧
      dampedNorm (stretching 1) ⟨1, 1⟩ (-1) 0 s.iterate.x ≤
        3 / 4 * ‖(⟨1, 1⟩ : ℂ) - stretching 1 (-1)‖ := by
  obtain ⟨s, h, hstop, -⟩ := stretchingProblem_solve
  have hle := (convergence_sound (P := stretchingProblem 1 (3 / 4) 0) rfl le_rfl
    (by norm_num [stretchingProblem]) h).2 (.inl hstop)
  refine ⟨s, h, hle.trans_eq ?_⟩
  simp only [stretchingProblem, zero_mul, add_zero]

/-- **What the rule of the residual promises**: the residual is as small as was asked for, measured
against the first one. Measured against the right-hand side it is so if the solution to begin with
is no worse than zero. -/
theorem residual_bounded (hP : P.operator = .exact A) (hatol : 0 ≤ P.atol) (hbtol : 0 ≤ P.btol)
    (h : P.solve (.initial b 0) x₀ 0 o = .returned s) (hr : s.stop = .btol) :
    ‖b - A s.iterate.x‖ ≤ P.btol * ‖b - A x₀‖ + P.atol * frobenius A * ‖s.iterate.x‖ ∧
    (‖b - A x₀‖ ≤ ‖b‖ →
      ‖b - A s.iterate.x‖ ≤ P.btol * ‖b‖ + P.atol * frobenius A * ‖s.iterate.x‖) := by
  have hle : ‖b - A s.iterate.x‖ ≤
      P.btol * ‖b - A x₀‖ + P.atol * frobenius A * ‖s.iterate.x‖ := by
    refine le_trans ?_ (dampedNorm_le hP hatol hbtol h (.inl hr))
    exact Real.le_sqrt_of_sq_le (le_add_of_nonneg_right (by positivity))
  refine ⟨hle, fun hb => hle.trans ?_⟩
  gcongr

theorem stretchingProblem_bounded : ∃ s,
    (stretchingProblem 1 (3 / 4) 0).solve (.initial ⟨1, 1⟩ 0) (-1) 0 Run.unwatched = .returned s ∧
      ‖(⟨1, 1⟩ : ℂ) - stretching 1 s.iterate.x‖ ≤
        3 / 4 * ‖(⟨1, 1⟩ : ℂ) - stretching 1 (-1)‖ := by
  obtain ⟨s, h, hstop, -⟩ := stretchingProblem_solve
  have hle := (residual_bounded (P := stretchingProblem 1 (3 / 4) 0) rfl le_rfl
    (by norm_num [stretchingProblem]) h hstop).1
  refine ⟨s, h, hle.trans_eq ?_⟩
  simp only [stretchingProblem, zero_mul, add_zero]

/-- **Measured against the right-hand side the residual may be larger**, if the solution to begin
with is worse than zero. -/
theorem stretchingProblem_exceeds : ∃ s,
    (stretchingProblem 1 (3 / 4) 0).solve (.initial ⟨1, 1⟩ 0) (-1) 0 Run.unwatched = .returned s ∧
      s.stop = .btol ∧
      (stretchingProblem 1 (3 / 4) 0).btol * ‖(⟨1, 1⟩ : ℂ)‖ +
          (stretchingProblem 1 (3 / 4) 0).atol * frobenius (stretching 1) * ‖s.iterate.x‖ <
        ‖(⟨1, 1⟩ : ℂ) - stretching 1 s.iterate.x‖ := by
  obtain ⟨s, h, hstop, hx⟩ := stretchingProblem_solve
  refine ⟨s, h, hstop, ?_⟩
  have hb : ‖(⟨1, 1⟩ : ℂ)‖ = √2 := by
    rw [Complex.norm_eq_sqrt_sq_add_sq]; norm_num
  have hlt : 3 / 4 * √2 < √(585 / 289) := by
    refine Real.lt_sqrt_of_sq_lt ?_
    rw [mul_pow, Real.sq_sqrt zero_le_two]
    norm_num
  rw [hx, norm_stretchingProblem, hb]
  simpa [stretchingProblem] using hlt

end Problem

end LeastSquares
