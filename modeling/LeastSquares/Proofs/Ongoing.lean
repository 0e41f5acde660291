import Mathlib.Analysis.CStarAlgebra.Classes
import Mathlib.LinearAlgebra.Complex.FiniteDimensional
import LeastSquares.Proofs.Damped
import LeastSquares.Proofs.NormalCourse
import LeastSquares.Proofs.RealSolve

/-!
# Solves that go on

Without tolerances no rule fires before the budget is used up, unless the normal equations are
solved. The first iteration moves along `Aᴴ (b - A x₀)`, so it solves them only if that is stretched
to a multiple of itself. An operator that stretches the axes of a plane differently, and a residual
that is on none of them, make a second iteration, whatever the damping is.

* `StoppingTests.check_positive`: the rules without a tolerance for the normal equations.
* `Problem.Reaches.residual_eq_zero`: **a rule that fires without tolerances** finds the normal
  equations solved.
* `Course.x_one`: **where the first iteration goes.**
* `stretching`, `Problem.stretching_goes_on`: **a solve of two iterations**, with any damping.
-/

namespace LeastSquares

open Bidiagonal

/-! ### Rules without tolerances -/

/-- **Without a tolerance for the normal equations**, and as long as their residual does not vanish,
only the condition number and the residual end a solve before its budget does. -/
theorem StoppingTests.check_positive {normr normar norma conda normx normb btol ctol : ℝ}
    {n m : ℤ} (hnm : n < m) (hr : 0 < normr) (har : 0 < normar) (hA : 0 < norma) (hc : 0 < conda)
    (hx : 0 ≤ normx) (hb : 0 < normb) :
    (StoppingTests.exact normr normar norma conda normx normb 0 btol).check n m 0 ctol =
      if 1 / conda ≤ ctol then .conlim else if normr ≤ btol * normb then .btol else .ongoing := by
  have h2 : 0 < normar / (norma * normr) := div_pos har (mul_pos hA hr)
  have h3 : 0 < 1 / conda := one_div_pos.2 hc
  have h4 : 0 < normr / normb / (1 + norma * normx / normb) := by positivity
  unfold check StoppingTests.exact Extended.isNegligible Extended.le
  simp only [Arithmetic.le, hr, hA, and_self, if_true, if_neg hnm.not_ge, decide_eq_true_eq,
    add_le_iff_nonpos_right, h2.not_ge, h3.not_ge, h4.not_ge, if_false, zero_mul,
    zero_div, add_zero, div_le_iff₀ hb]

/-- **Without tolerances a rule fires only where a residual vanishes**, or at the end of the
budget. -/
theorem StoppingTests.check_ongoing {normr normar norma conda normx normb : ℝ} {n m : ℤ}
    (hnm : n < m) (hr : 0 < normr) (har : 0 < normar) (hA : 0 < norma) (hc : 0 < conda)
    (hx : 0 ≤ normx) (hb : 0 < normb) :
    (StoppingTests.exact normr normar norma conda normx normb 0 0).check n m 0 0 = .ongoing := by
  rw [check_positive hnm hr har hA hc hx hb, if_neg (one_div_pos.2 hc).not_ge, zero_mul,
    if_neg hr.not_ge]

variable {𝕜 E F : Type} [RCLike 𝕜]
  [NormedAddCommGroup E] [InnerProductSpace 𝕜 E] [NormedSpace ℝ E] [FiniteDimensional 𝕜 E]
  [NormedAddCommGroup F] [InnerProductSpace 𝕜 F] [NormedSpace ℝ F] [FiniteDimensional 𝕜 F]
  {A : E →ₗ[𝕜] F} {b : F} {x₀ : E} {damp : ℝ}

omit [NormedSpace ℝ F] in
/-- The residual of the normal equations vanishes with the damped residual. -/
theorem normalResidual_eq_zero {x : E} (h : ‖b - A x‖ ^ 2 + damp ^ 2 * ‖x - x₀‖ ^ 2 = 0) :
    normalResidual A b x₀ damp x = 0 := by
  have h1 : 0 ≤ damp ^ 2 * ‖x - x₀‖ ^ 2 := by positivity
  have h2 : b - A x = 0 :=
    norm_eq_zero.1 (pow_eq_zero_iff two_ne_zero |>.1 (by nlinarith [sq_nonneg ‖b - A x‖]))
  have h3 : (damp * ‖x - x₀‖) ^ 2 = 0 := by nlinarith [sq_nonneg ‖b - A x‖]
  rw [normalResidual, h2, map_zero, zero_sub, neg_eq_zero]
  rcases mul_eq_zero.1 (pow_eq_zero_iff two_ne_zero |>.1 h3) with h | h
  · rw [h]; simp
  · rw [norm_eq_zero.1 h, smul_zero]

/-- A rule that fires without tolerances finds the normal equations solved. -/
theorem Problem.Reaches.residual_eq_zero {P : Problem ℝ F E} {o : Observers ℝ} {k : ℕ}
    {s : Run ℝ F E} (hP : P.operator = .exact A) (h : P.Reaches (.initial b 0) x₀ 0 o k s)
    (hstop : s.stop ≠ .ongoing) (hatol : P.atol = 0) (hbtol : P.btol = 0) (hctol : P.ctol = 0)
    (hk : k < P.maxiter) : normalResidual A b x₀ P.damp s.iterate.x = 0 := by
  have hS := course_spec A b x₀ P.damp
  cases k with
  | zero => exact absurd h.stop_zero hstop
  | succ k =>
    have hb := (h.follows hP hS).bare_eq
    obtain ⟨s₁, hbegins, hcheck⟩ := h.stop_eq_check hP hS
    have hl := hbegins.live hP hS
    have hb₁ := (hbegins.reached.follows hP hS).bare_eq
    have hsound := sound_of_live hS hb₁ hl
    have hnext : (s₁.next A P.damp).bare = course A b x₀ P.damp (k + 1) := by
      rw [Run.bare_next, hb₁]; rfl
    rw [← Run.bare_iterate, hb]
    -- Otherwise both residuals are nonzero, and no rule fires.
    by_contra hne
    have hnormar : 0 < (s₁.next A P.damp).normar := by
      rw [← Run.bare_normar, hnext, ← hS.norm_residual hl]
      exact norm_pos_iff.2 hne
    have hnormr : 0 < (s₁.next A P.damp).normr := by
      rw [← Run.bare_normr, hnext]
      refine lt_of_le_of_ne (hS.normr_nonneg k) fun h0 => hne (normalResidual_eq_zero ?_)
      rw [← hS.normr_sq hl, ← h0]; ring
    have hnormx : 0 ≤ (s₁.next A P.damp).normx := norm_nonneg _
    rw [Run.tests, hatol, hbtol, hctol, StoppingTests.check_ongoing (Nat.cast_lt.2 hk) hnormr
      hnormar (hsound.norma_pos _) (hsound.ratio_pos _) hnormx hsound.normb_pos] at hcheck
    exact hstop hcheck

/-! ### The first iteration -/

/-- **The first iteration goes along `Aᴴ (b - A x₀)`** as far as the residual gets smaller. -/
theorem Course.x_one {S : ℕ → Run ℝ F E} (hS : Course A b x₀ damp S)
    (hl : Live (processOf S) 0) : ∃ c : 𝕜,
      (S 1).iterate.x = x₀ + c • A.adjoint (b - A x₀) ∧
      normalResidual A b x₀ damp (S 1).iterate.x =
        A.adjoint (b - A x₀) - c • normalMap A damp (A.adjoint (b - A x₀)) ∧
      inner 𝕜 (normalMap A damp (A.adjoint (b - A x₀)))
        (normalResidual A b x₀ damp (S 1).iterate.x) = 0 := by
  set g := A.adjoint (b - A x₀) with hg
  have hspan : vSpan 𝕜 (processOf S) 1 = 𝕜 ∙ g := by
    rw [hS.recurs.vSpan_eq_krylov hl, krylov]
    simp [hg]
  have hx : (S 1).iterate.x - x₀ ∈ 𝕜 ∙ g := hspan ▸ hS.x_sub_mem hl
  obtain ⟨c, hc⟩ := Submodule.mem_span_singleton.1 hx
  have hx' : (S 1).iterate.x = x₀ + c • g := by rw [hc]; abel
  refine ⟨c, hx', ?_, ?_⟩
  · rw [hx', normalResidual_add, normalResidual_start, map_smul]
  · exact hS.inner_residual hl (hspan ▸ Submodule.mem_span_singleton_self g)

/-! ### An operator that stretches -/

/-- **A multiple of the map that doubles imaginary parts.** -/
noncomputable def stretching (a : ℝ) : ℂ →ₗ[ℝ] ℂ where
  toFun z := ⟨a * z.re, (a + a) * z.im⟩
  map_add' z w := by apply Complex.ext <;> simp <;> ring
  map_smul' t z := by apply Complex.ext <;> simp <;> ring

theorem stretching_apply (a : ℝ) (z : ℂ) : stretching a z = ⟨a * z.re, 2 * a * z.im⟩ := by
  rw [two_mul]
  rfl

theorem stretching_adjoint (a : ℝ) : (stretching a).adjoint = stretching a := by
  refine ((LinearMap.eq_adjoint_iff _ _).2 ?_).symm
  intro z w
  simp [Complex.inner, stretching_apply]
  ring

theorem normalMap_stretching (a damp : ℝ) (z : ℂ) : normalMap (stretching a) damp z =
    ⟨(a ^ 2 + damp ^ 2) * z.re, (4 * a ^ 2 + damp ^ 2) * z.im⟩ := by
  rw [normalMap_apply, stretching_adjoint]
  apply Complex.ext <;> simp [stretching_apply, -Complex.ofReal_pow] <;> ring

section

variable {a damp : ℝ} {b x₀ : ℂ} {S : ℕ → Run ℝ ℂ ℂ}

theorem adjoint_stretching_ne_zero (ha : a ≠ 0) {r : ℂ} (hre : r.re ≠ 0) :
    (stretching a).adjoint r ≠ 0 := by
  rw [stretching_adjoint, stretching_apply]
  intro h0
  exact mul_ne_zero ha hre (congrArg Complex.re h0)

/-- **The first iteration for such an operator**, by how far it goes. -/
theorem stretching_first (hS : Course (stretching a) b x₀ damp S) (hl : Live (processOf S) 0) :
    ∃ c : ℝ, (S 1).iterate.x = x₀ + c • stretching a (b - stretching a x₀) ∧
      normalResidual (stretching a) b x₀ damp (S 1).iterate.x =
        ⟨a * (b - stretching a x₀).re * (1 - c * (a ^ 2 + damp ^ 2)),
          2 * a * (b - stretching a x₀).im * (1 - c * (4 * a ^ 2 + damp ^ 2))⟩ ∧
      inner ℝ (normalMap (stretching a) damp (stretching a (b - stretching a x₀)))
        (normalResidual (stretching a) b x₀ damp (S 1).iterate.x) = 0 := by
  obtain ⟨c, hx, hres, horth⟩ := hS.x_one hl
  rw [stretching_adjoint] at hx hres horth
  refine ⟨c, hx, ?_, horth⟩
  rw [hres, normalMap_stretching, stretching_apply]
  apply Complex.ext <;> simp <;> ring

/-- **It stretches no vector to its end** that is on none of the axes. -/
theorem residual_stretching_ne_zero (ha : a ≠ 0) (hre : (b - stretching a x₀).re ≠ 0)
    (him : (b - stretching a x₀).im ≠ 0) (hS : Course (stretching a) b x₀ damp S)
    (hl : Live (processOf S) 0) :
    normalResidual (stretching a) b x₀ damp (S 1).iterate.x ≠ 0 := by
  obtain ⟨c, -, hvalue, -⟩ := stretching_first hS hl
  rw [hvalue]
  intro h0
  -- Otherwise both axes would be stretched alike.
  have h1 : 1 - c * (a ^ 2 + damp ^ 2) = 0 :=
    (mul_eq_zero.1 (congrArg Complex.re h0)).resolve_left (mul_ne_zero ha hre)
  have h2 : 1 - c * (4 * a ^ 2 + damp ^ 2) = 0 :=
    (mul_eq_zero.1 (congrArg Complex.im h0)).resolve_left
      (mul_ne_zero (mul_ne_zero two_ne_zero ha) him)
  have hc : c * a ^ 2 = 0 := by linarith
  have hc0 : c = 0 := (mul_eq_zero.1 hc).resolve_right (pow_ne_zero 2 ha)
  rw [hc0, zero_mul, sub_zero] at h1
  exact one_ne_zero h1

end

namespace Problem

section

variable {P : Problem ℝ ℂ ℂ} {o : Observers ℝ} {a : ℝ} {b x₀ : ℂ}

theorem opening_stretching_ne_zero (ha : a ≠ 0) (hre : (b - stretching a x₀).re ≠ 0) :
    (Bidiagonal.opening (stretching a) b x₀).alpha *
      (Bidiagonal.opening (stretching a) b x₀).beta ≠ 0 := by
  have h := (recurs_after (stretching a) b x₀).alpha_mul_beta
  exact h.trans_ne (norm_ne_zero_iff.2 (adjoint_stretching_ne_zero ha hre))

variable (o b x₀) in
/-- **A second iteration begins**, unless the callback ends the solve before. -/
theorem stretching_goes_on (hP : P.operator = .exact (stretching a)) (hatol : P.atol = 0)
    (hbtol : P.btol = 0) (hctol : P.ctol = 0) (hmax : 1 < P.maxiter) (ha : a ≠ 0)
    (hre : (b - stretching a x₀).re ≠ 0) (him : (b - stretching a x₀).im ≠ 0)
    (hquiet : ∀ n t, o.interrupts n t = false) : ∃ s₁ s₂,
      P.Begins (.initial b 0) x₀ 0 o 1 s₁ ∧ P.Executes (.initial b 0) x₀ 0 o 2 s₂ := by
  have hS := course_spec (stretching a) b x₀ P.damp
  obtain ⟨s, hr⟩ := reaches_one hP (opening_stretching_ne_zero ha hre) (Nat.zero_lt_of_lt hmax)
    hquiet
  have hx : (course (stretching a) b x₀ P.damp 1).iterate = s.iterate := by
    rw [← Run.bare_iterate (s := s), (hr.follows hP hS).bare_eq]
  have hl := hS.recurs.live_zero_iff.2 (adjoint_stretching_ne_zero ha hre)
  have hres := residual_stretching_ne_zero ha hre him hS hl
  rw [hx] at hres
  have hgo : s.stop = .ongoing := by
    by_contra hstop
    exact hres (hr.residual_eq_zero hP hstop hatol hbtol hctol hmax)
  have hbegins : P.Begins (.initial b 0) x₀ 0 o 1 s := ⟨hr, hgo, hmax⟩
  obtain ⟨s₂, h₂⟩ := hbegins.executes
  exact ⟨s, s₂, hbegins, h₂⟩

end

/-- **A map that stretches**, without damping and without a tolerance for the normal equations, and
with a budget. -/
noncomputable def stretchingProblem (a btol ctol : ℝ) : Problem ℝ ℂ ℂ :=
  ⟨.exact (stretching a), 0, 0, btol, ctol, 10⟩

/-- The same, with damping. -/
noncomputable def dampedStretching : Problem ℝ ℂ ℂ := { stretchingProblem 1 0 0 with damp := 1 }

theorem dampedStretching_operator : dampedStretching.operator = .exact (stretching 1) := rfl

theorem sub_stretching_one : (⟨1, 1⟩ : ℂ) - stretching 1 (-1) = ⟨2, 1⟩ := by
  rw [stretching_apply]
  apply Complex.ext <;> norm_num

/-- **It makes two iterations** from a point that is not zero. -/
theorem dampedStretching_executes {o : Observers ℝ} (hquiet : ∀ n t, o.interrupts n t = false) :
    ∃ s₁ s₂, dampedStretching.Begins (.initial ⟨1, 1⟩ 0) (-1) 0 o 1 s₁ ∧
      dampedStretching.Executes (.initial ⟨1, 1⟩ 0) (-1) 0 o 2 s₂ := by
  refine stretching_goes_on o _ _ (a := 1) rfl rfl rfl rfl (by decide) one_ne_zero ?_ ?_ hquiet
  all_goals
    rw [sub_stretching_one]
    norm_num

end Problem

end LeastSquares
