import LeastSquares.Proofs.Alternation
import LeastSquares.Proofs.Convergence
import LeastSquares.Proofs.Independence
import LeastSquares.Proofs.Stacking

/-!
# Every iteration improves

The method minimizes the residual of the normal equations. That the residual of the problem itself
gets no larger with it, and the solution moves away from where it began, is due to the signs of a
solve.

* `Course.normar_lt`, `Course.dampedNorm_le`, `Course.norm_sub_le`: **one iteration.**
* `Problem.Visits`: the states before the first iteration and after each that is executed.
* `Problem.descends`: **all iterations of a solve.**
-/

namespace LeastSquares

open Bidiagonal

variable {𝕜 E F : Type} [RCLike 𝕜]
  [NormedAddCommGroup E] [InnerProductSpace 𝕜 E] [NormedSpace ℝ E] [FiniteDimensional 𝕜 E]
  [NormedAddCommGroup F] [InnerProductSpace 𝕜 F] [FiniteDimensional 𝕜 F]
  {A : E →ₗ[𝕜] F} {b : F} {x₀ : E} {damp : ℝ}

/-! ### Steps at most at a right angle -/

omit [NormedSpace ℝ E] [FiniteDimensional 𝕜 E] in
/-- A step that leads on does not lead back. -/
theorem norm_le_norm_add {x z : E} (h : 0 ≤ RCLike.re (inner 𝕜 x z)) : ‖x‖ ≤ ‖x + z‖ := by
  refine le_of_sq_le_sq ?_ (norm_nonneg _)
  rw [norm_add_sq (𝕜 := 𝕜)]
  have hz := sq_nonneg ‖z‖
  linarith

theorem adjoint_damped_residual (x : E) :
    (damped A damp).adjoint (dampedResidual A b x₀ damp x) = normalResidual A b x₀ damp x := by
  rw [dampedResidual, adjoint_damped_stacked, normalResidual]
  module

omit [FiniteDimensional 𝕜 E] [FiniteDimensional 𝕜 F] in
theorem norm_dampedResidual (x : E) :
    ‖dampedResidual A b x₀ damp x‖ = dampedNorm A b x₀ damp x := by
  rw [dampedNorm, ← norm_dampedResidual_sq, Real.sqrt_sq (norm_nonneg _)]

/-- **A step along which the residual of the normal equations still leads on** makes the residual no
larger. -/
theorem dampedNorm_add_le {x z : E}
    (h : 0 ≤ RCLike.re (inner 𝕜 z (normalResidual A b x₀ damp (x + z)))) :
    dampedNorm A b x₀ damp (x + z) ≤ dampedNorm A b x₀ damp x := by
  have hback : dampedResidual A b x₀ damp x =
      dampedResidual A b x₀ damp (x + z) + damped A damp z := by
    rw [dampedResidual_add, sub_add_cancel]
  rw [← norm_dampedResidual, ← norm_dampedResidual, hback]
  refine norm_le_norm_add (𝕜 := 𝕜) ?_
  rw [inner_re_symm, ← LinearMap.adjoint_inner_right, adjoint_damped_residual]
  exact h

variable [NormedSpace ℝ F]

namespace Course

variable {S : ℕ → Run ℝ F E} (hS : Course A b x₀ damp S) {k : ℕ}

include hS

/-! ### The estimates, also before the first iteration -/

theorem normar_eq (k : ℕ) : (S k).normar = |(S k).rotation.zetabar| := by
  cases k with
  | zero =>
    have h : 0 ≤ (S 0).process.alpha * (S 0).process.beta :=
      mul_nonneg (hS.recurs.alpha_nonneg 0) (hS.recurs.beta_nonneg 0)
    rw [hS.rotation_zero]
    refine Eq.trans ?_ (abs_of_nonneg h).symm
    rw [hS.zero]
    rfl
  | succ k => exact hS.normar_succ k

theorem normx_eq (k : ℕ) : (S k).normx = ‖(S k).iterate.x‖ := by
  cases k with
  | zero => rw [hS.zero]; rfl
  | succ k => rw [hS.succ]; rfl

theorem normr_eq (hl : ∀ j < k, Live (processOf S) j) :
    (S k).normr = dampedNorm A b x₀ damp (S k).iterate.x := by
  cases k with
  | zero =>
    have h : (S 0).normr = ‖b - A x₀‖ := by rw [hS.zero]; rfl
    rw [h, hS.iterate_zero, dampedNorm, sub_self, norm_zero, zero_pow two_ne_zero, mul_zero,
      add_zero, Real.sqrt_sq (norm_nonneg _)]
  | succ k => exact (hS.estimates (hl k (Nat.lt_succ_self k))).normr_eq

/-! ### One iteration -/

section

variable (hl : Live (processOf S) k)

include hl

theorem zetabar_ne_zero : (S k).rotation.zetabar ≠ 0 := by
  induction k with
  | zero =>
    rw [hS.rotation_zero]
    exact mul_ne_zero (hl 0 le_rfl).1 (hl 0 le_rfl).2
  | succ k ih =>
    have hl' := hl.mono (Nat.le_succ k)
    have hsbar : (S (k + 1)).rotation.sbar ≠ 0 := by
      intro h0
      refine (hS.live_succ_iff hl').1 hl ?_
      rw [← hS.sbar_mul_succ, h0, zero_mul]
    rw [hS.zetabar_succ]
    exact mul_ne_zero (neg_ne_zero.2 hsbar) (ih hl')

/-- **The residual of the normal equations gets smaller.** -/
theorem normar_lt : (S (k + 1)).normar < (S k).normar := by
  have hq := hS.rotation_sound_succ hl
  have hsbar : (S (k + 1)).rotation.sbar < 1 := by
    have hu := hq.unit
    have hc := pow_pos hq.cbar_pos 2
    nlinarith [hq.sbar_nonneg]
  rw [hS.normar_eq, hS.normar_eq, hS.zetabar_succ, abs_mul, abs_neg, abs_of_nonneg hq.sbar_nonneg]
  exact mul_lt_of_lt_one_left (abs_pos.2 (hS.zetabar_ne_zero hl)) hsbar

/-- **The solution moves away from where it began.** -/
theorem norm_sub_le : ‖(S k).iterate.x - x₀‖ ≤ ‖(S (k + 1)).iterate.x - x₀‖ := by
  have h := hS.alternates fun j hj => hl.mono hj.le
  have hx := alternating_mono (Nat.le_succ k) h.x_mem
  have hre := hS.recurs.re_inner_nonneg hl hx (hS.x_sub_mem_alternating h hl)
  have hadd := norm_le_norm_add hre
  rwa [sub_add_sub_cancel'] at hadd

/-- **The residual gets no larger.** -/
theorem dampedNorm_le :
    dampedNorm A b x₀ damp (S (k + 1)).iterate.x ≤ dampedNorm A b x₀ damp (S k).iterate.x := by
  have h := hS.alternates fun j hj => hl.mono hj.le
  have hstep := hS.x_sub_mem_alternating h hl
  have hx : (S k).iterate.x + ((S (k + 1)).iterate.x - (S k).iterate.x) = (S (k + 1)).iterate.x :=
    add_sub_cancel _ _
  have hre : 0 ≤ RCLike.re (inner 𝕜 ((S (k + 1)).iterate.x - (S k).iterate.x)
      (normalResidual A b x₀ damp (S (k + 1)).iterate.x)) := by
    rcases hl.succ_or_eq_zero with hl' | h0
    · exact hS.recurs.re_inner_nonneg hl' (alternating_mono (Nat.le_succ _) hstep)
        (hS.alternates_succ h hl).residual_mem
    · rw [hS.residual_eq_zero hl h0, inner_zero_right, map_zero]
  have hle := dampedNorm_add_le (x := (S k).iterate.x)
    (z := (S (k + 1)).iterate.x - (S k).iterate.x) (by rwa [hx])
  rwa [hx] at hle

end

/-! ### Any number of iterations -/

section

variable {m n : ℕ} (hl : ∀ j < n, Live (processOf S) j)

include hl

theorem strictAntiOn_normar : StrictAntiOn (fun k => (S k).normar) (Set.Iic n) :=
  strictAntiOn_of_add_one_lt Set.ordConnected_Iic fun j _ _ hj => hS.normar_lt (hl j hj)

theorem monotoneOn_norm_sub : MonotoneOn (fun k => ‖(S k).iterate.x - x₀‖) (Set.Iic n) :=
  monotoneOn_of_le_add_one Set.ordConnected_Iic fun j _ _ hj => hS.norm_sub_le (hl j hj)

theorem antitoneOn_normr : AntitoneOn (fun k => (S k).normr) (Set.Iic n) := by
  refine antitoneOn_of_add_one_le Set.ordConnected_Iic fun j _ _ hj => ?_
  have hlast : ∀ i < j + 1, Live (processOf S) i := fun i hi => hl i (hi.trans_le hj)
  have hfirst : ∀ i < j, Live (processOf S) i := fun i hi => hlast i (Nat.lt_succ_of_lt hi)
  rw [hS.normr_eq hfirst, hS.normr_eq hlast]
  exact hS.dampedNorm_le (hl j hj)

end

end Course

/-! ### Solves -/

namespace Problem

section

variable {α U V : Type} [Arithmetic α] [Vectors α U] [Vectors α V] {P : Problem α U V}
  {p : Bidiagonal α U V} {x zero : V} {o : Observers α} {n : ℕ} {s : Run α U V}

variable (P p x zero o) in
/-- **The states that a solve visits** by the number of its iterations: the one before the first of
them, and the one that each leaves, whether it ends or fails. -/
inductive Visits : ℕ → Run α U V → Prop
  | opened {s : Run α U V} (h : P.Reaches p x zero o 0 s) : Visits 0 s
  | executed {n : ℕ} {s : Run α U V} (h : P.Executes p x zero o n s) : Visits n s

theorem Reaches.visits (h : P.Reaches p x zero o n s) : P.Visits p x zero o n s := by
  cases n with
  | zero => exact .opened h
  | succ n => exact .executed h.executes

/-- An iteration that is completed is executed, and leaves what it has completed. -/
theorem Completes.visits {t : StoppingTests α} (h : P.Completes p x zero o n s t) :
    ∃ s', P.Visits p x zero o n s' ∧ s.Alike s' := by
  cases h with
  | @intro k s₀ s t h hs ht =>
    have hadvance : (Run.advance P).run s₀ = (Run.judge P).run s := by rw [Run.run_advance, hs]
    rw [Run.run_judge, ht] at hadvance
    dsimp only at hadvance
    split_ifs at hadvance
    · exact ⟨_, .executed (.fails h hadvance), .of_watchedBy _ _ _⟩
    · cases hc : Arithmetic.use P.ctol with
      | error e =>
        rw [hc] at hadvance
        exact ⟨_, .executed (.fails h hadvance), .of_watchedBy _ _ _⟩
      | ok ctol =>
        rw [hc] at hadvance
        exact ⟨_, .executed (.ends h hadvance), .of_watchedBy _ _ _⟩

end

variable {P : Problem ℝ F E} {o : Observers ℝ} {n : ℕ} {s : Run ℝ F E} {S : ℕ → Run ℝ F E}

/-- **The states that a solve visits are those of its course**, up to the first in which a scalar
vanishes. -/
theorem Visits.follows (hP : P.operator = .exact A) (hS : Course A b x₀ P.damp S)
    (h : P.Visits (.initial b 0) x₀ 0 o n s) :
    s.bare = S n ∧ ∀ j < n, Live (processOf S) j := by
  cases h with
  | opened h => exact ⟨(h.follows hP hS).bare_eq, fun j hj => absurd hj (Nat.not_lt_zero j)⟩
  | executed h =>
    obtain ⟨k, s₀, rfl, hbegins, hb, -⟩ := h.follows hP hS
    exact ⟨hb, fun j hj => (hbegins.live hP hS).mono (Nat.le_of_lt_succ hj)⟩

/-- **The first statistic** of an iteration that is completed. -/
theorem Completes.test1_eq {t : StoppingTests ℝ} (hP : P.operator = .exact A)
    (hS : Course A b x₀ P.damp S) (h : P.Completes (.initial b 0) x₀ 0 o n s t) :
    (∀ j < n, Live (processOf S) j) ∧ 0 < (S n).normb ∧ t.test1 = (S n).normr / (S n).normb := by
  obtain ⟨s', hv, halike⟩ := h.visits
  obtain ⟨hb, hl⟩ := hv.follows hP hS
  cases h with
  | @intro k s₀ s t h hs ht =>
    have hnormb : 0 < (S (k + 1)).normb := (hS.estimates (hl k (Nat.lt_succ_self k))).normb_pos
    have hdiv : Arithmetic.div s.normr s.normb = .ok t.test1 := (StoppingTests.compute_ok ht).1
    have hsb : s.bare = S (k + 1) := by rw [← hb, halike]; rfl
    have hr : s.normr = (S (k + 1)).normr := by rw [← hsb]; rfl
    have hn : s.normb = (S (k + 1)).normb := by rw [← hsb]; rfl
    rw [hr, hn, exact_div hnormb.ne'] at hdiv
    exact ⟨hl, hnormb, (Except.ok.inj hdiv).symm⟩

/-- **Every iteration improves**: the residual of the normal equations gets smaller, the residual
that began with the norm of the first one gets no larger, and so does its statistic, and the
solution moves away from where it began. -/
theorem descends (hP : P.operator = .exact A) :
    (∀ s, P.Visits (.initial b 0) x₀ 0 o 0 s → s.normr = s.normb) ∧
    (∀ n s, P.Visits (.initial b 0) x₀ 0 o n s → s.normar = |s.rotation.zetabar|) ∧
    (∀ m n s s', m < n → P.Visits (.initial b 0) x₀ 0 o m s →
      P.Visits (.initial b 0) x₀ 0 o n s' →
      s'.normar < s.normar ∧ s'.normr ≤ s.normr ∧
        ‖s.iterate.x - x₀‖ ≤ ‖s'.iterate.x - x₀‖ ∧ (x₀ = 0 → s.normx ≤ s'.normx)) ∧
    ∀ m n s s' t t', m ≤ n → P.Completes (.initial b 0) x₀ 0 o m s t →
      P.Completes (.initial b 0) x₀ 0 o n s' t' → t'.test1 ≤ t.test1 ∧ t.test1 ≤ 1 := by
  have hS := course_spec A b x₀ P.damp
  have hstart : (course A b x₀ P.damp 0).normr = (course A b x₀ P.damp 0).normb := rfl
  refine ⟨?_, ?_, ?_, ?_⟩
  · intro s h
    rw [← Run.bare_normr, ← Run.bare_normb, (h.follows hP hS).1]
    exact hstart
  · intro n s h
    rw [← Run.bare_normar, ← Run.bare_rotation, (h.follows hP hS).1]
    exact hS.normar_eq n
  · intro m n s s' hmn h h'
    have hs := (h.follows hP hS).1
    obtain ⟨hs', hl⟩ := h'.follows hP hS
    have hlt := hS.strictAntiOn_normar hl hmn.le Set.self_mem_Iic hmn
    have hle := hS.antitoneOn_normr hl hmn.le Set.self_mem_Iic hmn.le
    have hx := hS.monotoneOn_norm_sub hl hmn.le Set.self_mem_Iic hmn.le
    simp only [← hs, ← hs'] at hlt hle hx
    refine ⟨hlt, hle, hx, ?_⟩
    rintro rfl
    have hnormx : s.normx = ‖s.iterate.x‖ := by
      have h := hS.normx_eq m
      rwa [← hs] at h
    have hnormx' : s'.normx = ‖s'.iterate.x‖ := by
      have h := hS.normx_eq n
      rwa [← hs'] at h
    rw [hnormx, hnormx']
    simpa only [Run.bare_iterate, sub_zero] using hx
  · intro m n s s' t t' hmn h h'
    obtain ⟨-, hb, ht⟩ := h.test1_eq hP hS
    obtain ⟨hl, hb', ht'⟩ := h'.test1_eq hP hS
    have hbeq : (course A b x₀ P.damp n).normb = (course A b x₀ P.damp m).normb := by
      rw [hS.normb_eq, hS.normb_eq]
    have hle := hS.antitoneOn_normr hl hmn Set.self_mem_Iic hmn
    have hle₀ := hS.antitoneOn_normr hl (Nat.zero_le n) hmn (Nat.zero_le m)
    rw [ht, ht', hbeq]
    refine ⟨div_le_div_of_nonneg_right hle hb.le, div_le_one_of_le₀ (hle₀.trans_eq ?_) hb.le⟩
    rw [hS.normb_eq, ← hS.normb_eq 0]
    exact hstart

/-- A solve of two iterations. -/
theorem stretchingProblem_descends : ∃ s₀ s₁ s₂,
    (stretchingProblem 1 0 0).Visits (.initial ⟨1, 1⟩ 0) 0 0 Run.unwatched 0 s₀ ∧
    (stretchingProblem 1 0 0).Visits (.initial ⟨1, 1⟩ 0) 0 0 Run.unwatched 1 s₁ ∧
    (stretchingProblem 1 0 0).Visits (.initial ⟨1, 1⟩ 0) 0 0 Run.unwatched 2 s₂ ∧
    s₁.normar < s₀.normar ∧ s₂.normar < s₁.normar ∧ s₂.normr ≤ s₀.normb ∧ s₁.normx ≤ s₂.normx := by
  have hr : (⟨1, 1⟩ : ℂ) - stretching 1 0 = ⟨1, 1⟩ := by rw [map_zero, sub_zero]
  obtain ⟨s₁, s₂, h₁, h₂⟩ := stretching_goes_on Run.unwatched ⟨1, 1⟩ 0 (a := 1)
    (P := stretchingProblem 1 0 0) rfl rfl rfl rfl (by decide) one_ne_zero
    (by rw [hr]; exact one_ne_zero) (by rw [hr]; exact one_ne_zero) fun _ _ => rfl
  obtain ⟨s₀, h₀⟩ : ∃ s₀,
      (stretchingProblem 1 0 0).Visits (.initial ⟨1, 1⟩ 0) 0 0 Run.unwatched 0 s₀ := by
    cases h₁.reached with
    | advance h _ _ _ => exact ⟨_, h.visits⟩
  have hP : (stretchingProblem 1 0 0).operator = .exact (stretching 1) := rfl
  have hbegin := (descends hP).1 s₀ h₀
  have h₀₁ := (descends hP).2.2.1 0 1 s₀ s₁ Nat.zero_lt_one h₀ h₁.reached.visits
  have h₁₂ := (descends hP).2.2.1 1 2 s₁ s₂ Nat.one_lt_two h₁.reached.visits (.executed h₂)
  have h₀₂ := (descends hP).2.2.1 0 2 s₀ s₂ Nat.zero_lt_two h₀ (.executed h₂)
  exact ⟨s₀, s₁, s₂, h₀, h₁.reached.visits, .executed h₂, h₀₁.1, h₁₂.1,
    h₀₂.2.1.trans_eq hbegin, h₁₂.2.2.2 rfl⟩

end Problem

end LeastSquares
