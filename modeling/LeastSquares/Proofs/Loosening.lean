import LeastSquares.Proofs.Convergence
import LeastSquares.Proofs.Independence
import LeastSquares.Proofs.Record

/-!
# Looser tolerances

Over the real numbers a solve with looser tolerances, a smaller budget and a smaller limit of the
condition number takes no more iterations. Its states are those of the stricter solve as long as
both go on, and a rule that does not fire under the looser tolerances does not fire under the
stricter ones either, whichever of the rules it is that ends the one or the other.

* `limitTolerance`: the tolerance that a limit of the condition number stands for.
* `Problem.Loosens`: **one problem to be ended no later than another.**
* `StoppingTests.check_ongoing_of_looser`: **what goes on under looser tolerances goes on under
  stricter ones.**
* `Problem.Reaches.stricter`: an iteration of the looser solve is one of the stricter.
* `Problem.loosening_shortens`: **the looser solve is no longer.**
-/

namespace LeastSquares

open Arithmetic

/-- **The tolerance for the inverse of the condition number** that a limit stands for. A limit of
zero disables the rule. -/
def limitTolerance {α : Type} [Arithmetic α] (conlim : α) : Except Fault α :=
  if lt 0 conlim then div 1 conlim else .ok 0

theorem limitTolerance_exact {conlim ctol : ℝ} (h : limitTolerance conlim = .ok ctol) :
    ctol = if 0 < conlim then 1 / conlim else 0 := by
  unfold limitTolerance at h
  by_cases hpos : 0 < conlim
  · rw [if_pos (by simpa [lt] using hpos), exact_div hpos.ne'] at h
    rw [if_pos hpos]
    exact (Except.ok.inj h).symm
  · rw [if_neg (by simpa [lt] using hpos)] at h
    rw [if_neg hpos]
    exact (Except.ok.inj h).symm

/-- A smaller limit, or any in place of none, has a larger tolerance. -/
theorem limitTolerance_anti {conlim conlim' ctol ctol' : ℝ} (h : limitTolerance conlim = .ok ctol)
    (h' : limitTolerance conlim' = .ok ctol')
    (hle : conlim = 0 ∧ 0 ≤ conlim' ∨ 0 < conlim' ∧ conlim' ≤ conlim) : ctol ≤ ctol' := by
  rw [limitTolerance_exact h, limitTolerance_exact h']
  rcases hle with ⟨rfl, hle⟩ | ⟨hpos, hle⟩
  · rw [if_neg (lt_irrefl 0)]
    split_ifs
    · positivity
    · exact le_rfl
  · rw [if_pos hpos, if_pos (hpos.trans_le hle)]
    exact one_div_le_one_div_of_le hpos hle

namespace StoppingTests

/-- **What goes on under looser tolerances goes on under stricter ones.** -/
theorem check_ongoing_of_looser {t t' : StoppingTests ℝ} {n m m' : ℤ} {atol atol' ctol ctol' : ℝ}
    (h : t'.check n m' atol' ctol' = .ongoing) (h1 : t.test1 = t'.test1)
    (h2 : t.test2 = t'.test2) (h3 : t.test3 = t'.test3) (ht : t.t1 = t'.t1)
    (hr : t.rtol ≤ t'.rtol) (hm : m' ≤ m) (ha : atol ≤ atol') (hc : ctol ≤ ctol') :
    t.check n m atol ctol = .ongoing := by
  unfold check at h ⊢
  split_ifs at h with hmax hcond hatolEps hbtolEps hconlim hatol hbtol
  simp only [le, decide_eq_true_eq] at hconlim hbtol
  have hmax' : ¬ m ≤ n := by omega
  have hconlim' : ¬ t.test3 ≤ ctol := fun hle => hconlim (h3 ▸ hle.trans hc)
  have hbtol' : ¬ t.test1 ≤ t.rtol := fun hle => hbtol (h1 ▸ hle.trans hr)
  -- The second statistic may be infinite, and is then below no tolerance.
  have hatol' : ¬ t.test2.le atol = true := by
    intro hle
    rw [h2] at hle
    cases h2' : t'.test2 with
    | infinite => simp [h2', Extended.le, isTop] at hle
    | finite a =>
      simp only [h2', Extended.le, le, decide_eq_true_eq] at hle hatol
      exact hatol (hle.trans ha)
  rw [if_neg hmax', h3, if_neg hcond, h2, if_neg hatolEps, ht, if_neg hbtolEps, ← h3,
    if_neg (by simpa [le] using hconlim'), ← h2, if_neg hatol', if_neg (by simpa [le] using hbtol')]

/-- The tolerance for the residual grows with those that it is made of. -/
theorem exact_rtol_mono {normr normar norma conda normx normb atol atol' btol btol' : ℝ}
    (hA : 0 ≤ norma) (hx : 0 ≤ normx) (hb : 0 < normb) (ha : atol ≤ atol') (hbt : btol ≤ btol') :
    (exact normr normar norma conda normx normb atol btol).rtol ≤
      (exact normr normar norma conda normx normb atol' btol').rtol := by
  have h : atol * norma * normx / normb ≤ atol' * norma * normx / normb := by gcongr
  exact add_le_add hbt h

end StoppingTests

namespace Problem

section

variable {α U V : Type} [Arithmetic α] [Vectors α U] [Vectors α V] {P : Problem α U V}
  {p : Bidiagonal α U V} {x zero : V} {o : Observers α} {j k : ℕ} {s s' : Run α U V}

/-- **A solve goes through one state** between two iterations. -/
theorem Reaches.unique (h : P.Reaches p x zero o k s) (h' : P.Reaches p x zero o k s') :
    s = s' := by
  induction h generalizing s' with
  | begin hstart hbegin _ =>
    cases h' with
    | begin hstart' hbegin' _ =>
      rw [hstart] at hstart'
      injection hstart' with _ hp
      subst hp
      exact Except.ok.inj (hbegin.symm.trans hbegin')
  | advance _ _ _ hs ih =>
    cases h' with
    | advance h' _ _ hs' =>
      rw [ih h', hs'] at hs
      injection hs with _ hs
      exact hs.symm

/-- All iterations before one have begun. -/
theorem Reaches.begins (h : P.Reaches p x zero o k s) (hj : j < k) :
    ∃ s', P.Begins p x zero o j s' := by
  induction h with
  | begin _ _ _ => exact absurd hj (Nat.not_lt_zero j)
  | @advance k s₀ _ h hstop hk _ ih =>
    rcases Nat.lt_succ_iff_lt_or_eq.1 hj with hlt | rfl
    · exact ih hlt
    · exact ⟨s₀, h, hstop, hk⟩

/-- **No iteration begins from a state that a solve returns.** -/
theorem Reaches.le_of_settled (h : P.Reaches p x zero o k s) (h' : P.Reaches p x zero o j s')
    (hend : s'.stop ≠ .ongoing ∨ j = P.maxiter) : k ≤ j := by
  by_contra hlt
  obtain ⟨s₁, h₁⟩ := h.begins (not_le.1 hlt)
  obtain rfl := h'.unique h₁.reached
  rcases hend with hend | rfl
  · exact hend h₁.ongoing
  · exact lt_irrefl _ h₁.budget

/-- **A solve that reaches an iteration returns after it.** -/
theorem Reaches.returned_after {r : Run α U V} (h : P.Reaches p x zero o k s)
    (hr : P.solve p x zero o = .returned r) :
    ∃ j s', k ≤ j ∧ P.Reaches p x zero o j s' ∧ r = s'.close := by
  rcases returned_cases hr with ⟨q, s', hstart, hbegin, hclosed, -⟩ | ⟨j, s', h', hend, rfl⟩
  · have hvacuous : eq (q.alpha * q.beta) 0 = true := by
      simpa [Run.isOpen, (begun hbegin).normar_eq] using hclosed
    exact absurd ⟨q, hstart, hvacuous⟩ h.not_vacuous
  · exact ⟨j, s', h.le_of_settled h' hend, h', rfl⟩

/-- A solve without iterations returns the solution to begin with. -/
theorem returned_x {r : Run α U V} (hr : P.solve p x zero o = .returned r)
    (h0 : r.iteration = 0) : r.iterate.x = x := by
  rcases returned_cases hr with ⟨q, s', -, hbegin, -, rfl⟩ | ⟨j, s', h, -, rfl⟩
  · exact congrArg Iterate.x (begun hbegin).iterate_eq
  · have hj : j = 0 := h.iteration_eq.symm.trans h0
    subst hj
    cases h with
    | begin _ hbegin _ => exact congrArg Iterate.x (begun hbegin).iterate_eq

end

variable {𝕜 E F : Type} [RCLike 𝕜]
  [NormedAddCommGroup E] [InnerProductSpace 𝕜 E] [NormedSpace ℝ E] [FiniteDimensional 𝕜 E]
  [NormedAddCommGroup F] [InnerProductSpace 𝕜 F] [NormedSpace ℝ F] [FiniteDimensional 𝕜 F]
  {A : E →ₗ[𝕜] F} {b : F} {x₀ : E} {P P' : Problem ℝ F E} {o o' : Observers ℝ} {k : ℕ}
  {s s' : Run ℝ F E} {conlim conlim' : ℝ}

/-- **One problem to be ended no later than another**: `P'` has no smaller tolerances than `P`, no
larger budget, and no larger limit of the condition number, unless `P` has none. -/
structure Loosens (P P' : Problem ℝ F E) (conlim conlim' : ℝ) : Prop extends P.Shares P' where
  atol_le : P.atol ≤ P'.atol
  btol_le : P.btol ≤ P'.btol
  maxiter_le : P'.maxiter ≤ P.maxiter
  ctol_eq : limitTolerance conlim = .ok P.ctol
  ctol_eq' : limitTolerance conlim' = .ok P'.ctol
  conlim_le : conlim = 0 ∧ 0 ≤ conlim' ∨ 0 < conlim' ∧ conlim' ≤ conlim

section

variable (hP : P.operator = .exact A) (hL : P.Loosens P' conlim conlim')

include hP hL

omit hP in
/-- **A rule that fires under stricter tolerances** has its like under looser ones. -/
theorem Loosens.check_ongoing (hs : s.Sound) (hb : s.bare = s'.bare)
    (h : (s'.tests A P'.damp P'.atol P'.btol).check (k + 1 : ℕ) P'.maxiter P'.atol P'.ctol =
      .ongoing) :
    (s.tests A P.damp P.atol P.btol).check (k + 1 : ℕ) P.maxiter P.atol P.ctol = .ongoing := by
  have htests : s'.tests A P'.damp P'.atol P'.btol = s.tests A P.damp P'.atol P'.btol := by
    have hbare : s'.bare.tests A P.damp P'.atol P'.btol =
        s.bare.tests A P.damp P'.atol P'.btol := by
      rw [hb]
    rw [← hL.damp_eq]
    exact hbare
  rw [htests] at h
  refine StoppingTests.check_ongoing_of_looser h rfl rfl rfl rfl ?_
    (by exact_mod_cast hL.maxiter_le) hL.atol_le
    (limitTolerance_anti hL.ctol_eq hL.ctol_eq' hL.conlim_le)
  exact StoppingTests.exact_rtol_mono (hs.norma_pos P.damp).le (norm_nonneg _) hs.normb_pos
    hL.atol_le hL.btol_le

/-- **The iterations of the looser solve** are iterations of the stricter one, which goes on where
the looser one does. -/
theorem Reaches.stricter (hquiet : ∀ n t, o.interrupts n t = false)
    (h : P'.Reaches (.initial b 0) x₀ 0 o' k s') :
    ∃ s, P.Reaches (.initial b 0) x₀ 0 o k s ∧ (s'.stop = .ongoing → s.stop = .ongoing) := by
  have hP' : P'.operator = .exact A := hL.operator_eq.symm.trans hP
  have hS := course_spec A b x₀ P.damp
  have hS' : Course A b x₀ P'.damp (course A b x₀ P.damp) := by rwa [← hL.damp_eq]
  induction h with
  | @begin q s hstart hbegin hopen =>
    have hstart₀ : (Bidiagonal.start P.operator x₀).run (.initial b 0) = .ok () q := by
      rw [hL.operator_eq, hstart]
    have hq : Bidiagonal.opening A b x₀ = q := by
      rw [hP', Bidiagonal.start_eq] at hstart
      injection hstart
    subst hq
    rw [Run.begin_eq] at hbegin
    obtain rfl : Run.opening A b x₀ o' = s := by injection hbegin
    exact ⟨_, .begin hstart₀ (Run.begin_eq A b x₀ o) hopen, fun _ => rfl⟩
  | @advance k s' s'' h' hgo hk hs ih =>
    obtain ⟨s, h, hgoes⟩ := ih
    have hb := (h.follows hP hS).bare_eq
    have hb' := (h'.follows hP' hS').bare_eq
    have hl := (h.follows hP hS).ongoing (hgoes hgo)
    -- Nobody ends the stricter solve here, and what it computes is what the looser one does.
    have hi : s.observers.interrupts (k + 1) (s.tests A P.damp P.atol P.btol) = false := by
      rw [Observers.interrupts, (h.follows hP hS).callback_eq]
      exact hquiet _ _
    have hadvance := advance_of_live hP hS hb hl
    simp only [hi, Bool.false_eq_true, if_false] at hadvance
    refine ⟨_, h.advance (hgoes hgo) (hk.trans_le hL.maxiter_le) hadvance, ?_⟩
    intro hgo'
    rw [advance_of_live hP' hS' hb' hl] at hs
    dsimp only at hs
    split_ifs at hs
    injection hs with _ hs
    subst hs
    exact hL.check_ongoing (sound_of_live hS hb hl) (hb.trans hb'.symm) hgo'

variable (b x₀) in
/-- **Looser tolerances never lengthen a solve**, and where both solves end with the same iteration
they return the same solution. -/
theorem loosening_shortens (hquiet : ∀ n t, o.interrupts n t = false)
    (hquiet' : ∀ n t, o'.interrupts n t = false) : ∃ s s',
      P.solve (.initial b 0) x₀ 0 o = .returned s ∧
      P'.solve (.initial b 0) x₀ 0 o' = .returned s' ∧
      s'.iteration ≤ s.iteration ∧
      (s'.iteration = s.iteration → s'.iterate.x = s.iterate.x) := by
  have hP' : P'.operator = .exact A := hL.operator_eq.symm.trans hP
  obtain ⟨s, hs⟩ : ∃ s, P.solve (.initial b 0) x₀ 0 o = .returned s := returns_of_quiet hP hquiet
  obtain ⟨s', hs'⟩ : ∃ s, P'.solve (.initial b 0) x₀ 0 o' = .returned s :=
    returns_of_quiet hP' hquiet'
  refine ⟨s, s', hs, hs', ?_⟩
  rcases returned_cases hs' with ⟨q, w', -, hbegin, -, rfl⟩ | ⟨k, w', h', -, rfl⟩
  -- There is nothing to iterate.
  · have hzero : w'.close.iteration = 0 := (begun hbegin).iteration_eq
    refine ⟨hzero.le.trans (Nat.zero_le _), ?_⟩
    intro heq
    rw [returned_x hs' hzero, returned_x hs (heq.symm.trans hzero)]
  -- The stricter solve gets as far, and returns after as many iterations or more.
  · obtain ⟨w₁, h₁, -⟩ := h'.stricter hP hL hquiet
    obtain ⟨j, w, hkj, h, rfl⟩ := h₁.returned_after hs
    have hj : w.close.iteration = j := h.iteration_eq
    have hk : w'.close.iteration = k := h'.iteration_eq
    refine ⟨by omega, ?_⟩
    intro heq
    obtain rfl : j = k := by omega
    exact congrArg Iterate.x (h.alike hL.toShares h').iterate_eq.symm

end

/-- A map that stretches: with a tolerance for the residual its solve is shorter than without. -/
theorem stretchingProblem_loosened : ∃ s s',
    (stretchingProblem 1 0 0).solve (.initial ⟨1, 1⟩ 0) (-1) 0 Run.unwatched = .returned s ∧
      (stretchingProblem 1 (3 / 4) 0).solve (.initial ⟨1, 1⟩ 0) (-1) 0 Run.unwatched =
        .returned s' ∧
      s'.stop = .btol ∧ s'.iteration ≤ s.iteration := by
  have hzero : limitTolerance (0 : ℝ) = .ok 0 := if_neg (by simp [lt])
  have hL : (stretchingProblem 1 0 0).Loosens (stretchingProblem 1 (3 / 4) 0) 0 0 :=
    { operator_eq := rfl
      damp_eq := rfl
      atol_le := le_rfl
      btol_le := by norm_num [stretchingProblem]
      maxiter_le := le_rfl
      ctol_eq := hzero
      ctol_eq' := hzero
      conlim_le := .inl ⟨rfl, le_rfl⟩ }
  have hquiet (n : ℕ) (t : StoppingTests ℝ) : Run.unwatched.interrupts n t = false := rfl
  obtain ⟨s, s', hs, hs', hle, -⟩ :=
    loosening_shortens ⟨1, 1⟩ (-1) (A := stretching 1) rfl hL hquiet hquiet
  obtain ⟨r, hr, hstop, -⟩ := stretchingProblem_solve
  rw [hr] at hs'
  injection hs' with hs'
  subst hs'
  exact ⟨s, r, hs, hr, hstop, hle⟩

end Problem

end LeastSquares
