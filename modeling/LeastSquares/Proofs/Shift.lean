import LeastSquares.Proofs.Descent
import LeastSquares.Proofs.Scaling

/-!
# Starting elsewhere

Over the real numbers a solve that starts from `x₀` is the solve that starts from zero, for the
right-hand side `b - A x₀`. The solution is read once, for the first residual; from there on it is
only added to. So the two solves are one, up to `x₀` in front of the solution.

* `Run.ShiftedBy`, `Run.ShiftedBy.next`: **two such states**, and after one more iteration.
* `Course.shifted`: **the states of two courses.**
* `Problem.shift_free`: **the iterations of two solves.**
-/

namespace LeastSquares

open Bidiagonal

variable {𝕜 E F : Type} [RCLike 𝕜]
  [NormedAddCommGroup E] [InnerProductSpace 𝕜 E] [NormedSpace ℝ E] [FiniteDimensional 𝕜 E]
  [NormedAddCommGroup F] [InnerProductSpace 𝕜 F] [NormedSpace ℝ F] [FiniteDimensional 𝕜 F]
  {A : E →ₗ[𝕜] F} {b : F} {x₀ : E} {damp : ℝ}

variable (A b x₀) in
/-- **The process reads the solution for the first residual**, and never again. -/
theorem Bidiagonal.opening_sub : opening A (b - A x₀) 0 = opening A b x₀ := by
  have hr : b - A x₀ - A 0 = b - A x₀ := by rw [map_zero, sub_zero]
  simp only [opening, hr]

/-! ### States -/

/-- **Two states that differ in where the solution is counted from.** -/
structure Run.ShiftedBy (x₀ : E) (s s' : Run ℝ F E) : Prop where
  process : s.process = s'.process
  rotation : s.rotation = s'.rotation
  residual : s.residual = s'.residual
  norms : s.norms = s'.norms
  x : s.iterate.x = x₀ + s'.iterate.x
  h : s.iterate.h = s'.iterate.h
  hbar : s.iterate.hbar = s'.iterate.hbar
  normb : s.normb = s'.normb
  normr : s.normr = s'.normr
  normar : s.normar = s'.normar
  norma : s.norma = s'.norma
  conda : s.conda = s'.conda
  iteration : s.iteration = s'.iteration

namespace Run.ShiftedBy

variable {s s' : Run ℝ F E}

theorem opening (o o' : Observers ℝ) :
    (Run.opening A b x₀ o).ShiftedBy x₀ (Run.opening A (b - A x₀) 0 o') := by
  unfold Run.opening
  rw [opening_sub]
  constructor <;> first | rfl | exact (add_zero x₀).symm

variable (h : s.ShiftedBy x₀ s')

include h

omit [NormedSpace ℝ E] [NormedAddCommGroup F] [NormedSpace ℝ F] in
theorem of_bare_eq {w w' : Run ℝ F E} (hw : w.bare = s) (hw' : w'.bare = s') :
    w.ShiftedBy x₀ w' := by
  subst hw hw'
  exact ⟨h.process, h.rotation, h.residual, h.norms, h.x, h.h, h.hbar, h.normb, h.normr, h.normar,
    h.norma, h.conda, h.iteration⟩

theorem turned_eq : s.turned A damp = s'.turned A damp := by
  rw [turned, turned, h.rotation, h.process]

theorem between_eq : s.between A damp = s'.between A damp := by
  rw [between, between, h.rotation, h.process]

theorem ratio_eq : s.ratio A damp = s'.ratio A damp := by
  rw [ratio, ratio, h.between_eq, h.norms, h.process, h.iteration]

/-- **One more iteration** adds the same to both solutions. -/
theorem next : (s.next A damp).ShiftedBy x₀ (s'.next A damp) := by
  have hdirection : (s.next A damp).iterate.hbar = (s'.next A damp).iterate.hbar := by
    simp only [Run.next, Iterate.next, h.between_eq, h.turned_eq, h.h, h.hbar]
  constructor
  · simp only [Run.next, h.process]
  · exact h.turned_eq
  · simp only [Run.next, h.residual, h.between_eq, h.turned_eq]
  · simp only [Run.next, h.norms, h.process, h.between_eq, h.iteration]
  · have hx (w : Run ℝ F E) : (w.next A damp).iterate.x = w.iterate.x +
        ((w.turned A damp).zeta / ((w.turned A damp).rho * (w.turned A damp).rhobar)) •
          (w.next A damp).iterate.hbar := rfl
    rw [hx, hx, hdirection, h.turned_eq, h.x, add_assoc]
  · simp only [Run.next, Iterate.next, h.between_eq, h.turned_eq, h.h, h.process]
  · exact hdirection
  · exact h.normb
  · simp only [Run.next, h.residual, h.between_eq, h.turned_eq]
  · simp only [Run.next, h.turned_eq]
  · simp only [Run.next, h.norms, h.process]
  · simp only [Run.next, h.ratio_eq]
  · simp only [Run.next, h.iteration]

end Run.ShiftedBy

/-- **The states of two courses**, from `x₀` and from zero. -/
theorem Course.shifted {S S' : ℕ → Run ℝ F E} (hS : Course A b x₀ damp S)
    (hS' : Course A (b - A x₀) 0 damp S') (k : ℕ) : (S k).ShiftedBy x₀ (S' k) := by
  induction k with
  | zero =>
    rw [hS.zero, hS'.zero]
    exact .opening _ _
  | succ k ih =>
    rw [hS.succ, hS'.succ]
    exact ih.next

/-! ### Solves -/

namespace Problem

variable {P P' : Problem ℝ F E} {o o' : Observers ℝ} {k : ℕ} {s₀ s s' : Run ℝ F E}

/-- **The rotations of an iteration** that a solve executes. -/
theorem Executes.advance_rotation (hP : P.operator = .exact A)
    (h₀ : P.Begins (.initial b 0) x₀ 0 o k s₀) (h : P.Executes (.initial b 0) x₀ 0 o (k + 1) s) :
    s₀.rotation.advance s.process.alpha s.process.beta P.damp =
      .ok (s.rotation, stepOf P.damp (course A b x₀ P.damp) k) := by
  have hS := course_spec A b x₀ P.damp
  obtain ⟨_, _, hk, -, hb, -⟩ := h.follows hP hS
  obtain rfl := Nat.succ.inj hk
  have hb₀ := (h₀.reached.follows hP hS).bare_eq
  rw [← Run.bare_rotation, ← s.bare_rotation, ← s.bare_process, hb₀, hb, Rotation.advance_eq,
    ← hS.rotation_succ, stepOf]

/-- **The statistics of an iteration** that a solve executes. -/
theorem Executes.statistics_eq (hP : P.operator = .exact A)
    (h : P.Executes (.initial b 0) x₀ 0 o (k + 1) s) :
    s.statistics P = .ok (.exact s.normr s.normar s.norma
      ((course A b x₀ P.damp k).ratio A P.damp) s.normx s.normb P.atol P.btol) := by
  have hS := course_spec A b x₀ P.damp
  obtain ⟨_, _, hk, h₀, hb, -⟩ := h.follows hP hS
  obtain rfl := Nat.succ.inj hk
  have hs := hS.statistics_eq (h₀.live hP hS) P
  rw [← hb] at hs
  exact hs

/-- **The states that two solves visit**, from `x₀` and from zero. -/
theorem Visits.shifted (hP : P.operator = .exact A) (hPP : P.Shares P')
    (h : P.Visits (.initial b 0) x₀ 0 o k s) (h' : P'.Visits (.initial (b - A x₀) 0) 0 0 o' k s') :
    s.ShiftedBy x₀ s' := by
  have hS := course_spec A b x₀ P.damp
  have hS' := course_spec A (b - A x₀) 0 P'.damp
  have hb := (h.follows hP hS).1
  have hb' := (h'.follows (hPP.operator_eq ▸ hP) hS').1
  exact (hS.shifted (hPP.damp_eq ▸ hS') k).of_bare_eq hb (hPP.damp_eq ▸ hb')

variable (b x₀ o o') in
/-- **To start from `x₀` is to shift the right-hand side.** Where the solve of `A`, `b` from `x₀` and
the solve of `A`, `b - A x₀` from zero both get, they have the same process, rotations and estimates,
and the solution of the first is `x₀` and the solution of the second. An iteration that both execute
has the same rotations on the way, and the same three statistics. -/
theorem shift_free (hP : P.operator = .exact A) (hPP : P.Shares P') :
    (∀ k s s', P.Visits (.initial b 0) x₀ 0 o k s →
      P'.Visits (.initial (b - A x₀) 0) 0 0 o' k s' → s.ShiftedBy x₀ s') ∧
    (∀ k s₀ s s₀' s', P.Begins (.initial b 0) x₀ 0 o k s₀ →
      P.Executes (.initial b 0) x₀ 0 o (k + 1) s →
      P'.Begins (.initial (b - A x₀) 0) 0 0 o' k s₀' →
      P'.Executes (.initial (b - A x₀) 0) 0 0 o' (k + 1) s' →
      ∃ t, s₀.rotation.advance s.process.alpha s.process.beta P.damp = .ok (s.rotation, t) ∧
        s₀'.rotation.advance s'.process.alpha s'.process.beta P'.damp = .ok (s'.rotation, t)) ∧
    ∀ k s s', P.Executes (.initial b 0) x₀ 0 o k s →
      P'.Executes (.initial (b - A x₀) 0) 0 0 o' k s' →
      ∃ t t', s.statistics P = .ok t ∧ s'.statistics P' = .ok t' ∧
        t.test1 = t'.test1 ∧ t.test2 = t'.test2 ∧ t.test3 = t'.test3 := by
  have hP' : P'.operator = .exact A := hPP.operator_eq ▸ hP
  refine ⟨fun k s s' h h' => h.shifted hP hPP h', ?_, ?_⟩
  · intro k s₀ s s₀' s' h₀ h h₀' h'
    have hr₀ := (h₀.reached.visits.shifted hP hPP h₀'.reached.visits).rotation
    have hs := Visits.shifted hP hPP (.executed h) (.executed h')
    refine ⟨_, h.advance_rotation hP h₀, ?_⟩
    rw [← hr₀, ← hs.process, ← hs.rotation, ← hPP.damp_eq]
    exact h.advance_rotation hP h₀
  · intro k s s' h h'
    have hs := Visits.shifted hP hPP (.executed h) (.executed h')
    have hS := course_spec A b x₀ P.damp
    have hS' := course_spec A (b - A x₀) 0 P.damp
    obtain ⟨k, -, rfl, -⟩ := h.follows hP hS
    refine ⟨_, _, h.statistics_eq hP, h'.statistics_eq hP', ?_⟩
    rw [← hPP.damp_eq, hs.normr, hs.normar, hs.norma, hs.normb, (hS.shifted hS' k).ratio_eq]
    exact ⟨rfl, rfl, rfl⟩

/-- The second iterations for an operator that stretches, from a point and from zero. -/
theorem dampedStretching_shifted : ∃ s s' t t',
    dampedStretching.Executes (.initial ⟨1, 1⟩ 0) (-1) 0 Run.unwatched 2 s ∧
    dampedStretching.Executes (.initial (⟨1, 1⟩ - stretching 1 (-1)) 0) 0 0 Run.unwatched 2 s' ∧
    s.process = s'.process ∧ s.iterate.x = -1 + s'.iterate.x ∧
    s.statistics dampedStretching = .ok t ∧ s'.statistics dampedStretching = .ok t' ∧
    t.test2 = t'.test2 := by
  have hr : (⟨1, 1⟩ : ℂ) - stretching 1 (-1) - stretching 1 0 = ⟨2, 1⟩ := by
    rw [map_zero, sub_zero, sub_stretching_one]
  obtain ⟨-, s, -, h⟩ := dampedStretching_executes (o := Run.unwatched) fun _ _ => rfl
  obtain ⟨-, s', -, h'⟩ := stretching_goes_on Run.unwatched (⟨1, 1⟩ - stretching 1 (-1)) 0
    dampedStretching_operator rfl rfl rfl (by decide) one_ne_zero
    (by rw [hr]; exact two_ne_zero) (by rw [hr]; exact one_ne_zero) fun _ _ => rfl
  have hshares : dampedStretching.Shares dampedStretching := ⟨rfl, rfl⟩
  obtain ⟨hstates, -, htests⟩ :=
    shift_free ⟨1, 1⟩ (-1) Run.unwatched Run.unwatched dampedStretching_operator hshares
  have hs := hstates 2 s s' (.executed h) (.executed h')
  obtain ⟨t, t', ht, ht', -, h2, -⟩ := htests 2 s s' h h'
  exact ⟨s, s', t, t', h, h', hs.process, hs.x, ht, ht', h2⟩

end Problem

end LeastSquares
