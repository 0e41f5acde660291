import LeastSquares.Proofs.Ongoing

/-!
# The solution after every iteration

Every iteration leaves the best solution that the products so far allow, together with the true
norms of its two residuals. This holds of every iteration that is executed: of the last one, of one
in which a scalar of the process vanishes, and of one at which the callback ends the solve.

* `Problem.solution_minimizes`: **the residual of the normal equations is minimal**, and its norm is
  the one that the rotations keep.
* `Problem.estimate_exact`: **the estimate of the residual is its norm.**
-/

namespace LeastSquares.Problem

open Bidiagonal

variable {𝕜 E F : Type} [RCLike 𝕜]
  [NormedAddCommGroup E] [InnerProductSpace 𝕜 E] [NormedSpace ℝ E] [FiniteDimensional 𝕜 E]
  [NormedAddCommGroup F] [InnerProductSpace 𝕜 F] [NormedSpace ℝ F] [FiniteDimensional 𝕜 F]
  {A : E →ₗ[𝕜] F} {b : F} {x₀ : E} {P : Problem ℝ F E} {o : Observers ℝ} {n : ℕ} {s : Run ℝ F E}

/-- **Every iteration minimizes the residual of the normal equations** over the Krylov space of its
number, and knows the minimum. -/
theorem solution_minimizes (hP : P.operator = .exact A)
    (h : P.Executes (.initial b 0) x₀ 0 o n s) :
    s.iterate.x - x₀ ∈ krylov (A.adjoint ∘ₗ A) (A.adjoint (b - A x₀)) n ∧
    (∀ y, y - x₀ ∈ krylov (A.adjoint ∘ₗ A) (A.adjoint (b - A x₀)) n → y ≠ s.iterate.x →
      ‖normalResidual A b x₀ P.damp s.iterate.x‖ < ‖normalResidual A b x₀ P.damp y‖) ∧
    s.normar = |s.rotation.zetabar| ∧
    s.normar = ‖normalResidual A b x₀ P.damp s.iterate.x‖ := by
  have hS := course_spec A b x₀ P.damp
  obtain ⟨k, s₀, rfl, hbegins, hb, -⟩ := h.follows hP hS
  have hl := hbegins.live hP hS
  rw [← Run.bare_iterate, ← Run.bare_normar, ← Run.bare_rotation, hb,
    ← hS.recurs.vSpan_eq_krylov hl]
  refine ⟨hS.x_sub_mem hl, ?_, hS.normar_succ k, (hS.norm_residual hl).symm⟩
  intro y hy hne
  exact hS.residual_lt hl hy hne

/-- The second iteration for an operator that stretches. -/
theorem dampedStretching_minimum : ∃ s,
    dampedStretching.Executes (.initial ⟨1, 1⟩ 0) (-1) 0 Run.unwatched 2 s ∧
      s.normar = ‖normalResidual (stretching 1) ⟨1, 1⟩ (-1) 1 s.iterate.x‖ := by
  obtain ⟨-, s, -, h⟩ := dampedStretching_executes (o := Run.unwatched) fun _ _ => rfl
  exact ⟨s, h, (solution_minimizes dampedStretching_operator h).2.2.2⟩

/-- **The estimate of the residual is its norm** after every iteration: the one that the run keeps,
and, if a history is kept, the one that it records relative to the first residual and the one with
which it ends. -/
theorem estimate_exact (hP : P.operator = .exact A) (h : P.Executes (.initial b 0) x₀ 0 o n s) :
    0 ≤ s.normr ∧
    s.normr ^ 2 = ‖b - A s.iterate.x‖ ^ 2 + P.damp ^ 2 * ‖s.iterate.x - x₀‖ ^ 2 ∧
    (o.history.isSome →
      ∃ t, s.observers.history = some t ∧
        (∃ r ∈ t.tests.getLast?, r.test1 * s.normb = s.normr) ∧
        ∃ t', s.close.observers.history = some t' ∧ ∃ m ∈ t'.summary, m.normR = s.normr) := by
  have hS := course_spec A b x₀ P.damp
  obtain ⟨k, s₀, rfl, hbegins, hb, hseen⟩ := h.follows hP hS
  have hl := hbegins.live hP hS
  have hb₀ := (hbegins.reached.follows hP hS).bare_eq
  have hnext : (s₀.next A P.damp).bare = s.bare := by rw [Run.bare_next, hb₀, hb]; rfl
  have htest : (s₀.tests A P.damp P.atol P.btol).test1 * s.normb = s.normr := by
    have h1 : (s₀.next A P.damp).bare.normb = s.bare.normb := by rw [hnext]
    have h2 : (s₀.next A P.damp).bare.normr = s.bare.normr := by rw [hnext]
    rw [← Run.bare_normb, ← Run.bare_normr, ← h1, ← h2]
    exact test1_mul_normb hS hb₀ hl P.atol P.btol
  refine ⟨?_, ?_, ?_⟩
  · rw [← Run.bare_normr, hb]
    exact hS.normr_nonneg k
  · rw [← Run.bare_normr, ← Run.bare_iterate, hb]
    exact hS.normr_sq hl
  · intro ho
    rw [← (hbegins.reached.follows hP hS).kept_eq] at ho
    obtain ⟨t₀, ht₀⟩ := Option.isSome_iff_exists.1 ho
    -- The last record is that of this iteration.
    have ht : s.observers.history = some (t₀.record (k + 1) (s₀.tests A P.damp P.atol P.btol)) := by
      rw [hseen, Observers.seen_history, ht₀]; rfl
    refine ⟨_, ht, ⟨_, List.getLast?_concat, htest⟩, ?_⟩
    have hclose := s.observers.finish_history s.iteration s.process.counted s.stop s.summary
    rw [ht] at hclose
    exact ⟨_, hclose, s.summary, rfl, rfl⟩

/-- The second iteration of a solve that keeps a history. -/
theorem dampedStretching_estimate : ∃ s t,
    dampedStretching.Executes (.initial ⟨1, 1⟩ 0) (-1) 0
      ⟨some (.initial 0 0 0 0), false, none, [], []⟩ 2 s ∧
      s.normr ^ 2 =
        ‖⟨1, 1⟩ - stretching 1 s.iterate.x‖ ^ 2 + 1 ^ 2 * ‖s.iterate.x - -1‖ ^ 2 ∧
      s.observers.history = some t ∧ ∃ r ∈ t.tests.getLast?, r.test1 * s.normb = s.normr := by
  obtain ⟨-, s, -, h⟩ := dampedStretching_executes
    (o := ⟨some (.initial 0 0 0 0), false, none, [], []⟩) fun _ _ => rfl
  obtain ⟨-, hnormr, hkept⟩ := estimate_exact dampedStretching_operator h
  obtain ⟨t, ht, hlast, -⟩ := hkept rfl
  exact ⟨s, t, h, hnormr, ht, hlast⟩

end LeastSquares.Problem
