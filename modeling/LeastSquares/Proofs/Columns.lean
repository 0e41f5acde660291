import Mathlib
import LeastSquares.Proofs.Descent
import LeastSquares.Proofs.Loosening

/-!
# The estimate of the norm over a solve

The estimate of the norm is the Frobenius norm of the operator on what the process has reached: of
`A V`, where the vectors `v` so far are the columns of `V`. An iteration adds the two scalars of a
column at different times, `beta` before the root and `alpha` after it, so the estimate is half an
iteration behind the sum that it is the root of. It never gets smaller, and never exceeds the norm,
also in a last iteration that leaves a zero behind and adds to the sum what is no part of a column.

* `columns`, `frobenius_comp_columns`: a map by its columns, and the norm of a product with it.
* `Course.norma_sq_le`: **the estimate is half an iteration behind.**
* `Course.norma_eq_frobenius`: **what the estimate of an iteration is.**
* `Problem.norma_grows`: **the estimates of a solve.**
-/

namespace LeastSquares

open Bidiagonal

section

variable {𝕜 E F : Type} [RCLike 𝕜]
  [NormedAddCommGroup E] [InnerProductSpace 𝕜 E] [FiniteDimensional 𝕜 E]
  [NormedAddCommGroup F] [InnerProductSpace 𝕜 F] [FiniteDimensional 𝕜 F] {n : ℕ}

/-- **The linear map with these columns.** -/
noncomputable def columns (v : Fin n → E) : EuclideanSpace 𝕜 (Fin n) →ₗ[𝕜] E where
  toFun w := ∑ i, w i • v i
  map_add' w z := by simp [add_smul, Finset.sum_add_distrib]
  map_smul' a w := by simp [mul_smul, Finset.smul_sum]

omit [FiniteDimensional 𝕜 E] in
theorem columns_basis (v : Fin n → E) (i : Fin n) :
    columns v (EuclideanSpace.basisFun (Fin n) 𝕜 i) = v i := by
  simp [columns]

omit [FiniteDimensional 𝕜 E] in
/-- **The norm of a product** is that of its columns. -/
theorem frobenius_comp_columns (A : E →ₗ[𝕜] F) (v : Fin n → E) :
    frobenius (A ∘ₗ columns v) ^ 2 = ∑ i, ‖A (v i)‖ ^ 2 := by
  rw [frobenius_sq (EuclideanSpace.basisFun (Fin n) 𝕜)]
  simp only [LinearMap.comp_apply, columns_basis]

end

variable {𝕜 E F : Type} [RCLike 𝕜]
  [NormedAddCommGroup E] [InnerProductSpace 𝕜 E] [NormedSpace ℝ E] [FiniteDimensional 𝕜 E]
  [NormedAddCommGroup F] [InnerProductSpace 𝕜 F] [NormedSpace ℝ F] [FiniteDimensional 𝕜 F]
  {A : E →ₗ[𝕜] F} {b : F} {x₀ : E} {damp : ℝ}

namespace Course

variable {S : ℕ → Run ℝ F E} (hS : Course A b x₀ damp S) {k n : ℕ}

include hS

theorem norma_succ (k : ℕ) :
    (S (k + 1)).norma = √((S k).norms.normA2 + (S (k + 1)).process.beta ^ 2) := by
  rw [← hS.process_succ, hS.succ]; rfl

theorem normA2_nonneg (k : ℕ) : 0 ≤ (S k).norms.normA2 := by
  induction k with
  | zero => rw [hS.zero]; exact sq_nonneg _
  | succ k ih => rw [hS.normA2_succ]; positivity

theorem norma_nonneg (k : ℕ) : 0 ≤ (S k).norma := by
  cases k with
  | zero => rw [hS.zero]; exact norm_nonneg _
  | succ k => rw [hS.norma_succ]; exact Real.sqrt_nonneg _

theorem norma_succ_sq (k : ℕ) :
    (S (k + 1)).norma ^ 2 = (S k).norms.normA2 + (S (k + 1)).process.beta ^ 2 := by
  have h := hS.normA2_nonneg k
  rw [hS.norma_succ, Real.sq_sqrt (by positivity)]

/-- **The estimate is half an iteration behind** the sum that it is the root of. -/
theorem norma_sq_le (k : ℕ) : (S k).norma ^ 2 ≤ (S k).norms.normA2 := by
  cases k with
  | zero => rw [hS.zero]; exact le_rfl
  | succ k =>
    rw [hS.norma_succ_sq, hS.normA2_succ]
    exact le_add_of_nonneg_right (sq_nonneg _)

/-- **The estimate never gets smaller.** -/
theorem norma_monotone : Monotone fun k => (S k).norma := by
  refine monotone_nat_of_le_succ fun k => le_of_sq_le_sq ?_ (hS.norma_nonneg _)
  rw [hS.norma_succ_sq]
  exact (hS.norma_sq_le k).trans (le_add_of_nonneg_right (sq_nonneg _))

/-- **The squares of the two scalars of every column.** -/
theorem norma_sq_eq (hl : Live (processOf S) k) : (S (k + 1)).norma ^ 2 =
    ∑ j ∈ Finset.range (k + 1), ((S j).process.alpha ^ 2 + (S (j + 1)).process.beta ^ 2) := by
  rw [hS.norma_sq hl, Fin.sum_univ_eq_sum_range fun j => ‖A (S j).process.v‖ ^ 2]
  refine Finset.sum_congr rfl fun j hj => ?_
  exact hS.recurs.norm_apply_v_sq (hl.mono (Nat.le_of_lt_succ (Finset.mem_range.1 hj)))

/-- **What the estimate of an iteration is**: the norm of the operator on the columns so far. -/
theorem norma_eq_frobenius (hl : Live (processOf S) k) : (S (k + 1)).norma =
    frobenius (A ∘ₗ columns fun j : Fin (k + 1) => (S j).process.v) := by
  refine (sq_eq_sq₀ (hS.norma_nonneg _) frobenius_nonneg).1 ?_
  rw [hS.norma_sq hl, frobenius_comp_columns]

end Course

namespace Problem

section

variable {α U V : Type} [Arithmetic α] [Vectors α U] [Vectors α V] {P : Problem α U V}
  {p : Bidiagonal α U V} {x zero : V} {o : Observers α} {n : ℕ} {s : Run α U V}

/-- An iteration that is executed has begun, and so has every one before. -/
theorem Executes.begins (h : P.Executes p x zero o n s) {j : ℕ} (hj : j < n) :
    ∃ s', P.Begins p x zero o j s' := by
  cases h with
  | @ends k s₀ _ h _ | @fails k s₀ _ _ h _ =>
    rcases Nat.lt_succ_iff_lt_or_eq.1 hj with hlt | rfl
    · exact h.reached.begins hlt
    · exact ⟨s₀, h⟩

/-- **All the states up to one** that a solve visits. -/
theorem Executes.visited (h : P.Executes p x zero o n s) :
    ∃ w : ℕ → Run α U V, w n = s ∧ ∀ j ≤ n, P.Visits p x zero o j (w j) := by
  have hall (j : ℕ) : ∃ s', j < n → P.Visits p x zero o j s' := by
    by_cases hj : j < n
    · obtain ⟨s', h'⟩ := h.begins hj
      exact ⟨s', fun _ => h'.reached.visits⟩
    · exact ⟨s, fun hlt => absurd hlt hj⟩
  choose w hw using hall
  refine ⟨Function.update w n s, Function.update_self _ _ _, ?_⟩
  intro j hj
  rcases hj.lt_or_eq with hlt | rfl
  · rw [Function.update_of_ne hlt.ne]
    exact hw j hlt
  · rw [Function.update_self]
    exact .executed h

end

variable {P : Problem ℝ F E} {o : Observers ℝ}

variable (b x₀ o) in
/-- **The estimates of the norm of a solve.** In every iteration that is executed the estimate is the
root of the squares of the scalars so far, which is the norm of the operator on the vectors `v` so
far. From before the first iteration on it never gets smaller, and never exceeds the norm of the
operator. -/
theorem norma_grows (hP : P.operator = .exact A) :
    (∀ n s, P.Executes (.initial b 0) x₀ 0 o n s →
      ∃ w : ℕ → Run ℝ F E, w n = s ∧ ∀ j ≤ n, P.Visits (.initial b 0) x₀ 0 o j (w j)) ∧
    (∀ n s (w : ℕ → Run ℝ F E), P.Executes (.initial b 0) x₀ 0 o n s → w n = s →
      (∀ j ≤ n, P.Visits (.initial b 0) x₀ 0 o j (w j)) →
      s.norma ^ 2 = ∑ j ∈ Finset.range n,
        ((w j).process.alpha ^ 2 + (w (j + 1)).process.beta ^ 2) ∧
      s.norma = frobenius (A ∘ₗ columns fun j : Fin n => (w j).process.v)) ∧
    (∀ m n s s', m ≤ n → P.Visits (.initial b 0) x₀ 0 o m s →
      P.Visits (.initial b 0) x₀ 0 o n s' → s.norma ≤ s'.norma) ∧
    ∀ n s, P.Visits (.initial b 0) x₀ 0 o n s → s.norma ≤ frobenius A := by
  have hS := course_spec A b x₀ P.damp
  have hnorma {n : ℕ} {s : Run ℝ F E} (h : P.Visits (.initial b 0) x₀ 0 o n s) :
      s.norma = (course A b x₀ P.damp n).norma := by
    rw [← (h.follows hP hS).1]
    rfl
  refine ⟨fun n s h => h.visited, ?_, ?_, ?_⟩
  · rintro n s w h rfl hw
    obtain ⟨k, s₀, rfl, h₀, -⟩ := h.follows hP hS
    have hl := h₀.live hP hS
    have hprocess {j : ℕ} (hj : j ≤ k + 1) :
        (w j).process = (course A b x₀ P.damp j).process := by
      rw [← ((hw j hj).follows hP hS).1]
      rfl
    have hcolumns : (fun j : Fin (k + 1) => (w j).process.v) =
        fun j : Fin (k + 1) => (course A b x₀ P.damp j).process.v := by
      funext j
      rw [hprocess j.2.le]
    rw [hnorma (.executed h), hcolumns, hS.norma_sq_eq hl]
    refine ⟨Finset.sum_congr rfl fun j hj => ?_, hS.norma_eq_frobenius hl⟩
    have hlt := Finset.mem_range.1 hj
    rw [hprocess hlt.le, hprocess hlt]
  · intro m n s s' hmn h h'
    rw [hnorma h, hnorma h']
    exact hS.norma_monotone hmn
  · intro n s h
    -- Before the first iteration the estimate is no larger than after it.
    have hle : (course A b x₀ P.damp n).norma ≤ frobenius A := by
      cases n with
      | zero =>
        have hl : Live (processOf (course A b x₀ P.damp)) 0 := by
          cases h with
          | opened h => exact (h.follows hP hS).ongoing h.stop_zero
          | executed h => exact absurd h (by rintro ⟨⟩)
        exact (hS.norma_monotone (Nat.zero_le 1)).trans (hS.norma_le_frobenius hl)
      | succ k => exact hS.norma_le_frobenius ((h.follows hP hS).2 k (Nat.lt_succ_self k))
    rw [hnorma h]
    exact hle

/-- Two iterations for an operator that stretches. -/
theorem dampedStretching_norma : ∃ (s : Run ℝ ℂ ℂ) (w : ℕ → Run ℝ ℂ ℂ),
    dampedStretching.Executes (.initial ⟨1, 1⟩ 0) (-1) 0 Run.unwatched 2 s ∧
    s.norma ^ 2 = ∑ j ∈ Finset.range 2,
      ((w j).process.alpha ^ 2 + (w (j + 1)).process.beta ^ 2) ∧
    (w 1).norma ≤ s.norma ∧ s.norma ≤ frobenius (stretching 1) := by
  obtain ⟨hvisited, hsum, hmono, hle⟩ :=
    norma_grows ⟨1, 1⟩ (-1) Run.unwatched dampedStretching_operator
  obtain ⟨-, s, -, h⟩ := dampedStretching_executes (o := Run.unwatched) fun _ _ => rfl
  obtain ⟨w, hws, hw⟩ := hvisited 2 s h
  exact ⟨s, w, h, (hsum 2 s w h hws hw).1,
    hmono 1 2 (w 1) s one_le_two (hw 1 one_le_two) (.executed h), hle 2 s (.executed h)⟩

end Problem

end LeastSquares
