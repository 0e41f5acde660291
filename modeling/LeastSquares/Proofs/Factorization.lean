import Mathlib.Data.Matrix.Basic
import LeastSquares.Proofs.Orthogonal

/-!
# The factorization of an operator

As long as no scalar vanishes, `k` steps of the process factorize the operator: `A V = U B`, where
`B` is the lower bidiagonal matrix of the scalars, and the vectors in `U` and in `V` are
orthonormal. The last of these steps may be one in which a scalar vanishes. If it is `beta`, the
step makes no vectors: it leaves `u = 0`, and `v` and `alpha` as they were.

* `Bidiagonal.Factorization`: **what `k` steps have to do with the operator.**
* `Recurs.factorization`: it follows from the recurrences alone.
* `Bidiagonal.factorizes`: **the program makes a factorization.**
-/

namespace LeastSquares.Bidiagonal

variable {𝕜 E F : Type} [RCLike 𝕜]
  [NormedAddCommGroup E] [InnerProductSpace 𝕜 E] [NormedSpace ℝ E] [FiniteDimensional 𝕜 E]
  [NormedAddCommGroup F] [InnerProductSpace 𝕜 F] [NormedSpace ℝ F] [FiniteDimensional 𝕜 F]

/-- **The lower bidiagonal matrix** of the scalars of `k` steps. -/
def lowerMatrix (P : ℕ → Bidiagonal ℝ F E) (k : ℕ) : Matrix (Fin (k + 1)) (Fin k) ℝ :=
  Matrix.of fun i j =>
    if i = j.castSucc then (P j).alpha else if i = j.succ then (P (j + 1)).beta else 0

/-- **A factorization of the operator** by the states `0`, …, `k` of a process that begins with the
residual `r`. A vector counts as one of the process if the scalars of its own state make it one:
`u` if `beta` is nonzero, and `v` if both are. -/
structure Factorization (A : E →ₗ[𝕜] F) (r : F) (P : ℕ → Bidiagonal ℝ F E) (k : ℕ) : Prop where
  start : (P 0).beta • (P 0).u = r
  forward : ∀ j < k,
    A (P j).v = (P j).alpha • (P j).u + (P (j + 1)).beta • (P (j + 1)).u
  backward : ∀ j < k, (P (j + 1)).beta ≠ 0 →
    A.adjoint (P (j + 1)).u = (P (j + 1)).beta • (P j).v + (P (j + 1)).alpha • (P (j + 1)).v
  orthonormal_u : Orthonormal 𝕜 fun j : {j // j ≤ k ∧ (P j).beta ≠ 0} => (P j).u
  orthonormal_v :
    Orthonormal 𝕜 fun j : {j // j ≤ k ∧ (P j).alpha ≠ 0 ∧ (P j).beta ≠ 0} => (P j).v
  product : ∀ j : Fin k, A (P j).v = ∑ i : Fin (k + 1), lowerMatrix P k i j • (P i).u

variable {A : E →ₗ[𝕜] F} {r : F} {P : ℕ → Bidiagonal ℝ F E} {k : ℕ}

/-- Vectors that are orthogonal to all before them are orthogonal to each other. -/
theorem orthonormal_of_lt {W : Type} [NormedAddCommGroup W] [InnerProductSpace 𝕜 W] {w : ℕ → W}
    {p : ℕ → Prop} (hnorm : ∀ j, p j → ‖w j‖ = 1)
    (hlt : ∀ i j, p j → i < j → inner 𝕜 (w i) (w j) = 0) :
    Orthonormal 𝕜 fun j : {j // p j} => w j := by
  constructor
  · rintro ⟨j, hj⟩
    exact hnorm j hj
  · rintro ⟨i, hi⟩ ⟨j, hj⟩ hij
    have hne : i ≠ j := fun h => hij (Subtype.ext h)
    rcases Nat.lt_or_gt_of_ne hne with h | h
    · exact hlt i j hj h
    · exact inner_eq_zero_symm.1 (hlt j i hi h)

omit [NormedAddCommGroup E] [NormedSpace ℝ E] in
/-- The sum over a column of the matrix has two terms. -/
theorem sum_lowerMatrix (j : Fin k) : ∑ i : Fin (k + 1), lowerMatrix P k i j • (P i).u =
    (P j).alpha • (P j).u + (P (j + 1)).beta • (P (j + 1)).u := by
  have hne : j.castSucc ≠ j.succ := Fin.castSucc_lt_succ.ne
  have hrest : ∀ i, i ∉ ({j.castSucc, j.succ} : Finset (Fin (k + 1))) →
      lowerMatrix P k i j • (P i).u = 0 := by
    intro i hi
    simp only [Finset.mem_insert, Finset.mem_singleton, not_or] at hi
    simp [lowerMatrix, hi.1, hi.2]
  rw [← Finset.sum_subset (Finset.subset_univ _) fun i _ hi => hrest i hi, Finset.sum_pair hne]
  simp [lowerMatrix, hne.symm]

namespace Recurs

variable (hP : Recurs A r P) (hl : ∀ j < k, (P j).alpha ≠ 0 ∧ (P j).beta ≠ 0)

include hP hl

/-- A `u` is orthogonal to all before it, also the one of the last step. -/
theorem inner_u_of_lt {i j : ℕ} (hj : j ≤ k) (hij : i < j) :
    inner 𝕜 (P i).u (P j).u = 0 := by
  obtain ⟨j, rfl⟩ : ∃ m, j = m + 1 := ⟨j - 1, by omega⟩
  have hlive : Live P j := fun m hm => hl m (by omega)
  exact hP.inner_u_next hlive (Nat.le_of_lt_succ hij)

/-- A `v` is orthogonal to all before it, unless a scalar has vanished in the last step. -/
theorem inner_v_of_lt {i j : ℕ} (hj : j ≤ k) (h0 : (P j).alpha ≠ 0 ∧ (P j).beta ≠ 0)
    (hij : i < j) : inner 𝕜 (P i).v (P j).v = 0 := by
  have hlive : Live P j := by
    intro m hm
    rcases hm.lt_or_eq with h | rfl
    · exact hl m (by omega)
    · exact h0
  exact (hP.orthogonalAt hlive).v i hij

/-- **The recurrences make a factorization.** -/
theorem factorization : Factorization A r P k where
  start := hP.start_u
  forward := fun j _ => hP.apply_v j
  backward := fun _ _ hb => hP.adjoint_u_succ hb
  orthonormal_u := orthonormal_of_lt (fun j hj => hP.norm_u j hj.2)
    fun _ _ hj hij => hP.inner_u_of_lt hl hj.1 hij
  orthonormal_v := orthonormal_of_lt (fun j hj => hP.norm_v j hj.2.1)
    fun _ _ hj hij => hP.inner_v_of_lt hl hj.1 hj.2 hij
  product := by
    intro j
    rw [sum_lowerMatrix]
    exact hP.apply_v j

end Recurs

/-! ### The program -/

variable {b : F} {x : E}

/-- **A step that leaves `beta` zero makes no vectors.** -/
theorem after_succ_of_beta (h : (after A b x (k + 1)).beta = 0) :
    (after A b x (k + 1)).v = (after A b x k).v ∧
      (after A b x (k + 1)).alpha = (after A b x k).alpha := by
  have hf : ‖(after A b x k).forwardPart A‖ = 0 := by rwa [after, next_beta] at h
  constructor
  · simp only [after, next, if_pos hf]
  · simp only [after, next, if_pos hf]

/-- **The process factorizes the operator**: the start and all steps succeed, and the first `k`
steps make a factorization if no scalar has vanished before the last of them. If `beta` vanishes in
that one, `v` and `alpha` are those of the step before it. -/
theorem factorizes (hl : ∀ j < k, (after A b x j).alpha ≠ 0 ∧ (after A b x j).beta ≠ 0) :
    (start (.exact A) x).run (initial b 0) = .ok () (after A b x 0) ∧
    (∀ j, (step (.exact A)).run (after A b x j) = .ok () (after A b x (j + 1))) ∧
    Factorization A (b - A x) (after A b x) k ∧
    ∀ j < k, (after A b x (j + 1)).beta = 0 →
      (after A b x (j + 1)).v = (after A b x j).v ∧
        (after A b x (j + 1)).alpha = (after A b x j).alpha := by
  refine ⟨start_eq A b x, ?_, (recurs_after A b x).factorization hl, ?_⟩
  · intro j
    exact step_eq A (after A b x j)
  · intro j _ hb
    exact after_succ_of_beta hb

/-- The operator that doubles a number. -/
noncomputable def doubling : ℝ →ₗ[ℝ] ℝ := LinearMap.id + LinearMap.id

theorem doubling_opening : after doubling 1 0 0 = ⟨1, 1, 2, 1, ⟨1, 1⟩, ⟨1, 1⟩⟩ := by
  norm_num [after, opening, unit, doubling]

theorem doubling_live : ∀ j < 1,
    (after doubling 1 0 j).alpha ≠ 0 ∧ (after doubling 1 0 j).beta ≠ 0 := by
  intro j hj
  obtain rfl : j = 0 := by omega
  rw [doubling_opening]
  norm_num

theorem doubling_next : after doubling 1 0 1 = ⟨0, 1, 2, 0, ⟨2, 1⟩, ⟨2, 1⟩⟩ := by
  have h : forwardPart doubling (⟨1, 1, 2, 1, ⟨1, 1⟩, ⟨1, 1⟩⟩ : Bidiagonal ℝ ℝ ℝ) = 0 := by
    norm_num [forwardPart, doubling]
  rw [after, doubling_opening, next, if_pos (by rw [h, norm_zero])]
  rfl

theorem doubling_factorizes :
    (∀ j < 1, (after doubling 1 0 j).alpha ≠ 0 ∧ (after doubling 1 0 j).beta ≠ 0) ∧
      Factorization doubling (1 - doubling 0) (after doubling 1 0) 1 :=
  ⟨doubling_live, (factorizes doubling_live).2.2.1⟩

theorem doubling_inner :
    inner ℝ (after doubling 1 0 0).v (after doubling 1 0 1).v = (1 : ℝ) := by
  rw [doubling_opening, doubling_next]
  norm_num

/-- **A step without new vectors repeats the old `v`**, beside an `alpha` that is not zero. -/
theorem doubling_repeats :
    (start (.exact doubling) 0).run (initial 1 0) = .ok () (after doubling 1 0 0) ∧
    (step (.exact doubling)).run (after doubling 1 0 0) = .ok () (after doubling 1 0 1) ∧
    (∀ j < 1, (after doubling 1 0 j).alpha ≠ 0 ∧ (after doubling 1 0 j).beta ≠ 0) ∧
    (after doubling 1 0 1).alpha = 2 ∧
    ¬ Orthonormal ℝ fun j : {j // j ≤ 1 ∧ (after doubling 1 0 j).alpha ≠ 0} =>
      (after doubling 1 0 j).v := by
  have h2 : (after doubling 1 0 1).alpha = 2 := by rw [doubling_next]
  refine ⟨start_eq _ _ _, step_eq _ _, doubling_live, h2, ?_⟩
  intro h
  have h0 : (after doubling 1 0 0).alpha ≠ 0 := (doubling_live 0 Nat.zero_lt_one).1
  have h1 : (after doubling 1 0 1).alpha ≠ 0 := by rw [h2]; norm_num
  have hinner : inner ℝ (after doubling 1 0 0).v (after doubling 1 0 1).v = (0 : ℝ) :=
    h.2 (i := ⟨0, Nat.zero_le 1, h0⟩) (j := ⟨1, le_rfl, h1⟩) (by simp)
  rw [doubling_inner] at hinner
  exact one_ne_zero hinner

end LeastSquares.Bidiagonal
