import Mathlib.Algebra.BigOperators.Ring.Finset
import LeastSquares.Proofs.Bidiagonals
import LeastSquares.Proofs.Course
import LeastSquares.Proofs.Factorization

/-!
# What the rotations factor

The rotations fed with any finite sequence of pairs, which need not come from an operator and may
vanish. They never fail, and the scalars that they return are the entries of two upper bidiagonal
matrices: of the triangular factor of the damped bidiagonal, and of that of its transpose. The
right-hand side keeps its length on the way.

* `Rotation.feed`: the rotations fed with a list of pairs.
* `Rotation.chain`, `Rotation.link`: over the real numbers, the states and what is between them.
* `Rotation.feed_chain`: **a list of pairs is never refused.**
* `Rotation.feed_factors`: **the matrices that the rotations factor.**
* `Course.rotations_factor`: in a solve, they are those of the bidiagonal that the process makes.
-/

namespace LeastSquares

open Matrix

namespace Rotation

/-- **The rotations fed with a list of pairs**: the state after each pair, and what its step has
produced on the way. -/
def feed {α : Type} [Arithmetic α] (damp : α) (q : Rotation α) :
    List (α × α) → Except Fault (List (Rotation α × RotationStep α))
  | [] => .ok []
  | pair :: pairs => do
    let row ← q.advance pair.1 pair.2 damp
    let rows ← row.1.feed damp pairs
    pure (row :: rows)

variable (alpha beta : ℕ → ℝ) (damp : ℝ)

/-- The state of the rotations after a number of pairs. -/
noncomputable def chain : ℕ → Rotation ℝ
  | 0 => .initial (alpha 0) (beta 0)
  | j + 1 => (chain j).next (alpha (j + 1)) (beta (j + 1)) damp

/-- What the step from one state to the next produces on the way. -/
noncomputable def link (j : ℕ) : RotationStep ℝ :=
  (chain alpha beta damp j).between (alpha (j + 1)) (beta (j + 1)) damp

theorem advance_chain (j : ℕ) :
    (chain alpha beta damp j).advance (alpha (j + 1)) (beta (j + 1)) damp =
      .ok (chain alpha beta damp (j + 1), link alpha beta damp j) :=
  advance_eq _ _ _ _

/-- **A list of pairs is never refused**, from any state of a chain. -/
theorem feed_chain (j k : ℕ) :
    (chain alpha beta damp j).feed damp
        ((List.range' j k).map fun i => (alpha (i + 1), beta (i + 1))) =
      .ok ((List.range' j k).map fun i =>
        (chain alpha beta damp (i + 1), link alpha beta damp i)) := by
  induction k generalizing j with
  | zero => rfl
  | succ k ih =>
    have hrest := ih (j + 1)
    simp only [List.range'_succ, List.map_cons, feed, advance_chain, bind, Except.bind, hrest]
    rfl

/-! ### The entries -/

section

variable (j : ℕ)

/-- The diagonal of the first factor. -/
theorem chain_rho_sq : (chain alpha beta damp (j + 1)).rho ^ 2 +
      delayed (fun i => (link alpha beta damp i).thetanew ^ 2) j =
    alpha j ^ 2 + beta (j + 1) ^ 2 + damp ^ 2 := by
  have hrho : (chain alpha beta damp (j + 1)).rho ^ 2 =
      (chain alpha beta damp j).alphabar ^ 2 + damp ^ 2 + beta (j + 1) ^ 2 := next_rho_sq _ _ _ _
  -- What is left of `alpha` after a step is completed by what the step has put beside the diagonal.
  have halpha : (chain alpha beta damp j).alphabar ^ 2 +
      delayed (fun i => (link alpha beta damp i).thetanew ^ 2) j = alpha j ^ 2 := by
    cases j with
    | zero => exact add_zero _
    | succ j => exact next_alphabar_sq _ _ _ _
  linear_combination hrho + halpha

/-- The entry of the first factor beside its diagonal. -/
theorem chain_rho_mul : (chain alpha beta damp (j + 1)).rho * (link alpha beta damp j).thetanew =
    beta (j + 1) * alpha (j + 1) := by
  have h : (chain alpha beta damp (j + 1)).rho * (link alpha beta damp j).thetanew =
      alpha (j + 1) * beta (j + 1) := next_rho_mul _ _ _ _
  rw [h, mul_comm]

theorem chain_unit :
    (chain alpha beta damp j).cbar ^ 2 + (chain alpha beta damp j).sbar ^ 2 = 1 := by
  cases j with
  | zero => exact (sound_initial _ _).unit
  | succ j => exact next_unit _ _ _ _

theorem chain_sbar_mul :
    (chain alpha beta damp (j + 1)).sbar * (chain alpha beta damp (j + 1)).rhobar =
      (link alpha beta damp j).thetanew := next_sbar_mul _ _ _ _

theorem link_thetabar : (link alpha beta damp j).thetabar =
    (chain alpha beta damp j).sbar * (chain alpha beta damp (j + 1)).rho := rfl

/-- The diagonal of the second factor. -/
theorem chain_rhobar_sq : (chain alpha beta damp (j + 1)).rhobar ^ 2 +
      delayed (fun i => (link alpha beta damp (i + 1)).thetabar ^ 2) j =
    (chain alpha beta damp (j + 1)).rho ^ 2 + (link alpha beta damp j).thetanew ^ 2 := by
  have hrhobar : (chain alpha beta damp (j + 1)).rhobar ^ 2 =
      ((chain alpha beta damp j).cbar * (chain alpha beta damp (j + 1)).rho) ^ 2 +
        (link alpha beta damp j).thetanew ^ 2 := PlaneRotation.turn_r_sq _ _
  -- Before the first step there is no sine, so nothing is missing in the first column.
  have hbefore : delayed (fun i => (link alpha beta damp (i + 1)).thetabar ^ 2) j =
      ((chain alpha beta damp j).sbar * (chain alpha beta damp (j + 1)).rho) ^ 2 := by
    cases j with
    | zero => simp [chain, initial]
    | succ j => rfl
  rw [hbefore]
  linear_combination hrhobar + (chain alpha beta damp (j + 1)).rho ^ 2 *
    chain_unit alpha beta damp j

/-- The entry of the second factor beside its diagonal. -/
theorem chain_rhobar_mul :
    (chain alpha beta damp (j + 1)).rhobar * (link alpha beta damp (j + 1)).thetabar =
      (link alpha beta damp j).thetanew * (chain alpha beta damp (j + 2)).rho := by
  rw [link_thetabar, ← chain_sbar_mul]
  ring

/-- **The right-hand side keeps its length**: what a step settles of it and what it leaves over. -/
theorem sum_zeta_sq (k : ℕ) :
    ∑ j ∈ Finset.range k, (chain alpha beta damp (j + 1)).zeta ^ 2 +
      (chain alpha beta damp k).zetabar ^ 2 = (alpha 0 * beta 0) ^ 2 := by
  induction k with
  | zero => rw [Finset.sum_range_zero, zero_add]; rfl
  | succ k ih =>
    have hzeta : (chain alpha beta damp (k + 1)).zeta =
        (chain alpha beta damp (k + 1)).cbar * (chain alpha beta damp k).zetabar := rfl
    have hzetabar : (chain alpha beta damp (k + 1)).zetabar =
        -(chain alpha beta damp (k + 1)).sbar * (chain alpha beta damp k).zetabar := rfl
    have hunit := chain_unit alpha beta damp (k + 1)
    rw [Finset.sum_range_succ, hzeta, hzetabar, ← ih]
    linear_combination (chain alpha beta damp k).zetabar ^ 2 * hunit

end

/-! ### The matrices -/

variable (k : ℕ)

/-- The first factor of the rotations. -/
noncomputable def factor : Matrix (Fin k) (Fin k) ℝ :=
  upperBidiagonal k (fun j => (chain alpha beta damp (j + 1)).rho) fun j =>
    (link alpha beta damp j).thetanew

/-- The second factor of the rotations. -/
noncomputable def cofactor : Matrix (Fin k) (Fin k) ℝ :=
  upperBidiagonal k (fun j => (chain alpha beta damp (j + 1)).rhobar) fun j =>
    (link alpha beta damp (j + 1)).thetabar

theorem factor_gram : (factor alpha beta damp k)ᵀ * factor alpha beta damp k =
    (lowerBidiagonal k alpha fun j => beta (j + 1))ᵀ *
        lowerBidiagonal k alpha (fun j => beta (j + 1)) +
      damp ^ 2 • (1 : Matrix (Fin k) (Fin k) ℝ) := by
  rw [factor, upperBidiagonal_gram, lowerBidiagonal_gram, tridiagonal_add_diagonal]
  exact tridiagonal_congr (fun j _ => chain_rho_sq alpha beta damp j) fun j _ =>
    chain_rho_mul alpha beta damp j

theorem cofactor_gram : (cofactor alpha beta damp k)ᵀ * cofactor alpha beta damp k =
    factor alpha beta damp k * (factor alpha beta damp k)ᵀ +
      (link alpha beta damp (k - 1)).thetanew ^ 2 • vecMulVec (lastUnit k) (lastUnit k) := by
  rw [cofactor, factor, upperBidiagonal_gram, upperBidiagonal_cogram]
  exact tridiagonal_congr (fun j _ => chain_rhobar_sq alpha beta damp j) fun j _ =>
    chain_rhobar_mul alpha beta damp j

/-- **The matrices that the rotations factor.** Fed with pairs from the first one on, they never
fail; the first factor is that of the damped bidiagonal, the second one that of its transpose up to
what has not been rotated yet, and the right-hand side keeps its length. -/
theorem feed_factors : ∃ (q : ℕ → Rotation ℝ) (t : ℕ → RotationStep ℝ),
    q 0 = .initial (alpha 0) (beta 0) ∧
    (q 0).feed damp ((List.range k).map fun j => (alpha (j + 1), beta (j + 1))) =
      .ok ((List.range k).map fun j => (q (j + 1), t j)) ∧
    let B := lowerBidiagonal k alpha fun j => beta (j + 1)
    let R := upperBidiagonal k (fun j => (q (j + 1)).rho) fun j => (t j).thetanew
    let Rbar := upperBidiagonal k (fun j => (q (j + 1)).rhobar) fun j => (t (j + 1)).thetabar
    Rᵀ * R = Bᵀ * B + damp ^ 2 • (1 : Matrix (Fin k) (Fin k) ℝ) ∧
    Rbarᵀ * Rbar =
      R * Rᵀ + (t (k - 1)).thetanew ^ 2 • vecMulVec (lastUnit k) (lastUnit k) ∧
    ∑ j ∈ Finset.range k, (q (j + 1)).zeta ^ 2 + (q k).zetabar ^ 2 = (alpha 0 * beta 0) ^ 2 := by
  refine ⟨chain alpha beta damp, link alpha beta damp, rfl, ?_, factor_gram alpha beta damp k,
    cofactor_gram alpha beta damp k, sum_zeta_sq alpha beta damp k⟩
  rw [List.range_eq_range']
  exact feed_chain alpha beta damp 0 k

end Rotation

/-! ### The rotations of a solve -/

section

open Bidiagonal (lowerMatrix)

theorem lowerMatrix_eq {E F : Type} (P : ℕ → Bidiagonal ℝ F E) (k : ℕ) : lowerMatrix P k =
    lowerBidiagonal k (fun j => (P j).alpha) fun j => (P (j + 1)).beta := by
  ext i j
  simp only [lowerMatrix, lowerBidiagonal, of_apply, Fin.ext_iff, Fin.val_castSucc, Fin.val_succ]

variable {𝕜 E F : Type} [RCLike 𝕜]
  [NormedAddCommGroup E] [InnerProductSpace 𝕜 E] [NormedSpace ℝ E] [FiniteDimensional 𝕜 E]
  [NormedAddCommGroup F] [InnerProductSpace 𝕜 F] [NormedSpace ℝ F] [FiniteDimensional 𝕜 F]
  {A : E →ₗ[𝕜] F} {b : F} {x₀ : E} {damp : ℝ} {S : ℕ → Run ℝ F E}

/-- The states of the rotations in a solve are those of the chain of its scalars. -/
theorem Course.rotation_eq_chain (hS : Course A b x₀ damp S) (k : ℕ) : (S k).rotation =
    Rotation.chain (fun j => (S j).process.alpha) (fun j => (S j).process.beta) damp k := by
  induction k with
  | zero => exact hS.rotation_zero
  | succ k ih => rw [hS.rotation_succ, ih]; rfl

/-- **The rotations of a solve** factor the bidiagonal that the process makes, with the damping on
its diagonal. -/
theorem Course.rotations_factor (hS : Course A b x₀ damp S) (k : ℕ) :
    let R := upperBidiagonal k (fun j => (S (j + 1)).rotation.rho) fun j =>
      (stepOf damp S j).thetanew
    Rᵀ * R = (lowerMatrix (processOf S) k)ᵀ * lowerMatrix (processOf S) k +
      damp ^ 2 • (1 : Matrix (Fin k) (Fin k) ℝ) := by
  have hR : upperBidiagonal k (fun j => (S (j + 1)).rotation.rho)
      (fun j => (stepOf damp S j).thetanew) = Rotation.factor (fun j => (S j).process.alpha)
        (fun j => (S j).process.beta) damp k := by
    simp only [Rotation.factor, Rotation.link, stepOf, hS.rotation_eq_chain]
  rw [hR, lowerMatrix_eq]
  exact Rotation.factor_gram _ _ damp k

end

end LeastSquares
