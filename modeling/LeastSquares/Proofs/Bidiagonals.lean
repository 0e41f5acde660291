import Mathlib.Data.Matrix.Mul
import Mathlib.Tactic.LinearCombination
import LeastSquares.Proofs.Rotations

/-!
# Bidiagonal matrices

The rotations turn one bidiagonal matrix into another without building either of them. This file has
the matrices: those of the two chains, the products with their transposes, which are tridiagonal,
and the vector at the end of the last column.

* `lowerBidiagonal`, `upperBidiagonal`, `tridiagonal`: **the matrices**, by their diagonals.
* `lowerBidiagonal_gram`, `upperBidiagonal_gram`: the products from the left.
* `upperBidiagonal_cogram`: the product from the right, which misses the end of the last row.
-/

namespace LeastSquares

open Matrix

variable {k : ℕ} (d e : ℕ → ℝ)

/-- **A lower bidiagonal matrix**, one row higher than wide, with the diagonal `d` and `e` below
it. -/
def lowerBidiagonal (k : ℕ) (d e : ℕ → ℝ) : Matrix (Fin (k + 1)) (Fin k) ℝ :=
  of fun i j => if (i : ℕ) = j then d j else if (i : ℕ) = j + 1 then e j else 0

/-- **An upper bidiagonal matrix** with the diagonal `d` and `e` above it. -/
def upperBidiagonal (k : ℕ) (d e : ℕ → ℝ) : Matrix (Fin k) (Fin k) ℝ :=
  of fun i j => if (i : ℕ) = j then d i else if (i : ℕ) + 1 = j then e i else 0

/-- **A symmetric tridiagonal matrix** with the diagonal `d` and `e` on both sides of it. -/
def tridiagonal (k : ℕ) (d e : ℕ → ℝ) : Matrix (Fin k) (Fin k) ℝ :=
  of fun i j => if (i : ℕ) = j then d i else if (i : ℕ) + 1 = j then e i
    else if (j : ℕ) + 1 = i then e j else 0

/-- The last unit vector. -/
def lastUnit (k : ℕ) : Fin k → ℝ := fun i => if (i : ℕ) + 1 = k then 1 else 0

/-- A sequence one place later. -/
def delayed (f : ℕ → ℝ) : ℕ → ℝ
  | 0 => 0
  | j + 1 => f j

@[simp] theorem delayed_zero (f : ℕ → ℝ) : delayed f 0 = 0 := rfl

@[simp] theorem delayed_succ (f : ℕ → ℝ) (j : ℕ) : delayed f (j + 1) = f j := rfl

/-- Tridiagonal matrices by their entries. -/
theorem tridiagonal_congr {d d' e e' : ℕ → ℝ} (hd : ∀ j < k, d j = d' j)
    (he : ∀ j, j + 1 < k → e j = e' j) : tridiagonal k d e = tridiagonal k d' e' := by
  ext i j
  simp only [tridiagonal, of_apply]
  split_ifs with h1 h2 h3
  · exact hd i i.2
  · exact he i (by omega)
  · exact he j (by omega)
  · rfl

theorem tridiagonal_add_diagonal (a : ℝ) :
    tridiagonal k d e + a • (1 : Matrix (Fin k) (Fin k) ℝ) =
      tridiagonal k (fun j => d j + a) e := by
  ext i j
  simp only [tridiagonal, Matrix.add_apply, Matrix.smul_apply, one_apply, of_apply, Fin.ext_iff,
    smul_eq_mul, mul_ite, mul_one, mul_zero]
  split_ifs <;> simp

/-! ### Products -/

/-- A column has two entries. -/
theorem sum_lowerBidiagonal (f : Fin (k + 1) → ℝ) (j : Fin k) :
    ∑ i, lowerBidiagonal k d e i j * f i = d j * f j.castSucc + e j * f j.succ := by
  have hentry : ∀ i, lowerBidiagonal k d e i j * f i =
      (if i = j.castSucc then d j * f j.castSucc else 0) +
        (if i = j.succ then e j * f j.succ else 0) := by
    intro i
    simp only [lowerBidiagonal, of_apply, Fin.ext_iff, Fin.val_castSucc, Fin.val_succ]
    by_cases h1 : (i : ℕ) = j
    · have h : i = j.castSucc := Fin.ext h1
      simp [h]
    · by_cases h2 : (i : ℕ) = j + 1
      · have h : i = j.succ := Fin.ext h2
        simp [h]
      · simp [h1, h2]
  simp only [hentry, Finset.sum_add_distrib, Finset.sum_ite_eq', Finset.mem_univ, if_true]

/-- **A lower bidiagonal matrix with its transpose.** -/
theorem lowerBidiagonal_gram : (lowerBidiagonal k d e)ᵀ * lowerBidiagonal k d e =
    tridiagonal k (fun j => d j ^ 2 + e j ^ 2) (fun j => e j * d (j + 1)) := by
  ext i j
  rw [mul_apply]
  simp only [transpose_apply, sum_lowerBidiagonal]
  simp only [lowerBidiagonal, tridiagonal, of_apply, Fin.val_castSucc, Fin.val_succ]
  grind

/-- The entries of an upper bidiagonal matrix, without its size. -/
def upperEntry (d e : ℕ → ℝ) (i j : ℕ) : ℝ :=
  if i = j then d i else if i + 1 = j then e i else 0

theorem upperBidiagonal_apply (i j : Fin k) : upperBidiagonal k d e i j = upperEntry d e i j := rfl

/-- A column has an entry on the diagonal, and one above it unless it is the first. -/
theorem sum_upperEntry_column (f : ℕ → ℝ) {j : ℕ} (hj : j < k) :
    ∑ i ∈ Finset.range k, upperEntry d e i j * f i =
      d j * f j + delayed (fun i => e i * f i) j := by
  have hentry : ∀ i, upperEntry d e i j * f i =
      (if i = j then d j * f j else 0) + if i + 1 = j then e i * f i else 0 := by
    intro i
    unfold upperEntry
    grind
  simp only [hentry, Finset.sum_add_distrib, Finset.sum_ite_eq', Finset.mem_range, hj, if_true]
  congr 1
  cases j with
  | zero => simp
  | succ j =>
    simp only [Nat.add_right_cancel_iff, Finset.sum_ite_eq', Finset.mem_range, delayed_succ]
    exact if_pos (Nat.lt_of_succ_lt hj)

/-- A row has an entry on the diagonal, and one beside it unless it is the last. -/
theorem sum_upperEntry_row (f : ℕ → ℝ) {i : ℕ} (hi : i < k) :
    ∑ j ∈ Finset.range k, upperEntry d e i j * f j =
      d i * f i + if i + 1 < k then e i * f (i + 1) else 0 := by
  have hentry : ∀ j, upperEntry d e i j * f j =
      (if j = i then d i * f i else 0) + if j = i + 1 then e i * f (i + 1) else 0 := by
    intro j
    unfold upperEntry
    grind
  simp only [hentry, Finset.sum_add_distrib, Finset.sum_ite_eq', Finset.mem_range, hi, if_true]

/-- **An upper bidiagonal matrix with its transpose.** -/
theorem upperBidiagonal_gram : (upperBidiagonal k d e)ᵀ * upperBidiagonal k d e =
    tridiagonal k (fun j => d j ^ 2 + delayed (fun i => e i ^ 2) j) (fun j => d j * e j) := by
  ext i j
  have hsum : ∑ l : Fin k, upperEntry d e l i * upperEntry d e l j =
      d i * upperEntry d e i j + delayed (fun l => e l * upperEntry d e l j) i := by
    rw [Fin.sum_univ_eq_sum_range (fun l => upperEntry d e l i * upperEntry d e l j),
      sum_upperEntry_column d e _ i.2]
  simp only [mul_apply, transpose_apply, upperBidiagonal_apply, hsum, tridiagonal, of_apply]
  rcases i with ⟨_ | i, hi⟩
  · simp only [delayed_zero, upperEntry]
    grind
  · simp only [delayed_succ, upperEntry]
    grind

/-- **An upper bidiagonal matrix with its transpose on the right.** Its last row has no entry above
the diagonal, so the last product misses a square. -/
theorem upperBidiagonal_cogram : upperBidiagonal k d e * (upperBidiagonal k d e)ᵀ +
      e (k - 1) ^ 2 • vecMulVec (lastUnit k) (lastUnit k) =
    tridiagonal k (fun j => d j ^ 2 + e j ^ 2) (fun j => e j * d (j + 1)) := by
  ext i j
  have hsum : ∑ l : Fin k, upperEntry d e i l * upperEntry d e j l =
      d i * upperEntry d e j i + if (i : ℕ) + 1 < k then e i * upperEntry d e j (i + 1) else 0 := by
    rw [Fin.sum_univ_eq_sum_range (fun l => upperEntry d e i l * upperEntry d e j l),
      sum_upperEntry_row d e _ i.2]
  simp only [Matrix.add_apply, mul_apply, Matrix.smul_apply, transpose_apply,
    upperBidiagonal_apply, hsum]
  simp only [tridiagonal, of_apply, vecMulVec_apply, lastUnit, smul_eq_mul, upperEntry]
  have hi := i.2
  have hj := j.2
  grind

end LeastSquares
