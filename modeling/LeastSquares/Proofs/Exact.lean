import Mathlib.Analysis.Real.Sqrt
import Mathlib.Tactic.Linarith
import Mathlib.Tactic.LinearCombination
import Mathlib.Tactic.Positivity
import LeastSquares.Chain

/-!
# Exact arithmetic

The recurrences read over the real numbers. Only a division by zero and the root of a negative
number fail there, so a rotation never fails, and the estimates do not fail where their divisors
are nonzero. Each recurrence is stated here once as a function of its own (`turn`, `next`), with
the theorem that the program computes it (`ofPair_eq`, `advance_eq`, `compute_eq`).

* `PlaneRotation.turn`: the rotation of a pair, with its defining equations.
* `Rotation.next`, `Rotation.between`: one application of the rotations.
* `ResidualEstimate.next`, `ResidualEstimate.normr`: one step of the residual estimate.
* `NormEstimate.next`, `NormEstimate.ratio`: one step of the norm estimates, and the one of the
  condition number.
* `StoppingTests.exact`: the statistics.
-/

namespace LeastSquares

/-- **The operations on real numbers.** -/
noncomputable instance : Arithmetic ℝ where
  ofNat n := n
  abs a := |a|
  hypot a b := √(a ^ 2 + b ^ 2)
  use := .ok
  div a b := if b = 0 then .error .divisionByZero else .ok (a / b)
  square a := .ok (a ^ 2)
  sqrt a := if a < 0 then .error .outsideDomain else .ok √a
  lt a b := decide (a < b)
  le a b := decide (a ≤ b)
  eq a b := decide (a = b)
  isTop _ := false

theorem exact_div {a b : ℝ} (hb : b ≠ 0) : Arithmetic.div a b = .ok (a / b) := if_neg hb

theorem exact_sqrt {a : ℝ} (ha : 0 ≤ a) : Arithmetic.sqrt a = .ok √a := if_neg (not_lt.2 ha)

theorem exact_larger (a b : ℝ) : larger a b = max a b := by
  by_cases h : a < b
  · simp [larger, Arithmetic.lt, h, h.le]
  · simp [larger, Arithmetic.lt, h, not_lt.1 h]

theorem exact_smaller (a b : ℝ) : smaller a b = min a b := by
  by_cases h : b < a
  · simp [smaller, Arithmetic.lt, h, h.le]
  · simp [smaller, Arithmetic.lt, h, not_lt.1 h]

/-! ### Plane rotations -/

namespace PlaneRotation

/-- The rotation of a pair of real numbers. -/
noncomputable def turn (a b : ℝ) : PlaneRotation ℝ :=
  if √(a ^ 2 + b ^ 2) = 0 then ⟨1, 0, 0⟩
  else ⟨a / √(a ^ 2 + b ^ 2), b / √(a ^ 2 + b ^ 2), √(a ^ 2 + b ^ 2)⟩

theorem ofPair_eq (a b : ℝ) : ofPair a b = .ok (turn a b) := by
  simp only [ofPair, turn, Arithmetic.hypot, Arithmetic.eq, Arithmetic.div, decide_eq_true_eq]
  split_ifs with h
  · rfl
  · rfl

variable (a b : ℝ)

theorem turn_r : (turn a b).r = √(a ^ 2 + b ^ 2) := by
  unfold turn
  split_ifs with h
  · exact h.symm
  · rfl

theorem turn_r_nonneg : 0 ≤ (turn a b).r := by
  rw [turn_r]; exact Real.sqrt_nonneg _

theorem turn_r_sq : (turn a b).r ^ 2 = a ^ 2 + b ^ 2 := by
  rw [turn_r]; exact Real.sq_sqrt (by positivity)

/-- A pair of length zero is a pair of zeros. -/
theorem eq_zero_of_turn_r {a b : ℝ} (h : √(a ^ 2 + b ^ 2) = 0) : a = 0 ∧ b = 0 := by
  have hs : a ^ 2 + b ^ 2 = 0 := (Real.sqrt_eq_zero (by positivity)).1 h
  constructor
  · nlinarith [sq_nonneg a, sq_nonneg b]
  · nlinarith [sq_nonneg a, sq_nonneg b]

@[simp] theorem turn_c_mul_r : (turn a b).c * (turn a b).r = a := by
  unfold turn
  split_ifs with h
  · simp [(eq_zero_of_turn_r h).1]
  · exact div_mul_cancel₀ a h

@[simp] theorem turn_s_mul_r : (turn a b).s * (turn a b).r = b := by
  unfold turn
  split_ifs with h
  · simp [(eq_zero_of_turn_r h).2]
  · exact div_mul_cancel₀ b h

theorem turn_unit : (turn a b).c ^ 2 + (turn a b).s ^ 2 = 1 := by
  by_cases h : √(a ^ 2 + b ^ 2) = 0
  · simp [turn, h]
  -- Both entries times the length are those of the pair, whose squares add up to its square.
  · have hr : (turn a b).r ≠ 0 := by rw [turn_r]; exact h
    have h2 := turn_r_sq a b
    have hc := turn_c_mul_r a b
    have hs := turn_s_mul_r a b
    have : ((turn a b).c ^ 2 + (turn a b).s ^ 2) * (turn a b).r ^ 2 = 1 * (turn a b).r ^ 2 := by
      rw [one_mul, add_mul, ← mul_pow, ← mul_pow, hc, hs, h2]
    exact mul_right_cancel₀ (pow_ne_zero 2 hr) this

variable {a b}

theorem turn_r_pos (ha : 0 < a) : 0 < (turn a b).r := by
  rw [turn_r]; exact Real.sqrt_pos.2 (by positivity)

theorem turn_c_pos (ha : 0 < a) : 0 < (turn a b).c :=
  pos_of_mul_pos_left (by rw [turn_c_mul_r]; exact ha) (turn_r_nonneg a b)

theorem turn_s_nonneg (ha : 0 < a) (hb : 0 ≤ b) : 0 ≤ (turn a b).s :=
  nonneg_of_mul_nonneg_left (by rw [turn_s_mul_r]; exact hb) (turn_r_pos ha)

theorem turn_s_eq_zero (ha : 0 < a) : (turn a b).s = 0 ↔ b = 0 := by
  constructor
  · intro h; rw [← turn_s_mul_r a b, h, zero_mul]
  · intro h
    exact (mul_eq_zero.1 ((turn_s_mul_r a b).trans h)).resolve_right (turn_r_pos ha).ne'

end PlaneRotation

open PlaneRotation

/-! ### The chains of rotations -/

namespace Rotation

variable (q : Rotation ℝ) (alpha beta damp : ℝ)

/-- The rotation that folds the damping into the bidiagonal. -/
noncomputable def hat : PlaneRotation ℝ := turn q.alphabar damp

/-- The rotation that takes the damped bidiagonal to upper bidiagonal form. -/
noncomputable def fold : PlaneRotation ℝ := turn (q.hat damp).r beta

/-- The rotation that takes the transpose to upper bidiagonal form. -/
noncomputable def bar : PlaneRotation ℝ :=
  turn (q.cbar * (q.fold beta damp).r) ((q.fold beta damp).s * alpha)

/-- The state after one application of the rotations. -/
noncomputable def next : Rotation ℝ :=
  { alphabar := (q.fold beta damp).c * alpha
    rho := (q.fold beta damp).r
    rhobar := (q.bar alpha beta damp).r
    cbar := (q.bar alpha beta damp).c
    sbar := (q.bar alpha beta damp).s
    zeta := (q.bar alpha beta damp).c * q.zetabar
    zetabar := -(q.bar alpha beta damp).s * q.zetabar }

/-- What one application of the rotations produces on the way. -/
noncomputable def between : RotationStep ℝ :=
  { chat := (q.hat damp).c
    shat := (q.hat damp).s
    c := (q.fold beta damp).c
    s := (q.fold beta damp).s
    rhoold := q.rho
    rhobarold := q.rhobar
    thetanew := (q.fold beta damp).s * alpha
    thetabar := q.sbar * (q.fold beta damp).r
    rhotemp := q.cbar * (q.fold beta damp).r
    zetaold := q.zeta }

/-- **The rotations never fail.** -/
theorem advance_eq :
    q.advance alpha beta damp = .ok (q.next alpha beta damp, q.between alpha beta damp) := by
  simp only [advance, ofPair_eq, Arithmetic.use, bind, Except.bind]
  rfl

end Rotation

/-! ### The estimate of the residual -/

namespace ResidualEstimate

variable (e : ResidualEstimate ℝ) (t : RotationStep ℝ) (q : Rotation ℝ)

/-- The lagged rotation. -/
noncomputable def tilde : PlaneRotation ℝ := turn e.rhodold t.thetabar

/-- The state after one more iteration. -/
noncomputable def next : ResidualEstimate ℝ :=
  { betadd := -t.s * (t.chat * e.betadd)
    betad := -(e.tilde t).s * e.betad + (e.tilde t).c * (t.c * (t.chat * e.betadd))
    rhodold := (e.tilde t).c * q.rhobar
    tautildeold := (t.zetaold - e.thetatilde * e.tautildeold) / (e.tilde t).r
    thetatilde := (e.tilde t).s * q.rhobar
    d := e.d + (-t.shat * e.betadd) ^ 2 }

/-- The distance by which the two right-hand sides of the lagged chain differ in their last
entry. -/
noncomputable def gap : ℝ :=
  e.betad - (q.zeta - e.thetatilde * e.tautildeold) / e.rhodold

/-- The norm that a state stands for. -/
noncomputable def normr : ℝ := √(e.d + e.gap q ^ 2 + e.betadd ^ 2)

theorem advance_eq (hd : 0 ≤ e.d) (hr : (e.tilde t).r ≠ 0) (hr' : (e.next t q).rhodold ≠ 0) :
    e.advance t q = .ok (e.next t q, (e.next t q).normr q) := by
  have ht : turn e.rhodold t.thetabar = e.tilde t := rfl
  have h1 := exact_div (a := t.zetaold - e.thetatilde * e.tautildeold) hr
  have h2 := exact_div (a := q.zeta - (e.next t q).thetatilde * (e.next t q).tautildeold) hr'
  have h3 : Arithmetic.sqrt ((e.next t q).d + (e.next t q).gap q ^ 2 + (e.next t q).betadd ^ 2) =
      .ok ((e.next t q).normr q) :=
    exact_sqrt (by simp only [next]; positivity)
  simp only [next, gap] at h2 h3
  simp only [advance, ofPair_eq, ht, Arithmetic.square, bind, Except.bind, h1, h2, h3]
  rfl

end ResidualEstimate

/-! ### The estimates of the norm and the condition number -/

namespace NormEstimate

variable (e : NormEstimate ℝ) (alpha beta : ℝ) (t : RotationStep ℝ) (iteration : ℕ)

/-- The state after one more iteration. -/
noncomputable def next : NormEstimate ℝ :=
  { normA2 := e.normA2 + beta ^ 2 + alpha ^ 2
    maxrbar := max e.maxrbar t.rhobarold
    minrbar := if 1 < iteration then min e.minrbar t.rhobarold else e.minrbar }

/-- The divisor of the condition number. -/
noncomputable def least : ℝ := min (e.next alpha beta t iteration).minrbar t.rhotemp

/-- The estimate of the condition number, where its divisor is nonzero. -/
noncomputable def ratio : ℝ :=
  max (e.next alpha beta t iteration).maxrbar t.rhotemp / e.least alpha beta t iteration

theorem advance_eq (hA : 0 ≤ e.normA2) (hl : e.least alpha beta t iteration ≠ 0) :
    e.advance alpha beta t iteration =
      .ok (e.next alpha beta t iteration,
        ⟨√(e.normA2 + beta ^ 2), .finite (e.ratio alpha beta t iteration)⟩) := by
  have h1 : Arithmetic.sqrt (e.normA2 + beta ^ 2) = .ok √(e.normA2 + beta ^ 2) :=
    exact_sqrt (by positivity)
  have h2 := exact_div (a := max (max e.maxrbar t.rhobarold) t.rhotemp) hl
  have h3 : Arithmetic.eq (e.least alpha beta t iteration) 0 = false := by
    simp [Arithmetic.eq, hl]
  simp only [advance, advanceIf, exact_larger, exact_smaller, Arithmetic.square, bind, Except.bind]
  rw [h1]
  simp only [decide_eq_true_eq, Nat.one_lt_cast]
  unfold least next at h2 h3
  simp only at h2 h3
  rw [h2, h3]
  rfl

end NormEstimate

/-! ### The statistics -/

namespace StoppingTests

/-- The statistics of an iteration whose estimates are in range. -/
noncomputable def exact (normr normar norma conda normx normb atol btol : ℝ) : StoppingTests ℝ :=
  { test1 := normr / normb
    test2 := if 0 < normr ∧ 0 < norma then .finite (normar / (norma * normr)) else .infinite
    test3 := 1 / conda
    t1 := normr / normb / (1 + norma * normx / normb)
    rtol := btol + atol * norma * normx / normb }

theorem compute_eq {normr normar norma conda normx normb atol btol : ℝ} (hb : 0 < normb)
    (hA : 0 ≤ norma) (hc : conda ≠ 0) (hx : 0 ≤ normx) :
    compute normr normar norma (.finite conda) normx normb atol btol =
      .ok (exact normr normar norma conda normx normb atol btol) := by
  have h1 : (1 : ℝ) + norma * normx / normb ≠ 0 := by positivity
  have h2 (h : 0 < normr ∧ 0 < norma) : norma * normr ≠ 0 := (mul_pos h.2 h.1).ne'
  simp only [compute, exact, Extended.reciprocal, bind, Except.bind, exact_div hb.ne',
    exact_div hc, exact_div h1, Arithmetic.lt, Arithmetic.use, Bool.and_eq_true, decide_eq_true_eq]
  split_ifs with h
  · rw [exact_div (h2 h)]; rfl
  · rfl

end StoppingTests

end LeastSquares
