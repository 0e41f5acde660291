import Mathlib
import LeastSquares.Number

/-!
# Unpacked numbers

A number of a binary format is read as an infinity, a zero, or a positive integer times a power of
two, each with a sign, or as no number. The order looks at the sort of number, then at the exponent,
then at the integer, so it is that of three integers compared one after the other. That makes the
laws of an order out of the order of triples.

A sum, a product or a quotient of numbers that bear no minus sign bears none either, and neither
does the square of any number. All of this is the same in every format.

* `place`, `compare_eq_compare_place`: **numbers compare as their places do.**
* `lt_iff`, `le_iff`, `beq_iff`: the comparisons.
* `BearsSign`, `bearsSign_pack`: **a sign**, and written with it.
* `add_isUnsigned`, `mul_isUnsigned`, `div_isUnsigned`, `square_isUnsigned`: what bears none.
* `add_eq_notANumber`, `mul_eq_notANumber`, `div_eq_notANumber`: what is no number is passed on.
-/

namespace LeastSquares.Unpacked

open Float.Model.UnpackedFloat
open Float.Model (UnpackedFloat)

/-! ### The order -/

section Order

/-- **The place of a number in the order**: first the sort of number, then the exponent, then the
integer. -/
def place : UnpackedFloat → ℤ ×ₗ ℤ ×ₗ ℤ
  | .infinity .negative => toLex (-2, toLex (0, 0))
  | .finite .negative m e _ => toLex (-1, toLex (-e, -m))
  | .zero _ | .notANumber => toLex (0, toLex (0, 0))
  | .finite .positive m e _ => toLex (1, toLex (e, m))
  | .infinity .positive => toLex (2, toLex (0, 0))

theorem place_zero (s : UnpackedFloat.Sign) : place (.zero s) = toLex (0, toLex (0, 0)) := rfl

theorem compare_triple (a b c a' b' c' : ℤ) :
    compare (toLex (a, toLex (b, c))) (toLex (a', toLex (b', c'))) =
      (compare a a').then ((compare b b').then (compare c c')) := by
  simp only [Prod.Lex.compare_def, compareLex, compareOn, ofLex_toLex]

theorem compare_neg (a b : ℤ) : compare (-a) (-b) = (compare a b).swap := by
  rcases lt_trichotomy a b with h | rfl | h
  · rw [compare_lt_iff_lt.2 h, compare_gt_iff_gt.2 (neg_lt_neg h)]
    rfl
  · simp
  · rw [compare_gt_iff_gt.2 h, compare_lt_iff_lt.2 (neg_lt_neg h)]
    rfl

theorem compare_natCast (m n : ℕ) : compare (m : ℤ) (n : ℤ) = compare m n := by
  rcases lt_trichotomy m n with h | rfl | h
  · rw [compare_lt_iff_lt.2 h, compare_lt_iff_lt.2 (Int.ofNat_lt.2 h)]
  · simp
  · rw [compare_gt_iff_gt.2 h, compare_gt_iff_gt.2 (Int.ofNat_lt.2 h)]

/-- **Numbers compare as their places do.** -/
theorem compare_eq_compare_place {u v : UnpackedFloat} (hu : u ≠ .notANumber)
    (hv : v ≠ .notANumber) : u.compare v = some (compare (place u) (place v)) := by
  cases u with
  | notANumber => exact absurd rfl hu
  | infinity s => cases v with
    | notANumber => exact absurd rfl hv
    | infinity t => cases s <;> cases t <;> rfl
    | zero t => cases s <;> rfl
    | finite t n f _ => cases s <;> cases t <;> rfl
  | zero s => cases v with
    | notANumber => exact absurd rfl hv
    | infinity t => cases t <;> rfl
    | zero t => rfl
    | finite t n f _ => cases t <;> rfl
  | finite s m e _ => cases v with
    | notANumber => exact absurd rfl hv
    | infinity t => cases s <;> cases t <;> rfl
    | zero t => cases s <;> rfl
    | finite t n f _ => cases s with
      | negative => cases t with
        | negative =>
          simp [UnpackedFloat.compare, place, compare_triple, compare_neg, compare_natCast,
            Ordering.swap_then]
        | positive => rfl
      | positive => cases t with
        | negative => rfl
        | positive => simp [UnpackedFloat.compare, place, compare_triple, compare_natCast]

variable {u v : UnpackedFloat}

/-- What is no number compares with nothing. -/
theorem compare_eq_none (h : u = .notANumber ∨ v = .notANumber) : u.compare v = none := by
  rcases h with rfl | rfl
  · rfl
  · cases u <;> rfl

/-- A comparison that holds is one between numbers. -/
theorem numbers_of_compare {P : Option Ordering → Prop} (hP : ¬ P none) (h : P (u.compare v)) :
    u ≠ .notANumber ∧ v ≠ .notANumber := by
  by_contra hnan
  rw [compare_eq_none (by simpa [or_iff_not_imp_left] using hnan)] at h
  exact hP h

theorem lt_iff : u.lt v = true ↔ (u ≠ .notANumber ∧ v ≠ .notANumber) ∧ place u < place v := by
  rw [UnpackedFloat.lt, beq_iff_eq]
  constructor
  · intro h
    have hnum := numbers_of_compare (P := (· = some .lt)) (by simp) h
    rw [compare_eq_compare_place hnum.1 hnum.2] at h
    exact ⟨hnum, compare_lt_iff_lt.1 (Option.some.inj h)⟩
  · rintro ⟨⟨hu, hv⟩, h⟩
    rw [compare_eq_compare_place hu hv, compare_lt_iff_lt.2 h]

theorem le_iff : u.le v = true ↔ (u ≠ .notANumber ∧ v ≠ .notANumber) ∧ place u ≤ place v := by
  rw [UnpackedFloat.le]
  constructor
  · intro h
    have hnum := numbers_of_compare (P := fun c => c.any (·.isLE) = true) (by simp) h
    rw [compare_eq_compare_place hnum.1 hnum.2] at h
    exact ⟨hnum, Ordering.isLE_iff_ne_gt.1 h |> compare_le_iff_le.1⟩
  · rintro ⟨⟨hu, hv⟩, h⟩
    rw [compare_eq_compare_place hu hv]
    exact Ordering.isLE_iff_ne_gt.2 (compare_le_iff_le.2 h)

theorem beq_iff : u.beq v = true ↔ (u ≠ .notANumber ∧ v ≠ .notANumber) ∧ place u = place v := by
  rw [UnpackedFloat.beq, beq_iff_eq]
  constructor
  · intro h
    have hnum := numbers_of_compare (P := (· = some .eq)) (by simp) h
    rw [compare_eq_compare_place hnum.1 hnum.2] at h
    exact ⟨hnum, compare_eq_iff_eq.1 (Option.some.inj h)⟩
  · rintro ⟨⟨hu, hv⟩, h⟩
    rw [compare_eq_compare_place hu hv, compare_eq_iff_eq.2 h]

end Order

/-! ### What is no number -/

section

variable (f : Float.Model.Format) {u v : UnpackedFloat}

theorem add_eq_notANumber (h : u = .notANumber ∨ v = .notANumber) :
    UnpackedFloat.add f u v = .notANumber := by
  rcases h with rfl | rfl
  · rfl
  · cases u <;> rfl

theorem mul_eq_notANumber (h : u = .notANumber ∨ v = .notANumber) :
    UnpackedFloat.mul f u v = .notANumber := by
  rcases h with rfl | rfl
  · rfl
  · cases u <;> rfl

theorem div_eq_notANumber (h : u = .notANumber ∨ v = .notANumber) :
    UnpackedFloat.div f u v = .notANumber := by
  rcases h with rfl | rfl
  · rfl
  · cases u <;> rfl

end

/-! ### Signs -/

section Signs

/-- A number that bears a sign, or no number. -/
def BearsSign (s : UnpackedFloat.Sign) : UnpackedFloat → Prop
  | .notANumber => True
  | .infinity t | .zero t | .finite t _ _ _ => t = s

/-- Not negative, or no number. -/
abbrev IsUnsigned : UnpackedFloat → Prop := BearsSign .positive

variable {f : Float.Model.Format} {s : UnpackedFloat.Sign} {u v : UnpackedFloat}

theorem unpack_bearsSign {b : BitVec f.numBits} (h : unpackSign b = s.toBitVec) :
    BearsSign s (unpack f b) := by
  have hs : Sign.ofBitVec (unpackSign b) = s := by rw [h, Sign.ofBitVec_toBitVec]
  unfold unpack
  dsimp only
  split_ifs <;> trivial

theorem unpackSign_pack (h : BearsSign s u) (hu : u ≠ .notANumber) :
    unpackSign (pack f u) = s.toBitVec := by
  cases u with
  | notANumber => exact absurd rfl hu
  | infinity t | zero t =>
    obtain rfl : t = s := h
    exact unpackSign_packComponents _ _ _
  | finite t m e _ =>
    obtain rfl : t = s := h
    unfold pack
    dsimp only
    split_ifs <;> exact unpackSign_packComponents _ _ _

/-- **What is written with a sign** is read with it. -/
theorem bearsSign_pack (h : BearsSign s u) : BearsSign s (unpack f (pack f u)) := by
  by_cases hu : u = .notANumber
  · subst hu
    have hnan : unpack f (pack f .notANumber) = .notANumber := unpack_packedNaN
    rw [hnan]
    trivial
  · exact unpack_bearsSign (unpackSign_pack h hu)

variable (f)

theorem roundWithAccuracy_bearsSign (s : UnpackedFloat.Sign) (m : ℕ) (e : ℤ) (a : Accuracy) :
    BearsSign s (roundWithAccuracy f s m e a) := by
  unfold roundWithAccuracy
  dsimp only
  split_ifs <;> rfl

theorem round_bearsSign (s : UnpackedFloat.Sign) (m : ℕ) (e : ℤ) :
    BearsSign s (UnpackedFloat.round f s m e) :=
  roundWithAccuracy_bearsSign f s _ _ _

theorem normalize_isUnsigned {m : ℤ} (hm : 0 ≤ m) (e : ℤ) :
    IsUnsigned (UnpackedFloat.normalize f m e .positive) := by
  unfold UnpackedFloat.normalize
  split
  · next h => exact absurd (compare_lt_iff_lt.1 h) (not_lt.2 hm)
  · rfl
  · exact round_bearsSign f _ _ _

theorem add_isUnsigned (hu : IsUnsigned u) (hv : IsUnsigned v) :
    IsUnsigned (UnpackedFloat.add f u v) := by
  cases u with
  | notANumber => trivial
  | infinity s | zero s | finite s m e _ =>
    obtain rfl : s = .positive := hu
    cases v with
    | notANumber => trivial
    | infinity t | zero t | finite t n f _ =>
      obtain rfl : t = .positive := hv
      have hsum (m n : ℕ) : 0 ≤ (m + n : ℤ) := Int.add_nonneg m.cast_nonneg n.cast_nonneg
      first | trivial | exact normalize_isUnsigned _ (hsum _ _) _

theorem mul_isUnsigned (hu : IsUnsigned u) (hv : IsUnsigned v) :
    IsUnsigned (UnpackedFloat.mul f u v) := by
  cases u with
  | notANumber => trivial
  | infinity s | zero s | finite s m e _ =>
    obtain rfl : s = .positive := hu
    cases v with
    | notANumber => trivial
    | infinity t | zero t | finite t n f _ =>
      obtain rfl : t = .positive := hv
      first | trivial | exact roundWithAccuracy_bearsSign _ _ _ _ _

theorem div_isUnsigned (hu : IsUnsigned u) (hv : IsUnsigned v) :
    IsUnsigned (UnpackedFloat.div f u v) := by
  cases u with
  | notANumber => trivial
  | infinity s | zero s | finite s m e _ =>
    obtain rfl : s = .positive := hu
    cases v with
    | notANumber => trivial
    | infinity t | zero t | finite t n f _ =>
      obtain rfl : t = .positive := hv
      first | trivial | exact roundWithAccuracy_bearsSign _ _ _ _ _

theorem square_isUnsigned (u : UnpackedFloat) : IsUnsigned (UnpackedFloat.mul f u u) := by
  cases u with
  | notANumber => trivial
  | infinity s | zero s => cases s <;> rfl
  | finite s m e _ => cases s <;> exact roundWithAccuracy_bearsSign _ _ _ _ _

variable {f}

theorem zero_le_place (h : IsUnsigned u) : toLex (0, toLex (0, 0)) ≤ place u := by
  cases u with
  | notANumber | zero s => exact le_rfl
  | infinity s =>
    obtain rfl : s = .positive := h
    decide
  | finite s m e hm =>
    obtain rfl : s = .positive := h
    simp [place, Prod.Lex.toLex_le_toLex]

theorem place_le_zero (h : BearsSign .negative u) : place u ≤ toLex (0, toLex (0, 0)) := by
  cases u with
  | notANumber | zero s => exact le_rfl
  | infinity s =>
    obtain rfl : s = .negative := h
    decide
  | finite s m e hm =>
    obtain rfl : s = .negative := h
    simp [place, Prod.Lex.toLex_le_toLex]

/-- What comes no later than zero is negative, or a zero. -/
theorem bearsSign_of_place_le (h : place u ≤ toLex (0, toLex (0, 0))) :
    BearsSign .negative u ∨ ∃ s, u = .zero s := by
  cases u with
  | notANumber => exact .inl trivial
  | zero s => exact .inr ⟨s, rfl⟩
  | infinity s =>
    cases s with
    | negative => exact .inl rfl
    | positive => exact absurd h (by decide)
  | finite s m e hm =>
    cases s with
    | negative => exact .inl rfl
    | positive => simp [place, Prod.Lex.toLex_le_toLex] at h

end Signs

end LeastSquares.Unpacked
