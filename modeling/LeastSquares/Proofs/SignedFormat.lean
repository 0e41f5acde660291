import LeastSquares.Proofs.Numbers
import LeastSquares.Scalar

/-!
# Numbers with a sign

What the recurrences of a solve rely on in a format so as never to fail: which operations give no
minus sign, how numbers compare with zero and with each other, and which results do not vanish. That
is little, and nothing of it is about the size of an error.

Two of the laws are about results that do not vanish, and doubles have a least positive number, so
these need an argument. The length of a pair is the root of an integer of 119 bits or more, times a
power of two that is at most sixty places below the least exponent: the sixty bits of the root reach
up to it. A quotient of a number from one on by one up to `10 ^ 100` has an exponent far above the
least one.

* `SignedFormat`: **a format with signs.**
* `round_bounds`, `round_pos`: the rounding to a format fills its places, and does not vanish.
* `eq_zero_of_hypot`: **the length of a pair is zero only for two zeros.**
* `div_ne_zero_of_le`: **a quotient that does not vanish.**
* `FloatingPoint.IsDouble`: the numbers that are doubles.
* `Reading.IsUnsigned`, `Number.read_isUnsigned`: signs of exact numbers.
* The instance `SignedFormat Number`: the laws hold of numbers of any precision.
-/

namespace LeastSquares

/-- Doubles are the numbers that rounding to double precision does not change. -/
def FloatingPoint.IsDouble {F : Type} [FloatingPoint F] (a : F) : Prop :=
  FloatingPoint.round .double a = a

open FloatingPoint (IsDouble)

/-- **A format with signs**, as far as the recurrences rely on it. What is not negative may be no
number. Of the order only that of doubles is used. -/
class SignedFormat (F : Type) [FloatingPoint F] where
  /-- Not negative, or no number. -/
  IsNonneg : F → Prop
  ofNat (n : ℕ) : IsNonneg (FloatingPoint.ofNat n)
  add {a b : F} : IsNonneg a → IsNonneg b → IsNonneg (FloatingPoint.add a b)
  mul {a b : F} : IsNonneg a → IsNonneg b → IsNonneg (FloatingPoint.mul a b)
  div {a b : F} : IsNonneg a → IsNonneg b → IsNonneg (FloatingPoint.div a b)
  mul_self (a : F) : IsNonneg (FloatingPoint.mul a a)
  hypot (a b : F) : IsNonneg (FloatingPoint.hypot a b)
  round (p : Precision) {a : F} : IsNonneg a → IsNonneg (FloatingPoint.round p a)
  not_lt_zero {a : F} : IsNonneg a → FloatingPoint.lt a (FloatingPoint.ofNat 0) = false
  ne_zero_of_pos {a : F} : FloatingPoint.lt (FloatingPoint.ofNat 0) a = true →
    FloatingPoint.eq a (FloatingPoint.ofNat 0) = false
  isDouble_ofNat (n : ℕ) : IsDouble (FloatingPoint.ofNat n : F)
  isDouble_hypot (a b : F) : IsDouble (FloatingPoint.hypot a b)
  isDouble_round (a : F) : IsDouble (FloatingPoint.round .double a)
  lt_of_eq_zero {a b c : F} : IsDouble a → IsDouble b → IsDouble c →
    FloatingPoint.eq a (FloatingPoint.ofNat 0) = true → IsNonneg b →
    FloatingPoint.le b c = true → FloatingPoint.eq b (FloatingPoint.ofNat 0) = false →
    FloatingPoint.lt a b = true
  le_of_le_of_lt {a b c : F} : IsDouble a → IsDouble b → IsDouble c →
    FloatingPoint.le a b = true → FloatingPoint.lt b c = true → FloatingPoint.le a c = true
  le_of_lt_of_le {a b c : F} : IsDouble a → IsDouble b → IsDouble c →
    FloatingPoint.lt a b = true → FloatingPoint.le b c = true → FloatingPoint.le a c = true
  /-- The length of a pair is zero only for two zeros. -/
  eq_zero_of_hypot {a b : F} : IsDouble a → IsDouble b →
    FloatingPoint.eq (FloatingPoint.hypot a b) (FloatingPoint.ofNat 0) = true →
    FloatingPoint.eq a (FloatingPoint.ofNat 0) = true ∧
      FloatingPoint.eq b (FloatingPoint.ofNat 0) = true
  /-- A quotient of a number from one on by one up to `10 ^ 100` does not vanish. -/
  div_ne_zero {a b : F} : IsDouble a → IsDouble b →
    FloatingPoint.le (FloatingPoint.ofNat 1) a = true → IsNonneg b →
    FloatingPoint.eq b (FloatingPoint.ofNat 0) = false →
    FloatingPoint.le b (FloatingPoint.ofNat (Nat.pow 10 100)) = true →
    FloatingPoint.eq (FloatingPoint.round .double (FloatingPoint.div a b))
      (FloatingPoint.ofNat 0) = false
  zero_lt_one : FloatingPoint.lt (FloatingPoint.ofNat 0 : F) (FloatingPoint.ofNat 1) = true
  one_le_one : FloatingPoint.le (FloatingPoint.ofNat 1 : F) (FloatingPoint.ofNat 1) = true
  one_mul_one : FloatingPoint.mul (FloatingPoint.ofNat 1 : F) (FloatingPoint.ofNat 1) =
    FloatingPoint.ofNat 1
  one_add_zero : FloatingPoint.add (FloatingPoint.ofNat 1 : F) (FloatingPoint.ofNat 0) =
    FloatingPoint.ofNat 1
  huge_le_huge : FloatingPoint.le (FloatingPoint.ofNat (Nat.pow 10 100) : F)
    (FloatingPoint.ofNat (Nat.pow 10 100)) = true

namespace Binary64

open Float.Model.UnpackedFloat
open Float.Model (UnpackedFloat)
open Unpacked (place place_zero IsUnsigned)

/-! ### Rounded numbers -/

section Rounding

theorem div_le_roundDiv (num den : ℕ) : num / den ≤ roundDiv num den := by
  unfold roundDiv
  dsimp only
  split_ifs <;> omega

theorem roundDiv_le (num den : ℕ) : roundDiv num den ≤ num / den + 1 := by
  unfold roundDiv
  dsimp only
  split_ifs <;> omega

/-- The number of places that a rounding takes away. -/
def places (f : Format) (m : ℕ) (e : ℤ) : ℤ :=
  max ((m.log2 : ℤ) + 1 - f.precision) (f.bottom - e)

theorem round_eq {f : Format} {m : ℕ} (hm : m ≠ 0) (e : ℤ) :
    f.round m e = (if places f m e ≤ 0 then m * 2 ^ (-places f m e).toNat
      else roundDiv m (2 ^ (places f m e).toNat), e + places f m e) := by
  unfold Format.round
  rw [if_neg hm]
  by_cases h : places f m e ≤ 0
  · rw [if_pos h]
    exact if_pos h
  · rw [if_neg h]
    exact if_neg h

/-- **A rounded number fills the places of its format**, or is at the bottom of it. -/
theorem round_bounds {f : Format} (hf : 1 ≤ f.precision) {m : ℕ} (hm : m ≠ 0) (e : ℤ) :
    f.bottom ≤ (f.round m e).2 ∧ (f.round m e).1 ≤ 2 ^ f.precision ∧
      ((f.round m e).2 = f.bottom ∨ 2 ^ (f.precision - 1) ≤ (f.round m e).1) := by
  have hlow : 2 ^ m.log2 ≤ m := Nat.log2_self_le hm
  have hhigh : m < 2 ^ (m.log2 + 1) := Nat.lt_log2_self
  have hbottom : f.bottom - e ≤ places f m e := le_max_right _ _
  have hprecision : (m.log2 : ℤ) + 1 - f.precision ≤ places f m e := le_max_left _ _
  have hcases : places f m e = _ ∨ places f m e = _ := max_choice _ _
  rw [round_eq hm]
  generalize places f m e = s at *
  dsimp only
  refine ⟨by omega, ?_, ?_⟩
  · split_ifs with hs
    · calc m * 2 ^ (-s).toNat ≤ 2 ^ (m.log2 + 1) * 2 ^ (-s).toNat := by gcongr
        _ = 2 ^ (m.log2 + 1 + (-s).toNat) := (pow_add _ _ _).symm
        _ ≤ 2 ^ f.precision := Nat.pow_le_pow_right two_pos (by omega)
    · have hlt : m / 2 ^ s.toNat < 2 ^ f.precision := by
        rw [Nat.div_lt_iff_lt_mul (by positivity), ← pow_add]
        exact hhigh.trans_le (Nat.pow_le_pow_right two_pos (by omega))
      exact (roundDiv_le _ _).trans hlt
  · refine hcases.symm.imp (fun h => by omega) fun h => ?_
    split_ifs with hs
    · calc 2 ^ (f.precision - 1) = 2 ^ m.log2 * 2 ^ (-s).toNat := by
            rw [← pow_add]; congr 1; omega
        _ ≤ m * 2 ^ (-s).toNat := by gcongr
    · refine le_trans ?_ (div_le_roundDiv _ _)
      rw [Nat.le_div_iff_mul_le (by positivity), ← pow_add]
      exact (Nat.pow_le_pow_right two_pos (by omega)).trans hlow

/-- **A rounded number vanishes** only below the bottom of its format. -/
theorem round_pos {f : Format} (hf : 1 ≤ f.precision) {m : ℕ} (hm : m ≠ 0) {e : ℤ}
    (he : f.bottom - e ≤ m.log2) : 0 < (f.round m e).1 := by
  have hlow : 2 ^ m.log2 ≤ m := Nat.log2_self_le hm
  rw [round_eq hm]
  dsimp only
  split_ifs with hs
  · positivity
  · refine lt_of_lt_of_le ?_ (div_le_roundDiv _ _)
    have hle : (places f m e).toNat ≤ m.log2 := by
      unfold places
      omega
    exact Nat.div_pos ((Nat.pow_le_pow_right two_pos hle).trans hlow) (by positivity)

end Rounding

/-! ### What is written -/

section Writing

/-- A rounded number that is not out of range has its leading bit in place, or no exponent. -/
theorem bits_le_of_not_past {m : ℕ} {e : ℤ}
    (h : ¬ Format.double.isPast (Format.double.round m e) = true) :
    ((Format.double.round m e).2 + 1074).toNat * Nat.pow 2 52 + (Format.double.round m e).1 ≤
      2047 * 2 ^ 52 := by
  by_cases hm : m = 0
  · subst hm
    have hzero : Format.double.round 0 e = (0, -1074) := rfl
    rw [hzero]
    decide
  obtain ⟨hbottom, htop, hcases⟩ := round_bounds (f := .double) (by decide) hm e
  generalize Format.double.round m e = r at *
  have hlog : r.1 ≠ 0 → (r.1.log2 : ℤ) + r.2 < 1024 := by
    intro hr
    rw [Format.isPast, Bool.and_eq_true, not_and, decide_eq_true_eq] at h
    exact not_le.1 (h (bne_iff_ne.2 hr))
  change -1074 ≤ r.2 at hbottom
  change r.1 ≤ 2 ^ 53 at htop
  change r.2 = -1074 ∨ 2 ^ 52 ≤ r.1 at hcases
  change (r.2 + 1074).toNat * 2 ^ 52 + r.1 ≤ 2047 * 2 ^ 52
  -- At the bottom there is no exponent; above it, the leading bit carries one into the exponent.
  rcases hcases with hr | hr
  · omega
  · have hle : 52 ≤ r.1.log2 := (Nat.le_log2 (by omega)).2 hr
    have hlt := hlog (by omega)
    omega

/-- **What is written without a sign** is a number that is not negative, and is not zero unless it
was rounded to zero. -/
theorem write_bits (m : ℕ) (e : ℤ) : (write false m e).toBits.toNat ≤ 2047 * 2 ^ 52 ∧
    (0 < (Format.double.round m e).1 → 0 < (write false m e).toBits.toNat) := by
  unfold write signed
  rw [if_neg Bool.false_ne_true]
  split_ifs with hpast
  · exact ⟨by decide, fun _ => by decide⟩
  · have hk := bits_le_of_not_past hpast
    rw [toBits_ofBits hk]
    exact ⟨hk, fun h => by omega⟩

theorem isNonneg_write (m : ℕ) (e : ℤ) : IsNonneg (write false m e) :=
  isNonneg_iff.2 ((write_bits m e).1.trans_lt (by decide))

theorem write_ne_zero {m : ℕ} (hm : m ≠ 0) {e : ℤ} (he : -1074 - e ≤ m.log2) :
    (write false m e == Float.ofNat 0) = false := by
  have hpos := (write_bits m e).2 (round_pos (by decide) hm he)
  have hlt := (write_bits m e).1
  rw [← Bool.not_eq_true, beq_zero_iff]
  omega

end Writing

/-! ### The length of a pair -/

section Lengths

/-- **The root is as large as any number whose square it may not exceed.** -/
theorem le_rootFrom {n x : ℕ} (hx : x * x ≤ n) (bits r : ℕ) (h : x < r + 2 ^ bits) :
    x ≤ rootFrom n bits r := by
  induction bits generalizing r with
  | zero => exact Nat.lt_succ_iff.1 h
  | succ bits ih =>
    unfold rootFrom
    dsimp only
    have htwice : 2 ^ (bits + 1) = 2 ^ bits + 2 ^ bits := Nat.two_pow_succ bits
    split_ifs with hle
    · refine ih _ ?_
      change x < r + 2 ^ bits + 2 ^ bits
      omega
    -- The bit is left out because the number with it is too large, and `x` is not.
    · refine ih _ ?_
      by_contra hge
      have hsq : (r + 2 ^ bits) * (r + 2 ^ bits) ≤ x * x :=
        Nat.mul_le_mul (not_lt.1 hge) (not_lt.1 hge)
      exact hle (hsq.trans hx)

/-- An integer that is brought to a number of bits, by powers of four. -/
theorem two_pow_le_scaled {n k : ℕ} (hn : n ≠ 0) {cut : ℤ} (h : 2 * cut ≤ (n.log2 : ℤ) - k) :
    2 ^ k ≤ n * Nat.pow 4 (-cut).toNat / Nat.pow 4 cut.toNat := by
  have hfour (j : ℕ) : Nat.pow 4 j = 2 ^ (2 * j) := (pow_mul 2 2 j).symm
  rw [hfour, hfour, Nat.le_div_iff_mul_le (by positivity)]
  calc 2 ^ k * 2 ^ (2 * cut.toNat) = 2 ^ (k + 2 * cut.toNat) := (pow_add _ _ _).symm
    _ ≤ 2 ^ (n.log2 + 2 * (-cut).toNat) := Nat.pow_le_pow_right two_pos (by omega)
    _ = 2 ^ n.log2 * 2 ^ (2 * (-cut).toNat) := pow_add _ _ _
    _ ≤ n * 2 ^ (2 * (-cut).toNat) := Nat.mul_le_mul_right _ (Nat.log2_self_le hn)

/-- **The root of what is not zero** does not vanish. -/
theorem rootOf_ne_zero {n : ℕ} (hn : n ≠ 0) {e : ℤ} (he : -1074 ≤ e) :
    (rootOf n e == Float.ofNat 0) = false := by
  unfold rootOf
  extract_lets cut m r whole
  have hcut : 2 * cut ≤ (n.log2 : ℤ) - 118 := by omega
  have hm : 2 ^ 59 * 2 ^ 59 ≤ m := two_pow_le_scaled (k := 118) hn hcut
  have hr : 2 ^ 59 ≤ r := le_rootFrom hm 60 0 (by norm_num)
  have hne : 2 * r + (if whole then 0 else 1) ≠ 0 := by omega
  have hlog : 60 ≤ (2 * r + if whole then 0 else 1).log2 := (Nat.le_log2 hne).2 (by omega)
  -- The exponent is at least `-1134`, sixty places below the least one, and there are sixty places.
  refine write_ne_zero hne ?_
  omega

variable {x y : Float}

theorem read_finite {s : Bool} {m : ℕ} {e : ℤ} (h : read x = .finite s m e) :
    -1074 ≤ e ∧ s = decide (2 ^ 63 ≤ x.toBits.toNat) ∧
      (m = 0 → (x == Float.ofNat 0) = true) := by
  have hlt : x.toBits.toNat < 2 ^ 64 := UInt64.toNat_lt _
  unfold read at h
  dsimp only at h
  split_ifs at h with hexp hfrac hexp' <;> injection h with hs hm he
  · refine ⟨by omega, hs.symm, fun h0 => beq_zero_iff.2 ?_⟩
    subst hm
    change x.toBits.toNat / 2 ^ 52 % 2 ^ 11 = 0 at hexp'
    change x.toBits.toNat % 2 ^ 52 = 0 at h0
    omega
  · refine ⟨by omega, hs.symm, fun h0 => ?_⟩
    subst hm
    have hpow : 0 < Nat.pow 2 52 := by decide
    omega

theorem isNonneg_nan : IsNonneg nan := isNonneg_iff.2 (by decide)

theorem isNonneg_infinity : IsNonneg infinity := isNonneg_iff.2 (by decide)

theorem isNonneg_hypot (x y : Float) : IsNonneg (hypot x y) := by
  unfold hypot
  split
  · exact isNonneg_infinity
  · exact isNonneg_infinity
  · exact isNonneg_nan
  · exact isNonneg_nan
  · exact isNonneg_write _ _

/-- **The length of a pair is zero only for two zeros.** -/
theorem eq_zero_of_hypot (h : (hypot x y == Float.ofNat 0) = true) :
    (x == Float.ofNat 0) = true ∧ (y == Float.ofNat 0) = true := by
  unfold hypot at h
  split at h
  · exact absurd h (by decide)
  · exact absurd h (by decide)
  · exact absurd h (by decide)
  · exact absurd h (by decide)
  · next s m e t n f hx hy =>
    obtain ⟨he, -, hm⟩ := read_finite hx
    obtain ⟨hf, -, hn⟩ := read_finite hy
    by_contra hne
    refine absurd h (ne_true_of_eq_false (rootOf_ne_zero (fun hsum => hne ?_) (by omega)))
    obtain ⟨hmm, hnn⟩ := Nat.add_eq_zero_iff.1 hsum
    have hfour (j : ℕ) : Nat.pow 4 j ≠ 0 := pow_ne_zero j (by decide)
    exact ⟨hm (by simpa [hfour] using hmm), hn (by simpa [hfour] using hnn)⟩

end Lengths

/-! ### Quotients -/

section Quotients

/-- **A number of the places of doubles** is not written as zero. -/
theorem pack_ne_zero {m : ℕ} {e : ℤ} (h : 0 < m) (hm : m < 2 ^ 53) (he : -1074 ≤ e) :
    (Float.ofModel (.pack (.finite .positive m e h)) == Float.ofNat 0) = false := by
  have hunpack : (Float.ofModel (.pack (.finite .positive m e h))).toModel.unpack =
      unpack .binary64 (pack .binary64 (.finite .positive m e h)) := rfl
  rw [← Bool.not_eq_true, beq_iff, placeOf, hunpack]
  rintro ⟨-, hzero⟩
  rcases Unpacked.unpack_pack_finite (f := .binary64) .positive h hm he with hw | ⟨n, g, hn, hw⟩
  · rw [hw] at hzero
    exact absurd hzero (by decide)
  · rw [hw] at hzero
    exact absurd (congrArg (fun p => (ofLex p).1) hzero) one_ne_zero

/-- **A quotient is taken to enough places**, if the dividend is not small and the divisor is not
large. -/
theorem divCore_bounds {m n : ℕ} (hm : 0 < m) (hn : 0 < n) (hlt : n < 2 ^ 53) {e f : ℤ}
    (he : -52 ≤ e) (hf : f ≤ 280) :
    (divCore .binary64 m e n f).1 ≠ 0 ∧
      -1074 ≤ (divCore .binary64 m e n f).2.1 + (divCore .binary64 m e n f).1.log2 := by
  have hlog : n.log2 < 53 := (Nat.log2_lt hn.ne').2 hlt
  have htarget : Float.Model.Format.binary64.targetExponent
      (Float.Model.totalExponent m e - Float.Model.totalExponent n f) =
      max (m.log2 + 1 + e - (n.log2 + 1 + f) - 53) (-1074) := rfl
  unfold divCore
  dsimp only
  rw [htarget, Nat.shiftLeft_eq]
  -- The exponent of the quotient is `-437` at least.
  generalize ht : min (e - f) (max ((m.log2 : ℤ) + 1 + e - (n.log2 + 1 + f) - 53) (-1074)) = t
  have hshift : n.log2 + 1 ≤ m.log2 + (e - f - t).toNat := by omega
  have hle : n ≤ m * 2 ^ (e - f - t).toNat := by
    calc n ≤ 2 ^ (n.log2 + 1) := Nat.lt_log2_self.le
      _ ≤ 2 ^ (m.log2 + (e - f - t).toNat) := Nat.pow_le_pow_right two_pos hshift
      _ = 2 ^ m.log2 * 2 ^ (e - f - t).toNat := pow_add _ _ _
      _ ≤ m * 2 ^ (e - f - t).toNat := Nat.mul_le_mul_right _ (Nat.log2_self_le hm.ne')
  exact ⟨(Nat.div_pos hle hn).ne', by omega⟩

variable {x y : Float}

/-- Numbers from one on. -/
theorem one_le_cases (h : Float.ofNat 1 ≤ x) : x.toModel.unpack = .infinity .positive ∨
    ∃ m e, ∃ hm : 0 < m, x.toModel.unpack = .finite .positive m e hm ∧ -52 ≤ e := by
  have hone : placeOf (Float.ofNat 1) = toLex (1, toLex (-52, 2 ^ 52)) := by decide +kernel
  obtain ⟨-, hle⟩ := le_iff.1 h
  rw [hone, placeOf] at hle
  cases hx : x.toModel.unpack with
  | infinity s =>
    rw [hx] at hle
    cases s with
    | negative => exact absurd hle (by decide)
    | positive => exact .inl rfl
  | notANumber =>
    rw [hx] at hle
    exact absurd hle (by decide)
  | zero s =>
    rw [hx, place_zero] at hle
    exact absurd hle (by decide)
  | finite s m e hm =>
    rw [hx] at hle
    cases s with
    | negative => simp [place, Prod.Lex.toLex_le_toLex] at hle
    | positive =>
      refine .inr ⟨m, e, hm, rfl, ?_⟩
      simp only [place, Prod.Lex.toLex_le_toLex, lt_self_iff_false, true_and, false_or] at hle
      omega

/-- Numbers up to `10 ^ 100`, other than zero. -/
theorem le_huge_cases (h : y ≤ Float.ofNat (Nat.pow 10 100)) (hy : IsNonneg y)
    (hzero : (y == Float.ofNat 0) = false) :
    ∃ m e, ∃ hm : 0 < m, y.toModel.unpack = .finite .positive m e hm ∧ e ≤ 280 ∧ m < 2 ^ 53 := by
  have hhuge : placeOf (Float.ofNat (Nat.pow 10 100)) =
      toLex (1, toLex (280, 5147557589468029)) := by decide +kernel
  obtain ⟨⟨hnan, -⟩, hle⟩ := le_iff.1 h
  have hne := unpack_ne_notANumber hnan
  rw [hhuge, placeOf] at hle
  unfold IsNonneg at hy
  cases hu : y.toModel.unpack with
  | notANumber => exact absurd hu hne
  | infinity s =>
    rw [hu] at hy hle
    obtain rfl : s = .positive := hy
    exact absurd hle (by decide)
  | zero s =>
    refine absurd (beq_iff.2 ⟨⟨hnan, rfl⟩, ?_⟩) (ne_true_of_eq_false hzero)
    rw [placeOf, hu]
    rfl
  | finite s m e hm =>
    have hlt := (Unpacked.bounds_of_unpack hu).1
    rw [hu] at hy hle
    obtain rfl : s = .positive := hy
    refine ⟨m, e, hm, rfl, ?_, hlt⟩
    simp only [place, Prod.Lex.toLex_le_toLex, lt_self_iff_false, true_and, false_or] at hle
    omega

/-- **A quotient of a number from one on by one up to `10 ^ 100`** does not vanish. -/
theorem div_ne_zero_of_le (hx : Float.ofNat 1 ≤ x) (hy : IsNonneg y)
    (hzero : (y == Float.ofNat 0) = false) (hle : y ≤ Float.ofNat (Nat.pow 10 100)) :
    (x / y == Float.ofNat 0) = false := by
  have hdiv : x / y = .ofModel (.pack (.div .binary64 x.toModel.unpack y.toModel.unpack)) := rfl
  obtain ⟨n, f, hn, hv, hf, hlt⟩ := le_huge_cases hle hy hzero
  rw [hdiv, hv]
  obtain hu | ⟨m, e, hm, hu, he⟩ := one_le_cases hx
  · have hquot : UnpackedFloat.div .binary64 (.infinity .positive) (.finite .positive n f hn) =
        .infinity .positive := rfl
    rw [hu, hquot]
    decide
  · obtain ⟨hq, hexp⟩ := divCore_bounds hm hn hlt he hf
    obtain ⟨k, g, hk, hround, hklt, hg⟩ := Unpacked.roundWithAccuracy_eq_finite .binary64 .positive hq hexp
      (divCore .binary64 m e n f).2.2
    rw [hu]
    have hquot : UnpackedFloat.div .binary64 (.finite .positive m e hm) (.finite .positive n f hn) =
        .finite .positive k g hk := hround
    rw [hquot]
    exact pack_ne_zero hk hklt hg

end Quotients

/-! ### The format of doubles -/

theorem ofScientific_isUnsigned (n : ℕ) (e : ℤ) :
    IsUnsigned (UnpackedFloat.ofScientific .binary64 n e) := by
  unfold UnpackedFloat.ofScientific
  split
  · rfl
  split
  · rfl
  split
  · rfl
  split
  · exact Unpacked.mul_isUnsigned _ rfl rfl
  · exact Unpacked.div_isUnsigned _ rfl rfl

theorem isNonneg_ofNat (n : ℕ) : IsNonneg (Float.ofNat n) := by
  have hofNat : Float.ofNat n = Float.ofScientific n false 0 := rfl
  rw [hofNat, Float.ofScientific]
  split
  · have hnat : IsNonneg n.toUInt64.toFloat :=
      Unpacked.bearsSign_pack (Unpacked.normalize_isUnsigned _ (Int.natCast_nonneg _) _)
    have hone : IsNonneg (Float.exactlyRepresentablePowersOfTen[0]) := isNonneg_iff.2 (by decide)
    exact Unpacked.bearsSign_pack (Unpacked.mul_isUnsigned _ hnat hone)
  · exact Unpacked.bearsSign_pack (ofScientific_isUnsigned n 0)

end Binary64

/-! ### Numbers of any precision -/

/-- An exact number without a minus sign, or no number. -/
def Reading.IsUnsigned : Reading → Prop
  | .nan => True
  | .infinite negative | .finite negative _ _ => negative = false

/-- **Rounding to a narrower format** gives no sign. -/
theorem Binary64.isNonneg_narrow (f : Format) {r : Reading} (h : r.IsUnsigned) :
    IsNonneg (narrow f r) := by
  cases r with
  | nan => exact isNonneg_nan
  | infinite negative =>
    obtain rfl : negative = false := h
    exact isNonneg_infinity
  | finite negative m e =>
    obtain rfl : negative = false := h
    unfold narrow
    dsimp only
    split_ifs
    · exact isNonneg_infinity
    · exact isNonneg_write _ _

namespace Number

open Unpacked (IsUnsigned)
open FloatingPoint (IsDouble)

variable {a : Number}

/-- The exact number bears the sign of the number. -/
theorem read_isUnsigned (h : IsUnsigned a.unpack) : a.read.IsUnsigned := by
  cases a with
  | double x =>
    have hsign : decide (Nat.pow 2 63 ≤ x.toBits.toNat) = false :=
      decide_eq_false (not_le.2 (Binary64.isNonneg_iff.1 h))
    change (Binary64.read x).IsUnsigned
    unfold Binary64.read
    dsimp only
    rw [hsign]
    split_ifs <;> trivial
  | extended x =>
    change x.read.IsUnsigned
    change IsUnsigned x.unpack at h
    unfold Wide.read
    cases hx : x.unpack with
    | notANumber => trivial
    | infinity s | zero s | finite s m e _ =>
      rw [hx] at h
      obtain rfl : s = .positive := h
      rfl

theorem toDouble_isUnsigned (h : IsUnsigned a.unpack) : Binary64.IsNonneg a.toDouble := by
  cases a with
  | double x => exact h
  | extended x => exact Binary64.isNonneg_narrow .double (read_isUnsigned h)

theorem round_isUnsigned (p : Precision) (h : IsUnsigned a.unpack) :
    IsUnsigned (p.round a).unpack := by
  cases p with
  | half | single => exact Binary64.isNonneg_narrow _ (read_isUnsigned h)
  | double => exact toDouble_isUnsigned h
  | extended => exact toWide_kept (.bearsSign .positive) h

theorem square_isUnsigned (a : Number) : IsUnsigned (a * a).unpack := by
  cases a <;> exact Unpacked.bearsSign_pack (Unpacked.square_isUnsigned _ _)

theorem not_lt_zero (h : IsUnsigned a.unpack) : a.lt (.double (Float.ofNat 0)) = false := by
  have hzero : (double (Float.ofNat 0)).beside a = .zero .positive := zero_beside rfl
  rw [← Bool.not_eq_true, lt_eq, Unpacked.lt_iff, hzero]
  rintro ⟨-, hlt⟩
  exact hlt.not_ge (Unpacked.zero_le_place (beside_kept (.bearsSign .positive) h))

theorem ne_zero_of_pos (h : (double (Float.ofNat 0)).lt a = true) :
    a.eq (.double (Float.ofNat 0)) = false := by
  rw [lt_eq, Unpacked.lt_iff] at h
  rw [← Bool.not_eq_true, eq_eq, Unpacked.beq_iff]
  exact fun heq => h.2.ne' heq.2

theorem isDouble_iff : IsDouble a ↔ ∃ x, a = .double x := by
  constructor
  · intro h
    exact ⟨a.toDouble, h.symm⟩
  · rintro ⟨x, rfl⟩
    rfl

end Number

open Number (isDouble_iff)

/-- **Numbers of any precision** are a format with signs. -/
instance : SignedFormat Number where
  IsNonneg a := Unpacked.IsUnsigned a.unpack
  ofNat := Binary64.isNonneg_ofNat
  add := Number.lift_kept (fun f _ _ => Unpacked.add_isUnsigned f) (.bearsSign _) (.bearsSign _)
    (.bearsSign _)
  mul := Number.lift_kept (fun f _ _ => Unpacked.mul_isUnsigned f) (.bearsSign _) (.bearsSign _)
    (.bearsSign _)
  div := Number.lift_kept (fun f _ _ => Unpacked.div_isUnsigned f) (.bearsSign _) (.bearsSign _)
    (.bearsSign _)
  mul_self := Number.square_isUnsigned
  hypot a b := Binary64.isNonneg_hypot a.toDouble b.toDouble
  round p _ h := Number.round_isUnsigned p h
  not_lt_zero := Number.not_lt_zero
  ne_zero_of_pos := Number.ne_zero_of_pos
  isDouble_ofNat _ := rfl
  isDouble_hypot _ _ := rfl
  isDouble_round _ := rfl
  lt_of_eq_zero ha hb hc hz hb' hbc hne := by
    obtain ⟨x, rfl⟩ := isDouble_iff.1 ha
    obtain ⟨y, rfl⟩ := isDouble_iff.1 hb
    obtain ⟨z, rfl⟩ := isDouble_iff.1 hc
    have hnum := (Binary64.le_iff.1 (of_decide_eq_true hbc)).1.1
    exact decide_eq_true (Binary64.lt_of_eq_zero hz hb' hnum hne)
  le_of_le_of_lt ha hb hc h h' := by
    obtain ⟨x, rfl⟩ := isDouble_iff.1 ha
    obtain ⟨y, rfl⟩ := isDouble_iff.1 hb
    obtain ⟨z, rfl⟩ := isDouble_iff.1 hc
    have hlt := Binary64.le_of_lt (of_decide_eq_true h')
    exact decide_eq_true (Binary64.le_trans_of_numbers (of_decide_eq_true h) hlt)
  le_of_lt_of_le ha hb hc h h' := by
    obtain ⟨x, rfl⟩ := isDouble_iff.1 ha
    obtain ⟨y, rfl⟩ := isDouble_iff.1 hb
    obtain ⟨z, rfl⟩ := isDouble_iff.1 hc
    have hlt := Binary64.le_of_lt (of_decide_eq_true h)
    exact decide_eq_true (Binary64.le_trans_of_numbers hlt (of_decide_eq_true h'))
  eq_zero_of_hypot ha hb h := by
    obtain ⟨x, rfl⟩ := isDouble_iff.1 ha
    obtain ⟨y, rfl⟩ := isDouble_iff.1 hb
    exact Binary64.eq_zero_of_hypot h
  div_ne_zero ha hb hone hb' hz hle := by
    obtain ⟨x, rfl⟩ := isDouble_iff.1 ha
    obtain ⟨y, rfl⟩ := isDouble_iff.1 hb
    exact Binary64.div_ne_zero_of_le (of_decide_eq_true hone) hb' hz (of_decide_eq_true hle)
  zero_lt_one := by decide
  one_le_one := by decide
  one_mul_one := congrArg Number.double (by decide)
  one_add_zero := congrArg Number.double (by decide)
  huge_le_huge := by decide +kernel

end LeastSquares
