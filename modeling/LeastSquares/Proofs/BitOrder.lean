import LeastSquares.Proofs.Doubles

/-!
# The order of doubles by their bits

A double without a sign is ordered by its bits as an integer: the exponent stands above the integer
that it scales, and what has no exponent comes first. The bits above those of the infinity are no
number. So a comparison with a number without a sign is one of bits, and a double with a sign is
below it.

* `bitPlace`, `bitPlace_le_iff`: the place that bits stand for, and **its order**.
* `place_unpack`: **what the bits of a number stand for.**
* `le_iff_bits`: **the comparison with a number without a sign.**
-/

namespace LeastSquares.Binary64

open Float.Model.UnpackedFloat
open Float.Model (UnpackedFloat)
open Unpacked (place)

/-- The place of a number without a sign, by its bits. -/
def bitPlace (k : ℕ) : ℤ ×ₗ ℤ ×ₗ ℤ :=
  if k = 0 then toLex (0, toLex (0, 0))
  else if k < 2 ^ 52 then toLex (1, toLex (-1074, k))
  else if k < 2047 * 2 ^ 52 then
    toLex (1, toLex ((k / 2 ^ 52 : ℕ) - 1075, (2 ^ 52 + k % 2 ^ 52 : ℕ)))
  else toLex (2, toLex (0, 0))

/-- **Doubles without a sign come in the order of their bits.** -/
theorem bitPlace_le_iff {j k : ℕ} (hj : j ≤ 2047 * 2 ^ 52) (hk : k ≤ 2047 * 2 ^ 52) :
    bitPlace j ≤ bitPlace k ↔ j ≤ k := by
  unfold bitPlace
  split_ifs <;> simp [Prod.Lex.toLex_le_toLex] <;> omega

/-- **What the bits of a number stand for**, without a sign. -/
theorem place_unpack {b : BitVec 64} (hb : b.toNat ≤ 2047 * 2 ^ 52) :
    unpack .binary64 b ≠ .notANumber ∧ place (unpack .binary64 b) = bitPlace b.toNat := by
  have hsign : @unpackSign .binary64 b = 0#1 := unpackSign_eq_zero_iff.2 (by omega)
  have hexp := unpackExponent_toNat b
  have hman := unpackMantissa_toNat b
  have htop : @unpackExponent .binary64 b = -1#11 ↔ b.toNat / 2 ^ 52 % 2 ^ 11 = 2047 := by
    rw [← BitVec.toNat_inj, hexp]
    rfl
  have hbottom : @unpackExponent .binary64 b = 0#11 ↔ b.toNat / 2 ^ 52 % 2 ^ 11 = 0 := by
    rw [← BitVec.toNat_inj, hexp]
    rfl
  have hzero : @unpackMantissa .binary64 b = 0#52 ↔ b.toNat % 2 ^ 52 = 0 := by
    rw [← BitVec.toNat_inj, hman]
    rfl
  have hbias : (Float.Model.Format.binary64.exponentBias : ℤ) = 1023 := rfl
  have hpositive : Sign.ofBitVec 0#1 = .positive := rfl
  unfold unpack
  simp only [hsign, htop, hbottom, hzero, hbias, hpositive]
  unfold bitPlace
  split_ifs with h1 h2 h3 h4 <;> try omega
  all_goals refine ⟨nofun, ?_⟩
  · rfl
  · rfl
  · have he : ((b.toNat / 2 ^ 52 % 2 ^ 11 : ℕ) : ℤ) - (1023 + (52 : ℕ)) + 1 = -1074 := by omega
    have hm : b.toNat % 2 ^ 52 = b.toNat := Nat.mod_eq_of_lt (by omega)
    simp only [place, hman, hexp, he, hm]
  · have he : ((b.toNat / 2 ^ 52 % 2 ^ 11 : ℕ) : ℤ) - (1023 + (52 : ℕ)) =
        (b.toNat / 2 ^ 52 : ℕ) - 1075 := by omega
    simp only [place, Unpacked.append_toNat, hman, hexp, he]

/-- The bits above those of the infinity are those of no number. -/
theorem unpack_eq_notANumber {b : BitVec 64} (hb : 2047 * 2 ^ 52 < b.toNat) (hlt : b.toNat < 2 ^ 63) :
    unpack .binary64 b = .notANumber := by
  have hexp : @unpackExponent .binary64 b = -1#11 := by
    rw [← BitVec.toNat_inj, unpackExponent_toNat]
    change b.toNat / 2 ^ 52 % 2 ^ 11 = 2047
    omega
  have hman : @unpackMantissa .binary64 b ≠ 0#52 := by
    rw [Ne, ← BitVec.toNat_inj, unpackMantissa_toNat]
    change ¬ b.toNat % 2 ^ 52 = 0
    omega
  unfold unpack
  simp only [hexp, hman, if_true, if_false]

variable {x : Float}

theorem isNaN_iff_bits (h : x.toBits.toNat < 2 ^ 63) :
    x.isNaN = false ↔ x.toBits.toNat ≤ 2047 * 2 ^ 52 := by
  have hnan : x.isNaN = (unpack .binary64 x.toBits.toBitVec).isNaN := rfl
  constructor
  · intro hx
    by_contra hgt
    rw [hnan, unpack_eq_notANumber (not_le.1 hgt) h] at hx
    cases hx
  · intro hle
    have hne := (place_unpack (b := x.toBits.toBitVec) hle).1
    rw [hnan, ← Bool.not_eq_true, isNaN_iff]
    exact hne

/-- A double with a sign is a number, and comes no later than zero. -/
theorem signed_le_zero (h : 2 ^ 63 ≤ x.toBits.toNat) :
    x.isNaN = false ∧ placeOf x ≤ toLex (0, toLex (0, 0)) := by
  have hsign : @unpackSign .binary64 x.toBits.toBitVec = 1#1 := by
    have hne : ¬ @unpackSign .binary64 x.toBits.toBitVec = 0#1 := fun h0 =>
      absurd (unpackSign_eq_zero_iff.1 h0) (not_lt.2 h)
    exact (BitVec.eq_zero_or_eq_one _).resolve_left hne
  constructor
  · rw [Float.isNaN_eq_decide_eq_nan, decide_eq_false_iff_not]
    rintro rfl
    exact absurd h (by decide)
  · have hbears : Unpacked.BearsSign .negative (unpack .binary64 x.toBits.toBitVec) :=
      Unpacked.unpack_bearsSign hsign
    exact Unpacked.place_le_zero hbears

/-- **The comparison with a number without a sign**, by the bits. -/
theorem le_iff_bits {c : Float} (hc : c.toBits.toNat ≤ 2047 * 2 ^ 52) :
    x ≤ c ↔ 2 ^ 63 ≤ x.toBits.toNat ∨ x.toBits.toNat ≤ c.toBits.toNat := by
  have hcnan : c.isNaN = false := (isNaN_iff_bits (by omega)).2 hc
  have hcplace : placeOf c = bitPlace c.toBits.toNat :=
    (place_unpack (b := c.toBits.toBitVec) hc).2
  rw [le_iff, hcplace]
  by_cases hx : 2 ^ 63 ≤ x.toBits.toNat
  · obtain ⟨hnan, hle⟩ := signed_le_zero hx
    have hzero : bitPlace 0 ≤ bitPlace c.toBits.toNat :=
      (bitPlace_le_iff (Nat.zero_le _) hc).2 (Nat.zero_le _)
    simp only [hx, hnan, hcnan, true_or, and_self, true_and, iff_true]
    exact hle.trans hzero
  · rw [isNaN_iff_bits (not_le.1 hx)]
    by_cases hnum : x.toBits.toNat ≤ 2047 * 2 ^ 52
    · have hplace : placeOf x = bitPlace x.toBits.toNat :=
        (place_unpack (b := x.toBits.toBitVec) hnum).2
      rw [hplace, bitPlace_le_iff hnum hc]
      simp only [hx, hnum, hcnan, false_or, and_self, true_and]
    · have hgt : ¬ x.toBits.toNat ≤ c.toBits.toNat := by omega
      simp only [hx, hnum, hgt, false_and, or_self]

theorem le_zero_iff : x ≤ Float.ofNat 0 ↔ 2 ^ 63 ≤ x.toBits.toNat ∨ x.toBits.toNat = 0 := by
  have hzero : (Float.ofNat 0).toBits.toNat = 0 := by decide
  rw [le_iff_bits (by omega), hzero, Nat.le_zero]

theorem le_one_iff :
    x ≤ Float.ofNat 1 ↔ 2 ^ 63 ≤ x.toBits.toNat ∨ x.toBits.toNat ≤ 1023 * 2 ^ 52 := by
  have hone : (Float.ofNat 1).toBits.toNat = 1023 * 2 ^ 52 := by decide
  rw [le_iff_bits (by omega), hone]

end LeastSquares.Binary64
