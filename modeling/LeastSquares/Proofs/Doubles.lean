import LeastSquares.Proofs.Rounded

/-!
# Doubles

A double is a number of its format, so the order, the signs and the numbers that are none are those
of unpacked numbers. A sum, a product or a quotient of doubles without a minus sign bears none
either, and neither does the square of any double. A zero with a minus sign would not do: one divided
by it is below zero.

* `lt_iff`, `le_iff`, `beq_iff`: **the comparisons of doubles.**
* `eq_nan`, `not_lt_of_isNaN`: the double that is no number, which compares with nothing.
* `IsNonneg`: **a double without a minus sign**, or no number.
* `isNonneg_iff`, `beq_zero_iff`: signs and zeros by their bits.
-/

namespace LeastSquares.Binary64

open Float.Model.UnpackedFloat
open Float.Model (UnpackedFloat)
open Unpacked (place place_zero IsUnsigned BearsSign)

/-! ### What is no number -/

section

variable {x y : Float}

theorem unpack_of_isNaN (h : x.isNaN = true) : x.toModel.unpack = .notANumber := isNaN_iff.1 h

theorem isNaN_eq_false_iff : x.isNaN = false ↔ x.toModel.unpack ≠ .notANumber := by
  rw [← Bool.not_eq_true]
  exact not_congr isNaN_iff

theorem unpack_ne_notANumber (h : x.isNaN = false) : x.toModel.unpack ≠ .notANumber :=
  isNaN_eq_false_iff.1 h

/-- **There is one double that is no number.** -/
theorem eq_nan (h : x.isNaN = true) : x = nan := by
  have hu := unpack_of_isNaN h
  rcases x with ⟨⟨bits, valid⟩⟩
  have hbits : bits.toBitVec = UnpackedFloat.packedNaN .binary64 :=
    (unpack_eq_notANumber_iff_of_valid valid).1 hu
  obtain rfl : bits = 0x7ff8000000000000 := by
    rw [← UInt64.toBitVec_inj, hbits]
    decide
  rfl

end

/-! ### The order -/

section Order

variable {x y : Float}

/-- The place of a double. -/
def placeOf (x : Float) : ℤ ×ₗ ℤ ×ₗ ℤ := place x.toModel.unpack

theorem lt_iff_unpack : x < y ↔ x.toModel.unpack.lt y.toModel.unpack = true := decide_eq_true_iff

theorem le_iff_unpack : x ≤ y ↔ x.toModel.unpack.le y.toModel.unpack = true := decide_eq_true_iff

theorem lt_iff : x < y ↔ (x.isNaN = false ∧ y.isNaN = false) ∧ placeOf x < placeOf y := by
  rw [lt_iff_unpack, Unpacked.lt_iff, isNaN_eq_false_iff, isNaN_eq_false_iff]
  rfl

theorem le_iff : x ≤ y ↔ (x.isNaN = false ∧ y.isNaN = false) ∧ placeOf x ≤ placeOf y := by
  rw [le_iff_unpack, Unpacked.le_iff, isNaN_eq_false_iff, isNaN_eq_false_iff]
  rfl

theorem beq_iff : (x == y) = true ↔
    (x.isNaN = false ∧ y.isNaN = false) ∧ placeOf x = placeOf y := by
  rw [isNaN_eq_false_iff, isNaN_eq_false_iff]
  exact Unpacked.beq_iff

theorem not_lt_of_isNaN (h : x.isNaN = true ∨ y.isNaN = true) : ¬ x < y := by
  intro hlt
  obtain ⟨⟨hx, hy⟩, -⟩ := lt_iff.1 hlt
  rcases h with h | h
  · exact Bool.false_ne_true (hx.symm.trans h)
  · exact Bool.false_ne_true (hy.symm.trans h)

theorem le_of_lt (h : x < y) : x ≤ y := le_iff.2 ((lt_iff.1 h).imp_right LT.lt.le)

theorem le_trans_of_numbers {z : Float} (h : x ≤ y) (h' : y ≤ z) : x ≤ z :=
  le_iff.2 ⟨⟨(le_iff.1 h).1.1, (le_iff.1 h').1.2⟩, (le_iff.1 h).2.trans (le_iff.1 h').2⟩

end Order

/-! ### Signs -/

section Signs

variable {x y : Float}

/-- A double that is not negative, or no number. -/
def IsNonneg (x : Float) : Prop := IsUnsigned x.toModel.unpack

/-- **What equals zero** is less than any number that is neither negative nor zero. -/
theorem lt_of_eq_zero (hx : (x == Float.ofNat 0) = true) (hy : IsNonneg y)
    (hnum : y.isNaN = false) (hne : (y == Float.ofNat 0) = false) : x < y := by
  obtain ⟨⟨hxnum, hzero⟩, hplace⟩ := beq_iff.1 hx
  have hle : placeOf x ≤ placeOf y := hplace ▸ Unpacked.zero_le_place hy
  refine lt_iff.2 ⟨⟨hxnum, hnum⟩, lt_of_le_of_ne hle fun heq => ?_⟩
  rw [beq_iff.2 ⟨⟨hnum, hzero⟩, heq.symm.trans hplace⟩] at hne
  cases hne

end Signs

/-! ### Bits -/

section Bits

variable {x : Float}

theorem unpackSign_eq_zero_iff {b : BitVec 64} :
    @unpackSign .binary64 b = 0#1 ↔ b.toNat < 2 ^ 63 := by
  have hb : b.toNat < 2 ^ 64 := b.isLt
  rw [unpackSign_def, ← BitVec.toNat_inj, BitVec.extractLsb'_toNat, Nat.shiftRight_eq_div_pow]
  simp only [BitVec.toNat_ofNat]
  omega

/-- **Doubles without a sign** are those whose bits are below the one of the sign. -/
theorem isNonneg_iff : IsNonneg x ↔ x.toBits.toNat < 2 ^ 63 := by
  constructor
  · intro h
    have hpack : unpackSign (pack .binary64 x.toModel.unpack) = 0#1 := by
      by_cases hx : x.toModel.unpack = .notANumber
      · rw [hx]
        rfl
      · exact Unpacked.unpackSign_pack h hx
    have hbits : pack .binary64 x.toModel.unpack = x.toModel.toBits.toBitVec :=
      pack_unpack_of_valid x.toModel.valid
    rw [hbits] at hpack
    exact unpackSign_eq_zero_iff.1 hpack
  · intro h
    exact Unpacked.unpack_bearsSign (unpackSign_eq_zero_iff.2 h)

theorem eq_of_toBits {y : Float} (h : x.toBits.toNat = y.toBits.toNat) : x = y :=
  Float.toBits_inj.1 (UInt64.toNat_inj.1 h)

/-- **The zeros** are the two doubles with no bit but that of the sign. -/
theorem beq_zero_iff :
    (x == Float.ofNat 0) = true ↔ x.toBits.toNat = 0 ∨ x.toBits.toNat = 2 ^ 63 := by
  constructor
  · intro h
    obtain ⟨-, -, rfl | ⟨rfl, -⟩ | ⟨rfl, -⟩⟩ := Float.beq_iff_ne_nan_and_eq.1 h
    · exact .inl rfl
    · exact .inl rfl
    · exact .inr rfl
  · rintro (h | h)
    · obtain rfl : x = 0 := eq_of_toBits h
      rfl
    · obtain rfl : x = -0 := eq_of_toBits h
      rfl

/-! The fields of a bit pattern. -/

theorem unpackExponent_toNat (b : BitVec 64) :
    (@unpackExponent .binary64 b).toNat = b.toNat / 2 ^ 52 % 2 ^ 11 := by
  rw [unpackExponent_def, BitVec.extractLsb'_toNat, Nat.shiftRight_eq_div_pow]

theorem unpackMantissa_toNat (b : BitVec 64) :
    (@unpackMantissa .binary64 b).toNat = b.toNat % 2 ^ 52 := by
  rw [unpackMantissa_def, BitVec.extractLsb'_toNat, Nat.shiftRight_zero]

/-- **The bits that a double is made of are its own**, up to those of the infinity. -/
theorem toBits_ofBits {k : ℕ} (hk : k ≤ 2047 * 2 ^ 52) :
    (Float.ofBits k.toUInt64).toBits.toNat = k := by
  have hnat : k.toUInt64.toNat = k := Nat.mod_eq_of_lt (by omega)
  have hnan : ¬ @isNaNBits .binary64 k.toUInt64.toBitVec = true := by
    have hexp := unpackExponent_toNat k.toUInt64.toBitVec
    have hman := unpackMantissa_toNat k.toUInt64.toBitVec
    rw [show k.toUInt64.toBitVec.toNat = k from hnat] at hexp hman
    unfold isNaNBits
    rw [decide_eq_true_eq, ← BitVec.toNat_inj, Ne, ← BitVec.toNat_inj, hexp, hman]
    change ¬ (k / 2 ^ 52 % 2 ^ 11 = 2047 ∧ ¬ k % 2 ^ 52 = 0)
    omega
  have h : (Float.ofBits k.toUInt64).toBits.toBitVec = _ :=
    @pack_unpack .binary64 k.toUInt64.toBitVec (by decide)
  rw [if_neg hnan] at h
  rw [UInt64.toBitVec_inj.1 h, hnat]

end Bits

end LeastSquares.Binary64
