import LeastSquares.Proofs.BitOrder
import LeastSquares.Proofs.SignedFormat

/-!
# The numbers that doubles stand for

A finite double is read as a sign, an integer and a power of two; their product is the real number
that it stands for. The whole part that is taken of a double is that of this number: for one that is
not below zero, the largest integer that is not above it.

* `Reading.toReal`, `Binary64.toReal`: **the real number that a double stands for.**
* `Binary64.toReal_ofInt`: the integers of a difference are exact.
* `Binary64.truncate_eq_floor`, `Binary64.truncate_eq_none_iff`: **the whole part** of a double that
  is not below zero, and which of them have none.
-/

namespace LeastSquares

/-- **The real number that is read.** An infinity stands for none, and neither does what is no
number; they are read as zero. -/
noncomputable def Reading.toReal : Reading → ℝ
  | .finite negative m e => (if negative then -1 else 1) * (m * ((2 : ℕ) : ℝ) ^ e)
  | _ => 0

namespace Binary64

open Float.Model.UnpackedFloat

/-- **The real number that a double stands for.** -/
noncomputable def toReal (x : Float) : ℝ := (read x).toReal

variable {x : Float} {s : Bool} {m : ℕ} {e k : ℤ}

theorem toReal_of_read (h : read x = .finite s m e) :
    toReal x = (if s then -1 else 1) * (m * 2 ^ e) := by
  unfold toReal Reading.toReal
  rw [h, Nat.cast_ofNat]

/-- The integers that differences are made of are exact as doubles. -/
theorem toReal_ofInt {n : ℤ} (h : n = 1 ∨ n = 0 ∨ n = -1) : toReal (ofInt n) = n := by
  rcases h with rfl | rfl | rfl
  · rw [toReal_of_read (show read (ofInt 1) = .finite false (2 ^ 52) (-52) from rfl)]
    norm_num
  · rw [toReal_of_read (show read (ofInt 0) = .finite false 0 (-1074) from rfl)]
    norm_num
  · rw [toReal_of_read (show read (ofInt (-1)) = .finite true (2 ^ 52) (-52) from rfl)]
    norm_num

/-! ### Whole parts -/

/-- Only a zero equals zero. -/
theorem eq_zero_of_beq (hx : (x == Float.ofNat 0) = true) (h : read x = .finite s m e) : m = 0 := by
  have hbits : x.toBits.toNat = 0 ∨ x.toBits.toNat = 2 ^ 63 := beq_zero_iff.1 hx
  unfold read at h
  dsimp only at h
  split_ifs at h with hexp hfrac hexp' <;> injection h with hs hm he
  · change x.toBits.toNat % 2 ^ 52 = m at hm
    omega
  · change ¬ x.toBits.toNat / 2 ^ 52 % 2 ^ 11 = 0 at hexp'
    omega

/-- **A double that is not below zero** bears no sign, unless it is a zero. -/
theorem eq_zero_of_not_lt (hx : ¬ x < Float.ofNat 0) (h : read x = .finite true m e) : m = 0 := by
  have hsign : 2 ^ 63 ≤ x.toBits.toNat := of_decide_eq_true (read_finite h).2.1.symm
  obtain ⟨hnum, hle⟩ := le_iff.1 (le_zero_iff.2 (.inl hsign))
  have hplace : placeOf x = placeOf (Float.ofNat 0) :=
    hle.lt_or_eq.resolve_left fun hlt => hx (lt_iff.2 ⟨hnum, hlt⟩)
  exact eq_zero_of_beq (beq_iff.2 ⟨hnum, hplace⟩) h

/-- The number that such a double stands for, without its sign. -/
theorem toReal_of_not_lt (hx : ¬ x < Float.ofNat 0) (h : read x = .finite s m e) :
    toReal x = m * 2 ^ e := by
  rw [toReal_of_read h]
  cases s with
  | false => simp
  | true => simp [eq_zero_of_not_lt hx h]

/-- The whole part of an integer times a power of two. -/
theorem floor_mul_zpow (m : ℕ) (e : ℤ) : ⌊(m : ℝ) * 2 ^ e⌋₊ =
    if e < 0 then m / 2 ^ (-e).toNat else m * 2 ^ e.toNat := by
  split_ifs with he
  · have hpow : (m : ℝ) * 2 ^ e = m / (2 ^ (-e).toNat : ℕ) := by
      obtain ⟨k, rfl⟩ : ∃ k : ℕ, e = -k := ⟨(-e).toNat, by omega⟩
      rw [neg_neg, Int.toNat_natCast, zpow_neg, zpow_natCast, Nat.cast_pow, Nat.cast_ofNat,
        div_eq_mul_inv]
    rw [hpow, Nat.floor_div_eq_div]
  · have hpow : (m : ℝ) * 2 ^ e = (m * 2 ^ e.toNat : ℕ) := by
      obtain ⟨k, rfl⟩ : ∃ k : ℕ, e = k := ⟨e.toNat, by omega⟩
      rw [Int.toNat_natCast, zpow_natCast, Nat.cast_mul, Nat.cast_pow, Nat.cast_ofNat]
    rw [hpow, Nat.floor_natCast]

/-- **The whole part of a double that is not below zero** is the largest integer that is not above
the number that it stands for, which is not below zero either. -/
theorem truncate_eq_floor (hx : ¬ x < Float.ofNat 0) (h : truncate x = some k) :
    0 ≤ toReal x ∧ k = ⌊toReal x⌋₊ := by
  unfold truncate at h
  cases hr : read x with
  | nan | infinite => simp [hr, wholePart] at h
  | finite s m e =>
    simp only [hr, wholePart, Option.some.injEq] at h
    rw [toReal_of_not_lt hx hr, floor_mul_zpow]
    refine ⟨by positivity, ?_⟩
    rw [← h]
    cases s with
    | false => rfl
    | true =>
      obtain rfl := eq_zero_of_not_lt hx hr
      simp

/-! ### What is read as no number -/

theorem isNaN_of_read (h : read x = .nan) : x.isNaN = true := by
  have hexp := unpackExponent_toNat x.toBits.toBitVec
  have hman := unpackMantissa_toNat x.toBits.toBitVec
  have hnan : x.isNaN = (unpack .binary64 x.toBits.toBitVec).isNaN := rfl
  unfold read at h
  dsimp only at h
  split_ifs at h with htop hfrac
  have hones : @unpackExponent .binary64 x.toBits.toBitVec = -1#_ := by
    rw [← BitVec.toNat_inj, hexp]
    exact htop
  have hrest : ¬ @unpackMantissa .binary64 x.toBits.toBitVec = 0#_ := by
    rw [← BitVec.toNat_inj, hman]
    exact hfrac
  rw [hnan]
  unfold unpack
  simp only [hones, hrest, if_true, if_false]
  rfl

theorem eq_infinity_of_read (h : read x = .infinite s) : x = signed s infinity := by
  have hlt : x.toBits.toNat < 2 ^ 64 := UInt64.toNat_lt _
  unfold read at h
  dsimp only at h
  split_ifs at h with htop hfrac
  injection h with hs
  change x.toBits.toNat / 2 ^ 52 % 2 ^ 11 = 2047 at htop
  change x.toBits.toNat % 2 ^ 52 = 0 at hfrac
  refine eq_of_toBits ?_
  cases s with
  | false =>
    have hsign : ¬ 2 ^ 63 ≤ x.toBits.toNat := of_decide_eq_false hs
    have hbits : (signed false infinity).toBits.toNat = 2047 * 2 ^ 52 := by decide
    omega
  | true =>
    have hsign : 2 ^ 63 ≤ x.toBits.toNat := of_decide_eq_true hs
    have hbits : (signed true infinity).toBits.toNat = 4095 * 2 ^ 52 := by decide
    omega

/-- **Which doubles have no whole part**, of those that are not below zero. -/
theorem truncate_eq_none_iff (hx : ¬ x < Float.ofNat 0) :
    truncate x = none ↔ x.isNaN = true ∨ x = infinity := by
  constructor
  · intro h
    unfold truncate at h
    cases hr : read x with
    | nan => exact .inl (isNaN_of_read hr)
    | infinite s =>
      obtain rfl := eq_infinity_of_read hr
      cases s with
      | false => exact .inr rfl
      | true => exact absurd (by decide) hx
    | finite s m e => simp [hr, wholePart] at h
  · rintro (h | rfl)
    · rw [eq_nan h]
      rfl
    · rfl

end Binary64

end LeastSquares
