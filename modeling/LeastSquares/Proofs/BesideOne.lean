import LeastSquares.Proofs.Magnitude

/-!
# What is at most zero adds nothing to one

A sum of one and a number that is at most zero is at most one as a real number, and one is a number
of every format, so rounding does not lead beyond it. For doubles and for numbers of extended
precision that is one sum. The formats of single and half precision round the sum once more, and the
number before.

* `Reading.IsUpToZero`, `narrow_le_zero`, `narrow_le_one`: rounding to a narrower format.
* `Number.le_zero_iff`, `Number.toDouble_le_zero`: **at most zero**, in every precision.
* `Precision.one_add_le_one`, `Double.one_add_le_one`: **the sum of numbers of any kind.**
-/

namespace LeastSquares

open Unpacked (place BearsSign)

/-- **An exact number that is at most zero.** -/
def Reading.IsUpToZero : Reading → Prop
  | .nan => False
  | .infinite negative => negative = true
  | .finite negative m _ => negative = true ∨ m = 0

namespace Binary64

open Float.Model.UnpackedFloat
open Float.Model (UnpackedFloat)

/-! ### Rounding to a narrower format -/

section Narrowing

/-- A quotient of at most `k` is rounded to at most `k`. -/
theorem roundDiv_le_of_le {num den k : ℕ} (hden : 0 < den) (h : num ≤ k * den) :
    roundDiv num den ≤ k := by
  rcases h.lt_or_eq with hlt | rfl
  · have hq : num / den < k := (Nat.div_lt_iff_lt_mul hden).2 hlt
    exact (roundDiv_le num den).trans hq
  · unfold roundDiv
    simp [hden]

variable {f : Format} {m : ℕ} {e : ℤ}

/-- **A number of at most one** is rounded to one of at most one. -/
theorem round_le_one (hf : 1 ≤ f.precision) (hbottom : f.bottom ≤ 0) (he : e ≤ 0)
    (hm : m ≤ 2 ^ (-e).toNat) :
    (f.round m e).2 ≤ 0 ∧ (f.round m e).1 ≤ 2 ^ (-(f.round m e).2).toNat := by
  by_cases h0 : m = 0
  · subst h0
    exact ⟨hbottom, Nat.zero_le _⟩
  have hlog : m.log2 ≤ (-e).toNat := by
    rw [← Nat.pow_le_pow_iff_right one_lt_two]
    exact (Nat.log2_self_le h0).trans hm
  have hplaces : e + places f m e ≤ 0 := by
    unfold places
    omega
  rw [round_eq h0]
  dsimp only
  refine ⟨hplaces, ?_⟩
  split_ifs with hs
  · calc m * 2 ^ (-places f m e).toNat ≤ 2 ^ (-e).toNat * 2 ^ (-places f m e).toNat := by gcongr
      _ = 2 ^ (-(e + places f m e)).toNat := by rw [← pow_add]; congr 1; omega
  · refine roundDiv_le_of_le (by positivity) ?_
    rw [← pow_add]
    exact hm.trans (Nat.pow_le_pow_right two_pos (by omega))

theorem not_isPast (htop : 0 < f.top) (he : e ≤ 0) (hm : m ≤ 2 ^ (-e).toNat) :
    f.isPast (m, e) = false := by
  unfold Format.isPast
  by_cases h0 : m = 0
  · simp [h0]
  · have hlog : m.log2 ≤ (-e).toNat := by
      rw [← Nat.pow_le_pow_iff_right one_lt_two]
      exact (Nat.log2_self_le h0).trans hm
    simp only [Bool.and_eq_false_iff, decide_eq_false_iff_not]
    right
    omega

theorem write_zero (e : ℤ) : write false 0 e = Float.ofNat 0 := by
  have hround : Format.double.round 0 e = (0, -1074) := if_pos rfl
  unfold write
  dsimp only
  rw [hround]
  decide

/-- **A number of at most one** is written so. -/
theorem write_le_one (he : e ≤ 0) (hm : m ≤ 2 ^ (-e).toNat) : write false m e ≤ Float.ofNat 1 := by
  by_cases h0 : m = 0
  · subst h0
    exact le_one_iff.2 (.inr (by rw [write_zero]; decide))
  obtain ⟨he', hm'⟩ := round_le_one (f := .double) (by decide) (by decide) he hm
  have hpast := not_isPast (f := .double) (by decide) he' hm'
  rw [le_one_iff]
  right
  unfold write signed
  dsimp only
  rw [if_neg Bool.false_ne_true, hpast, if_neg Bool.false_ne_true]
  obtain ⟨hbottom, htop, hcases⟩ := round_bounds (f := .double) (by decide) h0 e
  generalize Format.double.round m e = r at *
  change -1074 ≤ r.2 at hbottom
  change r.1 ≤ 2 ^ 53 at htop
  change r.2 = -1074 ∨ 2 ^ 52 ≤ r.1 at hcases
  have hk : (r.2 + 1074).toNat * 2 ^ 52 + r.1 ≤ 1023 * 2 ^ 52 := by
    rcases hcases with hr | hr
    · omega
    -- Above the bottom the places are full, so the exponent is `-52` or less.
    · have hexp : 52 ≤ (-r.2).toNat := by
        rw [← Nat.pow_le_pow_iff_right one_lt_two]
        exact hr.trans hm'
      rcases hexp.eq_or_lt with hlast | hlast
      · rw [← hlast] at hm'
        omega
      · omega
  exact (toBits_ofBits (hk.trans (by decide))).trans_le hk

/-- A sign makes a number without one at most zero. -/
theorem neg_le_zero {x : Float} (h : x.toBits.toNat ≤ 2047 * 2 ^ 52) : -x ≤ Float.ofNat 0 := by
  have hnum : x.toModel.unpack ≠ .notANumber := (place_unpack (b := x.toBits.toBitVec) h).1
  have hsign : IsNonneg x := isNonneg_iff.2 (by omega)
  have hneg : (-x).toModel.unpack = unpack .binary64 (pack .binary64 x.toModel.unpack.neg) := rfl
  have hbears : BearsSign .negative x.toModel.unpack.neg := by
    unfold IsNonneg at hsign
    cases hx : x.toModel.unpack with
    | notANumber => trivial
    | infinity s | zero s | finite s m e _ =>
      rw [hx] at hsign
      obtain rfl : s = .positive := hsign
      rfl
  have hnum' : x.toModel.unpack.neg ≠ .notANumber := by
    cases hx : x.toModel.unpack with
    | notANumber => exact absurd hx hnum
    | infinity s | zero s | finite s m e _ => simp [neg]
  rw [le_iff, isNaN_eq_false_iff, placeOf, hneg]
  exact ⟨⟨Unpacked.unpack_pack_ne_notANumber hnum', by decide⟩,
    Unpacked.place_le_zero (Unpacked.bearsSign_pack hbears)⟩

theorem write_true (m : ℕ) (e : ℤ) : write true m e = -write false m e := by
  unfold write signed
  rw [if_pos rfl, if_neg Bool.false_ne_true]

theorem signed_true (x : Float) : signed true x = -x := if_pos rfl

/-- **What is at most zero** is rounded so. -/
theorem narrow_le_zero {r : Reading} (h : r.IsUpToZero) : narrow f r ≤ Float.ofNat 0 := by
  cases r with
  | nan => exact h.elim
  | infinite negative =>
    obtain rfl : negative = true := h
    exact neg_le_zero (by decide)
  | finite negative m e =>
    unfold narrow
    dsimp only
    rcases h with rfl | rfl
    · rw [signed_true, write_true]
      split_ifs
      · exact neg_le_zero (by decide)
      · exact neg_le_zero (write_bits _ _).1
    · have hround : f.round 0 e = (0, f.bottom) := if_pos rfl
      have hpast : f.isPast (0, f.bottom) = false := rfl
      rw [hround, hpast, if_neg Bool.false_ne_true]
      cases negative with
      | true =>
        rw [write_true]
        exact neg_le_zero (write_bits _ _).1
      | false =>
        rw [write_zero]
        exact le_zero_iff.2 (.inr (by decide))

variable {x : Float}

theorem read_isUpToZero (h : x ≤ Float.ofNat 0) : (read x).IsUpToZero := by
  have hnum := (le_iff.1 h).1.1
  cases hx : read x with
  | nan => exact absurd ((isNaN_of_read hx).symm.trans hnum) (by decide)
  | infinite negative =>
    obtain rfl := eq_infinity_of_read hx
    cases negative with
    | true => rfl
    | false => exact absurd h (by decide)
  | finite negative m e =>
    rcases le_zero_iff.1 h with hbits | hbits
    · exact .inl ((read_finite hx).2.1.trans (decide_eq_true hbits))
    · exact .inr (eq_zero_of_beq (beq_zero_iff.2 (.inl hbits)) hx)

theorem read_le_one (h : x.toBits.toNat ≤ 1023 * 2 ^ 52) :
    ∃ m e, read x = .finite false m e ∧ e ≤ 0 ∧ m ≤ 2 ^ (-e).toNat := by
  have hsign : decide (Nat.pow 2 63 ≤ x.toBits.toNat) = false := by
    refine decide_eq_false (not_le.2 (lt_of_le_of_lt h ?_))
    decide
  have hpow : Nat.pow 2 52 = 2 ^ 52 := rfl
  have hpow' : Nat.pow 2 11 = 2 ^ 11 := rfl
  unfold read
  dsimp only
  rw [hsign, hpow, hpow']
  split_ifs with h1 h2 h3
  · omega
  · omega
  · have hbottom : 52 ≤ (-(-1074 : ℤ)).toNat := by decide
    generalize (-1074 : ℤ) = e at *
    refine ⟨_, _, rfl, by omega, ?_⟩
    calc x.toBits.toNat % 2 ^ 52 ≤ 2 ^ 52 := (Nat.mod_lt _ (by decide)).le
      _ ≤ 2 ^ (-e).toNat := Nat.pow_le_pow_right two_pos hbottom
  · refine ⟨_, _, rfl, by omega, ?_⟩
    generalize hE : x.toBits.toNat / 2 ^ 52 % 2 ^ 11 = E at *
    rcases (show E ≤ 1023 by omega).lt_or_eq with hlt | rfl
    · calc x.toBits.toNat % 2 ^ 52 + 2 ^ 52 ≤ 2 ^ 53 := by omega
        _ ≤ 2 ^ (-((E : ℤ) - 1075)).toNat := Nat.pow_le_pow_right two_pos (by omega)
    · have hexp : (-(((1023 : ℕ) : ℤ) - 1075)).toNat = 52 := by decide
      rw [hexp]
      omega

/-- **What is at most one** is rounded so, in every format that has the number one. -/
theorem narrow_le_one (hf : 1 ≤ f.precision) (hbottom : f.bottom ≤ 0) (htop : 0 < f.top)
    (h : x ≤ Float.ofNat 1) : narrow f (read x) ≤ Float.ofNat 1 := by
  rcases le_one_iff.1 h with hbits | hbits
  · have hzero := narrow_le_zero (f := f) (read_isUpToZero (le_zero_iff.2 (.inl hbits)))
    exact le_trans_of_numbers hzero (le_one_iff.2 (.inr (by decide)))
  · obtain ⟨m, e, hx, he, hm⟩ := read_le_one hbits
    obtain ⟨he', hm'⟩ := round_le_one hf hbottom he hm
    unfold narrow
    rw [hx]
    dsimp only
    rw [not_isPast htop he' hm', if_neg Bool.false_ne_true]
    exact write_le_one he' hm'

end Narrowing

/-- **What is at most zero adds nothing to one.** -/
theorem one_add_le_one (h : x ≤ Float.ofNat 0) : Float.ofNat 1 + x ≤ Float.ofNat 1 := by
  obtain ⟨⟨hnan, -⟩, hle⟩ := le_iff.1 h
  exact le_iff_unpack.2
    (Unpacked.one_add_le_one (f := .binary64) (by decide) (unpack_ne_notANumber hnan) hle)

end Binary64

/-! ### Numbers of any precision -/

namespace Number

variable {a : Number}

/-- **Numbers that are at most zero**, by what they stand for. -/
theorem le_zero_iff : a.le (.double (Float.ofNat 0)) = true ↔
    a.unpack ≠ .notANumber ∧ place a.unpack ≤ toLex (0, toLex (0, 0)) := by
  have hzero : (double (Float.ofNat 0)).beside a = .zero .positive := zero_beside rfl
  rw [le_eq, Unpacked.le_iff, hzero, beside_double]
  simp [place]

/-- What is at most a zero, of any precision, is at most zero. -/
theorem le_zero_of_le {z : Number} {s : Float.Model.UnpackedFloat.Sign} (hz : z.unpack = .zero s)
    (h : a.le z = true) : a.le (.double (Float.ofNat 0)) = true := by
  rw [le_eq, Unpacked.le_iff, zero_beside hz] at h
  obtain ⟨⟨hnum, -⟩, hle⟩ := h
  rw [le_zero_iff]
  cases a with
  | extended x => exact ⟨hnum, hle⟩
  | double x => cases z with
    | double y => exact ⟨hnum, hle⟩
    | extended y =>
      refine ⟨fun hnan => hnum ?_, Wide.place_le_zero_of_ofDouble hle⟩
      exact toWide_kept (a := .double x) .notANumber hnan

theorem read_isUpToZero (h : a.le (.double (Float.ofNat 0)) = true) : a.read.IsUpToZero := by
  cases a with
  | double x => exact Binary64.read_isUpToZero (of_decide_eq_true h)
  | extended x =>
    obtain ⟨hnum, hle⟩ := le_zero_iff.1 h
    change x.unpack ≠ _ at hnum
    change place x.unpack ≤ _ at hle
    change x.read.IsUpToZero
    unfold Wide.read
    rcases Unpacked.bearsSign_of_place_le hle with hsign | ⟨s, hs⟩
    · cases hx : x.unpack with
      | notANumber => exact absurd hx hnum
      | infinity s =>
        rw [hx] at hsign
        obtain rfl : s = .negative := hsign
        rfl
      | zero s => exact .inr rfl
      | finite s m e _ =>
        rw [hx] at hsign
        obtain rfl : s = .negative := hsign
        exact .inl rfl
    · rw [hs]
      exact .inr rfl

theorem toDouble_le_zero (h : a.le (.double (Float.ofNat 0)) = true) :
    a.toDouble ≤ Float.ofNat 0 := by
  cases a with
  | double x => exact of_decide_eq_true h
  | extended x => exact Binary64.narrow_le_zero (f := .double) (read_isUpToZero h)

/-- A number that is at most zero is so among those of extended precision. -/
theorem toWide_le_zero (h : a.le (.double (Float.ofNat 0)) = true) :
    a.toWide.unpack ≠ .notANumber ∧ place a.toWide.unpack ≤ toLex (0, toLex (0, 0)) := by
  obtain ⟨hnum, hle⟩ := le_zero_iff.1 h
  cases a with
  | extended x => exact ⟨hnum, hle⟩
  | double x =>
    refine ⟨Wide.nearest_ne_notANumber hnum, ?_⟩
    rcases Unpacked.bearsSign_of_place_le hle with hsign | ⟨s, hs⟩
    · exact Unpacked.place_le_zero (toWide_kept (a := .double x) (.bearsSign _) hsign)
    · change place (Wide.nearest x.toModel.unpack).unpack ≤ _
      rw [show x.toModel.unpack = .zero s from hs, Wide.unpack_nearest_zero]
      exact le_rfl

end Number

namespace Precision

/-- **What is at most zero adds nothing to one**, in every precision. -/
theorem one_add_le_one (p : Precision) {a : Number} (h : a.le (.double (Float.ofNat 0)) = true) :
    (p.round (p.round (.double (Float.ofNat 1)) + p.round a)).le (.double (Float.ofNat 1)) =
      true := by
  have hzero (f : Format) : Binary64.narrow f a.read ≤ Float.ofNat 0 :=
    Binary64.narrow_le_zero (Number.read_isUpToZero h)
  cases p with
  | half =>
    have hone : half.round (.double (Float.ofNat 1)) = .double (Float.ofNat 1) :=
      congrArg Number.double (by decide)
    rw [hone]
    exact decide_eq_true (Binary64.narrow_le_one (by decide) (by decide) (by decide)
      (Binary64.one_add_le_one (hzero .half)))
  | single =>
    have hone : single.round (.double (Float.ofNat 1)) = .double (Float.ofNat 1) :=
      congrArg Number.double (by decide)
    rw [hone]
    exact decide_eq_true (Binary64.narrow_le_one (by decide) (by decide) (by decide)
      (Binary64.one_add_le_one (hzero .single)))
  | double => exact decide_eq_true (Binary64.one_add_le_one (Number.toDouble_le_zero h))
  | extended =>
    have hone : (Wide.ofDouble (Float.ofNat 1)).unpack = Unpacked.one Wide.format := rfl
    obtain ⟨hnum, hle⟩ := Number.toWide_le_zero h
    have hsum := Unpacked.one_add_le_one (f := Wide.format) (by decide) hnum hle
    rw [← hone] at hsum
    exact hsum

end Precision

/-! ### Numbers with a kind -/

/-- **What is at most zero adds nothing to one**, whatever kind of number it is. -/
theorem Double.one_add_le_one {a : Double}
    (h : FloatingPoint.le a.value (FloatingPoint.ofNat 0) = true) :
    FloatingPoint.le (1 + a : Double).value (FloatingPoint.ofNat 1) = true := by
  have hkind : Kind.checked.join a.kind = a.kind := by cases a.kind <;> rfl
  have hsum : (1 + a : Double).value = Scalar.fit a.kind (FloatingPoint.add
      (Scalar.fit a.kind (FloatingPoint.ofNat 1)) (Scalar.fit a.kind a.value)) := by
    change Scalar.fit (Kind.checked.join a.kind) _ = _
    rw [hkind]
    rfl
  rw [hsum]
  exact a.kind.precision.one_add_le_one h

end LeastSquares
