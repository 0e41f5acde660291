import LeastSquares.Proofs.Unpacked

/-!
# Rounded numbers

A number is rounded to a format by a shift of its integer to the places that the format has there,
and written by its fields. Both are the same in every format, and little is said of them here: what
is not below the bottom of the format does not vanish, neither where it is rounded nor where it is
written, and what is at most one is so afterwards.

* `roundWithAccuracy_eq_finite`, `round_eq_finite`: **what is not rounded to zero.**
* `unpack_pack_finite`: what is not written as zero.
* `IsUpToOne`, `place_pack_le_one`: **at most one**, and written so.
* `one_add_le_one`: **what is at most zero adds nothing to one.**
-/

namespace LeastSquares.Unpacked

open Float.Model.UnpackedFloat
open Float.Model (UnpackedFloat)

variable (f : Float.Model.Format)

/-! ### The places of a format -/

theorem mantissaBits_eq : f.mantissaBits = f.mantissaBitsWithoutImplicit + 1 :=
  Nat.add_comm _ _

/-- The exponents of a format, by the bias. -/
theorem two_pow_exponentBits : 2 ^ f.exponentBits = 2 * f.exponentBias + 2 := by
  have hpos : 1 ≤ 2 ^ (f.exponentBits - 1) := Nat.one_le_two_pow
  have hsucc : f.exponentBits = f.exponentBits - 1 + 1 := (Nat.sub_add_cancel f.he).symm
  rw [hsucc, pow_succ, Float.Model.Format.exponentBias]
  omega

theorem minExponent_eq :
    f.minExponent = 1 - (f.exponentBias : ℤ) - f.mantissaBitsWithoutImplicit := by
  have hpos : 1 ≤ 2 ^ (f.exponentBits - 1) := Nat.one_le_two_pow
  rw [Float.Model.Format.minExponent, mantissaBits_eq, Float.Model.Format.exponentBias,
    Nat.cast_sub hpos]
  push_cast
  ring

/-- The integer of a number that has been read, and its exponent. -/
theorem bounds_of_unpack {f : Float.Model.Format} {b : BitVec f.numBits} {s : UnpackedFloat.Sign}
    {m : ℕ} {e : ℤ} {h : 0 < m} (hb : unpack f b = .finite s m e h) :
    m < 2 ^ f.mantissaBits ∧ f.minExponent ≤ e := by
  rw [minExponent_eq, Float.Model.Format.mantissaBits]
  unfold unpack at hb
  dsimp only at hb
  split_ifs at hb with hones hinf hexp hzero
  · injection hb with _ hm he
    have hlt := (unpackMantissa b).isLt
    rw [hexp, BitVec.toNat_ofNat, Nat.zero_mod] at he
    rw [pow_add]
    omega
  · injection hb with _ hm he
    have hlt := (1#1 ++ unpackMantissa b).isLt
    have hpos : 0 < (unpackExponent b).toNat :=
      Nat.pos_of_ne_zero fun h0 => hexp (BitVec.eq_of_toNat_eq (by simpa using h0))
    omega

/-! ### Rounding -/

section Rounding

theorem shiftRight_mantissa (em : ExtendedMantissa) (k : ℕ) :
    (em >>> k).mantissa = em.mantissa / 2 ^ k := by
  induction k with
  | zero => exact (Nat.div_one _).symm
  | succ k ih =>
    have hsucc : (em >>> (k + 1)).mantissa = (em >>> k).mantissa / 2 := rfl
    rw [hsucc, ih, Nat.div_div_eq_div_mul, pow_succ]

theorem mantissa_ofMantissaAndAccuracy (m : ℕ) (a : Accuracy) :
    (ExtendedMantissa.ofMantissaAndAccuracy m a).mantissa = m := by
  rcases a with _ | (_ | _ | _) <;> rfl

theorem mantissa_le_roundedMantissa (em : ExtendedMantissa) :
    em.mantissa ≤ em.roundedMantissa := by
  obtain ⟨m, r, s⟩ := em
  cases r <;> cases s
  · exact le_rfl
  · exact le_rfl
  · exact Nat.le_add_right _ _
  · exact Nat.le_add_right _ _

theorem roundedMantissa_le (em : ExtendedMantissa) :
    em.roundedMantissa ≤ em.mantissa + 1 := by
  obtain ⟨m, r, s⟩ := em
  have hmod : m % 2 ≤ 1 := by omega
  cases r <;> cases s
  · exact Nat.le_succ m
  · exact Nat.le_succ m
  · exact Nat.add_le_add_left hmod m
  · exact le_rfl

theorem targetExponent_eq (m : ℕ) (e : ℤ) :
    f.targetExponent (Float.Model.totalExponent m e) =
      max ((m.log2 : ℤ) + 1 + e - f.mantissaBits) f.minExponent := rfl

/-- **Where a shift to the places of the format leads.** -/
theorem shiftToTargetExponent_eq (m : ℕ) (e : ℤ) (a : Accuracy) :
    (shiftToTargetExponent f m e a).2 =
        max e (max ((m.log2 : ℤ) + 1 + e - f.mantissaBits) f.minExponent) ∧
      (shiftToTargetExponent f m e a).1.mantissa =
        m / 2 ^ ((shiftToTargetExponent f m e a).2 - e).toNat := by
  unfold shiftToTargetExponent shiftToExponent
  dsimp only
  rw [targetExponent_eq, shiftRight_mantissa, mantissa_ofMantissaAndAccuracy]
  generalize max ((m.log2 : ℤ) + 1 + e - f.mantissaBits) f.minExponent = t
  have hk : (e + ((t - e).toNat : ℤ) - e).toNat = (t - e).toNat := by omega
  exact ⟨by omega, by rw [hk]⟩

/-- The shift leaves an integer of the bits of the format. -/
theorem shiftToTargetExponent_lt (m : ℕ) (e : ℤ) (a : Accuracy) :
    (shiftToTargetExponent f m e a).1.mantissa < 2 ^ f.mantissaBits := by
  obtain ⟨hexp, hman⟩ := shiftToTargetExponent_eq f m e a
  rw [hman, Nat.div_lt_iff_lt_mul (by positivity), ← pow_add]
  exact Nat.lt_log2_self.trans_le (Nat.pow_le_pow_right two_pos (by omega))

/-- The shift keeps what is not below the bottom of the format. -/
theorem shiftToTargetExponent_pos {m : ℕ} (hm : m ≠ 0) {e : ℤ} (he : f.minExponent ≤ e + m.log2)
    (a : Accuracy) : 0 < (shiftToTargetExponent f m e a).1.mantissa := by
  obtain ⟨hexp, hman⟩ := shiftToTargetExponent_eq f m e a
  have hbits : 1 ≤ f.mantissaBits := mantissaBits_eq f ▸ Nat.le_add_left 1 _
  rw [hman]
  refine Nat.div_pos ?_ (by positivity)
  exact (Nat.pow_le_pow_right two_pos (by omega)).trans (Nat.log2_self_le hm)

/-- **A number that is not below the bottom of the format** is not rounded to zero. -/
theorem roundWithAccuracy_eq_finite (s : UnpackedFloat.Sign) {m : ℕ} (hm : m ≠ 0) {e : ℤ}
    (he : f.minExponent ≤ e + m.log2) (a : Accuracy) :
    ∃ n g, ∃ h : 0 < n, roundWithAccuracy f s m e a = .finite s n g h ∧ n < 2 ^ f.mantissaBits ∧
      f.minExponent ≤ g := by
  have hpos := shiftToTargetExponent_pos f hm he a
  have hexp := (shiftToTargetExponent_eq f m e a).1
  have hrounded := (hpos.trans_le (mantissa_le_roundedMantissa _)).ne'
  unfold roundWithAccuracy
  dsimp only
  generalize shiftToTargetExponent f m e a = r at *
  have hpos' := shiftToTargetExponent_pos f hrounded (e := r.2) (by omega) .exact
  have hexp' := (shiftToTargetExponent_eq f r.1.roundedMantissa r.2 .exact).1
  exact ⟨_, _, hpos', dif_neg hpos'.ne', shiftToTargetExponent_lt f _ _ _, by omega⟩

theorem log2_shiftLeft {m : ℕ} (hm : m ≠ 0) (k : ℕ) : (m <<< k).log2 = m.log2 + k := by
  rw [Nat.shiftLeft_eq, Nat.log2_eq_iff (by positivity)]
  have hlow := Nat.log2_self_le hm
  have hhigh := Nat.lt_log2_self (n := m)
  constructor
  · rw [pow_add]
    exact Nat.mul_le_mul_right _ hlow
  · rw [Nat.add_right_comm, pow_add]
    exact (Nat.mul_lt_mul_right (by positivity)).2 hhigh

/-- The same for a number that the format may have more places for. -/
theorem round_eq_finite (s : UnpackedFloat.Sign) {m : ℕ} (hm : m ≠ 0) {e : ℤ}
    (he : f.minExponent ≤ e + m.log2) :
    ∃ n g, ∃ h : 0 < n, UnpackedFloat.round f s m e = .finite s n g h ∧ n < 2 ^ f.mantissaBits ∧
      f.minExponent ≤ g := by
  unfold UnpackedFloat.round decreaseExponent
  dsimp only
  generalize (e - f.targetExponent (Float.Model.totalExponent m e)).toNat = k
  have hne : m <<< k ≠ 0 := by
    rw [Nat.shiftLeft_eq]
    positivity
  refine roundWithAccuracy_eq_finite f s hne ?_ .exact
  rw [log2_shiftLeft hm]
  omega

end Rounding

/-! ### Writing -/

section Writing

variable {f}

/-- **What is written by its fields** is read so. -/
theorem unpack_packComponents (s : UnpackedFloat.Sign) (e : BitVec f.exponentBits)
    (m : BitVec f.mantissaBitsWithoutImplicit) :
    unpack f (packComponents f s e m) =
      if e = -1#_ then (if m = 0#_ then .infinity s else .notANumber)
      else if e = 0#_ then
        if h : m = 0#_ then .zero s
        else .finite s m.toNat (e.toNat - (f.exponentBias + f.mantissaBitsWithoutImplicit) + 1)
          (by simpa [BitVec.toNat_pos, BitVec.pos_iff_ne_zero])
      else .finite s (1#1 ++ m).toNat (e.toNat - (f.exponentBias + f.mantissaBitsWithoutImplicit))
        (by simp) := by
  simp [unpack]

/-- What is written as a number is read as one. -/
theorem unpack_pack_ne_notANumber {u : UnpackedFloat} (hu : u ≠ .notANumber) :
    unpack f (pack f u) ≠ .notANumber := by
  have hzero : (0#f.exponentBits) ≠ -1#_ := by simp [BitVec.zero_eq_neg_one_iff, f.he.ne']
  cases u with
  | notANumber => exact absurd rfl hu
  | infinity s => simp [pack, packedInfinity, unpack_packComponents]
  | zero s => simp [pack]
  | finite s m e _ =>
    unfold pack
    dsimp only
    split_ifs with hpast
    · simp [packedInfinity, unpack_packComponents]
    · have hones : BitVec.ofNat f.exponentBits
          (e + f.exponentBias + f.mantissaBitsWithoutImplicit).toNat ≠ -1#_ := by
        generalize (e + f.exponentBias + f.mantissaBitsWithoutImplicit).toNat = k at *
        intro h
        have hk := congrArg BitVec.toNat h
        rw [BitVec.neg_one_eq_allOnes, BitVec.toNat_allOnes, BitVec.toNat_ofNat,
          Nat.mod_eq_of_lt (by omega)] at hk
        omega
      rw [unpack_packComponents, if_neg hones]
      split_ifs <;> simp
    · rw [unpack_packComponents, if_neg hzero, if_pos rfl]
      split_ifs <;> simp

/-- **A number of the places of the format** is not written as zero. -/
theorem unpack_pack_finite (s : UnpackedFloat.Sign) {m : ℕ} {e : ℤ} (h : 0 < m)
    (hm : m < 2 ^ f.mantissaBits) (he : f.minExponent ≤ e) :
    unpack f (pack f (.finite s m e h)) = .infinity s ∨
      ∃ n g, ∃ hn : 0 < n, unpack f (pack f (.finite s m e h)) = .finite s n g hn := by
  have hne := unpack_pack_ne_notANumber (f := f) (u := .finite s m e h) (by simp)
  rw [minExponent_eq] at he
  unfold pack at hne ⊢
  dsimp only at hne ⊢
  split_ifs with hpast hnormal
  · simp [packedInfinity, unpack_packComponents]
  · rw [if_neg hpast, if_pos hnormal] at hne
    have hexp : BitVec.ofNat f.exponentBits
        (e + f.exponentBias + f.mantissaBitsWithoutImplicit).toNat ≠ 0#_ := by
      have hk : 1 ≤ (e + f.exponentBias + f.mantissaBitsWithoutImplicit).toNat := by omega
      generalize (e + f.exponentBias + f.mantissaBitsWithoutImplicit).toNat = k at *
      intro h0
      have hk0 := congrArg BitVec.toNat h0
      rw [BitVec.toNat_ofNat, BitVec.toNat_ofNat, Nat.zero_mod, Nat.mod_eq_of_lt (by omega)] at hk0
      omega
    rw [unpack_packComponents, if_neg hexp] at hne ⊢
    split_ifs at hne ⊢ with hones hman
    · exact .inl rfl
    · exact absurd rfl hne
    · exact .inr ⟨_, _, by simp, rfl⟩
  · have hman : BitVec.ofNat f.mantissaBitsWithoutImplicit m ≠ 0#_ := by
      intro h0
      have hmod : m % 2 ^ f.mantissaBitsWithoutImplicit = 0 := by
        simpa using congrArg BitVec.toNat h0
      have hle : 2 ^ f.mantissaBitsWithoutImplicit ≤ m :=
        Nat.le_of_dvd h (Nat.dvd_of_mod_eq_zero hmod)
      have hlog := (Nat.le_log2 h.ne').2 hle
      have hlog' := (Nat.log2_lt h.ne').2 hm
      rw [mantissaBits_eq] at hlog' hnormal
      omega
    have hzero : (0#f.exponentBits) ≠ -1#_ := by simp [BitVec.zero_eq_neg_one_iff, f.he.ne']
    have hpos : 0 < (BitVec.ofNat f.mantissaBitsWithoutImplicit m).toNat :=
      Nat.pos_of_ne_zero fun h0 => hman (BitVec.eq_of_toNat_eq (by simpa using h0))
    rw [unpack_packComponents, if_neg hzero, if_pos rfl, dif_neg hman]
    exact .inr ⟨_, _, hpos, rfl⟩

end Writing

/-! ### What is added to one -/

section Sums

/-- **At most one**, and a number. -/
def IsUpToOne : UnpackedFloat → Prop
  | .notANumber | .infinity .positive => False
  | .infinity .negative | .zero _ | .finite .negative _ _ _ => True
  | .finite .positive m e _ =>
    e ≤ -f.mantissaBits ∨ e = -f.mantissaBitsWithoutImplicit ∧
      m = 2 ^ f.mantissaBitsWithoutImplicit

/-- The number one. -/
def one : UnpackedFloat :=
  .finite .positive (2 ^ f.mantissaBitsWithoutImplicit) (-f.mantissaBitsWithoutImplicit)
    (by positivity)

variable {f}

theorem zero_le_place_one : toLex (0, toLex (0, 0)) ≤ place (one f) :=
  zero_le_place (u := one f) rfl

theorem three_le_exponentBias (hf : 3 ≤ f.exponentBits) : 3 ≤ f.exponentBias := by
  have hpow : 2 ^ 3 ≤ 2 ^ f.exponentBits := Nat.pow_le_pow_right two_pos hf
  rw [two_pow_exponentBits] at hpow
  omega

/-- The bottom of a format is below the last place of one. -/
theorem minExponent_le (hf : 3 ≤ f.exponentBits) : f.minExponent ≤ -f.mantissaBits := by
  have hbias := three_le_exponentBias hf
  rw [minExponent_eq, mantissaBits_eq]
  omega

theorem append_toNat {k : ℕ} (m : BitVec k) : (1#1 ++ m).toNat = 2 ^ k + m.toNat := by
  have h := Nat.two_pow_add_eq_or_of_lt m.isLt 1
  rw [Nat.mul_one] at h
  rw [h, BitVec.toNat_append, BitVec.toNat_ofNat, Nat.shiftLeft_eq, Nat.pow_one, Nat.one_mod,
    Nat.one_mul]

/-- **What is at most one** is written so. -/
theorem place_pack_le_one (hf : 3 ≤ f.exponentBits) {u : UnpackedFloat} (h : IsUpToOne f u) :
    place (unpack f (pack f u)) ≤ place (one f) := by
  cases u with
  | notANumber => exact h.elim
  | infinity s =>
    cases s with
    | positive => exact h.elim
    | negative =>
      have hsign : BearsSign .negative (unpack f (pack f (.infinity .negative))) :=
        bearsSign_pack rfl
      exact (place_le_zero hsign).trans zero_le_place_one
  | zero s =>
    have hzero : unpack f (pack f (.zero s)) = .zero s := unpack_packedZero
    rw [hzero]
    exact zero_le_place_one
  | finite s m e hm =>
    cases s with
    | negative =>
      have hsign : BearsSign .negative (unpack f (pack f (.finite .negative m e hm))) :=
        bearsSign_pack rfl
      exact (place_le_zero hsign).trans zero_le_place_one
    | positive =>
      have hbias := three_le_exponentBias hf
      have hcap := two_pow_exponentBits f
      have he : e ≤ -f.mantissaBitsWithoutImplicit ∧ (e = -f.mantissaBitsWithoutImplicit →
          m = 2 ^ f.mantissaBitsWithoutImplicit) := by
        have hbits := mantissaBits_eq f
        simp only [IsUpToOne] at h
        omega
      have hplace (k : BitVec f.exponentBits) (hk : k.toNat =
          (e + f.exponentBias + f.mantissaBitsWithoutImplicit).toNat ∨ k = 0#_) :
          place (unpack f (packComponents f .positive k (BitVec.ofNat _ m))) ≤ place (one f) := by
        have hle : k.toNat ≤ f.exponentBias := by
          rcases hk with hk | rfl
          · omega
          · simp
        have hones : k ≠ -1#_ := by
          rintro rfl
          rw [BitVec.neg_one_eq_allOnes, BitVec.toNat_allOnes] at hle
          omega
        rw [unpack_packComponents, if_neg hones]
        split_ifs with hzero hman
        · exact zero_le_place_one
        · have hk0 : k.toNat = 0 := by rw [hzero, BitVec.toNat_ofNat, Nat.zero_mod]
          simp only [place, one, Prod.Lex.toLex_le_toLex, true_and, hk0]
          omega
        · have hpos : k.toNat ≠ 0 := fun h0 => hzero (BitVec.eq_of_toNat_eq (by simpa using h0))
          have hk' := hk.resolve_right hzero
          simp only [place, one, Prod.Lex.toLex_le_toLex, true_and, append_toNat,
            BitVec.toNat_ofNat]
          rcases he.1.lt_or_eq with hlt | heq
          · omega
          · rw [he.2 heq, Nat.mod_self]
            push_cast
            omega
      unfold pack
      dsimp only
      split_ifs with hpast hnormal
      · omega
      · refine hplace _ (.inl ?_)
        rw [BitVec.toNat_ofNat, Nat.mod_eq_of_lt (by omega)]
      · exact hplace _ (.inr rfl)

/-- **A rounding from below one** does not lead beyond it. -/
theorem roundWithAccuracy_isUpToOne (hf : 3 ≤ f.exponentBits) {m : ℕ} {e : ℤ}
    (he : e ≤ -f.mantissaBits) (hm : (m.log2 : ℤ) + 1 + e ≤ 0) (a : Accuracy) :
    IsUpToOne f (roundWithAccuracy f .positive m e a) := by
  have hbottom := minExponent_le hf
  have hbits := mantissaBits_eq f
  have hfirst := (shiftToTargetExponent_eq f m e a).1
  have hlt := shiftToTargetExponent_lt f m e a
  have hle := roundedMantissa_le (shiftToTargetExponent f m e a).1
  unfold roundWithAccuracy
  dsimp only
  generalize shiftToTargetExponent f m e a = r at *
  obtain ⟨hsecond, hman⟩ := shiftToTargetExponent_eq f r.1.roundedMantissa r.2 .exact
  split_ifs with h0
  · trivial
  · change _ ≤ _ ∨ _ = _ ∧ _ = _
    rcases (show r.1.roundedMantissa ≤ 2 ^ f.mantissaBits by omega).lt_or_eq with hr | hr
    · have hlog : r.1.roundedMantissa.log2 < f.mantissaBits := by
        by_cases hzero : r.1.roundedMantissa = 0
        · rw [hzero, Nat.log2_zero]
          omega
        · exact (Nat.log2_lt hzero).2 hr
      exact .inl (by omega)
    -- The last place carries into a new one, and the shift takes the place away again.
    · have hlog : r.1.roundedMantissa.log2 = f.mantissaBits := by rw [hr]; exact Nat.log2_two_pow
      rw [hlog] at hsecond
      rcases (show r.2 ≤ -f.mantissaBits by omega).lt_or_eq with hlow | hlow
      · exact .inl (by omega)
      · have htop : (shiftToTargetExponent f r.1.roundedMantissa r.2 .exact).2 =
            -f.mantissaBitsWithoutImplicit := by omega
        have hone : (-(f.mantissaBitsWithoutImplicit : ℤ) - r.2).toNat = 1 := by omega
        refine .inr ⟨htop, ?_⟩
        rw [hman, htop, hone, hr, hbits, pow_succ]
        exact Nat.mul_div_cancel _ two_pos

/-- A number with a sign is at most one. -/
theorem isUpToOne_of_bearsSign {u : UnpackedFloat} (h : BearsSign .negative u)
    (hu : u ≠ .notANumber) : IsUpToOne f u := by
  cases u with
  | notANumber => exact absurd rfl hu
  | infinity s | finite s m e _ =>
    obtain rfl : s = .negative := h
    trivial
  | zero s => trivial

/-- **A difference below one** is rounded to one at most. -/
theorem normalize_isUpToOne (hf : 3 ≤ f.exponentBits) {m : ℤ} {e : ℤ}
    (hm : m < 2 ^ (-e).toNat) (s : UnpackedFloat.Sign) :
    IsUpToOne f (UnpackedFloat.normalize f m e s) := by
  unfold UnpackedFloat.normalize
  split
  · refine isUpToOne_of_bearsSign (round_bearsSign f _ _ _) ?_
    unfold UnpackedFloat.round roundWithAccuracy
    dsimp only
    split_ifs <;> simp
  · trivial
  · next hpos =>
    have h0 : 0 < m := compare_gt_iff_gt.1 hpos
    have hne : m.toNat ≠ 0 := by omega
    have hlog : (m.toNat.log2 : ℤ) + 1 + e ≤ 0 := by
      have hlt : m.toNat < 2 ^ (-e).toNat := by
        have hcast : ((2 ^ (-e).toNat : ℕ) : ℤ) = 2 ^ (-e).toNat := by push_cast; rfl
        omega
      have := (Nat.log2_lt hne).2 hlt
      omega
    have hbottom := minExponent_le hf
    unfold UnpackedFloat.round decreaseExponent
    dsimp only
    rw [targetExponent_eq]
    refine roundWithAccuracy_isUpToOne hf (by omega) ?_ _
    rw [log2_shiftLeft hne]
    omega

/-- A number that is at most zero takes something from one, or leaves it. -/
theorem one_add_isUpToOne (hf : 3 ≤ f.exponentBits) {u : UnpackedFloat} (hu : u ≠ .notANumber)
    (h : place u ≤ toLex (0, toLex (0, 0))) : IsUpToOne f (UnpackedFloat.add f (one f) u) := by
  cases u with
  | notANumber => exact absurd rfl hu
  | zero s => exact .inr ⟨rfl, rfl⟩
  | infinity s =>
    cases s with
    | positive => exact absurd h (by decide)
    | negative => trivial
  | finite s m e hm =>
    cases s with
    | positive => simp [place, Prod.Lex.toLex_le_toLex] at h
    | negative =>
      refine normalize_isUpToOne hf ?_ _
      -- What is taken from one is a positive integer in the same last place.
      generalize hw : f.mantissaBitsWithoutImplicit = w
      have hone : 2 ^ w <<< (-(w : ℤ) - min (-(w : ℤ)) e).toNat = 2 ^ (-min (-(w : ℤ)) e).toNat := by
        rw [Nat.shiftLeft_eq, ← pow_add]
        congr 1
        omega
      have hpos : 0 < m <<< (e - min (-(w : ℤ)) e).toNat := by
        rw [Nat.shiftLeft_eq]
        positivity
      rw [hone]
      generalize m <<< (e - min (-(w : ℤ)) e).toNat = n at *
      simp only [Sign.apply]
      push_cast
      omega

/-- **What is at most zero adds nothing to one.** -/
theorem one_add_le_one (hf : 3 ≤ f.exponentBits) {u : UnpackedFloat} (hu : u ≠ .notANumber)
    (h : place u ≤ toLex (0, toLex (0, 0))) :
    (unpack f (pack f (UnpackedFloat.add f (one f) u))).le (one f) = true := by
  have hsum := one_add_isUpToOne hf hu h
  have hnum : UnpackedFloat.add f (one f) u ≠ .notANumber := by
    intro hnan
    rw [hnan] at hsum
    exact hsum
  exact le_iff.2 ⟨⟨unpack_pack_ne_notANumber hnum, by simp [one]⟩, place_pack_le_one hf hsum⟩

end Sums

end LeastSquares.Unpacked
