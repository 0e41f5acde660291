import LeastSquares.Proofs.Doubles

/-!
# Numbers of any precision, unpacked

Two numbers are added, multiplied, divided and compared as doubles if both are, and otherwise as
numbers of extended precision. Either way the operation is one on unpacked numbers, in one format or
the other. So what holds of the operation in every format, and is kept where a number is taken into
another format and written there, holds of the numbers.

* `Kept`: **a property that formats keep**: a sign, or being no number.
* `Number.beside`: how a number is taken beside another, and `Number.lt_eq`, `Number.le_eq`,
  `Number.eq_eq`: **the comparisons.**
* `Number.lift`, `Number.lift_kept`: **the operations.**
-/

namespace LeastSquares

open Float.Model (UnpackedFloat)
open Unpacked (place BearsSign IsUnsigned)

/-- **A property that formats keep**: where a number is written and read, and where it is rounded. -/
structure Kept (Q : UnpackedFloat → Prop) : Prop where
  pack (f : Float.Model.Format) {u : UnpackedFloat} : Q u →
    Q (UnpackedFloat.unpack f (UnpackedFloat.pack f u))
  round (f : Float.Model.Format) {s : UnpackedFloat.Sign} {m : ℕ} {e : ℤ} {h : 0 < m} :
    Q (.finite s m e h) → Q (UnpackedFloat.round f s m e)

namespace Kept

theorem bearsSign (s : UnpackedFloat.Sign) : Kept (BearsSign s) where
  pack f _ h := Unpacked.bearsSign_pack h
  round f s' m e _ h := by
    obtain rfl : s' = s := h
    exact Unpacked.round_bearsSign f _ m e

theorem notANumber : Kept (· = .notANumber) where
  pack f u h := by
    subst h
    exact UnpackedFloat.unpack_packedNaN
  round f _ _ _ _ h := by cases h

theorem trivial : Kept fun _ => True where
  pack _ _ _ := .intro
  round _ _ _ _ _ _ := .intro

end Kept

namespace Wide

variable {u : UnpackedFloat} {Q : UnpackedFloat → Prop}

theorem unpack_pack (u : UnpackedFloat) :
    (pack u).unpack = UnpackedFloat.unpack format (UnpackedFloat.pack format u) := rfl

theorem nearest_kept (hQ : Kept Q) (h : Q u) : Q (nearest u).unpack := by
  cases u with
  | finite s m e _ => exact hQ.pack format (hQ.round format h)
  | notANumber | infinity s | zero s => exact hQ.pack format h

theorem unpack_nearest_zero (s : UnpackedFloat.Sign) : (nearest (.zero s)).unpack = .zero s :=
  UnpackedFloat.unpack_packedZero

theorem nearest_ne_notANumber (h : u ≠ .notANumber) : (nearest u).unpack ≠ .notANumber := by
  cases u with
  | notANumber => exact absurd rfl h
  | infinity s | zero s => exact Unpacked.unpack_pack_ne_notANumber h
  | finite s m e _ =>
    refine Unpacked.unpack_pack_ne_notANumber ?_
    unfold UnpackedFloat.round UnpackedFloat.roundWithAccuracy
    dsimp only
    split_ifs <;> simp

/-- **A positive double** does not vanish among the numbers of extended precision. -/
theorem place_le_zero_of_ofDouble {x : Float}
    (h : place (ofDouble x).unpack ≤ toLex (0, toLex (0, 0))) :
    place x.toModel.unpack ≤ toLex (0, toLex (0, 0)) := by
  unfold ofDouble at h
  cases hx : x.toModel.unpack with
  | notANumber | zero s => exact le_rfl
  | infinity s =>
    cases s with
    | negative => decide
    | positive =>
      rw [hx] at h
      exact absurd h (by decide +kernel)
  | finite s m e hm =>
    cases s with
    | negative => exact Unpacked.place_le_zero rfl
    | positive =>
      have hbottom := (Unpacked.bounds_of_unpack hx).2
      have hle : format.minExponent ≤ Float.Model.Format.binary64.minExponent := by decide
      obtain ⟨n, g, hn, hround, hlt, hg⟩ :=
        Unpacked.round_eq_finite format .positive hm.ne' (e := e) (by omega)
      rw [hx, nearest, hround, unpack_pack] at h
      rcases Unpacked.unpack_pack_finite .positive hn hlt hg with hw | ⟨k, j, hk, hw⟩
      · rw [hw] at h
        exact absurd h (by decide)
      · rw [hw] at h
        simp [place, Prod.Lex.toLex_le_toLex] at h

end Wide

namespace Number

variable {a b : Number} {Q R S : UnpackedFloat → Prop}

/-- What a number stands for. -/
def unpack : Number → UnpackedFloat
  | double x => x.toModel.unpack
  | extended x => x.unpack

theorem isNaN_iff : a.isNaN = true ↔ a.unpack = .notANumber := by
  cases a <;> exact UnpackedFloat.isNaN_iff

theorem toWide_kept (hQ : Kept Q) (h : Q a.unpack) : Q a.toWide.unpack := by
  cases a with
  | double x => exact Wide.nearest_kept hQ h
  | extended x => exact h

/-! ### Comparisons -/

/-- How a number is taken beside another: as a double if both are, and otherwise as one of extended
precision. -/
def beside : Number → Number → UnpackedFloat
  | double x, double _ => x.toModel.unpack
  | a, _ => a.toWide.unpack

theorem beside_kept (hQ : Kept Q) (h : Q a.unpack) : Q (a.beside b) := by
  cases a with
  | extended x => exact h
  | double x => cases b with
    | double y => exact h
    | extended y => exact toWide_kept (a := .double x) hQ h

theorem lt_eq : a.lt b = (a.beside b).lt (b.beside a) := by
  cases a with
  | extended x => cases b <;> rfl
  | double x => cases b with
    | double y => exact Bool.eq_iff_iff.2 (decide_eq_true_iff.trans Binary64.lt_iff_unpack)
    | extended y => rfl

theorem le_eq : a.le b = (a.beside b).le (b.beside a) := by
  cases a with
  | extended x => cases b <;> rfl
  | double x => cases b with
    | double y => exact Bool.eq_iff_iff.2 (decide_eq_true_iff.trans Binary64.le_iff_unpack)
    | extended y => rfl

theorem eq_eq : a.eq b = (a.beside b).beq (b.beside a) := by
  cases a <;> cases b <;> rfl

/-- A zero is a zero beside every number. -/
theorem zero_beside {s : UnpackedFloat.Sign} (h : a.unpack = .zero s) : a.beside b = .zero s := by
  cases a with
  | extended x => exact h
  | double x => cases b with
    | double y => exact h
    | extended y =>
      change (Wide.nearest x.toModel.unpack).unpack = _
      rw [show x.toModel.unpack = .zero s from h, Wide.unpack_nearest_zero]

theorem beside_double (a : Number) (y : Float) : a.beside (.double y) = a.unpack := by
  cases a <;> rfl

/-- **The zeros** are what equals zero. -/
theorem eq_zero_iff : a.eq (.double (Float.ofNat 0)) = true ↔ ∃ s, a.unpack = .zero s := by
  have hzero : (double (Float.ofNat 0)).beside a = .zero .positive := zero_beside rfl
  rw [eq_eq, hzero, beside_double, UnpackedFloat.beq_iff_ne_notANumber_and_eq]
  constructor
  · rintro ⟨-, -, h | ⟨-, h⟩ | ⟨h, -⟩⟩
    · exact ⟨_, h⟩
    · cases h
    · exact ⟨_, h⟩
  · rintro ⟨s, h⟩
    cases s <;> simp [h]

theorem infinity_beside (a : Number) :
    (double Binary64.infinity).beside a = .infinity .positive := by
  cases a <;> rfl

/-! ### Operations -/

/-- An operation on unpacked numbers, in the format that two numbers share. Sums, products and
quotients are such operations. -/
def lift (op : Float.Model.Format → UnpackedFloat → UnpackedFloat → UnpackedFloat) :
    Number → Number → Number :=
  combine (fun x y => .ofModel (.pack (op .binary64 x.toModel.unpack y.toModel.unpack)))
    fun x y => .pack (op Wide.format x.unpack y.unpack)

/-- **What an operation makes of two properties**, it makes of them between numbers. -/
theorem lift_kept {op : Float.Model.Format → UnpackedFloat → UnpackedFloat → UnpackedFloat}
    (hop : ∀ f u v, Q u → R v → S (op f u v)) (hQ : Kept Q) (hR : Kept R) (hS : Kept S)
    (ha : Q a.unpack) (hb : R b.unpack) : S (lift op a b).unpack := by
  cases a with
  | extended x => exact hS.pack _ (hop _ _ _ ha (toWide_kept hR hb))
  | double x => cases b with
    | double y => exact hS.pack _ (hop _ _ _ ha hb)
    | extended y => exact hS.pack _ (hop _ _ _ (toWide_kept (a := .double x) hQ ha) hb)

/-- An operation that passes on what is no number does so between numbers. -/
theorem lift_isNaN {op : Float.Model.Format → UnpackedFloat → UnpackedFloat → UnpackedFloat}
    (hop : ∀ f {u v}, u = .notANumber ∨ v = .notANumber → op f u v = .notANumber)
    (h : a.isNaN = true ∨ b.isNaN = true) : (lift op a b).isNaN = true := by
  rw [isNaN_iff, isNaN_iff] at *
  rcases h with h | h
  · exact lift_kept (R := fun _ => True) (fun f u v hu _ => hop f (.inl hu)) .notANumber .trivial
      .notANumber h .intro
  · exact lift_kept (Q := fun _ => True) (fun f u v _ hv => hop f (.inr hv)) .trivial .notANumber
      .notANumber .intro h

end Number

end LeastSquares
