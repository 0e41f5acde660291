import LeastSquares.Proofs.Failures
import LeastSquares.Proofs.Loosening
import LeastSquares.Proofs.SignedFormat

/-!
# Scalars that never fail

The numbers of a solve are of two kinds. Lengths of pairs, roots and constants are checked, and
whatever comes from a norm is unchecked. A quotient fails only if both of its numbers are checked
and the divisor is zero, a square only if it is checked, a root only below zero. None of this
happens to the recurrences, whatever values the norms have.

Most quotients are safe because a part of them comes from a norm, or because their divisor has been
compared with zero. The others depend on what came before. The rotation of a pair of zeros is made
of constants, so it makes the next `thetabar` a checked number, over a divisor that vanishes. But a
length of zero also makes the condition number infinite, and a rule ends the solve in the same
iteration: there is no next one. And if the condition number is finite, it is not zero, since the
largest length is one or more from the first iteration on.

* `Returns`: **a computation that returns**, and what is known of its result.
* `Scalar.IsChecked`, `Scalar.IsNonneg`: what the operations make of kinds and signs.
* `PlaneRotation.ofPair_turns`: **a rotation never fails.**
* `Rotation.Safe`, `ResidualEstimate.Safe`, `NormEstimate.Safe`: **what the three states rely on**,
  and how an iteration keeps it.
* `StoppingTests.check_ne_ongoing`: no solve goes on from an infinite condition number.
* `Recurrences.Safe.advance`, `Recurrences.Continues.safe`: **one iteration, and all of them.**
-/

namespace LeastSquares

open FloatingPoint (IsDouble)

/-- **A computation that returns**, and what is known of its result. -/
def Returns {ε α : Type} (x : Except ε α) (Q : α → Prop) : Prop := ∃ a, x = .ok a ∧ Q a

namespace Returns

variable {ε α β : Type} {Q R : α → Prop}

theorem ok {a : α} (h : Q a) : Returns (.ok a : Except ε α) Q := ⟨a, rfl, h⟩

theorem exists_ok {x : Except ε α} (hx : Returns x Q) : ∃ a, x = .ok a := by
  obtain ⟨a, rfl, -⟩ := hx
  exact ⟨a, rfl⟩

theorem mono {x : Except ε α} (hx : Returns x Q) (h : ∀ a, Q a → R a) : Returns x R := by
  obtain ⟨a, rfl, ha⟩ := hx
  exact .ok (h a ha)

theorem bind {T : β → Prop} {x : Except ε α} {f : α → Except ε β} (hx : Returns x Q)
    (hf : ∀ a, Q a → Returns (f a) T) : Returns (x >>= f) T := by
  obtain ⟨a, rfl, ha⟩ := hx
  exact hf a ha

theorem map {T : β → Prop} {x : Except ε α} {f : α → β} (hx : Returns x Q)
    (hf : ∀ a, Q a → T (f a)) : Returns (x.map f) T := by
  obtain ⟨a, rfl, ha⟩ := hx
  exact .ok (hf a ha)

end Returns

theorem Kind.join_eq_checked {k l : Kind} : k.join l = .checked ↔ k = .checked ∧ l = .checked := by
  cases k <;> cases l <;> simp [Kind.join]

variable {F : Type} [FloatingPoint F]

namespace Scalar

variable {a b c : Scalar F}

/-- Checked numbers are those whose operations may fail. -/
def IsChecked (a : Scalar F) : Prop := a.kind = .checked

theorem isChecked_hypot : (Arithmetic.hypot a b).IsChecked := rfl

theorem isChecked_combine (op : F → F → F) :
    (combine op a b).IsChecked ↔ a.IsChecked ∧ b.IsChecked := Kind.join_eq_checked

theorem isChecked_sub : (a - b).IsChecked ↔ a.IsChecked ∧ b.IsChecked := isChecked_combine _

theorem isChecked_mul : (a * b).IsChecked ↔ a.IsChecked ∧ b.IsChecked := isChecked_combine _

/-- **A plain number**: a checked one that is a double. Lengths, constants and what comes from them
are plain. -/
structure IsPlain (a : Scalar F) : Prop where
  checked : a.IsChecked
  isDouble : IsDouble a.value

/-- Plain numbers are combined without any rounding but to a double. -/
theorem combine_of_plain (op : F → F → F) (ha : a.IsPlain) (hb : b.IsPlain) :
    combine op a b = checked (FloatingPoint.round .double (op a.value b.value)) := by
  have hk : a.kind.join b.kind = .checked := Kind.join_eq_checked.2 ⟨ha.checked, hb.checked⟩
  have ha' : fit .checked a.value = a.value := ha.isDouble
  have hb' : fit .checked b.value = b.value := hb.isDouble
  simp only [combine, hk, ha', hb']
  rfl

/-- **A quotient fails only if both numbers are checked and the divisor is zero.** -/
theorem div_returns (h : ¬ (a.IsChecked ∧ b.IsChecked) ∨ b.isZero = false) :
    Returns (Arithmetic.div a b) (· = combine FloatingPoint.div a b) := by
  refine ⟨_, if_neg ?_, rfl⟩
  rw [Bool.and_eq_true, decide_eq_true_eq, Kind.join_eq_checked]
  rintro ⟨hk, hz⟩
  rcases h with h | h
  · exact h hk
  · rw [hz] at h
    cases h

/-- A quotient of which a part is unchecked is so itself. -/
theorem div_unchecked (h : ¬ (a.IsChecked ∧ b.IsChecked)) :
    Returns (Arithmetic.div a b) (¬ ·.IsChecked) := by
  refine (div_returns (.inl h)).mono ?_
  rintro _ rfl hk
  exact h ((isChecked_combine _).1 hk)

theorem use_returns (h : a.kind ≠ .oversized) : Returns (Arithmetic.use a) (· = a) :=
  ⟨a, if_neg h, rfl⟩

end Scalar

open Scalar

theorem larger_isPlain {a b : Scalar F} (ha : a.IsPlain) (hb : b.IsPlain) :
    (larger a b).IsPlain := by
  unfold larger
  split_ifs
  exacts [hb, ha]

variable [SignedFormat F]

namespace Scalar

variable {a b c : Scalar F}

/-- Not negative, or no number. -/
def IsNonneg (a : Scalar F) : Prop := SignedFormat.IsNonneg a.value

theorem isNonneg_zero : (0 : Scalar F).IsNonneg := SignedFormat.ofNat 0

theorem isNonneg_one : (1 : Scalar F).IsNonneg := SignedFormat.ofNat 1

theorem isNonneg_hypot : (Arithmetic.hypot a b).IsNonneg := SignedFormat.hypot _ _

theorem isNonneg_fit (k : Kind) {x : F} (h : SignedFormat.IsNonneg x) :
    SignedFormat.IsNonneg (fit k x) :=
  SignedFormat.round _ h

theorem isNonneg_add (ha : a.IsNonneg) (hb : b.IsNonneg) : (a + b).IsNonneg :=
  isNonneg_fit _ (SignedFormat.add (isNonneg_fit _ ha) (isNonneg_fit _ hb))

theorem isNonneg_mul (ha : a.IsNonneg) (hb : b.IsNonneg) : (a * b).IsNonneg :=
  isNonneg_fit _ (SignedFormat.mul (isNonneg_fit _ ha) (isNonneg_fit _ hb))

theorem isNonneg_quotient (ha : a.IsNonneg) (hb : b.IsNonneg) :
    (combine FloatingPoint.div a b).IsNonneg :=
  isNonneg_fit _ (SignedFormat.div (isNonneg_fit _ ha) (isNonneg_fit _ hb))

/-- **An unchecked square does not fail**, and is not negative. -/
theorem square_returns (h : ¬ a.IsChecked) : Returns (Arithmetic.square a) IsNonneg := by
  refine ⟨combine FloatingPoint.mul a a, if_neg ?_, isNonneg_fit _ (SignedFormat.mul_self _)⟩
  simp only [Bool.and_eq_true, decide_eq_true_eq]
  exact fun h' => h h'.1.1

/-- **The root of what is not negative does not fail.** -/
theorem sqrt_returns (h : a.IsNonneg) : Returns (Arithmetic.sqrt a) IsChecked := by
  refine ⟨_, if_neg ?_, rfl⟩
  rw [SignedFormat.not_lt_zero (a := a.plain) (SignedFormat.round _ h)]
  exact Bool.false_ne_true

theorem isPlain_ofNat (n : ℕ) : (checked (FloatingPoint.ofNat n) : Scalar F).IsPlain :=
  ⟨rfl, SignedFormat.isDouble_ofNat n⟩

theorem isPlain_zero : (0 : Scalar F).IsPlain := isPlain_ofNat 0

theorem isPlain_one : (1 : Scalar F).IsPlain := isPlain_ofNat 1

theorem isPlain_hypot : (Arithmetic.hypot a b).IsPlain := ⟨rfl, SignedFormat.isDouble_hypot _ _⟩

/-- Checked numbers make a plain one. -/
theorem isPlain_combine (op : F → F → F) (ha : a.IsChecked) (hb : b.IsChecked) :
    (combine op a b).IsPlain := by
  have hk : a.kind.join b.kind = .checked := Kind.join_eq_checked.2 ⟨ha, hb⟩
  refine ⟨hk, ?_⟩
  simp only [combine, hk]
  exact SignedFormat.isDouble_round _

theorem isPlain_mul (ha : a.IsPlain) (hb : b.IsPlain) : (a * b).IsPlain :=
  isPlain_combine _ ha.checked hb.checked

/-- A law of the constants holds of them with their kinds. -/
theorem combine_ofNat {op : F → F → F} {m n k : ℕ}
    (h : op (FloatingPoint.ofNat m) (FloatingPoint.ofNat n) = FloatingPoint.ofNat k) :
    combine op (checked (FloatingPoint.ofNat m)) (checked (FloatingPoint.ofNat n)) =
      checked (FloatingPoint.ofNat k) := by
  have hk : FloatingPoint.round .double (FloatingPoint.ofNat k : F) = FloatingPoint.ofNat k :=
    SignedFormat.isDouble_ofNat k
  rw [combine_of_plain op (isPlain_ofNat m) (isPlain_ofNat n)]
  exact congrArg checked (h ▸ hk)

end Scalar

/-! ### Rotations -/

/-- **The rotation of a pair**, by what is known of the pair. -/
structure PlaneRotation.Turns (a b : Scalar F) (w : PlaneRotation (Scalar F)) : Prop where
  r_plain : w.r.IsPlain
  r_nonneg : w.r.IsNonneg
  c_plain : a.IsChecked → w.c.IsPlain
  c_nonneg : a.IsNonneg → w.c.IsNonneg
  r_ne_zero : a.IsPlain → a.isZero = false → w.r.isZero = false
  s_unchecked : a.IsPlain → a.isZero = false → ¬ b.IsChecked → ¬ w.s.IsChecked

/-- **A rotation never fails.** Its length is the divisor only if it is not zero. -/
theorem PlaneRotation.ofPair_turns (a b : Scalar F) : Returns (ofPair a b) (Turns a b) := by
  unfold ofPair
  by_cases hr : Arithmetic.eq (Arithmetic.hypot a b) 0 = true
  · rw [if_pos hr]
    have ha (h : a.IsPlain) : a.isZero ≠ false := by
      have hzero := (SignedFormat.eq_zero_of_hypot (SignedFormat.isDouble_round a.value)
        (SignedFormat.isDouble_round b.value) hr).1
      rw [h.isDouble] at hzero
      exact ne_false_of_eq_true hzero
    exact .ok
      { r_plain := isPlain_zero
        r_nonneg := isNonneg_zero
        c_plain := fun _ => isPlain_one
        c_nonneg := fun _ => isNonneg_one
        r_ne_zero := fun h hz => absurd hz (ha h)
        s_unchecked := fun h hz => absurd hz (ha h) }
  · rw [if_neg hr]
    have hz : (Arithmetic.hypot a b).isZero = false := Bool.not_eq_true _ ▸ hr
    refine (div_returns (.inr hz)).bind fun c hc => (div_returns (.inr hz)).bind fun s hs => ?_
    subst hc hs
    refine .ok ⟨isPlain_hypot, isNonneg_hypot, ?_, ?_, fun _ _ => hz, ?_⟩
    · exact fun ha => isPlain_combine _ ha isChecked_hypot
    · exact fun ha => isNonneg_quotient ha isNonneg_hypot
    · exact fun _ _ hb h => hb ((isChecked_combine _).1 h).1

/-- **What the rotations rely on**: the lengths come from pairs, and what is left of the right-hand
side comes from norms. -/
structure Rotation.Safe (q : Rotation (Scalar F)) : Prop where
  rhobar : q.rhobar.IsPlain
  rhobar_nonneg : q.rhobar.IsNonneg
  cbar : q.cbar.IsPlain
  cbar_nonneg : q.cbar.IsNonneg
  zetabar : ¬ q.zetabar.IsChecked

/-- **What one application of the rotations leaves behind.** -/
structure Rotation.Advanced (q q' : Rotation (Scalar F)) (t : RotationStep (Scalar F)) : Prop where
  safe : q'.Safe
  zeta : ¬ q'.zeta.IsChecked
  sbar : t.rhotemp.isZero = false → ¬ q'.sbar.IsChecked
  thetanew : ¬ t.thetanew.IsChecked
  rhotemp : t.rhotemp.IsPlain
  rhotemp_nonneg : t.rhotemp.IsNonneg
  thetabar : t.thetabar = q.sbar * q'.rho
  rhoold : t.rhoold = q.rho
  rhobarold : t.rhobarold = q.rhobar
  zetaold : t.zetaold = q.zeta

/-- **The rotations never fail.** -/
theorem Rotation.Safe.advance {q : Rotation (Scalar F)} {alpha beta damp : Scalar F} (hq : q.Safe)
    (ha : ¬ alpha.IsChecked) (hd : damp.kind ≠ .oversized) :
    Returns (q.advance alpha beta damp) fun w => q.Advanced w.1 w.2 := by
  unfold Rotation.advance
  refine (use_returns hd).bind fun _ _ => (PlaneRotation.ofPair_turns _ _).bind fun hat _ => ?_
  refine (PlaneRotation.ofPair_turns _ _).bind fun turn hturn => ?_
  refine (PlaneRotation.ofPair_turns _ _).bind fun bar hbar => ?_
  have hrhotemp : (q.cbar * turn.r).IsPlain := isPlain_mul hq.cbar hturn.r_plain
  have hrhotemp' : (q.cbar * turn.r).IsNonneg := isNonneg_mul hq.cbar_nonneg hturn.r_nonneg
  have hthetanew : ¬ (turn.s * alpha).IsChecked := fun h => ha (isChecked_mul.1 h).2
  have hsafe : (⟨turn.c * alpha, turn.r, bar.r, bar.c, bar.s, bar.c * q.zetabar,
      -bar.s * q.zetabar⟩ : Rotation (Scalar F)).Safe :=
    { rhobar := hbar.r_plain
      rhobar_nonneg := hbar.r_nonneg
      cbar := hbar.c_plain hrhotemp.checked
      cbar_nonneg := hbar.c_nonneg hrhotemp'
      zetabar := fun h => hq.zetabar (isChecked_mul.1 h).2 }
  exact .ok
    { safe := hsafe
      zeta := fun h => hq.zetabar (isChecked_mul.1 h).2
      sbar := fun h => hbar.s_unchecked hrhotemp h hthetanew
      thetanew := hthetanew
      rhotemp := hrhotemp
      rhotemp_nonneg := hrhotemp'
      thetabar := rfl
      rhoold := rfl
      rhobarold := rfl
      zetaold := rfl }

/-- **The quotients of the update of the solution** are all found. -/
structure RotationStep.Divides (t : RotationStep (Scalar F)) (q : Rotation (Scalar F)) : Prop where
  hbar : ∃ a, Arithmetic.div (-t.thetabar * q.rho) (t.rhoold * t.rhobarold) = .ok a
  x : ∃ a, Arithmetic.div q.zeta (q.rho * q.rhobar) = .ok a
  h : ∃ a, Arithmetic.div (-t.thetanew) q.rho = .ok a

/-- The first quotient is checked only before the first iteration, and its divisor is one then. -/
theorem Rotation.Advanced.divides {q q' : Rotation (Scalar F)} {t : RotationStep (Scalar F)}
    (h : q.Advanced q' t) (hq : ¬ q.sbar.IsChecked ∨ (q.rho * q.rhobar).isZero = false) :
    t.Divides q' := by
  have hthetanew : ¬ (-t.thetanew).IsChecked := h.thetanew
  refine ⟨?_, ?_, ?_⟩
  · rw [h.thetabar, h.rhoold, h.rhobarold]
    refine (div_returns (hq.imp_left fun hs hk => hs ?_)).exists_ok
    exact (isChecked_mul.1 (isChecked_mul.1 hk.1).1).1
  · exact (div_unchecked fun hk => h.zeta hk.1).exists_ok
  · exact (div_unchecked fun hk => hthetanew hk.1).exists_ok

/-! ### Estimates -/

/-- **What the estimate of the residual relies on.** -/
structure ResidualEstimate.Safe (e : ResidualEstimate (Scalar F)) (q : Rotation (Scalar F)) :
    Prop where
  betadd : ¬ e.betadd.IsChecked
  d : e.d.IsNonneg
  rhodold : ¬ q.zeta.IsChecked ∨ e.rhodold.IsPlain ∧ e.rhodold.isZero = false

/-- **The estimate of the residual never fails.** -/
theorem ResidualEstimate.Safe.advance {e : ResidualEstimate (Scalar F)}
    {q q' : Rotation (Scalar F)} {t : RotationStep (Scalar F)} (he : e.Safe q)
    (ht : q.Advanced q' t) : Returns (e.advance t q') fun w => w.1.Safe q' := by
  have hbetacheck : ¬ (-t.shat * e.betadd).IsChecked := fun h => he.betadd (isChecked_mul.1 h).2
  have hbetadd : ¬ (-t.s * (t.chat * e.betadd)).IsChecked := fun h =>
    he.betadd (isChecked_mul.1 (isChecked_mul.1 h).2).2
  unfold ResidualEstimate.advance
  refine (PlaneRotation.ofPair_turns _ _).bind fun tilde htilde => ?_
  have htau : ¬ ((t.zetaold - e.thetatilde * e.tautildeold).IsChecked ∧ tilde.r.IsChecked) ∨
      tilde.r.isZero = false := by
    rw [ht.zetaold]
    exact he.rhodold.imp (fun hz hk => hz (isChecked_sub.1 hk.1).1) fun h => htilde.r_ne_zero h.1 h.2
  refine (div_returns htau).bind fun tau _ => ?_
  refine (div_unchecked fun hk => ht.zeta (isChecked_sub.1 hk.1).1).bind fun taud htaud => ?_
  refine (square_returns hbetacheck).bind fun check hcheck => ?_
  have hd : (e.d + check).IsNonneg := isNonneg_add he.d hcheck
  refine (square_returns fun h => htaud (isChecked_sub.1 h).2).bind fun gap hgap => ?_
  refine (square_returns hbetadd).bind fun rest hrest => ?_
  refine (sqrt_returns (isNonneg_add (isNonneg_add hd hgap) hrest)).bind fun normr _ => ?_
  exact .ok ⟨hbetadd, hd, .inl ht.zeta⟩

/-- A length that may divide: it is plain and not negative, and never exceeds `10 ^ 100`. -/
structure Scalar.IsBounded (m : Scalar F) : Prop where
  plain : m.IsPlain
  nonneg : m.IsNonneg
  le_huge : Arithmetic.le m (Arithmetic.ofNat (Nat.pow 10 100)) = true

/-- **What the estimate of the condition number relies on**: its numerator is one or more from the
first iteration on, and its divisor is bounded. -/
structure NormEstimate.Safe (e : NormEstimate (Scalar F)) (q : Rotation (Scalar F)) : Prop where
  normA2 : e.normA2.IsNonneg
  maxrbar : e.maxrbar.IsPlain
  one_le : Arithmetic.le 1 (larger e.maxrbar q.rhobar) = true
  minrbar : e.minrbar.IsBounded

/-- What is known of a condition number that is not infinite. -/
def Extended.Usable (a : Extended (Scalar F)) : Prop := ∀ c, a = .finite c → c.isZero = false

theorem one_le_larger {a b : Scalar F} (ha : a.IsPlain) (hb : b.IsPlain)
    (h : Arithmetic.le 1 a = true) : Arithmetic.le 1 (larger a b) = true := by
  unfold larger
  split_ifs with hlt
  · exact SignedFormat.le_of_le_of_lt isPlain_one.isDouble ha.isDouble hb.isDouble h hlt
  · exact h

namespace Scalar.IsBounded

variable {a b m : Scalar F} (h : m.IsBounded)

include h

/-- The smaller one of a bounded length and of any length is bounded. -/
theorem smaller (hb : b.IsPlain) (hb' : b.IsNonneg) : (smaller m b).IsBounded := by
  unfold LeastSquares.smaller
  split_ifs with hlt
  · exact ⟨hb, hb', SignedFormat.le_of_lt_of_le hb.isDouble h.plain.isDouble
      (SignedFormat.isDouble_ofNat _) hlt h.le_huge⟩
  · exact h

/-- The smaller one of a length and of zero is zero. -/
theorem smaller_isZero (hb : b.IsPlain) (hzero : b.isZero = true) :
    (LeastSquares.smaller m b).isZero = true := by
  unfold LeastSquares.smaller
  split_ifs with hlt
  · exact hzero
  · by_contra hz
    exact hlt (SignedFormat.lt_of_eq_zero hb.isDouble h.plain.isDouble
      (SignedFormat.isDouble_ofNat _) hzero h.nonneg h.le_huge (Bool.not_eq_true _ ▸ hz))

/-- **A ratio of a length from one on** by a bounded one does not vanish. -/
theorem ratio_ne_zero (ha : a.IsPlain) (hone : Arithmetic.le 1 a = true)
    (hz : m.isZero = false) : (combine FloatingPoint.div a m).isZero = false := by
  rw [combine_of_plain _ ha h.plain]
  exact SignedFormat.div_ne_zero ha.isDouble h.plain.isDouble hone h.nonneg hz h.le_huge

end Scalar.IsBounded

/-- **The estimates of the norm and the condition number never fail.** If the rotations have come to
a length of zero, the condition number is infinite. -/
theorem NormEstimate.Safe.advance {e : NormEstimate (Scalar F)} {q q' : Rotation (Scalar F)}
    {t : RotationStep (Scalar F)} {alpha beta : Scalar F} (he : e.Safe q) (hq : q.Safe)
    (ht : q.Advanced q' t) (ha : ¬ alpha.IsChecked) (hb : ¬ beta.IsChecked) (n : Int) :
    Returns (e.advance alpha beta t n) fun w => w.1.Safe q' ∧ w.2.conda.Usable ∧
      (t.rhotemp.isZero = true → w.2.conda = .infinite) := by
  unfold NormEstimate.advance NormEstimate.advanceIf
  refine (square_returns hb).bind fun b2 hb2 => ?_
  have hnorm := isNonneg_add he.normA2 hb2
  refine (sqrt_returns hnorm).bind fun norma _ => (square_returns ha).bind fun a2 ha2 => ?_
  rw [ht.rhobarold]
  refine (Returns.ok (Q := fun _ => True) trivial).bind fun later _ => ?_
  have hleast : (if later then smaller e.minrbar q.rhobar else e.minrbar).IsBounded := by
    split_ifs
    exacts [he.minrbar.smaller hq.rhobar hq.rhobar_nonneg, he.minrbar]
  generalize (if later then smaller e.minrbar q.rhobar else e.minrbar) = m at hleast ⊢
  have hlargest := larger_isPlain he.maxrbar hq.rhobar
  have hsafe : (⟨e.normA2 + b2 + a2, larger e.maxrbar q.rhobar, m⟩ :
      NormEstimate (Scalar F)).Safe q' :=
    ⟨isNonneg_add hnorm ha2, hlargest, one_le_larger hlargest ht.safe.rhobar he.one_le, hleast⟩
  have hdivisor := hleast.smaller ht.rhotemp ht.rhotemp_nonneg
  by_cases hz : Arithmetic.eq (smaller m t.rhotemp) 0 = true
  · rw [if_pos hz]
    exact .ok ⟨hsafe, fun c hc => (by cases hc), fun _ => rfl⟩
  · rw [if_neg hz]
    have hz' : (smaller m t.rhotemp).isZero = false := Bool.not_eq_true _ ▸ hz
    refine ((div_returns (.inr hz')).map (T := fun a => a.Usable) ?_).bind fun conda hconda => ?_
    · rintro _ rfl c hc
      cases hc
      exact hdivisor.ratio_ne_zero (larger_isPlain hlargest ht.rhotemp)
        (one_le_larger hlargest ht.rhotemp he.one_le) hz'
    · exact .ok ⟨hsafe, hconda, fun hr => absurd (hleast.smaller_isZero ht.rhotemp hr) hz⟩

/-! ### Statistics -/

omit [SignedFormat F] in
/-- **The statistics never fail.** Where the condition number is infinite, its inverse vanishes. -/
theorem StoppingTests.compute_returns {normr normar norma normx normb atol btol : Scalar F}
    {conda : Extended (Scalar F)} (hnormar : ¬ normar.IsChecked) (hconda : conda.Usable)
    (hnormb : ¬ normb.IsChecked) (hatol : atol.kind ≠ .oversized)
    (hbtol : btol.kind ≠ .oversized) :
    Returns (compute normr normar norma conda normx normb atol btol) fun t =>
      conda = .infinite → t.test3 = 0 := by
  have hrest (test1 : Scalar F) (test2 : Extended (Scalar F)) (htest1 : ¬ test1.IsChecked) :
      Returns (do
        let test3 ← conda.reciprocal
        let t1 ← Arithmetic.div test1 (1 + (← Arithmetic.div (norma * normx) normb))
        let slack ← Arithmetic.div ((← Arithmetic.use atol) * norma * normx) normb
        pure (⟨test1, test2, test3, t1, (← Arithmetic.use btol) + slack⟩ :
          StoppingTests (Scalar F)))
        fun t => conda = .infinite → t.test3 = 0 := by
    have htest3 : Returns conda.reciprocal fun a => conda = .infinite → a = 0 := by
      cases conda with
      | finite c => exact (div_returns (.inr (hconda c rfl))).mono fun _ _ h => by cases h
      | infinite => exact .ok fun _ => rfl
    refine htest3.bind fun test3 htest3 => ?_
    refine (div_unchecked fun h => hnormb h.2).bind fun ratio _ => ?_
    refine (div_unchecked fun h => htest1 h.1).bind fun t1 _ => ?_
    refine (use_returns hatol).bind fun a _ => ?_
    refine (div_unchecked fun h => hnormb h.2).bind fun slack _ => ?_
    exact (use_returns hbtol).bind fun b _ => .ok htest3
  unfold compute
  refine (div_unchecked fun h => hnormb h.2).bind fun test1 htest1 => ?_
  split_ifs
  · have htest2 := (div_unchecked (b := norma * normr) fun h => hnormar h.1).map
      (f := Extended.finite) (T := fun _ => True) fun _ _ => trivial
    exact htest2.bind fun test2 _ => hrest test1 test2 htest1
  · exact (Returns.ok (Q := fun _ => True) trivial).bind fun test2 _ => hrest test1 test2 htest1

/-- **No solve goes on where the inverse of the condition number vanishes.** -/
theorem StoppingTests.check_ne_ongoing {t : StoppingTests (Scalar F)} (h : t.test3 = 0) (n m : Int)
    (atol ctol : Scalar F) : t.check n m atol ctol ≠ .ongoing := by
  have hsum : (1 + 0 : Scalar F) = 1 := combine_ofNat SignedFormat.one_add_zero
  have hle : Arithmetic.le (1 + t.test3) 1 = true := by
    rw [h, hsum]
    exact SignedFormat.one_le_one
  unfold check
  rw [if_pos hle]
  split_ifs <;> simp

/-! ### Iterations -/

/-- Tolerances none of which is an integer that no number of the format can hold. -/
structure Tolerances.Usable (P : Tolerances (Scalar F)) : Prop where
  damp : P.damp.kind ≠ .oversized
  atol : P.atol.kind ≠ .oversized
  btol : P.btol.kind ≠ .oversized
  ctol : P.ctol.kind ≠ .oversized

namespace Recurrences

/-- **What an iteration relies on.** -/
structure Safe (s : Recurrences (Scalar F)) : Prop where
  rotation : s.rotation.Safe
  residual : s.residual.Safe s.rotation
  norms : s.norms.Safe s.rotation
  sbar : ¬ s.rotation.sbar.IsChecked ∨ (s.rotation.rho * s.rotation.rhobar).isZero = false

variable {alpha beta normb : Scalar F} {s : Recurrences (Scalar F)} {P : Tolerances (Scalar F)}
  {e : Entries (Scalar F)}

/-- **The state before the first iteration**: only its norm estimate can fail. -/
theorem norms_returns (ha : ¬ alpha.IsChecked) (hb : ¬ beta.IsChecked) :
    Returns (NormEstimate.initial alpha) fun norms =>
      (⟨.initial alpha beta, .initial beta, norms⟩ : Recurrences (Scalar F)).Safe := by
  have hone : (1 : Scalar F).isZero = false := SignedFormat.ne_zero_of_pos SignedFormat.zero_lt_one
  have hlarger : larger (0 : Scalar F) 1 = 1 := if_pos SignedFormat.zero_lt_one
  have hproduct : (1 * 1 : Scalar F) = 1 := combine_ofNat SignedFormat.one_mul_one
  have hrho : (1 * 1 : Scalar F).isZero = false := by rw [hproduct, hone]
  have hrotation : (Rotation.initial alpha beta).Safe :=
    { rhobar := isPlain_one
      rhobar_nonneg := isNonneg_one
      cbar := isPlain_one
      cbar_nonneg := isNonneg_one
      zetabar := fun h => ha (isChecked_mul.1 h).1 }
  refine (square_returns ha).bind fun a2 ha2 => .ok ?_
  have hnorms : (⟨a2, 0, Arithmetic.ofNat (Nat.pow 10 100)⟩ : NormEstimate (Scalar F)).Safe
      (.initial alpha beta) :=
    { normA2 := ha2
      maxrbar := isPlain_zero
      one_le := by rw [Rotation.initial, hlarger]; exact SignedFormat.one_le_one
      minrbar :=
        { plain := isPlain_ofNat _
          nonneg := SignedFormat.ofNat _
          le_huge := SignedFormat.huge_le_huge } }
  exact ⟨hrotation, ⟨hb, isNonneg_zero, .inr ⟨isPlain_one, hone⟩⟩, hnorms, .inr hrho⟩

theorem initial_returns (ha : ¬ alpha.IsChecked) (hb : ¬ beta.IsChecked) :
    Returns (initial alpha beta) Safe :=
  (norms_returns ha hb).bind fun _ h => .ok h

/-- **What an iteration leaves behind**, if no rule ends it. Had the rotations come to a length of
zero, a rule would have. -/
theorem Safe.next {q : Rotation (Scalar F)} {t : RotationStep (Scalar F)}
    {r : ResidualEstimate (Scalar F)} {m : NormEstimate (Scalar F)}
    {w : StoppingTests (Scalar F)} {n maxiter : Int} {atol ctol : Scalar F}
    (ht : s.rotation.Advanced q t) (hr : r.Safe q) (hm : m.Safe q)
    (hw : t.rhotemp.isZero = true → w.test3 = 0) (hgo : w.check n maxiter atol ctol = .ongoing) :
    (⟨q, r, m⟩ : Recurrences (Scalar F)).Safe := by
  have hrhotemp : t.rhotemp.isZero = false := by
    by_contra hz
    exact StoppingTests.check_ne_ongoing (hw (Bool.not_eq_false _ ▸ hz)) _ _ _ _ hgo
  exact ⟨ht.safe, hr, hm, .inl (ht.sbar hrhotemp)⟩

/-- **An iteration never fails**, and if no rule ends it, neither does the next one. -/
theorem Safe.advance (hs : s.Safe) (hP : P.Usable) (hnormb : ¬ normb.IsChecked)
    (ha : ¬ e.alpha.IsChecked) (hb : ¬ e.beta.IsChecked) (n : Int) :
    Returns (s.advance P normb e n) fun row =>
      row.step.Divides row.state.rotation ∧ (row.stop = .ongoing → row.state.Safe) := by
  unfold Recurrences.advance
  refine (hs.rotation.advance ha hP.damp).bind fun (q, t) ht => ?_
  refine (hs.residual.advance ht).bind fun (r, normr) hr => ?_
  refine (hs.norms.advance hs.rotation ht ha hb n).bind fun (m, v) ⟨hm, hconda, hzero⟩ => ?_
  have hnormar : ¬ (Arithmetic.abs q.zetabar).IsChecked := ht.safe.zetabar
  refine (StoppingTests.compute_returns hnormar hconda hnormb hP.atol hP.btol).bind fun w hw => ?_
  refine (use_returns hP.ctol).bind fun ctol _ => .ok ⟨ht.divides hs.sbar, fun hgo => ?_⟩
  exact .next ht hr hm (fun hz => hw (hzero hz)) hgo

/-- **The states between two iterations** of a sequence of entries, as long as no rule fires. -/
inductive Continues {α : Type} [Arithmetic α] (P : Tolerances α) (alpha beta : α)
    (e : ℕ → Entries α) : ℕ → Recurrences α → Prop
  | initial {s : Recurrences α} (h : Recurrences.initial alpha beta = .ok s) :
      Continues P alpha beta e 0 s
  | advance {k : ℕ} {s : Recurrences α} {row : Row α} (h : Continues P alpha beta e k s)
      (hrow : s.advance P beta (e k) (k + 1 : ℕ) = .ok row) (hstop : row.stop = .ongoing) :
      Continues P alpha beta e (k + 1) row.state

theorem Continues.safe {e : ℕ → Entries (Scalar F)} {k : ℕ} (hP : P.Usable)
    (ha : ¬ alpha.IsChecked) (hb : ¬ beta.IsChecked)
    (he : ∀ k, ¬ (e k).alpha.IsChecked ∧ ¬ (e k).beta.IsChecked)
    (h : Continues P alpha beta e k s) : s.Safe := by
  induction h with
  | initial h =>
    obtain ⟨s', hs', hsafe⟩ := initial_returns ha hb
    rw [h] at hs'
    exact Except.ok.inj hs' ▸ hsafe
  | @advance k s row _ hrow hstop ih =>
    obtain ⟨row', hrow', -, hsafe⟩ := ih.advance hP hb (he k).1 (he k).2 (k + 1 : ℕ)
    rw [hrow] at hrow'
    obtain rfl := Except.ok.inj hrow'
    exact hsafe hstop

end Recurrences

end LeastSquares
