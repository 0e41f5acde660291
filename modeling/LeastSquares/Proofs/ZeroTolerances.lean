import LeastSquares.Proofs.BesideOne
import LeastSquares.Proofs.Loosening

/-!
# Tolerances of zero

A tolerance of zero is meant to disable its rule. The rules ask for "at most", so a statistic of
zero would still fire one; what keeps it from doing so is a rule at the precision of the machine
that comes earlier in the order. For the condition number and the normal equations that rule looks
at the same statistic, and the argument needs no more of the numbers than that what is at most zero
adds nothing to one: it holds in every precision, and of records of what is no number. The rule of
the residual has no such companion. The earlier rule looks at the residual over a larger
scale, and only where the estimates are not negative does it find zero where the later one does.

* `InertZero`: **numbers among which a zero is inert**: the reals, and the numbers of any
  precision.
* `StoppingTests.Spares`, `StoppingTests.fires_of_check`: what an earlier rule has not found where a
  later one fires.
* `StoppingTests.check_ne_conlim`, `StoppingTests.check_ne_atol`: **a tolerance of zero disables its
  rule**, whatever the record.
* `StoppingTests.exact_check_ne_btol`: two of them disable that of the residual.
* `Problem.zero_tolerances`: **what is left to end a solve.**
* `Request.zero_options`: **what zeros among the options do** to the program.
-/

namespace LeastSquares

open Arithmetic

/-! ### Zeros -/

/-- **Numbers among which a zero is inert**: it is not positive and not beyond all others, and what
is at most zero adds nothing to one. A number is used as it was given. -/
class InertZero (α : Type) [Arithmetic α] : Prop where
  eq_zero : eq (0 : α) 0 = true
  not_pos {z : α} : eq z 0 = true → lt 0 z = false
  not_isTop {z : α} : eq z 0 = true → isTop z = false
  one_add_le {a z : α} : eq z 0 = true → le a z = true → le (1 + a) 1 = true
  use_eq {a b : α} : use a = .ok b → a = b

instance : InertZero ℝ where
  eq_zero := by simp [eq]
  not_pos h := by simp_all [eq, lt]
  not_isTop _ := rfl
  one_add_le h ha := by simp_all [eq, le]
  use_eq h := Except.ok.inj h

instance : InertZero Double where
  eq_zero := by decide
  not_pos {z} h := by
    obtain ⟨s, hz⟩ := Number.eq_zero_iff.1 h
    have hlt : lt 0 z = (Number.double (Float.ofNat 0)).lt z.value := rfl
    rw [hlt, Number.lt_eq, Number.zero_beside hz, Number.zero_beside (s := .positive) rfl]
    rfl
  not_isTop {z} h := by
    obtain ⟨s, hz⟩ := Number.eq_zero_iff.1 h
    have htop : isTop z = z.value.eq (.double Binary64.infinity) := rfl
    rw [htop, Number.eq_eq, Number.beside_double, hz, Number.infinity_beside]
    rfl
  one_add_le {a z} h ha := by
    obtain ⟨s, hz⟩ := Number.eq_zero_iff.1 h
    exact Double.one_add_le_one (Number.le_zero_of_le hz ha)
  use_eq {a b} h := by
    have huse : use a = a.use := rfl
    rw [huse, Scalar.use] at h
    split_ifs at h
    exact Except.ok.inj h

/-! ### Rules -/

namespace StoppingTests

section

variable {α : Type} [Arithmetic α] (t : StoppingTests α) (n m : ℤ) {atol ctol : α}

/-- **What an earlier rule has not found**, the one at the precision of the machine, where a rule
with a tolerance ends an iteration. -/
def Spares : StopReason → Prop
  | .conlim => le (1 + t.test3) 1 = false
  | .atol => t.test2.isNegligible = false
  | .btol => le (1 + t.t1) 1 = false
  | _ => True

theorem check_spares (atol ctol : α) : t.Spares (t.check n m atol ctol) := by
  unfold check
  split_ifs <;> simp_all [Spares]

variable {t n m}

/-- **What is known where a rule ends an iteration**: what it has found, and what the earlier one
has not. -/
theorem fires_of_check {r : StopReason} (h : t.check n m atol ctol = r) :
    t.Fires n m atol ctol r ∧ t.Spares r := by
  rw [← h]
  exact ⟨t.check_fires n m atol ctol, t.check_spares n m atol ctol⟩

variable (t n m)

/-- A rule that fires for no iteration number and no budget fires for none of any kind. -/
theorem checkValues_ne {r : StopReason} (hr : r ≠ .maxiter)
    (h : ∀ n m : ℤ, t.check n m atol ctol ≠ r) (n m : Value) :
    t.checkValues n m atol ctol ≠ .ok r := by
  unfold checkValues
  cases isUsedUp n m with
  | error e => exact nofun
  | ok b =>
    cases b with
    | true => exact fun heq => hr (Except.ok.inj heq).symm
    | false => exact fun heq => h 0 1 (Except.ok.inj heq)

variable [InertZero α]

/-- What is at most zero is negligible, so a statistic that the earlier rule has left alone is
above a tolerance of zero. -/
theorem not_le_of_spared {a z : α} (hz : eq z 0 = true) (ha : le (1 + a) 1 = false) :
    le a z = false := by
  rw [← Bool.not_eq_true] at ha ⊢
  exact fun hle => ha (InertZero.one_add_le hz hle)

/-- **Without a limit of the condition number** its rule does not fire, whatever the record. -/
theorem check_ne_conlim (h : eq ctol 0 = true) : t.check n m atol ctol ≠ .conlim := by
  intro hr
  obtain ⟨hfires, hspares⟩ := fires_of_check hr
  exact absurd (hfires.symm.trans (not_le_of_spared h hspares)) (by decide)

/-- **Without a tolerance for the normal equations** their rule does not fire, whatever the
record. -/
theorem check_ne_atol (h : eq atol 0 = true) : t.check n m atol ctol ≠ .atol := by
  intro hr
  obtain ⟨hfires, hspares⟩ := fires_of_check hr
  simp only [Fires, Spares] at hfires hspares
  cases ht : t.test2 with
  | infinite =>
    rw [ht] at hfires
    exact absurd (hfires.symm.trans (InertZero.not_isTop h)) (by decide)
  | finite a =>
    rw [ht] at hfires hspares
    exact absurd (hfires.symm.trans (not_le_of_spared h hspares)) (by decide)

end

/-- **Without a tolerance for the residual**, and without one for the normal equations, its rule
does not fire on what is computed from estimates that are not negative: it asks for a residual that
vanishes, and so does the earlier rule. -/
theorem exact_check_ne_btol {normr normar norma conda normx normb : ℝ} (hA : 0 ≤ norma)
    (hx : 0 ≤ normx) (hb : 0 < normb) (n m : ℤ) (a c : ℝ) :
    (exact normr normar norma conda normx normb 0 0).check n m a c ≠ .btol := by
  intro hr
  obtain ⟨hfires, hspares⟩ := fires_of_check hr
  -- The later rule looks at the residual over `normb`, the earlier one over a larger scale.
  have hzero : normr / normb ≤ 0 := by simpa [Fires, exact, le] using hfires
  have hpos : 0 < normr / normb / (1 + norma * normx / normb) := by
    simpa [Spares, exact, le] using hspares
  have hscale : 0 ≤ 1 + norma * normx / normb := by positivity
  exact hpos.not_ge (div_nonpos_of_nonpos_of_nonneg hzero hscale)

end StoppingTests

/-! ### Solves -/

/-- A limit of zero stands for a tolerance of zero. -/
theorem limitTolerance_zero {α : Type} [Arithmetic α] [InertZero α] {conlim ctol : α}
    (hz : eq conlim 0 = true) (h : limitTolerance conlim = .ok ctol) : eq ctol 0 = true := by
  unfold limitTolerance at h
  rw [InertZero.not_pos hz, if_neg Bool.false_ne_true] at h
  rw [← Except.ok.inj h]
  exact InertZero.eq_zero

namespace Problem

section

variable {α U V : Type} [Arithmetic α] [Vectors α U] [Vectors α V] {P : Problem α U V}
  {p : Bidiagonal α U V} {x zero : V} {o : Observers α} {s : Run α U V}

/-- **What a solve returns as its reason** is what the rules find, unless none has fired. -/
theorem returned_stop (h : P.solve p x zero o = .returned s) :
    s.stop = .ongoing ∨ ∃ (t : StoppingTests α) (n : ℤ) (ctol : α), use P.ctol = .ok ctol ∧
      s.stop = t.check n P.maxiter P.atol ctol := by
  by_cases hstop : s.stop = .ongoing
  · exact .inl hstop
  · obtain ⟨k, s', hr, rfl⟩ := returned_reaches h hstop
    cases hr with
    | advance _ _ _ hs =>
      obtain ⟨w, t, ctol, -, -, -, hctol, rfl⟩ := Run.run_advance_eq_ok.1 hs
      exact .inr ⟨t, w.iteration, ctol, hctol, rfl⟩

variable [InertZero α]

theorem returned_ne_conlim (hc : eq P.ctol 0 = true) (h : P.solve p x zero o = .returned s) :
    s.stop ≠ .conlim := by
  rcases returned_stop h with hgo | ⟨t, n, ctol, hctol, hstop⟩
  · rw [hgo]
    simp
  · rw [hstop, ← InertZero.use_eq hctol]
    exact t.check_ne_conlim n _ hc

theorem returned_ne_atol (ha : eq P.atol 0 = true) (h : P.solve p x zero o = .returned s) :
    s.stop ≠ .atol := by
  rcases returned_stop h with hgo | ⟨t, n, ctol, -, hstop⟩
  · rw [hgo]
    simp
  · rw [hstop]
    exact t.check_ne_atol n _ ha

end

variable {𝕜 E F : Type} [RCLike 𝕜]
  [NormedAddCommGroup E] [InnerProductSpace 𝕜 E] [NormedSpace ℝ E] [FiniteDimensional 𝕜 E]
  [NormedAddCommGroup F] [InnerProductSpace 𝕜 F] [NormedSpace ℝ F] [FiniteDimensional 𝕜 F]
  {A : E →ₗ[𝕜] F} {b : F} {x₀ : E} {P : Problem ℝ F E} {o : Observers ℝ} {s : Run ℝ F E}

theorem returned_ne_btol (hP : P.operator = .exact A) (hatol : P.atol = 0) (hbtol : P.btol = 0)
    (h : P.solve (.initial b 0) x₀ 0 o = .returned s) : s.stop ≠ .btol := by
  intro hr
  obtain ⟨k, s', hreaches, rfl⟩ := returned_reaches h (by simp [hr])
  obtain ⟨he, c, -, -, hstop⟩ := hreaches.estimates hP
  have hnormx : 0 ≤ s'.normx := he.normx_eq ▸ norm_nonneg _
  rw [hatol, hbtol] at hstop
  exact StoppingTests.exact_check_ne_btol he.norma_pos.le hnormx he.normb_pos _ _ _ _
    (hstop.symm.trans hr)

variable (b x₀ o) in
/-- **A tolerance of zero disables its rule**, in every solve over the real numbers: that of the
residual needs two zeros. Without any tolerance only a rule at the precision of the machine or the
budget ends a solve that has anything to do. On any record of numbers of any precision the rules of
the condition number and of the normal equations stay silent so, whatever the kinds of iteration
number and budget. -/
theorem zero_tolerances (hP : P.operator = .exact A) :
    (∀ s, P.solve (.initial b 0) x₀ 0 o = .returned s →
      (limitTolerance (0 : ℝ) = .ok P.ctol → s.stop ≠ .conlim) ∧
      (P.atol = 0 → s.stop ≠ .atol) ∧
      (P.atol = 0 → P.btol = 0 → s.stop ≠ .btol) ∧
      (P.atol = 0 → P.btol = 0 → limitTolerance (0 : ℝ) = .ok P.ctol →
        s.stop = .ongoing ∨ s.stop = .btolEps ∨ s.stop = .atolEps ∨ s.stop = .condEps ∨
          s.stop = .maxiter)) ∧
    (∀ (t : StoppingTests Double) (atol ctol : Double),
      (eq ctol 0 = true → (∀ n m : ℤ, t.check n m atol ctol ≠ .conlim) ∧
        ∀ n m : Value, t.checkValues n m atol ctol ≠ .ok .conlim) ∧
      (eq atol 0 = true → (∀ n m : ℤ, t.check n m atol ctol ≠ .atol) ∧
        ∀ n m : Value, t.checkValues n m atol ctol ≠ .ok .atol)) := by
  have hzero : eq (0 : ℝ) 0 = true := InertZero.eq_zero
  refine ⟨?_, ?_⟩
  · intro s h
    have hconlim (hc : limitTolerance (0 : ℝ) = .ok P.ctol) : s.stop ≠ .conlim :=
      returned_ne_conlim (limitTolerance_zero hzero hc) h
    have hatol (ha : P.atol = 0) : s.stop ≠ .atol := returned_ne_atol (ha ▸ hzero) h
    have hbtol (ha : P.atol = 0) (hb : P.btol = 0) : s.stop ≠ .btol := returned_ne_btol hP ha hb h
    refine ⟨hconlim, hatol, hbtol, ?_⟩
    intro ha hb hc
    have hc' := hconlim hc
    have ha' := hatol ha
    have hb' := hbtol ha hb
    cases hr : s.stop <;> simp_all
  · intro t atol ctol
    refine ⟨fun hc => ?_, fun ha => ?_⟩
    · have hne (n m : ℤ) : t.check n m atol ctol ≠ .conlim := t.check_ne_conlim n m hc
      exact ⟨hne, t.checkValues_ne (by decide) hne⟩
    · have hne (n m : ℤ) : t.check n m atol ctol ≠ .atol := t.check_ne_atol n m ha
      exact ⟨hne, t.checkValues_ne (by decide) hne⟩

/-- The identity without any tolerance. -/
theorem identityProblem_without_tolerances : ∃ s,
    identityProblem.solve (.initial 2 0) 1 0 Run.unwatched = .returned s ∧
    limitTolerance (0 : ℝ) = .ok identityProblem.ctol ∧
    (s.stop = .ongoing ∨ s.stop = .btolEps ∨ s.stop = .atolEps ∨ s.stop = .condEps ∨
      s.stop = .maxiter) := by
  have hzero : limitTolerance (0 : ℝ) = .ok identityProblem.ctol := if_neg (by simp [lt])
  obtain ⟨s, hs⟩ : ∃ s, identityProblem.solve (.initial 2 0) 1 0 Run.unwatched = .returned s :=
    returns_of_quiet identityProblem_operator fun _ _ => rfl
  obtain ⟨hsolves, -⟩ := zero_tolerances 2 1 Run.unwatched identityProblem_operator
  exact ⟨s, hs, hzero, (hsolves s hs).2.2.2 rfl rfl hzero⟩

end Problem

/-! ### The program -/

namespace Options

/-- **A limit of zero**, of any kind, is a tolerance of zero. -/
theorem ctol_of_zero {o : Options} (h : o.conlim.sign = some .zero) : o.ctol = .ok 0 := by
  unfold ctol compareZero
  rw [h]
  rfl

/-- The judgement of the options leaves the tolerances as they were given. -/
theorem resolve_tolerances {o o' : Options} {shape : List Value} (h : o.resolve shape = .ok o') :
    o'.atol = o.atol ∧ o'.conlim = o.conlim := by
  unfold resolve at h
  simp only [bind_eq_ok] at h
  obtain ⟨⟨⟩, -, ⟨⟩, -, ⟨⟩, -, ⟨⟩, -, h⟩ := h
  split_ifs at h with hcall hnull hnull
  · simp only [bind_eq_ok] at h
    obtain ⟨a, hthrow, -⟩ := h
    cases hthrow
  · simp only [bind_eq_ok] at h
    obtain ⟨a, hthrow, -⟩ := h
    cases hthrow
  · obtain ⟨extent, -, h⟩ := bind_eq_ok.1 h
    rw [← Except.ok.inj h]
    exact ⟨rfl, rfl⟩
  · simp only [bind_eq_ok] at h
    obtain ⟨⟨⟩, -, k, -, h⟩ := h
    rw [← Except.ok.inj h]
    exact ⟨rfl, rfl⟩

end Options

/-- An option that is zero, of any kind, is a double that is zero. -/
theorem Double.ofValue_eq_zero {v : Value} (h : v.sign = some .zero) :
    eq (Double.ofValue v) 0 = true := by
  cases v with
  | integer n =>
    have hn : n = 0 := by
      simp only [Value.sign, Option.some.injEq] at h
      split_ifs at h
      omega
    rw [hn]
    decide
  | boolean b =>
    cases b with
    | true => cases h
    | false => decide
  | number x =>
    simp only [Value.sign, Value.signOf, Option.some.injEq] at h
    split_ifs at h with hneg hpos hzero
    exact hzero
  | _ => cases h

namespace Request

variable {r : Request} {p : Prepared} {o : Options} {callback : Callback Double}
  {s : Run Double Tensor Tensor}

/-- **What zeros among the options do**: a solve in doubles without a limit of the condition number
does not end by it, and one without a tolerance for the normal equations does not end by that. -/
theorem zero_options (hp : r.prepare = .ok p) (ho : Options.ofList r.options = .ok o)
    (h : p.solve callback = .returned s) :
    (o.conlim.sign = some .zero → s.stop ≠ .conlim) ∧
      (o.atol.sign = some .zero → s.stop ≠ .atol) := by
  obtain ⟨o₁, o₂, ho₁, hresolve, hsettings⟩ := (prepare_ok hp).settings_eq
  obtain rfl : o = o₁ := Except.ok.inj (ho.symm.trans ho₁)
  obtain ⟨hatol, hconlim⟩ := Options.resolve_tolerances hresolve
  unfold Prepared.solve at h
  cases hb : bidiagonalize p.operator p.b (some (.array p.x)) (.ok (some p.type)) with
  | error e =>
    rw [hb] at h
    cases h
  | ok process =>
    simp only [hb] at h
    constructor
    · intro hz
      have hctol : p.settings.ctol = .ofFloat 0 := by
        rw [hsettings, Settings.ofOptions, Options.ctol_of_zero (hconlim ▸ hz)]
        rfl
      refine Problem.returned_ne_conlim ?_ h
      change eq p.settings.ctol 0 = true
      rw [hctol]
      decide
    · intro hz
      refine Problem.returned_ne_atol ?_ h
      change eq p.settings.atol 0 = true
      rw [hsettings]
      exact Double.ofValue_eq_zero (hatol ▸ hz)

end Request

end LeastSquares
