import LeastSquares.Proofs.Halves
import LeastSquares.Proofs.Numbers
import LeastSquares.Proofs.Record

/-!
# Data that are no numbers

If the first residual has no number for a norm, a solve ends without having converged. The part of
the right-hand side that the rotations have not yet taken up starts as that norm, and every rotation
multiplies it: it is no number after any iteration, so neither is the norm of the residual, and the
rules that would call the solve converged read either a number that is none or an infinity.

* `NanFormat`: **what is assumed of numbers that are none.** Nothing is assumed of the length of a
  pair, which may be infinite where one of the two is no number.
* `ResidualEstimate.advance_isNan`: **one iteration of the residual.**
* `StoppingTests.Blind`: statistics that no converged rule can read.
* `Problem.unconverged_of_nan`: **such a solve is entered, and does not converge.**
* The instance `NanFormat Number`: the assumptions hold of numbers of any precision.
-/

namespace LeastSquares

open Arithmetic

/-- **A format with numbers that are none.** Sums, products, quotients, roots and roundings of them
are none either, they are not in order with anything, and they do not equal zero. -/
class NanFormat (F : Type) [FloatingPoint F] where
  IsNan : F → Prop
  add {a b : F} : IsNan a ∨ IsNan b → IsNan (FloatingPoint.add a b)
  mul {a b : F} : IsNan a ∨ IsNan b → IsNan (FloatingPoint.mul a b)
  div {a b : F} : IsNan a ∨ IsNan b → IsNan (FloatingPoint.div a b)
  sqrt {a : F} : IsNan a → IsNan (FloatingPoint.sqrt a)
  round (p : Precision) {a : F} : IsNan a → IsNan (FloatingPoint.round p a)
  lt {a b : F} : IsNan a ∨ IsNan b → FloatingPoint.lt a b = false
  le {a b : F} : IsNan a ∨ IsNan b → FloatingPoint.le a b = false
  ne_zero {a : F} : IsNan a → FloatingPoint.eq a (FloatingPoint.ofNat 0) = false

/-! ### Numbers of any precision -/

namespace Number

variable {a b : Number}

theorem read_eq_nan (h : a.isNaN = true) : a.read = .nan := by
  cases a with
  | double x =>
    obtain rfl := Binary64.eq_nan h
    rfl
  | extended x =>
    have hx : x.unpack = .notANumber := isNaN_iff.1 h
    change x.read = .nan
    rw [Wide.read, hx]

theorem isNaN_narrow (f : Format) : (Binary64.narrow f .nan).isNaN = true := by
  have hnarrow : Binary64.narrow f .nan = Binary64.nan := rfl
  rw [hnarrow]
  decide

theorem isNaN_toDouble (h : a.isNaN = true) : a.toDouble.isNaN = true := by
  cases a with
  | double x => exact h
  | extended x =>
    have hread : x.read = .nan := read_eq_nan h
    rw [toDouble, hread]
    exact isNaN_narrow .double

theorem isNaN_round (p : Precision) (h : a.isNaN = true) : (p.round a).isNaN = true := by
  cases p with
  | half | single =>
    rw [Precision.round, read_eq_nan h]
    exact isNaN_narrow _
  | double => exact isNaN_toDouble h
  | extended => exact isNaN_iff.2 (toWide_kept .notANumber (isNaN_iff.1 h))

theorem isNaN_sqrt (h : a.isNaN = true) : (FloatingPoint.sqrt a).isNaN = true := by
  have hsqrt : FloatingPoint.sqrt a =
      .double (.ofModel (.pack (.sqrt .binary64 a.toDouble.toModel.unpack))) := rfl
  rw [hsqrt, Binary64.unpack_of_isNaN (isNaN_toDouble h)]
  decide

/-- What is no number is none beside any number. -/
theorem beside_of_isNaN (h : a.isNaN = true ∨ b.isNaN = true) :
    ¬ (a.beside b ≠ .notANumber ∧ b.beside a ≠ .notANumber) := by
  rintro ⟨ha, hb⟩
  rw [isNaN_iff, isNaN_iff] at h
  exact h.elim (fun h => ha (beside_kept .notANumber h)) fun h => hb (beside_kept .notANumber h)

theorem lt_eq_false (h : a.isNaN = true ∨ b.isNaN = true) : a.lt b = false := by
  rw [← Bool.not_eq_true, lt_eq, Unpacked.lt_iff]
  exact fun hlt => beside_of_isNaN h hlt.1

theorem le_eq_false (h : a.isNaN = true ∨ b.isNaN = true) : a.le b = false := by
  rw [← Bool.not_eq_true, le_eq, Unpacked.le_iff]
  exact fun hle => beside_of_isNaN h hle.1

theorem eq_eq_false (h : a.isNaN = true ∨ b.isNaN = true) : a.eq b = false := by
  rw [← Bool.not_eq_true, eq_eq, Unpacked.beq_iff]
  exact fun heq => beside_of_isNaN h heq.1

end Number

/-- **Numbers of any precision** pass on what is no number. -/
instance : NanFormat Number where
  IsNan a := a.isNaN = true
  add h := Number.lift_isNaN Unpacked.add_eq_notANumber h
  mul h := Number.lift_isNaN Unpacked.mul_eq_notANumber h
  div h := Number.lift_isNaN Unpacked.div_eq_notANumber h
  sqrt h := Number.isNaN_sqrt h
  round p _ h := Number.isNaN_round p h
  lt h := Number.lt_eq_false h
  le h := Number.le_eq_false h
  ne_zero h := Number.eq_eq_false (.inl h)

/-! ### Numbers of all kinds -/

section

variable {F : Type} [FloatingPoint F] [NanFormat F]

namespace Scalar

variable {a b c : Scalar F}

/-- A number that is none, of any kind. -/
def IsNan (a : Scalar F) : Prop := NanFormat.IsNan a.value

theorem isNan_fit (k : Kind) {x : F} (h : NanFormat.IsNan x) : NanFormat.IsNan (fit k x) :=
  NanFormat.round _ h

/-- What an operation passes on, it passes on between numbers of all kinds. -/
theorem isNan_combine {op : F → F → F}
    (hop : ∀ {x y : F}, NanFormat.IsNan x ∨ NanFormat.IsNan y → NanFormat.IsNan (op x y))
    (h : a.IsNan ∨ b.IsNan) : (combine op a b).IsNan :=
  isNan_fit _ (hop (h.imp (isNan_fit _) (isNan_fit _)))

theorem isNan_add (h : a.IsNan ∨ b.IsNan) : (a + b).IsNan := isNan_combine NanFormat.add h

theorem isNan_mul (h : a.IsNan ∨ b.IsNan) : (a * b).IsNan := isNan_combine NanFormat.mul h

theorem isNan_div (hc : Arithmetic.div a b = .ok c) (h : a.IsNan ∨ b.IsNan) : c.IsNan := by
  have hdiv : Arithmetic.div a b = Scalar.div a b := rfl
  rw [hdiv, Scalar.div] at hc
  split_ifs at hc
  injection hc with hc
  subst hc
  exact isNan_combine NanFormat.div h

theorem isNan_square (hc : Arithmetic.square a = .ok c) (h : a.IsNan) : c.IsNan := by
  have hsquare : Arithmetic.square a = Scalar.square a := rfl
  rw [hsquare, Scalar.square] at hc
  split_ifs at hc
  injection hc with hc
  subst hc
  exact isNan_combine NanFormat.mul (.inl h)

theorem isNan_sqrt (hc : Arithmetic.sqrt a = .ok c) (h : a.IsNan) : c.IsNan := by
  have hsqrt : Arithmetic.sqrt a = Scalar.sqrt a := rfl
  rw [hsqrt, Scalar.sqrt] at hc
  split_ifs at hc
  injection hc with hc
  subst hc
  exact NanFormat.sqrt (NanFormat.round _ h)

theorem lt_eq_false (h : a.IsNan ∨ b.IsNan) : Arithmetic.lt a b = false := NanFormat.lt h

theorem le_eq_false (h : a.IsNan ∨ b.IsNan) : Arithmetic.le a b = false := NanFormat.le h

theorem eq_zero_eq_false (h : a.IsNan) : Arithmetic.eq a 0 = false := NanFormat.ne_zero h

end Scalar

open Scalar (isNan_add isNan_mul isNan_div isNan_square isNan_sqrt lt_eq_false le_eq_false
  eq_zero_eq_false)

/-! ### One iteration -/

/-- **The norm of the residual** is no number if what is left of the right-hand side is none, and
what is left stays so. -/
theorem ResidualEstimate.advance_isNan {e e' : ResidualEstimate (Scalar F)}
    {t : RotationStep (Scalar F)} {q : Rotation (Scalar F)} {normr : Scalar F}
    (h : e.advance t q = .ok (e', normr)) (he : e.betadd.IsNan) :
    e'.betadd.IsNan ∧ normr.IsNan := by
  unfold advance at h
  simp only [bind_eq_ok] at h
  obtain ⟨tilde, -, tau, -, taud, -, d, -, gap, -, rest, hrest, root, hroot, h⟩ := h
  injection h with h
  obtain ⟨rfl, rfl⟩ := Prod.mk.inj h
  have hbetadd : (-t.s * (t.chat * e.betadd)).IsNan := isNan_mul (.inr (isNan_mul (.inr he)))
  exact ⟨hbetadd, isNan_sqrt hroot (isNan_add (.inr (isNan_square hrest hbetadd)))⟩

namespace StoppingTests

variable {t : StoppingTests (Scalar F)}

/-- **Statistics that no converged rule can read**: those of the residual are no numbers, and the
one of the normal equations is infinite. -/
structure Blind (t : StoppingTests (Scalar F)) : Prop where
  test1 : t.test1.IsNan
  test2 : t.test2 = .infinite
  t1 : t.t1.IsNan

theorem compute_blind {normr normar norma normx normb atol btol : Scalar F}
    {conda : Extended (Scalar F)}
    (h : compute normr normar norma conda normx normb atol btol = .ok t) (hr : normr.IsNan) :
    t.Blind := by
  have hpos : (lt 0 normr && lt 0 norma) = false := by
    rw [lt_eq_false (.inr hr), Bool.false_and]
  unfold compute at h
  rw [bind_eq_ok] at h
  obtain ⟨test1, h1, h⟩ := h
  simp only [hpos, Bool.false_eq_true, if_false] at h
  rw [pure_bind] at h
  simp only [bind_eq_ok] at h
  obtain ⟨test3, -, ratio, -, t1, ht1, tol, -, slack, -, btol', -, h⟩ := h
  injection h with h
  subst h
  have htest1 := isNan_div h1 (.inl hr)
  exact ⟨htest1, rfl, isNan_div ht1 (.inl htest1)⟩

/-- **What ends a solve without statistics that can be read**: the budget, or the condition
number. -/
theorem Blind.check_eq (h : t.Blind) {n m : Int} {atol ctol : Scalar F}
    (hatol : isTop atol = false) : t.check n m atol ctol = .ongoing ∨
      t.check n m atol ctol = .conlim ∨ t.check n m atol ctol = .condEps ∨
      t.check n m atol ctol = .maxiter := by
  have hnegligible : t.test2.isNegligible = false := by rw [h.test2]; rfl
  have hatolRule : t.test2.le atol = false := by rw [h.test2]; exact hatol
  have hbtolEps : le (1 + t.t1) 1 = false := le_eq_false (.inl (isNan_add (.inr h.t1)))
  have hbtolRule : le t.test1 t.rtol = false := le_eq_false (.inl h.test1)
  unfold check
  rw [hnegligible, hatolRule, hbtolEps, hbtolRule]
  simp only [Bool.false_eq_true, if_false]
  split_ifs <;> simp

end StoppingTests

variable {U V : Type} [Vectors (Scalar F) U] [Vectors (Scalar F) V]

/-! ### A solve -/

namespace Problem

variable {P : Problem (Scalar F) U V} {p p' : Bidiagonal (Scalar F) U V} {x zero : V}
  {o : Observers (Scalar F)} {k : ℕ} {s : Run (Scalar F) U V}

omit [Vectors (Scalar F) U] in
/-- The first product is no number, so it does not vanish. -/
theorem isOpen_of_nan (hbegin : Run.begin p' x zero o = .ok s) (hbeta : p'.beta.IsNan) :
    s.isOpen = true := by
  rw [Run.isOpen, (begun hbegin).normar_eq, eq_zero_eq_false (isNan_mul (.inr hbeta))]
  rfl

section

variable (hstart : (Bidiagonal.start P.operator x).run p = .ok () p') (hbeta : p'.beta.IsNan)

include hstart hbeta

/-- **The loop is entered** if the norms of vectors are unchecked. -/
theorem begins_of_nan (hnorm : ∀ v : V, (Vectors.norm v : Scalar F).kind ≠ .checked)
    (hmax : 1 ≤ P.maxiter) : ∃ s, P.Begins p x zero o 0 s := by
  obtain ⟨v, hv⟩ := Bidiagonal.start_alpha hstart
  have hsquare : square p'.alpha = .ok (p'.alpha.combine FloatingPoint.mul p'.alpha) := by
    have hkind : p'.alpha.kind ≠ .checked := hv ▸ hnorm v
    have hdef : square p'.alpha = p'.alpha.square := rfl
    rw [hdef, Scalar.square]
    simp [hkind]
  obtain ⟨s, hbegin⟩ : ∃ s, Run.begin p' x zero o = .ok s := by
    unfold Run.begin NormEstimate.initial
    rw [hsquare]
    exact ⟨_, rfl⟩
  exact ⟨s, .begin hstart hbegin (isOpen_of_nan hbegin hbeta), begin_stop hbegin, hmax⟩

/-- What is left of the right-hand side is no number between any two iterations. -/
theorem Reaches.betadd_isNan (h : P.Reaches p x zero o k s) : s.residual.betadd.IsNan := by
  induction h with
  | begin hstart' hbegin _ =>
    rw [hstart] at hstart'
    injection hstart' with _ hp
    subst hp
    unfold Run.begin at hbegin
    simp only [bind_eq_ok] at hbegin
    obtain ⟨norms, -, hbegin⟩ := hbegin
    injection hbegin with hbegin
    subst hbegin
    exact hbeta
  | advance _ _ _ hs ih =>
    obtain ⟨w, t, ctol, hw, -, -, -, rfl⟩ := Run.run_advance_eq_ok.1 hs
    obtain ⟨turned, q, hresidual⟩ := Run.compute_residual hw
    exact (ResidualEstimate.advance_isNan hresidual ih).1

/-- **No iteration ends with a converged rule.** -/
theorem Reaches.stop_of_nan (hatol : isTop P.atol = false) (h : P.Reaches p x zero o k s) :
    s.stop = .ongoing ∨ s.stop = .conlim ∨ s.stop = .condEps ∨ s.stop = .maxiter := by
  cases h with
  | begin _ hbegin _ => exact .inl (begin_stop hbegin)
  | advance h _ _ hs =>
    obtain ⟨w, t, ctol, hw, ht, -, -, rfl⟩ := Run.run_advance_eq_ok.1 hs
    obtain ⟨turned, q, hresidual⟩ := Run.compute_residual hw
    have hnormr := (ResidualEstimate.advance_isNan hresidual (h.betadd_isNan hstart hbeta)).2
    exact (StoppingTests.compute_blind ht hnormr).check_eq hatol

/-- **How such a solve returns**: after an iteration, and not by a converged rule. -/
theorem returned_of_nan (hmax : 1 ≤ P.maxiter) (hatol : isTop P.atol = false)
    (h : P.solve p x zero o = .returned s) :
    1 ≤ s.iteration ∧ (s.stop = .conlim ∨ s.stop = .condEps ∨ s.stop = .maxiter) ∧
      ∀ t, s.observers.history = some t → t.isConverged = false := by
  rcases returned_cases h with ⟨q, s', hstart', hbegin, hclosed, -⟩ | ⟨k, s', hr, hend, rfl⟩
  -- There is something to iterate.
  · rw [hstart] at hstart'
    injection hstart' with _ hp
    subst hp
    rw [isOpen_of_nan hbegin hbeta] at hclosed
    cases hclosed
  · have hgo : s'.stop ≠ .ongoing := by
      intro hgo
      obtain rfl := hend.resolve_left (absurd hgo)
      rw [hr.stop_eq_maxiter.2 ⟨rfl, hmax⟩] at hgo
      cases hgo
    have hk : 1 ≤ k := by
      by_contra hk
      obtain rfl : k = 0 := by omega
      exact hgo hr.stop_zero
    have hstop := (hr.stop_of_nan hstart hbeta hatol).resolve_left hgo
    refine ⟨hr.iteration_eq.symm ▸ hk, hstop, ?_⟩
    intro t ht
    have hhistory : s'.close.observers.history = s'.observers.history.map fun h =>
        (h.count s'.process.counted.forward s'.process.counted.adjoint).finalize s'.stop
          s'.summary := Observers.finish_history _ _ _ _ _
    rw [hhistory] at ht
    obtain ⟨kept, -, rfl⟩ := Option.map_eq_some_iff.1 ht
    have hconverged : s'.stop.converged = false := by
      rcases hstop with hs | hs | hs <;> rw [hs] <;> rfl
    exact hconverged

/-- **A solve whose first residual has no number for a norm** is entered, if the budget allows an
iteration and the norms of vectors are unchecked. If it returns, it has not converged, unless
`atol` is infinite. -/
theorem unconverged_of_nan (hnorm : ∀ v : V, (Vectors.norm v : Scalar F).kind ≠ .checked)
    (hmax : 1 ≤ P.maxiter) (hatol : isTop P.atol = false) :
    (∃ s, P.Begins p x zero o 0 s) ∧
    ∀ s, P.solve p x zero o = .returned s →
      1 ≤ s.iteration ∧ (s.stop = .conlim ∨ s.stop = .condEps ∨ s.stop = .maxiter) ∧
      ∀ t, s.observers.history = some t → t.isConverged = false := by
  refine ⟨begins_of_nan hstart hbeta hnorm hmax, ?_⟩
  intro s hs
  exact returned_of_nan hstart hbeta hmax hatol hs

end

end Problem

end

/-- A right-hand side that is no number. -/
def undefinedSide : Request where
  x := .array (.zeros .float64 1)
  source := .array ⟨.float64, [1, 1], #[.ofReal 2]⟩
  b := .array ⟨.float64, [1], #[.ofReal Binary64.nan]⟩
  options := [("log", .boolean true), ("maxiter", .integer 2)]
  callback := ⟨fun _ _ => false⟩

/-- The process of a prepared request after its start, if it starts. -/
def Prepared.started (p : Prepared) : Option (Bidiagonal Double Tensor Tensor) :=
  match bidiagonalize p.operator p.b (some (.array p.x)) (.ok (some p.type)) with
  | .error _ => none
  | .ok process =>
    match (Bidiagonal.start p.operator.toLinear p.x).run process with
    | .error _ _ => none
    | .ok _ q => some q

theorem Prepared.started_eq_some {p : Prepared} {q : Bidiagonal Double Tensor Tensor}
    (h : p.started = some q) : ∃ process,
      bidiagonalize p.operator p.b (some (.array p.x)) (.ok (some p.type)) = .ok process ∧
      (Bidiagonal.start p.operator.toLinear p.x).run process = .ok () q := by
  unfold started at h
  cases hprocess : bidiagonalize p.operator p.b (some (.array p.x)) (.ok (some p.type)) with
  | error e => simp [hprocess] at h
  | ok process =>
    rw [hprocess] at h
    cases hstart : (Bidiagonal.start p.operator.toLinear p.x).run process with
    | error e q' => simp [hstart] at h
    | ok _ q' =>
      simp only [hstart, Option.some.injEq] at h
      exact ⟨process, rfl, h ▸ hstart⟩

theorem undefinedSide_started : (undefinedSide.prepare.toOption.bind fun p =>
    p.started.map fun q => q.beta.value.isNaN && decide (1 ≤ p.settings.maxiter) &&
      !isTop p.settings.atol) = some true := by
  decide +kernel

theorem undefinedSide_returns : (undefinedSide.run .empty).1.result.toOption.map
    (Option.map fun t => (t.iters, t.stop)) = some (some (2, some .maxiter)) := by
  decide +kernel

theorem undefinedSide_unconverged : ∃ p process s t, undefinedSide.prepare = .ok p ∧
    (∃ s₀, p.problem.Begins process p.x (.zeros p.type p.operator.cols.toNat)
      (p.observers undefinedSide.callback) 0 s₀) ∧
    p.problem.solve process p.x (.zeros p.type p.operator.cols.toNat)
      (p.observers undefinedSide.callback) = .returned s ∧
    (s.stop = .conlim ∨ s.stop = .condEps ∨ s.stop = .maxiter) ∧
    s.observers.history = some t ∧ t.isConverged = false := by
  obtain ⟨p, hp, hq⟩ := Option.bind_eq_some_iff.1 undefinedSide_started
  obtain ⟨q, hq, hfacts⟩ := Option.map_eq_some_iff.1 hq
  simp only [Bool.and_eq_true, decide_eq_true_eq, Bool.not_eq_true'] at hfacts
  obtain ⟨⟨hbeta, hmax⟩, hatol⟩ := hfacts
  obtain ⟨process, hprocess, hstart⟩ := Prepared.started_eq_some hq
  obtain ⟨kept, hret, hkept⟩ := Option.map_eq_some_iff.1 undefinedSide_returns
  obtain ⟨t, rfl, -⟩ := Option.map_eq_some_iff.1 hkept
  rw [toOption_eq_some] at hp hret
  obtain ⟨process', s, hprocess', hs, hhistory, -, -⟩ := Request.run_returned hp hret
  obtain rfl : process = process' := Except.ok.inj (hprocess.symm.trans hprocess')
  obtain ⟨hbegins, hends⟩ :=
    Problem.unconverged_of_nan (P := p.problem) hstart hbeta (fun _ => nofun) hmax hatol
  obtain ⟨-, hstop, hconverged⟩ := hends s hs
  exact ⟨p, process, s, t, hp, hbegins, hs, hstop, hhistory.symm, hconverged t hhistory.symm⟩

/-! ### Requests -/

namespace Request

open Log (Registry)

variable {r : Request} {p : Prepared} {g : Registry} {t : History ℕ Double}
  {process q : Bidiagonal Double Tensor Tensor}

/-- **A call that returns**, and whose first residual has no number for a norm, returns a history
that has not converged. -/
theorem not_isConverged_of_nan (hp : r.prepare = .ok p)
    (hprocess : bidiagonalize p.operator p.b (some (.array p.x)) (.ok (some p.type)) = .ok process)
    (hstart : (Bidiagonal.start p.operator.toLinear p.x).run process = .ok () q)
    (hbeta : q.beta.value.isNaN = true) (hmax : 1 ≤ p.settings.maxiter)
    (hatol : isTop p.settings.atol = false) (h : (r.run g).1.result = .ok (some t)) :
    t.isConverged = false := by
  obtain ⟨process', s, hprocess', hs, hkept, -, -⟩ := run_returned hp h
  obtain rfl : process = process' := Except.ok.inj (hprocess.symm.trans hprocess')
  exact (Problem.returned_of_nan (P := p.problem) hstart hbeta hmax hatol hs).2.2 t hkept.symm

end Request

end LeastSquares
