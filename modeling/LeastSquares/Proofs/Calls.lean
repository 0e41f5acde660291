import Mathlib.Tactic.Common
import LeastSquares.Solver

/-!
# Calls of the solver

What a call that succeeds has done on its way: the judgement has found everything in order, the
process has been made and has not started, and what is returned is the history of a solve that
returns.

* `bind_eq_ok`: a computation that succeeds succeeds in each of its parts.
* `Request.prepare_ok`: **what a judgement that passes has found.**
* `Request.run_returned`: **what a call that returns has done.**
-/

namespace LeastSquares

/-- **A computation that succeeds succeeds in each of its parts.** -/
theorem bind_eq_ok {ε α β : Type} {x : Except ε α} {f : α → Except ε β} {b : β} :
    (x >>= f) = .ok b ↔ ∃ a, x = .ok a ∧ f a = .ok b := by
  cases x <;> simp [bind, Except.bind]

theorem toOption_eq_some {ε α : Type} {x : Except ε α} {a : α} :
    x.toOption = some a ↔ x = .ok a := by
  cases x <;> simp [Except.toOption]

/-- A process that has been made has made no products. -/
theorem bidiagonalize_eq_ok {A : Operator} {b : Given} {x : Option Given}
    {type : Except Fault (Option ElementType)} {p : Bidiagonal Double Tensor Tensor}
    (h : bidiagonalize A b x type = .ok p) : p.counted = .zero ∧ p.asked = .zero := by
  unfold bidiagonalize at h
  simp only [bind_eq_ok] at h
  obtain ⟨⟨⟩, -, ⟨⟩, -, t, -, t', -, u, -, z, -, h⟩ := h
  injection h with h
  subst h
  exact ⟨rfl, rfl⟩

theorem Settings.history_eq_ok {s : Settings} {h : Option (History ℕ Double)}
    (hs : s.history = .ok h) :
    h.isSome = s.log ∧ ∀ t, h = some t → t.iters = 0 ∧ t.tests = [] := by
  unfold Settings.history at hs
  split_ifs at hs with hlog
  · cases hc : Arithmetic.use s.ctol with
    | error e => simp [hc, Except.map] at hs
    | ok ctol =>
      simp only [hc, Except.map, Except.ok.injEq] at hs
      subst hs
      simp [hlog, History.initial]
  · simp only [Except.ok.injEq] at hs
    subst hs
    simp [hlog]

namespace Request

/-- **What a judgement that passes has found.** -/
structure Judged (r : Request) (p : Prepared) : Prop where
  named_once : refuseTwice "lsmr_inplace" ["x", "A", "b"] r.options = .ok ()
  updatable : r.x = .array p.x
  operator_eq : r.source.toOperator = .ok p.operator
  b_eq : p.b = r.b
  settings_eq : ∃ o o', Options.ofList r.options = .ok o ∧
    o.resolve [.integer p.operator.rows, .integer p.operator.cols] = .ok o' ∧
    p.settings = .ofOptions o'
  type_eq : ∃ t, solverType p.operator r.b = .ok t ∧ p.type = t.promote p.x.type
  lengths : ∃ zero, zeroVector p.type p.operator.cols = .ok zero ∧
    checkDimensions [.integer p.operator.rows, .integer p.operator.cols] r.b r.x
      [("h", .array zero), ("hbar", .array zero)] = .ok ()
  accepts : p.x.type.accepts p.type = true
  history_eq : p.settings.history = .ok p.history

variable {r : Request} {p : Prepared}

theorem prepare_ok (h : r.prepare = .ok p) : r.Judged p := by
  unfold prepare at h
  simp only [bind_eq_ok] at h
  obtain ⟨⟨⟩, hnames, h⟩ := h
  cases hx : r.x with
  | array t =>
    simp only [hx, bind_eq_ok] at h
    obtain ⟨x, hpure, A, hA, o, ho, o', ho', type, htype, zero, hzero, ⟨⟩, hlengths, h⟩ := h
    injection hpure with hpure
    subst hpure
    split_ifs at h with haccepts
    · simp only [bind_eq_ok] at h
      obtain ⟨a, hthrow, -⟩ := h
      cases hthrow
    · simp only [bind_eq_ok] at h
      obtain ⟨history, hhistory, h⟩ := h
      injection h with h
      subst h
      exact ⟨hnames, hx, hA, rfl, ⟨o, o', ho, ho', rfl⟩, ⟨type, htype, rfl⟩,
        ⟨zero, hzero, hx ▸ hlengths⟩, by simpa using haccepts, hhistory⟩
  | _ =>
    simp only [hx, bind_eq_ok] at h
    obtain ⟨x, hthrow, -⟩ := h
    cases hthrow

open Log (Registry)

variable {g : Registry} {kept : Option (History ℕ Double)}

theorem run_report (hp : r.prepare = .ok p) :
    ∃ written, (r.run g).1 = (p.solve r.callback).report written := by
  rw [run, hp]
  dsimp only
  split_ifs
  · split <;> exact ⟨_, by dsimp only⟩
  · exact ⟨_, by dsimp only⟩

/-- **A call that returns** returns the history of a solve that returns. -/
theorem run_returned (hp : r.prepare = .ok p) (h : (r.run g).1.result = .ok kept) :
    ∃ process s,
      bidiagonalize p.operator p.b (some (.array p.x)) (.ok (some p.type)) = .ok process ∧
      p.problem.solve process p.x (.zeros p.type p.operator.cols.toNat) (p.observers r.callback) =
        .returned s ∧
      kept = s.observers.history ∧ (r.run g).1.calls = s.observers.calls ∧
      (r.run g).1.asked = s.process.asked := by
  obtain ⟨written, hw⟩ := run_report (g := g) hp
  rw [hw] at h ⊢
  unfold Prepared.solve at h ⊢
  cases hb : bidiagonalize p.operator p.b (some (.array p.x)) (.ok (some p.type)) with
  | error e =>
    rw [hb] at h
    cases h
  | ok process =>
    simp only [hb] at h ⊢
    cases hs : p.problem.solve process p.x (.zeros p.type p.operator.cols.toNat)
      (p.observers r.callback) with
    | failed w =>
      rw [hs] at h
      cases h
    | returned s =>
      rw [hs] at h
      injection h with h
      exact ⟨process, s, rfl, hs, h.symm, rfl, rfl⟩

end Request

end LeastSquares
