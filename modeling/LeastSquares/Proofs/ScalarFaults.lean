import LeastSquares.Proofs.Unfailing

/-!
# Solves that never fail in their scalars

A solve is the recurrences of its scalars, with a step of the process before them and the update of
the solution and the observers in between. The entries that the process hands over are norms, so
they are unchecked, and the scalars of an iteration return as those of the recurrences do. What is
left to fail are the operations on vectors, the products with the operator, and the callback.

* `Controlled`: **an action under control from a state**, and how such actions compose.
* `Bidiagonal.start_norms`, `Bidiagonal.step_norms`: the scalars of the process are norms.
* `Run.Safe.advance`, `Problem.Reaches.safe`: **one iteration, and all of them.**
* `Problem.failed_beside_scalars`: **what a solve can fail by.**
* `Double.limitTolerance_ofFloat`, `Options.ctol_of_number`: the tolerance for the condition number.
* `Prepared.failed_beside_scalars`: what a request on arrays can fail by.
-/

namespace LeastSquares

open Arithmetic Scalar

/-! ### Actions under control -/

theorem FailsBy.of_ok {α : Type} {Φ : Fault → Prop} {x : Except Fault α} (h : ∃ a, x = .ok a) :
    FailsBy Φ x := by
  obtain ⟨a, rfl⟩ := h
  exact .ok a

/-- **An action under control from a state**: it fails by some causes only, and what it returns and
leaves behind is known. -/
structure Controlled {σ α : Type} (Φ : Fault → Prop) (x : EStateM Fault σ α) (s : σ)
    (Q : α → σ → Prop) : Prop where
  returned : ∀ a s', x.run s = .ok a s' → Q a s'
  failed : ∀ e s', x.run s = .error e s' → Φ e

namespace Controlled

variable {σ τ α β : Type} {Φ : Fault → Prop} {Q : α → σ → Prop} {R : β → σ → Prop} {s : σ}

theorem of_failsBy {x : EStateM Fault σ α} (h : RunFailsBy Φ x)
    (hQ : ∀ a s', x.run s = .ok a s' → Q a s') : Controlled Φ x s Q :=
  ⟨hQ, h s⟩

theorem get_bind {f : σ → EStateM Fault σ β} (h : Controlled Φ (f s) s R) :
    Controlled Φ (get >>= f) s R :=
  ⟨h.returned, h.failed⟩

theorem modify_ends {g : σ → σ} {Q : Unit → σ → Prop} (h : Q () (g s)) :
    Controlled Φ (modify g : EStateM Fault σ Unit) s Q := by
  refine of_failsBy (.modify g) fun _ _ hs => ?_
  cases hs
  exact h

theorem modify_bind {g : σ → σ} {f : Unit → EStateM Fault σ β} (h : Controlled Φ (f ()) (g s) R) :
    Controlled Φ ((modify g : EStateM Fault σ Unit) >>= f) s R :=
  ⟨h.returned, h.failed⟩

/-- A computation that returns does not fail at all. -/
theorem ofExcept_bind {γ : Type} {x : Except Fault γ} {f : γ → EStateM Fault σ β} {T : γ → Prop}
    (hx : Returns x T) (hf : ∀ a, T a → Controlled Φ (f a) s R) :
    Controlled Φ ((ofExcept x : EStateM Fault σ γ) >>= f) s R := by
  obtain ⟨a, rfl, ha⟩ := hx
  exact ⟨(hf a ha).returned, (hf a ha).failed⟩

theorem onPart_bind {get : σ → τ} {set : τ → σ → σ} {x : EStateM Fault τ α}
    {f : α → EStateM Fault σ β} {T : α → τ → Prop} (hx : Controlled Φ x (get s) T)
    (hf : ∀ a t, T a t → Controlled Φ (f a) (set t s) R) :
    Controlled Φ (onPart get set x >>= f) s R := by
  constructor
  · intro b s' h
    obtain ⟨a, t, ha, hb⟩ := run_onPart_bind_eq_ok.1 h
    exact (hf a t (hx.returned a t ha)).returned b s' hb
  · intro e s' h
    rw [EStateM.run_bind, run_onPart] at h
    cases ht : x.run (get s) with
    | ok a t =>
      rw [ht] at h
      exact (hf a t (hx.returned a t ht)).failed e s' h
    | error e' t =>
      rw [ht] at h
      cases h
      exact hx.failed e t ht

end Controlled

/-! ### The process -/

namespace Bidiagonal

variable {α U V : Type} [Arithmetic α] [Vectors α U] [Vectors α V] {A : LinearOperator V U}
  {p p' : Bidiagonal α U V}

/-- **The scalars of the start** are norms. -/
theorem start_norms {x : V} (h : (start A x).run p = .ok () p') :
    (∃ u : U, p'.beta = Vectors.norm u) ∧ ∃ v : V, p'.alpha = Vectors.norm v := by
  simp only [start, run_forward_bind_eq_ok, run_get_bind, run_ofExcept_bind_eq_ok,
    run_takeU_bind_eq_ok, run_backward_bind_eq_ok, run_takeV_eq_ok] at h
  obtain ⟨y, -, u, -, w, -, z, -, v, -, w', -, rfl⟩ := h
  exact ⟨⟨u, rfl⟩, v, rfl⟩

/-- **The scalars of a step** are norms, or `alpha` is as it was. -/
theorem step_norms (h : (step A).run p = .ok () p') :
    (∃ u : U, p'.beta = Vectors.norm u) ∧
      (p'.alpha = p.alpha ∨ ∃ v : V, p'.alpha = Vectors.norm v) := by
  simp only [step, run_get_bind, run_modify_bind, run_ofExcept_bind_eq_ok, run_forward_bind_eq_ok,
    run_takeU_bind_eq_ok] at h
  obtain ⟨u, -, y, -, u', -, w, -, h⟩ := h
  split_ifs at h with hb
  · simp only [run_get_bind, run_modify_bind, run_ofExcept_bind_eq_ok, run_backward_bind_eq_ok,
      run_takeV_eq_ok] at h
    obtain ⟨v, -, z, -, v', -, w', -, rfl⟩ := h
    exact ⟨⟨u', rfl⟩, .inr ⟨v', rfl⟩⟩
  · simp only [EStateM.run_pure, EStateM.Result.ok.injEq, true_and] at h
    subst h
    exact ⟨⟨u', rfl⟩, .inl rfl⟩

end Bidiagonal

/-! ### Solves -/

variable {F : Type} [FloatingPoint F] [SignedFormat F] {U V : Type} [Vectors (Scalar F) U]
  [Vectors (Scalar F) V] {Φ : Fault → Prop}

/-- **The parts of a solve beside its scalars**: vectors and the operator fail by some causes only,
and norms are unchecked. -/
structure UncheckedParts (Φ : Fault → Prop) (A : LinearOperator V U) : Prop where
  range : VectorsFailBy Φ U
  domain : VectorsFailBy Φ V
  apply : ∀ x, FailsBy Φ (A.apply x)
  adjoint : ∀ y, FailsBy Φ (A.adjoint y)
  norm_range : ∀ u : U, ¬ (Vectors.norm u).IsChecked
  norm_domain : ∀ v : V, ¬ (Vectors.norm v).IsChecked

omit [SignedFormat F] [Vectors (Scalar F) U] in
/-- The quotient by a norm does not fail. -/
theorem normalize_failsBy (hV : VectorsFailBy Φ V) {v : V} {norm : Scalar F}
    (h : ¬ norm.IsChecked) : FailsBy Φ (Bidiagonal.normalize v norm) := by
  have hdiv := (div_unchecked (a := 1) fun hk => h hk.2).exists_ok
  exact .ite ((FailsBy.of_ok hdiv).bind fun a => hV.scale v a) (.ok v)

namespace UncheckedParts

variable {A : LinearOperator V U} (h : UncheckedParts Φ A)

include h

omit [SignedFormat F] in
theorem process : ProcessFailsBy Φ A where
  range := h.range
  domain := h.domain
  apply := h.apply
  adjoint := h.adjoint
  unit_range _ := normalize_failsBy h.range (h.norm_range _)
  unit_domain _ := normalize_failsBy h.domain (h.norm_domain _)

omit [FloatingPoint F] [SignedFormat F] in
/-- The scalars of a step are unchecked, if `alpha` was before it. -/
theorem step_unchecked {p p' : Bidiagonal (Scalar F) U V} (hp : ¬ p.alpha.IsChecked)
    (hstep : (∃ u : U, p'.beta = Vectors.norm u) ∧
      (p'.alpha = p.alpha ∨ ∃ v : V, p'.alpha = Vectors.norm v)) :
    ¬ p'.alpha.IsChecked ∧ ¬ p'.beta.IsChecked := by
  obtain ⟨⟨u, hu⟩, halpha⟩ := hstep
  constructor
  · rcases halpha with hkept | ⟨v, hv⟩
    · rwa [hkept]
    · rw [hv]
      exact h.norm_domain v
  · rw [hu]
    exact h.norm_range u

end UncheckedParts

/-- What the scalars of a problem are compared with. -/
def Problem.tolerances {α : Type} (P : Problem α U V) : Tolerances α :=
  ⟨P.damp, P.atol, P.btol, P.ctol, P.maxiter⟩

namespace Run

variable {P : Problem (Scalar F) U V} {s : Run (Scalar F) U V}

/-- **What an iteration of a solve relies on.** -/
structure Safe (s : Run (Scalar F) U V) : Prop where
  recurrences : (⟨s.rotation, s.residual, s.norms⟩ : Recurrences (Scalar F)).Safe
  alpha : ¬ s.process.alpha.IsChecked
  normb : ¬ s.normb.IsChecked

/-- **The scalars of an iteration never fail**, and if no rule ends it, neither do those of the next
one. -/
theorem Safe.advance (hs : s.Safe) (hP : P.tolerances.Usable) (h : UncheckedParts Φ P.operator)
    (hcall : ∀ n, Φ (.interrupted n)) :
    Controlled Φ (advance P) s fun _ s' => s'.stop = .ongoing → s'.Safe := by
  have hrec := hs.recurrences
  unfold Run.advance
  refine .modify_bind (.onPart_bind (.of_failsBy h.process.step fun _ _ => Bidiagonal.step_norms)
    fun _ p hp => .get_bind ?_)
  obtain ⟨halpha, hbeta⟩ := h.step_unchecked hs.alpha hp
  refine .ofExcept_bind (hrec.rotation.advance halpha hP.damp) fun (q, t) ht => .modify_bind ?_
  have hdiv := ht.divides hrec.sbar
  have hupdate := h.domain.update (.of_ok hdiv.hbar) (.of_ok hdiv.x) (.of_ok hdiv.h)
  refine .onPart_bind (.of_failsBy (hupdate p.v) fun _ _ _ => trivial) fun _ w _ => ?_
  refine .ofExcept_bind (hrec.residual.advance ht) fun (r, normr) hr => .modify_bind ?_
  refine .ofExcept_bind (hrec.norms.advance hrec.rotation ht halpha hbeta _)
    fun (m, v) ⟨hm, hconda, hzero⟩ => .modify_bind (.get_bind ?_)
  have hnormar : ¬ (Arithmetic.abs q.zetabar).IsChecked := ht.safe.zetabar
  refine .ofExcept_bind (StoppingTests.compute_returns hnormar hconda hs.normb hP.atol hP.btol)
    fun tests htests => ?_
  refine .onPart_bind (.of_failsBy (.see hcall _ _) fun _ _ _ => trivial) fun _ o _ => ?_
  refine .ofExcept_bind (use_returns hP.ctol) fun ctol _ => .modify_ends fun hgo => ?_
  exact ⟨.next ht hr hm (fun hz => htests (hzero hz)) hgo, halpha, hs.normb⟩

omit [Vectors (Scalar F) U] in
/-- **The state before the first iteration**, from scalars that are norms. -/
theorem begin_returns {p : Bidiagonal (Scalar F) U V} (halpha : ¬ p.alpha.IsChecked)
    (hbeta : ¬ p.beta.IsChecked) (x zero : V) (o : Observers (Scalar F)) :
    Returns (Run.begin p x zero o) Safe := by
  obtain ⟨norms, hnorms, hsafe⟩ := Recurrences.norms_returns halpha hbeta
  unfold Run.begin
  rw [hnorms]
  exact .ok ⟨hsafe, halpha, hbeta⟩

end Run

namespace Problem

variable {P : Problem (Scalar F) U V} {p : Bidiagonal (Scalar F) U V} {x zero : V}
  {o : Observers (Scalar F)}

/-- The scalars that a solve starts from are norms. -/
theorem started_returns {p' : Bidiagonal (Scalar F) U V} (h : UncheckedParts Φ P.operator)
    (hstart : (Bidiagonal.start P.operator x).run p = .ok () p') :
    Returns (Run.begin p' x zero o) Run.Safe := by
  obtain ⟨⟨u, hu⟩, v, hv⟩ := Bidiagonal.start_norms hstart
  exact Run.begin_returns (hv ▸ h.norm_domain v) (hu ▸ h.norm_range u) x zero o

/-- **All states from which a solve goes on.** -/
theorem Reaches.safe {k : ℕ} {s : Run (Scalar F) U V} (hP : P.tolerances.Usable)
    (h : UncheckedParts Φ P.operator) (hcall : ∀ n, Φ (.interrupted n))
    (hs : P.Reaches p x zero o k s) (hgo : s.stop = .ongoing) : s.Safe := by
  induction hs with
  | begin hstart hbegin _ =>
    obtain ⟨s', hs', hsafe⟩ := started_returns h hstart
    exact Except.ok.inj (hs'.symm.trans hbegin) ▸ hsafe
  | advance _ hstop _ hs ih =>
    exact ((ih hstop).advance hP h hcall).returned () _ hs hgo

/-- **A solve fails by what its vectors, its operator and its callback fail by.** -/
theorem failed_beside_scalars {w : Wreck (Scalar F) V} (hP : P.tolerances.Usable)
    (h : UncheckedParts Φ P.operator) (hcall : ∀ n, Φ (.interrupted n))
    (hw : P.solve p x zero o = .failed w) : Φ w.fault := by
  rcases failed_cases hw with ⟨p', hstart⟩ | ⟨p', hstart, hbegin⟩ | ⟨k, s, s', hs, hadvance⟩
  · exact h.process.start x _ _ _ hstart
  · obtain ⟨s, hs, -⟩ : Returns (Run.begin p' x zero o) Run.Safe := started_returns h hstart
    rw [hbegin] at hs
    cases hs
  · have hsafe := hs.reached.safe hP h hcall hs.ongoing
    exact (hsafe.advance hP h hcall).failed _ _ hadvance

end Problem

/-! ### Options, arrays and numbers -/

theorem Value.signOf_eq_positive {x : Float} : signOf x = .positive ↔ 0 < x := by
  have hasymm (h : x < 0) (h' : 0 < x) : False :=
    lt_asymm (Binary64.lt_iff.1 h).2 (Binary64.lt_iff.1 h').2
  unfold signOf
  split_ifs with hneg hpos hzero
  · simpa using hasymm hneg
  · simpa using hpos
  · simpa using hpos
  · simpa using hpos

/-- **The tolerance for a limit of the condition number** is found, whatever double the limit is. -/
theorem Double.limitTolerance_ofFloat (x : Float) :
    limitTolerance (ofFloat x) = .ok (ofFloat (if 0 < x then 1 / x else 0)) := by
  have hlt : Arithmetic.lt 0 (ofFloat x) = decide (0 < x) := rfl
  unfold limitTolerance
  by_cases hpos : 0 < x
  · rw [hlt, decide_eq_true hpos, if_pos rfl, if_pos hpos]
    have hzero : (ofFloat x).isZero = false :=
      Number.ne_zero_of_pos (a := .double x) (decide_eq_true hpos)
    obtain ⟨_, hdiv, rfl⟩ := div_returns (a := 1) (.inr hzero)
    exact hdiv
  · rw [hlt, decide_eq_false hpos, if_neg Bool.false_ne_true, if_neg hpos]
    rfl

/-- **The tolerance of options** is the one that their limit stands for, and is found for every
number. -/
theorem Options.ctol_of_number {o : Options} {x : Float} (hx : o.conlim = .number x) :
    ∃ c, o.ctol = .ok c ∧ limitTolerance (Double.ofFloat x) = .ok (Double.ofFloat c) := by
  have hctol : o.ctol = if Value.signOf x = .positive then .ok (1 / x) else .ok 0 := by
    unfold Options.ctol
    rw [hx]
    rfl
  refine ⟨_, ?_, Double.limitTolerance_ofFloat x⟩
  rw [hctol]
  by_cases hpos : 0 < x
  · rw [if_pos (Value.signOf_eq_positive.2 hpos), if_pos hpos]
  · rw [if_neg fun h => hpos (Value.signOf_eq_positive.1 h), if_neg hpos]

/-- Options whose tolerances are numbers, of whatever value. -/
structure Options.AreNumbers (o : Options) : Prop where
  damp : ∃ x, o.damp = .number x
  atol : ∃ x, o.atol = .number x
  btol : ∃ x, o.btol = .number x
  conlim : ∃ x, o.conlim = .number x

/-- What can end a solve on arrays: what arrays or the operator report, and the callback. -/
def Operator.Announces (A : Operator) (e : Fault) : Prop :=
  e.isOfVectors = true ∨ A.Reports e ∨ ∃ n, e = .interrupted n

/-- **Arrays** have unchecked norms, and report nothing about scalars. -/
theorem Operator.uncheckedParts (A : Operator) :
    UncheckedParts A.Announces A.toLinear where
  range := Tensor.failBy fun _ => .inl
  domain := Tensor.failBy fun _ => .inl
  apply x := checked_failsBy (fun _ => .inl) (fun t _ h => .inr (.inl (.inl ⟨t, h⟩))) x
  adjoint y := checked_failsBy (fun _ => .inl) (fun t _ h => .inr (.inl (.inr ⟨t, h⟩))) y
  norm_range _ := nofun
  norm_domain _ := nofun

/-- Options that are numbers leave tolerances that can be used. -/
theorem Prepared.usable_of_numbers {p : Prepared} {o : Options} (hp : p.settings = .ofOptions o)
    (ho : o.AreNumbers) : p.problem.tolerances.Usable := by
  obtain ⟨⟨damp, hdamp⟩, ⟨atol, hatol⟩, ⟨btol, hbtol⟩, ⟨conlim, hconlim⟩⟩ := ho
  obtain ⟨c, hc, -⟩ := Options.ctol_of_number hconlim
  unfold problem
  rw [hp, Settings.ofOptions, hdamp, hatol, hbtol, hc]
  exact ⟨nofun, nofun, nofun, nofun⟩

/-- **A prepared request whose options are numbers** fails only by what arrays, its operator and its
callback report, once its process is made. -/
theorem Prepared.failed_beside_scalars {p : Prepared} {o : Options} {callback : Callback Double}
    {w : Wreck Double Tensor} {process : Bidiagonal Double Tensor Tensor}
    (hp : p.settings = .ofOptions o) (ho : o.AreNumbers)
    (hmade : bidiagonalize p.operator p.b (some (.array p.x)) (.ok (some p.type)) = .ok process)
    (hw : p.solve callback = .failed w) : p.operator.Announces w.fault := by
  unfold solve at hw
  rw [hmade] at hw
  have hcall (n : ℕ) : p.operator.Announces (.interrupted n) := .inr (.inr ⟨n, rfl⟩)
  exact Problem.failed_beside_scalars (usable_of_numbers hp ho) p.operator.uncheckedParts hcall hw

namespace Problem

/-- **No solve fails in its scalars**, on numbers whose kinds are tracked. Let the tolerances be
numbers and the norms of vectors unchecked.
* For every sequence of entries, the recurrences begin; as long as no rule has fired, each iteration
  returns, and so do the quotients of the update of the solution.
* A solve fails only by what its vectors, its operator and its callback fail by.
* Every number that limits the condition number has a tolerance. -/
theorem scalars_never_fail {U V : Type} [Vectors Double U] [Vectors Double V]
    (P : Problem Double U V) (hP : P.tolerances.Usable) :
    (∀ (alpha beta : Double) (e : ℕ → Entries Double), ¬ alpha.IsChecked → ¬ beta.IsChecked →
      (∀ k, ¬ (e k).alpha.IsChecked ∧ ¬ (e k).beta.IsChecked) →
      (∃ s, Recurrences.initial alpha beta = .ok s) ∧
      ∀ k s, Recurrences.Continues P.tolerances alpha beta e k s →
        ∃ row, s.advance P.tolerances beta (e k) (k + 1 : ℕ) = .ok row ∧
          row.step.Divides row.state.rotation) ∧
    (∀ Φ, UncheckedParts Φ P.operator → (∀ n, Φ (.interrupted n)) →
      ∀ p x zero o w, P.solve p x zero o = .failed w → Φ w.fault) ∧
    ∀ (o : Options) (x : Float), o.conlim = .number x →
      ∃ c, o.ctol = .ok c ∧ limitTolerance (Double.ofFloat x) = .ok (Double.ofFloat c) := by
  refine ⟨fun alpha beta e ha hb he => ⟨?_, fun k s hs => ?_⟩, ?_, ?_⟩
  · exact (Recurrences.initial_returns ha hb).exists_ok
  · obtain ⟨row, hrow, hdiv, -⟩ := (hs.safe hP ha hb he).advance hP hb (he k).1 (he k).2 (k + 1 : ℕ)
    exact ⟨row, hrow, hdiv⟩
  · exact fun Φ h hcall p x zero o w hw => failed_beside_scalars hP h hcall hw
  · exact fun o x hx => Options.ctol_of_number hx

/-- A problem on arrays whose two products copy. -/
def copyingProblem : Problem Double Tensor Tensor := ⟨⟨.ok, .ok⟩, 0, 0, 0, 0, 10⟩

/-- A norm that is infinite. -/
def infiniteNorm : Double := unchecked .double (.double Binary64.infinity)

/-- A norm that is no number. -/
def undefinedNorm : Double := unchecked .double (.double Binary64.nan)

/-- From infinite norms on, with norms that are no numbers, the first iteration returns. -/
theorem copyingProblem_scalars :
    copyingProblem.tolerances.Usable ∧
    (∃ s row, Recurrences.initial infiniteNorm infiniteNorm = .ok s ∧
      s.advance copyingProblem.tolerances infiniteNorm
        ⟨undefinedNorm, undefinedNorm, undefinedNorm⟩ 1 = .ok row) ∧
    (∀ p x zero o w, copyingProblem.solve p x zero o = .failed w →
      w.fault.isOfVectors = true ∨ ∃ n, w.fault = .interrupted n) ∧
    ∃ c, ({} : Options).ctol = .ok c := by
  have hP : copyingProblem.tolerances.Usable := ⟨nofun, nofun, nofun, nofun⟩
  obtain ⟨hrec, hsolve, hctol⟩ := scalars_never_fail copyingProblem hP
  have hparts : UncheckedParts (fun e => e.isOfVectors = true ∨ ∃ n, e = .interrupted n)
      copyingProblem.operator :=
    { range := Tensor.failBy fun _ => .inl
      domain := Tensor.failBy fun _ => .inl
      apply := .ok
      adjoint := .ok
      norm_range := nofun
      norm_domain := nofun }
  obtain ⟨⟨s, hs⟩, hadvance⟩ := hrec infiniteNorm infiniteNorm
    (fun _ => ⟨undefinedNorm, undefinedNorm, undefinedNorm⟩) nofun nofun fun _ => ⟨nofun, nofun⟩
  obtain ⟨row, hrow, -⟩ := hadvance 0 s (.initial hs)
  obtain ⟨c, hc, -⟩ := hctol {} 1e8 rfl
  exact ⟨hP, ⟨s, row, hs, hrow⟩, hsolve _ hparts fun n => .inr ⟨n, rfl⟩, c, hc⟩

end Problem

end LeastSquares
