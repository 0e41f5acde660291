import LeastSquares.Proofs.Iterations

/-!
# What a step that succeeds has done

For any arithmetic, any vectors and any operator: which products a step of the process has made and
counted, and what an iteration has done to the numbers that a run keeps of itself. Whatever values
came out of it, a step that succeeds has asked for exactly the products that it counts.

* `run_bind_eq_ok`: an action that succeeds succeeds in each of its parts.
* `Tally.afterStep`: the products of one more step.
* `Bidiagonal.start_ok`, `Bidiagonal.step_ok`: **the products of the start and of a step.**
* `Run.advance_ok`: **what an iteration has done.**
* `Problem.Reaches.stop_eq_maxiter`: **when the budget ends an iteration.**
-/

namespace LeastSquares

/-! ### Actions that succeed -/

section

variable {σ τ ε α β : Type} {f : α → EStateM ε σ β} {s s' : σ} {b : β}

/-- **An action that succeeds succeeds in each of its parts.** -/
theorem run_bind_eq_ok {x : EStateM ε σ α} :
    (x >>= f).run s = .ok b s' ↔ ∃ a t, x.run s = .ok a t ∧ (f a).run t = .ok b s' := by
  rw [EStateM.run_bind]
  cases x.run s <;> simp

theorem run_get_bind (f : σ → EStateM ε σ β) (s : σ) : (get >>= f).run s = (f s).run s := rfl

theorem run_modify_bind (g : σ → σ) (f : Unit → EStateM ε σ β) (s : σ) :
    ((modify g : EStateM ε σ Unit) >>= f).run s = (f ()).run (g s) := rfl

theorem run_ofExcept_bind_eq_ok {x : Except ε α} :
    ((ofExcept x : EStateM ε σ α) >>= f).run s = .ok b s' ↔
      ∃ a, x = .ok a ∧ (f a).run s = .ok b s' := by
  rw [run_bind_eq_ok]
  cases x with
  | ok a => simp
  | error e =>
    have h : (ofExcept (.error e) : EStateM ε σ α).run s = .error e s := rfl
    simp [h]

theorem run_onPart_bind_eq_ok {get : σ → τ} {set : τ → σ → σ} {action : EStateM ε τ α} :
    (onPart get set action >>= f).run s = .ok b s' ↔
      ∃ a t, action.run (get s) = .ok a t ∧ (f a).run (set t s) = .ok b s' := by
  rw [run_bind_eq_ok, run_onPart]
  cases action.run (get s) <;> simp

end

/-- The products of one more step, which makes the second one if `beta` is positive. -/
def Tally.afterStep (t : Tally) (positive : Bool) : Tally :=
  if positive then t.addForward.addAdjoint else t.addForward

variable {α U V : Type} [Arithmetic α] [Vectors α U] [Vectors α V]

namespace Bidiagonal

variable {A : LinearOperator V U} {p p' : Bidiagonal α U V}

section

variable {β : Type} {b : β}

omit [Arithmetic α] [Vectors α U] [Vectors α V] in
theorem run_forward_bind_eq_ok {x : V} {f : U → EStateM Fault (Bidiagonal α U V) β} :
    (forward A x >>= f).run p = .ok b p' ↔ ∃ y, A.apply x = .ok y ∧
      (f y).run { p with asked := p.asked.addForward } = .ok b p' := by
  have h : (forward A x >>= f).run p =
      (ofExcept (A.apply x) >>= f).run { p with asked := p.asked.addForward } := rfl
  rw [h, run_ofExcept_bind_eq_ok]

omit [Arithmetic α] [Vectors α U] [Vectors α V] in
theorem run_backward_bind_eq_ok {f : V → EStateM Fault (Bidiagonal α U V) β} :
    (backward A >>= f).run p = .ok b p' ↔ ∃ z, A.adjoint p.u = .ok z ∧
      (f z).run { p with asked := p.asked.addAdjoint } = .ok b p' := by
  have h : (backward A >>= f).run p =
      (ofExcept (A.adjoint p.u) >>= f).run { p with asked := p.asked.addAdjoint } := rfl
  rw [h, run_ofExcept_bind_eq_ok]

omit [Vectors α V] in
theorem run_takeU_bind_eq_ok {u : U} {f : Unit → EStateM Fault (Bidiagonal α U V) β} :
    (takeU u >>= f).run p = .ok b p' ↔ ∃ w, normalize u (Vectors.norm u) = .ok w ∧
      (f ()).run { p with u := w, counted := p.counted.addForward, beta := Vectors.norm u } =
        .ok b p' := by
  have h : (takeU u >>= f).run p = (ofExcept (normalize u (Vectors.norm u)) >>= fun w =>
      modify (fun q : Bidiagonal α U V => { q with u := w }) >>= f).run
        { p with u := u, counted := p.counted.addForward, beta := Vectors.norm u } := by
    simp only [takeU, EStateM.run_bind, EStateM.run_modify, EStateM.run_get]
    cases normalize u (Vectors.norm u) <;> rfl
  rw [h, run_ofExcept_bind_eq_ok]
  rfl

omit [Vectors α U] in
theorem run_takeV_eq_ok {v : V} :
    (takeV v).run p = .ok () p' ↔ ∃ w, normalize v (Vectors.norm v) = .ok w ∧
      { p with v := w, counted := p.counted.addAdjoint, alpha := Vectors.norm v } = p' := by
  have h : (takeV v).run p = EStateM.run (ofExcept (normalize v (Vectors.norm v)) >>= fun w =>
      modify (fun q : Bidiagonal α U V => { q with v := w }))
        { p with v := v, counted := p.counted.addAdjoint, alpha := Vectors.norm v } := rfl
  rw [h, run_ofExcept_bind_eq_ok]
  simp only [EStateM.run_modify, EStateM.Result.ok.injEq, true_and]

end

/-- **The products of the start** are one of each kind. -/
theorem start_ok {x : V} (h : (start A x).run p = .ok () p') :
    p'.counted = p.counted.addForward.addAdjoint ∧ p'.asked = p.asked.addForward.addAdjoint := by
  simp only [start, run_forward_bind_eq_ok, run_get_bind, run_ofExcept_bind_eq_ok,
    run_takeU_bind_eq_ok, run_backward_bind_eq_ok, run_takeV_eq_ok] at h
  obtain ⟨y, -, u, -, w, -, z, -, v, -, w', -, rfl⟩ := h
  exact ⟨rfl, rfl⟩

/-- The last scalar of the start is a norm. -/
theorem start_alpha {x : V} (h : (start A x).run p = .ok () p') :
    ∃ v : V, p'.alpha = Vectors.norm v := by
  simp only [start, run_forward_bind_eq_ok, run_get_bind, run_ofExcept_bind_eq_ok,
    run_takeU_bind_eq_ok, run_backward_bind_eq_ok, run_takeV_eq_ok] at h
  obtain ⟨y, -, u, -, w, -, z, -, v, -, w', -, rfl⟩ := h
  exact ⟨v, rfl⟩

/-- **The products of a step**: one with the operator, and one with its adjoint if the new `beta` is
positive. -/
theorem step_ok (h : (step A).run p = .ok () p') :
    p'.counted = p.counted.afterStep (Arithmetic.lt 0 p'.beta) ∧
      p'.asked = p.asked.afterStep (Arithmetic.lt 0 p'.beta) := by
  simp only [step, run_get_bind, run_modify_bind, run_ofExcept_bind_eq_ok, run_forward_bind_eq_ok,
    run_takeU_bind_eq_ok] at h
  obtain ⟨u, -, y, -, u', -, w, -, h⟩ := h
  split_ifs at h with hb
  · simp only [run_get_bind, run_modify_bind, run_ofExcept_bind_eq_ok, run_backward_bind_eq_ok,
      run_takeV_eq_ok] at h
    obtain ⟨v, -, z, -, v', -, w', -, rfl⟩ := h
    simp only [Tally.afterStep, if_pos hb, and_self]
  · simp only [EStateM.run_pure, EStateM.Result.ok.injEq, true_and] at h
    subst h
    simp only [Tally.afterStep, if_neg hb, and_self]

end Bidiagonal

namespace Run

/-- **What an iteration has done** that leaves the state `s'`, with the statistics `t`. -/
structure Advanced (P : Problem α U V) (s s' : Run α U V) (t : StoppingTests α) : Prop where
  process : (Bidiagonal.step P.operator).run s.process = .ok () s'.process
  iteration : s'.iteration = s.iteration + 1
  observers : s'.observers = s.observers.seen s'.iteration t
  stop : ∃ ctol, s'.stop = t.check s'.iteration P.maxiter P.atol ctol

/-- **An iteration that succeeds** has seen some statistics. -/
theorem advance_ok {P : Problem α U V} {s s' : Run α U V} (h : (advance P).run s = .ok () s') :
    ∃ t, Advanced P s s' t := by
  simp only [advance, onProcess, onIterate, onObservers, run_get_bind, run_modify_bind,
    run_ofExcept_bind_eq_ok, run_onPart_bind_eq_ok, Observers.run_see] at h
  obtain ⟨⟨⟩, p, hstep, q, -, ⟨⟩, w, -, e, -, n, -, t, -, ⟨⟩, o, hsee, ctol, -, h⟩ := h
  simp only [EStateM.run_modify, EStateM.Result.ok.injEq, true_and] at h
  subst h
  split_ifs at hsee
  injection hsee with _ ho
  exact ⟨t, hstep, rfl, ho.symm, ctol, rfl⟩

end Run

namespace Problem

variable {P : Problem α U V} {p : Bidiagonal α U V} {x zero : V} {o : Observers α} {k : ℕ}
  {s : Run α U V}

theorem Reaches.iteration_eq (h : P.Reaches p x zero o k s) : s.iteration = k := by
  induction h with
  | begin _ hbegin _ => exact (begun hbegin).iteration_eq
  | advance _ _ _ hs ih =>
    obtain ⟨t, hadv⟩ := Run.advance_ok hs
    rw [hadv.iteration, ih]

/-- **The budget ends an iteration** if it is the last that the budget allows, and only then. -/
theorem Reaches.stop_eq_maxiter (h : P.Reaches p x zero o k s) :
    s.stop = .maxiter ↔ k = P.maxiter ∧ 1 ≤ k := by
  cases h with
  | begin hstart hbegin hopen => simp [begin_stop hbegin]
  | @advance k s₀ _ h hstop hk hs =>
    obtain ⟨t, hadv⟩ := Run.advance_ok hs
    obtain ⟨ctol, hcheck⟩ := hadv.stop
    rw [hcheck, StoppingTests.check_eq_maxiter, hadv.iteration, h.iteration_eq]
    omega

end Problem

end LeastSquares
