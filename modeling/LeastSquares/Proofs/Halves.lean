import LeastSquares.Proofs.Calls
import LeastSquares.Proofs.Steps

/-!
# The two halves of an iteration

An iteration first computes, and then judges what it has computed: it takes the statistics, shows
them to the observers and looks at the rules. The first half knows neither tolerances nor budget nor
observers. That is said by a change of the state, of what watches it, which every action of the half
passes on to its result: such an action *ignores* the change, and so does every sequence of such
actions.

* `Ignores`: **an action that does not meet a change of the state**, and how such actions compose.
* `Run.compute`, `Run.judge`, `Run.advance_eq_halves`: **the halves of an iteration.**
* `Run.compute_ignores`: what is computed does not meet what watches.
* `Run.run_advance_eq_ok`: an iteration that succeeds, by its halves.
* `StoppingTests.compute_agree`: the statistics do not depend on the tolerances.
-/

namespace LeastSquares

open Arithmetic

section

variable {σ τ ε α β : Type}

/-- The result with its state changed. -/
def mapState (f : σ → τ) : EStateM.Result ε σ α → EStateM.Result ε τ α
  | .ok a s => .ok a (f s)
  | .error e s => .error e (f s)

/-- **An action that does not meet a change of the state.** -/
def Ignores (f : σ → σ) (x : EStateM ε σ α) : Prop := ∀ s, x.run (f s) = mapState f (x.run s)

namespace Ignores

variable {f : σ → σ}

theorem bind {x : EStateM ε σ α} {k : α → EStateM ε σ β} (hx : Ignores f x)
    (hk : ∀ a, Ignores f (k a)) : Ignores f (x >>= k) := by
  intro s
  rw [EStateM.run_bind, EStateM.run_bind, hx]
  cases x.run s with
  | ok a t => exact hk a t
  | error e t => rfl

theorem get_bind {k : σ → EStateM ε σ β} (hread : ∀ s, k (f s) = k s)
    (hk : ∀ s, Ignores f (k s)) : Ignores f (get >>= k) := by
  intro s
  rw [run_get_bind, run_get_bind, hread]
  exact hk s s

theorem ofExcept_ignores (x : Except ε α) : Ignores f (ofExcept x : EStateM ε σ α) := by
  intro s
  cases x <;> rfl

theorem modify_ignores {g : σ → σ} (h : ∀ s, g (f s) = f (g s)) :
    Ignores f (modify g : EStateM ε σ Unit) := by
  intro s
  exact congrArg (EStateM.Result.ok ()) (h s)

theorem onPart_ignores {get : σ → τ} {set : τ → σ → σ} (hget : ∀ s, get (f s) = get s)
    (hset : ∀ t s, set t (f s) = f (set t s)) (x : EStateM ε τ α) :
    Ignores f (onPart get set x) := by
  intro s
  rw [run_onPart, run_onPart, hget]
  cases x.run (get s) with
  | ok a t => exact congrArg (EStateM.Result.ok a) (hset t s)
  | error e t => exact congrArg (EStateM.Result.error e) (hset t s)

end Ignores

end

namespace Run

variable {α U V : Type} [Arithmetic α] [Vectors α U] [Vectors α V]

/-- **The half of an iteration that computes**: all of it but the statistics, the observers and the
rules. -/
def compute (A : LinearOperator V U) (damp : α) : EStateM Fault (Run α U V) Unit := do
  modify fun s => { s with iteration := s.iteration + 1 }
  onProcess (Bidiagonal.step A)
  let s ← get
  let alpha := s.process.alpha
  let beta := s.process.beta
  let (rotation, t) ← ofExcept (s.rotation.advance alpha beta damp)
  modify fun s => { s with rotation := rotation }
  onIterate (Iterate.update rotation t s.process.v)
  let (residual, normr) ← ofExcept (s.residual.advance t rotation)
  modify fun s => { s with residual := residual, normr := normr }
  let (norms, values) ← ofExcept (s.norms.advance alpha beta t s.iteration)
  modify fun s =>
    { s with
      norms := norms, norma := values.norma, conda := values.conda
      normar := Arithmetic.abs rotation.zetabar, normx := Vectors.norm s.iterate.x }

/-- The statistics of a state. -/
def statistics (P : Problem α U V) (s : Run α U V) : Except Fault (StoppingTests α) :=
  StoppingTests.compute s.normr s.normar s.norma s.conda s.normx s.normb P.atol P.btol

/-- **The half of an iteration that judges**: the statistics, the observers and the rules. -/
def judge (P : Problem α U V) : EStateM Fault (Run α U V) Unit := do
  let s ← get
  let tests ← ofExcept (s.statistics P)
  onObservers (Observers.see s.iteration tests)
  let ctol ← ofExcept (use P.ctol)
  modify fun s => { s with stop := tests.check s.iteration P.maxiter P.atol ctol }

theorem advance_eq_halves (P : Problem α U V) :
    advance P = compute P.operator P.damp >>= fun _ => judge P := by
  funext s
  simp only [advance, compute, judge, bind_assoc]
  rfl

/-- The state as other observers would watch it, after another rule. -/
def watchedBy (s : Run α U V) (o : Observers α) (r : StopReason) : Run α U V :=
  { s with observers := o, stop := r }

section

variable (o : Observers α) (r : StopReason)

omit [Arithmetic α] [Vectors α U] [Vectors α V] in
theorem onProcess_ignores {β : Type} (x : EStateM Fault (Bidiagonal α U V) β) :
    Ignores (fun s => s.watchedBy o r) (onProcess x) := by
  refine Ignores.onPart_ignores ?_ ?_ x
  · intro s; rfl
  · intro t s; rfl

omit [Arithmetic α] [Vectors α U] [Vectors α V] in
theorem onIterate_ignores {β : Type} (x : EStateM Fault (Iterate V) β) :
    Ignores (fun s => s.watchedBy o r) (onIterate x : EStateM Fault (Run α U V) β) := by
  refine Ignores.onPart_ignores ?_ ?_ x
  · intro s; rfl
  · intro t s; rfl

/-- **What is computed meets neither the observers nor the rules.** -/
theorem compute_ignores (A : LinearOperator V U) (damp : α) :
    Ignores (fun s => s.watchedBy o r) (compute A damp) := by
  unfold compute
  refine .bind (.modify_ignores fun _ => rfl) fun _ => ?_
  refine .bind (onProcess_ignores o r _) fun _ => ?_
  refine .get_bind (fun _ => rfl) fun s => ?_
  refine .bind (.ofExcept_ignores _) fun turned => ?_
  refine .bind (.modify_ignores fun _ => rfl) fun _ => ?_
  refine .bind (onIterate_ignores o r _) fun _ => ?_
  refine .bind (.ofExcept_ignores _) fun residual => ?_
  refine .bind (.modify_ignores fun _ => rfl) fun _ => ?_
  refine .bind (.ofExcept_ignores _) fun norms => ?_
  exact .modify_ignores fun _ => rfl

end

omit [Vectors α U] [Vectors α V] in
/-- **The half that judges**, by what it finds. -/
theorem run_judge (P : Problem α U V) (s : Run α U V) : (judge P).run s =
    match s.statistics P with
    | .error e => .error e s
    | .ok t =>
      let seen := s.observers.seen s.iteration t
      if s.observers.interrupts s.iteration t then
        .error (.interrupted s.iteration) (s.watchedBy seen s.stop)
      else
        match use P.ctol with
        | .error e => .error e (s.watchedBy seen s.stop)
        | .ok ctol =>
          .ok () (s.watchedBy seen (t.check s.iteration P.maxiter P.atol ctol)) := by
  unfold judge onObservers
  rw [run_get_bind]
  cases s.statistics P with
  | error e => rfl
  | ok t =>
    simp only [EStateM.run_bind, run_ofExcept_ok, run_onPart, Observers.run_see]
    split_ifs
    · rfl
    · cases use P.ctol <;> rfl

theorem run_advance (P : Problem α U V) (s : Run α U V) : (advance P).run s =
    match (compute P.operator P.damp).run s with
    | .ok _ w => (judge P).run w
    | .error e w => .error e w := by
  rw [advance_eq_halves, EStateM.run_bind]
  cases (compute P.operator P.damp).run s <;> rfl

/-- **What is computed changes nothing of what watches**, and counts one iteration. -/
theorem compute_kept {A : LinearOperator V U} {damp : α} {s w : Run α U V}
    (h : (compute A damp).run s = .ok () w) :
    w.observers = s.observers ∧ w.iteration = s.iteration + 1 := by
  constructor
  -- An action that does not meet a change of what watches leaves it as it is.
  · have hw : (compute A damp).run s = mapState (fun w => w.watchedBy s.observers s.stop)
        ((compute A damp).run s) := compute_ignores s.observers s.stop A damp s
    rw [h] at hw
    injection hw with _ hw
    rw [hw]
    rfl
  · simp only [compute, onProcess, onIterate, run_get_bind, run_modify_bind,
      run_ofExcept_bind_eq_ok, run_onPart_bind_eq_ok, EStateM.run_modify,
      EStateM.Result.ok.injEq, true_and] at h
    obtain ⟨⟨⟩, _, -, _, -, ⟨⟩, _, -, _, -, _, -, rfl⟩ := h
    rfl

/-- The estimate of the residual after what is computed, by its own step. -/
theorem compute_residual {A : LinearOperator V U} {damp : α} {s w : Run α U V}
    (h : (compute A damp).run s = .ok () w) :
    ∃ t q, s.residual.advance t q = .ok (w.residual, w.normr) := by
  simp only [compute, onProcess, onIterate, run_get_bind, run_modify_bind,
    run_ofExcept_bind_eq_ok, run_onPart_bind_eq_ok, EStateM.run_modify,
    EStateM.Result.ok.injEq, true_and] at h
  obtain ⟨⟨⟩, _, -, ⟨q, t⟩, -, ⟨⟩, _, -, ⟨e, normr⟩, hresidual, _, -, rfl⟩ := h
  exact ⟨t, q, hresidual⟩

/-- **An iteration that succeeds**, by its halves. -/
theorem run_advance_eq_ok {P : Problem α U V} {s s' : Run α U V} :
    (advance P).run s = .ok () s' ↔ ∃ w t ctol,
      (compute P.operator P.damp).run s = .ok () w ∧ w.statistics P = .ok t ∧
      w.observers.interrupts w.iteration t = false ∧ use P.ctol = .ok ctol ∧
      s' = w.watchedBy (w.observers.seen w.iteration t)
        (t.check w.iteration P.maxiter P.atol ctol) := by
  rw [advance_eq_halves, run_bind_eq_ok]
  constructor
  · rintro ⟨⟨⟩, w, hw, hj⟩
    simp only [judge, onObservers, run_get_bind, run_ofExcept_bind_eq_ok, run_onPart_bind_eq_ok,
      Observers.run_see] at hj
    obtain ⟨t, ht, ⟨⟩, o, hsee, ctol, hc, hj⟩ := hj
    split_ifs at hsee with hi
    injection hsee with _ ho
    injection hj with _ hj
    exact ⟨w, t, ctol, hw, ht, by simpa using hi, hc, by rw [← hj, ← ho]; rfl⟩
  · rintro ⟨w, t, ctol, hw, ht, hi, hc, rfl⟩
    refine ⟨(), w, hw, ?_⟩
    rw [run_judge, ht, hc]
    simp only [hi, Bool.false_eq_true, if_false]

end Run

namespace StoppingTests

variable {α : Type} [Arithmetic α] {normr normar norma normx normb atol btol : α}
  {conda : Extended α} {t : StoppingTests α}

/-- **What the statistics are made of.** The tolerances are in none of them. -/
theorem compute_ok (h : compute normr normar norma conda normx normb atol btol = .ok t) :
    div normr normb = .ok t.test1 ∧
    (if lt 0 normr && lt 0 norma then (div normar (norma * normr)).map Extended.finite
      else .ok .infinite) = .ok t.test2 ∧
    conda.reciprocal = .ok t.test3 := by
  unfold compute at h
  rw [bind_eq_ok] at h
  obtain ⟨test1, h1, h⟩ := h
  split_ifs at h ⊢ with hpos
  all_goals
    simp only [bind_eq_ok] at h
    obtain ⟨test2, h2, test3, h3, _, -, _, -, _, -, _, -, _, -, h⟩ := h
    injection h with h
    subst h
    exact ⟨h1, h2, h3⟩

/-- **The statistics do not depend on the tolerances**, only what the rules make of them does. -/
theorem compute_agree {atol' btol' : α} {t' : StoppingTests α}
    (h : compute normr normar norma conda normx normb atol btol = .ok t)
    (h' : compute normr normar norma conda normx normb atol' btol' = .ok t') :
    t.test1 = t'.test1 ∧ t.test2 = t'.test2 ∧ t.test3 = t'.test3 := by
  obtain ⟨h1, h2, h3⟩ := compute_ok h
  obtain ⟨h1', h2', h3'⟩ := compute_ok h'
  exact ⟨Except.ok.inj (h1.symm.trans h1'), Except.ok.inj (h2.symm.trans h2'),
    Except.ok.inj (h3.symm.trans h3')⟩

/-- A rule that has not fired does not fire under another budget that is not used up. -/
theorem check_ongoing_of_lt {n m m' : Int} {a c : α} (h : t.check n m a c = .ongoing)
    (hm : n < m') : t.check n m' a c = .ongoing := by
  unfold check at *
  rw [if_neg (Int.not_le.2 hm)]
  split_ifs at h ⊢
  rfl

end StoppingTests

end LeastSquares
