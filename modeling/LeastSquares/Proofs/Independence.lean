import LeastSquares.Proofs.Halves
import LeastSquares.Proofs.RealSolve

/-!
# What a solve computes

Tolerances, budget and observers decide only when a solve ends, never what it computes. Two solves
from the same process, with the same operator and the same damping, go through states that are alike
as long as both go on. So a callback that ends a solve leaves the solution that the solve returns
whose budget ends with the same iteration. All of it holds in any arithmetic.

* `Run.Alike`: states that differ only in what watches them.
* `Problem.Completes`: **an iteration that is completed**, with its statistics.
* `Problem.Reaches.alike`: two solves in step.
* `Problem.Completes.solve_failed`, `Problem.Completes.solve_last`: what is left of a solve that a
  callback ends, and of one that a budget ends.
* `Problem.computes_alike`: **how a solve is ended does not change what it computes.**
* `Request.prepare_shares`: which calls are solves of this kind.
-/

namespace LeastSquares

open Arithmetic

namespace Run

variable {α U V : Type}

/-- **Two states that differ only in what watches them**, and in the rule that was looked at last. -/
def Alike (s s' : Run α U V) : Prop := s' = s.watchedBy s'.observers s'.stop

namespace Alike

variable {s s' w : Run α U V}

theorem of_watchedBy (s : Run α U V) (o : Observers α) (r : StopReason) :
    Alike s (s.watchedBy o r) := rfl

theorem symm (h : Alike s s') : Alike s' s := by
  unfold Alike
  rw [h]
  rfl

theorem trans {s'' : Run α U V} (h : Alike s s') (h' : Alike s' s'') : Alike s s'' := by
  unfold Alike at *
  rw [h', h]
  rfl

theorem iterate_eq (h : Alike s s') : s.iterate = s'.iterate := by rw [h]; rfl

theorem statistics_eq [Arithmetic α] {P P' : Problem α U V} (h : Alike s s') (ha : P.atol = P'.atol)
    (hb : P.btol = P'.btol) : s.statistics P = s'.statistics P' := by
  rw [h, statistics, statistics, ha, hb]
  rfl

variable [Arithmetic α] [Vectors α U] [Vectors α V]

/-- **States that are alike are computed on alike.** -/
theorem compute {A : LinearOperator V U} {damp : α} (h : Alike s s')
    (hs : (compute A damp).run s = .ok () w) : ∃ w', (compute A damp).run s' = .ok () w' ∧
      Alike w w' := by
  refine ⟨w.watchedBy s'.observers s'.stop, ?_, of_watchedBy _ _ _⟩
  have := compute_ignores s'.observers s'.stop A damp s
  rw [hs] at this
  rw [h]
  exact this

end Alike

variable [Arithmetic α] [Vectors α V]

/-- **A run begins alike** under all observers. -/
theorem begin_alike {q : Bidiagonal α U V} {x zero : V} {o o' : Observers α} {s s' : Run α U V}
    (h : Run.begin q x zero o = .ok s) (h' : Run.begin q x zero o' = .ok s') : Alike s s' := by
  unfold Run.begin at h h'
  simp only [bind_eq_ok] at h h'
  obtain ⟨norms, hn, h⟩ := h
  obtain ⟨norms', hn', h'⟩ := h'
  obtain rfl : norms = norms' := Except.ok.inj (hn.symm.trans hn')
  injection h with h
  injection h' with h'
  rw [← h, ← h']
  rfl

end Run

namespace Problem

variable {α U V : Type} [Arithmetic α] [Vectors α U] [Vectors α V] {P P' : Problem α U V}
  {p : Bidiagonal α U V} {x zero : V} {o o' : Observers α} {k : ℕ} {s s' : Run α U V}
  {t t' : StoppingTests α}

/-- **Two problems with the same operator and the same damping**, to be ended by other rules. -/
structure Shares (P P' : Problem α U V) : Prop where
  operator_eq : P.operator = P'.operator
  damp_eq : P.damp = P'.damp

variable (P p x zero o) in
/-- **The `k`-th iteration is completed**: everything of it is computed, in the state `s`, and so are
its statistics `t`, of which the observers are told. -/
inductive Completes : ℕ → Run α U V → StoppingTests α → Prop
  | intro {k : ℕ} {s₀ s : Run α U V} {t : StoppingTests α} (h : P.Begins p x zero o k s₀)
      (hs : (Run.compute P.operator P.damp).run s₀ = .ok () s) (ht : s.statistics P = .ok t) :
      Completes (k + 1) s t

/-- An iteration that has ended is completed. -/
theorem Reaches.completes (h : P.Reaches p x zero o (k + 1) s) :
    ∃ w t, P.Completes p x zero o (k + 1) w t ∧ w.Alike s := by
  cases h with
  | advance h hstop hk hs =>
    obtain ⟨w, t, ctol, hw, ht, -, -, rfl⟩ := Run.run_advance_eq_ok.1 hs
    exact ⟨w, t, .intro ⟨h, hstop, hk⟩ hw ht, .of_watchedBy _ _ _⟩

/-- **What a callback is told** are the statistics of iterations that are completed. -/
theorem Reaches.of_mem_calls (ho : o.calls = []) (h : P.Reaches p x zero o k s) {n : ℕ}
    (ht : (n, t) ∈ s.observers.calls) : ∃ w, P.Completes p x zero o n w t := by
  induction h with
  | begin _ hbegin _ =>
    rw [(begun hbegin).observers_eq, ho] at ht
    cases ht
  | @advance k s s' h hstop hk hs ih =>
    obtain ⟨w, t', ctol, hw, ht', -, -, rfl⟩ := Run.run_advance_eq_ok.1 hs
    obtain ⟨hobs, hiter⟩ := Run.compute_kept hw
    have hcalls : (n, t) ∈ (s.observers.seen (k + 1) t').calls := by
      rwa [Run.watchedBy, hobs, hiter, h.iteration_eq] at ht
    rw [Observers.seen_calls] at hcalls
    split_ifs at hcalls
    · rcases List.mem_append.1 hcalls with hold | hnew
      · exact ih hold
      · obtain ⟨rfl, rfl⟩ := Prod.mk.inj (List.mem_singleton.1 hnew)
        exact ⟨w, .intro ⟨h, hstop, hk⟩ hw ht'⟩
    · exact ih hcalls

theorem Reaches.callback_eq (h : P.Reaches p x zero o k s) :
    s.observers.callback = o.callback := by
  induction h with
  | begin _ hbegin _ => rw [(begun hbegin).observers_eq]
  | advance _ _ _ hs ih =>
    obtain ⟨t, hadv⟩ := Run.advance_ok hs
    rw [hadv.observers, Observers.seen_callback, ih]

/-- What the first half of an iteration keeps: the number of the iteration is the next one, and the
callback is still the same. -/
theorem Reaches.compute_kept (h : P.Reaches p x zero o k s)
    (hs : (Run.compute P.operator P.damp).run s = .ok () s') : s'.iteration = k + 1 ∧
      ∀ n t, s'.observers.interrupts n t = o.interrupts n t := by
  obtain ⟨hobs, hiter⟩ := Run.compute_kept hs
  refine ⟨by rw [hiter, h.iteration_eq], ?_⟩
  intro n t
  rw [Observers.interrupts, Observers.interrupts, hobs, h.callback_eq]

/-- **The states of two solves are alike**, as long as both go on. -/
theorem Reaches.alike (hP : P.Shares P') (h : P.Reaches p x zero o k s)
    (h' : P'.Reaches p x zero o' k s') : s.Alike s' := by
  -- Both solves go through their states in step; what each rule says is not looked at.
  induction h generalizing s' with
  | @begin q s hstart hbegin _ =>
    cases h' with
    | @begin q' s' hstart' hbegin' _ =>
      rw [← hP.operator_eq, hstart] at hstart'
      obtain rfl : q = q' := by injection hstart'
      exact Run.begin_alike hbegin hbegin'
  | advance _ _ _ hs ih =>
    cases h' with
    | advance h' _ _ hs' =>
      obtain ⟨w, t, _, hw, -, -, -, rfl⟩ := Run.run_advance_eq_ok.1 hs
      obtain ⟨w', t', _, hw', -, -, -, rfl⟩ := Run.run_advance_eq_ok.1 hs'
      obtain ⟨w'', hw'', hww⟩ := (ih h').compute hw
      rw [hP.operator_eq, hP.damp_eq, hw'] at hw''
      obtain rfl : w' = w'' := by injection hw''
      exact ((Run.Alike.of_watchedBy _ _ _).symm.trans hww).trans (.of_watchedBy _ _ _)

/-- **Two solves compute the same** in an iteration that both complete. -/
theorem Completes.agree (hP : P.Shares P') (h : P.Completes p x zero o k s t)
    (h' : P'.Completes p x zero o' k s' t') : s.iterate.x = s'.iterate.x ∧
      t.test1 = t'.test1 ∧ t.test2 = t'.test2 ∧ t.test3 = t'.test3 := by
  cases h with
  | intro h hs ht =>
    cases h' with
    | intro h' hs' ht' =>
      obtain ⟨w, hw, hsw⟩ := (h.reached.alike hP h'.reached).compute hs
      rw [hP.operator_eq, hP.damp_eq, hs'] at hw
      obtain rfl : s' = w := by injection hw
      have ht₁ : s'.statistics P = .ok t := by rwa [← hsw.statistics_eq rfl rfl]
      exact ⟨congrArg Iterate.x hsw.iterate_eq, StoppingTests.compute_agree ht₁ ht'⟩

/-- A completed iteration is completed by every solve in which it begins, with the same statistics if
the tolerances are the same. -/
theorem Completes.shared (hP : P.Shares P') (ha : P.atol = P'.atol) (hb : P.btol = P'.btol)
    (h : P.Completes p x zero o (k + 1) s t) {s₀ : Run α U V}
    (h' : P'.Begins p x zero o' k s₀) :
    ∃ s', P'.Completes p x zero o' (k + 1) s' t ∧ s.Alike s' := by
  cases h with
  | intro h hs ht =>
    obtain ⟨s', hs', hss'⟩ := (h.reached.alike hP h'.reached).compute hs
    rw [hP.operator_eq, hP.damp_eq] at hs'
    exact ⟨s', .intro h' hs' (by rwa [← hss'.statistics_eq ha hb]), hss'⟩

/-- A solve goes as far under a smaller budget, if nothing else ends it. -/
theorem Reaches.within {m : ℕ} (hquiet : ∀ n t, o'.interrupts n t = false)
    (h : P.Reaches p x zero o k s) (hstop : s.stop = .ongoing) (hk : k < m) :
    ∃ s', ({ P with maxiter := m } : Problem α U V).Reaches p x zero o' k s' ∧
      s'.stop = .ongoing := by
  -- On the iterations so far: none of them was ended by a rule, so none is by the same rules under
  -- a budget that is not used up.
  induction h with
  | @begin q s hstart hbegin hopen =>
    have hbegin' : Run.begin q x zero o' = .ok { s with observers := o' } := by
      unfold Run.begin at hbegin ⊢
      cases hn : NormEstimate.initial q.alpha with
      | error e => rw [hn] at hbegin; cases hbegin
      | ok norms =>
        rw [hn] at hbegin
        injection hbegin with hbegin
        rw [← hbegin]
        rfl
    exact ⟨_, .begin hstart hbegin' hopen, hstop⟩
  | @advance k s s' h hgo hmax hs ih =>
    obtain ⟨s₁, hr₁, hgo₁⟩ := ih hgo (by omega)
    obtain ⟨w, t, ctol, hw, ht, -, hctol, rfl⟩ := Run.run_advance_eq_ok.1 hs
    have hshares : P.Shares { P with maxiter := m } := ⟨rfl, rfl⟩
    obtain ⟨w₁, hw₁, hww₁⟩ := (h.alike hshares hr₁).compute hw
    obtain ⟨hiter, hi⟩ := hr₁.compute_kept hw₁
    have ht₁ : w₁.statistics { P with maxiter := m } = .ok t := by
      rwa [← hww₁.statistics_eq rfl rfl]
    have hi₁ : w₁.observers.interrupts w₁.iteration t = false := (hi _ _).trans (hquiet _ _)
    have hadv : (Run.advance { P with maxiter := m }).run s₁ = .ok ()
        (w₁.watchedBy (w₁.observers.seen w₁.iteration t)
          (t.check w₁.iteration m P.atol ctol)) :=
      Run.run_advance_eq_ok.2 ⟨w₁, t, ctol, hw₁, ht₁, hi₁, hctol, rfl⟩
    refine ⟨_, hr₁.advance hgo₁ (Nat.lt_of_succ_lt hk) hadv, ?_⟩
    have hcheck : t.check w.iteration P.maxiter P.atol ctol = .ongoing := hstop
    rw [(h.compute_kept hw).1, ← hiter] at hcheck
    exact StoppingTests.check_ongoing_of_lt hcheck (by rw [hiter]; exact_mod_cast hk)

/-- **What a callback that ends the solve leaves behind** is what the iteration has computed. -/
theorem Completes.solve_failed (h : P.Completes p x zero o k s t)
    (hi : o.interrupts k t = true) : ∃ w, P.solve p x zero o = .failed w ∧
      w.fault = .interrupted k ∧ w.x = s.iterate.x := by
  cases h with
  | @intro k s₀ s t h hs ht =>
    obtain ⟨hiter, hcallback⟩ := h.reached.compute_kept hs
    have hadv : (Run.advance P).run s₀ = .error (.interrupted (k + 1))
        (s.watchedBy (s.observers.seen (k + 1) t) s.stop) := by
      rw [Run.run_advance, hs]
      dsimp only
      rw [Run.run_judge, ht, hiter]
      exact if_pos ((hcallback _ _).trans hi)
    exact ⟨_, h.fails hadv, rfl, rfl⟩

end Problem

/-- **The solution as a solve leaves it**, whether it returns or fails. -/
def Ending.solution {α U V : Type} : Ending α U V → V
  | .returned s => s.iterate.x
  | .failed w => w.x

namespace Problem

variable {α U V : Type} [Arithmetic α] [Vectors α U] [Vectors α V] {P P' : Problem α U V}
  {p : Bidiagonal α U V} {x zero : V} {o o' : Observers α} {k : ℕ} {s s' : Run α U V}
  {t t' : StoppingTests α}

/-- **The last iteration of the budget** leaves the solution that it computes; the solve returns
then, if the limit of the condition number is one that can be used. -/
theorem Completes.solve_last (hquiet : ∀ n t, o.interrupts n t = false)
    (h : P.Completes p x zero o P.maxiter s t) :
    (P.solve p x zero o).solution = s.iterate.x ∧
      ((∃ c, use P.ctol = .ok c) → ∃ s', P.solve p x zero o = .returned s') := by
  generalize hm : P.maxiter = m at h
  cases h with
  | @intro k s₀ s t h hs ht =>
    have hi : s.observers.interrupts s.iteration t = false :=
      ((h.reached.compute_kept hs).2 _ _).trans (hquiet _ _)
    cases hc : use P.ctol with
    | error e =>
      have hadv : (Run.advance P).run s₀ =
          .error e (s.watchedBy (s.observers.seen s.iteration t) s.stop) := by
        rw [Run.run_advance, hs]
        dsimp only
        rw [Run.run_judge, ht, hc]
        simp only [hi, Bool.false_eq_true, if_false]
      rw [h.fails hadv]
      exact ⟨rfl, fun ⟨c, hc'⟩ => by cases hc'⟩
    | ok ctol =>
      have hadv := Run.run_advance_eq_ok.2 ⟨s, t, ctol, hs, ht, hi, hc, rfl⟩
      have hr := h.reached.advance h.ongoing h.budget hadv
      rw [hr.returns (.inr hm.symm)]
      exact ⟨rfl, fun _ => ⟨_, rfl⟩⟩

/-- A completed iteration is the last one of a budget of its number. -/
theorem Completes.within (hquiet : ∀ n t, o'.interrupts n t = false)
    (h : P.Completes p x zero o k s t) :
    ∃ s', ({ P with maxiter := k } : Problem α U V).Completes p x zero o' k s' t ∧
      s.Alike s' := by
  cases h with
  | @intro k s₀ s t h hs ht =>
    obtain ⟨s₁, hr₁, hgo₁⟩ := h.reached.within hquiet h.ongoing (Nat.lt_succ_self k)
    have hshares : P.Shares { P with maxiter := k + 1 } := ⟨rfl, rfl⟩
    exact (Completes.intro h hs ht).shared hshares rfl rfl ⟨hr₁, hgo₁, Nat.lt_succ_self k⟩

variable (P P' p x zero o o') in
/-- **Tolerances, budget and observers decide only when a solve ends**, never what it computes. An
iteration that two solves complete leaves the same solution and the same statistics in both. And a
callback that ends a solve at an iteration leaves the solution that the solve returns which has that
number of iterations for a budget, and no such callback. -/
theorem computes_alike (hP : P.Shares P') :
    (∀ k s s' t t', P.Completes p x zero o k s t → P'.Completes p x zero o' k s' t' →
      s.iterate.x = s'.iterate.x ∧
        t.test1 = t'.test1 ∧ t.test2 = t'.test2 ∧ t.test3 = t'.test3) ∧
    (∀ k s t, P.Completes p x zero o k s t → o.interrupts k t = true →
      (∀ n t, o'.interrupts n t = false) →
      ∃ w, P.solve p x zero o = .failed w ∧ w.fault = .interrupted k ∧ w.x = s.iterate.x ∧
        (({ P with maxiter := k } : Problem α U V).solve p x zero o').solution = w.x ∧
        ((∃ c, use P.ctol = .ok c) → ∃ s',
          ({ P with maxiter := k } : Problem α U V).solve p x zero o' = .returned s')) := by
  constructor
  · intro k s s' t t' h h'
    exact h.agree hP h'
  · intro k s t h hi hquiet
    obtain ⟨w, hw, hfault, hx⟩ := h.solve_failed hi
    obtain ⟨s', hs', hss'⟩ := h.within hquiet
    obtain ⟨hsolution, hreturns⟩ := hs'.solve_last hquiet
    refine ⟨w, hw, hfault, hx, ?_, hreturns⟩
    rw [hsolution, hx, hss'.iterate_eq]

/-- Over the real numbers a first iteration is completed if there is anything to iterate. -/
theorem completes_one {𝕜 E F : Type} [RCLike 𝕜]
    [NormedAddCommGroup E] [InnerProductSpace 𝕜 E] [NormedSpace ℝ E] [FiniteDimensional 𝕜 E]
    [NormedAddCommGroup F] [InnerProductSpace 𝕜 F] [NormedSpace ℝ F] [FiniteDimensional 𝕜 F]
    {A : E →ₗ[𝕜] F} {b : F} {x₀ : E} {P : Problem ℝ F E} (hP : P.operator = .exact A)
    (h : (Bidiagonal.opening A b x₀).alpha * (Bidiagonal.opening A b x₀).beta ≠ 0)
    (hmax : 0 < P.maxiter) (o : Observers ℝ) :
    ∃ s t, P.Completes (.initial b 0) x₀ 0 o 1 s t := by
  have hbegins : ∃ s₀, P.Begins (.initial b 0) x₀ 0 o 0 s₀ := by
    obtain ⟨s, h⟩ := executes_one (o := o) hP h hmax
    cases h with
    | ends h _ | fails h _ => exact ⟨_, h⟩
  obtain ⟨s₀, h₀⟩ := hbegins
  -- Without a callback nothing can fail, and with one the same is computed.
  obtain ⟨s, hr⟩ := reaches_one (o := Run.unwatched) hP h hmax fun _ _ => rfl
  obtain ⟨w, t, hw, -⟩ := hr.completes
  obtain ⟨w', hw', -⟩ := hw.shared ⟨rfl, rfl⟩ rfl rfl h₀
  exact ⟨w', t, hw'⟩

/-- The solves of the identity, with and without a tolerance, and the one that a callback ends. -/
theorem identityProblem_alike : ∃ s s' t t' w,
    identityProblem.Completes (.initial 2 0) 1 0 ⟨none, false, some ⟨fun _ _ => true⟩, [], []⟩
      1 s t ∧
    ({ identityProblem with atol := 1 } : Problem ℝ ℝ ℝ).Completes (.initial 2 0) 1 0
      Run.unwatched 1 s' t' ∧
    s.iterate.x = s'.iterate.x ∧ t.test2 = t'.test2 ∧
    identityProblem.solve (.initial 2 0) 1 0 ⟨none, false, some ⟨fun _ _ => true⟩, [], []⟩ =
      .failed w ∧
    (({ identityProblem with maxiter := 1 } : Problem ℝ ℝ ℝ).solve (.initial 2 0) 1 0
      Run.unwatched).solution = w.x := by
  have hne : (Bidiagonal.opening (LinearMap.id : ℝ →ₗ[ℝ] ℝ) 2 1).alpha *
      (Bidiagonal.opening (LinearMap.id : ℝ →ₗ[ℝ] ℝ) 2 1).beta ≠ 0 := by
    norm_num [Bidiagonal.opening, Bidiagonal.unit, LinearMap.adjoint_id]
  obtain ⟨s, t, h⟩ := completes_one identityProblem_operator hne (by decide)
    ⟨none, false, some ⟨fun _ _ => true⟩, [], []⟩
  obtain ⟨s', t', h'⟩ := completes_one (P := { identityProblem with atol := 1 })
    identityProblem_operator hne (by decide) Run.unwatched
  obtain ⟨hagree, hends⟩ := computes_alike identityProblem { identityProblem with atol := 1 }
    (.initial 2 0) 1 0 ⟨none, false, some ⟨fun _ _ => true⟩, [], []⟩ Run.unwatched ⟨rfl, rfl⟩
  obtain ⟨hx, -, h2, -⟩ := hagree 1 s s' t t' h h'
  obtain ⟨w, hw, -, -, hsolution, -⟩ := hends 1 s t h rfl fun _ _ => rfl
  exact ⟨s, s', t, t', w, h, h', hx, h2, hw, hsolution⟩

end Problem

/-! ### Calls -/

namespace Request

variable {r r' : Request} {p p' : Prepared}

/-- **Calls on the same matrix, right-hand side, solution to begin with and damping** make the same
process for problems that differ only in how they are ended. -/
theorem prepare_shares (hp : r.prepare = .ok p) (hp' : r'.prepare = .ok p') (hx : r.x = r'.x)
    (hA : r.source = r'.source) (hb : r.b = r'.b) (hd : p.settings.damp = p'.settings.damp) :
    p.problem.Shares p'.problem ∧ p.x = p'.x ∧ p.type = p'.type ∧
      bidiagonalize p.operator p.b (some (.array p.x)) (.ok (some p.type)) =
        bidiagonalize p'.operator p'.b (some (.array p'.x)) (.ok (some p'.type)) := by
  have h := prepare_ok hp
  have h' := prepare_ok hp'
  have hop : p.operator = p'.operator := by
    have := h.operator_eq
    rw [hA, h'.operator_eq] at this
    exact (Except.ok.inj this).symm
  have hpx : p.x = p'.x := by
    have := h.updatable
    rw [hx, h'.updatable] at this
    exact (Given.array.inj this).symm
  have hpb : p.b = p'.b := by rw [h.b_eq, h'.b_eq, hb]
  have htype : p.type = p'.type := by
    obtain ⟨t, ht, ht_eq⟩ := h.type_eq
    obtain ⟨t', ht', ht'_eq⟩ := h'.type_eq
    rw [hop, hb, ht'] at ht
    rw [ht_eq, ht'_eq, Except.ok.inj ht, hpx]
  exact ⟨⟨congrArg Operator.toLinear hop, hd⟩, hpx, htype, by rw [hop, hpb, hpx, htype]⟩

end Request

end LeastSquares
