import LeastSquares.Proofs.Orthogonal
import LeastSquares.Proofs.Rotations

/-!
# The course of a solve

One iteration over the real numbers as a function of the state, and the states that it leads
through. Tolerances, budget and observers have no part in it: they only end a solve. An iteration
of the program is this function followed by the observers and the rules (`advance_eq`).

* `Run.opening`, `Run.next`: the state before the first iteration, and after one more.
* `Run.Sound`: **what keeps an iteration from dividing by zero**, kept by every iteration that
  leaves `alpha` positive (`Sound.next`).
* `Run.advance_eq`: **an iteration of the program.**
* `Run.course`: the states of a solve, without its observers.
-/

namespace LeastSquares

open Bidiagonal

/-- The solution and its directions after one more iteration. -/
noncomputable def Iterate.next {E : Type} [NormedAddCommGroup E] [NormedSpace ℝ E] (w : Iterate E)
    (q : Rotation ℝ) (t : RotationStep ℝ) (v : E) : Iterate E :=
  let hbar := (-t.thetabar * q.rho / (t.rhoold * t.rhobarold)) • w.hbar + w.h
  { x := w.x + (q.zeta / (q.rho * q.rhobar)) • hbar
    h := (-t.thetanew / q.rho) • w.h + v
    hbar := hbar }

theorem Iterate.update_eq {E : Type} [NormedAddCommGroup E] [NormedSpace ℝ E] (w : Iterate E)
    {q : Rotation ℝ} {t : RotationStep ℝ} (v : E) (h1 : t.rhoold * t.rhobarold ≠ 0)
    (h2 : q.rho * q.rhobar ≠ 0) (h3 : q.rho ≠ 0) :
    (Iterate.update q t v).run w = .ok () (w.next q t v) := by
  simp only [update, exact_div h1, exact_div h2, exact_div h3, EStateM.run_bind, EStateM.run_get,
    EStateM.run_modify, run_ofExcept_ok, Vectors.scale, Vectors.add, Vectors.addScaled]
  rfl

namespace Run

section

variable {U V : Type} {s : Run ℝ U V}

/-- The observers of a solve that nobody watches. -/
def unwatched : Observers ℝ := ⟨none, false, none, [], []⟩

/-- **What keeps an iteration from dividing by zero.** -/
structure Sound (s : Run ℝ U V) : Prop where
  rotation : s.rotation.Sound
  alphabar_pos : 0 < s.rotation.alphabar
  residual : s.residual.Tracks s.rotation
  normA2_pos : 0 < s.norms.normA2
  minrbar_pos : 0 < s.norms.minrbar
  normb_pos : 0 < s.normb

/-- A state without what ends and watches a solve. -/
def bare (s : Run ℝ U V) : Run ℝ U V := { s with stop := .ongoing, observers := unwatched }

@[simp] theorem bare_process : s.bare.process = s.process := rfl

@[simp] theorem bare_rotation : s.bare.rotation = s.rotation := rfl

@[simp] theorem bare_iterate : s.bare.iterate = s.iterate := rfl

@[simp] theorem bare_normb : s.bare.normb = s.normb := rfl

@[simp] theorem bare_normr : s.bare.normr = s.normr := rfl

@[simp] theorem bare_normar : s.bare.normar = s.normar := rfl

@[simp] theorem bare_conda : s.bare.conda = s.conda := rfl

@[simp] theorem bare_iteration : s.bare.iteration = s.iteration := rfl

theorem Sound.of_bare (h : s.bare.Sound) : s.Sound :=
  ⟨h.rotation, h.alphabar_pos, h.residual, h.normA2_pos, h.minrbar_pos, h.normb_pos⟩

end

end Run

variable {𝕜 E F : Type} [RCLike 𝕜]
  [NormedAddCommGroup E] [InnerProductSpace 𝕜 E] [NormedSpace ℝ E] [FiniteDimensional 𝕜 E]
  [NormedAddCommGroup F] [InnerProductSpace 𝕜 F] [NormedSpace ℝ F] [FiniteDimensional 𝕜 F]

namespace Run

variable (A : E →ₗ[𝕜] F) (b : F) (x₀ : E) (damp : ℝ) (s : Run ℝ F E)

/-- The state before the first iteration. -/
noncomputable def opening (o : Observers ℝ) : Run ℝ F E :=
  let p := Bidiagonal.opening A b x₀
  { process := p
    rotation := .initial p.alpha p.beta
    residual := .initial p.beta
    norms := ⟨p.alpha ^ 2, 0, 10 ^ 100⟩
    iterate := ⟨x₀, p.v, 0⟩
    normb := p.beta
    normr := p.beta
    normar := p.alpha * p.beta
    norma := p.alpha
    conda := .finite 1
    normx := ‖x₀‖
    iteration := 0
    stop := .ongoing
    observers := o }

theorem begin_eq (o : Observers ℝ) :
    begin (Bidiagonal.opening A b x₀) x₀ 0 o = .ok (opening A b x₀ o) := by
  have h : (Arithmetic.ofNat (Nat.pow 10 100) : ℝ) = 10 ^ 100 := by
    norm_num [Arithmetic.ofNat]
  simp only [begin, NormEstimate.initial, Arithmetic.square, bind, Except.bind, pure, Except.pure,
    h]
  rfl

/-- What the rotations of an iteration produce on the way. -/
noncomputable def between : RotationStep ℝ :=
  s.rotation.between (s.process.next A).alpha (s.process.next A).beta damp

/-- The rotations after one more iteration. -/
noncomputable def turned : Rotation ℝ :=
  s.rotation.next (s.process.next A).alpha (s.process.next A).beta damp

/-- The estimate of the condition number of an iteration. -/
noncomputable def ratio : ℝ :=
  s.norms.ratio (s.process.next A).alpha (s.process.next A).beta (s.between A damp)
    (s.iteration + 1)

/-- **The state after one more iteration.** -/
noncomputable def next : Run ℝ F E :=
  { s with
    process := s.process.next A
    rotation := s.turned A damp
    residual := s.residual.next (s.between A damp) (s.turned A damp)
    norms := s.norms.next (s.process.next A).alpha (s.process.next A).beta (s.between A damp)
      (s.iteration + 1)
    iterate := s.iterate.next (s.turned A damp) (s.between A damp) (s.process.next A).v
    normr := (s.residual.next (s.between A damp) (s.turned A damp)).normr (s.turned A damp)
    normar := |(s.turned A damp).zetabar|
    norma := √(s.norms.normA2 + (s.process.next A).beta ^ 2)
    conda := .finite (s.ratio A damp)
    normx := ‖(s.iterate.next (s.turned A damp) (s.between A damp) (s.process.next A).v).x‖
    iteration := s.iteration + 1 }

/-- The statistics of an iteration. -/
noncomputable def tests (atol btol : ℝ) : StoppingTests ℝ :=
  .exact (s.next A damp).normr (s.next A damp).normar (s.next A damp).norma (s.ratio A damp)
    (s.next A damp).normx s.normb atol btol

variable {A b x₀ s}

theorem sound_opening {o : Observers ℝ} (ha : 0 < (Bidiagonal.opening A b x₀).alpha)
    (hb : 0 < (Bidiagonal.opening A b x₀).beta) : (opening A b x₀ o).Sound where
  rotation := Rotation.sound_initial _ _
  alphabar_pos := ha
  residual := ResidualEstimate.tracks_initial _ _
  normA2_pos := pow_pos ha 2
  minrbar_pos := pow_pos (by norm_num) 100
  normb_pos := hb

namespace Sound

variable (hs : s.Sound)

include hs

theorem minrbar_next_pos : 0 < (s.next A damp).norms.minrbar := by
  have h : (s.next A damp).norms.minrbar = if 1 < s.iteration + 1
      then min s.norms.minrbar s.rotation.rhobar else s.norms.minrbar := rfl
  rw [h]
  split_ifs
  · exact lt_min hs.minrbar_pos hs.rotation.rhobar_pos
  · exact hs.minrbar_pos

theorem least_pos : 0 < s.norms.least (s.process.next A).alpha (s.process.next A).beta
    (s.between A damp) (s.iteration + 1) :=
  lt_min (hs.minrbar_next_pos damp) (Rotation.rhotemp_pos _ _ _ hs.rotation hs.alphabar_pos)

theorem ratio_pos : 0 < s.ratio A damp :=
  div_pos (lt_max_of_lt_right (Rotation.rhotemp_pos _ _ _ hs.rotation hs.alphabar_pos))
    (hs.least_pos damp)

theorem norma_pos : 0 < (s.next A damp).norma :=
  Real.sqrt_pos.2 (add_pos_of_pos_of_nonneg hs.normA2_pos (sq_nonneg _))

/-- **An iteration that leaves `alpha` positive leaves the next one sound.** -/
theorem next (h0 : 0 < (s.process.next A).alpha) : (s.next A damp).Sound where
  rotation := hs.rotation.next damp hs.alphabar_pos h0.le
    ((s.process.next_beta A).symm ▸ norm_nonneg _)
  alphabar_pos := Rotation.next_alphabar_pos damp hs.alphabar_pos h0
  residual := hs.residual.next _ _ damp hs.rotation hs.alphabar_pos
  normA2_pos := by
    have h1 := hs.normA2_pos
    have h : (s.next A damp).norms.normA2 =
      s.norms.normA2 + (s.process.next A).beta ^ 2 + (s.process.next A).alpha ^ 2 := rfl
    rw [h]; positivity
  minrbar_pos := hs.minrbar_next_pos damp
  normb_pos := hs.normb_pos

end Sound

/-- **An iteration of the program**: its function, then the observers, then the rules. -/
theorem advance_eq (P : Problem ℝ F E) (hP : P.operator = .exact A) (hs : s.Sound) :
    (advance P).run s =
      let t := s.tests A P.damp P.atol P.btol
      if s.observers.interrupts (s.iteration + 1) t then
        .error (.interrupted (s.iteration + 1))
          { s.next A P.damp with observers := s.observers.seen (s.iteration + 1) t }
      else
        .ok () { s.next A P.damp with
          observers := s.observers.seen (s.iteration + 1) t
          stop := t.check (s.iteration + 1 : ℕ) P.maxiter P.atol P.ctol } := by
  have hstep : (Bidiagonal.step (LinearOperator.exact A)).run s.process =
      .ok () (s.process.next A) := step_eq A s.process
  have hturn : s.rotation.advance (s.process.next A).alpha (s.process.next A).beta P.damp =
      .ok (s.turned A P.damp, s.between A P.damp) := Rotation.advance_eq _ _ _ _
  -- No divisor of what follows vanishes.
  have hrho : 0 < (s.turned A P.damp).rho := Rotation.next_rho_pos _ _ _ hs.alphabar_pos
  have hrhobar : 0 < (s.turned A P.damp).rhobar :=
    Rotation.next_rhobar_pos _ _ _ hs.rotation hs.alphabar_pos
  have hupdate := Iterate.update_eq s.iterate (q := s.turned A P.damp) (t := s.between A P.damp)
    (s.process.next A).v (mul_pos hs.rotation.rho_pos hs.rotation.rhobar_pos).ne'
    (mul_pos hrho hrhobar).ne' hrho.ne'
  have hresidual := ResidualEstimate.advance_eq s.residual (s.between A P.damp) (s.turned A P.damp)
    hs.residual.d_nonneg (ResidualEstimate.tilde_r_pos hs.residual _).ne'
    (hs.residual.next_rhodold_pos _ _ _ hs.rotation hs.alphabar_pos).ne'
  have hnorms := NormEstimate.advance_eq s.norms (s.process.next A).alpha (s.process.next A).beta
    (s.between A P.damp) (s.iteration + 1) hs.normA2_pos.le (hs.least_pos P.damp).ne'
  have htests : StoppingTests.compute
      ((s.residual.next (s.between A P.damp) (s.turned A P.damp)).normr (s.turned A P.damp))
      |(s.turned A P.damp).zetabar| √(s.norms.normA2 + (s.process.next A).beta ^ 2)
      (.finite (s.norms.ratio (s.process.next A).alpha (s.process.next A).beta
        (s.between A P.damp) (s.iteration + 1)))
      ‖(s.iterate.next (s.turned A P.damp) (s.between A P.damp) (s.process.next A).v).x‖
      s.normb P.atol P.btol = .ok (s.tests A P.damp P.atol P.btol) :=
    StoppingTests.compute_eq hs.normb_pos (Real.sqrt_nonneg _) (hs.ratio_pos P.damp).ne'
      (norm_nonneg _)
  simp only [advance, onProcess, onIterate, onObservers, hP, EStateM.run_bind, EStateM.run_get,
    EStateM.run_modify, run_ofExcept_ok, run_onPart, Arithmetic.abs, Vectors.norm, Arithmetic.use,
    hstep, hturn, hupdate, hresidual, hnorms, htests, Observers.run_see]
  split_ifs <;> rfl

theorem bare_next : (s.next A damp).bare = s.bare.next A damp := rfl

end Run

/-! ### The course -/

variable (A : E →ₗ[𝕜] F) (b : F) (x₀ : E) (damp : ℝ)

/-- **The states of a solve** after any number of iterations, from a right-hand side `b` and a
solution `x₀` to begin with. -/
structure Course (S : ℕ → Run ℝ F E) : Prop where
  zero : S 0 = Run.opening A b x₀ Run.unwatched
  succ : ∀ k, S (k + 1) = (S k).next A damp

/-- The course of a solve. -/
noncomputable def course : ℕ → Run ℝ F E
  | 0 => Run.opening A b x₀ Run.unwatched
  | k + 1 => (course k).next A damp

theorem course_spec : Course A b x₀ damp (course A b x₀ damp) := ⟨rfl, fun _ => rfl⟩

/-- The process of a course. -/
def processOf (S : ℕ → Run ℝ F E) (k : ℕ) : Bidiagonal ℝ F E := (S k).process

/-- What the rotations of the iteration after the `k`-th produce on the way. -/
noncomputable def stepOf (damp : ℝ) (S : ℕ → Run ℝ F E) (k : ℕ) : RotationStep ℝ :=
  (S k).rotation.between (S (k + 1)).process.alpha (S (k + 1)).process.beta damp

namespace Course

variable {A b x₀ damp} {S : ℕ → Run ℝ F E} (hS : Course A b x₀ damp S) {k : ℕ}

include hS

theorem processOf_eq : processOf S = after A b x₀ := by
  funext k
  induction k with
  | zero => rw [processOf, hS.zero]; rfl
  | succ k ih => rw [processOf, hS.succ, after, ← ih]; rfl

theorem recurs : Recurs A (b - A x₀) (processOf S) := by
  rw [hS.processOf_eq]; exact recurs_after A b x₀

/-! ### The state before the first iteration -/

theorem start_u : (S 0).process.beta • (S 0).process.u = b - A x₀ := hS.recurs.start_u

theorem start_v : (S 0).process.alpha • (S 0).process.v = A.adjoint (S 0).process.u :=
  hS.recurs.start_v

theorem iterate_zero : (S 0).iterate = ⟨x₀, (S 0).process.v, 0⟩ := by
  rw [hS.zero]; rfl

theorem rotation_zero :
    (S 0).rotation = .initial (S 0).process.alpha (S 0).process.beta := by
  rw [hS.zero]; rfl

theorem residual_zero : (S 0).residual = .initial (S 0).process.beta := by
  rw [hS.zero]; rfl

/-! ### The parts of the next state -/

theorem process_succ (k : ℕ) : (S k).process.next A = (S (k + 1)).process := by
  rw [hS.succ]; rfl

theorem between_eq (k : ℕ) : (S k).between A damp = stepOf damp S k := by
  rw [Run.between, hS.process_succ, stepOf]

theorem rotation_succ (k : ℕ) : (S (k + 1)).rotation =
    (S k).rotation.next (S (k + 1)).process.alpha (S (k + 1)).process.beta damp := by
  rw [← hS.process_succ k, hS.succ]; rfl

theorem turned_eq (k : ℕ) : (S k).turned A damp = (S (k + 1)).rotation := by
  rw [hS.succ]; rfl

theorem residual_succ (k : ℕ) : (S (k + 1)).residual =
    (S k).residual.next (stepOf damp S k) (S (k + 1)).rotation := by
  rw [← hS.between_eq, ← hS.turned_eq, hS.succ]; rfl

theorem iterate_succ (k : ℕ) : (S (k + 1)).iterate =
    (S k).iterate.next (S (k + 1)).rotation (stepOf damp S k) (S (k + 1)).process.v := by
  rw [← hS.between_eq, ← hS.turned_eq, ← hS.process_succ, hS.succ]; rfl

theorem normr_succ (k : ℕ) :
    (S (k + 1)).normr = (S (k + 1)).residual.normr (S (k + 1)).rotation := by
  rw [hS.succ]; rfl

theorem normar_succ (k : ℕ) : (S (k + 1)).normar = |(S (k + 1)).rotation.zetabar| := by
  rw [hS.succ]; rfl

theorem normr_nonneg (k : ℕ) : 0 ≤ (S (k + 1)).normr := by
  rw [hS.normr_succ]; exact Real.sqrt_nonneg _

theorem iteration_eq (k : ℕ) : (S k).iteration = k := by
  induction k with
  | zero => rw [hS.zero]; rfl
  | succ k ih =>
    have h : ((S k).next A damp).iteration = (S k).iteration + 1 := rfl
    rw [hS.succ, h, ih]

/-- **As long as no scalar of the process vanishes, every iteration is sound.** -/
theorem sound (hl : Live (processOf S) k) : (S k).Sound := by
  induction k with
  | zero =>
    have ha := hS.recurs.alpha_pos hl
    have hb := hS.recurs.beta_pos hl
    rw [processOf, hS.zero] at ha hb
    rw [hS.zero]
    exact Run.sound_opening ha hb
  | succ k ih =>
    have ha := hS.recurs.alpha_pos hl
    rw [processOf, ← hS.process_succ] at ha
    rw [hS.succ]
    exact (ih (hl.mono (Nat.le_succ k))).next damp ha

/-! ### One iteration -/

theorem hbar_succ (k : ℕ) : (S (k + 1)).iterate.hbar =
    (-((S k).rotation.sbar * (S (k + 1)).rotation.rho) * (S (k + 1)).rotation.rho /
      ((S k).rotation.rho * (S k).rotation.rhobar)) • (S k).iterate.hbar + (S k).iterate.h := by
  rw [hS.iterate_succ]
  simp only [Iterate.next, stepOf, Rotation.between_thetabar, Rotation.between_rhoold,
    Rotation.between_rhobarold, ← hS.rotation_succ]

theorem h_succ (k : ℕ) : (S (k + 1)).iterate.h =
    (-(stepOf damp S k).thetanew / (S (k + 1)).rotation.rho) • (S k).iterate.h +
      (S (k + 1)).process.v := by
  rw [hS.iterate_succ]; rfl

theorem x_succ (k : ℕ) : (S (k + 1)).iterate.x = (S k).iterate.x +
    ((S (k + 1)).rotation.zeta / ((S (k + 1)).rotation.rho * (S (k + 1)).rotation.rhobar)) •
      (S (k + 1)).iterate.hbar := by
  rw [hS.iterate_succ]; rfl

theorem cbar_mul_succ (k : ℕ) : (S (k + 1)).rotation.cbar * (S (k + 1)).rotation.rhobar =
    (S k).rotation.cbar * (S (k + 1)).rotation.rho := by
  rw [hS.rotation_succ k]; exact Rotation.next_cbar_mul _ _ _ _

theorem sbar_mul_succ (k : ℕ) : (S (k + 1)).rotation.sbar * (S (k + 1)).rotation.rhobar =
    (stepOf damp S k).thetanew := by
  rw [hS.rotation_succ k]; exact Rotation.next_sbar_mul _ _ _ _

theorem norm_v (hl : Live (processOf S) k) : ‖(S k).process.v‖ = 1 :=
  hS.recurs.norm_v k (hl k le_rfl).1

theorem unit_succ (k : ℕ) :
    (S (k + 1)).rotation.cbar ^ 2 + (S (k + 1)).rotation.sbar ^ 2 = 1 := by
  rw [hS.rotation_succ k]; exact Rotation.next_unit _ _ _ _

theorem zeta_succ (k : ℕ) : (S (k + 1)).rotation.zeta =
    (S (k + 1)).rotation.cbar * (S k).rotation.zetabar := by
  rw [hS.rotation_succ k]; rfl

theorem zetabar_succ (k : ℕ) : (S (k + 1)).rotation.zetabar =
    -(S (k + 1)).rotation.sbar * (S k).rotation.zetabar := by
  rw [hS.rotation_succ k]; rfl

theorem s_mul_rho (k : ℕ) :
    (stepOf damp S k).s * (S (k + 1)).rotation.rho = (S (k + 1)).process.beta := by
  rw [hS.rotation_succ k]; exact Rotation.s_mul_rho _ _ _ _

theorem rho_pos (hl : Live (processOf S) k) : 0 < (S (k + 1)).rotation.rho := by
  rw [hS.rotation_succ k]; exact Rotation.next_rho_pos _ _ _ (hS.sound hl).alphabar_pos

theorem rhobar_pos (hl : Live (processOf S) k) : 0 < (S (k + 1)).rotation.rhobar := by
  rw [hS.rotation_succ k]
  exact Rotation.next_rhobar_pos _ _ _ (hS.sound hl).rotation (hS.sound hl).alphabar_pos

theorem s_eq_zero (hl : Live (processOf S) k) (hb : (S (k + 1)).process.beta = 0) :
    (stepOf damp S k).s = 0 := by
  have h := hS.s_mul_rho k
  rw [hb] at h
  exact (mul_eq_zero.1 h).resolve_right (hS.rho_pos hl).ne'

theorem thetabar_eq (k : ℕ) :
    (stepOf damp S k).thetabar = (S k).rotation.sbar * (S (k + 1)).rotation.rho := by
  rw [hS.rotation_succ k]; rfl

/-- Where a scalar of the process vanishes, so does the residual. -/
theorem zetabar_eq_zero (hl : Live (processOf S) k)
    (h0 : (S (k + 1)).process.alpha = 0 ∨ (S (k + 1)).process.beta = 0) :
    (S (k + 1)).rotation.zetabar = 0 := by
  rw [hS.rotation_succ k]
  exact (hS.sound hl).rotation.next_zetabar_eq_zero damp (hS.sound hl).alphabar_pos h0

end Course

end LeastSquares
