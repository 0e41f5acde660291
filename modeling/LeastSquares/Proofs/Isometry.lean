import LeastSquares.Proofs.Independence
import LeastSquares.Proofs.Termination

/-!
# Change of coordinates

A solve knows vectors only through their operations, their norms and the products with the operator.
So a map of the vectors that respects the operations and the norms, and that the products of another
operator agree with, takes every state of a solve to the state of another solve, with the same
scalars. This holds in any arithmetic and whatever fails. Over the real numbers unitary maps are
such maps.

* `Mirrors`: **an action that does on the images of states what another does on the states.**
* `Vectors.Respects`, `LinearOperator.Intertwines`: what is asked of the maps.
* `Run.advance_mirrors`, `Run.loop_mirrors`, `Problem.solve_image`: an iteration, a loop and a
  whole solve.
* `Problem.reaches_image`, `Problem.completes_image`: the states between two iterations, and what they
  have said.
* `Problem.coordinate_free`: **no solve depends on the choice of orthonormal coordinates.**
-/

namespace LeastSquares

open Arithmetic

theorem map_eq_ok {ε α β : Type} {f : α → β} {x : Except ε α} {b : β} :
    x.map f = .ok b ↔ ∃ a, x = .ok a ∧ b = f a := by
  cases x <;> simp [Except.map, eq_comm]

section

variable {σ σ' τ τ' ε α α' β β' : Type}

/-- The result with its value and its state changed. -/
def mapResult (r : α → α') (f : σ → σ') : EStateM.Result ε σ α → EStateM.Result ε σ' α'
  | .ok a s => .ok (r a) (f s)
  | .error e s => .error e (f s)

/-- **An action that does on the images of states what another does on the states**, and returns
the image of what that one returns. -/
def Mirrors (r : α → α') (f : σ → σ') (x : EStateM ε σ α) (x' : EStateM ε σ' α') : Prop :=
  ∀ s, x'.run (f s) = mapResult r f (x.run s)

namespace Mirrors

variable {r : α → α'} {f : σ → σ'}

theorem bind {t : β → β'} {x : EStateM ε σ α} {x' : EStateM ε σ' α'} {k : α → EStateM ε σ β}
    {k' : α' → EStateM ε σ' β'} (hx : Mirrors r f x x') (hk : ∀ a, Mirrors t f (k a) (k' (r a))) :
    Mirrors t f (x >>= k) (x' >>= k') := by
  intro s
  rw [EStateM.run_bind, EStateM.run_bind, hx]
  cases x.run s with
  | ok a s' => exact hk a s'
  | error e s' => rfl

theorem get_bind {k : σ → EStateM ε σ α} {k' : σ' → EStateM ε σ' α'}
    (hk : ∀ s, Mirrors r f (k s) (k' (f s))) : Mirrors r f (get >>= k) (get >>= k') := by
  intro s
  rw [run_get_bind, run_get_bind]
  exact hk s s

theorem pure_mirrors (a : α) : Mirrors r f (pure a : EStateM ε σ α) (pure (r a)) := fun _ => rfl

theorem ofExcept_mirrors {x : Except ε α} {x' : Except ε α'} (h : x' = x.map r) :
    Mirrors r f (ofExcept x : EStateM ε σ α) (ofExcept x') := by
  intro s
  subst h
  cases x <;> rfl

theorem same (x : Except ε α) : Mirrors id f (ofExcept x : EStateM ε σ α) (ofExcept x) := by
  intro s
  cases x <;> rfl

theorem modify_mirrors {g : σ → σ} {g' : σ' → σ'} (h : ∀ s, g' (f s) = f (g s)) :
    Mirrors id f (modify g : EStateM ε σ Unit) (modify g') := by
  intro s
  exact congrArg (EStateM.Result.ok ()) (h s)

theorem onPart_mirrors {get : σ → τ} {set : τ → σ → σ} {get' : σ' → τ'} {set' : τ' → σ' → σ'}
    {p : τ → τ'} {x : EStateM ε τ α} {x' : EStateM ε τ' α'} (hget : ∀ s, get' (f s) = p (get s))
    (hset : ∀ t s, set' (p t) (f s) = f (set t s)) (hx : Mirrors r p x x') :
    Mirrors r f (onPart get set x) (onPart get' set' x') := by
  intro s
  rw [run_onPart, run_onPart, hget, hx]
  cases x.run (get s) with
  | ok a t => exact congrArg (EStateM.Result.ok (r a)) (hset t s)
  | error e t => exact congrArg (EStateM.Result.error e) (hset t s)

/-- Where one of the two actions succeeds, so does the other. -/
theorem run_eq_ok {x : EStateM ε σ α} {x' : EStateM ε σ' α'} (h : Mirrors r f x x') {s : σ}
    {b : α'} {t : σ'} : x'.run (f s) = .ok b t ↔
      ∃ a s', x.run s = .ok a s' ∧ b = r a ∧ t = f s' := by
  rw [h]
  cases x.run s with
  | ok a s' => simp [mapResult, eq_comm]
  | error e s' => simp [mapResult]

end Mirrors

end

/-- **A map of vectors that respects the operations**, failures included, and the norms. -/
structure Vectors.Respects {α W W' : Type} [Vectors α W] [Vectors α W'] (f : W → W') : Prop where
  scale : ∀ v a, Vectors.scale (f v) a = (Vectors.scale v a).map f
  add : ∀ v w, Vectors.add (f v) (f w) = (Vectors.add v w).map f
  sub : ∀ v w, Vectors.sub (f v) (f w) = (Vectors.sub v w).map f
  addScaled : ∀ v a w, Vectors.addScaled (f v) a (f w) = (Vectors.addScaled v a w).map f
  assign : ∀ v w, Vectors.assign (f v) (f w) = (Vectors.assign v w).map f
  norm : ∀ v, Vectors.norm (f v) = Vectors.norm v

/-- **Two operators whose products agree with two maps of vectors.** -/
structure LinearOperator.Intertwines {U U' V V' : Type} (A : LinearOperator V U)
    (A' : LinearOperator V' U') (f : U → U') (g : V → V') : Prop where
  apply : ∀ x, A'.apply (g x) = (A.apply x).map f
  adjoint : ∀ y, A'.adjoint (f y) = (A.adjoint y).map g

variable {α U U' V V' : Type} [Arithmetic α] [Vectors α U] [Vectors α U'] [Vectors α V]
  [Vectors α V']

section

variable {f : U → U'}

/-- A vector is made a unit vector alike. -/
theorem Vectors.Respects.normalize (hf : Respects f) (u : U) (a : α) :
    Bidiagonal.normalize (f u) a = (Bidiagonal.normalize u a).map f := by
  unfold Bidiagonal.normalize
  split_ifs
  · cases div 1 a with
    | error e => rfl
    | ok c => exact hf.scale u c
  · rfl

end

/-! ### Images of states -/

/-- The image of a state of the process. -/
def Bidiagonal.image (f : U → U') (g : V → V') (p : Bidiagonal α U V) : Bidiagonal α U' V' :=
  { p with u := f p.u, v := g p.v }

/-- The image of a solution and its directions. -/
def Iterate.image (g : V → V') (w : Iterate V) : Iterate V' := ⟨g w.x, g w.h, g w.hbar⟩

/-- **The image of a state of a solve**: only vectors are changed. -/
def Run.image (f : U → U') (g : V → V') (s : Run α U V) : Run α U' V' :=
  { s with process := s.process.image f g, iterate := s.iterate.image g }

/-- **The image of the end of a solve.** -/
def Ending.image (f : U → U') (g : V → V') : Ending α U V → Ending α U' V'
  | .returned s => .returned (s.image f g)
  | .failed w => .failed { w with x := g w.x }

/-! ### Actions -/

section

variable {f : U → U'} {g : V → V'} (hf : Vectors.Respects f) (hg : Vectors.Respects g)
  {A : LinearOperator V U} {A' : LinearOperator V' U'} (hA : A.Intertwines A' f g)

namespace Bidiagonal

include hA in
omit [Arithmetic α] [Vectors α U] [Vectors α U'] [Vectors α V] [Vectors α V'] in
theorem forward_mirrors (x : V) :
    Mirrors f (image f g) (forward A x : EStateM Fault (Bidiagonal α U V) U)
      (forward A' (g x)) := by
  unfold forward
  exact .bind (.modify_mirrors fun _ => rfl) fun _ => .ofExcept_mirrors (hA.apply x)

include hA in
omit [Arithmetic α] [Vectors α U] [Vectors α U'] [Vectors α V] [Vectors α V'] in
theorem backward_mirrors :
    Mirrors g (image f g) (backward A : EStateM Fault (Bidiagonal α U V) V) (backward A') := by
  unfold backward
  refine .bind (.modify_mirrors fun _ => rfl) fun _ => ?_
  exact .get_bind fun p => .ofExcept_mirrors (hA.adjoint p.u)

include hf in
omit [Vectors α V] [Vectors α V'] in
theorem takeU_mirrors (u : U) :
    Mirrors id (image f g) (takeU u : EStateM Fault (Bidiagonal α U V) Unit) (takeU (f u)) := by
  unfold takeU
  refine .bind (.modify_mirrors fun p => ?_) fun _ => .get_bind fun p => ?_
  · rw [hf.norm]
    rfl
  · exact .bind (.ofExcept_mirrors (hf.normalize u p.beta)) fun _ => .modify_mirrors fun _ => rfl

include hg in
omit [Vectors α U] [Vectors α U'] in
theorem takeV_mirrors (v : V) :
    Mirrors id (image f g) (takeV v : EStateM Fault (Bidiagonal α U V) Unit) (takeV (g v)) := by
  unfold takeV
  refine .bind (.modify_mirrors fun p => ?_) fun _ => .get_bind fun p => ?_
  · rw [hg.norm]
    rfl
  · exact .bind (.ofExcept_mirrors (hg.normalize v p.alpha)) fun _ => .modify_mirrors fun _ => rfl

include hf hg hA

/-- **The start of the process.** -/
theorem start_mirrors (x : V) :
    Mirrors id (image f g) (start A x : EStateM Fault (Bidiagonal α U V) Unit)
      (start A' (g x)) := by
  unfold start
  refine .bind (forward_mirrors hA x) fun y => .get_bind fun p => ?_
  refine .bind (.ofExcept_mirrors (hf.sub p.u y)) fun u => ?_
  refine .bind (takeU_mirrors hf u) fun _ => .bind (backward_mirrors hA) fun z => ?_
  refine .get_bind fun p => .bind (.ofExcept_mirrors (hg.assign p.v z)) fun v => ?_
  exact takeV_mirrors hg v

/-- **A step of the process.** -/
theorem step_mirrors :
    Mirrors id (image f g) (step A : EStateM Fault (Bidiagonal α U V) Unit) (step A') := by
  unfold step
  refine .get_bind fun p => .get_bind fun q => ?_
  refine .bind (.ofExcept_mirrors (hf.scale p.u (-q.alpha))) fun u => ?_
  refine .bind (.modify_mirrors fun _ => rfl) fun _ => .get_bind fun p => ?_
  refine .bind (forward_mirrors hA p.v) fun y => .bind (.ofExcept_mirrors (hf.add u y)) fun u => ?_
  refine .bind (takeU_mirrors hf u) fun _ => .get_bind fun p => ?_
  -- Both processes have the same `beta`, so both make the second half of the step or neither.
  have hbeta : (p.image f g).beta = p.beta := rfl
  rw [hbeta]
  split_ifs
  · refine .get_bind fun p => .get_bind fun q => ?_
    refine .bind (.ofExcept_mirrors (hg.scale p.v (-q.beta))) fun v => ?_
    refine .bind (.modify_mirrors fun _ => rfl) fun _ => .bind (backward_mirrors hA) fun z => ?_
    exact .bind (.ofExcept_mirrors (hg.add v z)) fun v => takeV_mirrors hg v
  · exact .pure_mirrors _

end Bidiagonal

include hg in
/-- **The update of the solution.** -/
theorem Iterate.update_mirrors (q : Rotation α) (t : RotationStep α) (v : V) :
    Mirrors id (image g) (update q t v) (update q t (g v)) := by
  unfold update
  refine .bind (.same _) fun a => .get_bind fun w => ?_
  refine .bind (.ofExcept_mirrors (hg.scale w.hbar a)) fun hbar => ?_
  refine .bind (.modify_mirrors fun _ => rfl) fun _ => .get_bind fun w => ?_
  refine .bind (.ofExcept_mirrors (hg.add hbar w.h)) fun hbar => ?_
  refine .bind (.modify_mirrors fun _ => rfl) fun _ => .bind (.same _) fun b => ?_
  refine .get_bind fun w => .bind (.ofExcept_mirrors (hg.addScaled w.x b hbar)) fun x => ?_
  refine .bind (.modify_mirrors fun _ => rfl) fun _ => .bind (.same _) fun c => ?_
  refine .get_bind fun w => .bind (.ofExcept_mirrors (hg.scale w.h c)) fun h => ?_
  refine .bind (.modify_mirrors fun _ => rfl) fun _ => ?_
  exact .bind (.ofExcept_mirrors (hg.add h v)) fun h => .modify_mirrors fun _ => rfl

namespace Run

omit [Arithmetic α] [Vectors α U] [Vectors α U'] [Vectors α V] [Vectors α V'] in
theorem onProcess_mirrors {x : EStateM Fault (Bidiagonal α U V) Unit}
    {x' : EStateM Fault (Bidiagonal α U' V') Unit} (h : Mirrors id (Bidiagonal.image f g) x x') :
    Mirrors id (image f g) (onProcess x) (onProcess x') :=
  .onPart_mirrors (fun _ => rfl) (fun _ _ => rfl) h

omit [Arithmetic α] [Vectors α U] [Vectors α U'] [Vectors α V] [Vectors α V'] in
theorem onIterate_mirrors {x : EStateM Fault (Iterate V) Unit}
    {x' : EStateM Fault (Iterate V') Unit} (h : Mirrors id (Iterate.image g) x x') :
    Mirrors id (image f g) (onIterate x : EStateM Fault (Run α U V) Unit) (onIterate x') :=
  .onPart_mirrors (fun _ => rfl) (fun _ _ => rfl) h

omit [Arithmetic α] [Vectors α U] [Vectors α U'] [Vectors α V] [Vectors α V'] in
theorem onObservers_mirrors (x : EStateM Fault (Observers α) Unit) :
    Mirrors id (image f g) (onObservers x : EStateM Fault (Run α U V) Unit) (onObservers x) := by
  refine .onPart_mirrors (p := id) (fun _ => rfl) (fun _ _ => rfl) fun o => ?_
  cases h : x.run o <;> simp [mapResult, h]

include hg in
omit [Vectors α U] [Vectors α U'] in
/-- **The state before the first iteration.** -/
theorem begin_image (p : Bidiagonal α U V) (x zero : V) (o : Observers α) :
    begin (p.image f g) (g x) (g zero) o = (begin p x zero o).map (image f g) := by
  have halpha : (p.image f g).alpha = p.alpha := rfl
  unfold begin
  rw [halpha, hg.norm]
  cases NormEstimate.initial p.alpha <;> rfl

include hf hg hA in
/-- **What an iteration computes.** -/
theorem compute_mirrors (damp : α) :
    Mirrors id (image f g) (compute A damp) (compute A' damp) := by
  unfold compute
  refine .bind (.modify_mirrors fun _ => rfl) fun _ => ?_
  refine .bind (onProcess_mirrors (Bidiagonal.step_mirrors hf hg hA)) fun _ => .get_bind fun s => ?_
  refine .bind (.same _) fun ⟨rotation, t⟩ => .bind (.modify_mirrors fun _ => rfl) fun _ => ?_
  refine .bind (onIterate_mirrors (Iterate.update_mirrors hg _ _ s.process.v)) fun _ => ?_
  refine .bind (.same _) fun ⟨residual, normr⟩ => .bind (.modify_mirrors fun _ => rfl) fun _ => ?_
  refine .bind (.same _) fun ⟨norms, values⟩ => .modify_mirrors fun s => ?_
  have hx : (s.image f g).iterate.x = g s.iterate.x := rfl
  rw [hx, hg.norm]
  rfl

end Run

namespace Problem

/-- **The same problem for another operator.** -/
def withOperator (P : Problem α U V) (A : LinearOperator V' U') : Problem α U' V' :=
  { P with operator := A }

end Problem

variable {P : Problem α U V}

namespace Run

omit [Vectors α U] [Vectors α U'] [Vectors α V] [Vectors α V'] in
/-- **What an iteration makes of what it has computed.** -/
theorem judge_mirrors : Mirrors id (image f g) (judge P) (judge (P.withOperator A')) := by
  unfold judge
  refine .get_bind fun s => .bind (.same _) fun t => ?_
  refine .bind (onObservers_mirrors _) fun _ => .bind (.same _) fun ctol => ?_
  exact .modify_mirrors fun _ => rfl

include hf hg

/-- **An iteration.** -/
theorem advance_mirrors (hA : P.operator.Intertwines A' f g) :
    Mirrors id (image f g) (advance P) (advance (P.withOperator A')) := by
  rw [advance_eq_halves, advance_eq_halves]
  exact .bind (compute_mirrors hf hg hA P.damp) fun _ => judge_mirrors

/-- **All iterations.** -/
theorem loop_mirrors (hA : P.operator.Intertwines A' f g) (budget : ℕ) :
    Mirrors id (image f g) (loop P budget) (loop (P.withOperator A') budget) := by
  induction budget with
  | zero => exact .pure_mirrors ()
  | succ budget ih =>
    refine .bind (advance_mirrors hf hg hA) fun _ => .get_bind fun s => ?_
    have hstop : (s.image f g).stop = s.stop := rfl
    rw [hstop]
    split_ifs
    · exact ih
    · exact .pure_mirrors ()

end Run

namespace Problem

include hf hg

/-- **A whole solve.** -/
theorem solve_image (hA : P.operator.Intertwines A' f g) (p : Bidiagonal α U V) (x zero : V)
    (o : Observers α) : (P.withOperator A').solve (p.image f g) (g x) (g zero) o =
      (P.solve p x zero o).image f g := by
  have hstart := Bidiagonal.start_mirrors hf hg hA x p
  unfold solve
  rw [show (P.withOperator A').operator = A' from rfl, hstart]
  cases (Bidiagonal.start P.operator x).run p with
  | error e q => rfl
  | ok _ q =>
    simp only [mapResult, Run.begin_image hg]
    cases Run.begin q x zero o with
    | error e => rfl
    | ok s =>
      simp only [Except.map, show (s.image f g).isOpen = s.isOpen from rfl]
      split_ifs
      · rw [show (P.withOperator A').maxiter = P.maxiter from rfl,
          Run.loop_mirrors hf hg hA P.maxiter s]
        cases (Run.loop P P.maxiter).run s <;> rfl
      · rfl

variable {p : Bidiagonal α U V} {x zero : V} {o : Observers α} {k : ℕ}

/-- **The states between two iterations** are images of those of the other solve. -/
theorem reaches_image (hA : P.operator.Intertwines A' f g) {s' : Run α U' V'} :
    (P.withOperator A').Reaches (p.image f g) (g x) (g zero) o k s' ↔
      ∃ s, P.Reaches p x zero o k s ∧ s' = s.image f g := by
  have hstarts := Bidiagonal.start_mirrors (α := α) hf hg hA x
  have hadvances := Run.advance_mirrors hf hg hA
  constructor
  · intro h
    induction h with
    | begin hstart hbegin hopen =>
      obtain ⟨⟨⟩, q, hq, -, rfl⟩ := hstarts.run_eq_ok.1 hstart
      rw [Run.begin_image hg, map_eq_ok] at hbegin
      obtain ⟨s, hs, rfl⟩ := hbegin
      exact ⟨s, .begin hq hs hopen, rfl⟩
    | advance _ hstop hk hs ih =>
      obtain ⟨s, hr, rfl⟩ := ih
      obtain ⟨⟨⟩, s', hs', -, rfl⟩ := hadvances.run_eq_ok.1 hs
      exact ⟨s', hr.advance hstop hk hs', rfl⟩
  · rintro ⟨s, h, rfl⟩
    induction h with
    | @begin q s hstart hbegin hopen =>
      have hbegin' : Run.begin (q.image f g) (g x) (g zero) o = .ok (s.image f g) := by
        rw [Run.begin_image hg, hbegin]
        rfl
      exact .begin (hstarts.run_eq_ok.2 ⟨(), q, hstart, rfl, rfl⟩) hbegin' hopen
    | advance _ hstop hk hs ih =>
      exact ih.advance hstop hk (hadvances.run_eq_ok.2 ⟨(), _, hs, rfl, rfl⟩)

/-- **The iterations that are completed** leave images and have the same statistics. -/
theorem completes_image (hA : P.operator.Intertwines A' f g) {s' : Run α U' V'}
    {t : StoppingTests α} :
    (P.withOperator A').Completes (p.image f g) (g x) (g zero) o k s' t ↔
      ∃ s, P.Completes p x zero o k s t ∧ s' = s.image f g := by
  have hcomputes := Run.compute_mirrors (α := α) hf hg hA P.damp
  constructor
  · rintro ⟨h, hs, ht⟩
    obtain ⟨s₀, hr, rfl⟩ := (reaches_image hf hg hA).1 h.reached
    obtain ⟨⟨⟩, s, hs₀, -, rfl⟩ := hcomputes.run_eq_ok.1 hs
    exact ⟨s, .intro ⟨hr, h.ongoing, h.budget⟩ hs₀ ht, rfl⟩
  · rintro ⟨_, ⟨h, hs, ht⟩, rfl⟩
    have hr : (P.withOperator A').Reaches (p.image f g) (g x) (g zero) o _ _ :=
      (reaches_image hf hg hA).2 ⟨_, h.reached, rfl⟩
    exact .intro ⟨hr, h.ongoing, h.budget⟩ (hcomputes.run_eq_ok.2 ⟨(), _, hs, rfl, rfl⟩) ht

end Problem

end

/-! ### Unitary maps -/

variable {𝕜 E E' F F' : Type} [RCLike 𝕜]
  [NormedAddCommGroup E] [InnerProductSpace 𝕜 E] [NormedSpace ℝ E] [FiniteDimensional 𝕜 E]
  [NormedAddCommGroup E'] [InnerProductSpace 𝕜 E'] [NormedSpace ℝ E'] [FiniteDimensional 𝕜 E']
  [NormedAddCommGroup F] [InnerProductSpace 𝕜 F] [NormedSpace ℝ F] [FiniteDimensional 𝕜 F]
  [NormedAddCommGroup F'] [InnerProductSpace 𝕜 F'] [NormedSpace ℝ F'] [FiniteDimensional 𝕜 F']

omit [FiniteDimensional 𝕜 F] [FiniteDimensional 𝕜 F'] in
/-- **A unitary map respects the operations on vectors.** -/
theorem respects_isometry (Q : F ≃ₗᵢ[𝕜] F') : Vectors.Respects (α := ℝ) Q := by
  have hsmul (a : ℝ) (v : F) : Q (a • v) = a • Q v := map_real_smul Q Q.continuous a v
  refine ⟨?_, ?_, ?_, ?_, ?_, ?_⟩
  · intro v a
    exact congrArg Except.ok (hsmul a v).symm
  · intro v w
    exact congrArg Except.ok (map_add Q v w).symm
  · intro v w
    exact congrArg Except.ok (map_sub Q v w).symm
  · intro v a w
    exact congrArg Except.ok (by rw [map_add, hsmul])
  · intro v w
    rfl
  · intro v
    exact Q.norm_map v

omit [NormedSpace ℝ E] [NormedSpace ℝ E'] in
theorem adjoint_isometry_apply (W : E ≃ₗᵢ[𝕜] E') (x : E) :
    LinearMap.adjoint W.toLinearEquiv.toLinearMap (W x) = x := by
  refine ext_inner_right 𝕜 fun z => ?_
  rw [LinearMap.adjoint_inner_left]
  exact W.inner_map_map x z

omit [NormedSpace ℝ E] [NormedSpace ℝ E'] [NormedSpace ℝ F] [NormedSpace ℝ F'] in
theorem inCoordinates_intertwines (A : E →ₗ[𝕜] F) (Q : F ≃ₗᵢ[𝕜] F') (W : E ≃ₗᵢ[𝕜] E') :
    (LinearOperator.exact A).Intertwines (.exact (inCoordinates A Q W)) Q W := by
  constructor
  · intro x
    refine congrArg Except.ok ?_
    simp only [inCoordinates, LinearMap.comp_apply, adjoint_isometry_apply]
    rfl
  · intro y
    refine congrArg Except.ok ?_
    simp only [inCoordinates, LinearMap.adjoint_comp, LinearMap.adjoint_adjoint,
      LinearMap.comp_apply, adjoint_isometry_apply]
    rfl

namespace Problem

/-- **No solve depends on the choice of orthonormal coordinates.** For unitary maps `Q` and `W` the
solve of `Q A Wᴴ`, `Q b` and `W x₀` goes through the images of the states of the solve of `A`, `b`
and `x₀`, with the same scalars and the same statistics, and its end is the image of that one's. -/
theorem coordinate_free (A : E →ₗ[𝕜] F) (b : F) (x₀ : E) (Q : F ≃ₗᵢ[𝕜] F') (W : E ≃ₗᵢ[𝕜] E')
    (damp atol btol ctol : ℝ) (maxiter : ℕ) (o : Observers ℝ) :
    let P : Problem ℝ F E := ⟨.exact A, damp, atol, btol, ctol, maxiter⟩
    let P' : Problem ℝ F' E' := ⟨.exact (inCoordinates A Q W), damp, atol, btol, ctol, maxiter⟩
    (∀ k s' t, P'.Completes (.initial (Q b) 0) (W x₀) 0 o k s' t ↔
      ∃ s, P.Completes (.initial b 0) x₀ 0 o k s t ∧ s' = s.image Q W) ∧
    P'.solve (.initial (Q b) 0) (W x₀) 0 o =
      (P.solve (.initial b 0) x₀ 0 o).image Q W ∧
    ∀ s, P.solve (.initial b 0) x₀ 0 o = .returned s →
      ∃ s', P'.solve (.initial (Q b) 0) (W x₀) 0 o = .returned s' ∧
        s'.iteration = s.iteration ∧ s'.stop = s.stop ∧ s'.observers = s.observers ∧
        s'.iterate.x = W s.iterate.x := by
  intro P P'
  have hQ := respects_isometry Q
  have hW := respects_isometry W
  have hA : P.operator.Intertwines P'.operator Q W := inCoordinates_intertwines A Q W
  -- The process starts from the images of its vectors, of which one vanishes.
  have hp : (.initial (Q b) 0 : Bidiagonal ℝ F' E') =
      (.initial b 0 : Bidiagonal ℝ F E).image Q W := by
    rw [Bidiagonal.initial, Bidiagonal.initial, Bidiagonal.image, map_zero]
  have hsolve : P'.solve (.initial (Q b) 0) (W x₀) 0 o =
      (P.solve (.initial b 0) x₀ 0 o).image Q W := by
    rw [hp, ← map_zero W]
    exact solve_image hQ hW hA _ _ _ _
  refine ⟨?_, hsolve, ?_⟩
  · intro k s' t
    rw [hp, ← map_zero W]
    exact completes_image hQ hW hA
  · intro s hs
    rw [hs] at hsolve
    exact ⟨s.image Q W, hsolve, rfl, rfl, rfl, rfl⟩

/-- The identity of the real line under a change of all signs. -/
theorem identityProblem_reflected : ∃ s s',
    identityProblem.solve (.initial 2 0) 1 0 Run.unwatched = .returned s ∧
    ({ identityProblem with operator := .exact (𝕜 := ℝ) (inCoordinates LinearMap.id
      (LinearIsometryEquiv.neg ℝ) (LinearIsometryEquiv.neg ℝ)) } : Problem ℝ ℝ ℝ).solve
        (.initial (-2) 0) (-1) 0 Run.unwatched = .returned s' ∧
    s'.iteration = s.iteration ∧ s'.iterate.x = -s.iterate.x := by
  obtain ⟨s, hs⟩ : ∃ s, identityProblem.solve (.initial 2 0) 1 0 Run.unwatched = .returned s :=
    returns_of_quiet identityProblem_operator fun _ _ => rfl
  obtain ⟨s', hs', hiter, -, -, hx⟩ := (coordinate_free (𝕜 := ℝ) LinearMap.id (2 : ℝ) (1 : ℝ)
    (LinearIsometryEquiv.neg ℝ) (LinearIsometryEquiv.neg ℝ) 1 0 0 0 10 Run.unwatched).2.2 s hs
  exact ⟨s, s', hs, hs', hiter, hx⟩

end Problem

end LeastSquares
