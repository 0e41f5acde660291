import Mathlib.Analysis.InnerProductSpace.Adjoint
import LeastSquares.Proofs.Exact
import LeastSquares.Proofs.Plane
import LeastSquares.Proofs.Running

/-!
# The bidiagonalization of an operator, exactly

Vectors are those of inner product spaces `E` and `F` over the real or the complex numbers, and the
operator is a linear map `A : E → F` whose second product is the one with its adjoint.

* `inUnits`, `inCoordinates`: the operator in other units and in other coordinates.
* `normalMap`, `normalResidual`: the damped normal equations of the operator, and their residual.
* `Bidiagonal.opening`, `Bidiagonal.next`: the start and a step as functions; neither fails
  (`start_eq`, `step_eq`).
* `Bidiagonal.after`: the states of the process after any number of steps.
* `Bidiagonal.Recurs`: **the recurrences of the process**, which are all that the theory of the
  process needs to know about a sequence of states.
-/

namespace LeastSquares

/-- **The operations on vectors** with real coefficients. None of them fails. -/
noncomputable instance {W : Type} [NormedAddCommGroup W] [NormedSpace ℝ W] : Vectors ℝ W where
  scale v a := .ok (a • v)
  add v w := .ok (v + w)
  sub v w := .ok (v - w)
  addScaled v a w := .ok (v + a • w)
  assign _ w := .ok w
  norm v := ‖v‖

variable {𝕜 E F : Type} [RCLike 𝕜]
  [NormedAddCommGroup E] [InnerProductSpace 𝕜 E] [NormedSpace ℝ E] [FiniteDimensional 𝕜 E]
  [NormedAddCommGroup F] [InnerProductSpace 𝕜 F] [NormedSpace ℝ F] [FiniteDimensional 𝕜 F]

/-- A linear map, known by its products and those of its adjoint. -/
noncomputable def LinearOperator.exact (A : E →ₗ[𝕜] F) : LinearOperator E F :=
  ⟨fun x => .ok (A x), fun y => .ok (A.adjoint y)⟩

/-- **The operator in other units.** -/
noncomputable def inUnits (γ : ℝ) (A : E →ₗ[𝕜] F) : E →ₗ[𝕜] F := (γ : 𝕜) • A

section

variable {E' F' : Type}
  [NormedAddCommGroup E'] [InnerProductSpace 𝕜 E'] [FiniteDimensional 𝕜 E']
  [NormedAddCommGroup F'] [InnerProductSpace 𝕜 F']

/-- **The operator in other coordinates**, `Q A Wᴴ`. -/
noncomputable def inCoordinates (A : E →ₗ[𝕜] F) (Q : F ≃ₗᵢ[𝕜] F') (W : E ≃ₗᵢ[𝕜] E') :
    E' →ₗ[𝕜] F' :=
  Q.toLinearEquiv.toLinearMap ∘ₗ A ∘ₗ LinearMap.adjoint W.toLinearEquiv.toLinearMap

end

/-! ### The normal equations -/

/-- The operator of the damped normal equations, `Aᴴ A + damp² I`. -/
noncomputable def normalMap (A : E →ₗ[𝕜] F) (damp : ℝ) : E →ₗ[𝕜] E :=
  A.adjoint ∘ₗ A + ((damp ^ 2 : ℝ) : 𝕜) • LinearMap.id

/-- **The residual of the damped normal equations**, where damping pulls towards `x₀`. -/
noncomputable def normalResidual (A : E →ₗ[𝕜] F) (b : F) (x₀ : E) (damp : ℝ) (x : E) : E :=
  A.adjoint (b - A x) - damp ^ 2 • (x - x₀)

section

variable {A : E →ₗ[𝕜] F} {b : F} {x₀ : E} {damp : ℝ}

omit [NormedSpace ℝ F] in
theorem normalMap_apply (z : E) : normalMap A damp z = A.adjoint (A z) + damp ^ 2 • z := by
  rw [RCLike.real_smul_eq_coe_smul (K := 𝕜)]; rfl

omit [NormedSpace ℝ F] in
theorem normalResidual_add (x z : E) : normalResidual A b x₀ damp (x + z) =
    normalResidual A b x₀ damp x - normalMap A damp z := by
  simp only [normalResidual, normalMap_apply, map_sub, map_add]
  module

omit [NormedSpace ℝ F] in
theorem normalResidual_start : normalResidual A b x₀ damp x₀ = A.adjoint (b - A x₀) := by
  simp [normalResidual]

omit [NormedSpace ℝ F] in
/-- What the normal equations do not see, the operator does not see. -/
theorem apply_eq_zero_of_normalMap {z : E} (h : normalMap A damp z = 0) : A z = 0 := by
  have h1 : inner 𝕜 z (normalMap A damp z) = ((‖A z‖ ^ 2 + damp ^ 2 * ‖z‖ ^ 2 : ℝ) : 𝕜) := by
    rw [normalMap_apply, inner_add_right, inner_real_smul_right, LinearMap.adjoint_inner_right,
      inner_self_eq_norm_sq_to_K, inner_self_eq_norm_sq_to_K]
    push_cast; rfl
  rw [h, inner_zero_right, eq_comm, RCLike.ofReal_eq_zero] at h1
  -- Both summands are squares, so the first one vanishes with the sum, whatever the damping is.
  have h2 : 0 ≤ damp ^ 2 * ‖z‖ ^ 2 := by positivity
  exact norm_eq_zero.1 (pow_eq_zero_iff two_ne_zero |>.1 (by nlinarith [sq_nonneg ‖A z‖]))

omit [NormedSpace ℝ F] [NormedSpace ℝ E] in
/-- The row space is orthogonal to what the operator does not see. -/
theorem inner_eq_zero_of_range {w z : E} (hw : w ∈ A.adjoint.range) (hz : A z = 0) :
    inner 𝕜 w z = 0 := by
  obtain ⟨y, rfl⟩ := hw
  rw [LinearMap.adjoint_inner_left, hz, inner_zero_right]

omit [NormedSpace ℝ F] in
/-- **The normal equations see every vector of the row space.** -/
theorem eq_zero_of_normalMap {z : E} (hz : z ∈ A.adjoint.range) (h : normalMap A damp z = 0) :
    z = 0 :=
  inner_self_eq_zero.1 (inner_eq_zero_of_range hz (apply_eq_zero_of_normalMap h))

end

/-! ### The process -/

namespace Bidiagonal

/-- A vector in the direction of `w`, of norm one unless `w` vanishes. -/
noncomputable def unit {W : Type} [NormedAddCommGroup W] [NormedSpace ℝ W] (w : W) : W :=
  ‖w‖⁻¹ • w

section

variable {W : Type} [NormedAddCommGroup W] [NormedSpace ℝ W] (w : W)

theorem normalize_eq : normalize w ‖w‖ = .ok (unit w) := by
  unfold normalize unit
  by_cases h : 0 < ‖w‖
  · simp only [Arithmetic.lt, h, decide_true, if_true, exact_div h.ne', bind, Except.bind, one_div]
    rfl
  · have hw : w = 0 := by simpa using h
    simp [Arithmetic.lt, hw, pure, Except.pure]

theorem norm_smul_unit : ‖w‖ • unit w = w := by
  unfold unit
  by_cases h : w = 0
  · simp [h]
  · rw [smul_smul, mul_inv_cancel₀ (norm_ne_zero_iff.2 h), one_smul]

theorem norm_unit {w : W} (h : ‖w‖ ≠ 0) : ‖unit w‖ = 1 := by
  rw [unit, norm_smul, norm_inv, norm_norm, inv_mul_cancel₀ h]

end

variable (A : E →ₗ[𝕜] F) (b : F) (x₀ : E) (p : Bidiagonal ℝ F E)

/-- The state after the start. -/
noncomputable def opening : Bidiagonal ℝ F E :=
  { u := unit (b - A x₀)
    v := unit (A.adjoint (unit (b - A x₀)))
    alpha := ‖A.adjoint (unit (b - A x₀))‖
    beta := ‖b - A x₀‖
    counted := ⟨1, 1⟩
    asked := ⟨1, 1⟩ }

theorem start_eq :
    (start (LinearOperator.exact A) x₀).run (initial b 0) = .ok () (opening A b x₀) := by
  simp only [start, forward, backward, takeU, takeV, initial, EStateM.run_bind, EStateM.run_get,
    EStateM.run_modify, run_ofExcept_ok, LinearOperator.exact, Vectors.sub, Vectors.assign,
    Vectors.norm, normalize_eq]
  rfl

/-- The vector that a step gives to `u`, before it is divided by its norm. -/
noncomputable def forwardPart : F := A p.v - p.alpha • p.u

/-- The vector that a step gives to `v`, before it is divided by its norm. -/
noncomputable def backwardPart : E :=
  A.adjoint (unit (p.forwardPart A)) - ‖p.forwardPart A‖ • p.v

open Classical in
/-- The state after one more step. -/
noncomputable def next : Bidiagonal ℝ F E :=
  if ‖p.forwardPart A‖ = 0 then
    { p with
      u := 0, beta := 0, counted := p.counted.addForward, asked := p.asked.addForward }
  else
    { u := unit (p.forwardPart A)
      v := unit (p.backwardPart A)
      alpha := ‖p.backwardPart A‖
      beta := ‖p.forwardPart A‖
      counted := p.counted.addForward.addAdjoint
      asked := p.asked.addForward.addAdjoint }

theorem step_eq : (step (LinearOperator.exact A)).run p = .ok () (p.next A) := by
  -- The program scales the old vector first and adds the product to it.
  have hf : -p.alpha • p.u + A p.v = p.forwardPart A := by
    rw [forwardPart, neg_smul, neg_add_eq_sub]
  have hb : -‖p.forwardPart A‖ • p.v + A.adjoint (unit (p.forwardPart A)) = p.backwardPart A := by
    rw [backwardPart, neg_smul, neg_add_eq_sub]
  simp only [step, forward, backward, takeU, takeV, EStateM.run_bind, EStateM.run_get,
    EStateM.run_modify, run_ofExcept_ok, LinearOperator.exact, Vectors.add, Vectors.scale,
    Vectors.norm, hf, normalize_eq, Arithmetic.lt, next]
  by_cases h : ‖p.forwardPart A‖ = 0
  · have h0 : p.forwardPart A = 0 := norm_eq_zero.1 h
    simp [h0, unit]
  · have hpos : 0 < ‖p.forwardPart A‖ := lt_of_le_of_ne (norm_nonneg _) (Ne.symm h)
    simp only [hpos, decide_true, if_true, if_neg h, EStateM.run_bind, EStateM.run_get,
      EStateM.run_modify, run_ofExcept_ok, hb, normalize_eq]

theorem next_beta : (p.next A).beta = ‖p.forwardPart A‖ := by
  unfold next
  split_ifs with h
  · exact h.symm
  · rfl

/-- **The states of the process** after any number of steps. -/
noncomputable def after : ℕ → Bidiagonal ℝ F E
  | 0 => opening A b x₀
  | k + 1 => (after k).next A

/-- **The recurrences of the process**, from a first residual `r`. A vector has norm one unless its
scalar vanishes; where `beta` vanishes, the second half of the step is left out. -/
structure Recurs (A : E →ₗ[𝕜] F) (r : F) (P : ℕ → Bidiagonal ℝ F E) : Prop where
  beta_nonneg : ∀ k, 0 ≤ (P k).beta
  alpha_nonneg : ∀ k, 0 ≤ (P k).alpha
  norm_u : ∀ k, (P k).beta ≠ 0 → ‖(P k).u‖ = 1
  norm_v : ∀ k, (P k).alpha ≠ 0 → ‖(P k).v‖ = 1
  start_u : (P 0).beta • (P 0).u = r
  start_v : (P 0).alpha • (P 0).v = A.adjoint (P 0).u
  forward : ∀ k, (P (k + 1)).beta • (P (k + 1)).u = A (P k).v - (P k).alpha • (P k).u
  backward : ∀ k, (P (k + 1)).beta ≠ 0 →
    (P (k + 1)).alpha • (P (k + 1)).v = A.adjoint (P (k + 1)).u - (P (k + 1)).beta • (P k).v
  u_eq_zero : ∀ k, (P (k + 1)).beta = 0 → (P (k + 1)).u = 0

theorem recurs_after : Recurs A (b - A x₀) (after A b x₀) where
  beta_nonneg k := by
    cases k with
    | zero => exact norm_nonneg _
    | succ k => simp only [after, next]; split_ifs; exacts [le_rfl, norm_nonneg _]
  alpha_nonneg k := by
    induction k with
    | zero => exact norm_nonneg _
    | succ k ih => simp only [after, next]; split_ifs; exacts [ih, norm_nonneg _]
  norm_u k := by
    cases k with
    | zero => exact norm_unit
    | succ k =>
      simp only [after, next]; split_ifs
      · intro h; exact absurd rfl h
      · exact norm_unit
  norm_v k := by
    induction k with
    | zero => exact norm_unit
    | succ k ih => simp only [after, next]; split_ifs; exacts [ih, norm_unit]
  start_u := norm_smul_unit _
  start_v := norm_smul_unit _
  forward k := by
    simp only [after, next]
    split_ifs with h
    · rw [smul_zero]; exact (norm_eq_zero.1 h).symm
    · exact norm_smul_unit _
  backward k := by
    simp only [after, next]
    split_ifs with h
    · intro h'; exact absurd rfl h'
    · intro _; exact norm_smul_unit _
  u_eq_zero k := by
    simp only [after, next]
    split_ifs with h
    · intro _; rfl
    · intro h'; exact absurd h' h

end Bidiagonal

end LeastSquares
