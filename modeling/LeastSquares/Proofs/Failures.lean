import LeastSquares.Proofs.Halves
import LeastSquares.Proofs.Judgement
import LeastSquares.Proofs.Record

/-!
# How a solve can fail

An action of a solve fails with the causes of the operations that it is made of, and with no others.
So what can end a solve is read off its operations: those on scalars and on vectors, the products
with the operator, and the callback. None of them reports what the judgement of a request looks for.

* `FailsBy`, `RunFailsBy`: **an action that fails with some causes only**, and how such actions
  compose.
* `PartsFailBy`, `Problem.failed_by`: **a solve fails by what its parts fail by.**
* `Fault.isRefusal`: the causes that the judgement finds.
* `Request.fails_fast`: **what is not in order is refused before anything is done, and nothing of it
  is found later.**
-/

namespace LeastSquares

open Arithmetic

/-! ### Actions by their causes -/

section

variable {σ τ α β : Type} {Φ : Fault → Prop}

/-- **A computation that fails with some causes only.** -/
def FailsBy (Φ : Fault → Prop) (x : Except Fault α) : Prop := ∀ e, x = .error e → Φ e

/-- **An action that fails with some causes only.** -/
def RunFailsBy (Φ : Fault → Prop) (x : EStateM Fault σ α) : Prop :=
  ∀ s e s', x.run s = .error e s' → Φ e

namespace FailsBy

theorem ok (a : α) : FailsBy Φ (.ok a) := by
  intro e h
  cases h

theorem error {e : Fault} (h : Φ e) : FailsBy Φ (.error e : Except Fault α) := by
  intro e' h'
  cases h'
  exact h

theorem bind {x : Except Fault α} {f : α → Except Fault β} (hx : FailsBy Φ x)
    (hf : ∀ a, FailsBy Φ (f a)) : FailsBy Φ (x >>= f) := by
  intro e h
  cases x with
  | ok a => exact hf a e h
  | error e' =>
    cases h
    exact hx _ rfl

theorem map {x : Except Fault α} {f : α → β} (hx : FailsBy Φ x) : FailsBy Φ (x.map f) := by
  intro e h
  cases x with
  | ok a => cases h
  | error e' =>
    cases h
    exact hx _ rfl

theorem ite {p : Prop} [Decidable p] {x y : Except Fault α} (hx : FailsBy Φ x)
    (hy : FailsBy Φ y) : FailsBy Φ (if p then x else y) := by
  by_cases hp : p
  · rwa [if_pos hp]
  · rwa [if_neg hp]

theorem mapM {f : α → Except Fault β} (hf : ∀ a, FailsBy Φ (f a)) (l : List α) :
    FailsBy Φ (l.mapM f) := by
  induction l with
  | nil => exact .ok _
  | cons a l ih =>
    rw [List.mapM_cons]
    exact (hf a).bind fun _ => ih.bind fun _ => .ok _

end FailsBy

namespace RunFailsBy

theorem pure (a : α) : RunFailsBy Φ (pure a : EStateM Fault σ α) := by
  intro s e s' h
  cases h

theorem get_bind {f : σ → EStateM Fault σ β} (hf : ∀ s, RunFailsBy Φ (f s)) :
    RunFailsBy Φ (get >>= f) := by
  intro s e s' h
  exact hf s s e s' h

theorem modify (f : σ → σ) : RunFailsBy Φ (modify f : EStateM Fault σ Unit) := by
  intro s e s' h
  cases h

theorem ofExcept_failsBy {x : Except Fault α} (hx : FailsBy Φ x) :
    RunFailsBy Φ (ofExcept x : EStateM Fault σ α) := by
  intro s e s' h
  cases x with
  | ok a => cases h
  | error e' =>
    cases h
    exact hx _ rfl

theorem bind {x : EStateM Fault σ α} {f : α → EStateM Fault σ β} (hx : RunFailsBy Φ x)
    (hf : ∀ a, RunFailsBy Φ (f a)) : RunFailsBy Φ (x >>= f) := by
  intro s e s' h
  rw [EStateM.run_bind] at h
  cases hs : x.run s with
  | ok a t =>
    rw [hs] at h
    exact hf a t e s' h
  | error e' t =>
    rw [hs] at h
    cases h
    exact hx _ _ _ hs

theorem onPart_failsBy {get : σ → τ} {set : τ → σ → σ} {x : EStateM Fault τ α}
    (hx : RunFailsBy Φ x) : RunFailsBy Φ (onPart get set x) := by
  intro s e s' h
  rw [run_onPart] at h
  cases hs : x.run (get s) with
  | ok a t =>
    rw [hs] at h
    cases h
  | error e' t =>
    rw [hs] at h
    cases h
    exact hx _ _ _ hs

theorem ite {p : Prop} [Decidable p] {x y : EStateM Fault σ α} (hx : RunFailsBy Φ x)
    (hy : RunFailsBy Φ y) : RunFailsBy Φ (if p then x else y) := by
  by_cases hp : p
  · rwa [if_pos hp]
  · rwa [if_neg hp]

end RunFailsBy

end

/-! ### The parts of a solve -/

/-- What the operations on scalars fail by. -/
structure ScalarsFailBy (Φ : Fault → Prop) (α : Type) [Arithmetic α] : Prop where
  use : ∀ a : α, FailsBy Φ (use a)
  div : ∀ a b : α, FailsBy Φ (div a b)
  square : ∀ a : α, FailsBy Φ (square a)
  sqrt : ∀ a : α, FailsBy Φ (sqrt a)

/-- What the operations on vectors fail by. -/
structure VectorsFailBy (Φ : Fault → Prop) {α : Type} (V : Type) [Vectors α V] : Prop where
  scale : ∀ (v : V) (a : α), FailsBy Φ (Vectors.scale v a)
  add : ∀ v w : V, FailsBy Φ (Vectors.add v w)
  sub : ∀ v w : V, FailsBy Φ (Vectors.sub v w)
  addScaled : ∀ (v : V) (a : α) (w : V), FailsBy Φ (Vectors.addScaled v a w)
  assign : ∀ v w : V, FailsBy Φ (Vectors.assign v w)

/-- **What the parts of the process fail by**: the operations on vectors, the products, and the
making of unit vectors. -/
structure ProcessFailsBy (Φ : Fault → Prop) {α U V : Type} [Arithmetic α] [Vectors α U]
    [Vectors α V] (A : LinearOperator V U) : Prop where
  range : VectorsFailBy Φ U
  domain : VectorsFailBy Φ V
  apply : ∀ x, FailsBy Φ (A.apply x)
  adjoint : ∀ y, FailsBy Φ (A.adjoint y)
  unit_range : ∀ u : U, FailsBy Φ (Bidiagonal.normalize u (Vectors.norm u))
  unit_domain : ∀ v : V, FailsBy Φ (Bidiagonal.normalize v (Vectors.norm v))

/-- **What the parts of a solve fail by**: the operations, the products, and the callback. -/
structure PartsFailBy (Φ : Fault → Prop) {α U V : Type} [Arithmetic α] [Vectors α U] [Vectors α V]
    (A : LinearOperator V U) : Prop where
  scalars : ScalarsFailBy Φ α
  range : VectorsFailBy Φ U
  domain : VectorsFailBy Φ V
  apply : ∀ x, FailsBy Φ (A.apply x)
  adjoint : ∀ y, FailsBy Φ (A.adjoint y)
  interrupted : ∀ n, Φ (.interrupted n)

section

variable {Φ : Fault → Prop} {α U V : Type} [Arithmetic α] [Vectors α U] [Vectors α V]

namespace ScalarsFailBy

variable (h : ScalarsFailBy Φ α)

include h

theorem ofPair (a b : α) : FailsBy Φ (PlaneRotation.ofPair a b) := by
  unfold PlaneRotation.ofPair
  refine .ite (.ok _) ?_
  exact (h.div _ _).bind fun _ => (h.div _ _).bind fun _ => .ok _

theorem rotation (q : Rotation α) (alpha beta damp : α) :
    FailsBy Φ (q.advance alpha beta damp) := by
  unfold Rotation.advance
  refine (h.use damp).bind fun _ => ?_
  refine (h.ofPair _ _).bind fun _ => ?_
  refine (h.ofPair _ _).bind fun _ => ?_
  exact (h.ofPair _ _).bind fun _ => .ok _

theorem residual (e : ResidualEstimate α) (t : RotationStep α) (q : Rotation α) :
    FailsBy Φ (e.advance t q) := by
  unfold ResidualEstimate.advance
  refine (h.ofPair _ _).bind fun _ => ?_
  refine (h.div _ _).bind fun _ => (h.div _ _).bind fun _ => ?_
  refine (h.square _).bind fun _ => (h.square _).bind fun _ => (h.square _).bind fun _ => ?_
  exact (h.sqrt _).bind fun _ => .ok _

theorem initialNorm (alpha : α) : FailsBy Φ (NormEstimate.initial alpha) := by
  unfold NormEstimate.initial
  exact (h.square _).bind fun _ => .ok _

theorem norms (e : NormEstimate α) (alpha beta : α) (t : RotationStep α) (n : Int) :
    FailsBy Φ (e.advance alpha beta t n) := by
  unfold NormEstimate.advance NormEstimate.advanceIf
  refine (h.square _).bind fun _ => (h.sqrt _).bind fun _ => (h.square _).bind fun _ => ?_
  refine (FailsBy.ok _).bind fun later => .ite ?_ ?_
  · exact (FailsBy.ok _).bind fun _ => .ok _
  · exact (h.div _ _).map.bind fun _ => .ok _

theorem reciprocal (a : Extended α) : FailsBy Φ a.reciprocal := by
  cases a with
  | finite a => exact h.div _ _
  | infinite => exact .ok _

theorem statistics (normr normar norma : α) (conda : Extended α) (normx normb atol btol : α) :
    FailsBy Φ (StoppingTests.compute normr normar norma conda normx normb atol btol) := by
  have hrest : ∀ (test1 : α) (test2 : Extended α), FailsBy Φ (do
      let test3 ← conda.reciprocal
      let t1 ← Arithmetic.div test1 (1 + (← Arithmetic.div (norma * normx) normb))
      let slack ← Arithmetic.div ((← Arithmetic.use atol) * norma * normx) normb
      pure (⟨test1, test2, test3, t1, (← Arithmetic.use btol) + slack⟩ : StoppingTests α)) := by
    intro test1 test2
    refine (h.reciprocal _).bind fun _ => (h.div _ _).bind fun _ => (h.div _ _).bind fun _ => ?_
    exact (h.use _).bind fun _ => (h.div _ _).bind fun _ => (h.use _).bind fun _ => .ok _
  unfold StoppingTests.compute
  refine (h.div _ _).bind fun test1 => .ite ?_ ?_
  · exact (h.div _ _).map.bind fun test2 => hrest test1 test2
  · exact (FailsBy.ok _).bind fun test2 => hrest test1 test2

theorem normalize {W : Type} [Vectors α W] (hW : VectorsFailBy Φ W) (w : W) (norm : α) :
    FailsBy Φ (Bidiagonal.normalize w norm) := by
  unfold Bidiagonal.normalize
  exact .ite ((h.div _ _).bind fun _ => hW.scale _ _) (.ok _)

end ScalarsFailBy

/-- **The update of the solution** fails by its three quotients and by the operations on vectors. -/
theorem VectorsFailBy.update (h : VectorsFailBy Φ V) {q : Rotation α} {t : RotationStep α}
    (hbar : FailsBy Φ (div (-t.thetabar * q.rho) (t.rhoold * t.rhobarold)))
    (hx : FailsBy Φ (div q.zeta (q.rho * q.rhobar))) (hh : FailsBy Φ (div (-t.thetanew) q.rho))
    (v : V) : RunFailsBy Φ (Iterate.update q t v) := by
  unfold Iterate.update
  refine (RunFailsBy.ofExcept_failsBy hbar).bind fun _ => .get_bind fun _ => ?_
  refine (RunFailsBy.ofExcept_failsBy (h.scale _ _)).bind fun _ => ?_
  refine (RunFailsBy.modify _).bind fun _ => .get_bind fun _ => ?_
  refine (RunFailsBy.ofExcept_failsBy (h.add _ _)).bind fun _ => ?_
  refine (RunFailsBy.modify _).bind fun _ => ?_
  refine (RunFailsBy.ofExcept_failsBy hx).bind fun _ => .get_bind fun _ => ?_
  refine (RunFailsBy.ofExcept_failsBy (h.addScaled _ _ _)).bind fun _ => ?_
  refine (RunFailsBy.modify _).bind fun _ => ?_
  refine (RunFailsBy.ofExcept_failsBy hh).bind fun _ => .get_bind fun _ => ?_
  refine (RunFailsBy.ofExcept_failsBy (h.scale _ _)).bind fun _ => ?_
  refine (RunFailsBy.modify _).bind fun _ => ?_
  exact (RunFailsBy.ofExcept_failsBy (h.add _ _)).bind fun _ => .modify _

omit [Arithmetic α] in
/-- Observers fail only where the callback ends the solve. -/
theorem RunFailsBy.see (h : ∀ n, Φ (.interrupted n)) (n : ℕ) (t : StoppingTests α) :
    RunFailsBy Φ (Observers.see n t) := by
  intro o e o' he
  rw [Observers.run_see] at he
  split_ifs at he
  injection he with he
  exact he ▸ h n

/-! ### The process -/

namespace ProcessFailsBy

variable {A : LinearOperator V U} (h : ProcessFailsBy Φ A)

include h

theorem forward (x : V) :
    RunFailsBy Φ (Bidiagonal.forward A x : EStateM Fault (Bidiagonal α U V) U) := by
  unfold Bidiagonal.forward
  exact (RunFailsBy.modify _).bind fun _ => .ofExcept_failsBy (h.apply x)

theorem backward :
    RunFailsBy Φ (Bidiagonal.backward A : EStateM Fault (Bidiagonal α U V) V) := by
  unfold Bidiagonal.backward
  exact (RunFailsBy.modify _).bind fun _ => .get_bind fun _ => .ofExcept_failsBy (h.adjoint _)

theorem takeU (u : U) : RunFailsBy Φ (Bidiagonal.takeU (V := V) u) := by
  intro p e p' he
  simp only [Bidiagonal.takeU, run_modify_bind, run_get_bind] at he
  have hunit := RunFailsBy.ofExcept_failsBy (σ := Bidiagonal α U V) (h.unit_range u)
  exact hunit.bind (fun _ => .modify _) _ _ _ he

theorem takeV (v : V) : RunFailsBy Φ (Bidiagonal.takeV (U := U) v) := by
  intro p e p' he
  simp only [Bidiagonal.takeV, run_modify_bind, run_get_bind] at he
  have hunit := RunFailsBy.ofExcept_failsBy (σ := Bidiagonal α U V) (h.unit_domain v)
  exact hunit.bind (fun _ => .modify _) _ _ _ he

theorem start (x : V) : RunFailsBy Φ (Bidiagonal.start A x) := by
  unfold Bidiagonal.start
  refine (h.forward x).bind fun _ => .get_bind fun _ => ?_
  refine (RunFailsBy.ofExcept_failsBy (h.range.sub _ _)).bind fun _ => (h.takeU _).bind fun _ => ?_
  refine h.backward.bind fun _ => .get_bind fun _ => ?_
  exact (RunFailsBy.ofExcept_failsBy (h.domain.assign _ _)).bind fun _ => h.takeV _

theorem step : RunFailsBy Φ (Bidiagonal.step A) := by
  unfold Bidiagonal.step
  refine .get_bind fun _ => .get_bind fun _ => ?_
  refine (RunFailsBy.ofExcept_failsBy (h.range.scale _ _)).bind fun _ => ?_
  refine (RunFailsBy.modify _).bind fun _ => .get_bind fun _ => (h.forward _).bind fun _ => ?_
  refine (RunFailsBy.ofExcept_failsBy (h.range.add _ _)).bind fun _ => (h.takeU _).bind fun _ => ?_
  refine .get_bind fun _ => .ite ?_ (.pure _)
  refine .get_bind fun _ => .get_bind fun _ => ?_
  refine (RunFailsBy.ofExcept_failsBy (h.domain.scale _ _)).bind fun _ => ?_
  refine (RunFailsBy.modify _).bind fun _ => h.backward.bind fun _ => ?_
  exact (RunFailsBy.ofExcept_failsBy (h.domain.add _ _)).bind fun _ => h.takeV _

end ProcessFailsBy

/-! ### An iteration -/

namespace PartsFailBy

variable {A : LinearOperator V U} (h : PartsFailBy Φ A)

include h

theorem process : ProcessFailsBy Φ A where
  range := h.range
  domain := h.domain
  apply := h.apply
  adjoint := h.adjoint
  unit_range _ := h.scalars.normalize h.range _ _
  unit_domain _ := h.scalars.normalize h.domain _ _

theorem compute (damp : α) : RunFailsBy Φ (Run.compute A damp) := by
  unfold Run.compute
  refine (RunFailsBy.modify _).bind fun _ => ?_
  refine (RunFailsBy.onPart_failsBy h.process.step).bind fun _ => .get_bind fun _ => ?_
  refine (RunFailsBy.ofExcept_failsBy (h.scalars.rotation _ _ _ _)).bind fun _ => ?_
  refine (RunFailsBy.modify _).bind fun _ => ?_
  have hdiv := h.scalars.div
  refine (RunFailsBy.onPart_failsBy
    (h.domain.update (hdiv _ _) (hdiv _ _) (hdiv _ _) _)).bind fun _ => ?_
  refine (RunFailsBy.ofExcept_failsBy (h.scalars.residual _ _ _)).bind fun _ => ?_
  refine (RunFailsBy.modify _).bind fun _ => ?_
  exact (RunFailsBy.ofExcept_failsBy (h.scalars.norms _ _ _ _ _)).bind fun _ => .modify _

end PartsFailBy

theorem PartsFailBy.judge {P : Problem α U V} (h : PartsFailBy Φ P.operator) :
    RunFailsBy Φ (Run.judge P) := by
  unfold Run.judge
  refine .get_bind fun _ => ?_
  refine (RunFailsBy.ofExcept_failsBy (h.scalars.statistics _ _ _ _ _ _ _ _)).bind fun _ => ?_
  refine (RunFailsBy.onPart_failsBy (.see h.interrupted _ _)).bind fun _ => ?_
  exact (RunFailsBy.ofExcept_failsBy (h.scalars.use _)).bind fun _ => .modify _

theorem PartsFailBy.begin {A : LinearOperator V U} (h : PartsFailBy Φ A) (p : Bidiagonal α U V)
    (x zero : V) (o : Observers α) : FailsBy Φ (Run.begin p x zero o) := by
  unfold Run.begin
  exact (h.scalars.initialNorm _).bind fun _ => .ok _

/-- **A solve fails by what its parts fail by.** -/
theorem Problem.failed_by {P : Problem α U V} {p : Bidiagonal α U V} {x zero : V}
    {o : Observers α} {w : Wreck α V} (h : PartsFailBy Φ P.operator)
    (hw : P.solve p x zero o = .failed w) : Φ w.fault := by
  rcases failed_cases hw with ⟨p', hstart⟩ | ⟨p', -, hbegin⟩ | ⟨k, s, s', -, hadvance⟩
  · exact h.process.start x _ _ _ hstart
  · exact h.begin p' x zero o _ hbegin
  · rw [Run.advance_eq_halves] at hadvance
    exact (h.compute P.damp).bind (fun _ => h.judge) _ _ _ hadvance

end

/-! ### Doubles and arrays -/

/-- **The causes that the judgement of a request finds**: of the solution, of the matrix, of the
options, of the lengths and of the types. -/
def Fault.isRefusal : Fault → Bool
  | .notUpdatable | .notOperator | .notMatrix | .noShape | .tooFewExtents _ | .tooManyExtents
  | .unknownOption _ | .givenTwice _ _ | .negativeOption _ _ | .notComparable _ _ _ | .notCallable
  | .emptyShape | .integerOfNan | .integerOfInfinity | .negativeExtent | .tooDeep
  | .unevenLists _ | .notVector _ _ | .wrongLength _ _ _ | .narrowTarget _ _ => true
  | _ => false

/-- What is reported by the operator itself. -/
def Operator.Reports (A : Operator) (e : Fault) : Prop :=
  (∃ t, A.forward t = .error e) ∨ ∃ t, A.backward t = .error e

/-- **What may be found after the judgement**: none of its own causes, unless the operator reports
one. -/
def Operator.Admits (A : Operator) (e : Fault) : Prop := e.isRefusal = false ∨ A.Reports e

/-- **The causes that operations on arrays report**: types and extents that do not go together, and
integers that no double can hold. -/
def Fault.isOfVectors : Fault → Bool
  | .truthDifference | .cast _ _ _ | .broadcast _ _ _ | .smallTarget _ _ | .productLength
  | .integerTooLarge => true
  | _ => false

section

variable {Φ : Fault → Prop} (hΦ : ∀ e : Fault, e.isOfVectors = true → Φ e)

include hΦ

theorem Tensor.inPlace_failsBy (operation : InPlace) (op : ElementType → Entry → Entry → Entry)
    (s t : Tensor) : FailsBy Φ (Tensor.inPlace operation op s t) := by
  unfold Tensor.inPlace
  refine .ite (.error (hΦ _ rfl)) (.ite (.error (hΦ _ rfl)) ?_)
  cases common s.shape t.shape with
  | none => exact .error (hΦ _ rfl)
  | some shape => exact .ite (.error (hΦ _ rfl)) (.ite (.error (hΦ _ rfl)) (.ok _))

theorem Tensor.failBy : VectorsFailBy Φ Tensor where
  scale v a := .ite (.error (hΦ _ rfl)) (.ite (.error (hΦ _ rfl)) (.ok _))
  add v w := inPlace_failsBy hΦ .add ElementType.add v w
  sub v w := inPlace_failsBy hΦ .subtract ElementType.sub v w
  addScaled v a w := inPlace_failsBy hΦ .add ElementType.add v (w.multiple a)
  assign v w := by
    have h : FailsBy Φ (Tensor.assign v w) := by
      unfold Tensor.assign
      cases common v.shape w.shape with
      | none => exact .error (hΦ _ rfl)
      | some shape => exact .ok _
    exact h

theorem Operator.checked_failsBy {given wanted : Int} {f : Tensor → Except Fault Tensor}
    (hf : ∀ x, FailsBy Φ (f x)) (x : Tensor) :
    FailsBy Φ (Operator.checked given wanted f x) := by
  unfold Operator.checked
  exact .ite ((hf x).bind fun _ => .ite (.error (hΦ _ rfl)) (.ok _)) (.error (hΦ _ rfl))

end

section

variable {A : Operator}

theorem Scalar.failBy {F : Type} [FloatingPoint F] : ScalarsFailBy A.Admits (Scalar F) where
  use _ := .ite (.error (.inl rfl)) (.ok _)
  div _ _ := .ite (.error (.inl rfl)) (.ok _)
  square _ := .ite (.error (.inl rfl)) (.ok _)
  sqrt _ := .ite (.error (.inl rfl)) (.ok _)

theorem Operator.admits_of_vectors (e : Fault) (h : e.isOfVectors = true) : A.Admits e := by
  cases e <;> first | exact .inl rfl | cases h

/-- **A solve on arrays** finds nothing that the judgement looks for. -/
theorem Operator.partsFailBy : PartsFailBy A.Admits A.toLinear where
  scalars := Scalar.failBy
  range := Tensor.failBy admits_of_vectors
  domain := Tensor.failBy admits_of_vectors
  apply x := checked_failsBy admits_of_vectors (fun t _ h => .inr (.inl ⟨t, h⟩)) x
  adjoint y := checked_failsBy admits_of_vectors (fun t _ h => .inr (.inr ⟨t, h⟩)) y
  interrupted _ := .inl rfl

end

/-! ### Copies -/

theorem ElementType.two_le_rank_mixed (u w : Width) : 2 ≤ (mixed u w).rank := by
  unfold mixed
  split_ifs
  · exact Nat.le_refl 2
  · cases u <;> decide

/-- **A promotion is of no lesser kind** than the types that it holds. -/
theorem ElementType.rank_le_promote (s t : ElementType) :
    s.rank ≤ (s.promote t).rank ∧ t.rank ≤ (s.promote t).rank := by
  cases s with
  | unsigned v =>
    cases t with
    | signed w => exact ⟨Nat.le_of_succ_le (two_le_rank_mixed v w), two_le_rank_mixed v w⟩
    | _ => simp [promote, rank]
  | signed v =>
    cases t with
    | unsigned w => exact ⟨two_le_rank_mixed w v, Nat.le_of_succ_le (two_le_rank_mixed w v)⟩
    | _ => simp [promote, rank]
  | _ => cases t <;> simp [promote, rank]

/-- The type of a solve holds fractions. -/
theorem workingType_rank (A : Operator) (b x : Tensor) : 3 ≤ (workingType A b x).rank := by
  have h := (ElementType.rank_le_promote (A.type.promote b.type) .float64).2
  exact Nat.le_trans h (ElementType.rank_le_promote _ x.type).1

theorem Fault.double_failsBy (v : Value) :
    FailsBy (fun e => e.isRefusal = false) (Fault.double v) := by
  unfold Fault.double
  cases v with
  | text s =>
    dsimp only
    cases Decimal.double? s with
    | none => exact .error rfl
    | some x => exact .ok x
  | integer n => exact .ite (.error rfl) (.ok _)
  | boolean b => exact .ok _
  | number x => exact .ok x
  | _ => exact .error rfl

/-- An entry of a type of fractions is not refused. -/
theorem Atom.toEntry_failsBy {type : ElementType} (htype : 3 ≤ type.rank) (a : Atom) :
    FailsBy (fun e => e.isRefusal = false) (a.toEntry type) := by
  have hnumber : FailsBy (fun e => e.isRefusal = false) (a.toNumber type) := by
    rcases a with v | ⟨x, y⟩
    · cases v with
      | null => exact .ok _
      | _ =>
        simp only [Atom.toNumber]
        exact (Fault.double_failsBy _).map
    · exact .ok _
  cases type with
  | real p => exact hnumber
  | complex p => exact hnumber
  | object => cases a <;> exact .ok _
  | _ => simp [ElementType.rank] at htype

/-- Data that is an array in its least type is one in another type, if its values fit: the lists
are even, and not too deep, in any type. -/
theorem Plain.toTensor_of_ok {p : Plain} {t : Tensor} (h : p.toTensor none = .ok t)
    (type : ElementType) :
    p.toTensor (some type) = (do
      let entries ← p.atoms.mapM (Atom.toEntry type)
      pure ⟨type, p.shape.1, entries.toArray⟩) := by
  unfold toTensor at h
  have hdeep : ¬ depthLimit < p.shape.1.length + (if p.shape.2 then 0 else 1) := by
    intro hdeep
    simp only [if_pos hdeep] at h
    cases h
  simp only [if_neg hdeep] at h
  have heven : ¬ (!p.shape.2) = true := by
    intro heven
    simp only [if_pos heven] at h
    cases h
  unfold toTensor
  simp only [if_neg hdeep, if_neg heven, Option.getD_some]

/-- **A copy of what is an array**, in a type of fractions, is not refused. -/
theorem Given.copy_failsBy {type : ElementType} {g : Given} {t : Tensor} (htype : 3 ≤ type.rank)
    (hg : g.toTensor = .ok t) : FailsBy (fun e => e.isRefusal = false) (g.copy type) := by
  have harray (t : Tensor) :
      FailsBy (fun e => e.isRefusal = false) ((Given.array t).copy type) := by
    refine (FailsBy.ok t).bind fun t => .ite ?_ (.ok _)
    rw [Array.mapM_eq_mapM_toList]
    exact (FailsBy.mapM (fun e => Atom.toEntry_failsBy htype _) _).map.bind fun _ => .ok _
  cases g with
  | array t => exact harray t
  | missing => exact harray ⟨.object, [], #[]⟩
  | plain p =>
    have hcopy : (Given.plain p).copy type = p.toTensor (some type) := rfl
    rw [hcopy, Plain.toTensor_of_ok hg]
    exact (FailsBy.mapM (Atom.toEntry_failsBy htype) _).bind fun _ => .ok _

/-! ### Requests -/

namespace Request

open Log (Registry)

variable {r : Request} {p : Prepared}

/-- **The second look at the lengths** finds them in order. -/
theorem Judged.lengths_again (h : r.Judged p) :
    checkLength "b" p.b (.integer p.operator.rows) = .ok () ∧
      checkLength "x" (.array p.x) (.integer p.operator.cols) = .ok () := by
  obtain ⟨hx, hb⟩ := h.isVector
  rw [h.b_eq, ← h.updatable]
  exact ⟨checkLength_ok_iff.2 hb, checkLength_ok_iff.2 hx⟩

/-- The process of a judged request is made, unless a number of the right-hand side is none. -/
theorem Judged.bidiagonalize_failsBy (h : r.Judged p) :
    FailsBy (fun e => e.isRefusal = false)
      (bidiagonalize p.operator p.b (some (.array p.x)) (.ok (some p.type))) := by
  obtain ⟨zero, hzero, -⟩ := h.lengths
  obtain ⟨hb, hx⟩ := h.lengths_again
  obtain ⟨b, htensor, -⟩ := checkLength_ok_iff.1 hb
  have htype : 3 ≤ p.type.rank := by
    rw [h.type_eq_working (h.b_eq ▸ htensor)]
    exact workingType_rank p.operator b p.x
  have hmade : bidiagonalize p.operator p.b (some (.array p.x)) (.ok (some p.type)) =
      (p.b.copy p.type).bind fun u => .ok (.initial u zero) := by
    unfold bidiagonalize
    rw [hb]
    simp [hx, hzero, bind, Except.bind, pure, Except.pure]
  rw [hmade]
  exact (Given.copy_failsBy htype htensor).bind fun _ => .ok _

/-- **A prepared request fails** by nothing that the judgement looks for. -/
theorem Judged.failed_by {w : Wreck Double Tensor} {callback : Callback Double} (h : r.Judged p)
    (hw : p.solve callback = .failed w) : p.operator.Admits w.fault := by
  unfold Prepared.solve at hw
  cases hmade : bidiagonalize p.operator p.b (some (.array p.x)) (.ok (some p.type)) with
  | error e =>
    simp only [hmade] at hw
    injection hw with hw
    subst hw
    exact .inl (h.bidiagonalize_failsBy e hmade)
  | ok process =>
    simp only [hmade] at hw
    exact Problem.failed_by Operator.partsFailBy hw

/-- **Failing fast.** A request that is not in order is refused: the solution is as it was given,
nothing was asked of the operator, the callback was not called, and nothing was written. One that is
in order passes the judgement, unless its history cannot be kept. The second look at the lengths
then finds nothing, and no cause that the judgement looks for is found later, unless the operator
itself reports one. -/
theorem fails_fast (r : Request) (g : Registry) :
    (¬ r.Valid → ∃ e, r.prepare = .error e ∧ r.run g = (⟨.error e, r.given?, .zero, [], []⟩, g)) ∧
    (r.Valid →
      ((∃ p, r.prepare = .ok p) ∨ r.prepare = .error .integerTooLarge) ∧
      (∀ p, r.prepare = .ok p →
        checkLength "b" p.b (.integer p.operator.rows) = .ok () ∧
          checkLength "x" (.array p.x) (.integer p.operator.cols) = .ok ()) ∧
      ∀ e, (r.run g).1.result = .error e →
        e.isRefusal = false ∨ ∃ A, r.source.toOperator = .ok A ∧ A.Reports e) := by
  constructor
  · intro hinvalid
    cases hp : r.prepare with
    | ok p => exact absurd (prepare_valid hp) hinvalid
    | error e => exact ⟨e, rfl, by rw [run, hp]; rfl⟩
  · intro hvalid
    refine ⟨hvalid.prepare, fun p hp => (prepare_ok hp).lengths_again, fun e he => ?_⟩
    rcases hvalid.prepare with ⟨p, hp⟩ | hhistory
    · obtain ⟨written, hwritten⟩ := run_report (g := g) hp
      rw [hwritten] at he
      cases hend : p.solve r.callback with
      | returned s =>
        rw [hend] at he
        cases he
      | failed w =>
        rw [hend] at he
        injection he with he
        subst he
        exact ((prepare_ok hp).failed_by hend).imp_right fun h =>
          ⟨p.operator, (prepare_ok hp).operator_eq, h⟩
    · rw [run, hhistory] at he
      injection he with he
      subst he
      exact .inl rfl

/-- A solution of whole numbers, which does not hold what is computed. -/
def wholeSolution : Request := { doubling with x := .array (.zeros (.signed .w64) 2) }

theorem wholeSolution_invalid : ¬ wholeSolution.Valid := by
  intro h
  obtain ⟨A, hA⟩ := Source.toOperator_ok_iff.2 h.supported
  have haccepts := h.accepts A _ _ hA rfl rfl
  have hrank := workingType_rank A ⟨.float64, [2], #[.ofReal 1, .zero]⟩ (.zeros (.signed .w64) 2)
  simp only [ElementType.accepts, decide_eq_true_eq] at haccepts
  exact absurd (Nat.le_trans hrank haccepts) (by decide)

theorem doubling_valid : doubling.Valid := by
  obtain ⟨p, hp, -⟩ := Option.map_eq_some_iff.1 doubling_log
  exact prepare_valid (toOption_eq_some.1 hp)

theorem wholeSolution_fails_fast :
    (¬ wholeSolution.Valid ∧ ∃ e, wholeSolution.run .empty =
      (⟨.error e, some (.zeros (.signed .w64) 2), .zero, [], []⟩, .empty)) ∧
    doubling.Valid ∧
      ((∃ p, doubling.prepare = .ok p) ∨ doubling.prepare = .error .integerTooLarge) := by
  obtain ⟨e, -, he⟩ := (fails_fast wholeSolution .empty).1 wholeSolution_invalid
  exact ⟨⟨wholeSolution_invalid, e, he⟩, doubling_valid,
    ((fails_fast doubling .empty).2 doubling_valid).1⟩

end Request

end LeastSquares
