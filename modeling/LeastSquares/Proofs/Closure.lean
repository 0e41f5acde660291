import LeastSquares.Proofs.Independence

/-!
# Numbers that a solve does not leave

If no operation on scalars leads out of a set of numbers, and vectors of some kind have their norms
in it, then a solve that starts there stays there: its rotations, its estimates and all statistics
are numbers of the set. A solve whose working type is not of extended precision is such a solve, and
its numbers are doubles.

* `ClosedNumbers`, `ClosedVectors`: **a set of numbers that the operations do not leave**, and vectors
  with their norms in it.
* `Rotation.Within`, `ResidualEstimate.Within`, `NormEstimate.Within`, `Run.Within`: states made of
  such numbers, and **what an iteration makes of them**.
* `Problem.Reaches.stays_within`, `Problem.Completes.stays_within`: **all states and all statistics
  of a solve.**
* `Double.IsNarrow`: the doubles among the numbers of a solve.
* `Request.Judged.calls_narrow`: **what a callback is told are doubles**, unless the working type is
  of extended precision.
-/

namespace LeastSquares

open Arithmetic

section

variable {α : Type} [Arithmetic α]

/-- **Numbers that no operation leaves.** -/
structure ClosedNumbers (Q : α → Prop) : Prop where
  zero : Q 0
  one : Q 1
  ofNat (n : ℕ) : Q (ofNat n)
  add {a b : α} : Q a → Q b → Q (a + b)
  sub {a b : α} : Q a → Q b → Q (a - b)
  mul {a b : α} : Q a → Q b → Q (a * b)
  neg {a : α} : Q a → Q (-a)
  abs {a : α} : Q a → Q (abs a)
  hypot {a b : α} : Q a → Q b → Q (hypot a b)
  use {a b : α} : Q a → use a = .ok b → Q b
  div {a b c : α} : Q a → Q b → div a b = .ok c → Q c
  square {a b : α} : Q a → square a = .ok b → Q b
  sqrt {a b : α} : Q a → sqrt a = .ok b → Q b

/-- **Vectors that no operation leaves**, with their norms among some numbers. What changes a vector
leaves it what it is. -/
structure ClosedVectors {V : Type} [Vectors α V] (Q : α → Prop) (R : V → Prop) : Prop where
  scale {v w : V} {a : α} : R v → Vectors.scale v a = .ok w → R w
  add {v w z : V} : R v → Vectors.add v w = .ok z → R z
  sub {v w z : V} : R v → Vectors.sub v w = .ok z → R z
  addScaled {v w z : V} {a : α} : R v → Vectors.addScaled v a w = .ok z → R z
  assign {v w z : V} : R v → Vectors.assign v w = .ok z → R z
  norm {v : V} : R v → Q (Vectors.norm v)

variable {Q : α → Prop}

/-! ### The recurrences -/

/-- An extended number of a set. -/
def Extended.Within (Q : α → Prop) (a : Extended α) : Prop := ∀ c, a = .finite c → Q c

/-- A rotation of the plane by numbers of a set. -/
structure PlaneRotation.Within (Q : α → Prop) (w : PlaneRotation α) : Prop where
  c : Q w.c
  s : Q w.s
  r : Q w.r

/-- Rotations by numbers of a set. -/
structure Rotation.Within (Q : α → Prop) (q : Rotation α) : Prop where
  alphabar : Q q.alphabar
  rhobar : Q q.rhobar
  cbar : Q q.cbar
  sbar : Q q.sbar
  zeta : Q q.zeta
  zetabar : Q q.zetabar

/-- One application of the rotations, by numbers of a set. -/
structure RotationStep.Within (Q : α → Prop) (t : RotationStep α) : Prop where
  chat : Q t.chat
  shat : Q t.shat
  c : Q t.c
  s : Q t.s
  rhobarold : Q t.rhobarold
  thetabar : Q t.thetabar
  rhotemp : Q t.rhotemp
  zetaold : Q t.zetaold

/-- An estimate of the residual by numbers of a set. -/
structure ResidualEstimate.Within (Q : α → Prop) (e : ResidualEstimate α) : Prop where
  betadd : Q e.betadd
  betad : Q e.betad
  rhodold : Q e.rhodold
  tautildeold : Q e.tautildeold
  thetatilde : Q e.thetatilde
  d : Q e.d

/-- Estimates of the norm and the condition number by numbers of a set. -/
structure NormEstimate.Within (Q : α → Prop) (e : NormEstimate α) : Prop where
  normA2 : Q e.normA2
  maxrbar : Q e.maxrbar
  minrbar : Q e.minrbar

theorem larger_within {a b : α} (ha : Q a) (hb : Q b) : Q (larger a b) := by
  unfold larger
  split_ifs
  exacts [hb, ha]

theorem smaller_within {a b : α} (ha : Q a) (hb : Q b) : Q (smaller a b) := by
  unfold smaller
  split_ifs
  exacts [hb, ha]

namespace ClosedNumbers

variable (hQ : ClosedNumbers Q)

include hQ

theorem ofPair {a b : α} {w : PlaneRotation α} (ha : Q a) (hb : Q b)
    (h : PlaneRotation.ofPair a b = .ok w) : w.Within Q := by
  unfold PlaneRotation.ofPair at h
  dsimp only at h
  split_ifs at h
  · obtain rfl := Except.ok.inj h
    exact ⟨hQ.one, hQ.zero, hQ.zero⟩
  · simp only [bind_eq_ok] at h
    obtain ⟨c, hc, s, hs, h⟩ := h
    obtain rfl := Except.ok.inj h
    have hr := hQ.hypot ha hb
    exact ⟨hQ.div ha hr hc, hQ.div hb hr hs, hr⟩

theorem quotient {a b : α} {c : Extended α} (ha : Q a) (hb : Q b)
    (h : (Arithmetic.div a b).map Extended.finite = .ok c) : c.Within Q := by
  cases hdiv : Arithmetic.div a b with
  | error e =>
    rw [hdiv] at h
    cases h
  | ok d =>
    rw [hdiv] at h
    rintro c' rfl
    cases h
    exact hQ.div ha hb hdiv

/-- **The rotations stay in the set.** -/
theorem rotation {q q' : Rotation α} {t : RotationStep α} {alpha beta damp : α} (hq : q.Within Q)
    (ha : Q alpha) (hb : Q beta) (hd : Q damp) (h : q.advance alpha beta damp = .ok (q', t)) :
    q'.Within Q ∧ t.Within Q := by
  unfold Rotation.advance at h
  simp only [bind_eq_ok] at h
  obtain ⟨d, hused, hat, hhat, turn, hturn, bar, hbar, h⟩ := h
  obtain ⟨rfl, rfl⟩ := Prod.mk.inj (Except.ok.inj h)
  have hh := hQ.ofPair hq.alphabar (hQ.use hd hused) hhat
  have ht := hQ.ofPair hh.r hb hturn
  have hw := hQ.ofPair (hQ.mul hq.cbar ht.r) (hQ.mul ht.s ha) hbar
  exact
    ⟨{ alphabar := hQ.mul ht.c ha
       rhobar := hw.r
       cbar := hw.c
       sbar := hw.s
       zeta := hQ.mul hw.c hq.zetabar
       zetabar := hQ.mul (hQ.neg hw.s) hq.zetabar },
     { chat := hh.c
       shat := hh.s
       c := ht.c
       s := ht.s
       rhobarold := hq.rhobar
       thetabar := hQ.mul hq.sbar ht.r
       rhotemp := hQ.mul hq.cbar ht.r
       zetaold := hq.zeta }⟩

/-- **The estimate of the residual stays in the set.** -/
theorem residual {e e' : ResidualEstimate α} {t : RotationStep α} {q : Rotation α} {normr : α}
    (he : e.Within Q) (ht : t.Within Q) (hq : q.Within Q)
    (h : e.advance t q = .ok (e', normr)) : e'.Within Q ∧ Q normr := by
  unfold ResidualEstimate.advance at h
  simp only [bind_eq_ok] at h
  obtain ⟨tilde, htilde, tau, htau, taud, htaud, d, hd, gap, hgap, rest, hrest, root, hroot, h⟩ := h
  obtain ⟨rfl, rfl⟩ := Prod.mk.inj (Except.ok.inj h)
  have hw := hQ.ofPair he.rhodold ht.thetabar htilde
  have htheta := hQ.mul hw.s hq.rhobar
  have hrhod := hQ.mul hw.c hq.rhobar
  have hacute := hQ.mul ht.chat he.betadd
  have hbetadd := hQ.mul (hQ.neg ht.s) hacute
  have hbetad := hQ.add (hQ.mul (hQ.neg hw.s) he.betad) (hQ.mul hw.c (hQ.mul ht.c hacute))
  have htau' := hQ.div (hQ.sub ht.zetaold (hQ.mul he.thetatilde he.tautildeold)) hw.r htau
  have htaud' := hQ.div (hQ.sub hq.zeta (hQ.mul htheta htau')) hrhod htaud
  have hd' := hQ.add he.d (hQ.square (hQ.mul (hQ.neg ht.shat) he.betadd) hd)
  have hgap' := hQ.square (hQ.sub hbetad htaud') hgap
  have hrest' := hQ.square hbetadd hrest
  exact ⟨⟨hbetadd, hbetad, hrhod, htau', htheta, hd'⟩,
    hQ.sqrt (hQ.add (hQ.add hd' hgap') hrest') hroot⟩

/-- **The estimates of the norm and the condition number stay in the set.** -/
theorem norms {e e' : NormEstimate α} {v : NormEstimate.Values α} {t : RotationStep α}
    {alpha beta : α} {n : Int} (he : e.Within Q) (ht : t.Within Q) (ha : Q alpha) (hb : Q beta)
    (h : e.advance alpha beta t n = .ok (e', v)) :
    e'.Within Q ∧ Q v.norma ∧ v.conda.Within Q := by
  unfold NormEstimate.advance NormEstimate.advanceIf at h
  simp only [bind_eq_ok] at h
  obtain ⟨b2, hb2, norma, hnorma, a2, ha2, later, -, h⟩ := h
  have hnorm := hQ.add he.normA2 (hQ.square hb hb2)
  have hmax := larger_within he.maxrbar ht.rhobarold
  have hmin : Q (if later then smaller e.minrbar t.rhobarold else e.minrbar) := by
    split_ifs
    exacts [smaller_within he.minrbar ht.rhobarold, he.minrbar]
  generalize (if later then smaller e.minrbar t.rhobarold else e.minrbar) = m at hmin h
  have hkept : (⟨e.normA2 + b2 + a2, larger e.maxrbar t.rhobarold, m⟩ : NormEstimate α).Within Q :=
    ⟨hQ.add hnorm (hQ.square ha ha2), hmax, hmin⟩
  split_ifs at h
  · simp only [bind_eq_ok] at h
    obtain ⟨conda, hconda, h⟩ := h
    obtain ⟨rfl, rfl⟩ := Prod.mk.inj (Except.ok.inj h)
    obtain rfl := Except.ok.inj hconda
    exact ⟨hkept, hQ.sqrt hnorm hnorma, fun c hc => by cases hc⟩
  · simp only [bind_eq_ok] at h
    obtain ⟨conda, hconda, h⟩ := h
    obtain ⟨rfl, rfl⟩ := Prod.mk.inj (Except.ok.inj h)
    refine ⟨hkept, hQ.sqrt hnorm hnorma, ?_⟩
    exact hQ.quotient (larger_within hmax ht.rhotemp) (smaller_within hmin ht.rhotemp) hconda

/-- What an iteration shows of the statistics. -/
theorem statistics {normr normar norma normx normb atol btol : α} {conda : Extended α}
    {t : StoppingTests α} (hr : Q normr) (har : Q normar) (hA : Q norma) (hc : conda.Within Q)
    (hb : Q normb)
    (h : StoppingTests.compute normr normar norma conda normx normb atol btol = .ok t) :
    Q t.test1 ∧ t.test2.Within Q ∧ Q t.test3 := by
  obtain ⟨h1, h2, h3⟩ := StoppingTests.compute_ok h
  refine ⟨hQ.div hr hb h1, ?_, ?_⟩
  · split_ifs at h2
    · exact hQ.quotient har (hQ.mul hA hr) h2
    · obtain h2 := Except.ok.inj h2
      rintro c hc
      cases h2.trans hc
  · cases conda with
    | finite c => exact hQ.div hQ.one (hc c rfl) h3
    | infinite => exact Except.ok.inj h3 ▸ hQ.zero

end ClosedNumbers

end

/-! ### The states of a solve -/

variable {α U V : Type} [Arithmetic α] [Vectors α U] [Vectors α V] {Q : α → Prop} {R : U → Prop}
  {S : V → Prop}

/-- A process made of vectors and numbers of some sets. -/
structure Bidiagonal.Within (Q : α → Prop) (R : U → Prop) (S : V → Prop) (p : Bidiagonal α U V) :
    Prop where
  u : R p.u
  v : S p.v
  alpha : Q p.alpha
  beta : Q p.beta

/-- **A state made of vectors and numbers of some sets.** -/
structure Run.Within (Q : α → Prop) (R : U → Prop) (S : V → Prop) (s : Run α U V) : Prop where
  process : s.process.Within Q R S
  rotation : s.rotation.Within Q
  residual : s.residual.Within Q
  norms : s.norms.Within Q
  x : S s.iterate.x
  normb : Q s.normb

theorem ClosedVectors.normalize (hR : ClosedVectors Q R) {u w : U} {a : α} (hu : R u)
    (h : Bidiagonal.normalize u a = .ok w) : R w := by
  unfold Bidiagonal.normalize at h
  split_ifs at h
  · obtain ⟨b, -, h⟩ := bind_eq_ok.1 h
    exact hR.scale hu h
  · exact Except.ok.inj h ▸ hu

section

variable (hQ : ClosedNumbers Q) (hR : ClosedVectors Q R) (hS : ClosedVectors Q S)
  {A : LinearOperator V U} {p p' : Bidiagonal α U V}

include hR hS

/-- **The start of the process** takes the vectors as they are. -/
theorem Bidiagonal.start_within {x : V} (hu : R p.u) (hv : S p.v)
    (h : (start A x).run p = .ok () p') : p'.Within Q R S := by
  simp only [start, run_forward_bind_eq_ok, run_get_bind, run_ofExcept_bind_eq_ok,
    run_takeU_bind_eq_ok, run_backward_bind_eq_ok, run_takeV_eq_ok] at h
  obtain ⟨y, -, u, hsub, w, hw, z, -, v, hassign, w', hw', rfl⟩ := h
  have hu' := hR.sub hu hsub
  have hv' := hS.assign hv hassign
  exact ⟨hR.normalize hu' hw, hS.normalize hv' hw', hS.norm hv', hR.norm hu'⟩

/-- **A step of the process.** -/
theorem Bidiagonal.step_within (hp : p.Within Q R S) (h : (step A).run p = .ok () p') :
    p'.Within Q R S := by
  simp only [step, run_get_bind, run_modify_bind, run_ofExcept_bind_eq_ok, run_forward_bind_eq_ok,
    run_takeU_bind_eq_ok] at h
  obtain ⟨u, hscale, y, -, u', hadd, w, hw, h⟩ := h
  have hu := hR.add (hR.scale hp.u hscale) hadd
  split_ifs at h
  · simp only [run_get_bind, run_modify_bind, run_ofExcept_bind_eq_ok, run_backward_bind_eq_ok,
      run_takeV_eq_ok] at h
    obtain ⟨v, hscale', z, -, v', hadd', w', hw', rfl⟩ := h
    have hv := hS.add (hS.scale hp.v hscale') hadd'
    exact ⟨hR.normalize hu hw, hS.normalize hv hw', hS.norm hv, hR.norm hu⟩
  · simp only [EStateM.run_pure, EStateM.Result.ok.injEq, true_and] at h
    subst h
    exact ⟨hR.normalize hu hw, hp.v, hp.alpha, hR.norm hu⟩

omit [Vectors α U] hR in
/-- **The update of the solution** takes it as it is. -/
theorem Iterate.update_within {q : Rotation α} {t : RotationStep α} {v : V} {w w' : Iterate V}
    (hw : S w.x) (h : (update q t v).run w = .ok () w') : S w'.x := by
  simp only [update, run_get_bind, run_modify_bind, run_ofExcept_bind_eq_ok, EStateM.run_modify,
    EStateM.Result.ok.injEq, true_and] at h
  obtain ⟨a, -, hbar, -, hbar', -, b, -, x, hx, c, -, h₁, -, h₂, -, rfl⟩ := h
  exact hS.addScaled hw hx

include hQ

/-- **An iteration stays in the sets**, and so do the numbers that it is judged by. -/
theorem Run.Within.compute {damp : α} {s w : Run α U V} (h : s.Within Q R S) (hd : Q damp)
    (hw : (Run.compute A damp).run s = .ok () w) :
    w.Within Q R S ∧ Q w.normr ∧ Q w.normar ∧ Q w.norma ∧ w.conda.Within Q := by
  simp only [Run.compute, onProcess, onIterate, run_get_bind, run_modify_bind,
    run_ofExcept_bind_eq_ok, run_onPart_bind_eq_ok, EStateM.run_modify, EStateM.Result.ok.injEq,
    true_and] at hw
  obtain ⟨⟨⟩, p, hstep, ⟨q, t⟩, hq, ⟨⟩, i, hupdate, ⟨e, normr⟩, he, ⟨m, v⟩, hm, rfl⟩ := hw
  have hp := Bidiagonal.step_within hR hS h.process hstep
  obtain ⟨hq', ht⟩ := hQ.rotation h.rotation hp.alpha hp.beta hd hq
  have hx := Iterate.update_within hS h.x hupdate
  obtain ⟨he', hr⟩ := hQ.residual h.residual ht hq' he
  obtain ⟨hm', hA, hc⟩ := hQ.norms h.norms ht hp.alpha hp.beta hm
  exact ⟨⟨hp, hq', he', hm', hx, h.normb⟩, hr, hQ.abs hq'.zetabar, hA, hc⟩

omit [Vectors α U] hR hS in
/-- **The state before the first iteration.** -/
theorem Run.begin_within {x zero : V} {o : Observers α} {s : Run α U V} (hp : p.Within Q R S)
    (hx : S x) (h : Run.begin p x zero o = .ok s) : s.Within Q R S := by
  unfold Run.begin NormEstimate.initial at h
  simp only [bind_eq_ok] at h
  obtain ⟨norms, ⟨a2, ha2, hnorms⟩, h⟩ := h
  obtain rfl := Except.ok.inj hnorms
  obtain rfl := Except.ok.inj h
  exact
    { process := hp
      rotation :=
        { alphabar := hp.alpha
          rhobar := hQ.one
          cbar := hQ.one
          sbar := hQ.zero
          zeta := hQ.zero
          zetabar := hQ.mul hp.alpha hp.beta }
      residual :=
        { betadd := hp.beta
          betad := hQ.zero
          rhodold := hQ.one
          tautildeold := hQ.zero
          thetatilde := hQ.zero
          d := hQ.zero }
      norms := ⟨hQ.square hp.alpha ha2, hQ.zero, hQ.ofNat _⟩
      x := hx
      normb := hp.beta }

namespace Problem

variable {P : Problem α U V} {x zero : V} {o : Observers α} {k : ℕ} {s : Run α U V}
  {t : StoppingTests α}

/-- **All states of a solve.** -/
theorem Reaches.stays_within (hd : Q P.damp) (hu : R p.u) (hv : S p.v) (hx : S x)
    (h : P.Reaches p x zero o k s) : s.Within Q R S := by
  induction h with
  | begin hstart hbegin _ =>
    exact Run.begin_within hQ (Bidiagonal.start_within hR hS hu hv hstart) hx hbegin
  | advance _ _ _ hs ih =>
    obtain ⟨w, t, ctol, hw, -, -, -, rfl⟩ := Run.run_advance_eq_ok.1 hs
    obtain ⟨hp, hq, he, hm, hx, hb⟩ := (ih.compute hQ hR hS hd hw).1
    exact ⟨hp, hq, he, hm, hx, hb⟩

/-- **All statistics of a solve.** -/
theorem Completes.stays_within (hd : Q P.damp) (hu : R p.u) (hv : S p.v) (hx : S x)
    (h : P.Completes p x zero o k s t) (key : History.Key) : (key.select t).Within Q := by
  obtain ⟨⟨hreach, -, -⟩, hs, ht⟩ := h
  obtain ⟨hw, hr, har, hA, hc⟩ :=
    (hreach.stays_within hQ hR hS hd hu hv hx).compute hQ hR hS hd hs
  obtain ⟨h1, h2, h3⟩ := hQ.statistics hr har hA hc hw.normb ht
  cases key with
  | anorm => exact h2
  | rnorm => exact fun c hc => Extended.finite.inj hc ▸ h1
  | cnorm => exact fun c hc => Extended.finite.inj hc ▸ h3

/-- **What a callback has been told** when a solve returns. -/
theorem returned_calls_within (ho : o.calls = []) (hd : Q P.damp) (hu : R p.u) (hv : S p.v)
    (hx : S x) (h : P.solve p x zero o = .returned s) :
    ∀ c ∈ s.observers.calls, ∀ key : History.Key, (key.select c.2).Within Q := by
  rintro ⟨n, t⟩ hmem key
  rcases returned_cases h with ⟨q, s', -, hbegin, -, rfl⟩ | ⟨k, s', hr, -, rfl⟩
  · rw [Run.close, Observers.finish_calls, (begun hbegin).observers_eq, ho] at hmem
    cases hmem
  · rw [Run.close, Observers.finish_calls] at hmem
    obtain ⟨w, hw⟩ := hr.of_mem_calls ho hmem
    exact hw.stays_within hQ hR hS hd hu hv hx key

end Problem

end

/-! ### Doubles -/

/-- **A double** among the numbers of a solve, of a kind that keeps it one. -/
structure Double.IsNarrow (a : Double) : Prop where
  precision : a.kind.precision ≠ .extended
  value : ∃ x, a.value = .double x

namespace Double.IsNarrow

theorem checked (x : Float) : IsNarrow (Scalar.checked (Number.double x)) where
  precision := by simp [Scalar.checked, Kind.precision]
  value := ⟨x, rfl⟩

theorem round {p : Precision} (hp : p ≠ .extended) (a : Number) : ∃ x, p.round a = .double x := by
  cases p with
  | extended => exact absurd rfl hp
  | _ => exact ⟨_, rfl⟩

theorem join {k l : Kind} (hk : k.precision ≠ .extended) (hl : l.precision ≠ .extended) :
    (k.join l).precision ≠ .extended := by
  cases k with
  | checked => exact hl
  | oversized => cases l <;> simp [Kind.join, Kind.precision]
  | unchecked p =>
    cases l with
    | checked => exact hk
    | oversized => simp [Kind.join, Kind.precision]
    | unchecked q =>
      change p.max q ≠ .extended
      unfold Precision.max
      split_ifs
      exacts [hl, hk]

theorem combine (op : Number → Number → Number) {a b : Double} (ha : a.IsNarrow)
    (hb : b.IsNarrow) : IsNarrow (Scalar.combine op a b) :=
  ⟨join ha.precision hb.precision, round (join ha.precision hb.precision) _⟩

theorem ofValue (v : Value) : (Double.ofValue v).IsNarrow := by
  unfold Double.ofValue
  split
  · dsimp only
    split_ifs
    · exact ⟨by decide, _, rfl⟩
    · exact checked _
  · exact checked _

/-- A double is the nearest one to itself. -/
theorem value_eq {a : Double} (ha : a.IsNarrow) : a.value = .double (ToDouble.toDouble a) := by
  obtain ⟨x, hx⟩ := ha.value
  rw [hx]
  exact congrArg Number.double (congrArg Number.toDouble hx).symm

end Double.IsNarrow

/-- **No operation of a solve leaves the doubles.** -/
theorem Double.isNarrow_closed : ClosedNumbers Double.IsNarrow where
  zero := .checked _
  one := .checked _
  ofNat _ := .checked _
  add := .combine _
  sub := .combine _
  mul := .combine _
  neg ha := by
    obtain ⟨x, hx⟩ := ha.value
    refine ⟨ha.precision, -x, ?_⟩
    exact congrArg (fun a : Number => -a) hx
  abs ha := by
    obtain ⟨x, hx⟩ := ha.value
    exact ⟨ha.precision, x.abs, congrArg Number.abs hx⟩
  hypot _ _ := .checked _
  use {a b} ha h := by
    change Scalar.use a = .ok b at h
    unfold Scalar.use at h
    split_ifs at h
    exact Except.ok.inj h ▸ ha
  div {a b c} ha hb h := by
    change Scalar.div a b = .ok c at h
    unfold Scalar.div at h
    split_ifs at h
    exact Except.ok.inj h ▸ .combine _ ha hb
  square {a b} ha h := by
    change Scalar.square a = .ok b at h
    unfold Scalar.square at h
    dsimp only at h
    split_ifs at h
    exact Except.ok.inj h ▸ .combine _ ha ha
  sqrt {a b} _ h := by
    change Scalar.sqrt a = .ok b at h
    unfold Scalar.sqrt at h
    split_ifs at h
    exact Except.ok.inj h ▸ .checked _

/-! ### Arrays -/

/-- An array whose numbers are not of extended precision. -/
def Tensor.IsNarrow (t : Tensor) : Prop := t.type.partPrecision ≠ .extended

namespace Tensor

theorem inPlace_type {operation : InPlace} {op : ElementType → Entry → Entry → Entry}
    {v w z : Tensor} (h : inPlace operation op v w = .ok z) : z.type = v.type := by
  unfold inPlace at h
  cases hs : common v.shape w.shape with
  | none =>
    simp only [hs] at h
    split_ifs at h
  | some shape =>
    simp only [hs] at h
    split_ifs at h
    exact Except.ok.inj h ▸ rfl

/-- **A change in place keeps the type of an array**, and its norm is of its precision. -/
theorem isNarrow_closed : ClosedVectors Double.IsNarrow Tensor.IsNarrow where
  scale {v w a} hv h := by
    change Tensor.scale v a = .ok w at h
    unfold Tensor.scale at h
    dsimp only at h
    split_ifs at h
    exact Except.ok.inj h ▸ hv
  add {v w z} hv h := by
    change Tensor.add v w = .ok z at h
    unfold IsNarrow
    rwa [inPlace_type h]
  sub {v w z} hv h := by
    change Tensor.sub v w = .ok z at h
    unfold IsNarrow
    rwa [inPlace_type h]
  addScaled {v w z a} hv h := by
    change Tensor.add v (w.multiple a) = .ok z at h
    unfold IsNarrow
    rwa [inPlace_type h]
  assign {v w z} hv h := by
    change Tensor.assign v w = .ok z at h
    unfold Tensor.assign at h
    split at h
    · cases h
    · exact Except.ok.inj h ▸ hv
  norm hv := ⟨hv, Double.IsNarrow.round hv _⟩

end Tensor

theorem Plain.toTensor_type {type : ElementType} {p : Plain} {t : Tensor}
    (h : p.toTensor (some type) = .ok t) : t.type = type := by
  unfold Plain.toTensor at h
  dsimp only at h
  split_ifs at h
  all_goals simp only [bind_eq_ok] at h
  all_goals obtain ⟨entries, hentries, h⟩ := h
  all_goals first | exact Except.ok.inj h ▸ rfl | cases hentries

/-- A copy in a type is of that type. -/
theorem Given.copy_type {type : ElementType} {g : Given} {t : Tensor}
    (h : g.copy type = .ok t) : t.type = type := by
  unfold Given.copy at h
  split at h
  · exact Plain.toTensor_type h
  · simp only [bind_eq_ok] at h
    obtain ⟨s, -, h⟩ := h
    split_ifs at h
    · simp only [bind_eq_ok] at h
      obtain ⟨entries, -, h⟩ := h
      exact Except.ok.inj h ▸ rfl
    · exact Except.ok.inj h ▸ rfl

theorem Precision.ne_extended_of_max {p q : Precision} (h : p.max q ≠ .extended) :
    p ≠ .extended ∧ q ≠ .extended := by
  revert h
  cases p <;> cases q <;> decide

/-- **What holds a type holds its precision**, unless it is no type of numbers. -/
theorem ElementType.narrow_of_accepts {t x : ElementType} (h : x.accepts (t.promote x) = true)
    (hp : (t.promote x).partPrecision ≠ .extended) : x.partPrecision ≠ .extended := by
  cases x with
  | real p =>
    cases t with
    | object => simp [promote, accepts, rank] at h
    | real q => exact (Precision.ne_extended_of_max hp).2
    | complex q => exact (Precision.ne_extended_of_max hp).2
    | _ => exact (Precision.ne_extended_of_max hp).1
  | complex p =>
    cases t with
    | object => simp [promote, accepts, rank] at h
    | complex q => exact (Precision.ne_extended_of_max hp).2
    | _ => exact (Precision.ne_extended_of_max hp).1
  | _ => simp [partPrecision]

/-! ### Calls -/

/-- A process that has been made is one of arrays of the working type. -/
theorem bidiagonalize_types {A : Operator} {b : Given} {x : Option Given} {type : ElementType}
    {p : Bidiagonal Double Tensor Tensor} (h : bidiagonalize A b x (.ok (some type)) = .ok p) :
    p.u.type = type ∧ p.v.type = type := by
  unfold bidiagonalize at h
  simp only [bind_eq_ok] at h
  obtain ⟨⟨⟩, -, ⟨⟩, -, t, ht, t', ht', u, hu, z, hz, h⟩ := h
  obtain rfl := Except.ok.inj h
  obtain rfl := Except.ok.inj ht
  obtain rfl := Except.ok.inj ht'
  refine ⟨Given.copy_type hu, ?_⟩
  unfold zeroVector at hz
  split_ifs at hz
  exact Except.ok.inj hz ▸ rfl

namespace Request

variable {r : Request} {p : Prepared} {c : Callback Double} {process : Bidiagonal Double Tensor Tensor}
  {s : Run Double Tensor Tensor}

/-- **What a callback is told are doubles**, unless the working type is of extended precision. -/
theorem Judged.calls_narrow (hj : r.Judged p) (hp : p.type.partPrecision ≠ .extended)
    (hb : bidiagonalize p.operator p.b (some (.array p.x)) (.ok (some p.type)) = .ok process)
    (hs : p.problem.solve process p.x (.zeros p.type p.operator.cols.toNat) (p.observers c) =
      .returned s) :
    ∀ t ∈ s.observers.calls, ∀ key : History.Key, (key.select t.2).Within Double.IsNarrow := by
  obtain ⟨hu, hv⟩ := bidiagonalize_types hb
  obtain ⟨t, -, htype⟩ := hj.type_eq
  obtain ⟨o, o', -, -, hsettings⟩ := hj.settings_eq
  have hdamp : Double.IsNarrow p.problem.damp := by
    change Double.IsNarrow p.settings.damp
    rw [hsettings]
    exact .ofValue _
  have hx : p.x.IsNarrow :=
    ElementType.narrow_of_accepts (htype ▸ hj.accepts) (htype ▸ hp)
  refine Problem.returned_calls_within Double.isNarrow_closed Tensor.isNarrow_closed
    Tensor.isNarrow_closed ?_ hdamp ?_ ?_ hx hs
  · rw [Prepared.observers, Observers.initial, Observers.announce_calls, Observers.announce_calls]
  · rwa [Tensor.IsNarrow, hu]
  · rwa [Tensor.IsNarrow, hv]

end Request

end LeastSquares
