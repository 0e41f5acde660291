import LeastSquares.Proofs.Judgement
import LeastSquares.Proofs.Magnitude

/-!
# The judgement of the options

Options are judged field by field, in one order, and each field is refused for reasons of its own.
So the judgement fails with the reason of the first field that is refused. If it passes, it has
changed nothing but the budget, which is now a natural number; and judging the result again, against
any shape, changes nothing at all.

* `Value.Refused`: why a value is refused that must not be negative.
* `Options.Offends`: **why a field is refused**, said field by field.
* `Options.FirstOffends`: the first field that is refused.
* `Options.Resolved`: **what a judgement that passes has made of the options.**
* `Options.resolve_eq`: the judgement as a sequence of checks.
* `Options.resolution`: **how the options are judged.**
-/

namespace LeastSquares

section

variable {ε α β : Type} {e : ε}

theorem bind_eq_error_iff {x : Except ε α} {f : α → Except ε β} :
    (x >>= f) = .error e ↔ x = .error e ∨ ∃ a, x = .ok a ∧ f a = .error e := by
  cases x <;> simp [bind, Except.bind]

theorem map_eq_error_iff {x : Except ε α} {f : α → β} : x.map f = .error e ↔ x = .error e := by
  cases x <;> simp [Except.map]

/-- **A sequence of checks fails** with the first of them that does. -/
theorem forM_eq_error_iff {l : List α} {check : α → Except ε Unit} :
    l.forM check = .error e ↔ ∃ before a after, l = before ++ a :: after ∧
      (∀ b ∈ before, check b = .ok ()) ∧ check a = .error e := by
  induction l with
  | nil => simp [pure, Except.pure]
  | cons b l ih =>
    have hcons : (b :: l).forM check = (check b >>= fun _ => l.forM check) := rfl
    rw [hcons]
    cases hb : check b with
    | error e' =>
      simp only [bind, Except.bind, Except.error.injEq]
      constructor
      · rintro rfl
        exact ⟨[], b, l, rfl, nofun, hb⟩
      · rintro ⟨_ | ⟨c, before⟩, a, after, hl, hbefore, ha⟩
        · obtain ⟨rfl, -⟩ := List.cons.inj hl
          rw [hb] at ha
          exact Except.error.inj ha
        · obtain ⟨rfl, -⟩ := List.cons.inj hl
          have hok := hbefore b List.mem_cons_self
          rw [hb] at hok
          cases hok
    | ok _ =>
      simp only [bind, Except.bind, ih]
      constructor
      · rintro ⟨before, a, after, rfl, hbefore, ha⟩
        exact ⟨b :: before, a, after, rfl, List.forall_mem_cons.2 ⟨hb, hbefore⟩, ha⟩
      · rintro ⟨_ | ⟨c, before⟩, a, after, hl, hbefore, ha⟩
        · obtain ⟨rfl, -⟩ := List.cons.inj hl
          rw [hb] at ha
          cases ha
        · obtain ⟨rfl, htail⟩ := List.cons.inj hl
          exact ⟨before, a, after, htail, (List.forall_mem_cons.1 hbefore).2, ha⟩

/-- **A sequence of checks passes** if all of them do. -/
theorem forM_eq_ok_iff {l : List α} {check : α → Except ε Unit} :
    l.forM check = .ok () ↔ ∀ a ∈ l, check a = .ok () := by
  induction l with
  | nil => simp [pure, Except.pure]
  | cons b l ih =>
    have hcons : (b :: l).forM check = (check b >>= fun _ => l.forM check) := rfl
    rw [hcons, bind_eq_ok, List.forall_mem_cons, ← ih]
    exact ⟨fun ⟨⟨⟩, hb, hl⟩ => ⟨hb, hl⟩, fun ⟨hb, hl⟩ => ⟨(), hb, hl⟩⟩

end

/-! ### Values -/

namespace Value

/-- **The real number that a value stands for**: a truth value counts as one or zero, and what is no
number is read as zero. -/
noncomputable def toReal : Value → ℝ
  | .integer n => n
  | .boolean b => if b then 1 else 0
  | .number x => Binary64.toReal x
  | _ => 0

/-- The values that compare with zero. -/
def IsNumber : Value → Prop
  | .integer _ | .boolean _ | .number _ => True
  | _ => False

/-- **Why a value is refused that must not be negative**: it is below zero, or it does not compare
with zero. -/
inductive Refused (name : String) : Value → Fault → Prop
  | integer {n : ℤ} (h : n < 0) : Refused name (.integer n) (.negativeOption name (.integer n))
  | number {x : Float} (h : x < 0) : Refused name (.number x) (.negativeOption name (.number x))
  | incomparable {v : Value} (h : ¬ v.IsNumber) : Refused name v (.notComparable "<" v (.integer 0))

end Value

namespace Options

/-- A value that is not accepted is refused for some reason. -/
theorem exists_refused {v : Value} (name : String) (hv : ¬ v.IsNonnegative) :
    ∃ e, v.Refused name e := by
  cases v with
  | integer n => exact ⟨_, .integer (not_le.1 hv)⟩
  | boolean b => exact absurd trivial hv
  | number x => exact ⟨_, .number (not_not.1 hv)⟩
  | _ => exact ⟨_, .incomparable id⟩

theorem requireNonnegative_of_negative {name : String} {v : Value} (h : v.sign = some .negative) :
    requireNonnegative name v = .error (.negativeOption name v) := by
  unfold requireNonnegative compareZero
  rw [h]
  rfl

theorem requireNonnegative_of_refused {name : String} {v : Value} {e : Fault}
    (h : v.Refused name e) : requireNonnegative name v = .error e := by
  rcases h with hn | hx | hv
  · exact requireNonnegative_of_negative (by simp [Value.sign, hn])
  · exact requireNonnegative_of_negative (by simp [Value.sign, Value.signOf, hx])
  · cases v with
    | integer _ | boolean _ | number _ => exact absurd trivial hv
    | _ => rfl

theorem requireNonnegative_eq_error_iff {name : String} {v : Value} {e : Fault} :
    requireNonnegative name v = .error e ↔ v.Refused name e := by
  refine ⟨fun h => ?_, requireNonnegative_of_refused⟩
  have hv : ¬ v.IsNonnegative := fun hv => by
    rw [requireNonnegative_ok_iff.2 hv] at h
    cases h
  obtain ⟨e', he'⟩ := exists_refused name hv
  obtain rfl : e = e' := Except.error.inj (h.symm.trans (requireNonnegative_of_refused he'))
  exact he'

/-! ### Fields -/

/-- The fields that are judged. -/
inductive Field where
  | damp
  | atol
  | btol
  | conlim
  | callback
  | maxiter
  deriving DecidableEq

namespace Field

/-- **The order of the judgement.** -/
def order : List Field := [.damp, .atol, .btol, .conlim, .callback, .maxiter]

/-- The name of a field. -/
def name : Field → String
  | .damp => "damp"
  | .atol => "atol"
  | .btol => "btol"
  | .conlim => "conlim"
  | .callback => "callback"
  | .maxiter => "maxiter"

/-- The value of a field. -/
def value (o : Options) : Field → Value
  | .damp => o.damp
  | .atol => o.atol
  | .btol => o.btol
  | .conlim => o.conlim
  | .callback => o.callback
  | .maxiter => o.maxiter

end Field

/-- The extents of a shape as values. -/
def extents (shape : List ℕ) : List Value := shape.map fun n => .integer n

/-- **Why a field is refused.** Four fields must not be negative; the callback must be callable if
it is there; the budget must not be negative and must have a whole part if it is there, and there
must be an extent to take it from otherwise. -/
inductive Offends (o : Options) (shape : List ℕ) : Field → Fault → Prop
  | bound {f : Field} {e : Fault} (hcallback : f ≠ .callback) (hmaxiter : f ≠ .maxiter)
      (h : (f.value o).Refused f.name e) : Offends o shape f e
  | callback (hnull : o.callback ≠ .null) (hcall : o.callback ≠ .callable) :
      Offends o shape .callback .notCallable
  | shapeless (hnull : o.maxiter = .null) (hshape : shape = []) :
      Offends o shape .maxiter .emptyShape
  | budget {e : Fault} (hnull : o.maxiter ≠ .null) (h : o.maxiter.Refused "maxiter" e) :
      Offends o shape .maxiter e
  | nan {x : Float} (h : o.maxiter = .number x) (hx : x.isNaN = true) :
      Offends o shape .maxiter .integerOfNan
  | infinite (h : o.maxiter = .number Binary64.infinity) : Offends o shape .maxiter .integerOfInfinity

/-- **The first field that is refused**, with the reason. -/
def FirstOffends (o : Options) (shape : List ℕ) (e : Fault) : Prop :=
  ∃ before f after, Field.order = before ++ f :: after ∧
    (∀ g ∈ before, ∀ e', ¬ Offends o shape g e') ∧ Offends o shape f e

/-- **What a judgement that passes has made of the options.** -/
structure Resolved (o : Options) (shape : List ℕ) (o' : Options) : Prop where
  /-- No field but the budget has changed. -/
  kept : o' = { o with maxiter := o'.maxiter }
  damp : o'.damp.IsNonnegative
  atol : o'.atol.IsNonnegative
  btol : o'.btol.IsNonnegative
  conlim : o'.conlim.IsNonnegative
  callback : o'.callback = .null ∨ o'.callback = .callable
  /-- The budget is the largest extent, or the whole part of the number that was given. -/
  maxiter : ∃ k : ℕ, o'.maxiter = .integer k ∧
    (o.maxiter = .null → shape.max? = some k) ∧
    (o.maxiter ≠ .null →
      o.maxiter.IsNonnegative ∧ k = ⌊o.maxiter.toReal⌋₊ ∧ (k : ℝ) ≤ o.maxiter.toReal)

/-! ### The budget -/

/-- The budget that is made of the one that was given. -/
def budget (o : Options) (shape : List Value) : Except Fault Value :=
  if o.maxiter.isNull then largest shape
  else do
    requireNonnegative "maxiter" o.maxiter
    pure (.integer (← wholePart o.maxiter))

theorem exceeds_extent (m n : ℕ) :
    Fault.exceeds (.integer m) (.integer n) = .ok (decide (n < m)) := by
  have hle : decide (m ≤ n) = !decide (n < m) := by grind
  simp [Fault.exceeds, Value.exceeds?, Value.atLeast?, Value.toInt?, Value.isNan, hle]

/-- **The largest extent** of a shape that has one. -/
theorem largest_extents (shape : List ℕ) :
    largest (extents shape) =
      (shape.max?.map fun k => .ok (.integer k)).getD (.error .emptyShape) := by
  cases shape with
  | nil => rfl
  | cons n rest =>
    rw [List.max?_cons', Option.map_some, Option.getD_some]
    change (extents rest).foldlM (fun m v => do pure (if ← Fault.exceeds v m then v else m))
      (.integer n) = _
    induction rest generalizing n with
    | nil => rfl
    | cons m rest ih =>
      have hmax : (if decide (n < m) = true then Value.integer m else Value.integer n) =
          .integer (max n m : ℕ) := by
        by_cases h : n < m
        · simp [h, h.le]
        · simp [h, not_lt.1 h]
      rw [List.foldl_cons, ← ih (max n m), ← hmax]
      change (Fault.exceeds (.integer m) (.integer n) >>= fun b =>
        (extents rest).foldlM _ (if b = true then Value.integer m else Value.integer n)) = _
      rw [exceeds_extent]
      rfl

/-- The checks of the fields, one by one. -/
def check (o : Options) (shape : List Value) : Field → Except Fault Unit
  | .callback =>
    if !o.callback.isNull && !o.callback.isCallable then .error .notCallable else .ok ()
  | .maxiter => (o.budget shape).map fun _ => ()
  | f => requireNonnegative f.name (f.value o)

/-- **The judgement is a sequence of checks**, from which only the budget goes on. -/
theorem resolve_eq (o : Options) (shape : List Value) : o.resolve shape =
    (Field.order.forM (o.check shape) >>= fun _ =>
      (o.budget shape).map fun v => { o with maxiter := v }) := by
  -- What is left once the four bounds have been checked.
  have hrest : (do
      if !o.callback.isNull && !o.callback.isCallable then throw Fault.notCallable
      if o.maxiter.isNull then
        pure { o with maxiter := ← largest shape }
      else
        requireNonnegative "maxiter" o.maxiter
        pure { o with maxiter := .integer (← wholePart o.maxiter) } : Except Fault Options) =
      (do
        o.check shape .callback
        o.check shape .maxiter
        (o.budget shape).map fun v => { o with maxiter := v }) := by
    unfold check budget
    dsimp only
    split_ifs with hcall hnull
    · rfl
    · rfl
    · cases largest shape <;> rfl
    · cases requireNonnegative "maxiter" o.maxiter with
      | error e => rfl
      | ok _ => cases wholePart o.maxiter <;> rfl
  have hforM : Field.order.forM (o.check shape) = (do
      requireNonnegative "damp" o.damp
      requireNonnegative "atol" o.atol
      requireNonnegative "btol" o.btol
      requireNonnegative "conlim" o.conlim
      o.check shape .callback
      o.check shape .maxiter
      pure ()) := rfl
  unfold resolve
  rw [hrest, hforM]
  simp only [bind_assoc, pure_bind]

theorem check_eq_ok_iff {o : Options} {shape : List ℕ} {f : Field} :
    o.check (extents shape) f = .ok () ↔ ∀ e, o.check (extents shape) f ≠ .error e := by
  cases o.check (extents shape) f <;> simp

/-- **Which numbers have no whole part**, of those that are not negative. -/
theorem wholePart_eq_error_iff {v : Value} {e : Fault} (hv : v.IsNonnegative) :
    wholePart v = .error e ↔
      (∃ x, v = .number x ∧ x.isNaN = true ∧ e = .integerOfNan) ∨
        (v = .number Binary64.infinity ∧ e = .integerOfInfinity) := by
  cases v with
  | number x =>
    have hinf : Binary64.infinity.isNaN = false := by decide
    cases htruncate : Binary64.truncate x with
    | some k =>
      have hwhole : wholePart (.number x) = .ok k := by
        simp only [wholePart, htruncate]
      have hnone : ¬ (x.isNaN = true ∨ x = Binary64.infinity) := fun h => by
        rw [(Binary64.truncate_eq_none_iff hv).2 h] at htruncate
        cases htruncate
      rw [hwhole]
      constructor
      · nofun
      · rintro (⟨y, ⟨⟩, hnan, -⟩ | ⟨⟨⟩, -⟩)
        · exact absurd (.inl hnan) hnone
        · exact absurd (.inr rfl) hnone
    | none =>
      have hwhole : wholePart (.number x) =
          .error (if x.isNaN then .integerOfNan else .integerOfInfinity) := by
        simp only [wholePart, htruncate]
      rw [hwhole]
      rcases (Binary64.truncate_eq_none_iff hv).1 htruncate with hnan | rfl
      · rw [if_pos hnan]
        constructor
        · rintro ⟨⟩
          exact .inl ⟨x, rfl, hnan, rfl⟩
        · rintro (⟨y, ⟨⟩, -, rfl⟩ | ⟨⟨⟩, -⟩)
          · rfl
          · exact absurd hnan (ne_true_of_eq_false hinf)
      · rw [if_neg (ne_true_of_eq_false hinf)]
        constructor
        · rintro ⟨⟩
          exact .inr ⟨rfl, rfl⟩
        · rintro (⟨y, ⟨⟩, hnan, -⟩ | ⟨-, rfl⟩)
          · exact absurd hnan (ne_true_of_eq_false hinf)
          · rfl
  | _ => simp [wholePart]

theorem budget_of_null {o : Options} (h : o.maxiter = .null) (shape : List Value) :
    o.budget shape = largest shape := by
  rw [budget, h]
  rfl

theorem budget_of_given {o : Options} (h : o.maxiter ≠ .null) (shape : List Value) :
    o.budget shape =
      (requireNonnegative "maxiter" o.maxiter >>= fun _ => (wholePart o.maxiter).map .integer) := by
  have hnull : o.maxiter.isNull = false := by
    cases hm : o.maxiter with
    | null => exact absurd hm h
    | _ => rfl
  rw [budget, hnull]
  cases wholePart o.maxiter <;> rfl

/-- **Why no budget can be made.** -/
theorem budget_eq_error_iff {o : Options} {shape : List ℕ} {e : Fault} :
    o.budget (extents shape) = .error e ↔ Offends o shape .maxiter e := by
  by_cases hnull : o.maxiter = .null
  · have hmax : shape.max? = none ↔ shape = [] := List.max?_eq_none_iff
    rw [budget_of_null hnull, largest_extents]
    constructor
    · cases h : shape.max? with
      | none =>
        rintro ⟨⟩
        exact .shapeless hnull (hmax.1 h)
      | some k => nofun
    · intro h
      cases h with
      | shapeless _ hshape =>
        rw [hmax.2 hshape]
        rfl
      | bound _ hmaxiter _ => exact absurd rfl hmaxiter
      | budget hne _ => exact absurd hnull hne
      | nan h _ | infinite h =>
        rw [hnull] at h
        cases h
  · rw [budget_of_given hnull, bind_eq_error_iff, requireNonnegative_eq_error_iff]
    constructor
    · rintro (h | ⟨⟨⟩, hsign, h⟩)
      · exact .budget hnull h
      · rcases (wholePart_eq_error_iff (requireNonnegative_ok_iff.1 hsign)).1 (map_eq_error_iff.1 h)
          with ⟨x, hx, hnan, rfl⟩ | ⟨hx, rfl⟩
        · exact .nan hx hnan
        · exact .infinite hx
    · have hfractional (hv : o.maxiter.IsNonnegative) (h : wholePart o.maxiter = .error e) :
          ∃ a, requireNonnegative "maxiter" o.maxiter = .ok a ∧
            (wholePart o.maxiter).map Value.integer = .error e :=
        ⟨(), requireNonnegative_ok_iff.2 hv, map_eq_error_iff.2 h⟩
      intro h
      cases h with
      | shapeless hn _ => exact absurd hn hnull
      | bound _ hmaxiter _ => exact absurd rfl hmaxiter
      | budget _ h => exact .inl h
      | @nan x hx hnan =>
        have hv : o.maxiter.IsNonnegative := by
          rw [hx]
          exact Binary64.not_lt_of_isNaN (.inl hnan)
        exact .inr (hfractional hv ((wholePart_eq_error_iff hv).2 (.inl ⟨x, hx, hnan, rfl⟩)))
      | infinite hx =>
        have hv : o.maxiter.IsNonnegative := by
          rw [hx]
          change ¬ Binary64.infinity < 0
          decide
        exact .inr (hfractional hv ((wholePart_eq_error_iff hv).2 (.inr ⟨hx, rfl⟩)))

/-- **A check fails for the reasons for which its field is refused.** -/
theorem check_eq_error_iff {o : Options} {shape : List ℕ} {f : Field} {e : Fault} :
    o.check (extents shape) f = .error e ↔ Offends o shape f e := by
  have hbound (hcallback : f ≠ .callback) (hmaxiter : f ≠ .maxiter) :
      requireNonnegative f.name (f.value o) = .error e ↔ Offends o shape f e := by
    rw [requireNonnegative_eq_error_iff]
    constructor
    · exact .bound hcallback hmaxiter
    · intro h
      cases h with
      | bound _ _ h => exact h
      | callback => exact absurd rfl hcallback
      | _ => exact absurd rfl hmaxiter
  cases f with
  | damp | atol | btol | conlim => exact hbound nofun nofun
  | callback =>
    unfold check
    constructor
    · intro h
      split_ifs at h with hcall
      · obtain rfl := Except.error.inj h
        refine .callback ?_ ?_ <;> intro hc <;> simp [hc, Value.isNull, Value.isCallable] at hcall
    · intro h
      cases h with
      | bound hcallback _ _ => exact absurd rfl hcallback
      | callback hnull hcall =>
        cases hc : o.callback <;> simp_all [Value.isNull, Value.isCallable]
  | maxiter =>
    rw [← budget_eq_error_iff, check]
    cases o.budget (extents shape) <;> simp [Except.map]

/-- **The judgement fails with the reason of the first field that is refused.** -/
theorem resolve_eq_error_iff {o : Options} {shape : List ℕ} {e : Fault} :
    o.resolve (extents shape) = .error e ↔ o.FirstOffends shape e := by
  have hpass : ∀ g, o.check (extents shape) g = .ok () ↔ ∀ e', ¬ Offends o shape g e' := by
    intro g
    rw [check_eq_ok_iff]
    exact forall_congr' fun e' => not_congr check_eq_error_iff
  have hchecks : o.resolve (extents shape) = .error e ↔
      Field.order.forM (o.check (extents shape)) = .error e := by
    rw [resolve_eq]
    cases hforM : Field.order.forM (o.check (extents shape)) with
    | error e' => simp [bind, Except.bind]
    | ok _ =>
      -- The budget has been checked, and is made without a fault.
      have hbudget : o.check (extents shape) .maxiter = .ok () :=
        forM_eq_ok_iff.1 hforM _ (by decide)
      rw [check] at hbudget
      cases hb : o.budget (extents shape) with
      | error e' =>
        rw [hb] at hbudget
        cases hbudget
      | ok v => simp [bind, Except.bind, Except.map]
  rw [hchecks, forM_eq_error_iff, FirstOffends]
  simp only [hpass, check_eq_error_iff]

/-! ### A judgement that passes -/

/-- **The whole part of a value that is not negative.** -/
theorem wholePart_eq_floor {v : Value} {k : ℤ} (hv : v.IsNonnegative) (h : wholePart v = .ok k) :
    0 ≤ v.toReal ∧ k = ⌊v.toReal⌋₊ := by
  cases v with
  | integer n =>
    obtain ⟨j, rfl⟩ := Int.eq_ofNat_of_zero_le hv
    have hk : (j : ℤ) = k := Except.ok.inj h
    simp [Value.toReal, ← hk]
  | boolean b =>
    have hk : (if b then 1 else 0 : ℤ) = k := Except.ok.inj h
    cases b <;> simp [Value.toReal, ← hk]
  | number x =>
    have htruncate : Binary64.truncate x = some k := by
      unfold wholePart at h
      dsimp only at h
      split at h
      · next n hn => rw [hn, Except.ok.inj h]
      · cases h
    exact Binary64.truncate_eq_floor hv htruncate
  | _ => exact hv.elim

variable {o o' : Options} {shape : List ℕ}

theorem resolve_eq_ok (h : o.resolve (extents shape) = .ok o') : Resolved o shape o' := by
  rw [resolve_eq, bind_eq_ok] at h
  obtain ⟨⟨⟩, hchecks, h⟩ := h
  have hcheck (f : Field) (hf : f ∈ Field.order) : o.check (extents shape) f = .ok () :=
    forM_eq_ok_iff.1 hchecks f hf
  cases hb : o.budget (extents shape) with
  | error e => rw [hb] at h; cases h
  | ok v =>
    rw [hb] at h
    obtain rfl := Except.ok.inj h
    refine
      { kept := rfl
        damp := requireNonnegative_ok_iff.1 (hcheck .damp (by decide))
        atol := requireNonnegative_ok_iff.1 (hcheck .atol (by decide))
        btol := requireNonnegative_ok_iff.1 (hcheck .btol (by decide))
        conlim := requireNonnegative_ok_iff.1 (hcheck .conlim (by decide))
        callback := ?_
        maxiter := ?_ }
    · have hcallback := hcheck .callback (by decide)
      unfold check at hcallback
      cases hc : o.callback <;> simp_all [Value.isNull, Value.isCallable]
    · by_cases hnull : o.maxiter = .null
      · rw [budget_of_null hnull, largest_extents] at hb
        cases hmax : shape.max? with
        | none => rw [hmax] at hb; cases hb
        | some k =>
          rw [hmax] at hb
          exact ⟨k, (Except.ok.inj hb).symm, fun _ => rfl, fun hne => absurd hnull hne⟩
      · rw [budget_of_given hnull, bind_eq_ok] at hb
        obtain ⟨⟨⟩, hsign, hb⟩ := hb
        cases hwhole : wholePart o.maxiter with
        | error e => rw [hwhole] at hb; cases hb
        | ok k =>
          rw [hwhole] at hb
          obtain rfl := Except.ok.inj hb
          have hv : o.maxiter.IsNonnegative := requireNonnegative_ok_iff.1 hsign
          obtain ⟨hnonneg, rfl⟩ := wholePart_eq_floor hv hwhole
          exact ⟨_, rfl, fun h => absurd h hnull, fun _ => ⟨hv, rfl, Nat.floor_le hnonneg⟩⟩

/-- **Judging the result again**, against any shape, changes nothing. -/
theorem Resolved.resolve_again (h : Resolved o shape o') (shape' : List Value) :
    o'.resolve shape' = .ok o' := by
  obtain ⟨k, hk, -⟩ := h.maxiter
  have hbudget : o'.budget shape' = .ok o'.maxiter := by
    have hsign : requireNonnegative "maxiter" (.integer k) = .ok () :=
      requireNonnegative_ok_iff.2 (Int.natCast_nonneg k)
    rw [budget_of_given (by rw [hk]; nofun), hk, hsign]
    rfl
  have hcallback : o'.check shape' .callback = .ok () := by
    unfold check
    rcases h.callback with hc | hc <;> rw [hc] <;> rfl
  have hchecks : Field.order.forM (o'.check shape') = .ok () := by
    rw [forM_eq_ok_iff]
    intro f _
    cases f with
    | damp => exact requireNonnegative_ok_iff.2 h.damp
    | atol => exact requireNonnegative_ok_iff.2 h.atol
    | btol => exact requireNonnegative_ok_iff.2 h.btol
    | conlim => exact requireNonnegative_ok_iff.2 h.conlim
    | callback => exact hcallback
    | maxiter => rw [check, hbudget]; rfl
  rw [resolve_eq, hchecks, hbudget]
  rfl

/-- **How the options are judged**, against any shape. If the judgement passes, only the budget has
changed, to a natural number, and judging the result again changes nothing; it fails with the reason
of the first field that is refused, and only then. -/
theorem resolution (o : Options) (shape : List ℕ) :
    (∀ o', o.resolve (extents shape) = .ok o' →
      Resolved o shape o' ∧ ∀ shape', o'.resolve shape' = .ok o') ∧
    ∀ e, o.resolve (extents shape) = .error e ↔ o.FirstOffends shape e := by
  refine ⟨?_, fun e => resolve_eq_error_iff⟩
  intro o' h
  have hresolved := resolve_eq_ok h
  exact ⟨hresolved, hresolved.resolve_again⟩

/-- A budget of seven halves becomes three; no double is needed for a tolerance that is an integer.
A text for the damping is what is refused, although a tolerance is negative as well. -/
theorem resolution_of_fraction :
    (∃ o' : Options,
      ({ atol := .integer 1, maxiter := .number 3.5 } : Options).resolve (extents [2, 5]) = .ok o' ∧
        o'.maxiter.toInt? = some 3 ∧ ∀ shape', o'.resolve shape' = .ok o') ∧
    ({ damp := .text "1", btol := .integer (-1) } : Options).FirstOffends [2, 5]
      (.notComparable "<" (.text "1") (.integer 0)) := by
  constructor
  · have hbudget : (({ atol := .integer 1, maxiter := .number 3.5 } : Options).resolve
        (extents [2, 5])).toOption.map (fun o' => o'.maxiter.toInt?) = some (some 3) := by
      decide +kernel
    obtain ⟨o', ho', hthree⟩ := Option.map_eq_some_iff.1 hbudget
    rw [toOption_eq_some] at ho'
    exact ⟨o', ho', hthree, ((resolution _ [2, 5]).1 o' ho').2⟩
  · exact ((resolution _ [2, 5]).2 _).1 rfl

end Options

end LeastSquares
