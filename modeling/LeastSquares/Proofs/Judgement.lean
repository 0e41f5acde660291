import LeastSquares.Proofs.Calls

/-!
# What is in order

What a request must be for its judgement to pass, said without the order in which it is judged: the
solution is an array, the matrix acts as an operator, the options are known and have values that
make sense, the lengths agree, and the solution holds what is computed. A request that is in order
passes the judgement, unless the history cannot be kept; one that is not is refused.

* `Options.Valid`, `Options.resolve_ok_iff`: **options that make sense.**
* `Source.Supported`, `Source.toOperator_ok_iff`: **what acts as an operator.**
* `Given.IsVector`, `checkLength_ok_iff`: **what has the length that is asked for.**
* `Request.Valid`, `Request.prepare_valid`, `Request.Valid.prepare`: **a request that is in order.**
-/

namespace LeastSquares

/-! ### Options -/

/-- **A value that is not negative**: numbers and truth values compare with zero, and nothing else
does. A double that is no number is not below zero. -/
def Value.IsNonnegative : Value → Prop
  | .integer n => 0 ≤ n
  | .boolean _ => True
  | .number x => ¬ x < 0
  | _ => False

/-- **A budget of iterations**: not negative, and with a whole part. -/
def Value.IsBudget (v : Value) : Prop :=
  v.IsNonnegative ∧ ∀ x, v = .number x → (Binary64.truncate x).isSome = true

namespace Options

/-- The names of the options. -/
def names : List String :=
  ["damp", "atol", "btol", "conlim", "maxiter", "log", "verbose", "callback"]

/-- **Options that make sense.** -/
structure Valid (o : Options) : Prop where
  damp : o.damp.IsNonnegative
  atol : o.atol.IsNonnegative
  btol : o.btol.IsNonnegative
  conlim : o.conlim.IsNonnegative
  callback : o.callback.isNull = true ∨ o.callback.isCallable = true
  maxiter : o.maxiter.isNull = true ∨ o.maxiter.IsBudget

theorem set_ok_iff {o : Options} {name : String} {v : Value} :
    (∃ o', o.set name v = .ok o') ↔ name ∈ names := by
  unfold set names
  split <;> simp_all

/-- **Options are known by their names.** -/
theorem ofList_ok_iff {given : List (String × Value)} :
    (∃ o, ofList given = .ok o) ↔ ∀ e ∈ given, e.1 ∈ names := by
  -- From any options that have been set before.
  have h : ∀ o : Options, (∃ o', given.foldlM (fun o e => o.set e.1 e.2) o = .ok o') ↔
      ∀ e ∈ given, e.1 ∈ names := by
    induction given with
    | nil => intro o; simp [pure, Except.pure]
    | cons e given ih =>
      intro o
      simp only [List.foldlM_cons, bind_eq_ok, List.forall_mem_cons]
      constructor
      · rintro ⟨o'', o', hset, hrest⟩
        exact ⟨set_ok_iff.1 ⟨o', hset⟩, (ih o').1 ⟨o'', hrest⟩⟩
      · rintro ⟨hname, hrest⟩
        obtain ⟨o', hset⟩ := (set_ok_iff (o := o) (v := e.2)).2 hname
        obtain ⟨o'', ho''⟩ := (ih o').2 hrest
        exact ⟨o'', o', hset, ho''⟩
  exact h {}

theorem requireNonnegative_ok_iff {name : String} {v : Value} :
    requireNonnegative name v = .ok () ↔ v.IsNonnegative := by
  have hsign : v.IsNonnegative ↔ ∃ s, v.sign = some s ∧ s ≠ .negative := by
    cases v with
    | integer n => simp only [Value.IsNonnegative, Value.sign]; grind
    | boolean b => cases b <;> simp [Value.IsNonnegative, Value.sign]
    | number x =>
      simp only [Value.IsNonnegative, Value.sign, Value.signOf, Option.some.injEq, exists_eq_left']
      split_ifs <;> simp_all
    | _ => simp [Value.IsNonnegative, Value.sign]
  unfold requireNonnegative compareZero
  rw [hsign]
  cases v.sign with
  | none => simp [bind, Except.bind]
  | some s =>
    cases s <;>
      simp [bind, Except.bind, throw, throwThe, MonadExceptOf.throw, pure, Except.pure]

theorem wholePart_ok_iff {v : Value} :
    (∃ n, wholePart v = .ok n) ↔ ∀ x, v = .number x → (Binary64.truncate x).isSome = true := by
  unfold wholePart
  cases v with
  | number x => cases h : Binary64.truncate x <;> simp [h]
  | _ => simp

/-- The larger one of two extents. -/
theorem largest_pair (m n : Int) : ∃ v, largest [.integer m, .integer n] = .ok v := by
  have h : ∃ b, Fault.exceeds (.integer n) (.integer m) = .ok b := ⟨_, rfl⟩
  obtain ⟨b, hb⟩ := h
  refine ⟨if b then .integer n else .integer m, ?_⟩
  simp only [largest, List.foldlM_cons, List.foldlM_nil, hb, bind, Except.bind, pure, Except.pure]

/-- **The judgement of the options**, against the shape of an operator. -/
theorem resolve_ok_iff {o : Options} {m n : Int} :
    (∃ o', o.resolve [.integer m, .integer n] = .ok o') ↔ o.Valid := by
  obtain ⟨extent, hextent⟩ := largest_pair m n
  constructor
  · rintro ⟨o', h⟩
    unfold resolve at h
    simp only [bind_eq_ok] at h
    obtain ⟨⟨⟩, hdamp, ⟨⟩, hatol, ⟨⟩, hbtol, ⟨⟩, hconlim, h⟩ := h
    rw [requireNonnegative_ok_iff] at hdamp hatol hbtol hconlim
    split_ifs at h with hcall hnull hnull
    · simp only [bind_eq_ok] at h
      obtain ⟨a, hthrow, -⟩ := h
      cases hthrow
    · simp only [bind_eq_ok] at h
      obtain ⟨a, hthrow, -⟩ := h
      cases hthrow
    · exact ⟨hdamp, hatol, hbtol, hconlim, by grind, .inl hnull⟩
    · simp only [bind_eq_ok] at h
      obtain ⟨⟨⟩, hsign, k, hwhole, -⟩ := h
      exact ⟨hdamp, hatol, hbtol, hconlim, by grind,
        .inr ⟨requireNonnegative_ok_iff.1 hsign, wholePart_ok_iff.1 ⟨k, hwhole⟩⟩⟩
  · intro h
    have hcall : (!o.callback.isNull && !o.callback.isCallable) = false := by
      have := h.callback
      grind
    unfold resolve
    simp only [requireNonnegative_ok_iff.2 h.damp, requireNonnegative_ok_iff.2 h.atol,
      requireNonnegative_ok_iff.2 h.btol, requireNonnegative_ok_iff.2 h.conlim, hcall, bind,
      Except.bind, Bool.false_eq_true, if_false]
    by_cases hnull : o.maxiter.isNull = true
    · rw [if_pos hnull, hextent]
      exact ⟨_, rfl⟩
    · obtain ⟨hsign, hwhole⟩ := h.maxiter.resolve_left hnull
      obtain ⟨k, hk⟩ := wholePart_ok_iff.2 hwhole
      rw [if_neg hnull, requireNonnegative_ok_iff.2 hsign, hk]
      exact ⟨_, rfl⟩

end Options

/-! ### Matrices -/

/-- **What acts as an operator**: arrays of at most two dimensions, sparse matrices, operators, and
objects that offer both products and announce two extents. -/
def Source.Supported : Source → Prop
  | .array t => t.shape.length ≤ 2
  | .sparse _ | .operator _ => True
  | .matrixFree f => f.apply.isSome = true ∧ f.applyAdjoint.isSome = true ∧
      ∃ m n : Value, f.shape = [m, n] ∧ m.toInt?.isSome = true ∧ n.toInt?.isSome = true
  | .other => False

theorem Source.toOperator_ok_iff {s : Source} : (∃ A, s.toOperator = .ok A) ↔ s.Supported := by
  cases s with
  | array t =>
    rcases t with ⟨type, shape, entries⟩
    rcases shape with _ | ⟨m, _ | ⟨n, _ | ⟨k, rest⟩⟩⟩ <;>
      simp [toOperator, Operator.ofTensor, Tensor.toMatrix?, Supported]
  | sparse a => simp [toOperator, Supported]
  | operator A => simp [toOperator, Supported]
  | other => simp [toOperator, Supported]
  | matrixFree f =>
    rcases f with ⟨shape, type, apply, applyAdjoint⟩
    simp only [toOperator, Supported]
    cases apply with
    | none => simp
    | some apply =>
      cases applyAdjoint with
      | none => simp
      | some applyAdjoint =>
        rcases shape with _ | ⟨m, _ | ⟨n, _ | ⟨k, rest⟩⟩⟩
        · simp [extentPair, bind, Except.bind]
        · simp [extentPair, bind, Except.bind]
        · cases hm : m.toInt? <;> cases hn : n.toInt? <;>
            simp [extentPair, extentOf, bind, Except.bind, pure, Except.pure, hm, hn]
        · simp [extentPair, bind, Except.bind]

/-! ### Lengths -/

/-- **What has a length**: one axis, with as many entries. -/
def Given.IsVector (g : Given) (n : Int) : Prop :=
  ∃ t, g.toTensor = .ok t ∧ ∃ k : ℕ, t.shape = [k] ∧ n = k

theorem Value.isNatural_integer {k : ℕ} {n : Int} :
    (Value.integer n).isNatural k = true ↔ n = k := by
  simp [Value.isNatural, Value.toInt?]

theorem checkLength_ok_iff {name : String} {g : Given} {n : Int} :
    checkLength name g (.integer n) = .ok () ↔ g.IsVector n := by
  unfold checkLength Given.IsVector
  cases g.toTensor with
  | error e => simp
  | ok t =>
    rcases t with ⟨type, shape, entries⟩
    rcases shape with _ | ⟨k, _ | ⟨l, rest⟩⟩
    · simp
    · simp [Value.isNatural_integer]
    · simp

/-- **The lengths of a solve**, with two working vectors of the length of the solution. -/
theorem checkDimensions_ok_iff {m n : Int} {b x : Given} {zero : Tensor}
    (hzero : (Given.array zero).IsVector n) :
    checkDimensions [.integer m, .integer n] b x [("h", .array zero), ("hbar", .array zero)] =
      .ok () ↔ x.IsVector n ∧ b.IsVector m := by
  have h (name : String) : checkLength name (.array zero) (.integer n) = .ok () :=
    checkLength_ok_iff.2 hzero
  have hpair : extentPair [Value.integer m, Value.integer n] =
      .ok (Value.integer m, Value.integer n) := rfl
  have hwork : checkDimensions [.integer m, .integer n] b x
      [("h", .array zero), ("hbar", .array zero)] = (do
        checkLength "x" x (.integer n)
        checkLength "b" b (.integer m)) := by
    simp [checkDimensions, nameVector, hpair, h, bind, Except.bind, pure, Except.pure]
  rw [hwork, bind_eq_ok]
  constructor
  · rintro ⟨⟨⟩, hx, hb⟩
    exact ⟨checkLength_ok_iff.1 hx, checkLength_ok_iff.1 hb⟩
  · rintro ⟨hx, hb⟩
    exact ⟨(), checkLength_ok_iff.2 hx, checkLength_ok_iff.2 hb⟩

theorem zeroVector_ok (type : ElementType) {n : Int} (h : 0 ≤ n) :
    ∃ t, zeroVector type n = .ok t ∧ (Given.array t).IsVector n := by
  refine ⟨.zeros type n.toNat, if_neg (Int.not_lt.2 h), _, rfl, n.toNat, rfl, ?_⟩
  omega

theorem zeroVector_nonneg {type : ElementType} {n : Int} {t : Tensor}
    (h : zeroVector type n = .ok t) : 0 ≤ n := by
  unfold zeroVector at h
  split_ifs at h with hn
  omega

/-! ### Requests -/

/-- The type that a solve computes in: it holds the operator, the right-hand side, doubles and the
solution. -/
def workingType (A : Operator) (b x : Tensor) : ElementType :=
  ((A.type.promote b.type).promote .float64).promote x.type

/-- **A request that is in order.** -/
structure Request.Valid (r : Request) : Prop where
  updatable : ∃ x, r.x = .array x
  supported : r.source.Supported
  known : ∀ e ∈ r.options, e.1 ∈ Options.names
  options : ∀ o, Options.ofList r.options = .ok o → o.Valid
  lengths : ∀ A, r.source.toOperator = .ok A → r.x.IsVector A.cols ∧ r.b.IsVector A.rows
  accepts : ∀ A b x, r.source.toOperator = .ok A → r.b.toTensor = .ok b → r.x = .array x →
    x.type.accepts (workingType A b x) = true

namespace Request

variable {r : Request} {p : Prepared}

/-- Where all names are known, none is that of another argument. -/
theorem refuseTwice_of_known {options : List (String × Value)}
    (h : ∀ e ∈ options, e.1 ∈ Options.names) :
    refuseTwice "lsmr_inplace" ["x", "A", "b"] options = .ok () := by
  have hnone : (options.find? fun o => ["x", "A", "b"].contains o.1) = none := by
    rw [List.find?_eq_none]
    intro e he hcontains
    have hname := h e he
    simp only [Options.names, List.contains_iff_mem, List.mem_cons, List.not_mem_nil,
      or_false] at hname hcontains
    rcases hcontains with hx | hx | hx <;> rw [hx] at hname <;> simp at hname
  rw [refuseTwice, hnone]

/-- The type in which a judged request is computed. -/
theorem Judged.type_eq_working {b : Tensor} (h : r.Judged p)
    (hb : r.b.toTensor = .ok b) : p.type = workingType p.operator b p.x := by
  obtain ⟨t, ht, htype⟩ := h.type_eq
  unfold solverType at ht
  rw [hb] at ht
  injection ht with ht
  rw [htype, ← ht]
  rfl

/-- The lengths that a judgement has found. -/
theorem Judged.isVector (h : r.Judged p) :
    r.x.IsVector p.operator.cols ∧ r.b.IsVector p.operator.rows := by
  obtain ⟨zero, hzero, hlengths⟩ := h.lengths
  obtain ⟨t, ht, hvector⟩ := zeroVector_ok p.type (zeroVector_nonneg hzero)
  obtain rfl : zero = t := Except.ok.inj (hzero.symm.trans ht)
  exact (checkDimensions_ok_iff hvector).1 hlengths

/-- **What passes the judgement is in order.** -/
theorem prepare_valid (hp : r.prepare = .ok p) : r.Valid := by
  have h := prepare_ok hp
  obtain ⟨o, o', ho, ho', -⟩ := h.settings_eq
  have hsource : ∀ A, r.source.toOperator = .ok A → A = p.operator := by
    intro A hA
    rw [h.operator_eq] at hA
    exact (Except.ok.inj hA).symm
  refine
    { updatable := ⟨p.x, h.updatable⟩
      supported := Source.toOperator_ok_iff.1 ⟨_, h.operator_eq⟩
      known := Options.ofList_ok_iff.1 ⟨o, ho⟩
      options := ?_
      lengths := ?_
      accepts := ?_ }
  · intro o₁ ho₁
    rw [ho] at ho₁
    obtain rfl : o = o₁ := by injection ho₁
    exact Options.resolve_ok_iff.1 ⟨o', ho'⟩
  · intro A hA
    rw [hsource A hA]
    exact h.isVector
  · intro A b x hA hb hx
    rw [h.updatable] at hx
    obtain rfl : p.x = x := by injection hx
    rw [hsource A hA, ← h.type_eq_working hb]
    exact h.accepts

theorem Settings.history_error {s : Settings} {e : Fault} (h : s.history = .error e) :
    e = .integerTooLarge := by
  unfold Settings.history at h
  simp only [Arithmetic.use, Scalar.use] at h
  split_ifs at h
  · injection h with h
    exact h.symm
  · cases h

/-- **What is in order passes the judgement**, unless the history cannot be kept. -/
theorem Valid.prepare (h : r.Valid) :
    (∃ p, r.prepare = .ok p) ∨ r.prepare = .error .integerTooLarge := by
  obtain ⟨x, hx⟩ := h.updatable
  obtain ⟨A, hA⟩ := Source.toOperator_ok_iff.2 h.supported
  obtain ⟨o, ho⟩ := Options.ofList_ok_iff.2 h.known
  obtain ⟨o', ho'⟩ := (Options.resolve_ok_iff (m := A.rows) (n := A.cols)).2 (h.options o ho)
  obtain ⟨hxv, hbv⟩ := h.lengths A hA
  obtain ⟨b, hb, -⟩ := hbv
  have htype : solverType A r.b = .ok ((A.type.promote b.type).promote .float64) := by
    rw [solverType, hb]; rfl
  have hcols : 0 ≤ A.cols := by
    obtain ⟨t, -, k, -, hk⟩ := hxv
    omega
  obtain ⟨zero, hzero, hvector⟩ := zeroVector_ok (workingType A b x) hcols
  have hlengths := (checkDimensions_ok_iff hvector).2 (h.lengths A hA)
  have haccepts := h.accepts A b x hA hb hx
  have hprepare : r.prepare = (Settings.ofOptions o').history.map fun history =>
      ⟨x, A, r.b, Settings.ofOptions o', workingType A b x, history⟩ := by
    rw [workingType] at hzero haccepts ⊢
    rw [hx] at hlengths
    unfold Request.prepare
    rw [refuseTwice_of_known h.known]
    simp only [hx, hA, ho, ho', htype, hzero, hlengths, haccepts, bind, Except.bind, pure,
      Except.pure, Bool.not_true, Bool.false_eq_true, if_false]
    cases (Settings.ofOptions o').history <;> rfl
  rw [hprepare]
  cases hhistory : (Settings.ofOptions o').history with
  | ok history => exact .inl ⟨_, rfl⟩
  | error e => exact .inr (congrArg Except.error (Settings.history_error hhistory))

end Request

end LeastSquares
