import Mathlib.Analysis.InnerProductSpace.PiL2
import Mathlib.LinearAlgebra.Matrix.DotProduct
import LeastSquares.Difference
import LeastSquares.Proofs.Exact
import LeastSquares.Proofs.Magnitude

/-!
# The nullspace of differences

The matrix of differences is read as a matrix over the real or complex numbers. The boundary is
written into its last row, over what stands there, and the rows are the documented ones as long as
nothing stands there. This holds for every length and every boundary, but for a signal of length one
that is wrapped around: its only entry is both on the diagonal and in the corner, so the one that is
written last replaces the other. That matrix negates the signal, and has no nullspace.

Otherwise, if the rows but the last vanish, a signal is constant, by induction along it.

* `SparseMatrix.exact`: the matrix of numbers that a sparse matrix stands for.
* `Difference.entryAt_put`: an entry that is written replaces what stands at its place.
* `Boundary.rule`: the documented rows.
* `Difference.Documented`: **what is documented** of the matrix and of its nullspace.
* `Difference.documented_iff`: **the only length and boundary for which it fails.**
-/

namespace LeastSquares

/-! ### Matrices of numbers -/

/-- The real number that an entry stands for, by its real part. -/
noncomputable def Entry.toReal : Entry → ℝ
  | .whole n => n
  | .number x _ => x.read.toReal

/-- What is stored at a place: entries at the same place are added. -/
def entryAt {α : Type} [AddMonoid α] (l : List (ℕ × ℕ × α)) (i j : ℕ) : α :=
  (l.map fun e => if e.1 = i ∧ e.2.1 = j then e.2.2 else 0).sum

/-- **The matrix of numbers** that a sparse matrix of real entries stands for. -/
noncomputable def SparseMatrix.exact (𝕜 : Type) [RCLike 𝕜] (a : SparseMatrix) :
    Matrix (Fin a.rows) (Fin a.cols) 𝕜 :=
  fun i j => (entryAt (a.stored.map fun e => (e.1, e.2.1, e.2.2.toReal)) i j : ℝ)

section

variable {α : Type} [AddMonoid α] {l : List (ℕ × ℕ × α)} {i j : ℕ}

theorem entryAt_cons (e : ℕ × ℕ × α) (l : List (ℕ × ℕ × α)) (i j : ℕ) :
    entryAt (e :: l) i j = (if e.1 = i ∧ e.2.1 = j then e.2.2 else 0) + entryAt l i j :=
  List.sum_cons

theorem entryAt_append (l l' : List (ℕ × ℕ × α)) (i j : ℕ) :
    entryAt (l ++ l') i j = entryAt l i j + entryAt l' i j := by
  simp [entryAt]

theorem entryAt_eq_zero (h : ∀ e ∈ l, ¬ (e.1 = i ∧ e.2.1 = j)) : entryAt l i j = 0 :=
  List.sum_eq_zero fun _ hx => by
    obtain ⟨e, he, rfl⟩ := List.mem_map.1 hx
    exact if_neg (h e he)

theorem entryAt_filter {p : ℕ × ℕ × α → Bool} (h : ∀ e ∈ l, e.1 = i → p e = true) :
    entryAt (l.filter p) i j = entryAt l i j := by
  induction l with
  | nil => rfl
  | cons e l ih =>
    obtain ⟨he, hl⟩ := List.forall_mem_cons.1 h
    rw [List.filter_cons, entryAt_cons, ← ih hl]
    by_cases hp : p e = true
    · rw [if_pos hp, entryAt_cons]
    · rw [if_neg hp, if_neg fun hplace => hp (he hplace.1), zero_add]

end

namespace Difference

/-! ### Entries -/

/-- The order of rows and columns. -/
def Before (e f : ℕ × ℕ × ℤ) : Prop := e.1 < f.1 ∨ (e.1 = f.1 ∧ e.2.1 < f.2.1)

theorem mem_row {n k : ℕ} {e : ℕ × ℕ × ℤ} :
    e ∈ row n k ↔ e = (k, k, 1) ∨ (k + 1 < n ∧ e = (k, k + 1, -1)) := by
  unfold row
  split_ifs with h <;> simp [h]

theorem mem_diagonals {n : ℕ} {e : ℕ × ℕ × ℤ} :
    e ∈ diagonals n ↔ ∃ k < n, e ∈ row n k := by
  simp [diagonals]

theorem diagonals_sorted (n : ℕ) : (diagonals n).Pairwise Before := by
  refine List.pairwise_flatMap.2 ⟨?_, ?_⟩
  · intro k _
    unfold row
    split_ifs <;> simp [Before]
  · refine List.pairwise_lt_range.imp ?_
    intro k k' hlt e he f hf
    rcases mem_row.1 he with rfl | ⟨-, rfl⟩ <;> rcases mem_row.1 hf with rfl | ⟨-, rfl⟩ <;>
      exact .inl hlt

/-- Row `k` of the diagonals stands in row `k` alone. -/
theorem entryAt_row (n k i j : ℕ) : entryAt (row n k) i j =
    if k = i then (if j = i then 1 else 0) - (if j = i + 1 ∧ i + 1 < n then 1 else 0) else 0 := by
  unfold row
  split_ifs with hright <;> simp [entryAt] <;> grind

theorem entryAt_diagonals {n i : ℕ} (h : i < n) (j : ℕ) : entryAt (diagonals n) i j =
    (if j = i then 1 else 0) - (if j = i + 1 ∧ i + 1 < n then 1 else 0) := by
  have hrange : ∀ m, entryAt ((List.range m).flatMap (row n)) i j =
      if i < m then entryAt (row n i) i j else 0 := by
    intro m
    induction m with
    | zero => rfl
    | succ m ih =>
      rw [List.range_succ, List.flatMap_append, entryAt_append, ih, List.flatMap_singleton,
        entryAt_row n m, entryAt_row n i]
      split_ifs <;> grind
  rw [diagonals, hrange, if_pos h, entryAt_row, if_pos rfl]

theorem entryAt_write {l : List (ℕ × ℕ × ℤ)} {i j : ℕ} (hl : entryAt l i j = 0) (v : ℤ) (i' j' : ℕ) :
    entryAt (if v = 0 then l else (i, j, v) :: l) i' j' =
      if i = i' ∧ j = j' then v else entryAt l i' j' := by
  by_cases hplace : i = i' ∧ j = j'
  · obtain ⟨rfl, rfl⟩ := hplace
    split_ifs with hv <;> simp_all [entryAt_cons]
  · rw [if_neg hplace]
    split_ifs
    · rfl
    · rw [entryAt_cons, if_neg hplace, zero_add]

/-- **An entry that is written replaces what stands at its place**, and nothing else. -/
theorem entryAt_put {l : List (ℕ × ℕ × ℤ)} (hl : l.Pairwise Before) (i j : ℕ) (v : ℤ) (i' j' : ℕ) :
    entryAt (put i j v l) i' j' = if i = i' ∧ j = j' then v else entryAt l i' j' := by
  induction l with
  | nil => exact entryAt_write rfl v i' j'
  | cons e rest ih =>
    obtain ⟨k, m, f⟩ := e
    obtain ⟨hhead, hrest⟩ := List.pairwise_cons.1 hl
    -- What comes later in the order than the head is not at the place, if the head is not earlier.
    have hlater (h : (i = k ∧ j = m) ∨ i < k ∨ (i = k ∧ j < m)) : entryAt rest i j = 0 :=
      entryAt_eq_zero fun e he => by
        have hbefore : k < e.1 ∨ (k = e.1 ∧ m < e.2.1) := hhead e he
        omega
    unfold put
    by_cases hplace : i = k ∧ j = m
    · rw [if_pos hplace, entryAt_write (hlater (.inl hplace)), entryAt_cons]
      split_ifs <;> grind
    by_cases hbefore : i < k ∨ (i = k ∧ j < m)
    · have hzero : entryAt ((k, m, f) :: rest) i j = 0 := by
        rw [entryAt_cons, if_neg (by grind), hlater (.inr hbefore), add_zero]
      rw [if_neg hplace, if_pos hbefore, entryAt_write hzero]
    · rw [if_neg hplace, if_neg hbefore, entryAt_cons, ih hrest, entryAt_cons]
      split_ifs <;> grind

theorem mem_put {l : List (ℕ × ℕ × ℤ)} {i j : ℕ} {v : ℤ} {e : ℕ × ℕ × ℤ} (h : e ∈ put i j v l) :
    e = (i, j, v) ∨ e ∈ l := by
  induction l with
  | nil => unfold put at h; split_ifs at h <;> simp_all
  | cons f rest ih =>
    unfold put at h
    split_ifs at h <;> grind

/-- All entries are exact as doubles. -/
theorem value_of_mem_entries {b : Boundary} {n : ℕ} {e : ℕ × ℕ × ℤ} (h : e ∈ entries b n) :
    e.2.2 = 1 ∨ e.2.2 = 0 ∨ e.2.2 = -1 := by
  have hdiagonals (h : e ∈ diagonals n) : e.2.2 = 1 ∨ e.2.2 = 0 ∨ e.2.2 = -1 := by
    obtain ⟨k, -, hk⟩ := mem_diagonals.1 h
    rcases mem_row.1 hk with rfl | ⟨-, rfl⟩
    · exact .inl rfl
    · exact .inr (.inr rfl)
  cases b with
  | none => exact hdiagonals (List.mem_of_mem_filter h)
  | zero => exact hdiagonals h
  | periodic =>
    rcases mem_put h with rfl | h
    · exact .inr (.inr rfl)
    · exact hdiagonals h
  | reflexive =>
    rcases mem_put h with rfl | h
    · exact .inr (.inl rfl)
    · exact hdiagonals h

/-! ### Rows -/

variable {n i : ℕ}

/-- The rows before the last are the same for every boundary. -/
theorem entryAt_entries_of_lt (b : Boundary) (h : i < n) (j : ℕ) :
    entryAt (entries b (n + 1)) i j = (if j = i then 1 else 0) - (if j = i + 1 then 1 else 0) := by
  have hdiagonals : entryAt (diagonals (n + 1)) i j =
      (if j = i then 1 else 0) - (if j = i + 1 then 1 else 0) := by
    rw [entryAt_diagonals (by omega)]
    simp only [Nat.add_lt_add_right h 1, and_true]
  cases b with
  | none =>
    rw [← hdiagonals]
    exact entryAt_filter fun e _ he => by simpa [he] using h
  | zero => exact hdiagonals
  | periodic =>
    rw [entries, entryAt_put (diagonals_sorted _), if_neg (by omega), hdiagonals]
  | reflexive =>
    rw [entries, entryAt_put (diagonals_sorted _), if_neg (by omega), hdiagonals]

theorem entryAt_entries_zero_last (n j : ℕ) :
    entryAt (entries .zero (n + 1)) n j = if j = n then 1 else 0 := by
  rw [entries, entryAt_diagonals n.lt_succ_self]
  simp

/-- The corner is not on the diagonal. -/
theorem entryAt_entries_periodic_last (hn : n ≠ 0) (j : ℕ) :
    entryAt (entries .periodic (n + 1)) n j = (if j = n then 1 else 0) - (if j = 0 then 1 else 0) := by
  rw [entries, entryAt_put (diagonals_sorted _), entryAt_diagonals n.lt_succ_self]
  split_ifs <;> omega

theorem entryAt_entries_reflexive_last (n j : ℕ) :
    entryAt (entries .reflexive (n + 1)) n j = 0 := by
  rw [entries, entryAt_put (diagonals_sorted _), entryAt_diagonals n.lt_succ_self]
  split_ifs <;> omega

end Difference

variable {𝕜 : Type} [RCLike 𝕜] {n : ℕ}

/-- **The documented rows**: the differences of neighbours, and a last row by the boundary. -/
def Boundary.rule (b : Boundary) (x : Fin (n + 1) → 𝕜) (i : ℕ) : 𝕜 :=
  if h : i < n then x ⟨i, by omega⟩ - x ⟨i + 1, by omega⟩
  else
    match b with
    | .none | .reflexive => 0
    | .zero => x (Fin.last n)
    | .periodic => x (Fin.last n) - x 0

namespace Difference

/-- **The differences of a signal as a matrix** over the real or complex numbers. -/
noncomputable abbrev operator (𝕜 : Type) [RCLike 𝕜] (b : Boundary) (n : ℕ) :
    Matrix (Fin (rows b n)) (Fin n) 𝕜 :=
  (matrix b n).exact 𝕜

/-- **What is documented** of the differences of a signal of length `n + 1`. -/
structure Documented (𝕜 : Type) [RCLike 𝕜] (b : Boundary) (n : ℕ) : Prop where
  /-- There is a row for each element of the signal, or one less. -/
  rows_eq : rows b (n + 1) = if b = .none then n else n + 1
  /-- The rows are the documented ones. -/
  mulVec_eq : ∀ (x : Fin (n + 1) → 𝕜) i, (operator 𝕜 b (n + 1)).mulVec x i = b.rule x i
  /-- Only the boundary of zeros leaves out the vector of the nullspace. -/
  hasSpan_iff : hasSpan b = true ↔ b ≠ .zero
  /-- The nullspace is spanned by a constant unit vector, if one is given. -/
  span : hasSpan b = true → ∃ w : ℝ, spanEntry (n + 1) = .ok w ∧
    ‖WithLp.toLp 2 fun _ : Fin (n + 1) => (w : 𝕜)‖ = 1 ∧
    ∀ x, (operator 𝕜 b (n + 1)).mulVec x = 0 ↔ ∃ c : 𝕜, x = fun _ => c * w
  /-- Otherwise it is trivial. -/
  trivial : hasSpan b = false → ∀ x, (operator 𝕜 b (n + 1)).mulVec x = 0 → x = 0

theorem exact_apply (b : Boundary) (n : ℕ) (i : Fin (rows b n)) (j : Fin n) :
    operator 𝕜 b n i j = (entryAt (entries b n) i j : ℤ) := by
  have hcast (l : List (ℕ × ℕ × ℤ)) (hl : ∀ e ∈ l, e.2.2 = 1 ∨ e.2.2 = 0 ∨ e.2.2 = -1) :
      entryAt ((l.map fun e => (e.1, e.2.1, Entry.ofReal (Binary64.ofInt e.2.2))).map
        fun e => (e.1, e.2.1, e.2.2.toReal)) i j = ((entryAt l i j : ℤ) : ℝ) := by
    induction l with
    | nil => simp [entryAt]
    | cons e l ih =>
      obtain ⟨he, hl⟩ := List.forall_mem_cons.1 hl
      rw [List.map_cons, List.map_cons, entryAt_cons, entryAt_cons, ih hl, Int.cast_add]
      congr 1
      split_ifs
      · exact Binary64.toReal_ofInt he
      · simp
  have hentries := hcast (entries b n) fun e he => value_of_mem_entries he
  exact (congrArg RCLike.ofReal hentries).trans (RCLike.ofReal_intCast _)

/-- A sum of the elements at one place. -/
theorem sum_pick (x : Fin n → 𝕜) {k : ℕ} (hk : k < n) :
    ∑ j : Fin n, (if (j : ℕ) = k then 1 else 0) * x j = x ⟨k, hk⟩ := by
  have hplace (j : Fin n) : (j : ℕ) = k ↔ j = ⟨k, hk⟩ := by rw [Fin.ext_iff]
  simp [hplace]

/-- **The rows are the documented ones**, unless the only element of a signal is wrapped around. -/
theorem operator_mulVec {b : Boundary} (h : ¬ (b = .periodic ∧ n = 0)) (x : Fin (n + 1) → 𝕜)
    (i : Fin (rows b (n + 1))) : (operator 𝕜 b (n + 1)).mulVec x i = b.rule x i := by
  have hsum : (operator 𝕜 b (n + 1)).mulVec x i =
      ∑ j : Fin (n + 1), ((entryAt (entries b (n + 1)) i j : ℤ) : 𝕜) * x j := by
    rw [Matrix.mulVec, dotProduct]
    exact Finset.sum_congr rfl fun j _ => congrArg (· * x j) (exact_apply b (n + 1) i j)
  obtain ⟨i, hrows⟩ := i
  rw [hsum]
  unfold Boundary.rule
  split_ifs with hi
  · simp only [entryAt_entries_of_lt b hi, Int.cast_sub, Int.cast_ite, Int.cast_one, Int.cast_zero,
      sub_mul, Finset.sum_sub_distrib]
    rw [sum_pick, sum_pick]
  · have hlast (hb : b ≠ .none) : n = i := by
      have hcount : i < n + 1 := hrows.trans_eq (if_neg hb)
      exact le_antisymm (not_lt.1 hi) (Nat.le_of_lt_succ hcount)
    cases b with
    | none => exact absurd hrows hi
    | zero =>
      obtain rfl := hlast (by decide)
      simp only [entryAt_entries_zero_last, Int.cast_ite, Int.cast_one, Int.cast_zero]
      exact sum_pick x _
    | periodic =>
      obtain rfl := hlast (by decide)
      simp only [entryAt_entries_periodic_last fun hn => h ⟨rfl, hn⟩, Int.cast_sub, Int.cast_ite,
        Int.cast_one, Int.cast_zero, sub_mul, Finset.sum_sub_distrib]
      rw [sum_pick, sum_pick]
      rfl
    | reflexive =>
      obtain rfl := hlast (by decide)
      simp [entryAt_entries_reflexive_last]

/-- **A wrapped signal of one element is negated**: the corner has been written over the
diagonal. -/
theorem operator_periodic_one (x : Fin 1 → 𝕜) :
    (operator 𝕜 .periodic 1).mulVec x = fun _ => -x 0 := by
  have hcorner : entryAt (entries .periodic 1) 0 0 = -1 := rfl
  funext i
  change Fin 1 at i
  obtain rfl := Fin.eq_zero i
  change ∑ j : Fin 1, operator 𝕜 .periodic 1 (0 : Fin 1) j * x j = -x 0
  rw [Fin.sum_univ_one]
  refine (congrArg (· * x 0) (exact_apply .periodic 1 (0 : Fin 1) 0)).trans ?_
  simp [hcorner]

theorem not_documented_periodic (𝕜 : Type) [RCLike 𝕜] : ¬ Documented 𝕜 .periodic 0 := by
  intro hdoc
  have hrow := hdoc.mulVec_eq (fun _ => 1) (0 : Fin 1)
  rw [operator_periodic_one] at hrow
  simp [Boundary.rule] at hrow

/-! ### The nullspace -/

variable {b : Boundary} {x : Fin (n + 1) → 𝕜}

theorem rule_eq_zero (h : ¬ (b = .periodic ∧ n = 0))
    (hx : (operator 𝕜 b (n + 1)).mulVec x = 0) {i : ℕ} (hi : i < rows b (n + 1)) :
    b.rule x i = 0 :=
  (operator_mulVec h x ⟨i, hi⟩).symm.trans (congrFun hx _)

/-- **If all rows vanish, the signal is constant**: the rows before the last are enough. -/
theorem eq_of_mulVec_eq_zero (h : ¬ (b = .periodic ∧ n = 0))
    (hx : (operator 𝕜 b (n + 1)).mulVec x = 0) (j : Fin (n + 1)) : x j = x 0 := by
  have hrows : n ≤ rows b (n + 1) := by
    unfold rows
    split_ifs <;> omega
  induction j using Fin.induction with
  | zero => rfl
  | succ j ih =>
    have hrow : b.rule x j = 0 := rule_eq_zero h hx (j.isLt.trans_le hrows)
    unfold Boundary.rule at hrow
    rw [dif_pos j.isLt] at hrow
    exact (sub_eq_zero.1 hrow).symm.trans ih

/-- **The nullspace**, if no zeros follow the signal: the constant signals. -/
theorem mulVec_eq_zero_iff (h : ¬ (b = .periodic ∧ n = 0)) (hb : b ≠ .zero) :
    (operator 𝕜 b (n + 1)).mulVec x = 0 ↔ ∀ j, x j = x 0 := by
  refine ⟨eq_of_mulVec_eq_zero h, fun hx => funext fun i => ?_⟩
  rw [operator_mulVec h]
  unfold Boundary.rule
  split_ifs
  · rw [hx, hx ⟨i + 1, _⟩, sub_self, Pi.zero_apply]
  · cases b with
    | zero => exact absurd rfl hb
    | periodic => simp [hx (Fin.last n)]
    | none | reflexive => rfl

/-- **The nullspace is trivial** if zeros follow the signal: the last element is a row. -/
theorem eq_zero_of_mulVec_zero (hx : (operator 𝕜 .zero (n + 1)).mulVec x = 0) : x = 0 := by
  have hboundary : ¬ (Boundary.zero = .periodic ∧ n = 0) := nofun
  have hlast : x (Fin.last n) = 0 := by
    have hrow : Boundary.zero.rule x n = 0 := rule_eq_zero hboundary hx n.lt_succ_self
    unfold Boundary.rule at hrow
    rwa [dif_neg n.lt_irrefl] at hrow
  funext j
  rw [eq_of_mulVec_eq_zero hboundary hx j, ← eq_of_mulVec_eq_zero hboundary hx (Fin.last n), hlast]
  rfl

/-- The entries of the vector that is given. -/
theorem spanEntry_eq (n : ℕ) : spanEntry (n + 1) = .ok (1 / √(n + 1 : ℝ)) := by
  have hpos : (0 : ℝ) < n + 1 := by positivity
  have hsqrt : Arithmetic.sqrt (Arithmetic.ofNat (n + 1) : ℝ) = .ok √(n + 1 : ℝ) := by
    have hcast : (Arithmetic.ofNat (n + 1) : ℝ) = n + 1 := Nat.cast_succ n
    rw [hcast, exact_sqrt hpos.le]
  rw [spanEntry, hsqrt]
  exact exact_div (Real.sqrt_pos.2 hpos).ne'

theorem norm_span (n : ℕ) :
    ‖WithLp.toLp 2 fun _ : Fin (n + 1) => ((1 / √(n + 1 : ℝ) : ℝ) : 𝕜)‖ = 1 := by
  have hpos : (0 : ℝ) < n + 1 := by positivity
  rw [EuclideanSpace.norm_eq]
  simp [Real.sq_sqrt hpos.le, hpos.ne']

/-- **The matrix is given for every length for which there is memory**, under the name of the
boundary. -/
theorem ofValues_eq (b : Boundary) (h : n + 1 < Counting.refusedLength) :
    ofValues (.integer (n + 1 : ℕ)) (.text b.name) = .ok (b, n + 1) := by
  have hmeasured : Counting.refusedLength < Counting.unmeasuredLength := by decide
  have hname : Boundary.ofValue? (.text b.name) = some b := by cases b <;> rfl
  have hlength : lengthOf (.integer (n + 1 : ℕ)) = .ok (n + 1) := by
    rw [lengthOf, if_neg (by omega), Int.toNat_natCast, if_neg (by omega)]
  rw [ofValues, hname, hlength]
  rfl

/-- **What is documented holds for every length and every boundary**, but for a signal of one
element that is wrapped around. -/
theorem documented_iff (𝕜 : Type) [RCLike 𝕜] (b : Boundary) (n : ℕ) :
    (Documented 𝕜 b n ↔ ¬ (b = .periodic ∧ n = 0)) ∧
    (n + 1 < Counting.refusedLength →
      ofValues (.integer (n + 1 : ℕ)) (.text b.name) = .ok (b, n + 1)) := by
  refine ⟨⟨?_, fun h => ?_⟩, ofValues_eq b⟩
  · rintro hdoc ⟨rfl, rfl⟩
    exact not_documented_periodic 𝕜 hdoc
  · refine
      { rows_eq := rfl
        mulVec_eq := operator_mulVec h
        hasSpan_iff := by simp [hasSpan]
        span := fun hspan => ⟨_, spanEntry_eq n, norm_span n, fun x => ?_⟩
        trivial := fun hspan x hx => ?_ }
    · have hpos : (0 : ℝ) < 1 / √(n + 1 : ℝ) := by positivity
      have hw : ((1 / √(n + 1 : ℝ) : ℝ) : 𝕜) ≠ 0 := RCLike.ofReal_ne_zero.2 hpos.ne'
      rw [mulVec_eq_zero_iff h (by simpa [hasSpan] using hspan)]
      constructor
      · intro hx
        exact ⟨x 0 / (1 / √(n + 1 : ℝ) : ℝ), funext fun j => (hx j).trans (div_mul_cancel₀ _ hw).symm⟩
      · rintro ⟨c, rfl⟩ j
        rfl
    · obtain rfl : b = .zero := by simpa [hasSpan] using hspan
      exact eq_zero_of_mulVec_zero hx

/-- Two elements are wrapped around as documented. -/
theorem documented_iff_two : Documented ℝ .periodic 1 ∧
    ofValues (.integer 2) (.text "periodic") = .ok (.periodic, 2) :=
  ⟨(documented_iff ℝ .periodic 1).1.2 (by decide), (documented_iff ℝ .periodic 1).2 (by decide)⟩

/-- **One element that is wrapped around** is negated, where its difference from itself is
documented, and the vector that is given is not in the nullspace. -/
theorem not_documented_one : ofValues (.integer 1) (.text "periodic") = .ok (.periodic, 1) ∧
    (operator ℝ .periodic 1).mulVec (fun _ => 1) = (fun _ => -1) ∧
    Boundary.periodic.rule (fun _ : Fin 1 => (1 : ℝ)) 0 = 0 ∧ ¬ Documented ℝ .periodic 0 ∧
    ∃ w : ℝ, spanEntry 1 = .ok w ∧ (operator ℝ .periodic 1).mulVec (fun _ => w) ≠ 0 := by
  refine ⟨rfl, operator_periodic_one _, by simp [Boundary.rule], not_documented_periodic ℝ, 1, ?_,
    ?_⟩
  · rw [spanEntry_eq]
    simp
  · intro hw
    have hrow : (-1 : ℝ) = 0 := congrFun ((operator_periodic_one _).symm.trans hw) (0 : Fin 1)
    norm_num at hrow

end Difference

end LeastSquares
