import LeastSquares.Proofs.Plane
import LeastSquares.Proofs.Process

/-!
# Orthogonality of the process

As long as no scalar of the process vanishes, its vectors are orthonormal, and the vectors `v` span
the Krylov spaces of `Aᴴ A` and `Aᴴ r`.

* `Recurs.lanczos`: both halves of a step in one equation, also where a scalar vanishes.
* `Recurs.orthogonalAt`: **each vector is orthogonal to all vectors before it.**
* `Recurs.succ_le_rank`: so many vectors without a vanishing scalar need an operator of that rank.
* `Recurs.vSpan_eq_krylov`: **the vectors `v` span the Krylov spaces.**
-/

namespace LeastSquares

open Submodule

variable {𝕜 E F : Type}

namespace Bidiagonal

variable {P : ℕ → Bidiagonal ℝ F E} {j k : ℕ}

/-- **No scalar vanishes** in the states up to the `k`-th. -/
def Live (P : ℕ → Bidiagonal ℝ F E) (k : ℕ) : Prop :=
  ∀ j ≤ k, (P j).alpha ≠ 0 ∧ (P j).beta ≠ 0

theorem Live.mono (h : Live P k) (hj : j ≤ k) : Live P j := fun i hi => h i (hi.trans hj)

theorem Live.succ (h : Live P k) (ha : (P (k + 1)).alpha ≠ 0) (hb : (P (k + 1)).beta ≠ 0) :
    Live P (k + 1) := by
  intro j hj
  rcases Nat.le_succ_iff.1 hj with h' | rfl
  · exact h j h'
  · exact ⟨ha, hb⟩

theorem Live.succ_or_eq_zero (h : Live P k) :
    Live P (k + 1) ∨ (P (k + 1)).alpha = 0 ∨ (P (k + 1)).beta = 0 := by
  by_cases ha : (P (k + 1)).alpha = 0
  · exact .inr (.inl ha)
  · by_cases hb : (P (k + 1)).beta = 0
    · exact .inr (.inr hb)
    · exact .inl (h.succ ha hb)

end Bidiagonal

variable [RCLike 𝕜] [NormedAddCommGroup E] [InnerProductSpace 𝕜 E]

/-- **The Krylov space** spanned by `g`, `M g`, …, `M ^ (k - 1) g`. -/
def krylov (M : E →ₗ[𝕜] E) (g : E) (k : ℕ) : Submodule 𝕜 E :=
  span 𝕜 ((fun j => (M ^ j) g) '' Set.Iio k)

namespace Bidiagonal

variable {P : ℕ → Bidiagonal ℝ F E} {j k : ℕ}

/-- The span of the first `k` vectors `v`. -/
def vSpan (𝕜 : Type) [RCLike 𝕜] [InnerProductSpace 𝕜 E] (P : ℕ → Bidiagonal ℝ F E) (k : ℕ) :
    Submodule 𝕜 E :=
  span 𝕜 ((fun j => (P j).v) '' Set.Iio k)

theorem v_mem_vSpan (h : j < k) : (P j).v ∈ vSpan 𝕜 P k := subset_span ⟨j, h, rfl⟩

theorem vSpan_mono (h : j ≤ k) : vSpan 𝕜 P j ≤ vSpan 𝕜 P k :=
  span_mono (Set.image_mono (Set.Iio_subset_Iio h))

theorem vSpan_le {K : Submodule 𝕜 E} (h : ∀ j < k, (P j).v ∈ K) : vSpan 𝕜 P k ≤ K :=
  span_le.2 (by rintro _ ⟨j, hj, rfl⟩; exact h j hj)

variable [NormedSpace ℝ E] [NormedAddCommGroup F] [InnerProductSpace 𝕜 F] [NormedSpace ℝ F]
  [FiniteDimensional 𝕜 E] [FiniteDimensional 𝕜 F] {A : E →ₗ[𝕜] F} {r : F}

/-- The `k`-th vectors are orthogonal to all vectors before them. -/
structure OrthogonalAt (𝕜 : Type) [RCLike 𝕜] [InnerProductSpace 𝕜 E] [InnerProductSpace 𝕜 F]
    (P : ℕ → Bidiagonal ℝ F E) (k : ℕ) : Prop where
  u : ∀ i < k, inner 𝕜 (P i).u (P k).u = 0
  v : ∀ i < k, inner 𝕜 (P i).v (P k).v = 0

namespace Recurs

variable (hP : Recurs A r P)

include hP

theorem alpha_pos (hl : Live P k) : 0 < (P k).alpha :=
  lt_of_le_of_ne (hP.alpha_nonneg k) (hl k le_rfl).1.symm

theorem beta_pos (hl : Live P k) : 0 < (P k).beta :=
  lt_of_le_of_ne (hP.beta_nonneg k) (hl k le_rfl).2.symm

/-- The first `v` has the direction of `Aᴴ r`. -/
theorem adjoint_start : ((P 0).alpha * (P 0).beta) • (P 0).v = A.adjoint r := by
  rw [mul_comm, mul_smul, hP.start_v, ← LinearMap.map_smul_of_tower, hP.start_u]

theorem adjoint_u_succ (hb : (P (k + 1)).beta ≠ 0) :
    A.adjoint (P (k + 1)).u = (P (k + 1)).beta • (P k).v + (P (k + 1)).alpha • (P (k + 1)).v := by
  rw [hP.backward k hb]; abel

theorem apply_v (k : ℕ) :
    A (P k).v = (P k).alpha • (P k).u + (P (k + 1)).beta • (P (k + 1)).u := by
  rw [hP.forward k]; abel

/-- **Both halves of a step.** Where `beta` vanishes, the stale `v` has the factor zero. -/
theorem lanczos (k : ℕ) :
    A.adjoint (A (P k).v - (P k).alpha • (P k).u) =
      (P (k + 1)).beta ^ 2 • (P k).v +
        ((P (k + 1)).alpha * (P (k + 1)).beta) • (P (k + 1)).v := by
  rw [← hP.forward k, LinearMap.map_smul_of_tower]
  by_cases hb : (P (k + 1)).beta = 0
  · simp [hb]
  · rw [hP.adjoint_u_succ hb, smul_add, smul_smul, smul_smul, pow_two, mul_comm (P (k + 1)).alpha]

theorem adjoint_u_mem (hl : Live P k) : A.adjoint (P k).u ∈ vSpan 𝕜 P (k + 1) := by
  cases k with
  | zero =>
    rw [← hP.start_v]
    exact smul_of_tower_mem _ _ (v_mem_vSpan (Nat.lt_succ_self 0))
  | succ k =>
    rw [hP.adjoint_u_succ (hl _ le_rfl).2]
    exact add_mem (smul_of_tower_mem _ _ (v_mem_vSpan (by omega)))
      (smul_of_tower_mem _ _ (v_mem_vSpan (by omega)))

/-! ### Orthogonality -/

section

variable (hl : Live P k) (ho : ∀ j ≤ k, OrthogonalAt 𝕜 P j)

include hl ho

theorem inner_u_eq {i : ℕ} (hi : i ≤ k) :
    inner 𝕜 (P i).u (P k).u = if i = k then 1 else 0 := by
  rcases hi.lt_or_eq with h | rfl
  · rw [if_neg h.ne, (ho k le_rfl).u i h]
  · rw [if_pos rfl, inner_self_eq_one_of_norm_eq_one (hP.norm_u i (hl i le_rfl).2)]

theorem inner_v_eq {i : ℕ} (hi : i ≤ k) :
    inner 𝕜 (P i).v (P k).v = if i = k then 1 else 0 := by
  rcases hi.lt_or_eq with h | rfl
  · rw [if_neg h.ne, (ho k le_rfl).v i h]
  · rw [if_pos rfl, inner_self_eq_one_of_norm_eq_one (hP.norm_v i (hl i le_rfl).1)]

/-- Seen from the side of `v`, the vectors `u` are orthogonal as well. -/
theorem inner_adjoint_u {i : ℕ} (hi : i ≤ k) :
    inner 𝕜 (A.adjoint (P i).u) (P k).v = if i = k then ((P k).alpha : 𝕜) else 0 := by
  cases i with
  | zero =>
    rw [← hP.start_v, inner_real_smul_left, hP.inner_v_eq hl ho hi]
    split_ifs with h
    · rw [← h, mul_one]
    · rw [mul_zero]
  | succ i =>
    rw [hP.adjoint_u_succ (hl _ hi).2, inner_add_left, inner_real_smul_left, inner_real_smul_left,
      (ho k le_rfl).v i (by omega), hP.inner_v_eq hl ho hi, mul_zero, zero_add]
    split_ifs with h
    · rw [h, mul_one]
    · rw [mul_zero]

theorem inner_u_succ {i : ℕ} (hi : i ≤ k) : inner 𝕜 (P i).u (P (k + 1)).u = 0 := by
  by_cases hb : (P (k + 1)).beta = 0
  · rw [hP.u_eq_zero k hb, inner_zero_right]
  · have h : ((P (k + 1)).beta : 𝕜) * inner 𝕜 (P i).u (P (k + 1)).u = 0 := by
      rw [← inner_real_smul_right, hP.forward k, inner_sub_right, inner_real_smul_right,
        ← LinearMap.adjoint_inner_left, hP.inner_adjoint_u hl ho hi, hP.inner_u_eq hl ho hi]
      split_ifs <;> simp
    exact (mul_eq_zero.1 h).resolve_left (by exact_mod_cast hb)

theorem inner_v_succ (ha : (P (k + 1)).alpha ≠ 0) (hb : (P (k + 1)).beta ≠ 0) {i : ℕ}
    (hi : i ≤ k) : inner 𝕜 (P i).v (P (k + 1)).v = 0 := by
  have h : ((P (k + 1)).alpha : 𝕜) * inner 𝕜 (P i).v (P (k + 1)).v = 0 := by
    rw [← inner_real_smul_right, hP.backward k hb, inner_sub_right, inner_real_smul_right,
      LinearMap.adjoint_inner_right, hP.apply_v i, inner_add_left, inner_real_smul_left,
      inner_real_smul_left, hP.inner_u_succ hl ho hi, hP.inner_v_eq hl ho hi, mul_zero, zero_add]
    -- Only the last of the products `A v` reaches the new `u`, and there the two terms cancel.
    rcases hi.lt_or_eq with h | rfl
    · rw [hP.inner_u_succ hl ho (Nat.succ_le_of_lt h), if_neg h.ne, mul_zero, mul_zero, sub_zero]
    · rw [inner_self_eq_one_of_norm_eq_one (hP.norm_u _ hb), if_pos rfl, sub_self]
  exact (mul_eq_zero.1 h).resolve_left (by exact_mod_cast ha)

end

/-- **Each vector is orthogonal to all vectors before it**, as long as no scalar vanishes. -/
theorem orthogonalAt (hl : Live P k) : OrthogonalAt 𝕜 P k := by
  -- A step looks back at all vectors before it, so the induction carries all of them.
  have h : ∀ k, Live P k → ∀ j ≤ k, OrthogonalAt 𝕜 P j := by
    intro k
    induction k with
    | zero =>
      rintro - j hj
      obtain rfl : j = 0 := by omega
      constructor
      · intro i hi
        exact absurd hi (Nat.not_lt_zero i)
      · intro i hi
        exact absurd hi (Nat.not_lt_zero i)
    | succ k ih =>
      intro hl j hj
      have hl' := hl.mono (Nat.le_succ k)
      rcases Nat.le_succ_iff.1 hj with hj' | rfl
      · exact ih hl' j hj'
      · obtain ⟨ha, hb⟩ := hl _ le_rfl
        constructor
        · intro i hi
          exact hP.inner_u_succ hl' (ih hl') (Nat.le_of_lt_succ hi)
        · intro i hi
          exact hP.inner_v_succ hl' (ih hl') ha hb (Nat.le_of_lt_succ hi)
  exact h k hl k le_rfl

theorem orthogonalAt_le (hl : Live P k) : ∀ j ≤ k, OrthogonalAt 𝕜 P j :=
  fun _ hj => hP.orthogonalAt (hl.mono hj)

/-- The next `u` is orthogonal to all before it, even if it vanishes. -/
theorem inner_u_next (hl : Live P k) (hj : j ≤ k) : inner 𝕜 (P j).u (P (k + 1)).u = 0 :=
  hP.inner_u_succ hl (hP.orthogonalAt_le hl) hj

/-- The `k`-th `v` is orthogonal to the span of those before it. -/
theorem inner_vSpan (hl : Live P k) {z : E} (hz : z ∈ vSpan 𝕜 P k) : inner 𝕜 z (P k).v = 0 := by
  have hle : vSpan 𝕜 P k ≤ (𝕜 ∙ (P k).v)ᗮ := by
    refine vSpan_le ?_
    intro j hj
    exact mem_orthogonal_singleton_iff_inner_left.2 ((hP.orthogonalAt hl).v j hj)
  exact mem_orthogonal_singleton_iff_inner_left.1 (hle hz)

theorem orthonormal_v (hl : Live P k) : Orthonormal 𝕜 fun i : Fin (k + 1) => (P i).v := by
  constructor
  · intro i
    exact hP.norm_v i (hl i (Nat.le_of_lt_succ i.2)).1
  · intro i j hij
    have hij' : (i : ℕ) ≠ j := fun h => hij (Fin.ext h)
    rcases Nat.lt_or_gt_of_ne hij' with h | h
    · exact (hP.orthogonalAt (hl.mono (Nat.le_of_lt_succ j.2))).v i h
    · exact inner_eq_zero_symm.1 ((hP.orthogonalAt (hl.mono (Nat.le_of_lt_succ i.2))).v j h)

/-! ### The rank -/

theorem v_mem_range (hl : Live P k) : (P k).v ∈ A.adjoint.range := by
  have hmem : (P k).alpha • (P k).v ∈ A.adjoint.range := by
    induction k with
    | zero => rw [hP.start_v]; exact LinearMap.mem_range_self _ _
    | succ k ih =>
      have hl' := hl.mono (Nat.le_succ k)
      have hv : (P k).v ∈ A.adjoint.range := mem_of_real_smul_mem (hl' k le_rfl).1 (ih hl')
      rw [hP.backward k (hl _ le_rfl).2]
      exact sub_mem (LinearMap.mem_range_self _ _) (smul_of_tower_mem _ _ hv)
  exact mem_of_real_smul_mem (hl k le_rfl).1 hmem

theorem vSpan_le_range (h : ∀ j < k, Live P j) : vSpan 𝕜 P k ≤ A.adjoint.range :=
  vSpan_le fun j hj => hP.v_mem_range (h j hj)

/-- **The rank bounds the number of steps** after which no scalar has vanished. -/
theorem succ_le_rank (hl : Live P k) : k + 1 ≤ Module.finrank 𝕜 A.range := by
  have hi := (hP.orthonormal_v (𝕜 := 𝕜) hl).linearIndependent
  have hs : span 𝕜 (Set.range fun i : Fin (k + 1) => (P i).v) ≤ A.adjoint.range := by
    refine span_le.2 ?_
    rintro _ ⟨i, rfl⟩
    exact hP.v_mem_range (hl.mono (Nat.le_of_lt_succ i.2))
  calc k + 1 = Module.finrank 𝕜 (span 𝕜 (Set.range fun i : Fin (k + 1) => (P i).v)) := by
        rw [finrank_span_eq_card hi, Fintype.card_fin]
    _ ≤ Module.finrank 𝕜 A.adjoint.range := finrank_mono hs
    _ = Module.finrank 𝕜 A.range := A.finrank_range_adjoint

/-! ### Krylov spaces -/

theorem normal_v_mem (hl : Live P k) : A.adjoint (A (P k).v) ∈ vSpan 𝕜 P (k + 2) := by
  have h := hP.lanczos k
  rw [map_sub, LinearMap.map_smul_of_tower, sub_eq_iff_eq_add] at h
  rw [h]
  have hv : (P k).v ∈ vSpan 𝕜 P (k + 2) := v_mem_vSpan (by omega)
  exact add_mem (add_mem (smul_of_tower_mem _ _ hv)
    (smul_of_tower_mem _ _ (v_mem_vSpan (Nat.lt_succ_self _))))
    (smul_of_tower_mem _ _ (vSpan_mono (Nat.le_succ _) (hP.adjoint_u_mem hl)))

/-- The product with `Aᴴ A` leads at most one step further. -/
theorem normal_mem (h : ∀ j < k, Live P j) {z : E} (hz : z ∈ vSpan 𝕜 P k) :
    A.adjoint (A z) ∈ vSpan 𝕜 P (k + 1) := by
  have hle : vSpan 𝕜 P k ≤ (vSpan 𝕜 P (k + 1)).comap (A.adjoint ∘ₗ A) := by
    refine vSpan_le ?_
    intro j hj
    exact vSpan_mono (by omega) (hP.normal_v_mem (h j hj))
  exact hle hz

omit [NormedSpace ℝ E] [FiniteDimensional 𝕜 E] hP in
theorem map_krylov (M : E →ₗ[𝕜] E) {g z : E} (hz : z ∈ krylov M g k) :
    M z ∈ krylov M g (k + 1) := by
  have hle : krylov M g k ≤ (krylov M g (k + 1)).comap M := by
    refine span_le.2 ?_
    rintro _ ⟨j, hj, rfl⟩
    exact subset_span ⟨j + 1, Nat.succ_lt_succ hj, by simp only [pow_succ', Module.End.mul_apply]⟩
  exact hle hz

theorem v_mem_krylov (hl : Live P k) :
    (P k).v ∈ krylov (A.adjoint ∘ₗ A) (A.adjoint r) (k + 1) := by
  -- Strong induction: a step brings in `Aᴴ u`, which lies in the span of all vectors before.
  induction k using Nat.strong_induction_on with
  | _ k ih =>
    cases k with
    | zero =>
      refine mem_of_real_smul_mem (mul_ne_zero (hl 0 le_rfl).1 (hl 0 le_rfl).2)
        (hP.adjoint_start ▸ ?_)
      exact subset_span ⟨0, Nat.zero_lt_one, by simp⟩
    | succ k =>
      have hl' := hl.mono (Nat.le_succ k)
      have hle : vSpan 𝕜 P (k + 1) ≤ krylov (A.adjoint ∘ₗ A) (A.adjoint r) (k + 2) := by
        refine vSpan_le ?_
        intro j hj
        exact span_mono (Set.image_mono (Set.Iio_subset_Iio (by omega)))
          (ih j hj (hl.mono hj.le))
      have h := hP.lanczos k
      rw [map_sub, LinearMap.map_smul_of_tower] at h
      refine mem_of_real_smul_mem (mul_ne_zero (hl _ le_rfl).1 (hl _ le_rfl).2) ?_
      rw [← sub_eq_iff_eq_add'.2 h]
      exact sub_mem (sub_mem (map_krylov _ (ih k (Nat.lt_succ_self k) hl'))
        (smul_of_tower_mem _ _ (hle (hP.adjoint_u_mem hl'))))
        (smul_of_tower_mem _ _ (hle (v_mem_vSpan (Nat.lt_succ_self k))))

/-- **The vectors `v` span the Krylov spaces.** -/
theorem vSpan_eq_krylov (hl : Live P k) :
    vSpan 𝕜 P (k + 1) = krylov (A.adjoint ∘ₗ A) (A.adjoint r) (k + 1) := by
  have hpow : ∀ j ≤ k, ((A.adjoint ∘ₗ A) ^ j) (A.adjoint r) ∈ vSpan 𝕜 P (j + 1) := by
    intro j
    induction j with
    | zero =>
      intro _
      rw [← hP.start_u, LinearMap.map_smul_of_tower]
      exact smul_of_tower_mem _ _ (hP.adjoint_u_mem (hl.mono (Nat.zero_le k)))
    | succ j ih =>
      intro hj
      rw [pow_succ']
      exact hP.normal_mem (fun i hi => hl.mono (by omega)) (ih (by omega))
  refine le_antisymm (vSpan_le ?_) (span_le.2 ?_)
  · intro j hj
    exact span_mono (Set.image_mono (Set.Iio_subset_Iio hj))
      (hP.v_mem_krylov (hl.mono (Nat.le_of_lt_succ hj)))
  · rintro _ ⟨j, hj, rfl⟩
    exact vSpan_mono hj (hpow j (Nat.le_of_lt_succ hj))

end Recurs

end Bidiagonal

end LeastSquares
