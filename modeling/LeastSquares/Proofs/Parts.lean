import LeastSquares.Proofs.Plane
import LeastSquares.Proofs.Rotations

/-!
# Three orthogonal parts of a residual

The estimate of a residual is the norm of a sum of three orthogonal parts: what is settled for good
(its squared norm is `d`), what is in the lagged chain (of length `gap`), and what lies along the
last vector of the process (of length `betadd`). Here are the directions of the parts, and what one
iteration does to them, in any inner product space.

* `Parts.next`: the directions after one more iteration.
* `Parts.next_sum`: **an iteration splits the same residual anew.**
* `Parts.next_orthogonal`: **the parts stay orthogonal.**
-/

namespace LeastSquares

/-- **The three directions** of a residual: along the last vector of the process, in the lagged
chain, and the sum of what is settled. -/
structure Parts (W : Type) where
  last : W
  lagged : W
  settled : W

namespace Parts

variable {𝕜 W : Type} [RCLike 𝕜] [NormedAddCommGroup W] [InnerProductSpace 𝕜 W] [NormedSpace ℝ W]
  (p : Parts W) (e : ResidualEstimate ℝ) (t : RotationStep ℝ) (v w : W)

/-- The last direction with the damping folded in. -/
noncomputable def folded : W := t.chat • p.last + t.shat • v

/-- The direction that one more iteration splits off for good. -/
noncomputable def split : W := -t.shat • p.last + t.chat • v

/-- The direction that one more iteration hands over to the lagged chain. -/
noncomputable def turned : W := t.c • p.folded t v + t.s • w

/-- The directions after one more iteration, which comes with the two vectors `v` and `w`. -/
noncomputable def next : Parts W where
  last := -t.s • p.folded t v + t.c • w
  lagged := -(e.tilde t).s • p.lagged + (e.tilde t).c • p.turned t v w
  settled := p.settled + (-t.shat * e.betadd) • p.split t v

/-- The parts are orthogonal to each other. -/
structure Orthogonal (𝕜 : Type) [RCLike 𝕜] [InnerProductSpace 𝕜 W] (p : Parts W) : Prop where
  lagged_last : inner 𝕜 p.lagged p.last = 0
  settled_last : inner 𝕜 p.settled p.last = 0
  settled_lagged : inner 𝕜 p.settled p.lagged = 0

/-- A vector that is orthogonal to all parts. -/
structure Avoids (𝕜 : Type) [RCLike 𝕜] [InnerProductSpace 𝕜 W] (p : Parts W) (z : W) : Prop where
  last : inner 𝕜 p.last z = 0
  lagged : inner 𝕜 p.lagged z = 0
  settled : inner 𝕜 p.settled z = 0

/-- All parts lie in a subspace. -/
structure Within (p : Parts W) (K : Submodule 𝕜 W) : Prop where
  last : p.last ∈ K
  lagged : p.lagged ∈ K
  settled : p.settled ∈ K

variable {p t v w}

omit [NormedSpace ℝ W] in
theorem Within.mono {K L : Submodule 𝕜 W} (h : p.Within K) (hle : K ≤ L) : p.Within L :=
  ⟨hle h.last, hle h.lagged, hle h.settled⟩

/-- The next parts lie in any subspace that has room for the two vectors. -/
theorem Within.next {K : Submodule 𝕜 W} (h : p.Within K) (hv : v ∈ K) (hw : w ∈ K) :
    (p.next e t v w).Within K := by
  have hmem {y z : W} (hy : y ∈ K) (hz : z ∈ K) (a c : ℝ) : a • y + c • z ∈ K :=
    add_mem (K.smul_of_tower_mem a hy) (K.smul_of_tower_mem c hz)
  have hfolded : p.folded t v ∈ K := hmem h.last hv _ _
  exact ⟨hmem hfolded hw _ _, hmem h.lagged (hmem hfolded hw _ _) _ _,
    add_mem h.settled (K.smul_of_tower_mem _ (hmem h.last hv _ _))⟩

/-- **One more iteration splits the residual anew**, if the entry that leaves the lagged chain is
the same on both sides. -/
theorem next_sum {g : ℝ} (hat : t.chat ^ 2 + t.shat ^ 2 = 1) (fold : t.c ^ 2 + t.s ^ 2 = 1)
    (settle : (e.tilde t).c * g + (e.tilde t).s * e.betahat t = 0) (r : Rotation ℝ) :
    g • p.lagged + p.settled + e.betadd • p.last =
      (-(e.tilde t).s * g + (e.tilde t).c * e.betahat t) • (p.next e t v w).lagged +
        (p.next e t v w).settled + (e.next t r).betadd • (p.next e t v w).last := by
  have hunit := e.tilde_unit t
  -- The settled entry is zero, so turning the pair of entries back is a factor on each.
  have h1 : (-(e.tilde t).s * g + (e.tilde t).c * e.betahat t) * -(e.tilde t).s = g := by
    linear_combination g * hunit - (e.tilde t).c * settle
  have h2 : (-(e.tilde t).s * g + (e.tilde t).c * e.betahat t) * (e.tilde t).c = e.betahat t := by
    linear_combination e.betahat t * hunit - (e.tilde t).s * settle
  have hlagged : (-(e.tilde t).s * g + (e.tilde t).c * e.betahat t) • (p.next e t v w).lagged =
      g • p.lagged + e.betahat t • p.turned t v w := by
    rw [next, smul_add, smul_smul, smul_smul, h1, h2]
  have hfolded : e.betahat t • p.turned t v w + (e.next t r).betadd • (p.next e t v w).last =
      (t.chat * e.betadd) • p.folded t v := by
    have hb : (e.next t r).betadd = -t.s * (t.chat * e.betadd) := rfl
    calc _ = (t.chat * e.betadd * (t.c ^ 2 + t.s ^ 2)) • p.folded t v := by
          rw [hb, ResidualEstimate.betahat, turned, next]; module
      _ = _ := by rw [fold, mul_one]
  have hlast : (t.chat * e.betadd) • p.folded t v + (-t.shat * e.betadd) • p.split t v =
      e.betadd • p.last := by
    calc _ = (e.betadd * (t.chat ^ 2 + t.shat ^ 2)) • p.last := by rw [folded, split]; module
      _ = _ := by rw [hat, mul_one]
  have hsettled : (p.next e t v w).settled =
      p.settled + (-t.shat * e.betadd) • p.split t v := rfl
  rw [hlagged, hsettled, ← hlast, ← hfolded]
  abel

omit e in
/-- **The norm of a residual** of which the parts are known. -/
theorem norm_sum_sq (hp : p.Orthogonal 𝕜) {g d : ℝ} (hlast : ‖p.last‖ = 1 ∨ d = 0)
    (hlag : ‖p.lagged‖ = 1 ∨ g = 0) :
    ‖g • p.lagged + p.settled + d • p.last‖ ^ 2 = ‖p.settled‖ ^ 2 + g ^ 2 + d ^ 2 := by
  have h1 : inner 𝕜 (g • p.lagged) p.settled = 0 := by
    rw [inner_real_smul_left, inner_eq_zero_symm.1 hp.settled_lagged, mul_zero]
  have h2 : inner 𝕜 (g • p.lagged + p.settled) (d • p.last) = 0 := by
    rw [inner_real_smul_right, inner_add_left, inner_real_smul_left, hp.lagged_last,
      hp.settled_last, mul_zero, add_zero, mul_zero]
  rw [norm_add_of_orthogonal h2, norm_add_of_orthogonal h1, norm_smul_sq hlast, norm_smul_sq hlag]
  ring

/-- **The two vectors of an iteration are new** to the parts so far. The second one vanishes only
where the rotation leaves it out. -/
structure Fresh (𝕜 : Type) [RCLike 𝕜] [InnerProductSpace 𝕜 W] (p : Parts W) (t : RotationStep ℝ)
    (v w : W) : Prop where
  norm_last : ‖p.last‖ = 1
  norm_v : ‖v‖ = 1
  norm_w : ‖w‖ = 1 ∨ t.s = 0
  avoids_v : p.Avoids 𝕜 v
  avoids_w : p.Avoids 𝕜 w
  inner_v_w : inner 𝕜 v w = 0
  hat : t.chat ^ 2 + t.shat ^ 2 = 1
  fold : t.c ^ 2 + t.s ^ 2 = 1

section

variable (h : p.Fresh 𝕜 t v w)

include h

theorem norm_folded : ‖p.folded t v‖ = 1 :=
  norm_turned (.inl h.norm_last) (.inl h.norm_v) h.avoids_v.last h.hat

theorem norm_split : ‖p.split t v‖ = 1 :=
  norm_turned (.inl h.norm_last) (.inl h.norm_v) h.avoids_v.last (by linear_combination h.hat)

theorem inner_folded_w : inner 𝕜 (p.folded t v) w = 0 := by
  rw [folded, inner_add_left, inner_real_smul_left, inner_real_smul_left, h.avoids_w.last,
    h.inner_v_w, mul_zero, mul_zero, add_zero]

theorem inner_split_w : inner 𝕜 (p.split t v) w = 0 := by
  rw [split, inner_add_left, inner_real_smul_left, inner_real_smul_left, h.avoids_w.last,
    h.inner_v_w, mul_zero, mul_zero, add_zero]

theorem norm_turned_eq : ‖p.turned t v w‖ = 1 :=
  norm_turned (.inl (norm_folded h)) h.norm_w (inner_folded_w h) h.fold

theorem norm_next_last (hw : ‖w‖ = 1) : ‖(p.next e t v w).last‖ = 1 :=
  norm_turned (.inl (norm_folded h)) (.inl hw) (inner_folded_w h) (by linear_combination h.fold)

omit h in
/-- What avoids the last direction avoids the folded one. -/
theorem inner_folded {z : W} (hz : inner 𝕜 z p.last = 0) (hzv : inner 𝕜 z v = 0) :
    inner 𝕜 z (p.folded t v) = 0 := inner_combination hz hzv _ _

theorem inner_split_folded : inner 𝕜 (p.split t v) (p.folded t v) = 0 :=
  inner_eq_zero_symm.1 (inner_turned h.norm_last (.inl h.norm_v) h.avoids_v.last)

theorem inner_split_turned : inner 𝕜 (p.split t v) (p.turned t v w) = 0 :=
  inner_combination (inner_split_folded h) (inner_split_w h) _ _

theorem inner_split_next_last : inner 𝕜 (p.split t v) (p.next e t v w).last = 0 :=
  inner_combination (inner_split_folded h) (inner_split_w h) _ _

variable (hp : p.Orthogonal 𝕜)

include hp

theorem inner_lagged_turned : inner 𝕜 p.lagged (p.turned t v w) = 0 :=
  inner_combination (inner_folded hp.lagged_last h.avoids_v.lagged) h.avoids_w.lagged _ _

theorem norm_next_lagged (hlag : ‖p.lagged‖ = 1 ∨ (e.tilde t).s = 0) :
    ‖(p.next e t v w).lagged‖ = 1 :=
  norm_turned (hlag.imp_right neg_eq_zero.2) (.inl (norm_turned_eq h)) (inner_lagged_turned h hp)
    (by linear_combination e.tilde_unit t)

theorem norm_next_settled : ‖(p.next e t v w).settled‖ ^ 2 =
    ‖p.settled‖ ^ 2 + (-t.shat * e.betadd) ^ 2 := by
  have ho : inner 𝕜 p.settled ((-t.shat * e.betadd) • p.split t v) = 0 := by
    rw [inner_real_smul_right, split, inner_combination hp.settled_last h.avoids_v.settled,
      mul_zero]
  have hsettled : (p.next e t v w).settled =
      p.settled + (-t.shat * e.betadd) • p.split t v := rfl
  rw [hsettled, norm_add_of_orthogonal ho, norm_smul_sq (.inl (norm_split h))]

/-- **The parts stay orthogonal.** -/
theorem next_orthogonal : (p.next e t v w).Orthogonal 𝕜 := by
  have hturn : inner 𝕜 (p.next e t v w).last (p.turned t v w) = 0 :=
    inner_eq_zero_symm.1 (inner_turned (norm_folded h) h.norm_w (inner_folded_w h))
  have hlast : inner 𝕜 (p.next e t v w).last p.lagged = 0 := inner_eq_zero_symm.1
    (inner_combination (inner_folded hp.lagged_last h.avoids_v.lagged) h.avoids_w.lagged _ _)
  have hsplit : inner 𝕜 (p.split t v) p.lagged = 0 :=
    inner_eq_zero_symm.1 (inner_combination hp.lagged_last h.avoids_v.lagged _ _)
  have hfolded : inner 𝕜 p.settled (p.folded t v) = 0 :=
    inner_folded hp.settled_last h.avoids_v.settled
  have hsettled : (p.next e t v w).settled =
      p.settled + (-t.shat * e.betadd) • p.split t v := rfl
  refine ⟨inner_eq_zero_symm.1 (inner_combination hlast hturn _ _), ?_, ?_⟩
  · have h1 : inner 𝕜 p.settled (p.next e t v w).last = 0 :=
      inner_combination hfolded h.avoids_w.settled _ _
    rw [hsettled, inner_add_left, inner_real_smul_left, h1, inner_split_next_last e h, mul_zero,
      add_zero]
  · have h1 : inner 𝕜 p.settled (p.next e t v w).lagged = 0 :=
      inner_combination hp.settled_lagged (inner_combination hfolded h.avoids_w.settled _ _) _ _
    have h2 : inner 𝕜 (p.split t v) (p.next e t v w).lagged = 0 :=
      inner_combination hsplit (inner_split_turned h) _ _
    rw [hsettled, inner_add_left, inner_real_smul_left, h1, h2, mul_zero, add_zero]

end

end Parts

end LeastSquares
