import LeastSquares.Arithmetic

/-!
# Chains of plane rotations

Each iteration folds the damping into the bidiagonal (`Q̂`), reduces the damped bidiagonal to an
upper bidiagonal `R` (`Q`), and reduces the transpose of `R` to `R̄` (`Q̄`). The state of the
rotations is threaded through the iterations; the values in between are kept for the estimates and
for the update of the solution.

* `PlaneRotation.ofPair`: the rotation that takes a pair to its length.
* `Rotation.initial`, `Rotation.advance`: the state before the first iteration and after one more.
* `Iterate.update`: the solution and its two directions, changed in place.
-/

namespace LeastSquares

open Arithmetic

/-- A plane rotation with cosine `c` and sine `s`, and the length `r` that it gives. -/
structure PlaneRotation (α : Type) where
  c : α
  s : α
  r : α

/-- What the two chains of rotations carry from one iteration to the next. -/
structure Rotation (α : Type) where
  alphabar : α
  rho : α
  rhobar : α
  cbar : α
  sbar : α
  zeta : α
  zetabar : α

/-- What one application of the rotations produces on the way. -/
structure RotationStep (α : Type) where
  chat : α
  shat : α
  c : α
  s : α
  rhoold : α
  rhobarold : α
  thetanew : α
  thetabar : α
  rhotemp : α
  zetaold : α

section

variable {α : Type} [Arithmetic α]

/-- **The rotation with `c * a + s * b = r` and `c ^ 2 + s ^ 2 = 1`.** A pair of zeros gives the
identity. -/
def PlaneRotation.ofPair (a b : α) : Except Fault (PlaneRotation α) :=
  let r := hypot a b
  if eq r 0 then .ok ⟨1, 0, 0⟩
  else do
    let c ← div a r
    let s ← div b r
    pure ⟨c, s, r⟩

/-- The state before the first iteration, from the first pair of the bidiagonal. -/
def Rotation.initial (alpha beta : α) : Rotation α :=
  ⟨alpha, 1, 1, 1, 0, 0, alpha * beta⟩

/-- **One application of `Q̂`, `Q` and `Q̄`** for the next pair of the bidiagonal. -/
def Rotation.advance (q : Rotation α) (alpha beta damp : α) :
    Except Fault (Rotation α × RotationStep α) := do
  let hat ← PlaneRotation.ofPair q.alphabar (← use damp)
  let turn ← PlaneRotation.ofPair hat.r beta
  let rho := turn.r
  let thetanew := turn.s * alpha
  let thetabar := q.sbar * rho
  let rhotemp := q.cbar * rho
  let bar ← PlaneRotation.ofPair rhotemp thetanew
  pure
    ({ alphabar := turn.c * alpha, rho := rho, rhobar := bar.r, cbar := bar.c, sbar := bar.s,
       zeta := bar.c * q.zetabar, zetabar := -bar.s * q.zetabar },
     { chat := hat.c, shat := hat.s, c := turn.c, s := turn.s, rhoold := q.rho,
       rhobarold := q.rhobar, thetanew := thetanew, thetabar := thetabar, rhotemp := rhotemp,
       zetaold := q.zeta })

end

/-- The solution and the two directions that change it. -/
structure Iterate (V : Type) where
  x : V
  h : V
  hbar : V

/-- **The update of the solution**, in place and in this order:
`hbar ← h - (thetabar * rho / (rhoold * rhobarold)) * hbar`,
`x ← x + (zeta / (rho * rhobar)) * hbar`,
`h ← v - (thetanew / rho) * h`.
A failure leaves behind what was changed before it. -/
def Iterate.update {α V : Type} [Arithmetic α] [Vectors α V] (q : Rotation α)
    (t : RotationStep α) (v : V) : EStateM Fault (Iterate V) Unit := do
  let a ← ofExcept (div (-t.thetabar * q.rho) (t.rhoold * t.rhobarold))
  let hbar ← ofExcept (Vectors.scale (← get).hbar a)
  modify fun w => { w with hbar := hbar }
  let hbar ← ofExcept (Vectors.add hbar (← get).h)
  modify fun w => { w with hbar := hbar }
  let b ← ofExcept (div q.zeta (q.rho * q.rhobar))
  let x ← ofExcept (Vectors.addScaled (← get).x b hbar)
  modify fun w => { w with x := x }
  let c ← ofExcept (div (-t.thetanew) q.rho)
  let h ← ofExcept (Vectors.scale (← get).h c)
  modify fun w => { w with h := h }
  let h ← ofExcept (Vectors.add h v)
  modify fun w => { w with h := h }

end LeastSquares
