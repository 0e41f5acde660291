import LeastSquares.Arithmetic

/-!
# The bidiagonalization process

From a right-hand side and a starting point the process makes two sequences of unit vectors, one
pair of scalars per step:
`beta' * u' = A v - alpha * u` and `alpha' * v' = Aᴴ u' - beta' * v`.
Only the current vectors are stored, and both are changed in place. When `beta` vanishes the adjoint
half of the step is left out, and `v` and `alpha` keep their values.

* `LinearOperator`: products with an operator and its adjoint.
* `Bidiagonal.start`, `Bidiagonal.step`: the first pair and every further one.
-/

namespace LeastSquares

open Arithmetic

/-- An operator, known by its products alone. -/
structure LinearOperator (V U : Type) where
  /-- The product with the operator. -/
  apply : V → Except Fault U
  /-- The product with its adjoint. -/
  adjoint : U → Except Fault V

/-- Numbers of products with an operator and with its adjoint. -/
structure Tally where
  forward : Nat
  adjoint : Nat
  deriving DecidableEq

namespace Tally

/-- No product. -/
def zero : Tally := ⟨0, 0⟩

/-- One more product with the operator. -/
def addForward (t : Tally) : Tally := { t with forward := t.forward + 1 }

/-- One more product with the adjoint. -/
def addAdjoint (t : Tally) : Tally := { t with adjoint := t.adjoint + 1 }

end Tally

/-- The state of the process. The products that it counts are those that have changed a vector;
those that it has asked for are counted apart. -/
structure Bidiagonal (α U V : Type) where
  u : U
  v : V
  alpha : α
  beta : α
  counted : Tally
  asked : Tally

namespace Bidiagonal

variable {α U V : Type} [Arithmetic α] [Vectors α U] [Vectors α V]

/-- The state before the start, from the right-hand side and a vector of zeros. -/
def initial (b : U) (zero : V) : Bidiagonal α U V := ⟨b, zero, 0, 0, .zero, .zero⟩

/-- A vector divided by its norm, if that is positive. -/
def normalize {W : Type} [Vectors α W] (w : W) (norm : α) : Except Fault W :=
  if lt 0 norm then do Vectors.scale w (← div 1 norm) else pure w

/-- A product with the operator. -/
def forward (A : LinearOperator V U) (x : V) : EStateM Fault (Bidiagonal α U V) U := do
  modify fun p => { p with asked := p.asked.addForward }
  ofExcept (A.apply x)

/-- A product of the adjoint with the current `u`. -/
def backward (A : LinearOperator V U) : EStateM Fault (Bidiagonal α U V) V := do
  modify fun p => { p with asked := p.asked.addAdjoint }
  ofExcept (A.adjoint (← get).u)

/-- Takes a new `u` and makes it a unit vector, with its norm as `beta`. -/
def takeU (u : U) : EStateM Fault (Bidiagonal α U V) Unit := do
  modify fun p =>
    { p with u := u, counted := p.counted.addForward, beta := Vectors.norm u }
  let u ← ofExcept (normalize u (← get).beta)
  modify fun p => { p with u := u }

/-- Takes a new `v` and makes it a unit vector, with its norm as `alpha`. -/
def takeV (v : V) : EStateM Fault (Bidiagonal α U V) Unit := do
  modify fun p =>
    { p with v := v, counted := p.counted.addAdjoint, alpha := Vectors.norm v }
  let v ← ofExcept (normalize v (← get).alpha)
  modify fun p => { p with v := v }

/-- **The start**: `beta * u = b - A x` and `alpha * v = Aᴴ u`. The adjoint product is made even if
`beta` vanishes. -/
def start (A : LinearOperator V U) (x : V) : EStateM Fault (Bidiagonal α U V) Unit := do
  let y ← forward A x
  takeU (← ofExcept (Vectors.sub (← get).u y))
  let z ← backward A
  takeV (← ofExcept (Vectors.assign (← get).v z))

/-- **One step.** -/
def step (A : LinearOperator V U) : EStateM Fault (Bidiagonal α U V) Unit := do
  let u ← ofExcept (Vectors.scale (← get).u (-(← get).alpha))
  modify fun p => { p with u := u }
  let y ← forward A (← get).v
  takeU (← ofExcept (Vectors.add u y))
  if lt 0 (← get).beta then
    let v ← ofExcept (Vectors.scale (← get).v (-(← get).beta))
    modify fun p => { p with v := v }
    let z ← backward A
    takeV (← ofExcept (Vectors.add v z))

end Bidiagonal

end LeastSquares
