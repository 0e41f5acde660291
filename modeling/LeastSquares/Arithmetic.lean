import LeastSquares.Fault

/-!
# The arithmetic of a solve

The recurrences of a solve are written once, for any numbers with the operations below. Read over
floating point numbers they are the program; read over the reals they are its mathematics. Division,
squaring and the square root may fail; everything else returns a number.

* `Arithmetic`: the operations on scalars.
* `Vectors`: the operations on vectors, with scalars as coefficients.
* `Extended`: a scalar, or infinity where a denominator vanishes.
* `ToDouble`: numbers that an array of doubles takes.
* `larger`, `smaller`: of two numbers the first, unless the second is strictly on the better side.
-/

namespace LeastSquares

/-- **The operations on scalars.** Comparisons answer with truth values, so that a number which
compares with nothing needs no order. -/
class Arithmetic (α : Type) extends Zero α, One α, Add α, Sub α, Mul α, Neg α where
  /-- A natural number. -/
  ofNat : Nat → α
  /-- The absolute value. -/
  abs : α → α
  /-- The length of a pair. -/
  hypot : α → α → α
  /-- A number that a caller gave, at its first use. It fails if it is none of this type. -/
  use : α → Except Fault α
  /-- A quotient. -/
  div : α → α → Except Fault α
  /-- A square. -/
  square : α → Except Fault α
  /-- A square root. -/
  sqrt : α → Except Fault α
  /-- Strictly less. -/
  lt : α → α → Bool
  /-- Less or equal. -/
  le : α → α → Bool
  /-- Equal as numbers. -/
  eq : α → α → Bool
  /-- Not less than any number. -/
  isTop : α → Bool

/-- **The operations on vectors** with coefficients in `α`. Those that change a vector return what
stands in its place, in the type that the vector has. -/
class Vectors (α : outParam Type) (V : Type) where
  /-- A vector times a scalar. -/
  scale : V → α → Except Fault V
  /-- The sum with a vector. -/
  add : V → V → Except Fault V
  /-- The difference with a vector. -/
  sub : V → V → Except Fault V
  /-- The sum with a multiple of a vector. -/
  addScaled : V → α → V → Except Fault V
  /-- The entries of another vector in place of its own. -/
  assign : V → V → Except Fault V
  /-- The norm. -/
  norm : V → α

/-- A scalar, or infinity where a denominator vanishes. -/
inductive Extended (α : Type) where
  | finite (a : α)
  | infinite

/-- What becomes of an extended scalar if its numbers are converted. -/
def Extended.map {α β : Type} (f : α → β) : Extended α → Extended β
  | .finite a => .finite (f a)
  | .infinite => .infinite

/-- **Numbers that an array of doubles takes**, each as the nearest double. -/
class ToDouble (α : Type) where
  toDouble : α → Float

instance : ToDouble Float := ⟨id⟩

section

variable {α : Type} [Arithmetic α]

/-- **The larger of two numbers**, and the first one if they do not compare. -/
def larger (a b : α) : α := if Arithmetic.lt a b then b else a

/-- **The smaller of two numbers**, and the first one if they do not compare. -/
def smaller (a b : α) : α := if Arithmetic.lt b a then b else a

/-- Whether an extended scalar is at most a scalar. -/
def Extended.le (a : Extended α) (b : α) : Bool :=
  match a with
  | .finite a => Arithmetic.le a b
  | .infinite => Arithmetic.isTop b

/-- Whether an extended scalar is so small that it vanishes beside one. -/
def Extended.isNegligible (a : Extended α) : Bool :=
  match a with
  | .finite a => Arithmetic.le (1 + a) 1
  | .infinite => false

/-- The reciprocal; that of infinity is zero. -/
def Extended.reciprocal (a : Extended α) : Except Fault α :=
  match a with
  | .finite a => Arithmetic.div 1 a
  | .infinite => .ok 0

end

end LeastSquares
