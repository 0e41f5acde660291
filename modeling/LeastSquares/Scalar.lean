import LeastSquares.Arithmetic

/-!
# Checked and unchecked numbers

Floating point numbers come in two kinds. A checked number is a double that fails where its
operation has no value in range: at a division by zero, at a square that overflows. An unchecked one
goes on with an infinity or with what is no number, in the precision of its origin. An operation on
two numbers is checked only if both are; lengths, roots and constants are always checked, and so
taken of doubles.

* `FloatingPoint`: the operations of a format, which always return a number.
* `Scalar`: a number with its kind.
* The instance `Arithmetic (Scalar F)`: how kinds combine.
-/

namespace LeastSquares

/-- **The operations of a floating point format.** They always return a number. -/
class FloatingPoint (F : Type) where
  ofNat : Nat → F
  add : F → F → F
  sub : F → F → F
  mul : F → F → F
  div : F → F → F
  neg : F → F
  abs : F → F
  hypot : F → F → F
  sqrt : F → F
  lt : F → F → Bool
  le : F → F → Bool
  eq : F → F → Bool
  /-- Whether a number is the positive infinity. -/
  isInfinity : F → Bool
  /-- The nearest number of a precision. -/
  round : Precision → F → F

/-- Numbers of any precision. Lengths and roots are those of the nearest doubles. -/
instance : FloatingPoint Number where
  ofNat n := .double (Float.ofNat n)
  add := (· + ·)
  sub := (· - ·)
  mul := (· * ·)
  div := (· / ·)
  neg := (- ·)
  abs := Number.abs
  hypot a b := .double (Binary64.hypot a.toDouble b.toDouble)
  sqrt a := .double a.toDouble.sqrt
  lt := Number.lt
  le := Number.le
  eq := Number.eq
  isInfinity a := a.eq (.double Binary64.infinity)
  round := Precision.round

/-- Whether a number is checked, or unchecked and of a precision. An oversized one stands for an
integer that no double can hold, and fails at its first use. -/
inductive Kind where
  | checked
  | unchecked (p : Precision)
  | oversized
  deriving DecidableEq

/-- The kind of a result: checked if both operands are, and otherwise of the higher precision among
the unchecked ones. -/
def Kind.join : Kind → Kind → Kind
  | .checked, k => k
  | k, .checked => k
  | .unchecked p, .unchecked q => .unchecked (p.max q)
  | _, _ => .oversized

/-- The precision of a kind: checked numbers are doubles. -/
def Kind.precision : Kind → Precision
  | .unchecked p => p
  | .checked | .oversized => .double

/-- A floating point number with its kind. -/
structure Scalar (F : Type) where
  value : F
  kind : Kind

namespace Scalar

variable {F : Type} [FloatingPoint F]

/-- A checked number. -/
def checked (x : F) : Scalar F := ⟨x, .checked⟩

/-- An unchecked number of a precision. -/
def unchecked (p : Precision) (x : F) : Scalar F := ⟨x, .unchecked p⟩

/-- Rounds to the precision of a kind. -/
def fit (k : Kind) (x : F) : F := FloatingPoint.round k.precision x

/-- The number as a checked one: the nearest double. -/
def plain (a : Scalar F) : F := FloatingPoint.round .double a.value

/-- An operation on two numbers, in the kind of the result. -/
def combine (op : F → F → F) (a b : Scalar F) : Scalar F :=
  let k := a.kind.join b.kind
  ⟨fit k (op (fit k a.value) (fit k b.value)), k⟩

/-- A number is zero. -/
def isZero (a : Scalar F) : Bool := FloatingPoint.eq a.value (FloatingPoint.ofNat 0)

/-- **The quotient**; a checked one by zero fails. -/
def div (a b : Scalar F) : Except Fault (Scalar F) :=
  if a.kind.join b.kind = .checked && b.isZero then .error .divisionByZero
  else .ok (combine FloatingPoint.div a b)

/-- **The square**; a checked one that overflows fails. -/
def square (a : Scalar F) : Except Fault (Scalar F) :=
  let b := combine FloatingPoint.mul a a
  if a.kind = .checked && FloatingPoint.isInfinity b.value &&
      !FloatingPoint.isInfinity (FloatingPoint.abs a.value) then .error .overflow
  else .ok b

/-- **The square root**, a checked number; that of a negative double fails. -/
def sqrt (a : Scalar F) : Except Fault (Scalar F) :=
  if FloatingPoint.lt a.plain (FloatingPoint.ofNat 0) then .error .outsideDomain
  else .ok (checked (FloatingPoint.sqrt a.plain))

/-- **A number at its first use**; an oversized one fails. -/
def use (a : Scalar F) : Except Fault (Scalar F) :=
  if a.kind = .oversized then .error .integerTooLarge else .ok a

end Scalar

/-- Checked and unchecked numbers. -/
instance {F : Type} [FloatingPoint F] : Arithmetic (Scalar F) where
  zero := Scalar.checked (FloatingPoint.ofNat 0)
  one := Scalar.checked (FloatingPoint.ofNat 1)
  add := Scalar.combine FloatingPoint.add
  sub := Scalar.combine FloatingPoint.sub
  mul := Scalar.combine FloatingPoint.mul
  neg a := ⟨FloatingPoint.neg a.value, a.kind⟩
  ofNat n := Scalar.checked (FloatingPoint.ofNat n)
  abs a := ⟨FloatingPoint.abs a.value, a.kind⟩
  hypot a b := Scalar.checked (FloatingPoint.hypot a.plain b.plain)
  use := Scalar.use
  div := Scalar.div
  square := Scalar.square
  sqrt := Scalar.sqrt
  lt a b := FloatingPoint.lt a.value b.value
  le a b := FloatingPoint.le a.value b.value
  eq a b := FloatingPoint.eq a.value b.value
  isTop a := FloatingPoint.isInfinity a.value

/-- The numbers of a solve: those of any precision, with their kinds. -/
abbrev Double := Scalar Number

/-- In an array of doubles a number becomes the nearest one. -/
instance : ToDouble Double := ⟨fun a => a.value.toDouble⟩

namespace Double

/-- A number from a caller's option or a constant. -/
def ofFloat (x : Float) : Double := Scalar.checked x

/-- An integer that no double can hold. -/
def oversized : Double := ⟨Binary64.infinity, .oversized⟩

/-- The number that a value of any kind stands for. -/
def ofValue (v : Value) : Double :=
  match v with
  | .integer n =>
    let x := Binary64.ofInt n
    if x.isInf then oversized else ofFloat x
  | v => ofFloat v.toFloat

/-- The number that an extended one is; the infinite one is a double. -/
def numberOf (a : Extended Double) : Number :=
  match a with
  | .finite a => a.value
  | .infinite => Binary64.infinity

/-- The nearest double to an extended number. -/
def valueOf (a : Extended Double) : Float := numberOf a

end Double

end LeastSquares
