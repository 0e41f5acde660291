import LeastSquares.Wide

/-!
# Numbers of any precision

A floating point number is known as a double, unless it is of extended precision. What two doubles
make is a double; as soon as one of two numbers is of extended precision, both are taken so. Formats
narrower than doubles have no numbers of their own: theirs are doubles that rounding does not change.

* `Number`: a double, or a number of extended precision.
* `Number.toWide`, `Number.toDouble`: the number as one of extended precision, and the nearest
  double.
* `Precision.round`: the nearest number of a precision.
-/

namespace LeastSquares

/-- **A floating point number.** -/
inductive Number where
  | double (x : Float)
  | extended (x : Wide)

namespace Number

instance : Coe Float Number := ⟨double⟩

/-- The number as one of extended precision. -/
def toWide : Number → Wide
  | double x => .ofDouble x
  | extended x => x

/-- The exact number. -/
def read : Number → Reading
  | double x => Binary64.read x
  | extended x => x.read

/-- **The nearest double.** -/
def toDouble : Number → Float
  | double x => x
  | extended x => Binary64.narrow .double x.read

/-- Where a double is wanted, a number is taken as the nearest one. -/
instance : Coe Number Float := ⟨toDouble⟩

/-- An operation on two numbers: that of doubles if both are, and otherwise that of extended
precision. -/
def combine (double : Float → Float → Float) (extended : Wide → Wide → Wide) :
    Number → Number → Number
  | .double x, .double y => .double (double x y)
  | a, b => .extended (extended a.toWide b.toWide)

instance : Add Number where
  add := combine (· + ·) (· + ·)

instance : Sub Number where
  sub := combine (· - ·) (· - ·)

instance : Mul Number where
  mul := combine (· * ·) (· * ·)

instance : Div Number where
  div := combine (· / ·) (· / ·)

instance : Neg Number where
  neg
    | .double x => .double (-x)
    | .extended x => .extended (-x)

/-- The absolute value. -/
def abs : Number → Number
  | .double x => .double x.abs
  | .extended x => .extended x.abs

/-- The square root, in the precision of the number. -/
def sqrt : Number → Number
  | .double x => .double x.sqrt
  | .extended x => .extended x.sqrt

/-- A comparison of two numbers: that of doubles if both are, and otherwise that of extended
precision. -/
def compare (double : Float → Float → Bool) (extended : Wide → Wide → Bool) :
    Number → Number → Bool
  | .double x, .double y => double x y
  | a, b => extended a.toWide b.toWide

/-- Strictly less. -/
def lt : Number → Number → Bool := compare (fun x y => decide (x < y)) Wide.lt

/-- Less or equal. -/
def le : Number → Number → Bool := compare (fun x y => decide (x ≤ y)) Wide.le

/-- Equal as numbers. -/
def eq : Number → Number → Bool := compare (fun x y => x == y) Wide.eq

/-- Whether a number is none. -/
def isNaN : Number → Bool
  | .double x => x.isNaN
  | .extended x => x.isNaN

/-- Whether a number is zero. -/
def isZero (a : Number) : Bool := a.eq (.double 0)

/-- The whole part of a finite number, towards zero. -/
def truncate (a : Number) : Option Int := Binary64.wholePart a.read

end Number

/-- The precision of a real type. -/
inductive Precision where
  | half
  | single
  | double
  | extended
  deriving DecidableEq

namespace Precision

/-- The number of bits. -/
def bits : Precision → Nat
  | .half => 16
  | .single => 32
  | .double => 64
  | .extended => 128

/-- The higher of two precisions. -/
def max (p q : Precision) : Precision := if p.bits < q.bits then q else p

/-- The precision in which sums of products are formed: half precision is not used for them. -/
def summing : Precision → Precision
  | .half => .single
  | p => p

/-- **The nearest number of a precision.** -/
def round : Precision → Number → Number
  | .half, a => .double (Binary64.narrow .half a.read)
  | .single, a => .double (Binary64.narrow .single a.read)
  | .double, a => .double a.toDouble
  | .extended, a => .extended a.toWide

/-- The nearest number of a precision to an integer; one of at most double precision is rounded from
the nearest double. -/
def ofInt (p : Precision) (n : Int) : Number :=
  match p with
  | .extended => .extended (.ofInt n)
  | p => p.round (.double (Binary64.ofInt n))

end Precision

end LeastSquares
