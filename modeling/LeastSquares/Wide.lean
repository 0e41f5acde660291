import LeastSquares.Binary64

/-!
# Numbers of extended precision

Beyond doubles there are numbers with 64 bits and an exponent of 15. They add, multiply, divide and
have roots as all binary formats do: the exact result is rounded once. Every double is one of them,
and a number of theirs has a nearest double.

* `Wide`: a number of extended precision, by its bits.
* `Wide.unpack`, `Wide.pack`: what the bits stand for, and the bits of what fits the format.
* `Wide.ofDouble`, `Wide.ofInt`: the number that a double is, and the nearest one to an integer.
* `Wide.read`: the exact number, from which narrower formats are rounded.
-/

namespace LeastSquares

open Float.Model (UnpackedFloat)

/-- The format of extended precision. The leading one of the 64 bits is implied by the exponent. -/
abbrev Wide.format : Float.Model.Format where
  mantissaBitsWithoutImplicit := 63
  exponentBits := 15

/-- **A number of extended precision**, by its bits: the sign, the exponent, and what follows the
leading bit. -/
structure Wide where
  bits : BitVec Wide.format.numBits

namespace Wide

/-- What a number stands for. -/
def unpack (x : Wide) : UnpackedFloat := UnpackedFloat.unpack format x.bits

/-- The number that stands for what has been rounded to the format. -/
def pack (u : UnpackedFloat) : Wide := ⟨UnpackedFloat.pack format u⟩

instance : Add Wide where
  add x y := pack (UnpackedFloat.add format x.unpack y.unpack)

instance : Sub Wide where
  sub x y := pack (UnpackedFloat.sub format x.unpack y.unpack)

instance : Mul Wide where
  mul x y := pack (UnpackedFloat.mul format x.unpack y.unpack)

instance : Div Wide where
  div x y := pack (UnpackedFloat.div format x.unpack y.unpack)

instance : Neg Wide where
  neg x := pack x.unpack.neg

/-- The absolute value. -/
def abs (x : Wide) : Wide := pack x.unpack.abs

/-- The square root. -/
def sqrt (x : Wide) : Wide := pack (UnpackedFloat.sqrt format x.unpack)

/-- Strictly less. -/
def lt (x y : Wide) : Bool := x.unpack.lt y.unpack

/-- Less or equal. -/
def le (x y : Wide) : Bool := x.unpack.le y.unpack

/-- Equal as numbers. -/
def eq (x y : Wide) : Bool := x.unpack.beq y.unpack

/-- Whether a number is none. -/
def isNaN (x : Wide) : Bool := x.unpack.isNaN

/-- **The nearest number** to what stands in another format. -/
def nearest : UnpackedFloat → Wide
  | .finite s m e _ => pack (UnpackedFloat.round format s m e)
  | u => pack u

/-- The number that a double is. -/
def ofDouble (x : Float) : Wide := nearest x.toModel.unpack

/-- The nearest number to an integer. -/
def ofInt (n : Int) : Wide := pack (UnpackedFloat.ofInt format n)

/-- **The exact number.** -/
def read (x : Wide) : Reading :=
  match x.unpack with
  | .notANumber => .nan
  | .infinity s => .infinite (s == .negative)
  | .zero s => .finite (s == .negative) 0 0
  | .finite s m e _ => .finite (s == .negative) m e

end Wide

end LeastSquares
