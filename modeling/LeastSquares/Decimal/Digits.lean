import LeastSquares.Binary64

/-!
# Decimal digits of a positive number

Digits are chosen by whole numbers alone: a double is a fraction of whole numbers, and so is each
point of a decimal grid.

* `Decimal.magnitude`: the exponent of the leading digit.
* `Decimal.nearest`: a set number of digits, rounded once.
* `Decimal.nearestDouble`: the double that digits and an exponent read as.
* `Decimal.fewest`: the fewest digits that read back to the same double.
-/

namespace LeastSquares.Decimal

/-- A positive decimal: the digits as a whole number of `count` digits, the leading one at
`10 ^ exponent`. -/
structure Digits where
  digits : Nat
  count : Nat
  exponent : Int

/-- A positive fraction. -/
structure Fraction where
  num : Nat
  den : Nat

/-- The fraction `m * 2 ^ e`. -/
def Fraction.ofBinary (m : Nat) (e : Int) : Fraction :=
  if e < 0 then ⟨m, Nat.pow 2 (-e).toNat⟩ else ⟨m * Nat.pow 2 e.toNat, 1⟩

/-- The fraction times a power of ten. -/
def Fraction.shift (q : Fraction) (k : Int) : Fraction :=
  if k < 0 then ⟨q.num, q.den * Nat.pow 10 (-k).toNat⟩ else ⟨q.num * Nat.pow 10 k.toNat, q.den⟩

/-- The fraction is at least one. -/
def Fraction.atLeastOne (q : Fraction) : Bool := decide (q.den ≤ q.num)

/-- **The exponent `k` with `10 ^ k ≤ q < 10 ^ (k + 1)`.** The binary logarithms of the two parts
give it up to one either way. -/
def magnitude (q : Fraction) : Int :=
  let k : Int := (((q.num.log2 : Int) - q.den.log2 + 1) * 30103) / 100000
  if (q.shift (-(k + 1))).atLeastOne then k + 1
  else if (q.shift (-k)).atLeastOne then k
  else if (q.shift (-(k - 1))).atLeastOne then k - 1
  else k - 2

/-- **A set number of digits**, rounded to nearest and ties to even. Rounding up to the next power
of ten moves the leading digit. -/
def nearest (count : Nat) (q : Fraction) : Digits :=
  let k := magnitude q
  let scaled := q.shift ((count : Int) - 1 - k)
  let digits := roundDiv scaled.num scaled.den
  if digits = Nat.pow 10 count then ⟨Nat.pow 10 (count - 1), count, k + 1⟩
  else ⟨digits, count, k⟩

/-- The digits of a fraction that may be zero. -/
def digitsOf (count : Nat) (q : Fraction) : Digits :=
  if q.num = 0 then ⟨0, count, 0⟩ else nearest count q

/-- **The double nearest to `± digits * 10 ^ exponent`.** What lies far beyond the largest double or
below the least one is not computed. -/
def nearestDouble (negative : Bool) (digits : Nat) (exponent : Int) : Float :=
  let top := (Nat.repr digits).length + exponent
  if digits = 0 ∨ top < -330 then Binary64.signed negative 0
  else if 310 < top then Binary64.signed negative Binary64.infinity
  else if exponent < 0 then
    Binary64.ofFraction negative digits (Nat.pow 10 (-exponent).toNat)
  else Binary64.write negative (digits * Nat.pow 10 exponent.toNat) 0

/-- The double that a decimal reads as. -/
def Digits.toFloat (d : Digits) : Float :=
  nearestDouble false d.digits (d.exponent - (d.count - 1 : Nat))

/-- The point of the grid of `count` digits next below or next above the fraction that reads back
to `x`; of two such points the nearer one. -/
def readingBack (x : Float) (q : Fraction) (count : Nat) : Option Digits :=
  let k := magnitude q
  let scaled := q.shift ((count : Int) - 1 - k)
  let low := scaled.num / scaled.den
  let below : Digits := ⟨low, count, k⟩
  let above : Digits :=
    if low + 1 = Nat.pow 10 count then ⟨Nat.pow 10 (count - 1), count, k + 1⟩
    else ⟨low + 1, count, k⟩
  match below.toFloat == x, above.toFloat == x with
  | true, true => some (if roundDiv scaled.num scaled.den = low then below else above)
  | true, false => some below
  | false, true => some above
  | false, false => none

/-- **The fewest digits that read back to `x`**, given as the fraction `q`. Seventeen are enough for
every double. -/
def fewest (x : Float) (q : Fraction) : Digits :=
  ((List.range 16).findSome? fun i => readingBack x q (i + 1)).getD (nearest 17 q)

end LeastSquares.Decimal
