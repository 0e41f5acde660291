/-!
# Doubles as exact numbers

A finite double is a signed integer times a power of two. Everything in the library that has to be
exact about doubles (their text, their truncation, the length of a pair, the rounding to a narrower
format) reads that integer and power, computes with whole numbers, and writes the result back.

* `Binary64.read`: what a double stands for.
* `Binary64.write`: the nearest double to `m * 2 ^ e`, a tie to the even one.
* `Binary64.ofInt`, `Binary64.ofFraction`: the nearest doubles to integers and fractions.
* `Binary64.narrow`: the nearest number of a format.
* `Binary64.hypot`: the length of a pair, rounded once.
* `Binary64.truncate`: the whole part.
-/

namespace LeastSquares

/-- The quotient `num / den` rounded to the nearest whole number, a tie to the even one. -/
def roundDiv (num den : Nat) : Nat :=
  let q := num / den
  let r := 2 * (num % den)
  if r < den then q else if den < r then q + 1 else q + q % 2

/-- What a number of some format stands for: no number, an infinity, or `± m * 2 ^ e`. -/
inductive Reading where
  | nan
  | infinite (negative : Bool)
  | finite (negative : Bool) (m : Nat) (e : Int)

/-- A binary format: numbers `m * 2 ^ e` with `m` of at most `precision` bits, `e` at least
`bottom`, and an absolute value below `2 ^ top`. -/
structure Format where
  precision : Nat
  bottom : Int
  top : Int

namespace Format

/-- The format of doubles. -/
def double : Format := ⟨53, -1074, 1024⟩

/-- The format of single precision numbers. -/
def single : Format := ⟨24, -149, 128⟩

/-- The format of half precision numbers. -/
def half : Format := ⟨11, -24, 16⟩

/-- **Rounding of `m * 2 ^ e` to a format**, to nearest and ties to even, as a multiple of the last
place that the format has there. The integer may come out as the next power of two. -/
def round (f : Format) (m : Nat) (e : Int) : Nat × Int :=
  if m = 0 then (0, f.bottom)
  else
    let shift : Int := max ((m.log2 : Int) + 1 - f.precision) (f.bottom - e)
    if shift ≤ 0 then (m * Nat.pow 2 (-shift).toNat, e + shift)
    else (roundDiv m (Nat.pow 2 shift.toNat), e + shift)

/-- A rounded number is out of range from `2 ^ top` on. -/
def isPast (f : Format) (r : Nat × Int) : Bool :=
  r.1 != 0 && decide (f.top ≤ (r.1.log2 : Int) + r.2)

end Format

namespace Binary64

/-- The infinite double. -/
def infinity : Float := Float.ofBits 0x7ff0000000000000

/-- The double that is no number. -/
def nan : Float := Float.ofBits 0x7ff8000000000000

/-- **What a double stands for**, read off its bits. -/
def read (x : Float) : Reading :=
  let bits := x.toBits.toNat
  let negative := decide (Nat.pow 2 63 ≤ bits)
  let exponent : Nat := bits / Nat.pow 2 52 % Nat.pow 2 11
  let fraction : Nat := bits % Nat.pow 2 52
  if exponent = 2047 then
    if fraction = 0 then .infinite negative else .nan
  else if exponent = 0 then .finite negative fraction (-1074)
  else .finite negative (fraction + Nat.pow 2 52) ((exponent : Int) - 1075)

/-- A nonnegative double with a sign. -/
def signed (negative : Bool) (x : Float) : Float := if negative then -x else x

/-- **The nearest double to `± m * 2 ^ e`.** The bits of a rounded `m * 2 ^ e` are
`(e + 1074) * 2 ^ 52 + m`: an integer with its leading bit in place carries into the exponent. -/
def write (negative : Bool) (m : Nat) (e : Int) : Float :=
  let r := Format.double.round m e
  signed negative
    (if Format.double.isPast r then infinity
     else Float.ofBits ((r.2 + 1074).toNat * Nat.pow 2 52 + r.1).toUInt64)

/-- **The nearest double to an integer.** One that is too large becomes infinite. -/
def ofInt (n : Int) : Float := write (decide (n < 0)) n.natAbs 0

/-- **The nearest double to `± num / den`.** The quotient is taken to 65 bits at least; one more bit
says whether anything was left over. -/
def ofFraction (negative : Bool) (num den : Nat) : Float :=
  let shift := 66 + den.log2 - num.log2
  let scaled := num * Nat.pow 2 shift
  write negative (2 * (scaled / den) + if scaled % den = 0 then 0 else 1) (-(shift : Int) - 1)

/-- **The nearest number of a format to an exact one**, as a double. What is out of range becomes
infinite. -/
def narrow (f : Format) : Reading → Float
  | .nan => nan
  | .infinite negative => signed negative infinity
  | .finite negative m e =>
    let r := f.round m e
    if f.isPast r then signed negative infinity else write negative r.1 r.2

/-- The whole part of a root, bit by bit from `2 ^ (bits - 1)` down. -/
def rootFrom (n : Nat) : Nat → Nat → Nat
  | 0, r => r
  | bits + 1, r =>
    let r' := r + Nat.pow 2 bits
    rootFrom n bits (if r' * r' ≤ n then r' else r)

/-- **The square root of `n * 2 ^ (2 * e)`**, rounded once. The integer is brought to 119 or 120
bits, and its whole root has 60. One bit more says whether anything was left over, in the cut or in
the root: with it the root rounds to 53 bits as the exact one does. -/
def rootOf (n : Nat) (e : Int) : Float :=
  let cut : Int := ((n.log2 : Int) - 118) / 2
  let m := n * Nat.pow 4 (-cut).toNat / Nat.pow 4 cut.toNat
  let r := rootFrom m 60 0
  let whole := decide (r * r = m ∧ n * Nat.pow 4 (-cut).toNat % Nat.pow 4 cut.toNat = 0)
  write false (2 * r + if whole then 0 else 1) (e + cut - 1)

/-- **The length of a pair.** It is infinite if one of the two is, whatever the other; it neither
overflows nor vanishes on the way. -/
def hypot (a b : Float) : Float :=
  match read a, read b with
  | .infinite _, _ => infinity
  | _, .infinite _ => infinity
  | .nan, _ => nan
  | _, .nan => nan
  | .finite _ m e, .finite _ n f =>
    let low := min e f
    rootOf (m * m * Nat.pow 4 (e - low).toNat + n * n * Nat.pow 4 (f - low).toNat) low

/-- The whole part of a finite number, towards zero. -/
def wholePart : Reading → Option Int
  | .finite negative m e =>
    let whole : Nat := if e < 0 then m / Nat.pow 2 (-e).toNat else m * Nat.pow 2 e.toNat
    some (if negative then -(whole : Int) else whole)
  | _ => none

/-- The whole part of a finite double. -/
def truncate (x : Float) : Option Int := wholePart (read x)

/-- The least integer that is not below a finite double. -/
def roundUp (x : Float) : Option Int :=
  (truncate x).map fun n => if ofInt n < x then n + 1 else n

end Binary64

end LeastSquares
