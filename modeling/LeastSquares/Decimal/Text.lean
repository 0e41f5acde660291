import LeastSquares.Decimal.Digits

/-!
# The text of a double

Ways of writing a double, all over the digits of `LeastSquares.Decimal.Digits`.

* `Decimal.scientific`: a set number of places after the point and an exponent, as in tables.
* `Decimal.shortest`: the fewest digits that read back, as in messages.
* `Fraction.fixed`, `Fraction.general`: a set number of places or of digits, as templates ask.

Exponents carry a sign and have two digits at least. The sign of a zero is written.
-/

namespace LeastSquares.Decimal

/-- A whole number in base ten, padded with zeros to a width. -/
def padded (width n : Nat) : String :=
  let s := Nat.repr n
  String.ofList (List.replicate (width - s.length) '0') ++ s

/-- An exponent: its sign and two digits at least. -/
def exponentText (e : Int) : String :=
  (if e < 0 then "e-" else "e+") ++ padded 2 e.natAbs

/-- The minus sign of a negative number. -/
def signText (negative : Bool) : String := if negative then "-" else ""

/-- The two sides of a point. The point is left out where nothing follows it, unless it is kept. -/
def pointed (kept : Bool) (front back : List Char) : String :=
  String.ofList front ++ (if back.isEmpty && !kept then "" else "." ++ String.ofList back)

/-- A finite double written by its absolute value, with the sign in front. -/
def withSign (write : Fraction → String) (x : Float) : String :=
  match Binary64.read x with
  | .nan => "nan"
  | .infinite negative => signText negative ++ "inf"
  | .finite negative m e => signText negative ++ write (.ofBinary m e)

/-- Digits with a point after the first one, and an exponent. -/
def Digits.scientific (kept : Bool) (d : Digits) : String :=
  let s := (padded d.count d.digits).toList
  pointed kept (s.take 1) (s.drop 1) ++ exponentText d.exponent

/-- **Scientific text** with a set number of places after the point. -/
def scientific (places : Nat) (x : Float) : String :=
  withSign (fun q => (digitsOf (places + 1) q).scientific false) x

/-- A fraction with a set number of places after the point. -/
def Fraction.fixed (kept : Bool) (places : Nat) (q : Fraction) : String :=
  let s := (padded (places + 1) (roundDiv (q.num * Nat.pow 10 places) q.den)).toList
  pointed kept (s.take (s.length - places)) (s.drop (s.length - places))

/-- The digits without the zeros at their end. -/
def Digits.trim (d : Digits) : Digits :=
  let kept := ((padded d.count d.digits).toList.reverse.dropWhile (· == '0')).reverse
  ⟨d.digits / Nat.pow 10 (d.count - kept.length), kept.length, d.exponent⟩

/-- Digits written without exponent; a whole number keeps one zero after its point. -/
def positional (d : Digits) : String :=
  let s := (padded d.count d.digits).toList
  if d.exponent < 0 then
    "0." ++ String.ofList (List.replicate (-d.exponent - 1).toNat '0' ++ s)
  else
    let whole := d.exponent.toNat + 1
    let front := s.take whole ++ List.replicate (whole - s.length) '0'
    let back := s.drop whole
    String.ofList front ++ "." ++ (if back.isEmpty then "0" else String.ofList back)

/-- A fraction by a set number of digits: with an exponent if it is too small or too large for them,
and without zeros at the end unless they are kept. -/
def Fraction.general (kept : Bool) (count : Nat) (q : Fraction) : String :=
  let d := digitsOf count q
  if -4 ≤ d.exponent ∧ d.exponent < count then
    let places := (count - 1 - d.exponent).toNat
    let s := (q.fixed true places).toList
    let front := s.takeWhile (· != '.')
    let back := (s.dropWhile (· != '.')).drop 1
    pointed kept front
      (if kept then back else (back.reverse.dropWhile (· == '0')).reverse)
  else if kept then d.scientific true
  else (if d.digits = 0 then d else d.trim).scientific false

/-- **The shortest text that reads back to the same double**: positional from `10 ^ (-4)` up to
below `10 ^ 16`, with an exponent outside. -/
def shortest (x : Float) : String :=
  match Binary64.read x with
  | .nan => "nan"
  | .infinite negative => signText negative ++ "inf"
  | .finite negative m e =>
    if m = 0 then signText negative ++ "0.0"
    else
      let d := (fewest x.abs (.ofBinary m e)).trim
      signText negative ++
        (if -4 ≤ d.exponent ∧ d.exponent < 16 then positional d
         else d.scientific false)

end LeastSquares.Decimal
