import LeastSquares.Decimal.Digits
import LeastSquares.Text.Numeral

/-!
# Numbers written as text

Blanks may stand around a number, single underscores between its digits, and the digits may be those
of any script. An integer is digits after an optional sign. A decimal may also have a point, with
digits on one side of it at least, and an exponent; infinity and what is no number are written in
words.

* `Decimal.integer?`: the integer that a text writes.
* `Decimal.digitCount`: the number of digits that it is written with.
* `Decimal.double?`: the double that a text writes, rounded once.
-/

namespace LeastSquares.Decimal

/-- The number that plain digits write. -/
def ofDigits (digits : List Char) : Nat := digits.foldl (fun n c => 10 * n + (c.toNat - 48)) 0

/-- A digit of any script as a plain one. -/
def plainDigit (c : Char) : Char :=
  match Text.digitValue? c with
  | some d => Char.ofNat (48 + d)
  | none => c

/-- A text without the blanks around it, its digits made plain. -/
def trimmed (s : String) : List Char :=
  ((s.toList.dropWhile Text.isBlank).reverse.dropWhile Text.isBlank).reverse.map plainDigit

/-- A text without its underscores, each of which must stand between two digits. -/
def ungrouped? (afterDigit : Bool) : List Char → Option (List Char)
  | [] => some []
  | '_' :: c :: rest =>
    if afterDigit && c.isDigit then (ungrouped? true rest).map (c :: ·) else none
  | c :: rest => if c = '_' then none else (ungrouped? c.isDigit rest).map (c :: ·)

/-- Whether a text begins with a minus, and what follows its sign. -/
def splitSign (cs : List Char) : Bool × List Char :=
  match cs with
  | '-' :: rest => (true, rest)
  | '+' :: rest => (false, rest)
  | _ => (false, cs)

/-- The integer of digits after an optional sign. -/
def signedDigits? (cs : List Char) : Option Int :=
  let (negative, digits) := splitSign cs
  if digits.isEmpty || !digits.all Char.isDigit then none
  else some (if negative then -(ofDigits digits : Int) else ofDigits digits)

/-- The number of digits that a text begins with, single underscores between them left out; none
count if one of the underscores does not stand after a digit, or ends them. -/
def leadingDigits (afterDigit : Bool) (count : Nat) : List Char → Nat
  | '_' :: rest => if afterDigit then leadingDigits false count rest else 0
  | c :: rest =>
    if c.isDigit then leadingDigits true (count + 1) rest else if afterDigit then count else 0
  | [] => if afterDigit then count else 0

/-- **The number of digits** at the start of an integer that a text writes. -/
def digitCount (s : String) : Nat := leadingDigits false 0 (splitSign (trimmed s)).2

/-- **The integer that a text writes.** -/
def integer? (s : String) : Option Int := (ungrouped? false (trimmed s)).bind signedDigits?

/-- The exponent at the end of a decimal: none, or an integer after its mark. -/
def exponent? (cs : List Char) : Option Int :=
  match cs with
  | [] => some 0
  | c :: rest => if c.toLower = 'e' then signedDigits? rest else none

/-- The fraction after a point, and what follows it. -/
def splitFraction (cs : List Char) : List Char × List Char :=
  match cs with
  | '.' :: rest => (rest.takeWhile Char.isDigit, rest.dropWhile Char.isDigit)
  | _ => ([], cs)

/-- The double of a decimal without sign. -/
def unsignedDouble? (negative : Bool) (cs : List Char) : Option Float :=
  let word := String.ofList (cs.map Char.toLower)
  if word = "inf" ∨ word = "infinity" then some (Binary64.signed negative Binary64.infinity)
  else if word = "nan" then some Binary64.nan
  else
    let whole := cs.takeWhile Char.isDigit
    let (fraction, rest) := splitFraction (cs.dropWhile Char.isDigit)
    if whole.isEmpty && fraction.isEmpty then none
    else
      (exponent? rest).map fun e =>
        nearestDouble negative (ofDigits (whole ++ fraction)) (e - fraction.length)

/-- **The double that a text writes**; the sign of a zero is kept. -/
def double? (s : String) : Option Float := do
  let (negative, rest) := splitSign (← ungrouped? false (trimmed s))
  unsignedDouble? negative rest

end LeastSquares.Decimal
