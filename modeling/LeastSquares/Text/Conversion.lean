import LeastSquares.Value

/-!
# Conversions

A conversion writes one value: as text, as an integer in base eight, ten or sixteen, as a decimal,
or as a character. Flags say how the sign, the base and the width are written. A conversion that
does not fit its value writes nothing.

* `Conversion.Kind.ofChar?`: the conversions and their letters.
* `Conversion.write?`: the text of a value.
-/

namespace LeastSquares

namespace Conversion

/-- What follows the sign of a field: blanks at the end instead of the front, a sign for positive
numbers, a blank in its place, the mark of the base or the point kept, zeros instead of blanks. -/
structure Flags where
  left : Bool
  plus : Bool
  blank : Bool
  alternate : Bool
  zero : Bool
  deriving DecidableEq

/-- No flag. -/
def Flags.none : Flags := ⟨false, false, false, false, false⟩

/-- The flags that characters stand for. -/
def Flags.ofChars (cs : List Char) : Flags :=
  ⟨cs.contains '-', cs.contains '+', cs.contains ' ', cs.contains '#', cs.contains '0'⟩

/-- The ways of writing a decimal. -/
inductive Style where
  | fixed
  | scientific
  | general

/-- What a conversion makes of its value. -/
inductive Kind where
  | text
  | quoted
  | quotedPlain
  | integer (base : Nat)
  | decimal (style : Style)
  | character

/-- **The conversion of a letter**, and whether it writes in capitals. -/
def Kind.ofChar? (c : Char) : Option (Kind × Bool) :=
  match c with
  | 's' => some (.text, false)
  | 'r' => some (.quoted, false)
  | 'a' => some (.quotedPlain, false)
  | 'd' | 'i' | 'u' => some (.integer 10, false)
  | 'o' => some (.integer 8, false)
  | 'x' => some (.integer 16, false)
  | 'X' => some (.integer 16, true)
  | 'f' => some (.decimal .fixed, false)
  | 'F' => some (.decimal .fixed, true)
  | 'e' => some (.decimal .scientific, false)
  | 'E' => some (.decimal .scientific, true)
  | 'g' => some (.decimal .general, false)
  | 'G' => some (.decimal .general, true)
  | 'c' => some (.character, false)
  | _ => Option.none

/-- A number as it is written: its sign, the mark of its base, and the rest. -/
structure Numeral where
  sign : String
  mark : String
  body : String

/-- In capitals. -/
def Numeral.capitals (n : Numeral) : Numeral :=
  ⟨n.sign, n.mark.map Char.toUpper, n.body.map Char.toUpper⟩

/-- A row of one character. -/
def row (n : Nat) (c : Char) : String := String.ofList (List.replicate n c)

/-- A number brought to a width: blanks in front of it, or behind it, or zeros after its mark. -/
def Numeral.pad (n : Numeral) (f : Flags) (width : Nat) : String :=
  let missing := width - (n.sign.length + n.mark.length + n.body.length)
  let front := n.sign ++ n.mark
  if f.left then front ++ n.body ++ row missing ' '
  else if f.zero then front ++ row missing '0' ++ n.body
  else row missing ' ' ++ front ++ n.body

/-- A text brought to a width. -/
def padText (f : Flags) (width : Nat) (s : String) : String :=
  let blanks := row (width - s.length) ' '
  if f.left then s ++ blanks else blanks ++ s

/-- The sign of a number. -/
def signOf (f : Flags) (negative : Bool) : String :=
  if negative then "-" else if f.plus then "+" else if f.blank then " " else ""

/-- The mark of a base, where it is asked for. -/
def markOf (f : Flags) (base : Nat) : String :=
  if !f.alternate then "" else if base = 8 then "0o" else if base = 16 then "0x" else ""

/-- An integer with at least as many digits as its precision. -/
def ofInteger (f : Flags) (base least : Nat) (n : Int) : Numeral :=
  let digits := Nat.toDigits base n.natAbs
  ⟨signOf f (decide (n < 0)), markOf f base,
    row (least - digits.length) '0' ++ String.ofList digits⟩

/-- A double with a set number of places, or of digits. -/
def ofDouble (f : Flags) (style : Style) (precision : Nat) (x : Float) : Numeral :=
  let write (q : Decimal.Fraction) : String :=
    match style with
    | .fixed => q.fixed f.alternate precision
    | .scientific => (Decimal.digitsOf (precision + 1) q).scientific f.alternate
    | .general => q.general f.alternate (if precision = 0 then 1 else precision)
  match Binary64.read x with
  | .nan => ⟨signOf f false, "", "nan"⟩
  | .infinite negative => ⟨signOf f negative, "", "inf"⟩
  | .finite negative m e => ⟨signOf f negative, "", write (.ofBinary m e)⟩

/-- The integer that is written of a value: a double has its fraction cut off in base ten, and is
not written in others. -/
def integerOf? (base : Nat) : Value → Option Int
  | .number x => if base = 10 then Binary64.truncate x else Option.none
  | v => v.toInt?

/-- The double that is written of a value. An integer must not be too large for one. -/
def doubleOf? : Value → Option Float
  | .number x => some x
  | v =>
    v.toInt?.bind fun n =>
      let x := Binary64.ofInt n
      if x.isInf then Option.none else some x

/-- The character that a value is, or whose code point it is. -/
def characterOf? (v : Value) : Option Char :=
  match v with
  | .text s =>
    match s.toList with
    | [c] => some c
    | _ => Option.none
  | v =>
    v.toInt?.bind fun n =>
      if 0 ≤ n ∧ n.toNat.isValidChar then some (Char.ofNat n.toNat) else Option.none

end Conversion

/-- A conversion: its kind, whether it writes in capitals, its flags, its least width, and its
precision if one is set. -/
structure Conversion where
  kind : Conversion.Kind
  isCapital : Bool
  flags : Conversion.Flags
  width : Nat
  precision : Option Nat

namespace Conversion

/-- A text cut to the precision and brought to the width. -/
def writeText (c : Conversion) (s : String) : String :=
  let cut :=
    match c.precision with
    | some p => String.ofList (s.toList.take p)
    | Option.none => s
  padText c.flags c.width cut

/-- A number in its letters and brought to the width. -/
def writeNumeral (c : Conversion) (n : Numeral) : String :=
  (if c.isCapital then n.capitals else n).pad c.flags c.width

/-- The text of what is shown in one way only, if the conversion is one to text. -/
def writeShown? (c : Conversion) (s : String) : Option String :=
  match c.kind with
  | .text | .quoted | .quotedPlain => some (c.writeText s)
  | _ => Option.none

/-- **The text of a value**, if the conversion fits it. A precision is the most characters of a
text, the least digits of an integer, and the places or digits of a decimal, of which there are six
if it is not set. -/
def write? (c : Conversion) (v : Value) : Option String :=
  match c.kind with
  | .text => some (c.writeText v.message)
  | .quoted => some (c.writeText v.display)
  | .quotedPlain => some (c.writeText (Text.plain v.display))
  | .integer base =>
    (integerOf? base v).map fun n =>
      c.writeNumeral (ofInteger c.flags base (c.precision.getD 0) n)
  | .decimal style =>
    (doubleOf? v).map fun x => c.writeNumeral (ofDouble c.flags style (c.precision.getD 6) x)
  | .character => (characterOf? v).map fun ch => padText c.flags c.width (String.singleton ch)

end Conversion

end LeastSquares
