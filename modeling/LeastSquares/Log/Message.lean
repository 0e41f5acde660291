import LeastSquares.Decimal.Reading
import LeastSquares.Number
import LeastSquares.Text.Conversion

/-!
# Messages

A message is a format with arguments. A sign of percent in the format begins a directive, which
converts the next argument; two of them stand for one. A format without arguments is a text as it
stands.

* `Directive`: how an argument is converted, by flags, a least width, a precision and a letter.
* `Directive.parse?`: a directive after its percent sign.
* `Piece`, `piecesFrom`: a text with directives in pieces.
* `Message.text?`: **the text of a message**, unless an argument does not fit its directive.
-/

namespace LeastSquares.Log

/-- What a directive converts: a value, or a number of a solve. -/
inductive Argument where
  | value (v : Value)
  | number (a : Number)

namespace Argument

/-- An integer. -/
def integer (n : Int) : Argument := value (.integer n)

/-- A text. -/
def text (s : String) : Argument := value (.text s)

/-- The value that is converted: a number is taken as the nearest double. -/
def toValue : Argument → Value
  | value v => v
  | number a => .number a.toDouble

end Argument

/-- A directive: its flags, its width and precision if they are given, and its letter. -/
structure Directive where
  flags : Conversion.Flags
  width : Option Nat
  precision : Option Nat
  letter : Char
  deriving DecidableEq

namespace Directive

/-- The characters that may stand in front of a width. -/
def isFlag (c : Char) : Bool := "#0+ -".toList.contains c

/-- A width or the digits of a precision, if there are any, and what follows. -/
def measure (cs : List Char) : Option Nat × List Char :=
  match cs.takeWhile Char.isDigit with
  | [] => (none, cs)
  | digits => (some (Decimal.ofDigits digits), cs.dropWhile Char.isDigit)

/-- A precision with its point, and what follows. A point alone is a precision of zero. -/
def parsePrecision (cs : List Char) : Option Nat × List Char :=
  match cs with
  | '.' :: rest =>
    let (digits, rest) := measure rest
    (some (digits.getD 0), rest)
  | cs => (none, cs)

/-- What follows the mark of a size, which says nothing. -/
def afterSize (cs : List Char) : List Char :=
  match cs with
  | 'h' :: rest | 'l' :: rest | 'L' :: rest => rest
  | cs => cs

/-- **A directive after its percent sign**, and what follows it. -/
def parse? (cs : List Char) : Option (Directive × List Char) :=
  let flags := Conversion.Flags.ofChars (cs.takeWhile isFlag)
  let (width, rest) := measure (cs.dropWhile isFlag)
  let (precision, rest) := parsePrecision rest
  match afterSize rest with
  | c :: rest => some (⟨flags, width, precision, c⟩, rest)
  | [] => none

/-- No width or precision is taken from here on. -/
def tooWide : Nat := Nat.pow 2 31

/-- The conversion of a directive, if its letter names one. -/
def conversion? (d : Directive) : Option Conversion := do
  let (kind, isCapital) ← Conversion.Kind.ofChar? d.letter
  let width := d.width.getD 0
  if tooWide ≤ width ∨ tooWide ≤ d.precision.getD 0 then none
  else some ⟨kind, isCapital, d.flags, width, d.precision⟩

end Directive

/-- A piece of a text with percent signs: a character that stands for itself, or what such a sign
begins. -/
inductive Piece (δ : Type) where
  | literal (c : Char)
  | special (d : δ)
  deriving DecidableEq

/-- The pieces of what is left of a text, with as many steps as it has characters; `special?` reads
what follows a percent sign. -/
def piecesFrom {δ : Type} (special? : List Char → Option (δ × List Char)) :
    Nat → List Char → Option (List (Piece δ))
  | _, [] => some []
  | 0, _ => none
  | steps + 1, '%' :: '%' :: rest => (piecesFrom special? steps rest).map (.literal '%' :: ·)
  | steps + 1, '%' :: rest => do
    let (d, rest) ← special? rest
    (piecesFrom special? steps rest).map (.special d :: ·)
  | steps + 1, c :: rest => (piecesFrom special? steps rest).map (.literal c :: ·)

/-- A message: a format, and what its directives convert. -/
structure Message where
  format : String
  arguments : List Argument

namespace Message

/-- The pieces of a format, unless a directive is not complete. -/
def parse? (format : String) : Option (List (Piece Directive)) :=
  piecesFrom Directive.parse? format.length format.toList

/-- The text of some pieces: each directive converts the next argument, and no argument is left. -/
def fill? : List (Piece Directive) → List Argument → Option String
  | [], [] => some ""
  | .literal c :: rest, arguments => do pure (String.singleton c ++ (← fill? rest arguments))
  | .special d :: rest, a :: arguments => do
    let c ← d.conversion?
    let s ← c.write? a.toValue
    pure (s ++ (← fill? rest arguments))
  | _, _ => none

/-- **The text of a message**, unless an argument does not fit its directive. -/
def text? (m : Message) : Option String :=
  if m.arguments.isEmpty then some m.format
  else do fill? (← parse? m.format) m.arguments

end Message

end LeastSquares.Log
