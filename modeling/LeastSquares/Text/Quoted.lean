import LeastSquares.Text.Printable

/-!
# Quoted text

How a message shows a text that was given to it: between quotes, with an escape for every character
that would not be seen as itself.

* `Text.quoted`: the text between single quotes, or between double quotes when it holds single
  ones only.
* `Text.plain`: a text in which every character beyond the first 128 is escaped.
-/

namespace LeastSquares.Text

/-- The single quote. -/
def singleQuote : Char := Char.ofNat 0x27

/-- The double quote. -/
def doubleQuote : Char := Char.ofNat 0x22

/-- A number in base sixteen, with a set number of digits. -/
def hexadecimal (width n : Nat) : String :=
  let digits := Nat.toDigits 16 n
  String.ofList (List.replicate (width - digits.length) '0' ++ digits)

/-- The escape of a character that cannot be shown, by the size of its code point. -/
def escape (c : Char) : String :=
  let n := c.toNat
  if n = 9 then "\\t"
  else if n = 10 then "\\n"
  else if n = 13 then "\\r"
  else if n < 0x100 then "\\x" ++ hexadecimal 2 n
  else if n < 0x10000 then "\\u" ++ hexadecimal 4 n
  else "\\U" ++ hexadecimal 8 n

/-- A character as it stands between quotes `q`. -/
def shown (q c : Char) : String :=
  if c = q ∨ c = '\\' then String.ofList ['\\', c]
  else if isPrintable c then String.ofList [c]
  else escape c

/-- **A text between quotes.** Single quotes unless the text holds one and no double quote. -/
def quoted (s : String) : String :=
  let cs := s.toList
  let q := if cs.contains singleQuote && !cs.contains doubleQuote then doubleQuote else singleQuote
  String.ofList [q] ++ String.join (cs.map (shown q)) ++ String.ofList [q]

/-- A text in which every character beyond the first 128 is escaped. -/
def plain (s : String) : String :=
  String.join (s.toList.map fun c => if c.toNat < 128 then String.singleton c else escape c)

end LeastSquares.Text
