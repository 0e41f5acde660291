import LeastSquares.Decimal.Text

/-!
# Amounts of memory

An amount of bytes as a message shows it: in the largest binary unit that leaves at least one, with
three digits, or with all of its whole ones.

* `ByteSize.text`: the text of an amount.
* `ByteSize.refusal`: what is said of an array for which there is no memory.
-/

namespace LeastSquares.ByteSize

/-- The units, each 1024 times the one before it. -/
def units : List String := ["bytes", "KiB", "MiB", "GiB", "TiB", "PiB", "EiB"]

/-- The index of the unit of an amount. An amount that would round to 1024 takes the next one. -/
def unitIndex (bytes : Nat) : Nat :=
  let i := max bytes.log2 1 / 10
  if roundDiv bytes (Nat.pow 1024 i) = 1024 then i + 1 else i

/-- **The text of an amount of bytes.** -/
def text (bytes : Nat) : String :=
  let i := min (unitIndex bytes) 6
  let size := Nat.pow 1024 i
  let q : Decimal.Fraction := ⟨bytes, size⟩
  let amount :=
    if i = 0 then q.fixed false 0
    else if roundDiv bytes size < 1000 then q.general true 3
    else q.fixed true 0
  amount ++ " " ++ units.getD i ""

/-- What is said of an array of numbers of eight bytes each for which there is no memory. -/
def refusal (length : Nat) (type : String) : String :=
  "Unable to allocate " ++ text (8 * length) ++ " for an array with shape (" ++ Nat.repr length ++
    ",) and data type " ++ type

end LeastSquares.ByteSize
