import LeastSquares.Decimal.ByteSize

/-!
# Rows of counted numbers

A row of numbers in steps of one is laid out once its length is known. The length is a double, which
is rounded up; it may be too large to be counted, too large for the bytes to be counted, or too
large for memory.

* `Counting.length`: the length of a row.
-/

namespace LeastSquares

/-- Why a row of numbers cannot be laid out. -/
inductive CountingFault where
  /-- Its length is not a number. -/
  | nan
  /-- Its length has no place in 64 bits. -/
  | uncountable
  /-- The number of its bytes has no place in 64 bits. -/
  | tooLarge
  /-- There is no memory for that many numbers of a type. -/
  | memory (length : Nat) (type : String)

/-- The text of a cause. -/
def CountingFault.message : CountingFault → String
  | .nan => "arange: cannot compute length"
  | .uncountable => "Maximum allowed size exceeded"
  | .tooLarge =>
    "array is too big; `arr.size * arr.dtype.itemsize` is larger than the maximum possible " ++
      "size."
  | .memory length type => ByteSize.refusal length type

namespace Counting

/-- The least length of a row of numbers of eight bytes for which there is no memory. -/
def refusedLength : Nat := Nat.pow 2 36

/-- The least length of a row of numbers of eight bytes whose bytes have no place in 64 bits. -/
def unmeasuredLength : Nat := Nat.pow 2 60

/-- The limit of what 64 bits count. A length that is rounded to the limit itself is cut to a
negative one. -/
def limit : Nat := Nat.pow 2 63

/-- **The length of a row** of numbers of a type and of eight bytes each, from a double that is
rounded up. None is shorter than empty. -/
def length (type : String) (x : Float) : Except CountingFault Nat :=
  match Binary64.roundUp x with
  | none => .error (if x.isNaN then .nan else .uncountable)
  | some n =>
    if limit < n.natAbs then .error .uncountable
    else if n ≤ 0 ∨ n = limit then .ok 0
    else if unmeasuredLength ≤ n.toNat then .error .tooLarge
    else if refusedLength ≤ n.toNat then .error (.memory n.toNat type)
    else .ok n.toNat

end Counting

end LeastSquares
