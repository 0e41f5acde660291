import LeastSquares.Counting
import LeastSquares.Operator

/-!
# Forward differences

The matrix of the differences `x i - x (i + 1)` of a signal of length `n`, with four ways of
treating its last row, and the vector that spans its nullspace.

* `Difference.entries`: the entries, by row and column.
* `Difference.matrix`: the sparse matrix.
* `Difference.spanEntry`: every entry of the unit vector that spans the nullspace.
-/

namespace LeastSquares

/-- How the last row is treated: left out, continued by zero, wrapped around, or made zero. -/
inductive Boundary where
  | none
  | zero
  | periodic
  | reflexive
  deriving DecidableEq

namespace Boundary

/-- All boundaries. -/
def all : List Boundary := [.none, .periodic, .zero, .reflexive]

/-- The name of a boundary. -/
def name : Boundary → String
  | .none => "none"
  | .zero => "zero"
  | .periodic => "periodic"
  | .reflexive => "reflexive"

/-- The boundary that a value names. -/
def ofValue? : Value → Option Boundary
  | .text s => all.find? fun b => b.name == s
  | _ => Option.none

end Boundary

/-- Why there is no matrix as asked for. -/
inductive MatrixFault where
  /-- There is no such boundary. -/
  | boundary (given : Value)
  /-- A matrix cannot have this size. -/
  | size
  /-- A size is no integer. -/
  | sizeKind
  /-- A matrix of this size does not fit into memory. -/
  | memory
  /-- The first column cannot be laid out. -/
  | column (e : CountingFault)
  /-- A size is subtracted from, and is no number. -/
  | sizeMissing (given : Value)
  /-- The width of a blur is not positive. -/
  | width

/-- The text of a cause; `none` where only the kind of failure is told. -/
def MatrixFault.message : MatrixFault → Option String
  | .boundary given => some ("Invalid boundary parameter " ++ given.display ++ ".")
  | .size | .sizeKind | .memory => none
  | .column e => some e.message
  | .sizeMissing given =>
    some ("unsupported operand type(s) for -: '" ++ given.kindName ++ "' and 'int'")
  | .width => some "sigma must be positive."

namespace Difference

/-- The number of rows for a signal of length `n`. -/
def rows (b : Boundary) (n : Nat) : Nat := if b = .none then n - 1 else n

/-- The entries of row `i` before the boundary is treated: one on the diagonal, and its negative to
the right of it. -/
def row (n i : Nat) : List (Nat × Nat × Int) :=
  (i, i, 1) :: (if i + 1 < n then [(i, i + 1, -1)] else [])

/-- The entries of all rows before the boundary is treated. -/
def diagonals (n : Nat) : List (Nat × Nat × Int) := (List.range n).flatMap (row n)

/-- Writes an entry at its place among entries in the order of rows and columns. A zero is not
stored. -/
def put (i j : Nat) (e : Int) : List (Nat × Nat × Int) → List (Nat × Nat × Int)
  | [] => if e = 0 then [] else [(i, j, e)]
  | (k, l, f) :: rest =>
    if i = k ∧ j = l then (if e = 0 then rest else (i, j, e) :: rest)
    else if i < k ∨ (i = k ∧ j < l) then
      (if e = 0 then (k, l, f) :: rest else (i, j, e) :: (k, l, f) :: rest)
    else (k, l, f) :: put i j e rest

/-- **The entries of the matrix**, by rows and columns, for a signal of positive length. The
boundary is written into the last row, over what stands there. -/
def entries (b : Boundary) (n : Nat) : List (Nat × Nat × Int) :=
  match b with
  | .none => (diagonals n).filter fun e => decide (e.1 < n - 1)
  | .zero => diagonals n
  | .periodic => put (n - 1) 0 (-1) (diagonals n)
  | .reflexive => put (n - 1) (n - 1) 0 (diagonals n)

/-- The nullspace is spanned by constant signals, unless zeros follow the signal. -/
def hasSpan (b : Boundary) : Bool := b != .zero

/-- **Every entry of the unit vector that spans the nullspace**: one over the root of the length. -/
def spanEntry {α : Type} [Arithmetic α] (n : Nat) : Except Fault α := do
  Arithmetic.div 1 (← Arithmetic.sqrt (Arithmetic.ofNat n))

/-- The sparse matrix of doubles. -/
def matrix (b : Boundary) (n : Nat) : SparseMatrix :=
  ⟨.float64, rows b n, n,
    (entries b n).map fun (i, j, e) => (i, j, .ofReal (Binary64.ofInt e))⟩

/-- The length of a signal that a value stands for. -/
def lengthOf (v : Value) : Except MatrixFault Nat :=
  match v with
  | .integer n =>
    if n ≤ 0 ∨ (Counting.unmeasuredLength : Int) ≤ n then .error .size
    else if Counting.refusedLength ≤ n.toNat then .error .memory
    else .ok n.toNat
  | .list items =>
    if items.any fun i => !i.isInteger then .error .sizeKind
    else if items.any fun i => i.sign = some .negative then .error .size
    else .error (.sizeMissing v)
  | _ => .error .sizeKind

/-- **The boundary and the length that two values stand for**; the boundary is judged first. -/
def ofValues (length boundary : Value) : Except MatrixFault (Boundary × Nat) :=
  match Boundary.ofValue? boundary with
  | Option.none => .error (.boundary boundary)
  | some b => (lengthOf length).map fun n => (b, n)

end Difference

end LeastSquares
