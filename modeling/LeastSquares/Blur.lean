import LeastSquares.Difference

/-!
# Gaussian blur

A symmetric matrix whose entries depend on the distance from the diagonal alone and fall off as a
Gaussian. Its rows sum to about one, and its singular values decay so fast that it is a standard
test for damped least squares.

* `Blur.column`: the first column.
* `Blur.matrix`: the matrix.
-/

namespace LeastSquares.Blur

/-- The ratio of the circumference of a circle to its diameter. -/
def pi : Float := 3.141592653589793

/-- **The first column**: a Gaussian of width `sigma`, cut off from `truncate` widths on. -/
def column (n : Nat) (sigma truncate : Float) : List Float :=
  (List.range n).map fun (i : Nat) =>
    let d := Binary64.ofInt (i : Int)
    let q := d / sigma
    let value := if truncate * sigma < d then 0 else (-0.5 * (q * q)).exp
    value / (sigma * (2 * pi).sqrt)

/-- The number of points that a value stands for: a double, or an integer as one. -/
def sizeOf (v : Value) : Except MatrixFault Nat :=
  match v.toDouble? with
  | some x => (Counting.length ElementType.float64.name x).mapError .column
  | none => .error (.sizeMissing v)

/-- The entries of a first column by row and column. -/
def symmetric (column : Array Float) : Tensor.Matrix :=
  ⟨.float64, column.size, column.size, fun i j =>
    .ofReal (column.getD (if i ≤ j then j - i else i - j) 0)⟩

/-- **The matrix.** The width must be positive. -/
def matrix (size : Value) (sigma truncate : Float) : Except MatrixFault Tensor.Matrix :=
  if sigma ≤ 0 then .error .width
  else (sizeOf size).map fun n => symmetric (column n sigma truncate).toArray

end LeastSquares.Blur
