import LeastSquares.Bidiagonal
import LeastSquares.PlainMatrix
import LeastSquares.Sparse

/-!
# Operators

Whatever a caller gives as the matrix of a problem becomes an operator: a shape, a type, and
products with vectors of the right length. Arrays of at most two dimensions, sparse matrices,
operators and objects that offer both products can act as one.

* `Operator.product`, `Operator.adjointProduct`: the products, with the lengths checked.
* `Source.toOperator`: the operator that a source acts as.
* `solverType`: the type of an iteration with an operator and a right-hand side.
-/

namespace LeastSquares

/-- A linear operator with its announced shape and type. Its products are defined on arrays of any
length; `product` and `adjointProduct` check the lengths. -/
structure Operator where
  rows : Int
  cols : Int
  type : ElementType
  forward : Tensor → Except Fault Tensor
  backward : Tensor → Except Fault Tensor

namespace Operator

/-- A product between vectors of two lengths. The operand is a vector, or one column; the result
counts by its number of entries alone, which a negative length leaves free. -/
def checked (given wanted : Int) (f : Tensor → Except Fault Tensor) (x : Tensor) :
    Except Fault Tensor :=
  if x.extents = [given] ∨ x.extents = [given, 1] then do
    let y ← f x
    if 0 ≤ wanted ∧ (y.entries.size : Int) ≠ wanted then .error .productLength
    else
      pure { y with
        shape := if x.shape.length = 1 then [y.entries.size] else [y.entries.size, 1] }
  else .error .productLength

/-- **The product with the operator.** -/
def product (A : Operator) (x : Tensor) : Except Fault Tensor :=
  checked A.cols A.rows A.forward x

/-- **The product with the adjoint.** -/
def adjointProduct (A : Operator) (y : Tensor) : Except Fault Tensor :=
  checked A.rows A.cols A.backward y

/-- The adjoint operator. -/
def adjoint (A : Operator) : Operator := ⟨A.cols, A.rows, A.type, A.backward, A.forward⟩

/-- The operator as the process uses it. -/
def toLinear (A : Operator) : LinearOperator Tensor Tensor := ⟨A.product, A.adjointProduct⟩

/-- The operator of a matrix. -/
def ofMatrix (a : Tensor.Matrix) : Operator :=
  ⟨a.rows, a.cols, a.type, fun x => .ok (a.dot x), fun y => .ok (a.adjoint.dot y)⟩

/-- The operator of an array, if it has at most two dimensions. -/
def ofTensor (t : Tensor) : Except Fault Operator :=
  match t.toMatrix? with
  | some a => .ok (ofMatrix a)
  | none => .error .notMatrix

end Operator

/-- The operator of a sparse matrix. -/
def SparseMatrix.toOperator (a : SparseMatrix) : Operator :=
  ⟨a.rows, a.cols, a.type, a.dot, a.adjoint.dot⟩

/-- An object of the caller's that may offer products: an announced shape of any number of extents,
a type if one is announced, and the products that it has. -/
structure MatrixFree where
  shape : List Value
  type : Option ElementType
  apply : Option (Tensor → Except Fault Tensor)
  applyAdjoint : Option (Tensor → Except Fault Tensor)

namespace MatrixFree

/-- An object that offers some products with a matrix of plain numbers. -/
def ofMatrix (a : PlainMatrix) (shape : List Value) (type : Option ElementType)
    (hasApply hasAdjoint : Bool) : MatrixFree :=
  ⟨shape, type, if hasApply then some a.dot else none,
    if hasAdjoint then some a.adjoint.dot else none⟩

end MatrixFree

/-- What a caller may give as the matrix of a problem. -/
inductive Source where
  | array (t : Tensor)
  | sparse (a : SparseMatrix)
  | operator (A : Operator)
  | matrixFree (f : MatrixFree)
  | other

/-- The two extents of an announced shape. -/
def extentPair {α : Type} (shape : List α) : Except Fault (α × α) :=
  match shape with
  | [m, n] => .ok (m, n)
  | [] | [_] => .error (.tooFewExtents shape.length)
  | _ => .error .tooManyExtents

/-- An extent must be an integer. -/
def extentOf (v : Value) : Except Fault Int :=
  match v.toInt? with
  | some n => .ok n
  | none => .error .noShape

namespace Source

/-- **The operator that a source acts as.** An operator is taken as it is; an object must offer both
products, and counts as one of doubles unless it announces another type. -/
def toOperator : Source → Except Fault Operator
  | .operator A => .ok A
  | .matrixFree f =>
    match f.apply, f.applyAdjoint with
    | some apply, some applyAdjoint => do
      let (m, n) ← extentPair f.shape
      pure ⟨← extentOf m, ← extentOf n, f.type.getD .float64, apply, applyAdjoint⟩
    | _, _ => .error .notOperator
  | .array t => Operator.ofTensor t
  | .sparse a => .ok a.toOperator
  | .other => .error .notOperator

/-- Whether a source is an operator already. -/
def isOperator : Source → Bool
  | .operator _ => true
  | _ => false

end Source

/-- **The type of an iteration**: it holds the operator, the right-hand side, and doubles. -/
def solverType (A : Operator) (b : Given) : Except Fault ElementType := do
  pure ((A.type.promote (← b.toTensor).type).promote .float64)

end LeastSquares
