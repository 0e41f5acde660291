import LeastSquares.Tensor

/-!
# Sparse matrices

A sparse matrix is known by its stored entries, each at a row and a column. It may store several at
one place, which then add up in every product, or have them added once, in the type of the matrix.

* `SparseMatrix.ofEntries`: the matrix of stored entries.
* `SparseMatrix.merge`: one entry per place.
* `SparseMatrix.dot`: the product with a vector.
-/

namespace LeastSquares

/-- A sparse matrix by its stored entries, each at a row and a column. -/
structure SparseMatrix where
  type : ElementType
  rows : Nat
  cols : Nat
  stored : List (Nat × Nat × Entry)

namespace SparseMatrix

/-- Whether a sparse matrix may have entries of a type: they are numbers, and not of half
precision. -/
def holds (type : ElementType) : Bool := type != .real .half && type != .object

/-- Whether a number is the place of a row or a column. -/
def isPlace (i count : Int) : Bool := decide (0 ≤ i) && decide (i < count)

/-- **The matrix of stored entries**, if there is one: every entry has its place in the shape. -/
def ofEntries (type : ElementType) (rows cols : Int) (stored : List (Int × Int × Entry)) :
    Except Fault SparseMatrix :=
  if holds type && decide (0 ≤ rows) && decide (0 ≤ cols) &&
      stored.all fun e => isPlace e.1 rows && isPlace e.2.1 cols then
    .ok ⟨type, rows.toNat, cols.toNat, stored.map fun (i, j, e) => (i.toNat, j.toNat, e)⟩
  else .error .notSparse

/-- Adds an entry to the one at its place, or puts it there. Places are in the order of rows and
columns. -/
def insert (type : ElementType) (stored : List (Nat × Nat × Entry)) (e : Nat × Nat × Entry) :
    List (Nat × Nat × Entry) :=
  match stored with
  | [] => [e]
  | f :: rest =>
    if f.1 = e.1 ∧ f.2.1 = e.2.1 then (f.1, f.2.1, type.add f.2.2 e.2.2) :: rest
    else if e.1 < f.1 ∨ (e.1 = f.1 ∧ e.2.1 < f.2.1) then e :: f :: rest
    else f :: insert type rest e

/-- **The matrix with one entry per place**: entries at the same place are added. -/
def merge (a : SparseMatrix) : SparseMatrix :=
  { a with stored := a.stored.foldl (insert a.type) [] }

/-- The conjugate transpose. -/
def adjoint (a : SparseMatrix) : SparseMatrix :=
  ⟨a.type, a.cols, a.rows, a.stored.map fun (i, j, e) => (j, i, e.conj)⟩

/-- The type of a product with a vector: half precision is not used. -/
def productType (a : SparseMatrix) (x : Tensor) : ElementType := (a.type.promote x.type).summing

/-- **The product with a vector**: only stored entries are in the sums. -/
def dot (a : SparseMatrix) (x : Tensor) : Except Fault Tensor :=
  let type := a.productType x
  let row (i : Nat) : Entry :=
    a.stored.foldl
      (fun s (k, j, e) =>
        if k = i then type.add s (type.mul (type.store e) (type.store (x.entry j))) else s)
      (type.store .zero)
  if type = .object then .error .noProductType
  else .ok (.vector type ((List.range a.rows).map row))

end SparseMatrix

end LeastSquares
