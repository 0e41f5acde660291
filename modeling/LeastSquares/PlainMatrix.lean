import LeastSquares.Plain

/-!
# Matrices of plain numbers

A matrix whose entries are plain numbers, which have no type of their own. In a product each of them
meets an entry of the vector in the type of the vector, or in one that also holds its kind. The sums
start from a plain zero with a fraction: they are rounded to the type of their terms if that holds
fractions, and are doubles otherwise.

* `PlainMatrix.ofTensor?`: the plain numbers of an array.
* `PlainMatrix.dot`: the product with a vector.
-/

namespace LeastSquares

/-- A matrix of plain numbers of one kind, by row and column. -/
structure PlainMatrix where
  kind : ElementType.PlainKind
  rows : Nat
  cols : Nat
  entry : Nat → Nat → Entry

namespace PlainMatrix

/-- The kind of the plain numbers of a type. -/
def kindOf : ElementType → ElementType.PlainKind
  | .boolean => .truth
  | .unsigned _ | .signed _ => .integer
  | .complex _ => .complex
  | _ => .real

/-- The plain numbers of an array, if it is a matrix. -/
def ofTensor? (t : Tensor) : Option PlainMatrix :=
  t.toMatrix?.map fun a => ⟨kindOf a.type, a.rows, a.cols, a.entry⟩

/-- The conjugate transpose. -/
def adjoint (a : PlainMatrix) : PlainMatrix :=
  ⟨a.kind, a.cols, a.rows, fun i j => (a.entry j i).conj⟩

/-- A plain number in a type. An integer must fit into an integer type. -/
def adapt (type : ElementType) (e : Entry) : Except Fault Entry :=
  match type, e with
  | .unsigned _, .whole n | .signed _, .whole n => Atom.toEntry type (.value (.integer n))
  | _, e => .ok (type.store e)

/-- A term of a product: a plain number times the entry of a vector, which must be there. -/
def term (type : ElementType) (e : Entry) (x : Tensor) (j : Nat) : Except Fault Entry := do
  if x.entries.size ≤ j then throw (.outside j x.entries.size)
  let product := type.mul (← adapt type e) (type.store (x.entry j))
  if product.isOversized then throw .integerTooLarge
  pure product

/-- The type of a product: that of its terms with fractions, where there are terms. What is no
number becomes a plain one in a sum. -/
def productType (a : PlainMatrix) (x : Tensor) : ElementType :=
  if a.rows = 0 ∨ a.cols = 0 then .float64
  else
    match x.type.withPlain a.kind with
    | .object => ElementType.float64.withPlain a.kind
    | t => t.withPlain .real

/-- **The product with a vector**, terms and sums from left to right. -/
def dot (a : PlainMatrix) (x : Tensor) : Except Fault Tensor := do
  let type := x.type.withPlain a.kind
  let sums := a.productType x
  let row (i : Nat) : Except Fault Entry :=
    (List.range a.cols).foldlM
      (fun s j => do pure (sums.add s (sums.store (← term type (a.entry i j) x j))))
      (sums.store .zero)
  pure (.vector sums (← (List.range a.rows).mapM row))

end PlainMatrix

end LeastSquares
