import LeastSquares.Scalar

/-!
# Arrays

An array has an element type, extents, and its entries in row order. What changes an array in place
keeps its type and extents: the result is computed in the promotion of both types, must be of a kind
that the target accepts, and is stored in the target's type. An operand may be repeated along an
axis on which it has a single entry.

* `Tensor.numbers`: the entries one by one.
* `Tensor.inPlace`: sum and difference in place.
* `Tensor.scale`, `Tensor.addScaled`: multiples in place.
* `Tensor.norm`: the root of the sum of squares, in the precision of the array.
* `Tensor.dot`: products of a matrix with a vector.
-/

namespace LeastSquares

/-- An array: the type of its entries, its extents, and the entries in row order. -/
structure Tensor where
  type : ElementType
  shape : List Nat
  entries : Array Entry

namespace Tensor

/-- The extents as integers, as messages show them. -/
def extents (t : Tensor) : List Int := t.shape.map Int.ofNat

/-- The number of entries of an array of some extents. -/
def volume (shape : List Nat) : Nat := shape.foldr (· * ·) 1

/-- An entry; outside of the array it is zero. -/
def entry (t : Tensor) (i : Nat) : Entry := t.entries.getD i .zero

/-- A vector of zeros. -/
def zeros (type : ElementType) (n : Nat) : Tensor :=
  ⟨type, [n], Array.replicate n (type.store .zero)⟩

/-- A vector of given entries, stored in a type. -/
def vector (type : ElementType) (entries : List Entry) : Tensor :=
  ⟨type, [entries.length], (entries.map type.store).toArray⟩

/-- **The entries one by one**, each as a number: there must be one axis, and no integer that is too
large for a double. An axis of no length shows nothing of the others. -/
def numbers (t : Tensor) : Except Fault (List Entry) :=
  match t.shape with
  | [] => .error .notIterable
  | 0 :: _ => .ok []
  | [_] => if t.entries.any Entry.isOversized then .error .integerTooLarge else .ok t.entries.toList
  | _ => .error .notScalar

/-- **A copy in another type.** -/
def cast (type : ElementType) (t : Tensor) : Tensor :=
  ⟨type, t.shape, t.entries.map type.store⟩

/-! ### Extents that go together -/

/-- The common extents of two arrays, last axes first: on each axis the extents are equal or one of
them is one. -/
def commonReversed : List Nat → List Nat → Option (List Nat)
  | [], s => some s
  | s, [] => some s
  | m :: s, n :: t =>
    if m = n ∨ n = 1 then (commonReversed s t).map (m :: ·)
    else if m = 1 then (commonReversed s t).map (n :: ·)
    else none

/-- The common extents of two arrays. -/
def common (s t : List Nat) : Option (List Nat) :=
  (commonReversed s.reverse t.reverse).map List.reverse

/-- The place in an array of some extents that stands for place `i` of an array of larger extents;
both are given last axes first. -/
def placeReversed : List Nat → List Nat → Nat → Nat
  | m :: s, n :: t, i => (if m = 1 then 0 else i % n) + m * placeReversed s t (i / n)
  | _, _, _ => 0

/-- The entry that stands for place `i` of an array of extents `shape`. -/
def spread (t : Tensor) (shape : List Nat) (i : Nat) : Entry :=
  if t.shape = shape then t.entry i
  else t.entry (placeReversed t.shape.reverse shape.reverse i)

/-- **A sum or a difference as a new array.** Truth values have no difference. -/
def combined (operation : InPlace) (op : ElementType → Entry → Entry → Entry) (s t : Tensor) :
    Except Fault Tensor :=
  let type := s.type.promote t.type
  if operation = .subtract ∧ type = .boolean then .error .truthDifference
  else
    match common s.shape t.shape with
    | none => .error (.unequal s.extents t.extents)
    | some shape =>
      let entry (i : Nat) : Entry :=
        op type (type.store (s.spread shape i)) (type.store (t.spread shape i))
      .ok ⟨type, shape, ((List.range (volume shape)).map entry).toArray⟩

/-! ### Changes in place -/

/-- Whether the entries of an operand can be computed with at the places of a target. -/
def canMeet (target operand : Tensor) : Bool :=
  (List.range target.entries.size).all fun i =>
    (target.entry i).canMeet (operand.spread target.shape i)

/-- **A sum or a difference in place.** Truth values have no difference. -/
def inPlace (operation : InPlace) (op : ElementType → Entry → Entry → Entry)
    (target operand : Tensor) : Except Fault Tensor :=
  let computed := target.type.promote operand.type
  if operation = .subtract ∧ computed = .boolean then .error .truthDifference
  else if !target.type.accepts computed then .error (.cast operation computed target.type)
  else
    match common target.shape operand.shape with
    | none => .error (.broadcast target.extents operand.extents target.extents)
    | some shape =>
      if shape ≠ target.shape then .error (.smallTarget target.extents (shape.map Int.ofNat))
      else if computed = .object && !canMeet target operand then .error .integerTooLarge
      else
        .ok { target with
          entries := target.entries.mapIdx fun i a =>
            target.type.store
              (op computed (computed.store a) (computed.store (operand.spread shape i))) }

/-- The type in which a multiple of an array is computed. A checked number is a plain one, an
unchecked one brings its precision. -/
def scaledType (type : ElementType) (k : Kind) : ElementType :=
  match k with
  | .unchecked p => type.promote (.real p)
  | _ => type.withPlain .real

/-- The multiple of an array. -/
def multiple (t : Tensor) (a : Double) : Tensor :=
  let type := scaledType t.type a.kind
  let factor := type.store (.ofNumber a.value)
  ⟨type, t.shape, t.entries.map fun b => type.mul factor (type.store b)⟩

/-- **The multiple of an array in place.** -/
def scale (t : Tensor) (a : Double) : Except Fault Tensor :=
  let product := t.multiple a
  if t.entries.any Entry.isOversized then .error .integerTooLarge
  else if !t.type.accepts product.type then .error (.cast .multiply product.type t.type)
  else .ok (product.cast t.type)

/-- The sum in place. -/
def add (target operand : Tensor) : Except Fault Tensor :=
  inPlace .add ElementType.add target operand

/-- The difference in place. -/
def sub (target operand : Tensor) : Except Fault Tensor :=
  inPlace .subtract ElementType.sub target operand

/-- **The sum with a multiple of another array, in place.** -/
def addScaled (target : Tensor) (a : Double) (operand : Tensor) : Except Fault Tensor :=
  target.add (operand.multiple a)

/-- The entries of another array in place of the own ones; any type is taken. -/
def assign (target source : Tensor) : Except Fault Tensor :=
  match common target.shape source.shape with
  | none => .error (.broadcast source.extents target.extents target.extents)
  | some shape =>
    .ok { target with
      entries := target.entries.mapIdx fun i _ => target.type.store (source.spread shape i) }

/-! ### Norms and products -/

/-- **The norm**: the root of the sum of the squares of all parts, each operation rounded to the
precision in which sums are formed, and the sum and the root to that of the array. -/
def norm (t : Tensor) : Double :=
  let p := t.type.partPrecision
  let q := p.summing
  let sum (f : Entry → Number) : Number :=
    p.round (t.entries.foldl (fun s a => q.round (s + q.round (f a * f a))) (q.round (.double 0)))
  let total := if t.type.isComplex then p.round (sum Entry.re + sum Entry.im) else sum Entry.re
  Scalar.unchecked p (p.round total.sqrt)

/-- A matrix: the number of rows, of columns, and its entries by row and column. -/
structure Matrix where
  type : ElementType
  rows : Nat
  cols : Nat
  entry : Nat → Nat → Entry

/-- The matrix of an array of at most two dimensions: a vector is one row. -/
def toMatrix? (t : Tensor) : Option Matrix :=
  match t.shape with
  | [] => some ⟨t.type, 1, 1, fun _ _ => t.entry 0⟩
  | [n] => some ⟨t.type, 1, n, fun _ j => t.entry j⟩
  | [m, n] => some ⟨t.type, m, n, fun i j => t.entry (i * n + j)⟩
  | _ => none

/-- The conjugate transpose. -/
def Matrix.adjoint (a : Matrix) : Matrix :=
  ⟨a.type, a.cols, a.rows, fun i j => (a.entry j i).conj⟩

/-- Whether a product leaves out the terms of a zero: a single column is multiplied by its number
as a whole, in the types that have single precision at least. -/
def Matrix.skips (a : Matrix) (x : Tensor) : Bool :=
  let type := a.type.promote x.type
  a.cols == 1 && a.rows != 1 && (x.entry 0).isZero &&
    (type.partPrecision == .single || type.partPrecision == .double) && type.isInexact

/-- **The product of a matrix with a vector**, every term in the sum unless a single column is left
out. -/
def Matrix.dot (a : Matrix) (x : Tensor) : Tensor :=
  let type := a.type.promote x.type
  let sums := type.summing
  let term (i j : Nat) : Entry := sums.mul (type.store (a.entry i j)) (type.store (x.entry j))
  let row (i : Nat) : Entry :=
    if a.skips x then sums.store .zero
    else (List.range a.cols).foldl (fun s j => sums.add s (term i j)) (sums.store .zero)
  .vector type ((List.range a.rows).map row)

end Tensor

/-- Arrays, with the doubles of a solve as coefficients. -/
instance : Vectors Double Tensor where
  scale := Tensor.scale
  add := Tensor.add
  sub := Tensor.sub
  addScaled := Tensor.addScaled
  assign := Tensor.assign
  norm := Tensor.norm

end LeastSquares
