import LeastSquares.Decimal.Reading
import LeastSquares.ElementType
import LeastSquares.Value

/-!
# Causes of failure

Everything that can end a solve, or one of its parts, is a cause with the data that its message
shows. Some causes are found inside numerical routines that only say that something is wrong; those
have no text.

* `Fault.message`: the text of a cause.
* `Fault.double`, `Fault.exceeds`: what values of any kind are asked for, or the cause why not.
* `Shape.text`: how messages write the extents of an array.
-/

namespace LeastSquares

/-- The extents of an array, in parentheses; a single one keeps its comma. -/
def Shape.text (shape : List Int) : String :=
  match shape with
  | [n] => "(" ++ Int.repr n ++ ",)"
  | _ => "(" ++ String.intercalate ", " (shape.map Int.repr) ++ ")"

/-- The largest number of axes of an array. -/
def depthLimit : Nat := 64

/-- The three operations that change an array in place. -/
inductive InPlace where
  | add
  | subtract
  | multiply
  deriving DecidableEq

/-- The name of an in-place operation. -/
def InPlace.name : InPlace → String
  | .add => "add"
  | .subtract => "subtract"
  | .multiply => "multiply"

/-- Why a solve, or a part of one, cannot go on. -/
inductive Fault where
  /-- A checked number is divided by zero. -/
  | divisionByZero
  /-- The square of a checked number is out of range. -/
  | overflow
  /-- A square root of a negative number. -/
  | outsideDomain
  /-- A computed type cannot be stored in the type of the target. -/
  | cast (operation : InPlace) (computed target : ElementType)
  /-- Truth values are subtracted from one another. -/
  | truthDifference
  /-- Two arrays have extents that do not go together. -/
  | broadcast (left right target : List Int)
  /-- Two arrays, neither of them a target, have extents that do not go together. -/
  | unequal (left right : List Int)
  /-- A list is multiplied by a number of a kind. -/
  | listMultiple (kind : String)
  /-- The target is smaller than the result. -/
  | smallTarget (target result : List Int)
  /-- An operator was given, or has returned, a vector of the wrong length. -/
  | productLength
  /-- A product asks for an entry that a vector does not have. -/
  | outside (index length : Nat)
  /-- A product has no type that a sparse matrix can compute in. -/
  | noProductType
  /-- An array has more than two dimensions where a matrix is needed. -/
  | notMatrix
  /-- What is to act as a matrix is not even an array. -/
  | notArray
  /-- The entries of a sparse matrix are outside of it, or of a type that it cannot have. -/
  | notSparse
  /-- Something that cannot act as an operator was given as one. -/
  | notOperator
  /-- An announced shape has too few extents. -/
  | tooFewExtents (given : Nat)
  /-- An announced shape has too many extents. -/
  | tooManyExtents
  /-- An extent is negative where an array is made. -/
  | negativeExtent
  /-- Lists that are to become an array are not of one length; the extents are those in common. -/
  | unevenLists (shape : List Int)
  /-- Lists that are to become an array are nested too deeply. -/
  | tooDeep
  /-- What should have extents has none, or none that are integers. -/
  | noShape
  /-- The entries of an array are asked for one by one, and it has no axis. -/
  | notIterable
  /-- A number is asked of an array that has an axis. -/
  | notScalar
  /-- There is no type of this name. -/
  | unknownType (name : String)
  /-- There is no longer a type of this name. -/
  | retiredType (name : String)
  /-- A vector is not one-dimensional. -/
  | notVector (name : String) (shape : List Int)
  /-- A vector has the wrong length. -/
  | wrongLength (name : String) (length : Int) (expected : Value)
  /-- The solution is not an array that can be updated. -/
  | notUpdatable
  /-- The solution cannot hold what the iteration computes. -/
  | narrowTarget (target needed : ElementType)
  /-- An option of this name does not exist. -/
  | unknownOption (name : String)
  /-- An argument is given by its place and again by its name. -/
  | givenTwice (function argument : String)
  /-- An argument is given by its name twice. -/
  | namedTwice (function argument : String)
  /-- An option is negative. -/
  | negativeOption (name : String) (given : Value)
  /-- Two values are compared that do not compare. -/
  | notComparable (sign : String) (left right : Value)
  /-- The callback cannot be called. -/
  | notCallable
  /-- A budget is taken from no shape at all. -/
  | emptyShape
  /-- An integer is asked of what is no number. -/
  | integerOfNan
  /-- An integer is asked of an infinity. -/
  | integerOfInfinity
  /-- A double is asked of an integer that none can hold. -/
  | integerTooLarge
  /-- An integer of 64 bits is asked of a double that is beyond them. -/
  | integerTooWide
  /-- An integer is outside of the type that it is stored in. -/
  | integerBounds (n : Int) (type : ElementType)
  /-- An integer is asked of a value that is no number. -/
  | integerOfOther (given : Value)
  /-- A double is asked of a text that writes none. -/
  | doubleOfText (given : String)
  /-- A double is asked of a value that is no number. -/
  | doubleOfOther (given : Value)
  /-- The callback has ended the solve. -/
  | interrupted (iteration : Nat)

namespace Fault

/-- The quoted name of a type; the one of what is no number has a short name. -/
def typeText (t : ElementType) : String :=
  "dtype('" ++ (if t = .object then "O" else t.name) ++ "')"

/-- **The text of a cause**; `none` where only the kind of failure is told. -/
def message : Fault → Option String
  | divisionByZero => some "float division by zero"
  | overflow => some "(34, 'Numerical result out of range')"
  | outsideDomain => some "math domain error"
  | cast operation computed target =>
    some ("Cannot cast ufunc '" ++ operation.name ++ "' output from " ++ typeText computed ++
      " to " ++ typeText target ++ " with casting rule 'same_kind'")
  | broadcast left right target =>
    some ("operands could not be broadcast together with shapes " ++ Shape.text left ++ " " ++
      Shape.text right ++ " " ++ Shape.text target ++ " ")
  | unequal left right =>
    some ("operands could not be broadcast together with shapes " ++ Shape.text left ++ " " ++
      Shape.text right ++ " ")
  | listMultiple kind => some ("can't multiply sequence by non-int of type '" ++ kind ++ "'")
  | smallTarget target result =>
    some ("non-broadcastable output operand with shape " ++ Shape.text target ++
      " doesn't match the broadcast shape " ++ Shape.text result)
  | truthDifference =>
    some ("numpy boolean subtract, the `-` operator, is not supported, use the bitwise_xor, " ++
      "the `^` operator, or the logical_xor function instead.")
  | productLength | noProductType | notMatrix | notArray | notSparse | noShape => none
  | outside index length =>
    some ("index " ++ Nat.repr index ++ " is out of bounds for axis 0 with size " ++
      Nat.repr length)
  | unknownType name => some ("data type " ++ Text.quoted name ++ " not understood")
  | retiredType name =>
    some ("Alias '" ++ name ++ "' was removed in NumPy 2.0. Use a name without a digit at the end.")
  | tooDeep =>
    some ("setting an array element with a sequence. The requested array would exceed the " ++
      "maximum number of dimension of " ++ Nat.repr depthLimit ++ ".")
  | notIterable => some "iteration over a 0-d array"
  | notScalar => some "only 0-dimensional arrays can be converted to Python scalars"
  | unevenLists shape =>
    some ("setting an array element with a sequence. The requested array has an inhomogeneous " ++
      "shape after " ++ Nat.repr shape.length ++ " dimensions. The detected shape was " ++
      Shape.text shape ++ " + inhomogeneous part.")
  | notOperator =>
    some ("A must be an array, a sparse matrix, a LinearOperator, or expose apply/" ++
      "apply_adjoint.")
  | tooFewExtents given =>
    some ("not enough values to unpack (expected 2, got " ++ Nat.repr given ++ ")")
  | tooManyExtents => some "too many values to unpack (expected 2)"
  | negativeExtent => some "negative dimensions are not allowed"
  | notVector name shape =>
    some (name ++ " must be one-dimensional but has shape " ++ Shape.text shape)
  | wrongLength name length expected =>
    some (name ++ " has length " ++ Int.repr length ++ " but should have length " ++
      expected.message)
  | notUpdatable => some "x must be a numpy array; it is updated in place"
  | narrowTarget target needed =>
    some ("x has dtype " ++ target.name ++ " but the iteration needs " ++ needed.name)
  | unknownOption name =>
    some ("LSMROptions.__init__() got an unexpected keyword argument '" ++ name ++ "'")
  | givenTwice function argument =>
    some (function ++ "() got multiple values for argument '" ++ argument ++ "'")
  | namedTwice function argument =>
    some (function ++ "() got multiple values for keyword argument '" ++ argument ++ "'")
  | negativeOption name given => some (name ++ " must be nonnegative, got " ++ given.message)
  | notComparable sign left right =>
    some ("'" ++ sign ++ "' not supported between instances of '" ++ left.kindName ++ "' and '" ++
      right.kindName ++ "'")
  | notCallable => some "callback must be callable"
  | emptyShape => some "max() arg is an empty sequence"
  | integerOfNan => some "cannot convert float NaN to integer"
  | integerOfInfinity => some "cannot convert float infinity to integer"
  | integerTooLarge => some "int too large to convert to float"
  | integerTooWide => some "Python int too large to convert to C long"
  | integerBounds n type =>
    some ("Python integer " ++ Int.repr n ++ " out of bounds for " ++ type.name)
  | integerOfOther given =>
    some ("int() argument must be a string, a bytes-like object or a real number, not '" ++
      given.kindName ++ "'")
  | doubleOfText given => some ("could not convert string to float: " ++ Text.quoted given)
  | doubleOfOther given =>
    some ("float() argument must be a string or a real number, not '" ++ given.kindName ++ "'")
  | interrupted iteration => some ("stopped at " ++ Nat.repr iteration)

/-- **The double that a value is converted to**: a text must write one, an integer must not be too
large, and nothing but numbers and truth values has one otherwise. -/
def double (v : Value) : Except Fault Float :=
  match v with
  | .text s => ((Decimal.double? s).map .ok).getD (.error (.doubleOfText s))
  | .integer n =>
    let x := Binary64.ofInt n
    if x.isInf then .error .integerTooLarge else .ok x
  | v => (v.toDouble?.map .ok).getD (.error (.doubleOfOther v))

/-- Whether a value is larger than another; they must compare. -/
def exceeds (v w : Value) : Except Fault Bool :=
  match v.exceeds? w with
  | some b => .ok b
  | none => .error (.notComparable ">" v w)

end Fault

end LeastSquares
