import LeastSquares.Decimal.Text
import LeastSquares.Text.Quoted

/-!
# Values of any kind

Options, iteration numbers and stop codes are given by callers as values of any kind, and are judged
only when they are used. A value compares with zero if it is a number or a truth value, and not
otherwise.

* `Value.sign`: the comparison with zero, for values that have one.
* `Value.atLeast?`, `Value.exceeds?`: the comparison of two values.
* `Value.kindName`, `Value.message`, `Value.display`: how messages name and show a value.
* `Value.toFloat`: the double that a number stands for.
-/

namespace LeastSquares

/-- A value of any kind that a caller may give. -/
inductive Value where
  | integer (n : Int)
  | boolean (b : Bool)
  | number (x : Float)
  | text (s : String)
  | null
  | callable
  | list (items : List Value)
  | record (fields : List (String × Value))

instance : Inhabited Value := ⟨.null⟩

/-- How a value stands to zero. A double that is no number is on neither side. -/
inductive Sign where
  | negative
  | zero
  | positive
  | unordered
  deriving DecidableEq

namespace Value

/-- The name of a value's kind in messages. -/
def kindName : Value → String
  | .integer _ => "int"
  | .boolean _ => "bool"
  | .number _ => "float"
  | .text _ => "str"
  | .null => "NoneType"
  | .callable => "function"
  | .list _ => "list"
  | .record _ => "dict"

/-- The text of a truth value. -/
def truthText (b : Bool) : String := if b then "True" else "False"

mutual

/-- **A value as it is shown on its own**: a text stands between quotes. -/
def display : Value → String
  | .integer n => Int.repr n
  | .boolean b => truthText b
  | .number x => Decimal.shortest x
  | .text s => Text.quoted s
  | .null => "None"
  | .callable => "<function>"
  | .list items => "[" ++ String.intercalate ", " (displayItems items) ++ "]"
  | .record fields => "\x7b" ++ String.intercalate ", " (displayFields fields) ++ "\x7d"

/-- The items of a list as they are shown. -/
def displayItems : List Value → List String
  | [] => []
  | v :: rest => v.display :: displayItems rest

/-- The fields of a record as they are shown. -/
def displayFields : List (String × Value) → List String
  | [] => []
  | (name, v) :: rest => (Text.quoted name ++ ": " ++ v.display) :: displayFields rest

end

/-- A value as it stands inside a message: a text stands as it is. -/
def message : Value → String
  | .text s => s
  | v => v.display

/-- The comparison of a double with zero. -/
def signOf (x : Float) : Sign :=
  if x < 0 then .negative else if 0 < x then .positive else if x == 0 then .zero else .unordered

/-- **The comparison with zero**, where there is one. -/
def sign : Value → Option Sign
  | .integer n => some (if n < 0 then .negative else if 0 < n then .positive else .zero)
  | .boolean b => some (if b then .positive else .zero)
  | .number x => some (signOf x)
  | _ => none

/-- Whether a value counts as true. -/
def truthy : Value → Bool
  | .integer n => n != 0
  | .boolean b => b
  | .number x => !(x == 0)
  | .text s => !s.isEmpty
  | .null => false
  | .callable => true
  | .list items => !items.isEmpty
  | .record fields => !fields.isEmpty

/-- The integer that an integer or a truth value stands for. -/
def toInt? : Value → Option Int
  | .integer n => some n
  | .boolean b => some (if b then 1 else 0)
  | _ => none

/-- **The double that a number stands for.** A truth value counts as one or zero; an integer is
rounded, and one that no double can hold is infinite. -/
def toFloat : Value → Float
  | .integer n => Binary64.ofInt n
  | .boolean b => if b then 1 else 0
  | .number x => x
  | _ => Binary64.nan

/-- The double that a value stands for, if it is a number or a truth value. -/
def toDouble? : Value → Option Float
  | .text _ | .null | .callable | .list _ | .record _ => none
  | v => some v.toFloat

/-- The least integer that is not below a number; `far` stands for all that lie beyond it on the
side of an infinity. -/
def ceiling? (far : Int) (v : Value) : Option Int :=
  v.toInt? <|> do
    let x ← v.toDouble?
    Binary64.roundUp x <|> if 0 < x then some far else if x < 0 then some (-far) else none

/-- **Whether a value is at least another**, where they compare: numbers do, exactly, and so do
texts. -/
def atLeast? : Value → Value → Option Bool
  | .text s, .text t => some (!decide (s < t))
  | .number x, .number y => some (decide (y ≤ x))
  | .number x, w =>
    w.toInt?.map fun n =>
      match Binary64.roundUp (-x) with
      | some m => decide (n ≤ -m)
      | none => decide (0 < x)
  | v, .number y =>
    v.toInt?.map fun n =>
      match Binary64.roundUp y with
      | some m => decide (m ≤ n)
      | none => decide (y < 0)
  | v, w => do pure (decide ((← w.toInt?) ≤ (← v.toInt?)))

/-- Whether a value is a double that is no number. -/
def isNan : Value → Bool
  | .number x => x.isNaN
  | _ => false

/-- **Whether a value is larger than another**, where they compare. -/
def exceeds? (v w : Value) : Option Bool :=
  (w.atLeast? v).map fun b => !b && !v.isNan && !w.isNan

/-- Whether a value equals a natural number. -/
def isNatural (n : Nat) (v : Value) : Bool :=
  match v with
  | .number x => Binary64.ofInt n == x
  | v => v.toInt? == some (n : Int)

/-- Whether a value is an integer, and not a truth value or a double that equals one. -/
def isInteger : Value → Bool
  | .integer _ => true
  | _ => false

/-- Whether a value can be called. -/
def isCallable : Value → Bool
  | .callable => true
  | _ => false

/-- Whether a value is absent. -/
def isNull : Value → Bool
  | .null => true
  | _ => false

/-- Whether a value may be the key of a table: lists and records may not. -/
def isKey : Value → Bool
  | .list _ | .record _ => false
  | _ => true

end Value

end LeastSquares
