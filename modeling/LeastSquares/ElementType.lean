import LeastSquares.Number

/-!
# Element types

The type of the entries of an array: truth values, integers of a width, real and complex numbers of
a precision. Arithmetic between two arrays takes place in the promotion of their types, and its
result may be stored in a target of another type only if that does not go to a lesser kind.

* `ElementType.promote`: the type that holds what two types hold.
* `ElementType.withPlain`: the type of an operation with a plain number.
* `ElementType.accepts`: whether a target may take a computed type.
* `ElementType.store`: what becomes of a number that is stored in a type.
* `ElementType.add`, `ElementType.mul`: sums and products in a type.
-/

namespace LeastSquares

/-- The width of an integer type. -/
inductive Width where
  | w8
  | w16
  | w32
  | w64
  deriving DecidableEq

/-- The number of bits. -/
def Width.bits : Width → Nat
  | .w8 => 8
  | .w16 => 16
  | .w32 => 32
  | .w64 => 64

/-- The wider of two widths. -/
def Width.max (v w : Width) : Width := if v.bits < w.bits then w else v

/-- The type of the entries of an array. The parts of a complex number have at least single
precision. `object` stands for what is no number at all. -/
inductive ElementType where
  | boolean
  | unsigned (w : Width)
  | signed (w : Width)
  | real (p : Precision)
  | complex (p : Precision)
  | object
  deriving DecidableEq

/-- A number as an array holds it: an integer of any size, or a number by its two parts. Integer
types hold integers; real types hold numbers whose imaginary part is zero. -/
inductive Entry where
  | whole (n : Int)
  | number (re im : Number)

namespace Entry

/-- A real number as an entry. -/
def ofNumber (x : Number) : Entry := .number x (.double 0)

/-- A double as an entry. -/
def ofReal (x : Float) : Entry := ofNumber x

/-- The entry zero. -/
def zero : Entry := .whole 0

/-- The real part, an integer as a number of a precision. -/
def reIn (p : Precision) : Entry → Number
  | .whole n => p.ofInt n
  | .number x _ => x

/-- The real part. -/
def re (a : Entry) : Number := a.reIn .double

/-- The imaginary part. -/
def im : Entry → Number
  | .whole _ => .double 0
  | .number _ y => y

/-- Whether an entry is zero. -/
def isZero : Entry → Bool
  | .whole n => n == 0
  | .number x y => x.isZero && y.isZero

/-- Sum: exact between integers, and by parts otherwise. -/
def add : Entry → Entry → Entry
  | .whole m, .whole n => .whole (m + n)
  | a, b => .number (a.re + b.re) (a.im + b.im)

/-- Difference: exact between integers, and by parts otherwise. -/
def sub : Entry → Entry → Entry
  | .whole m, .whole n => .whole (m - n)
  | a, b => .number (a.re - b.re) (a.im - b.im)

/-- Product of complex numbers, each operation on parts rounded; exact between integers. -/
def mul (round : Number → Number) : Entry → Entry → Entry
  | .whole m, .whole n => .whole (m * n)
  | a, b =>
    .number (round (round (a.re * b.re) - round (a.im * b.im)))
      (round (round (a.re * b.im) + round (a.im * b.re)))

/-- Whether an entry is an integer that no double can hold. -/
def isOversized : Entry → Bool
  | .whole n => (Binary64.ofInt n).isInf
  | .number _ _ => false

/-- Whether two entries can be computed with: an integer that no double can hold needs another
integer. -/
def canMeet : Entry → Entry → Bool
  | .whole _, .whole _ => true
  | a, b => !a.isOversized && !b.isOversized

/-- The conjugate. -/
def conj : Entry → Entry
  | .whole n => .whole n
  | .number x y => .number x (-y)

end Entry

namespace ElementType

/-- The name of a type. -/
def name : ElementType → String
  | .boolean => "bool"
  | .unsigned w => "uint" ++ Nat.repr w.bits
  | .signed w => "int" ++ Nat.repr w.bits
  | .real p => "float" ++ Nat.repr p.bits
  | .complex p => "complex" ++ Nat.repr (2 * p.bits)
  | .object => "object"

/-- All types. -/
def all : List ElementType :=
  [.boolean, .unsigned .w8, .unsigned .w16, .unsigned .w32, .unsigned .w64, .signed .w8,
    .signed .w16, .signed .w32, .signed .w64, .real .half, .real .single, .real .double,
    .real .extended, .complex .single, .complex .double, .complex .extended, .object]

/-- The type of doubles. -/
def float64 : ElementType := .real .double

/-- Further names of types: those of the kinds of numbers that machines have. -/
def aliases : List (String × ElementType) :=
  [("half", .real .half), ("single", .real .single), ("double", float64), ("float", float64),
    ("longdouble", .real .extended), ("bool_", .boolean), ("byte", .signed .w8),
    ("short", .signed .w16), ("intc", .signed .w32), ("int", .signed .w64), ("int_", .signed .w64),
    ("intp", .signed .w64), ("long", .signed .w64), ("longlong", .signed .w64),
    ("ubyte", .unsigned .w8), ("ushort", .unsigned .w16), ("uintc", .unsigned .w32),
    ("uint", .unsigned .w64), ("uintp", .unsigned .w64), ("ulong", .unsigned .w64),
    ("ulonglong", .unsigned .w64), ("csingle", .complex .single), ("cdouble", .complex .double),
    ("complex", .complex .double), ("clongdouble", .complex .extended), ("object_", .object)]

/-- The type that a letter stands for on its own. -/
def ofLetter? : Char → Option ElementType
  | '?' => some .boolean
  | 'b' => some (.signed .w8)
  | 'h' => some (.signed .w16)
  | 'i' => some (.signed .w32)
  | 'l' | 'q' | 'p' | 'n' => some (.signed .w64)
  | 'B' => some (.unsigned .w8)
  | 'H' => some (.unsigned .w16)
  | 'I' => some (.unsigned .w32)
  | 'L' | 'Q' | 'P' | 'N' => some (.unsigned .w64)
  | 'e' => some (.real .half)
  | 'f' => some (.real .single)
  | 'd' => some float64
  | 'g' => some (.real .extended)
  | 'F' => some (.complex .single)
  | 'D' => some (.complex .double)
  | 'G' => some (.complex .extended)
  | 'O' => some .object
  | _ => none

/-- The number of bytes of an entry, where the type alone tells it. -/
def bytes : ElementType → Nat
  | .boolean => 1
  | .unsigned w | .signed w => w.bits / 8
  | .real p => p.bits / 8
  | .complex p => p.bits / 4
  | .object => 8

/-- The letter that stands for a type together with its number of bytes. -/
def letter : ElementType → Char
  | .boolean => 'b'
  | .unsigned _ => 'u'
  | .signed _ => 'i'
  | .real _ => 'f'
  | .complex _ => 'c'
  | .object => 'O'

/-- The type of a letter and a number of bytes, or of a letter alone. -/
def ofCode? : List Char → Option ElementType
  | [] => none
  | [c] => ofLetter? c
  | c :: digits =>
    if digits.all Char.isDigit then
      let size := digits.foldl (fun n d => 10 * n + (d.toNat - 48)) 0
      all.find? fun t => t.letter == c && t.bytes == size
    else none

/-- A code without the mark of its byte order in front. -/
def unmarked : List Char → List Char
  | c :: rest => if "<>=|".toList.contains c then rest else c :: rest
  | [] => []

/-- **The type of a name** or of a code. -/
def ofName? (s : String) : Option ElementType :=
  ofCode? (unmarked s.toList) <|> (all.find? fun t => t.name == s) <|> aliases.lookup s

/-- Names that types have had. -/
def retired : List String := ["int0", "uint0", "void0", "object0", "str0", "bytes0", "bool8"]

/-- The precision that real numbers need to hold what a type holds. -/
def needed : ElementType → Precision
  | .boolean => .half
  | .unsigned w | .signed w =>
    match w with
    | .w8 => .half
    | .w16 => .single
    | .w32 | .w64 => .double
  | .real p => p
  | .complex p => p
  | .object => .double

/-- The signed type that holds both an unsigned and a signed one; past 64 bits the doubles. -/
def mixed (u s : Width) : ElementType :=
  if u.bits < s.bits then .signed s
  else
    match u with
    | .w8 => .signed .w16
    | .w16 => .signed .w32
    | .w32 => .signed .w64
    | .w64 => float64

/-- **The type that holds what two types hold.** -/
def promote : ElementType → ElementType → ElementType
  | .object, _ | _, .object => .object
  | .complex p, t | t, .complex p => .complex (p.max t.needed)
  | .real p, t | t, .real p => .real (p.max t.needed)
  | .boolean, t | t, .boolean => t
  | .unsigned v, .unsigned w => .unsigned (v.max w)
  | .signed v, .signed w => .signed (v.max w)
  | .unsigned u, .signed s | .signed s, .unsigned u => mixed u s

/-- The kinds of plain numbers, which have no width or precision of their own. -/
inductive PlainKind where
  | truth
  | integer
  | real
  | complex
  deriving DecidableEq

/-- **The type of an operation between a type and a plain number.** The number takes the type as it
is, unless it is of a higher kind than the type. -/
def withPlain : ElementType → PlainKind → ElementType
  | t, .truth => t
  | .boolean, .integer => .signed .w64
  | t, .integer => t
  | .boolean, .real | .unsigned _, .real | .signed _, .real => float64
  | t, .real => t
  | .boolean, .complex | .unsigned _, .complex | .signed _, .complex => .complex .double
  | .real p, .complex => .complex (p.max .single)
  | t, .complex => t

/-- The type in which sums of products are formed: half precision is not used for them. -/
def summing : ElementType → ElementType
  | .real p => .real p.summing
  | t => t

/-- The kinds of types in order: truth values, unsigned, signed, real, complex, the rest. -/
def rank : ElementType → Nat
  | .boolean => 0
  | .unsigned _ => 1
  | .signed _ => 2
  | .real _ => 3
  | .complex _ => 4
  | .object => 5

/-- **Whether a target of this type takes what was computed in another**: it must not be of a lesser
kind. Precision and width may be lost. -/
def accepts (target computed : ElementType) : Bool := decide (computed.rank ≤ target.rank)

/-- Whether the type holds fractions. -/
def isInexact (t : ElementType) : Bool := t.rank == 3 || t.rank == 4

/-- Whether the type holds complex numbers. -/
def isComplex (t : ElementType) : Bool := t.rank == 4

/-- Whether its numbers are of single precision. -/
def isSingle (t : ElementType) : Bool := t == .real .single || t == .complex .single

/-- The precision of the parts of its numbers; integers are computed with as doubles. -/
def partPrecision : ElementType → Precision
  | .real p => p
  | .complex p => p
  | _ => .double

/-- An integer reduced to a width. -/
def wrap (w : Width) (issigned : Bool) (n : Int) : Int :=
  let size := Nat.pow 2 w.bits
  if issigned then Int.bmod n size else Int.emod n size

/-- The least integer of a width, as a signed one. -/
def leastOf (w : Width) : Int := -(Nat.pow 2 (w.bits - 1) : Int)

/-- The whole part of a number as a signed integer of a width; one that has no place there becomes
the least. -/
def cut (w : Width) (x : Number) : Int :=
  match x.truncate with
  | some n => if wrap w true n = n then n else leastOf w
  | none => leastOf w

/-- The width in which numbers are cut to integers of a type: 32 bits up to signed ones of that
width, and 64 bits otherwise. -/
def cutWidth (w : Width) (issigned : Bool) : Width :=
  match w with
  | .w8 | .w16 => .w32
  | .w32 => if issigned then .w32 else .w64
  | .w64 => .w64

/-- The integer that a number becomes. Unsigned ones of 64 bits also take the upper half of their
range. -/
def integerOf (w : Width) (issigned : Bool) (x : Number) : Int :=
  match w, issigned, x.truncate with
  | .w64, false, some n =>
    if 0 ≤ n then (if wrap .w64 false n = n then n else 0) else wrap .w64 false (cut .w64 x)
  | _, _, _ => wrap w issigned (cut (cutWidth w issigned) x)

/-- **What becomes of a number that is stored in a type**: fractions are cut, integers wrap around,
imaginary parts are dropped, precision is rounded. -/
def store : ElementType → Entry → Entry
  | .boolean, a => .whole (if a.isZero then 0 else 1)
  | .unsigned w, .whole n => .whole (wrap w false n)
  | .unsigned w, .number x _ => .whole (integerOf w false x)
  | .signed w, .whole n => .whole (wrap w true n)
  | .signed w, .number x _ => .whole (integerOf w true x)
  | .real p, a => .ofNumber (p.round (a.reIn p))
  | .complex p, a => .number (p.round (a.reIn p)) (p.round a.im)
  | .object, a => a

/-- **The sum in a type**, of entries that it holds. -/
def add (t : ElementType) (a b : Entry) : Entry := t.store (a.add b)

/-- **The difference in a type**, of entries that it holds. -/
def sub (t : ElementType) (a b : Entry) : Entry := t.store (a.sub b)

/-- **The product in a type**, of entries that it holds. -/
def mul (t : ElementType) (a b : Entry) : Entry := t.store (a.mul t.partPrecision.round b)

end ElementType

end LeastSquares
