import LeastSquares.Tensor

/-!
# Plain data

Values, and lists of them nested to any depth, as callers give them where arrays are wanted. They
become an array if the lists are even, that is if all lists of one depth have one length. Its type
is the one that is asked for, or the least that holds every value.

* `ElementType.named`: the type of a name.
* `Plain.shape`: the extents of even lists.
* `Plain.elementType`: the least type of the values.
* `Plain.toTensor`: the array.
-/

namespace LeastSquares

/-- **The type of a name**, if there is one. -/
def ElementType.named (s : String) : Except Fault ElementType :=
  match ElementType.ofName? s with
  | some t => .ok t
  | none => .error (if ElementType.retired.contains s then .retiredType s else .unknownType s)

/-- What stands in a list: a value, or the two parts of a complex number. -/
inductive Atom where
  | value (v : Value)
  | pair (re im : Number)

/-- Plain data: what stands alone, or a list. -/
inductive Plain where
  | atom (a : Atom)
  | list (items : List Plain)

instance : Inhabited Plain := ⟨.list []⟩

namespace Atom

/-- **The type of a value that stands alone.** An integer has 64 bits, without sign if it needs them
all; one that does not fit is no number of an array. -/
def elementType : Atom → ElementType
  | .value (.integer n) =>
    if ElementType.wrap .w64 true n = n then .signed .w64
    else if ElementType.wrap .w64 false n = n then .unsigned .w64
    else .object
  | .value (.boolean _) => .boolean
  | .value (.number _) => .float64
  | .value _ => .object
  | .pair _ _ => .complex .double

/-- Whether an integer type is handed its values as unsigned words of 64 bits. -/
def takesUnsigned (type : ElementType) : Bool :=
  type == .unsigned .w32 || type == .unsigned .w64

/-- An integer as an entry of an integer type. It must have a place in a word of 64 bits, and then
in the type. -/
def fitWhole (type : ElementType) (n : Int) : Except Fault Entry :=
  let limit : Int := (Nat.pow 2 (if takesUnsigned type then 64 else 63) : Nat)
  if n < -(Nat.pow 2 63 : Int) ∨ limit ≤ n then .error .integerTooWide
  else
    match type.store (.whole n) with
    | .whole m => if m = n then .ok (.whole n) else .error (.integerBounds n type)
    | e => .ok e

/-- **The entry of an integer type**: an integer that fits, or a double without its fraction. -/
def toWhole (type : ElementType) : Atom → Except Fault Entry
  | .value (.number x) =>
    match Binary64.truncate x with
    | some n => fitWhole type n
    | none => .error (if x.isNaN then .integerOfNan else .integerOfInfinity)
  | .value v =>
    match v.toInt? with
    | some n => fitWhole type n
    | none => .error (.integerOfOther v)
  | .pair _ _ => .error (.integerOfOther .null)

/-- The entry of a type of fractions. What is absent is no number; anything else must convert to a
double. -/
def toNumber (type : ElementType) : Atom → Except Fault Entry
  | .value .null => .ok (type.store (.ofReal Binary64.nan))
  | .value v => (Fault.double v).map fun x => type.store (.ofReal x)
  | .pair re im => .ok (type.store (.number re im))

/-- The value of an entry. A number of extended precision has none of its own, and stands as the
pair that it is. -/
def ofEntry : Entry → Atom
  | .whole n => .value (.integer n)
  | .number (.double x) y => if y.isZero then .value (.number x) else .pair x y
  | .number x y => .pair x y

/-- **The entry that a value becomes in a type.** -/
def toEntry (type : ElementType) (a : Atom) : Except Fault Entry :=
  match type with
  | .boolean =>
    match a with
    | .value v => .ok (.whole (if v.truthy then 1 else 0))
    | .pair re im => .ok (type.store (.number re im))
  | .unsigned _ | .signed _ => a.toWhole type
  | .real _ | .complex _ => a.toNumber type
  | .object =>
    match a with
    | .value v => .ok ((v.toInt?.map Entry.whole).getD (.ofReal v.toFloat))
    | .pair re im => .ok (.number re im)

end Atom

namespace Plain

mutual

/-- **The plain data of a value**: a list is taken apart, and anything else stands alone. -/
def ofValue : Value → Plain
  | .list items => .list (ofValues items)
  | v => .atom (.value v)

/-- The plain data of every value. -/
def ofValues : List Value → List Plain
  | [] => []
  | v :: rest => ofValue v :: ofValues rest

end

/-- The common beginning of two lists of extents. -/
def commonStart : List Nat → List Nat → List Nat
  | m :: s, n :: t => if m = n then m :: commonStart s t else []
  | _, _ => []

/-- What the items of a list have in common: the extents that all of them begin with, and whether
these are all extents of each. -/
def commonShape : List (List Nat × Bool) → List Nat × Bool
  | [] => ([], true)
  | [s] => s
  | (s, even) :: rest =>
    let (t, evenRest) := commonShape rest
    let u := commonStart s t
    (u, even && evenRest && s.length == u.length && t.length == u.length)

mutual

/-- **The extents of plain data**, and whether its lists are even; if not, as many as are common to
all. -/
def shape : Plain → List Nat × Bool
  | .atom _ => ([], true)
  | .list items =>
    let (s, even) := commonShape (shapes items)
    (items.length :: s, even)

/-- The extents of every item. -/
def shapes : List Plain → List (List Nat × Bool)
  | [] => []
  | p :: rest => p.shape :: shapes rest

end

mutual

/-- All that stands in lists, in order. -/
def atoms : Plain → List Atom
  | .atom a => [a]
  | .list items => atomsOf items

/-- All that stands in the items of a list. -/
def atomsOf : List Plain → List Atom
  | [] => []
  | p :: rest => p.atoms ++ atomsOf rest

end

/-- **The least type that holds every value**; doubles if there is none. -/
def elementType (p : Plain) : ElementType :=
  match p.atoms with
  | [] => .float64
  | a :: rest => (rest.map Atom.elementType).foldl ElementType.promote a.elementType

/-- **The array of plain data**, in a type that is asked for or in the least one. Its lists are
even, and not nested more deeply than an array has axes. -/
def toTensor (type : Option ElementType) (p : Plain) : Except Fault Tensor := do
  let (shape, even) := p.shape
  if depthLimit < shape.length + (if even then 0 else 1) then throw .tooDeep
  if !even then throw (.unevenLists (shape.map Int.ofNat))
  let type := type.getD p.elementType
  let entries ← p.atoms.mapM (Atom.toEntry type)
  pure ⟨type, shape, entries.toArray⟩

end Plain

/-- What a caller gives where a vector is needed: an array, plain data, or nothing. -/
inductive Given where
  | array (t : Tensor)
  | plain (p : Plain)
  | missing

namespace Given

/-- What was given, as an array. Nothing is a single thing that is no number. -/
def toTensor : Given → Except Fault Tensor
  | .array t => .ok t
  | .plain p => p.toTensor none
  | .missing => .ok ⟨.object, [], #[]⟩

/-- **A copy in a type.** The numbers of an array are stored in the type; plain ones must fit, and
so must those of an array that is of no type of numbers. -/
def copy (type : ElementType) (g : Given) : Except Fault Tensor := do
  match g with
  | .plain p => p.toTensor (some type)
  | g =>
    let t ← g.toTensor
    if t.type = .object then
      let entries ← t.entries.mapM fun e => (Atom.ofEntry e).toEntry type
      pure ⟨type, t.shape, entries⟩
    else pure (t.cast type)

end Given

end LeastSquares
