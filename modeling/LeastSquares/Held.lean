import LeastSquares.Plain

/-!
# Arrays and lists under a name

An array that stands under a name is changed in place, and whoever gave it sees the change. A list
is not: a sum is a new array that takes over the name, and the list stays as it was given. Multiples
of a list there are none.

* `Held.ofGiven`: what is given, under a name.
* `Held.seen`: what the one who gave it sees.
-/

namespace LeastSquares

/-- What stands under a name: an array or a list, and the list that was given for it, if any. -/
structure Held where
  current : Tensor
  isList : Bool
  list : Option Tensor

namespace Held

/-- **What is given, under a name.** -/
def ofGiven (g : Given) : Except Fault Held := do
  let t ← g.toTensor
  match g with
  | .plain (.list _) => pure ⟨t, true, some t⟩
  | _ => pure ⟨t, false, none⟩

/-- **What the one who gave it sees.** -/
def seen (h : Held) : Tensor := h.list.getD h.current

/-- A new array under the name. -/
def replace (h : Held) (t : Tensor) : Held := { h with current := t, isList := false }

/-- The name of a kind of doubles. -/
def kindName : Kind → String
  | .unchecked p => "numpy.float" ++ Nat.repr p.bits
  | _ => "float"

/-- A multiple. -/
def scale (h : Held) (a : Double) : Except Fault Held :=
  if h.isList then .error (.listMultiple (kindName a.kind)) else (h.current.scale a).map h.replace

/-- A sum or a difference. -/
def combine (operation : InPlace) (op : ElementType → Entry → Entry → Entry) (h k : Held) :
    Except Fault Held :=
  (if h.isList then Tensor.combined operation op h.current k.current
    else Tensor.inPlace operation op h.current k.current).map h.replace

end Held

instance : Vectors Double Held where
  scale := Held.scale
  add := Held.combine .add ElementType.add
  sub := Held.combine .subtract ElementType.sub
  addScaled h a k := h.combine .add ElementType.add (k.replace (k.current.multiple a))
  assign h k := (h.current.assign k.current).map h.replace
  norm h := h.current.norm

end LeastSquares
