import LeastSquares.Operator

/-!
# Lengths that have to agree

An operator with `m` rows and `n` columns takes a solution of length `n` and a right-hand side of
length `m`, both one-dimensional. The solution is checked first, then the working vectors, then the
right-hand side. The length that is expected may be a value of any kind; only a number equals one.

* `checkLength`: one vector.
* `checkDimensions`: all vectors of a solve.
-/

namespace LeastSquares

/-- **One vector**: it must be one-dimensional and have the length that is expected. -/
def checkLength (name : String) (vec : Given) (expected : Value) : Except Fault Unit :=
  match vec.toTensor with
  | .error _ => .error .noShape
  | .ok t =>
    match t.shape with
    | [n] => if expected.isNatural n then .ok () else .error (.wrongLength name n expected)
    | _ => .error (.notVector name t.extents)

/-- Gives a name to a vector: a further one of the same name takes the place of the first. -/
def nameVector (work : List (String × Given)) (w : String × Given) : List (String × Given) :=
  if work.any fun v => v.1 == w.1 then work.map fun v => if v.1 == w.1 then w else v
  else work ++ [w]

/-- **All vectors of a solve** against the shape of the operator. Working vectors are told apart by
their names, which must not be those of the operator, the right-hand side or the solution. -/
def checkDimensions (shape : List Value) (b x : Given) (work : List (String × Given)) :
    Except Fault Unit := do
  let work := work.foldl nameVector []
  match work.find? fun w => ["A", "b", "x"].contains w.1 with
  | some w => throw (.givenTwice "check_dimensions" w.1)
  | none => pure ()
  let (m, n) ← extentPair shape
  checkLength "x" x n
  work.forM fun (name, vec) => checkLength name vec n
  checkLength "b" b m

end LeastSquares
