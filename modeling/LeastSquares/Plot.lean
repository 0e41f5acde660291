import LeastSquares.Counting
import LeastSquares.History

/-!
# The plot of a history

The three sequences of statistics against the iterations, on a logarithmic axis, with a dashed line
at every positive tolerance.

* `Plot.ofHistory`: what is drawn.
* `Plot.image`: the size of the picture in a file.
-/

namespace LeastSquares

/-- A line of a plot. -/
structure Plot.Line where
  x : List Float
  y : List Float
  color : String
  style : String
  label : Option String

/-- What is drawn: the size in inches, the scales and texts of the axes, and the lines. -/
structure Plot where
  width : Float
  height : Float
  xscale : String
  yscale : String
  xlabel : String
  ylabel : String
  title : String
  lines : List Plot.Line

/-- A picture in a file: its first bytes and its size in dots. -/
structure Plot.Image where
  signature : List Nat
  width : Nat
  height : Nat

/-- Why a history cannot be plotted. -/
inductive PlotFault where
  /-- No iteration has been recorded. -/
  | noIterations
  /-- The number of iterations is not the number of records. -/
  | seriesLength
  /-- The solve has not ended. -/
  | notFinalized
  /-- The number of iterations is no number. -/
  | notNumber (iters : Value)
  /-- The horizontal axis cannot be laid out. -/
  | axis (e : CountingFault)

/-- The text of a cause; `none` where only the kind of failure is told. -/
def PlotFault.message : PlotFault → Option String
  | .noIterations => some "history has no iterations to plot."
  | .seriesLength => none
  | .notFinalized =>
    some ("int() argument must be a string, a bytes-like object or a real number, not " ++
      "'NoneType'")
  | .axis e => some e.message
  | .notNumber iters =>
    match iters with
    | .text _ | .list _ =>
      some ("can only concatenate " ++ iters.kindName ++ " (not \"int\") to " ++ iters.kindName)
    | _ => some ("unsupported operand type(s) for +: '" ++ iters.kindName ++ "' and 'int'")

namespace Plot

/-- The number of points of the horizontal axis, from one up and short of the number after the last
iteration. A double is counted by the distance of these two. -/
def pointCount (iters : Value) : Except PlotFault Nat :=
  match iters with
  | .number x => (Counting.length "float64" (x + 1 - 1)).mapError .axis
  | v =>
    match v.toDouble? with
    | some x => (Counting.length "int64" x).mapError .axis
    | none => .error (.notNumber v)

/-- The color of a sequence. -/
def color : History.Key → String
  | .anorm => "green"
  | .rnorm => "purple"
  | .cnorm => "orange"

/-- The label of a sequence. -/
def label : History.Key → String
  | .anorm => "anorm = ||A^H r|| / (||A|| ||r||)"
  | .rnorm => "rnorm = ||r|| / ||b||"
  | .cnorm => "cnorm = 1 / cond(A)"

/-- The value of a statistic. -/
def valueOf (a : Extended Float) : Float :=
  match a with
  | .finite x => x
  | .infinite => Binary64.infinity

/-- The tolerance that a sequence is compared with. -/
def tolerance (h : History Value Float) : History.Key → Float
  | .anorm => h.atol
  | .rnorm => h.btol
  | .cnorm => h.ctol

/-- The line of a sequence. -/
def curve (h : History Value Float) (n : Nat) (k : History.Key) : Line :=
  ⟨(List.range n).map fun i => Binary64.ofInt (i + 1 : Nat), (h.series k).map valueOf, color k, "-",
    some (label k)⟩

/-- The mark of a tolerance, from end to end, if it is positive. -/
def mark (h : History Value Float) (k : History.Key) : List Line :=
  let y := tolerance h k
  if 0 < y then [⟨[0, 1], [y, y], color k, "--", none⟩] else []

/-- **What is drawn for a history.** It must have iterations, as many as records, and have ended. -/
def ofHistory (h : History Value Float) : Except PlotFault Plot := do
  if h.iters.sign = some .zero then throw .noIterations
  let n ← pointCount h.iters
  if n ≠ h.tests.length then throw .seriesLength
  match h.stop with
  | none => throw .notFinalized
  | some stop =>
    pure
      { width := 8, height := 5, xscale := "linear", yscale := "log", xlabel := "iteration"
        ylabel := "", title := "LSMR convergence (stop = " ++ Nat.repr stop.code ++ ")"
        lines := History.Key.all.map (curve h n) ++ History.Key.all.flatMap (mark h) }

/-- The labels in the legend. -/
def legend (p : Plot) : List String := p.lines.filterMap Line.label

/-- The picture of a plot at 250 dots per inch. -/
def image (p : Plot) : Image :=
  ⟨[0x89, 0x50, 0x4e, 0x47, 0x0d, 0x0a, 0x1a, 0x0a], (p.width * 250).toUInt64.toNat,
    (p.height * 250).toUInt64.toNat⟩

end Plot

end LeastSquares
