import LeastSquares.Log.Template

/-!
# Loggers

Loggers are known by dotted names and stand below one another as their names say, the root above all
others. A record that a logger lets pass goes to its handlers, and then, as long as loggers
propagate, to those of the loggers above it; each handler has a level of its own.

* `Registry.create`: a logger in its place among the others.
* `Registry.configure`: one handler in place of all that a logger has.
* `Registry.obtain`: a logger, configured if it has no handler.
* `Registry.handling`: the handlers that take a record.
* `Registry.emit`: a record that a logger lets pass, with the handlers that take it.
* `Registry.log`: a record, and what is written because of it.
-/

namespace LeastSquares.Log

/-- Where a handler writes: to one of the caller's streams, or to the standard one. -/
inductive Sink where
  | stream (index : Nat)
  | standard
  deriving DecidableEq

/-- A handler of a logger: one that writes lines of a template to a sink, or one that writes
nothing. -/
inductive Handler where
  | stream (sink : Sink) (level : Value) (template : String)
  | null

/-- A logger, with the name of the one above it. The level zero leaves the decision to the loggers
above. -/
structure Logger where
  above : String
  level : Value
  propagate : Value
  handlers : List Handler

/-- The loggers that have been named so far, the root apart if nobody has changed it. -/
structure Registry where
  loggers : List (String × Logger)

/-- A line that a handler has written. -/
structure Written where
  sink : Sink
  text : String

/-- A record that a logger has let pass, and the handlers that have taken it, in their order. -/
structure Emission where
  record : Record
  handlers : List Handler

/-- Why a logger cannot be configured or used. -/
inductive LogFault where
  /-- There is no level of this name. -/
  | unknownLevel
  /-- A level is neither an integer nor a name. -/
  | levelKind
  /-- A template has no field. -/
  | invalidTemplate
  /-- A template is no text. -/
  | templateKind
  /-- The name of a logger is no text. -/
  | nameKind
  /-- There is no keyword of this name. -/
  | unknownKeyword (name : String)

/-- The text of a cause; `none` where only the kind of failure is told. -/
def LogFault.message : LogFault → Option String
  | .unknownKeyword name =>
    some ("config_logger() got an unexpected keyword argument '" ++ name ++ "'")
  | _ => none

/-- The name of the logger above all others. -/
def rootName : String := "root"

/-- The name of the logger of the solver. -/
def solverName : String := "pylsmr"

/-- The level of information. -/
def info : Int := 20

/-- The number of a level. -/
def levelNumber (v : Value) : Int := v.toInt?.getD 0

/-- The logger that a value names; none in particular is the root. -/
def loggerName (v : Value) : Except LogFault String :=
  match v with
  | .text s => .ok (if s.isEmpty then rootName else s)
  | v => if v.truthy then .error .nameKind else .ok rootName

/-- The level that a value stands for. -/
def levelOf (v : Value) : Except LogFault Value :=
  match v with
  | .integer _ | .boolean _ => .ok v
  | .text s =>
    match levelOfName? s with
    | some n => .ok (.integer n)
    | none => .error .unknownLevel
  | _ => .error .levelKind

/-- The template that a value stands for. -/
def templateOf (v : Value) : Except LogFault String :=
  if !v.truthy then .ok Template.standard
  else
    match v with
    | .text s => if Template.isValid s.toList then .ok s else .error .invalidTemplate
    | _ => .error .templateKind

/-- The parts of a name before its dots, nearest first, from the name read backwards. A dot next to
another one ends no part of its own, and no part is empty. -/
def partsBefore : List Char → List String
  | '.' :: c :: rest => String.ofList (c :: rest).reverse :: partsBefore rest
  | _ :: rest => partsBefore rest
  | [] => []

/-- **The names above a name**, nearest first, the root apart. -/
def namesAbove (name : String) : List String := partsBefore name.toList.reverse

/-- How a logger is to be configured. -/
structure Configuration where
  name : Value := .text solverName
  template : Value := .text Template.standard
  sink : Option Sink := some .standard
  level : Value := .integer info
  propagate : Value := .boolean false

/-- Whether a handler takes records of a level. -/
def Handler.takes (h : Handler) (level : Int) : Bool :=
  match h with
  | .stream _ least _ => decide (levelNumber least ≤ level)
  | .null => true

/-- What a handler writes for a record that it takes. -/
def Handler.write (h : Handler) (r : Record) : List Written :=
  match h with
  | .stream sink _ template =>
    match Template.render? template r with
    | some line => [⟨sink, line ++ "\n"⟩]
    | none => []
  | .null => []

/-- What the handlers of a record have written. -/
def Emission.written (e : Emission) : List Written := e.handlers.flatMap fun h => h.write e.record

namespace Registry

/-- No logger has been named. -/
def empty : Registry := ⟨[]⟩

/-- A logger that nobody has changed: it leaves the level to those above, and the root takes
warnings and what is worse. -/
def fresh (name : String) (above : String) : Logger :=
  ⟨above, .integer (if name = rootName then 30 else 0), .boolean true, []⟩

/-- Whether a logger of this name is there. -/
def contains (g : Registry) (name : String) : Bool := (g.loggers.lookup name).isSome

/-- The logger of a name. -/
def find (g : Registry) (name : String) : Logger :=
  (g.loggers.lookup name).getD (fresh name rootName)

/-- Puts a logger in place of the one that has its name. -/
def put (g : Registry) (name : String) (l : Logger) : Registry :=
  ⟨(name, l) :: g.loggers.filter fun e => e.1 != name⟩

/-- Puts a new name above a logger if it is one of the names above that logger, unless what the
logger has above it begins with the new name. -/
def adopt (name : String) (e : String × Logger) : String × Logger :=
  if (namesAbove e.1).contains name && !e.2.above.startsWith name then
    (e.1, { e.2 with above := name })
  else e

/-- **A logger in its place**, unless it is there already: below the nearest logger whose name is
above its own, and above those that it is nearer to. -/
def create (g : Registry) (name : String) : Registry :=
  if name = rootName || g.contains name then g
  else
    let above := ((namesAbove name).find? g.contains).getD rootName
    ⟨(name, fresh name above) :: g.loggers.map (adopt name)⟩

/-- **Configures a logger with a single handler.** What was changed before a failure stays
changed. -/
def configure (c : Configuration) : EStateM LogFault Registry String := do
  let name ← ofExcept (loggerName c.name)
  modify fun g => g.create name
  let level ← ofExcept (levelOf c.level)
  let l : Logger := { (← get).find name with level := level, propagate := c.propagate }
  modify fun g => g.put name { l with handlers := [] }
  let handler ←
    match c.sink with
    | none => pure Handler.null
    | some sink => do
      let template ← ofExcept (templateOf c.template)
      pure (Handler.stream sink level template)
  modify fun g => g.put name { l with handlers := [handler] }
  pure name

/-- **A logger**, configured on its first use. -/
def obtain (given : Value) : EStateM LogFault Registry String := do
  let name ← ofExcept (loggerName given)
  modify fun g => g.create name
  if ((← get).find name).handlers.isEmpty then
    configure { name := given }
  else pure name

/-- The level that decides for a logger: the first one above it, itself included, that is not zero.
The steps are as many as names can have parts. -/
def effectiveLevel (g : Registry) : Nat → String → Int
  | 0, _ => 0
  | steps + 1, name =>
    let l := g.find name
    let n := levelNumber l.level
    if n ≠ 0 then n
    else if name = rootName then 0
    else effectiveLevel g steps l.above

/-- The handlers that a record of a logger comes to, its own first. -/
def reached (g : Registry) : Nat → String → List Handler
  | 0, _ => []
  | steps + 1, name =>
    let l := g.find name
    l.handlers ++
      (if l.propagate.truthy && name != rootName then reached g steps l.above else [])

/-- The number of loggers from one of a name up to the root, at most. -/
def depth (name : String) : Nat := name.length + 2

/-- Whether a logger lets records of a level pass. Those of levels from zero down never are. -/
def passes (g : Registry) (name : String) (level : Int) : Bool :=
  decide (0 < level) && decide (g.effectiveLevel (depth name) name ≤ level)

/-- **The handlers that take a record** of a logger at a level, once it has passed, in the order in
which they do. -/
def handling (g : Registry) (name : String) (level : Int) : List Handler :=
  (g.reached (depth name) name).filter fun h => h.takes level

/-- **A record that is handed to its logger**: nothing comes of it unless it passes. -/
def emit (g : Registry) (r : Record) : Option Emission :=
  let level := levelNumber r.level
  if g.passes r.logger level then some ⟨r, g.handling r.logger level⟩ else none

/-- What is written for a text at a level. -/
def write (g : Registry) (name : String) (level : Value) (text : String) : List Written :=
  ((g.emit ⟨name, level, ⟨text, []⟩⟩).map Emission.written).getD []

/-- A text that is logged by name and level of any kind. The level must be an integer. -/
def log (name level : Value) (text : String) :
    EStateM LogFault Registry (String × List Written) := do
  let name ← ofExcept (loggerName name)
  modify fun g => g.create name
  match level with
  | .integer _ | .boolean _ => pure (name, (← get).write name level text)
  | _ => throw .levelKind

end Registry

end LeastSquares.Log
