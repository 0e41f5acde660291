import LeastSquares.Log.Message
import LeastSquares.Text.WordCharacter

/-!
# Templates of log lines

A template is a text with fields such as `%(name)s` that are filled from a record: its message, the
name of its level, the number of its level, the name of its logger. A field names a value and says
how it is converted: by flags, a least width, a precision and a letter. Two percent signs stand for
one.

* `Template.isValid`: whether a template has at least one field.
* `Template.parse?`: the pieces of a template.
* `Template.render?`: the line of a record, unless a field cannot be filled.
-/

namespace LeastSquares.Log

/-- What a logger hands to its handlers. -/
structure Record where
  logger : String
  level : Value
  message : Message

/-- The names of the levels that have one. -/
def levelNames : List (String × Int) :=
  [("CRITICAL", 50), ("FATAL", 50), ("ERROR", 40), ("WARN", 30), ("WARNING", 30), ("INFO", 20),
    ("DEBUG", 10), ("NOTSET", 0)]

/-- The number of a level that is given by its name. -/
def levelOfName? (s : String) : Option Int := levelNames.lookup s

/-- The name of a level, as lines show it. -/
def levelText (level : Value) : String :=
  match level.toInt? with
  | some 50 => "CRITICAL"
  | some 40 => "ERROR"
  | some 30 => "WARNING"
  | some 20 => "INFO"
  | some 10 => "DEBUG"
  | some 0 => "NOTSET"
  | _ => "Level " ++ level.message

/-- **The value of a field**, where a record has it; `message` is the text of its message. -/
def Record.field? (r : Record) (message name : String) : Option Value :=
  match name with
  | "message" => some (.text message)
  | "msg" => some (.text r.message.format)
  | "name" => some (.text r.logger)
  | "levelname" => some (.text (levelText r.level))
  | "levelno" => some r.level
  | "threadName" => some (.text "MainThread")
  | "processName" => some (.text "MainProcess")
  | "exc_info" | "exc_text" | "stack_info" => some .null
  | _ => none

namespace Template

/-- A template that is not given, or empty, is the message alone. -/
def standard : String := "%(message)s"

/-! ### Validity -/

/-- The letters that may end a field, large or small. Three letters of other scripts have one of
them as their other case. -/
def isEnding (c : Char) : Bool :=
  "diouxefgcrsa%".toList.contains c.toLower || [0x130, 0x131, 0x17f].contains c.toNat

/-- What follows a width or a precision: a star, or digits of any script. -/
def afterMeasure (cs : List Char) : List Char :=
  match cs with
  | '*' :: rest => rest
  | cs => cs.dropWhile fun c => (Text.digitValue? c).isSome

/-- What follows a precision, which is a point and a star or digits. -/
def afterPrecision (cs : List Char) : List Char :=
  match cs with
  | '.' :: rest =>
    let after := afterMeasure rest
    if after.length = rest.length then cs else after
  | cs => cs

/-- Whether a field is written in full after a percent sign. Its name is a word. -/
def startsField (cs : List Char) : Bool :=
  match cs with
  | '(' :: rest =>
    match rest.takeWhile Text.isWordCharacter, rest.dropWhile Text.isWordCharacter with
    | _ :: _, ')' :: rest =>
      match afterPrecision (afterMeasure (rest.dropWhile Directive.isFlag)) with
      | c :: _ => isEnding c
      | [] => false
    | _, _ => false
  | _ => false

/-- **Whether a template has at least one field** that is written in full. -/
def isValid (template : List Char) : Bool :=
  match template with
  | [] => false
  | c :: rest => (c == '%' && startsField rest) || isValid rest

/-! ### Pieces -/

/-- A field as it is written: the name of its value, and how that is converted. -/
structure Field where
  name : String
  directive : Directive

/-- A name up to the parenthesis that closes it, and what follows. The name may hold further pairs
of parentheses; `depth` of them are open. -/
def closing? (depth : Nat) : List Char → Option (String × List Char)
  | [] => none
  | c :: rest =>
    if c = ')' ∧ depth = 0 then some ("", rest)
    else
      let depth := if c = '(' then depth + 1 else if c = ')' then depth - 1 else depth
      (closing? depth rest).map fun (name, rest) => (String.singleton c ++ name, rest)

/-- A field after its percent sign, and what follows it. -/
def field? (cs : List Char) : Option (Field × List Char) :=
  match cs with
  | '(' :: rest => do
    let (name, rest) ← closing? 0 rest
    let (d, rest) ← Directive.parse? rest
    some (⟨name, d⟩, rest)
  | _ => none

/-- **The pieces of a template**, unless a field is not complete. -/
def parse? (template : String) : Option (List (Piece Field)) :=
  piecesFrom field? template.length template.toList

/-! ### Lines -/

/-- The text of a field for a record. Its letter must name a conversion that fits the value. Of the
arguments of a record it is shown only that there are none, by an empty pair of parentheses. -/
def fill? (r : Record) (message : String) (f : Field) : Option String := do
  let c ← f.directive.conversion?
  if f.name = "args" ∧ r.message.arguments.isEmpty then c.writeShown? "()"
  else c.write? (← r.field? message f.name)

/-- The text of a piece for a record. -/
def pieceText? (r : Record) (message : String) : Piece Field → Option String
  | .literal c => some (String.singleton c)
  | .special f => fill? r message f

/-- **The line of a record**, unless its message or a field cannot be written. -/
def render? (template : String) (r : Record) : Option String := do
  let message ← r.message.text?
  let texts ← (← parse? template).mapM (pieceText? r message)
  pure (String.join texts)

end Template

end LeastSquares.Log
