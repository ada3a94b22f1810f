import TableGraph.Number.Reading
import TableGraph.Text.WhiteSpace
import TableGraph.Text.WordCharacter

/-!
# Log filters

A filter is a list of directives between commas.  A directive names a level, a
target, a span with fields in brackets, or a level for one of those.
-/

namespace TableGraph.CommandLine

/-- How much is logged. -/
inductive LogLevel where
  | off
  | error
  | warn
  | info
  | debug
  | trace
  deriving DecidableEq, Repr

namespace LogLevel

/-- The levels in the order of their numbers. -/
def all : List LogLevel := [.off, .error, .warn, .info, .debug, .trace]

def name : LogLevel → String
  | .off => "off"
  | .error => "error"
  | .warn => "warn"
  | .info => "info"
  | .debug => "debug"
  | .trace => "trace"

/-- The number of a level. -/
def number? (text : List Char) : Option Nat :=
  let digits :=
    match text with
    | '+' :: digits => digits
    | digits => digits
  if !digits.isEmpty && digits.all Char.isDigit then some (naturalOfDigits digits) else none

/-- The level of a number or, in any case, of a name. -/
def ofText? (text : List Char) : Option LogLevel :=
  match number? text with
  | some number => all[number]?
  | none => all.find? fun level => level.name == String.ofList (text.map Char.toLower)

end LogLevel

/-- Why a directive is refused. -/
inductive LogFilterFault where
  | directive
  | level
  deriving DecidableEq, Repr

def LogFilterFault.message : LogFilterFault → String
  | .directive => "invalid filter directive"
  | .level =>
    "error parsing level filter: expected one of \"off\", \"error\", \"warn\", \"info\", " ++
      "\"debug\", \"trace\", or a number 0-5"

/-- What a directive says; without a level everything is logged. -/
structure LogDirective where
  target : Option String
  span : Option String
  fields : List String
  level : LogLevel
  deriving DecidableEq, Repr

/-- Which part of a directive is being read, with the place where it starts. -/
inductive DirectivePart where
  | start
  | levelOrTarget (place : Nat)
  | span (place : Nat)
  | field (place : Nat)
  | fields
  | target
  | level (place : Nat)

namespace LogDirective

/-- Whether a directive may begin with a character. -/
def isInitial (character : Char) : Bool :=
  isWordCharacter character || character == '-' || character == ':'

/-- A level in the text; nothing stands for everything. -/
def levelOf (text : List Char) : Except LogFilterFault LogLevel :=
  if text.isEmpty then .ok .trace
  else
    match LogLevel.ofText? text with
    | some level => .ok level
    | none => .error .level

/-- Read one character at a place.  The parts are cut out of the text as it was
given, although the places are counted without the blanks around it. -/
def step (given : List Char) (state : LogDirective × DirectivePart) (place : Nat)
    (character : Char) : Except LogFilterFault (LogDirective × DirectivePart) :=
  let (directive, part) := state
  let cut (start : Nat) : String := String.ofList ((given.take place).drop start)
  match part, character with
  | .start, '[' => .ok (directive, .span (place + 1))
  | .start, first =>
    if isInitial first then .ok (directive, .levelOrTarget place) else .error .directive
  | .levelOrTarget start, '=' =>
    .ok ({ directive with target := some (cut start) }, .level (place + 1))
  | .levelOrTarget start, '[' =>
    .ok ({ directive with target := some (cut start) }, .span (place + 1))
  | .target, '=' => .ok (directive, .level (place + 1))
  | .target, _ => .error .directive
  | .span start, ']' => .ok ({ directive with span := some (cut start) }, .target)
  | .span start, '\x7b' =>
    let name := cut start
    .ok ({ directive with span := if name.isEmpty then none else some name }, .field (place + 1))
  | .field start, '\x7d' =>
    let field := cut start
    if field.isEmpty then .error .directive
    else .ok ({ directive with fields := directive.fields ++ [field] }, .fields)
  | .fields, ']' => .ok (directive, .target)
  | .fields, _ => .error .directive
  | part, _ => .ok (directive, part)

/-- Read the characters from a place on. -/
def readFrom (given : List Char) (state : LogDirective × DirectivePart) (place : Nat) :
    List Char → Except LogFilterFault (LogDirective × DirectivePart)
  | [] => .ok state
  | character :: rest =>
    (step given state place character).bind fun state => readFrom given state (place + 1) rest

/-- Read a directive. -/
def read (given : List Char) : Except LogFilterFault LogDirective := do
  let start : LogDirective := ⟨none, none, [], .trace⟩
  match ← readFrom given (start, .start) 0 (trimWhiteSpace given) with
  | (directive, .levelOrTarget start) =>
    match levelOf (given.drop start) with
    | .ok level => return { directive with level := level }
    | .error _ => return { directive with target := some (String.ofList (given.drop start)) }
  | (directive, .level start) => return { directive with level := ← levelOf (given.drop start) }
  | (directive, .target) => return directive
  | _ => .error .directive

end LogDirective

/-- The directives of a filter; empty ones are passed over. -/
def readLogFilter (filter : String) : Except LogFilterFault (List LogDirective) :=
  let directives := (filter.splitOn ",").map String.toList
  (directives.filter fun directive => !directive.isEmpty).mapM LogDirective.read

end TableGraph.CommandLine
