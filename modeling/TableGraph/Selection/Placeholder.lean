import TableGraph.Failure
import TableGraph.Selection.Fragment

/-!
# Placeholders

An expression is cut into text and placeholders: `?` takes a value or a list of
values, `?name` a name that is written as a quoted identifier.  A question mark
inside a string literal is no placeholder.  Expanding an expression puts the
parameters into place and collects the values to bind, from left to right.
-/

namespace TableGraph

/-- A piece of an expression. -/
inductive PlaceholderToken where
  | text (characters : List Char)
  /-- The placeholder `?`. -/
  | value
  /-- The placeholder `?name`. -/
  | identifier
  deriving DecidableEq, Repr

namespace PlaceholderToken

/-- The written form of a token. -/
def characters : PlaceholderToken → List Char
  | .text characters => characters
  | .value => ['?']
  | .identifier => ['?', 'n', 'a', 'm', 'e']

def isPlaceholder : PlaceholderToken → Bool
  | .text _ => false
  | _ => true

/-- Whether a character continues a word of ASCII letters, digits and
underscores. -/
def continuesWord (character : Char) : Bool := character.isAlphanum || character == '_'

/-- What follows the word `name`, when the text begins with that word. -/
def afterName? (text : List Char) : Option (List Char) :=
  match text with
  | 'n' :: 'a' :: 'm' :: 'e' :: rest =>
    if rest.head?.any continuesWord then none else some rest
  | _ => none

theorem afterName?_length {text rest : List Char} (found : afterName? text = some rest) :
    rest.length ≤ text.length := by
  unfold afterName? at found
  split at found
  · split at found
    · contradiction
    · simp only [Option.some.injEq] at found
      subst found
      simp only [List.length_cons]
      omega
  · contradiction

/-- The text read so far as a token, unless there is none. -/
def flush (reversed : List Char) : List PlaceholderToken :=
  if reversed.isEmpty then [] else [.text reversed.reverse]

/-- Cut a text into tokens.  `quoted` tells whether the text begins inside a
string literal, `reversed` holds the text since the last placeholder. -/
def tokensFrom (quoted : Bool) (reversed : List Char) : List Char → List PlaceholderToken
  | [] => flush reversed
  | character :: rest =>
    if character = '\'' then tokensFrom (!quoted) (character :: reversed) rest
    else if character = '?' && !quoted then
      match _found : afterName? rest with
      | some behind => flush reversed ++ .identifier :: tokensFrom false [] behind
      | none => flush reversed ++ .value :: tokensFrom false [] rest
    else tokensFrom quoted (character :: reversed) rest
  termination_by text => text.length
  decreasing_by
    all_goals simp_wf
    have := afterName?_length _found
    omega

/-- The tokens of an expression. -/
def tokens (expression : String) : List PlaceholderToken :=
  tokensFrom false [] expression.toList

end PlaceholderToken

/-! ## Quoted identifiers -/

namespace Identifier

/-- One part of a name in double quotes, a quote inside being written twice. -/
def quotePart (part : List Char) : List Char :=
  '"' :: part.flatMap (fun character => if character = '"' then ['"', '"'] else [character]) ++ ['"']

/-- The parts of a name between its dots. -/
def parts : List Char → List (List Char)
  | [] => [[]]
  | character :: rest =>
    if character = '.' then [] :: parts rest
    else
      match parts rest with
      | [] => [[character]]
      | first :: later => (character :: first) :: later

/-- Parts with dots between them. -/
def joinParts : List (List Char) → List Char
  | [] => []
  | [only] => only
  | first :: rest => first ++ '.' :: joinParts rest

/-- A name as quoted identifiers, one for each of its parts. -/
def quote (name : List Char) : List Char := joinParts ((parts name).map quotePart)

end Identifier

/-! ## Expansion -/

/-- Statement text with the values to bind to its parameter marks. -/
structure Statement where
  text : String
  binds : List Value
  deriving DecidableEq, Repr

namespace Statement

def empty : Statement := ⟨"", []⟩

/-- Two pieces of a statement one behind the other. -/
def append (first second : Statement) : Statement :=
  ⟨first.text ++ second.text, first.binds ++ second.binds⟩

end Statement

namespace Fragment

/-- Parameter marks for a list of values, separated by commas. -/
def marks : Nat → String
  | 0 => "NULL"
  | 1 => "?"
  | count + 1 => "?, " ++ marks count

/-- What a parameter writes in place of its placeholder.  A list without values
becomes `NULL`, which equals nothing. -/
def placed : Parameter → Statement
  | .value value => ⟨"?", [value]⟩
  | .list values => ⟨marks values.length, values⟩
  | .identifier name => ⟨String.ofList (Identifier.quote name.toList), []⟩

/-- Put parameters into the tokens from a position on.  A name placeholder takes
names only. -/
def place (position : Nat) : List PlaceholderToken → List Parameter → Except StoreFailure Statement
  | [], _ => .ok .empty
  | .text characters :: rest, parameters =>
    (place (position + 1) rest parameters).map
      (Statement.append ⟨String.ofList characters, []⟩)
  | .value :: rest, parameter :: parameters =>
    (place (position + 1) rest parameters).map (Statement.append (placed parameter))
  | .identifier :: rest, .identifier name :: parameters =>
    (place (position + 1) rest parameters).map (Statement.append (placed (.identifier name)))
  | .identifier :: _, _ :: _ => .error (.invalidPlaceholder position)
  | .value :: _, [] => .error (.invalidPlaceholder position)
  | .identifier :: _, [] => .error (.invalidPlaceholder position)

/-- The statement text of a fragment; there must be one parameter for each
placeholder. -/
def expand (fragment : Fragment) : Except StoreFailure Statement :=
  let tokens := PlaceholderToken.tokens fragment.expression
  let expected := tokens.countP PlaceholderToken.isPlaceholder
  if expected ≠ fragment.parameters.length then
    .error (.parameterCount expected fragment.parameters.length)
  else
    place 0 tokens fragment.parameters

end Fragment

end TableGraph
