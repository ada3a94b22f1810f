import TableGraph.Json.Lexer

/-!
# Reading JSON documents

Tokens are read one at a time against a stack of unfinished arrays and objects.
Documents nested deeper than 127 levels are refused.
-/

namespace TableGraph.Json

/-- An unfinished array or object, its finished parts in reverse. -/
inductive Frame where
  | array (reversed : List Json)
  | object (reversed : List (String × Json)) (key : String)

/-- What may come next. -/
inductive Expectation where
  | value
  /-- A first element or the end of an array. -/
  | element
  /-- A first key or the end of an object. -/
  | firstKey
  | key
  | colon (key : String)
  /-- A comma or the end of the innermost array or object. -/
  | next
  /-- The document is complete. -/
  | complete (document : Json)

/-- The reader between two tokens. -/
structure Reader where
  stack : List Frame
  expectation : Expectation

/-- The count of unfinished arrays and objects that is no longer accepted. -/
def depthLimit : Nat := 128

namespace Reader

/-- Put a finished value into the innermost frame. -/
def finish (value : Json) : List Frame → Reader
  | [] => ⟨[], .complete value⟩
  | .array reversed :: rest => ⟨.array (value :: reversed) :: rest, .next⟩
  | .object reversed key :: rest => ⟨.object ((key, value) :: reversed) key :: rest, .next⟩

/-- Begin an array or object unless it is nested too deep. -/
def push (frame : Frame) (stack : List Frame) (expectation : Expectation) : Option Reader :=
  if stack.length + 1 < depthLimit then some ⟨frame :: stack, expectation⟩ else none

/-- Read a token where a value is expected. -/
def value (stack : List Frame) : Token → Option Reader
  | .scalar value => some (finish value stack)
  | .text value => some (finish (.text value) stack)
  | .openArray => push (.array []) stack .element
  | .openObject => push (.object [] "") stack .firstKey
  | _ => none

/-- End the innermost frame. -/
def close : List Frame → Token → Option Reader
  | .array reversed :: rest, .closeArray => some (finish (.array reversed.reverse) rest)
  | .object reversed _ :: rest, .closeObject => some (finish (.object reversed.reverse) rest)
  | _, _ => none

/-- Read one token. -/
def step (reader : Reader) (token : Token) : Option Reader :=
  match reader.expectation, token with
  | .value, token => value reader.stack token
  | .element, .closeArray => close reader.stack token
  | .element, token => value reader.stack token
  | .firstKey, .closeObject => close reader.stack token
  | .firstKey, .text key => some ⟨reader.stack, .colon key⟩
  | .key, .text key => some ⟨reader.stack, .colon key⟩
  | .colon key, .colon =>
    match reader.stack with
    | .object reversed _ :: rest => some ⟨.object reversed key :: rest, .value⟩
    | _ => none
  | .next, .comma =>
    match reader.stack with
    | .array _ :: _ => some ⟨reader.stack, .value⟩
    | .object .. :: _ => some ⟨reader.stack, .key⟩
    | [] => none
  | .next, token => close reader.stack token
  | _, _ => none

end Reader

/-- Read the tokens one after the other. -/
def readTokens : Reader → List Token → Option Reader
  | reader, [] => some reader
  | reader, token :: rest => (reader.step token).bind fun next => readTokens next rest

/-- The document a text stands for, absent when the text is malformed. -/
def parse? (text : String) : Option Json :=
  (lex text.toList).bind fun tokens =>
    match readTokens ⟨[], .value⟩ tokens with
    | some ⟨_, .complete document⟩ => some document
    | _ => none

end TableGraph.Json
