import TableGraph.Request.Document

/-!
# Reading requests

The readers take tokens from the front of a list and give back what is left.
Every call spends fuel; the number of tokens times the depth of the grammar is
enough, since each cycle of calls takes a token.
-/

namespace TableGraph.Request

namespace Document

/-- Take a punctuation character. -/
def takePunctuation (character : Char) (tokens : List Token) : Option (List Token) :=
  match tokens with
  | token :: rest => if token.lexeme = .punctuation character then some rest else none
  | [] => none

/-- Take a name. -/
def takeName : List Token → Option (String × List Token)
  | ⟨_, .name text⟩ :: rest => some (text, rest)
  | _ => none

/-- Take a certain name. -/
def takeWord (word : String) (tokens : List Token) : Option (List Token) :=
  (takeName tokens).bind fun (text, rest) => if text = word then some rest else none

/-- Whether a certain punctuation character is next. -/
def isNext (character : Char) (tokens : List Token) : Bool :=
  (takePunctuation character tokens).isSome

/-! ## Values -/

/-- The value that a name is. -/
def namedValue (text : String) : InputValue :=
  if text = "true" then .boolean true
  else if text = "false" then .boolean false
  else if text = "null" then .null
  else .enumeration text

mutual

/-- Read a value. -/
def readValue (fuel : Nat) (tokens : List Token) : Option (InputValue × List Token) :=
  match fuel, tokens with
  | 0, _ => none
  | _, [] => none
  | fuel + 1, ⟨_, lexeme⟩ :: rest =>
    match lexeme with
    | .name text => some (namedValue text, rest)
    | .integer value => some (.integer value, rest)
    | .float value => some (.float value, rest)
    | .text value => some (.text value, rest)
    | .spread => none
    | .punctuation character =>
      if character = '$' then (takeName rest).map fun (name, rest) => (.variable name, rest)
      else if character = '[' then
        (readElements fuel rest).map fun (elements, rest) => (.list elements, rest)
      else if character = '\x7b' then
        (readFields fuel rest).map fun (fields, rest) => (.object (pairsOf fields), rest)
      else none

/-- Read the elements of a list up to its end. -/
def readElements (fuel : Nat) (tokens : List Token) : Option (List InputValue × List Token) :=
  match fuel with
  | 0 => none
  | fuel + 1 =>
    match takePunctuation ']' tokens with
    | some rest => some ([], rest)
    | none => do
      let (first, rest) ← readValue fuel tokens
      let (later, rest) ← readElements fuel rest
      return (first :: later, rest)

/-- Read the fields of an object up to its end. -/
def readFields (fuel : Nat) (tokens : List Token) :
    Option (List (String × InputValue) × List Token) :=
  match fuel with
  | 0 => none
  | fuel + 1 =>
    match takePunctuation '\x7d' tokens with
    | some rest => some ([], rest)
    | none => do
      let (name, rest) ← takeName tokens
      let rest ← takePunctuation ':' rest
      let (value, rest) ← readValue fuel rest
      let (later, rest) ← readFields fuel rest
      return ((name, value) :: later, rest)

end

/-- Fuel for a reader that takes a token in at most every fourth call. -/
def fuelFor (tokens : List Token) : Nat := 4 * tokens.length + 4

/-- Read arguments up to the closing parenthesis; `fuel` bounds their number. -/
def readArgumentList (fuel : Nat) (tokens : List Token) :
    Option (List (String × InputValue) × List Token) :=
  match fuel with
  | 0 => none
  | fuel + 1 => do
    let (name, rest) ← takeName tokens
    let rest ← takePunctuation ':' rest
    let (value, rest) ← readValue (fuelFor rest) rest
    match takePunctuation ')' rest with
    | some rest => return ([(name, value)], rest)
    | none =>
      let (later, rest) ← readArgumentList fuel rest
      return ((name, value) :: later, rest)

/-- Read arguments in parentheses, if there are any. -/
def readArguments (tokens : List Token) : Option (List (String × InputValue) × List Token) :=
  match takePunctuation '(' tokens with
  | some rest => readArgumentList rest.length rest
  | none => some ([], tokens)

/-- Read directives; `fuel` bounds their number. -/
def readDirectiveList (fuel : Nat) (tokens : List Token) : Option (List Directive × List Token) :=
  match fuel, takePunctuation '@' tokens with
  | fuel + 1, some rest => do
    let (name, rest) ← takeName rest
    let (arguments, rest) ← readArguments rest
    let (later, rest) ← readDirectiveList fuel rest
    return (⟨name, arguments⟩ :: later, rest)
  | _, _ => some ([], tokens)

def readDirectives (tokens : List Token) : Option (List Directive × List Token) :=
  readDirectiveList tokens.length tokens

/-! ## Selections -/

/-- Read the name of a field with what it is called in the response. -/
def readFieldName (tokens : List Token) : Option ((String × String) × List Token) := do
  let (first, rest) ← takeName tokens
  match takePunctuation ':' rest with
  | some rest =>
    let (name, rest) ← takeName rest
    return ((first, name), rest)
  | none => return ((first, first), rest)

mutual

/-- Read selections in braces. -/
def readSelections (fuel : Nat) (tokens : List Token) : Option (List Selection × List Token) :=
  match fuel with
  | 0 => none
  | fuel + 1 => do
    let rest ← takePunctuation '\x7b' tokens
    readSelectionList fuel rest

/-- Read at least one selection up to the closing brace. -/
def readSelectionList (fuel : Nat) (tokens : List Token) : Option (List Selection × List Token) :=
  match fuel with
  | 0 => none
  | fuel + 1 => do
    let (first, rest) ← readSelection fuel tokens
    match takePunctuation '\x7d' rest with
    | some rest => return ([first], rest)
    | none =>
      let (later, rest) ← readSelectionList fuel rest
      return (first :: later, rest)

/-- Read a selection. -/
def readSelection (fuel : Nat) (tokens : List Token) : Option (Selection × List Token) :=
  match fuel, tokens with
  | 0, _ => none
  | _, [] => none
  | fuel + 1, ⟨position, lexeme⟩ :: rest =>
    if lexeme = .spread then
      match takeWord "on" rest, takeName rest with
      | some rest, _ => do
        let (condition, rest) ← takeName rest
        let (directives, rest) ← readDirectives rest
        let (selections, rest) ← readSelections fuel rest
        return (.inline (some condition) directives selections, rest)
      | none, some (name, rest) => do
        let (directives, rest) ← readDirectives rest
        return (.spread name directives, rest)
      | none, none => do
        let (directives, rest) ← readDirectives rest
        let (selections, rest) ← readSelections fuel rest
        return (.inline none directives selections, rest)
    else do
      let ((responseName, name), rest) ← readFieldName tokens
      let (arguments, rest) ← readArguments rest
      let (directives, rest) ← readDirectives rest
      let (selections, rest) ←
        if isNext '\x7b' rest then readSelections fuel rest else some ([], rest)
      return (.field position responseName name arguments directives selections, rest)

end

/-! ## Definitions -/

/-- Read a reference to a type. -/
def readType : Nat → List Token → Option (TypeReference × List Token)
  | 0, _ => none
  | fuel + 1, tokens => do
    let (reference, rest) ←
      match takePunctuation '[' tokens with
      | some rest => do
        let (element, rest) ← readType fuel rest
        return (TypeReference.list element, ← takePunctuation ']' rest)
      | none => (takeName tokens).map fun (name, rest) => (TypeReference.named name, rest)
    match takePunctuation '!' rest with
    | some rest => return (.nonNull reference, rest)
    | none => return (reference, rest)

/-- Read the declarations of variables up to the closing parenthesis; `fuel`
bounds their number. -/
def readVariableList (fuel : Nat) (tokens : List Token) :
    Option (List VariableDefinition × List Token) :=
  match fuel, takePunctuation ')' tokens with
  | _, some rest => some ([], rest)
  | 0, none => none
  | fuel + 1, none => do
    let rest ← takePunctuation '$' tokens
    let (name, rest) ← takeName rest
    let rest ← takePunctuation ':' rest
    let (type, rest) ← readType rest.length rest
    let (directives, rest) ← readDirectives rest
    let (initial, rest) ←
      match takePunctuation '=' rest with
      | some rest => (readValue (fuelFor rest) rest).map fun (value, rest) => (some value, rest)
      | none => some (none, rest)
    let (later, rest) ← readVariableList fuel rest
    return (⟨name, type, directives, initial⟩ :: later, rest)

/-- The kind of operation a name announces. -/
def operationKind? (word : String) : Option OperationKind :=
  if word = "query" then some .query
  else if word = "mutation" then some .mutation
  else if word = "subscription" then some .subscription
  else none

/-- Read an operation. -/
def readOperation (tokens : List Token) : Option (Operation × List Token) :=
  if isNext '\x7b' tokens then
    (readSelections (fuelFor tokens) tokens).map fun (selections, rest) =>
      (⟨none, .query, [], [], selections⟩, rest)
  else do
    let (word, rest) ← takeName tokens
    let kind ← operationKind? word
    let (name, rest) :=
      match takeName rest with
      | some (name, rest) => (some name, rest)
      | none => (none, rest)
    let (declarations, rest) ←
      match takePunctuation '(' rest with
      | some rest => readVariableList rest.length rest
      | none => some ([], rest)
    let (directives, rest) ← readDirectives rest
    let (selections, rest) ← readSelections (fuelFor rest) rest
    return (⟨name, kind, declarations, directives, selections⟩, rest)

/-- Read a fragment. -/
def readFragment (tokens : List Token) : Option (FragmentDefinition × List Token) := do
  let rest ← takeWord "fragment" tokens
  let (name, rest) ← takeName rest
  let rest ← takeWord "on" rest
  let (condition, rest) ← takeName rest
  let (directives, rest) ← readDirectives rest
  let (selections, rest) ← readSelections (fuelFor rest) rest
  return (⟨name, condition, directives, selections⟩, rest)

/-- Read definitions up to the end; `fuel` bounds their number. -/
def readDefinitions : Nat → List Token → Option Document
  | _, [] => some ⟨[], []⟩
  | 0, _ => none
  | fuel + 1, tokens =>
    match readFragment tokens with
    | some (fragment, rest) =>
      (readDefinitions fuel rest).map fun document =>
        { document with fragments := fragment :: document.fragments }
    | none => do
      let (operation, rest) ← readOperation tokens
      let document ← readDefinitions fuel rest
      return { document with operations := operation :: document.operations }

/-- Whether no text is repeated. -/
def allDistinct : List String → Bool
  | [] => true
  | first :: rest => !rest.contains first && allDistinct rest

/-- Whether the definitions can be told apart: an operation without a name is
the only one, and no name is repeated. -/
def isDistinct (document : Document) : Bool :=
  let names := document.operations.map Operation.name
  (!names.contains none || names.length == 1) && allDistinct (names.filterMap id) &&
    allDistinct (document.fragments.map FragmentDefinition.name)

/-- The document a text is, with at least one operation. -/
def parse? (text : String) : Option Document := do
  let tokens ← lex text
  let document ← readDefinitions tokens.length tokens
  if document.operations.isEmpty || !document.isDistinct then none else return document

end Document

end TableGraph.Request
