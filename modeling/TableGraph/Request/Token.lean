import TableGraph.Json.Lexer

/-!
# Tokens of requests

A request text is cut into names, numbers, texts and punctuation, each with the
place where it begins.  Commas, comments and blanks separate tokens.  A text
stands in one quote or in three; in three it may span lines, and the indentation
that its lines share is no part of it.
-/

namespace TableGraph.Request

/-- A place in a text, both numbers counted from one, in characters. -/
structure Position where
  line : Nat
  column : Nat
  deriving DecidableEq, Repr

namespace Position

def start : Position := ⟨1, 1⟩

/-- The place behind a character. -/
def advance (position : Position) (character : Char) : Position :=
  if character = '\n' then ⟨position.line + 1, 1⟩
  else if character = '\r' then { position with column := 1 }
  else { position with column := position.column + 1 }

end Position

/-- A token without its place. -/
inductive Lexeme where
  | name (text : String)
  | integer (value : Int)
  | float (value : Double)
  | text (value : String)
  | punctuation (character : Char)
  /-- Three dots. -/
  | spread
  deriving DecidableEq, Repr

/-- A token. -/
structure Token where
  position : Position
  lexeme : Lexeme
  deriving DecidableEq, Repr

/-! ## Texts in three quotes -/

/-- The lines of a text. -/
def textLines : List Char → List (List Char)
  | [] => [[]]
  | '\r' :: '\n' :: rest => [] :: textLines rest
  | character :: rest =>
    if character = '\n' || character = '\r' then [] :: textLines rest
    else
      match textLines rest with
      | [] => [[character]]
      | first :: later => (character :: first) :: later

def isIndentation (character : Char) : Bool := character == ' ' || character == '\t'

def isBlankLine (line : List Char) : Bool := line.all isIndentation

/-- The indentation that lines share; blank lines have none to compare. -/
def sharedIndentation (lines : List (List Char)) : Nat :=
  let indentations := (lines.filter fun line => !isBlankLine line).map fun line =>
    (line.takeWhile isIndentation).length
  indentations.min?.getD 0

/-- The text of a block: shared indentation and blank lines at both ends are left out. -/
def blockText (raw : List Char) : String :=
  let lines := textLines raw
  let indentation := sharedIndentation (lines.drop 1)
  let dedented := lines.take 1 ++ (lines.drop 1).map fun line => line.drop indentation
  let trimmed := ((dedented.dropWhile isBlankLine).reverse.dropWhile isBlankLine).reverse
  String.ofList (['\n'].intercalate trimmed)

/-! ## The automaton -/

/-- Where the automaton stands.  What is read of an unfinished token is kept in
reverse, with the place of its beginning. -/
inductive LexState where
  | between
  | comment
  | word (position : Position) (reversed : List Char)
  | number (position : Position) (reversed : List Char)
  | dots (position : Position) (count : Nat)
  /-- Behind one quote. -/
  | opened (position : Position)
  /-- Behind two quotes, an empty text or the beginning of a block. -/
  | doubled (position : Position)
  | text (position : Position) (reversed : List Char)
  | escape (position : Position) (reversed : List Char)
  /-- Inside a code of four hexadecimal digits. -/
  | code (position : Position) (reversed : List Char) (owed value : Nat)
  /-- Inside a block, behind a number of quotes, the first of which may be escaped. -/
  | block (position : Position) (reversed : List Char) (quotes : Nat) (escaped : Bool)
  | failed

def isNameStart (character : Char) : Bool := character.isAlpha || character == '_'

def continuesName (character : Char) : Bool := isNameStart character || character.isDigit

/-- Characters between tokens, a byte order mark among them. -/
def isIgnored (character : Char) : Bool :=
  Json.isBlank character || character == ',' || character.toNat == 0xFEFF

def isPunctuation (character : Char) : Bool := "!$&()[]:=@|\x7b\x7d".contains character

def continuesNumber (character : Char) : Bool :=
  continuesName character || character == '.' || character == '+' || character == '-'

/-- The lexeme of a finished number. -/
def numberLexeme? (word : List Char) : Option Lexeme :=
  match Json.number? word with
  | some (.integer value) => some (.integer value)
  | some (.float value) => some (.float value)
  | _ => none

/-- Read a character between tokens. -/
def lexStart (position : Position) (character : Char) : List Token × LexState :=
  if isIgnored character then ([], .between)
  else if character = '#' then ([], .comment)
  else if isNameStart character then ([], .word position [character])
  else if character.isDigit || character = '-' then ([], .number position [character])
  else if character = '"' then ([], .opened position)
  else if character = '.' then ([], .dots position 1)
  else if isPunctuation character then ([⟨position, .punctuation character⟩], .between)
  else ([], .failed)

/-- The tokens completed before a character is read afresh. -/
def lexAfresh (completed : Token) (position : Position) (character : Char) :
    List Token × LexState :=
  let (tokens, state) := lexStart position character
  (completed :: tokens, state)

/-- Read a character inside a text. -/
def lexText (position : Position) (reversed : List Char) (character : Char) :
    List Token × LexState :=
  if character = '"' then ([⟨position, .text (String.ofList reversed.reverse)⟩], .between)
  else if character = '\\' then ([], .escape position reversed)
  else if character = '\n' || character = '\r' then ([], .failed)
  else ([], .text position (character :: reversed))

/-- Read a character inside a block.  Three quotes end it; behind a backslash
they are part of it. -/
def lexBlock (position : Position) (reversed : List Char) (quotes : Nat) (escaped : Bool)
    (character : Char) : List Token × LexState :=
  if character ≠ '"' then
    ([], .block position (character :: reversed) 0 (character == '\\'))
  else if quotes < 2 then ([], .block position (character :: reversed) (quotes + 1) escaped)
  else if escaped then
    ([], .block position ('"' :: '"' :: '"' :: reversed.drop 3) 0 false)
  else ([⟨position, .text (blockText (reversed.drop 2).reverse)⟩], .between)

/-- Read one character at a place: the tokens it completes and the next state. -/
def lexStep (place : Position) : LexState → Char → List Token × LexState
  | .between, character => lexStart place character
  | .comment, character =>
    ([], if character = '\n' || character = '\r' then .between else .comment)
  | .word position reversed, character =>
    if continuesName character then ([], .word position (character :: reversed))
    else lexAfresh ⟨position, .name (String.ofList reversed.reverse)⟩ place character
  | .number position reversed, character =>
    if continuesNumber character then ([], .number position (character :: reversed))
    else
      match numberLexeme? reversed.reverse with
      | some lexeme => lexAfresh ⟨position, lexeme⟩ place character
      | none => ([], .failed)
  | .dots position count, character =>
    if character ≠ '.' then ([], .failed)
    else if count < 2 then ([], .dots position (count + 1))
    else ([⟨position, .spread⟩], .between)
  | .opened position, character =>
    if character = '"' then ([], .doubled position) else lexText position [] character
  | .doubled position, character =>
    if character = '"' then ([], .block position [] 0 false)
    else lexAfresh ⟨position, .text ""⟩ place character
  | .text position reversed, character => lexText position reversed character
  | .escape position reversed, character =>
    if character = 'u' then ([], .code position reversed 4 0)
    else
      match Json.shortEscape? character with
      | some escaped => ([], .text position (escaped :: reversed))
      | none => ([], .failed)
  | .code position reversed owed value, character =>
    match Json.hexValue? character with
    | none => ([], .failed)
    | some digit =>
      let value := 16 * value + digit
      if 1 < owed then ([], .code position reversed (owed - 1) value)
      else if 0xD800 ≤ value && value < 0xE000 then ([], .failed)
      else ([], .text position (Char.ofNat value :: reversed))
  | .block position reversed quotes escaped, character =>
    lexBlock position reversed quotes escaped character
  | .failed, _ => ([], .failed)

/-- The tokens completed by the end of the text. -/
def lexFinish : LexState → Option (List Token)
  | .between => some []
  | .comment => some []
  | .word position reversed => some [⟨position, .name (String.ofList reversed.reverse)⟩]
  | .number position reversed =>
    (numberLexeme? reversed.reverse).map fun lexeme => [⟨position, lexeme⟩]
  | .doubled position => some [⟨position, .text ""⟩]
  | _ => none

/-- The tokens of the characters from a state and a place. -/
def lexFrom (state : LexState) (place : Position) : List Char → Option (List Token)
  | [] => lexFinish state
  | character :: rest =>
    let (tokens, next) := lexStep place state character
    (lexFrom next (place.advance character) rest).map fun later => tokens ++ later

/-- The tokens of a request text, absent when it is malformed. -/
def lex (text : String) : Option (List Token) := lexFrom .between .start text.toList

end TableGraph.Request
