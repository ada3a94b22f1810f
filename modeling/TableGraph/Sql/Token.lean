import TableGraph.Json.Lexer
import TableGraph.Sql.Numeric

/-!
# Tokens of SQL

Statement text is cut into words, quoted names, literals, parameter marks and
symbols by an automaton that reads one character at a time.  A doubled quote
stands for one quote inside quotes; comments and blanks separate tokens.
-/

namespace TableGraph

/-- A token of a statement. -/
inductive SqlToken where
  /-- A keyword or a name without quotes. -/
  | word (text : String)
  /-- A name in quotes. -/
  | name (text : String)
  | literal (value : Cell)
  /-- A parameter mark. -/
  | mark
  | symbol (text : String)
  deriving DecidableEq, Repr

namespace SqlToken

/-- Where the automaton stands.  What is read of an unfinished token is kept in
reverse. -/
inductive State where
  | between
  | word (reversed : List Char)
  | number (reversed : List Char)
  | quoted (closing : Char) (reversed : List Char)
  /-- Behind a closing quote, which a second one would make part of the text. -/
  | closed (closing : Char) (reversed : List Char)
  | symbol (first : Char)
  | lineComment
  | blockComment (sawStar : Bool)
  | failed

def startsWord (character : Char) : Bool :=
  character.isAlpha || character == '_' || 128 ≤ character.toNat

def continuesSqlWord (character : Char) : Bool :=
  startsWord character || character.isDigit || character == '$'

/-- The pairs of characters that make one symbol. -/
def pairs : List String := ["<=", ">=", "<>", "!=", "==", "||", "<<", ">>"]

/-- Whether a character may be the first of a pair, or opens a comment. -/
def startsPair (character : Char) : Bool := "<>!=|-/".contains character

/-- The characters that are a symbol on their own. -/
def isSingle (character : Char) : Bool := "(),.;*+%~&".contains character

/-- The bytes written by pairs of hexadecimal digits. -/
def hexBytes? : List Char → Option (List UInt8)
  | [] => some []
  | [_] => none
  | high :: low :: rest =>
    match Json.hexValue? high, Json.hexValue? low with
    | some high, some low => (hexBytes? rest).map fun bytes => UInt8.ofNat (16 * high + low) :: bytes
    | _, _ => none

/-- The token of a finished number. -/
def numberToken? (written : List Char) : Option SqlToken :=
  (LeadingNumeral.ofText? written).bind fun leading =>
    if leading.isComplete then some (.literal leading.toCell) else none

/-- The token of a text in quotes. -/
def quotedToken (closing : Char) (reversed : List Char) : SqlToken :=
  let text := String.ofList reversed.reverse
  if closing = '\'' then .literal (.ofText text) else .name text

/-- Whether the characters of a number that were read end with its exponent mark. -/
def endsWithExponent : List Char → Bool
  | 'e' :: _ => true
  | 'E' :: _ => true
  | _ => false

/-- Read a character between two tokens. -/
def start (character : Char) : List SqlToken × State :=
  if isSqlBlank character then ([], .between)
  else if startsWord character then ([], .word [character])
  else if character.isDigit then ([], .number [character])
  else if character = '\'' || character = '"' || character.toNat = 96 then ([], .quoted character [])
  else if character = '[' then ([], .quoted ']' [])
  else if character = '?' then ([.mark], .between)
  else if isSingle character then ([.symbol (String.singleton character)], .between)
  else if startsPair character then ([], .symbol character)
  else ([], .failed)

/-- The tokens completed before a character is read afresh. -/
def afresh (completed : List SqlToken) (character : Char) : List SqlToken × State :=
  let (tokens, state) := start character
  (completed ++ tokens, state)

/-- Read one character: the tokens it completes and the next state. -/
def step : State → Char → List SqlToken × State
  | .between, character => start character
  | .word reversed, character =>
    if continuesSqlWord character then ([], .word (character :: reversed))
    else if character = '\'' && (reversed = ['x'] || reversed = ['X']) then
      ([.symbol "x"], .quoted character [])
    else afresh [.word (String.ofList reversed.reverse)] character
  | .number reversed, character =>
    if character.isAlphanum || character = '.' ||
        ((character = '+' || character = '-') && endsWithExponent reversed) then
      ([], .number (character :: reversed))
    else
      match numberToken? reversed.reverse with
      | some token => afresh [token] character
      | none => ([], .failed)
  | .quoted closing reversed, character =>
    if character = closing then ([], .closed closing reversed)
    else ([], .quoted closing (character :: reversed))
  | .closed closing reversed, character =>
    if character = closing && closing ≠ ']' then ([], .quoted closing (character :: reversed))
    else afresh [quotedToken closing reversed] character
  | .symbol first, character =>
    let pair := String.ofList [first, character]
    if pair = "--" then ([], .lineComment)
    else if pair = "/*" then ([], .blockComment false)
    else if pairs.contains pair then ([.symbol pair], .between)
    else afresh [.symbol (String.singleton first)] character
  | .lineComment, character => ([], if character = '\n' then .between else .lineComment)
  | .blockComment sawStar, character =>
    ([], if sawStar && character = '/' then .between else .blockComment (character == '*'))
  | .failed, _ => ([], .failed)

/-- The tokens completed by the end of the text. -/
def finish : State → Option (List SqlToken)
  | .between => some []
  | .word reversed => some [.word (String.ofList reversed.reverse)]
  | .number reversed => (numberToken? reversed.reverse).map fun token => [token]
  | .closed closing reversed => some [quotedToken closing reversed]
  | .symbol first => some [.symbol (String.singleton first)]
  | .lineComment => some []
  | .blockComment _ => some []
  | .quoted .. => none
  | .failed => none

/-- The tokens of the characters from a state. -/
def lexFrom : State → List Char → Option (List SqlToken)
  | state, [] => finish state
  | state, character :: rest =>
    let (tokens, next) := step state character
    (lexFrom next rest).map fun later => tokens ++ later

/-- Join the mark of a blob with the text behind it. -/
def joinBlobs : List SqlToken → Option (List SqlToken)
  | [] => some []
  | .symbol "x" :: .literal (.text bytes) :: rest =>
    match hexBytes? (Utf8.decodeLossy bytes).toList with
    | some blob => (joinBlobs rest).map fun later => .literal (.blob blob) :: later
    | none => none
  | token :: rest => (joinBlobs rest).map fun later => token :: later

/-- The tokens of a statement text, absent when it is malformed. -/
def lex (text : String) : Option (List SqlToken) :=
  (lexFrom .between text.toList).bind joinBlobs

end SqlToken

end TableGraph
