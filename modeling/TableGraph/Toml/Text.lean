import TableGraph.Json.Lexer

/-!
# The text of TOML documents

Readers for the parts of a line: blanks and comments, keys, strings and values.
A reader answers what it read and the rest of the text, or nothing when the text
is malformed.
-/

namespace TableGraph.Toml

/-! ## Blanks -/

def skipBlanks (text : List Char) : List Char :=
  text.dropWhile fun character => character == ' ' || character == '\t'

/-- Whether a character may stand in a comment or a string as it is. -/
def isPrintable (character : Char) : Bool :=
  character == '\t' || (32 ≤ character.toNat && character.toNat != 127)

/-- Skip a comment up to the end of its line. -/
def skipComment (text : List Char) : List Char :=
  match text with
  | '#' :: rest => rest.dropWhile isPrintable
  | _ => text

/-- Read the end of a line, if one is there. -/
def lineEnd? : List Char → Option (List Char)
  | '\n' :: rest => some rest
  | '\r' :: '\n' :: rest => some rest
  | _ => none

/-- Read blanks and a comment up to the end of the line or of the text. -/
def finishLine? (text : List Char) : Option (List Char) :=
  match skipComment (skipBlanks text) with
  | [] => some []
  | rest => lineEnd? rest

/-- Skip blanks, comments and line ends, as many as there are. -/
def skipLines : Nat → List Char → List Char
  | 0, text => text
  | fuel + 1, text =>
    let rest := skipComment (skipBlanks text)
    match lineEnd? rest with
    | some next => skipLines fuel next
    | none => rest

/-! ## Strings -/

/-- The number of a fixed count of hexadecimal digits. -/
def hexNumber? : Nat → Nat → List Char → Option (Nat × List Char)
  | 0, value, rest => some (value, rest)
  | _ + 1, _, [] => none
  | count + 1, value, digit :: rest =>
    (Json.hexValue? digit).bind fun next => hexNumber? count (16 * value + next) rest

/-- The character of a code point, unless it is none. -/
def codePoint? (value : Nat) : Option Char :=
  if value < 0xD800 || (0xE000 ≤ value && value < 0x110000) then some (Char.ofNat value) else none

/-- The character an escape stands for, behind the backslash. -/
def escape? : List Char → Option (Char × List Char)
  | 'b' :: rest => some (Char.ofNat 8, rest)
  | 't' :: rest => some ('\t', rest)
  | 'n' :: rest => some ('\n', rest)
  | 'f' :: rest => some (Char.ofNat 12, rest)
  | 'r' :: rest => some ('\r', rest)
  | '"' :: rest => some ('"', rest)
  | '\\' :: rest => some ('\\', rest)
  | 'u' :: rest =>
    (hexNumber? 4 0 rest).bind fun (value, rest) => (codePoint? value).map fun c => (c, rest)
  | 'U' :: rest =>
    (hexNumber? 8 0 rest).bind fun (value, rest) => (codePoint? value).map fun c => (c, rest)
  | _ => none

/-- Skip the line end and all white space behind a backslash that ends a line. -/
def skipContinuation (text : List Char) : Option (List Char) :=
  (lineEnd? (skipBlanks text)).map fun rest =>
    rest.dropWhile fun character =>
      character == ' ' || character == '\t' || character == '\n' || character == '\r'

/-- Read a basic string behind its opening quotes. -/
def basicString? (multiline : Bool) : Nat → List Char → Option (List Char × List Char)
  | 0, _ => none
  | fuel + 1, text =>
    let more (character : Char) (rest : List Char) : Option (List Char × List Char) :=
      (basicString? multiline fuel rest).map fun (content, rest) => (character :: content, rest)
    match multiline, text with
    | true, '"' :: '"' :: '"' :: '"' :: '"' :: rest => some (['"', '"'], rest)
    | true, '"' :: '"' :: '"' :: '"' :: rest => some (['"'], rest)
    | true, '"' :: '"' :: '"' :: rest => some ([], rest)
    | false, '"' :: rest => some ([], rest)
    | _, '\\' :: rest =>
      match escape? rest with
      | some (character, rest) => more character rest
      | none =>
        if multiline then (skipContinuation rest).bind (basicString? multiline fuel) else none
    | true, '\n' :: rest => more '\n' rest
    | true, '\r' :: '\n' :: rest => more '\n' rest
    | _, character :: rest => if isPrintable character then more character rest else none
    | _, [] => none

/-- Read a literal string behind its opening quote. -/
def literalString? : List Char → Option (List Char × List Char)
  | [] => none
  | character :: rest =>
    if character = '\'' then some ([], rest)
    else if isPrintable character then
      (literalString? rest).map fun (content, rest) => (character :: content, rest)
    else none

/-- Read a literal string of lines behind its opening quotes.  Two quotes may stand
right in front of the closing ones. -/
def literalLines? : List Char → Option (List Char × List Char)
  | '\'' :: '\'' :: '\'' :: '\'' :: '\'' :: rest => some (['\'', '\''], rest)
  | '\'' :: '\'' :: '\'' :: '\'' :: rest => some (['\''], rest)
  | '\'' :: '\'' :: '\'' :: rest => some ([], rest)
  | '\r' :: '\n' :: rest =>
    (literalLines? rest).map fun (content, rest) => ('\n' :: content, rest)
  | character :: rest =>
    if isPrintable character || character = '\n' then
      (literalLines? rest).map fun (content, rest) => (character :: content, rest)
    else none
  | [] => none

/-- Skip the line end right behind the opening quotes of a string of lines. -/
def skipFirstLineEnd (text : List Char) : List Char := (lineEnd? text).getD text

/-- Read a string of any of the four kinds. -/
def string? (text : List Char) : Option (String × List Char) :=
  let read : Option (List Char × List Char) :=
    match text with
    | '"' :: '"' :: '"' :: rest => basicString? true (rest.length + 1) (skipFirstLineEnd rest)
    | '"' :: rest => basicString? false (rest.length + 1) rest
    | '\'' :: '\'' :: '\'' :: rest => literalLines? (skipFirstLineEnd rest)
    | '\'' :: rest => literalString? rest
    | _ => none
  read.map fun (content, rest) => (String.ofList content, rest)

/-! ## Keys -/

def isBareKey (character : Char) : Bool :=
  character.isAlphanum || character == '_' || character == '-'

/-- Read one part of a key: bare, or a string of one line. -/
def keyPart? (text : List Char) : Option (String × List Char) :=
  match text with
  | '"' :: rest =>
    (basicString? false (rest.length + 1) rest).map fun (part, rest) => (String.ofList part, rest)
  | '\'' :: rest =>
    (literalString? rest).map fun (part, rest) => (String.ofList part, rest)
  | _ =>
    let part := text.takeWhile isBareKey
    if part.isEmpty then none else some (String.ofList part, text.dropWhile isBareKey)

/-- Read a key of parts with dots between them, and the blanks behind it. -/
def key? : Nat → List Char → Option (List String × List Char)
  | 0, _ => none
  | fuel + 1, text =>
    (keyPart? (skipBlanks text)).bind fun (part, rest) =>
      match skipBlanks rest with
      | '.' :: rest => (key? fuel rest).map fun (parts, rest) => (part :: parts, rest)
      | rest => some ([part], rest)

/-! ## Values -/

/-- The scalar a bare word stands for. -/
def scalar? (word : List Char) : Option Json :=
  if word = "true".toList then some (.bool true)
  else if word = "false".toList then some (.bool false)
  else (readInteger? (word.filter (· != '_'))).map Json.integer

/-- Whether a character belongs to a bare value. -/
def isBareValue (character : Char) : Bool :=
  isBareKey character || character == '+' || character == '.' || character == ':'

/-- Put a value under a key of several parts into the fields of an inline
table; a key that is taken is refused. -/
def insertInline : List String → Json → List (String × Json) → Option (List (String × Json))
  | [], _, _ => none
  | [part], value, fields =>
    if (fields.lookup part).isSome then none else some (fields ++ [(part, value)])
  | part :: rest, value, fields =>
    match fields.lookup part with
    | none => (insertInline rest value []).map fun inner => fields ++ [(part, .object inner)]
    | some (.object inner) =>
      (insertInline rest value inner).map fun inner => insertPair part (.object inner) fields
    | some _ => none

mutual

/-- Read a value. -/
def value? : Nat → List Char → Option (Json × List Char)
  | 0, _ => none
  | fuel + 1, text =>
    match text with
    | '"' :: _ => (string? text).map fun (content, rest) => (.text content, rest)
    | '\'' :: _ => (string? text).map fun (content, rest) => (.text content, rest)
    | '[' :: rest =>
      (elements? fuel (skipLines rest.length rest)).map fun (elements, rest) =>
        (.array elements, rest)
    | '\x7b' :: rest =>
      match skipBlanks rest with
      | '\x7d' :: rest => some (.object [], rest)
      | rest => (inlineTable? fuel [] rest).map fun (fields, rest) => (.object fields, rest)
    | _ =>
      (scalar? (text.takeWhile isBareValue)).map fun scalar => (scalar, text.dropWhile isBareValue)

/-- Read the elements of an array up to its closing bracket. -/
def elements? : Nat → List Char → Option (List Json × List Char)
  | 0, _ => none
  | _ + 1, ']' :: rest => some ([], rest)
  | fuel + 1, text =>
    (value? fuel text).bind fun (element, rest) =>
      match skipLines rest.length rest with
      | ',' :: rest =>
        (elements? fuel (skipLines rest.length rest)).map fun (later, rest) =>
          (element :: later, rest)
      | ']' :: rest => some ([element], rest)
      | _ => none

/-- Read the fields of an inline table up to its closing brace. -/
def inlineTable? : Nat → List (String × Json) → List Char → Option (List (String × Json) × List Char)
  | 0, _, _ => none
  | fuel + 1, fields, text =>
    (key? text.length text).bind fun (parts, rest) =>
      match rest with
      | '=' :: rest =>
        (value? fuel (skipBlanks rest)).bind fun (value, rest) =>
          (insertInline parts value fields).bind fun fields =>
            match skipBlanks rest with
            | ',' :: rest => inlineTable? fuel fields rest
            | '\x7d' :: rest => some (fields, rest)
            | _ => none
      | _ => none

end

end TableGraph.Toml
