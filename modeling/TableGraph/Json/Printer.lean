import TableGraph.Json.Basic
import TableGraph.Number.Layout

/-!
# Compact JSON text

No blanks are written.  Quotes, backslashes and control characters are escaped,
with the short escapes where there is one.  A float that is no finite number is
written as null.
-/

namespace TableGraph.Json

/-- One lower-case hexadecimal digit. -/
def hexDigit (value : Nat) : Char :=
  if value < 10 then Char.ofNat (48 + value) else Char.ofNat (87 + value)

/-- A character inside a JSON string. -/
def escapeCharacter (character : Char) : List Char :=
  if character = '"' then ['\\', '"']
  else if character = '\\' then ['\\', '\\']
  else if 32 ≤ character.toNat then [character]
  else if character = '\n' then ['\\', 'n']
  else if character = '\r' then ['\\', 'r']
  else if character = '\t' then ['\\', 't']
  else if character.toNat = 8 then ['\\', 'b']
  else if character.toNat = 12 then ['\\', 'f']
  else ['\\', 'u', '0', '0', hexDigit (character.toNat / 16), hexDigit (character.toNat % 16)]

/-- A text as a JSON string. -/
def quote (text : String) : List Char :=
  ['"'] ++ text.toList.flatMap escapeCharacter ++ ['"']

/-- The characters of a list of printed elements, separated by commas. -/
def separated : List (List Char) → List Char
  | [] => []
  | [only] => only
  | first :: rest => first ++ ',' :: separated rest

mutual

/-- The characters of a document. -/
def print : Json → List Char
  | .null => "null".toList
  | .bool value => (if value then "true" else "false").toList
  | .integer value => (decimalText value).toList
  | .float value => if value.isFinite then (FloatLayout.json.render value).toList else "null".toList
  | .text value => quote value
  | .array elements => ['['] ++ separated (printElements elements) ++ [']']
  | .object fields => ['\x7b'] ++ separated (printFields fields) ++ ['\x7d']

/-- The elements of an array, each printed. -/
def printElements : List Json → List (List Char)
  | [] => []
  | element :: rest => print element :: printElements rest

/-- The fields of an object, each printed behind its name. -/
def printFields : List (String × Json) → List (List Char)
  | [] => []
  | (name, value) :: rest => (quote name ++ ':' :: print value) :: printFields rest

end

/-- The compact text of a document. -/
def render (document : Json) : String := String.ofList document.print

end TableGraph.Json
