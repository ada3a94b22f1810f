/-!
# Media types

The type of a body is a type and a subtype, with parameters behind them.  A body
is JSON when its subtype or the suffix of its subtype says so.
-/

namespace TableGraph

/-- A media type in lower case, without its parameters. -/
structure MediaType where
  type : String
  subtype : String
  suffix : Option String
  deriving DecidableEq, Repr

namespace MediaType

/-- The characters that the parts of a media type consist of. -/
def isTokenCharacter (character : Char) : Bool :=
  character.isAlphanum || "!#$%&'*+-.^_|~".toList.contains character || character.toNat == 96

/-- The characters that a quoted value consists of. -/
def isQuotedCharacter (character : Char) : Bool :=
  31 < character.toNat && character.toNat < 127 && character != '"'

/-- Whether a nonempty part consists of token characters. -/
def isToken (text : List Char) : Bool := !text.isEmpty && text.all isTokenCharacter

/-- The text behind the value of a parameter, with its separator. -/
def afterValue? (text : List Char) : Option (List Char) :=
  match text with
  | '"' :: quoted =>
    match quoted.dropWhile isQuotedCharacter with
    | '"' :: rest =>
      if (quoted.takeWhile isQuotedCharacter).isEmpty then none else some (rest.dropWhile (· == ' '))
    | _ => none
  | text => if (text.takeWhile isTokenCharacter).isEmpty && !text.isEmpty then none
      else some (text.dropWhile isTokenCharacter)

/-- Whether a text is a list of parameters.  A parameter takes at least one
character, so the length of the text bounds their number. -/
def areParameters : Nat → List Char → Bool
  | 0, text => text.isEmpty
  | fuel + 1, text =>
    match text.dropWhile (· == ' ') with
    | [] => true
    | named =>
      !(named.takeWhile isTokenCharacter).isEmpty &&
        match named.dropWhile isTokenCharacter with
        | '=' :: value =>
          match afterValue? value with
          | some [] => true
          | some (';' :: rest) => areParameters fuel rest
          | _ => false
        | _ => false

/-- The text behind the last plus sign of a subtype, and the text before it. -/
def splitSuffix (subtype : List Char) : List Char × Option (List Char) :=
  let suffix := (subtype.reverse.takeWhile (· != '+')).reverse
  let name := subtype.take (subtype.length - suffix.length - 1)
  if subtype.contains '+' && !name.isEmpty then (name, some suffix) else (subtype, none)

/-- Whether a character ends the subtype. -/
def endsSubtype (character : Char) : Bool := character == ';' || character == ' '

/-- The media type of a text; malformed parameters are refused. -/
def parse? (text : String) : Option MediaType :=
  let characters := text.toList.map Char.toLower
  let type := characters.takeWhile (· != '/')
  let behind := (characters.dropWhile (· != '/')).drop 1
  let subtype := behind.takeWhile fun character => !endsSubtype character
  let parameters := (behind.dropWhile fun character => !endsSubtype character).drop 1
  if isToken type && isToken subtype && areParameters (parameters.length + 1) parameters then
    let (name, suffix) := splitSuffix subtype
    some ⟨String.ofList type, String.ofList name, suffix.map String.ofList⟩
  else none

/-- Whether a body of this type is JSON. -/
def isJson (media : MediaType) : Bool :=
  media.type == "application" && (media.subtype == "json" || media.suffix == some "json")

end MediaType

end TableGraph
