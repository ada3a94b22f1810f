import TableGraph.Json.Basic
import TableGraph.Number.Power
import TableGraph.Number.Reading

/-!
# JSON tokens

The lexer reads one character at a time.  Numbers and the three literals are
words: maximal runs of letters, digits, signs and points, which are classified
when they end.
-/

namespace TableGraph.Json

/-- The tokens of a document. -/
inductive Token where
  | openArray
  | closeArray
  | openObject
  | closeObject
  | comma
  | colon
  /-- A number or one of the three literals. -/
  | scalar (value : Json)
  | text (value : String)

/-! ## Numbers -/

/-- The digits of a numeral as a significand of at most 64 bits: the value of
the digits that fit and how many were left over. -/
def accumulate : Nat → List Char → Nat × List Char
  | significand, [] => (significand, [])
  | significand, digit :: rest =>
    let next := 10 * significand + digitValue digit
    if next < unsignedBound then accumulate next rest else (significand, digit :: rest)

/-- A significand scaled by a power of ten with one rounding for each factor;
an infinite product is refused. -/
def scaleSignificand (negative : Bool) (significand : Nat) (exponent : Int) : Option Double :=
  let start := { Double.ofInteger significand with negative := negative }
  let power (exponent : Nat) : Double := Double.ofDecimal false 1 exponent
  if 0 ≤ exponent then
    if significand = 0 then some start
    else if 308 < exponent then none
    else
      let product := start.multiply (power exponent.toNat)
      if product.isInfinite then none else some product
  else if -308 ≤ exponent then some (start.divide (power (-exponent).toNat))
  else if -616 ≤ exponent then
    some ((start.divide (power 308)).divide (power (-exponent - 308).toNat))
  else some (Double.zero negative)

/-- The value of a floating-point numeral, refused beyond the largest number. -/
def floatOf (negative : Bool) (numeral : Numeral) : Option Double :=
  let (whole, left) := accumulate 0 numeral.whole
  let (significand, ignored) := accumulate whole numeral.fractional
  let used := numeral.fractional.length - ignored.length
  scaleSignificand negative significand (numeral.exponent + left.length - used)

/-- The number a word stands for.  A numeral has no superfluous leading zero
and digits on both sides of a point; without point and exponent it is an
integer when it fits 64 bits, except for the negative zero. -/
def number? (word : List Char) : Option Json :=
  let (negative, magnitude) : Bool × List Char :=
    match word with
    | '-' :: rest => (true, rest)
    | rest => (false, rest)
  let whole := magnitude.takeWhile Char.isDigit
  let rest := magnitude.dropWhile Char.isDigit
  let leads := whole == ['0'] || (!whole.isEmpty && whole.head? != some '0')
  if !leads then none
  else if rest.isEmpty then
    let value := naturalOfDigits whole
    if negative && value = 0 then some (.float (Double.zero true))
    else if negative then
      if value ≤ signedBound then some (.integer (-(value : Int)))
      else (floatOf true ⟨whole, [], 0⟩).map .float
    else if value < unsignedBound then some (.integer value)
    else (floatOf false ⟨whole, [], 0⟩).map .float
  else
    match rest with
    | '.' :: behind =>
      if (behind.takeWhile Char.isDigit).isEmpty then none
      else ((Numeral.ofText? magnitude).bind (floatOf negative)).map .float
    | _ => ((Numeral.ofText? magnitude).bind (floatOf negative)).map .float

/-- The token a word stands for. -/
def wordToken? (word : List Char) : Option Token :=
  if word = "null".toList then some (.scalar .null)
  else if word = "true".toList then some (.scalar (.bool true))
  else if word = "false".toList then some (.scalar (.bool false))
  else (number? word).map .scalar

/-! ## The automaton -/

/-- Where the lexer stands.  The characters of an unfinished word or string are
kept in reverse. -/
inductive LexState where
  | between
  | word (reversed : List Char)
  | string (reversed : List Char)
  | escape (reversed : List Char)
  /-- Inside a code of four hexadecimal digits, perhaps behind the code of a
  high surrogate. -/
  | code (reversed : List Char) (high : Option Nat) (owed : Nat) (value : Nat)
  /-- Behind a high surrogate, which needs a low one. -/
  | pair (reversed : List Char) (high : Nat) (sawBackslash : Bool)
  | failed

def isWordStart (character : Char) : Bool :=
  character.isAlphanum || character == '-' || character == '+' || character == '.'

def isBlank (character : Char) : Bool :=
  character == ' ' || character == '\n' || character == '\r' || character == '\t'

/-- The value of a hexadecimal digit. -/
def hexValue? (digit : Char) : Option Nat :=
  if digit.isDigit then some (digit.toNat - 48)
  else if 'a' ≤ digit && digit ≤ 'f' then some (digit.toNat - 87)
  else if 'A' ≤ digit && digit ≤ 'F' then some (digit.toNat - 55)
  else none

/-- Read a character outside of words and strings. -/
def lexStart (character : Char) : List Token × LexState :=
  if isBlank character then ([], .between)
  else if character = '[' then ([.openArray], .between)
  else if character = ']' then ([.closeArray], .between)
  else if character = '\x7b' then ([.openObject], .between)
  else if character = '\x7d' then ([.closeObject], .between)
  else if character = ',' then ([.comma], .between)
  else if character = ':' then ([.colon], .between)
  else if character = '"' then ([], .string [])
  else if isWordStart character then ([], .word [character])
  else ([], .failed)

/-- The character a short escape stands for. -/
def shortEscape? (character : Char) : Option Char :=
  if character = '"' || character = '\\' || character = '/' then some character
  else if character = 'n' then some '\n'
  else if character = 'r' then some '\r'
  else if character = 't' then some '\t'
  else if character = 'b' then some (Char.ofNat 8)
  else if character = 'f' then some (Char.ofNat 12)
  else none

/-- Finish a code: a low surrogate completes a pair and stands only there. -/
def finishCode (reversed : List Char) (high : Option Nat) (value : Nat) : LexState :=
  let isHigh := 0xD800 ≤ value && value < 0xDC00
  let isLow := 0xDC00 ≤ value && value < 0xE000
  match high with
  | some high =>
    if isLow then
      .string (Char.ofNat (0x10000 + (high - 0xD800) * 0x400 + (value - 0xDC00)) :: reversed)
    else .failed
  | none =>
    if isHigh then .pair reversed value false
    else if isLow then .failed
    else .string (Char.ofNat value :: reversed)

/-- Read one character: the tokens it completes and the next state. -/
def lexStep : LexState → Char → List Token × LexState
  | .between, character => lexStart character
  | .word reversed, character =>
    if isWordStart character then ([], .word (character :: reversed))
    else
      match wordToken? reversed.reverse with
      | none => ([], .failed)
      | some token =>
        let (tokens, state) := lexStart character
        (token :: tokens, state)
  | .string reversed, character =>
    if character = '"' then ([.text (String.ofList reversed.reverse)], .between)
    else if character = '\\' then ([], .escape reversed)
    else if character.toNat < 32 then ([], .failed)
    else ([], .string (character :: reversed))
  | .escape reversed, character =>
    if character = 'u' then ([], .code reversed none 4 0)
    else
      match shortEscape? character with
      | some escaped => ([], .string (escaped :: reversed))
      | none => ([], .failed)
  | .code reversed high owed value, character =>
    match hexValue? character with
    | none => ([], .failed)
    | some digit =>
      let value := 16 * value + digit
      if owed ≤ 1 then ([], finishCode reversed high value)
      else ([], .code reversed high (owed - 1) value)
  | .pair reversed high sawBackslash, character =>
    if !sawBackslash && character = '\\' then ([], .pair reversed high true)
    else if sawBackslash && character = 'u' then ([], .code reversed (some high) 4 0)
    else ([], .failed)
  | .failed, _ => ([], .failed)

/-- The tokens of the characters from a state, absent when they are malformed. -/
def lexFrom : LexState → List Char → Option (List Token)
  | .between, [] => some []
  | .word reversed, [] => (wordToken? reversed.reverse).map fun token => [token]
  | .failed, _ => none
  | _, [] => none
  | state, character :: rest =>
    let (tokens, next) := lexStep state character
    (lexFrom next rest).map fun later => tokens ++ later

/-- The tokens of a text. -/
def lex (text : List Char) : Option (List Token) := lexFrom .between text

end TableGraph.Json
