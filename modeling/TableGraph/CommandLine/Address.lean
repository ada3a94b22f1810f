import TableGraph.Json.Lexer
import TableGraph.Number.Power
import TableGraph.Number.Reading

/-!
# Socket addresses

The address to listen on is an address of four bytes or, in brackets, one of
eight groups, with the number of a service behind it.
-/

namespace TableGraph.CommandLine

/-- The parts of a text between the occurrences of a character. -/
def splitAt (separator : Char) : List Char → List (List Char)
  | [] => [[]]
  | character :: rest =>
    if character = separator then [] :: splitAt separator rest
    else
      match splitAt separator rest with
      | part :: parts => (character :: part) :: parts
      | [] => [[character]]

/-- Whether a nonempty text is a decimal number below a bound. -/
def isNumberBelow (bound : Nat) (text : List Char) : Bool :=
  !text.isEmpty && text.all Char.isDigit && decide (naturalOfDigits text < bound)

/-- Whether a text is a byte without leading zeros. -/
def isByte (text : List Char) : Bool :=
  isNumberBelow 256 text && (text.length == 1 || text.head? != some '0')

/-- Whether a text is an address of four bytes. -/
def isFourByteAddress (text : List Char) : Bool :=
  let parts := splitAt '.' text
  parts.length == 4 && parts.all isByte

/-- Whether a text is a group of an address: one to four hexadecimal digits. -/
def isGroup (text : List Char) : Bool :=
  !text.isEmpty && text.length ≤ 4 && text.all fun digit => (Json.hexValue? digit).isSome

/-- How many groups a list of parts stands for.  The last part may be an address
of four bytes, which stands for two. -/
def groupCount? (bytesAllowed : Bool) : List (List Char) → Option Nat
  | [] => some 0
  | [last] =>
    if isGroup last then some 1
    else if bytesAllowed && isFourByteAddress last then some 2
    else none
  | part :: parts =>
    if isGroup part then (groupCount? bytesAllowed parts).map (· + 1) else none

/-- The parts of an address between its colons; an empty text has none. -/
def groupParts (text : List Char) : List (List Char) :=
  if text.isEmpty then [] else splitAt ':' text

/-- The texts around the first double colon. -/
def splitAtGap? : List Char → Option (List Char × List Char)
  | ':' :: ':' :: rest => some ([], rest)
  | character :: rest => (splitAtGap? rest).map fun (head, tail) => (character :: head, tail)
  | [] => none

/-- Whether a text is an address of eight groups; a double colon stands for at
least one of them. -/
def isGroupAddress (text : List Char) : Bool :=
  match splitAtGap? text with
  | some (head, tail) =>
    match groupCount? false (groupParts head), groupCount? true (groupParts tail) with
    | some before, some after => before + after < 8
    | _, _ => false
  | none => groupCount? true (groupParts text) == some 8

/-- Whether a text is the number of a service behind its colon. -/
def isServiceNumber : List Char → Bool
  | ':' :: number => isNumberBelow (twoTo 16) number
  | _ => false

/-- Whether a text is an address with the number of a service. -/
def isSocketAddress (text : String) : Bool :=
  match text.toList with
  | '[' :: rest =>
    let inner := rest.takeWhile (· != ']')
    let address := inner.takeWhile (· != '%')
    let isScoped :=
      match inner.dropWhile (· != '%') with
      | [] => true
      | _ :: scope => isNumberBelow (twoTo 32) scope
    isGroupAddress address && isScoped && isServiceNumber ((rest.dropWhile (· != ']')).drop 1)
  | characters =>
    isFourByteAddress (characters.takeWhile (· != ':')) &&
      isServiceNumber (characters.dropWhile (· != ':'))

end TableGraph.CommandLine
