import TableGraph.Number.Power
import TableGraph.Number.Reading
import TableGraph.Pattern.Basic
import TableGraph.Pattern.Fault

/-!
# Reading patterns

A pattern text is read from left to right against a stack of open groups.
Unbalanced brackets, repetitions of nothing, reversed ranges, unknown escapes and
operations between classes are refused at the first spot where one is seen.
-/

namespace TableGraph.Pattern

/-! ## Escapes -/

/-- Whether a character may be escaped to stand for itself: ASCII punctuation,
but not the two signs that escaped would stand for the ends of a word. -/
def isEscapable (character : Char) : Bool :=
  32 ≤ character.toNat && character.toNat < 127 && !character.isAlphanum &&
    character != '<' && character != '>'

/-- The class item of an escape of a letter. -/
def letterClass? : Char → Option ClassItem
  | 'd' => some (.digit false)
  | 'D' => some (.digit true)
  | 'w' => some (.word false)
  | 'W' => some (.word true)
  | 's' => some (.blank false)
  | 'S' => some (.blank true)
  | _ => none

/-- The character an escape stands for. -/
def escapedCharacter? : Char → Option Char
  | 'n' => some '\n'
  | 'r' => some '\r'
  | 't' => some '\t'
  | 'f' => some (Char.ofNat 12)
  | 'v' => some (Char.ofNat 11)
  | 'a' => some (Char.ofNat 7)
  | character => if isEscapable character then some character else none

/-- The condition on a place that an escape stands for. -/
def escapedCondition? : Char → Option Pattern
  | 'b' => some (.atWordBoundary false)
  | 'B' => some (.atWordBoundary true)
  | 'A' => some .atStart
  | 'z' => some .atEnd
  | _ => none

/-- What an escape or a literal character stands for. -/
inductive Atom where
  | literal (character : Char)
  | letters (item : ClassItem)
  | condition (pattern : Pattern)

namespace Atom

def pattern : Atom → Pattern
  | .literal character => .characters (CharacterClass.only character)
  | .letters item => .characters ⟨false, [item]⟩
  | .condition pattern => pattern

end Atom

/-- Read an escape; `start` is the text from the backslash on. -/
def readEscape (start : List Char) : List Char → Except PatternFault (Atom × List Char)
  | [] => .error (.spanning .unfinishedEscape start [])
  | character :: rest =>
    match letterClass? character, escapedCharacter? character, escapedCondition? character with
    | some item, _, _ => .ok (.letters item, rest)
    | none, some literal, _ => .ok (.literal literal, rest)
    | none, none, some pattern => .ok (.condition pattern, rest)
    | none, none, none =>
      .error (.spanning (if character.isDigit then .backReference else .unknownEscape) start rest)

/-! ## Classes -/

/-- Read a member of a class, which is there. -/
def readMember (unclosed : PatternFault) (text : List Char) :
    Except PatternFault (Atom × List Char) :=
  match text with
  | [] => .error unclosed
  | '[' :: _ => .error unclosed
  | '\\' :: rest => readEscape text rest
  | character :: rest => .ok (.literal character, rest)

/-- A member that stands alone, read from `start` up to `rest`. -/
def itemOfMember (member : Atom) (start rest : List Char) : Except PatternFault ClassItem :=
  match member with
  | .literal character => .ok (.range character character)
  | .letters item => .ok item
  | .condition _ => .error (.spanning .classEscape start rest)

/-- A member that bounds a range, read from `start` up to `rest`. -/
def boundOfMember (member : Atom) (start rest : List Char) : Except PatternFault Char :=
  match member with
  | .literal character => .ok character
  | _ => .error (.spanning .rangeBoundary start rest)

/-- Read one item of a class: a member, or two of them around a dash. -/
def readItem (unclosed : PatternFault) (text : List Char) :
    Except PatternFault (ClassItem × List Char) := do
  let (first, rest) ← readMember unclosed text
  match rest with
  | [] => .error unclosed
  | ['-'] => .error unclosed
  | '-' :: second :: later =>
    if second = ']' || second = '-' then return (← itemOfMember first text rest, rest)
    let (last, behind) ← readMember unclosed (second :: later)
    let lower ← boundOfMember first text rest
    let upper ← boundOfMember last (second :: later) behind
    if lower ≤ upper then return (.range lower upper, behind)
    else .error (.spanning .reversedRange text behind)
  | rest => return (← itemOfMember first text rest, rest)

/-- Whether a sign between classes is next, which would intersect or subtract them. -/
def beginsOperation : List Char → Bool
  | '&' :: '&' :: _ => true
  | '-' :: '-' :: _ => true
  | '~' :: '~' :: _ => true
  | _ => false

/-- Read the items of a class up to its closing bracket.  An item takes at least
one character, so the length of the text bounds their number. -/
def readItems (unclosed : PatternFault) :
    Nat → List ClassItem → List Char → Except PatternFault (List ClassItem × List Char)
  | 0, _, _ => .error unclosed
  | _, _, [] => .error unclosed
  | _, items, ']' :: rest => .ok (items, rest)
  | fuel + 1, items, text => do
    if beginsOperation text then .error (.spanning .classOperation text (text.drop 2))
    let (item, rest) ← readItem unclosed text
    readItems unclosed fuel (item :: items) rest

/-- Read a class behind its bracket.  Dashes at its start and a closing bracket
that would leave it empty stand for themselves; `start` is the text from the
opening bracket on. -/
def readClass (start rest : List Char) : Except PatternFault (CharacterClass × List Char) := do
  let (negated, body) :=
    match rest with
    | '^' :: body => (true, body)
    | body => (false, body)
  let dashes := body.takeWhile (· == '-')
  let items : List ClassItem := dashes.map fun dash => .range dash dash
  match body.dropWhile (· == '-') with
  | [] =>
    .error (.spanning .unclosedClass start (if dashes.isEmpty then [] else start))
  | first :: later =>
    let (items, body) : List ClassItem × List Char :=
      if dashes.isEmpty && first == ']' then ([.range first first], later)
      else (items, first :: later)
    let (items, rest) ← readItems (.spanning .unclosedClass start body) body.length items body
    return (⟨negated, items⟩, rest)

/-! ## Counts -/

/-- Read a count with white space around it. -/
def readCount (text : List Char) : Except PatternFault Nat × List Char :=
  let text := text.dropWhile isWhiteSpace
  let rest := text.dropWhile Char.isDigit
  let count := naturalOfDigits (text.takeWhile Char.isDigit)
  let read : Except PatternFault Nat :=
    if rest.length = text.length then .error (.spanning .missingCount text rest)
    else if count < twoTo 32 then .ok count
    else .error (.spanning .oversizedCount text rest)
  (read, rest.dropWhile isWhiteSpace)

/-- Read the counts of a repetition up to its closing brace; `start` is the text
from the opening brace on. -/
def readCounts (start text : List Char) :
    Except PatternFault ((Nat × Option Nat) × List Char) := do
  let (least, rest) := readCount text
  match rest with
  | [] => .error (.spanning .unclosedCounts start [])
  | [','] => .error (.spanning .unclosedCounts start [])
  | ',' :: '\x7d' :: rest => return ((← least, none), rest)
  | ',' :: rest =>
    let least ← least
    let (most, rest) := readCount rest
    let most ← most
    match rest with
    | '\x7d' :: rest => return ((least, some most), rest)
    | rest => .error (.spanning .unclosedCounts start rest)
  | '\x7d' :: rest =>
    let least ← least
    return ((least, some least), rest)
  | rest =>
    let _ ← least
    .error (.spanning .unclosedCounts start rest)

/-! ## Groups -/

/-- An open group: its number, the text from its parenthesis on, the alternatives
that are complete and the items of the current one, both in reverse. -/
structure OpenGroup where
  index : Option Nat
  start : List Char
  alternatives : List Pattern
  items : List Pattern

/-- The items of an alternative one after the other. -/
def sequenceOf : List Pattern → Pattern
  | [] => .empty
  | [only] => only
  | first :: rest => .sequence first (sequenceOf rest)

/-- The alternatives of a group in order of preference. -/
def alternativesOf : List Pattern → Pattern
  | [] => .empty
  | [only] => only
  | first :: rest => .alternative first (alternativesOf rest)

namespace OpenGroup

/-- A group that nothing has been read of. -/
def opened (index : Option Nat) (start : List Char) : OpenGroup := ⟨index, start, [], []⟩

/-- The pattern of the alternatives of a group. -/
def pattern (group : OpenGroup) : Pattern :=
  alternativesOf (sequenceOf group.items.reverse :: group.alternatives).reverse

/-- The pattern of a group that is closed. -/
def closed (group : OpenGroup) : Pattern :=
  match group.index with
  | some index => .group index group.pattern
  | none => group.pattern

def push (group : OpenGroup) (item : Pattern) : OpenGroup :=
  { group with items := item :: group.items }

/-- Begin the next alternative. -/
def branch (group : OpenGroup) : OpenGroup :=
  { group with
    alternatives := sequenceOf group.items.reverse :: group.alternatives
    items := [] }

end OpenGroup

/-- What has been read of a pattern: the innermost open group, those around it
and the number of the next one. -/
structure PatternReader where
  current : OpenGroup
  outer : List OpenGroup
  nextIndex : Nat

namespace PatternReader

def push (reader : PatternReader) (item : Pattern) : PatternReader :=
  { reader with current := reader.current.push item }

/-- Open a group at the text from its parenthesis on. -/
def openGroup (reader : PatternReader) (capturing : Bool) (start : List Char) : PatternReader :=
  let index := if capturing then some reader.nextIndex else none
  { current := .opened index start
    outer := reader.current :: reader.outer
    nextIndex := if capturing then reader.nextIndex + 1 else reader.nextIndex }

/-- Read what stands behind an opening parenthesis. -/
def readOpening (reader : PatternReader) (start rest : List Char) :
    Except PatternFault (PatternReader × List Char) :=
  match rest with
  | '?' :: '=' :: later => .error (.spanning .lookAround start later)
  | '?' :: '!' :: later => .error (.spanning .lookAround start later)
  | '?' :: '<' :: '=' :: later => .error (.spanning .lookAround start later)
  | '?' :: '<' :: '!' :: later => .error (.spanning .lookAround start later)
  | ['?'] => .error (.spanning .unclosedGroup start rest)
  | '?' :: ')' :: _ => .error (.spanning .missingExpression rest rest)
  | '?' :: ':' :: later => .ok (reader.openGroup false start, later)
  | '?' :: flag :: later => .error (.spanning .unknownFlag (flag :: later) later)
  | rest => .ok (reader.openGroup true start, rest)

/-- Close the innermost group at the text from its parenthesis on. -/
def readClosing (reader : PatternReader) (start rest : List Char) :
    Except PatternFault (PatternReader × List Char) :=
  match reader.outer with
  | [] => .error (.spanning .unopenedGroup start rest)
  | around :: outer =>
    .ok ({ reader with current := around.push reader.current.closed, outer := outer }, rest)

/-- Repeat the item read last; a question mark behind the operator makes the
repetition reluctant. -/
def repeatLast (reader : PatternReader) (start : List Char) (least : Nat) (most : Option Nat)
    (rest : List Char) : Except PatternFault (PatternReader × List Char) :=
  let (greedy, rest) :=
    match rest with
    | '?' :: rest => (false, rest)
    | rest => (true, rest)
  match reader.current.items with
  | [] => .error (.spanning .missingExpression start start)
  | item :: items =>
    if most.any (· < least) then .error (.spanning .reversedCounts start rest)
    else
      let repeated := .repetition item least most greedy
      .ok ({ reader with current := { reader.current with items := repeated :: items } }, rest)

/-- Read the counts of a repetition behind the brace. -/
def readRepetition (reader : PatternReader) (start rest : List Char) :
    Except PatternFault (PatternReader × List Char) :=
  if reader.current.items.isEmpty then .error (.spanning .missingExpression start start)
  else do
    let ((least, most), rest) ← readCounts start rest
    reader.repeatLast start least most rest

/-- Read the part of a pattern that begins with a character. -/
def readPart (reader : PatternReader) (character : Char) (rest : List Char) :
    Except PatternFault (PatternReader × List Char) :=
  let start := character :: rest
  match character with
  | '(' => reader.readOpening start rest
  | ')' => reader.readClosing start rest
  | '|' => .ok ({ reader with current := reader.current.branch }, rest)
  | '.' => .ok (reader.push (.characters ⟨true, [.range '\n' '\n']⟩), rest)
  | '^' => .ok (reader.push .atStart, rest)
  | '$' => .ok (reader.push .atEnd, rest)
  | '*' => reader.repeatLast start 0 none rest
  | '+' => reader.repeatLast start 1 none rest
  | '?' => reader.repeatLast start 0 (some 1) rest
  | '\x7b' => reader.readRepetition start rest
  | '[' => (readClass start rest).map fun (set, rest) => (reader.push (.characters set), rest)
  | '\\' => (readEscape start rest).map fun (atom, rest) => (reader.push atom.pattern, rest)
  | literal => .ok (reader.push (.characters (CharacterClass.only literal)), rest)

/-- The pattern of a text that ends here; every group has to be closed. -/
def finish (reader : PatternReader) : Except PatternFault Pattern :=
  let start := reader.current.start
  if reader.outer.isEmpty then .ok reader.current.pattern
  else .error (.spanning .unclosedGroup start (start.drop 1))

/-- Read a text part by part.  A part takes at least one character, so the length
of the text bounds their number. -/
def readParts : Nat → PatternReader → List Char → Except PatternFault Pattern
  | fuel + 1, reader, character :: rest => do
    let (reader, rest) ← reader.readPart character rest
    readParts fuel reader rest
  | _, reader, _ => reader.finish

end PatternReader

/-- The pattern a text stands for, or where and why the text is malformed. -/
def read (text : String) : Except PatternFault Pattern :=
  let characters := text.toList
  PatternReader.readParts characters.length ⟨.opened none [], [], 1⟩ characters

/-- The engine for the patterns that are read here. -/
def engine : PatternEngine := fun text =>
  match read text with
  | .ok pattern => .ok ⟨pattern.removeFirst⟩
  | .error fault => .error (fault.report text)

/-- The pattern a text stands for, absent when the text is malformed. -/
def parse? (text : String) : Option Pattern := (read text).toOption

end TableGraph.Pattern
