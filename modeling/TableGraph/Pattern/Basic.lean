import TableGraph.Text.DecimalDigit
import TableGraph.Text.WhiteSpace
import TableGraph.Text.WordCharacter

/-!
# Patterns

Regular expressions with numbered groups.  The meaning of a pattern is a
function that tries its ways of matching in order of preference and hands each
one to a continuation, so the first way that lets the whole match succeed is
taken.  A search takes the leftmost place where the pattern matches.
-/

namespace TableGraph

/-- One item of a character class. -/
inductive ClassItem where
  | range (first last : Char)
  | digit (negated : Bool)
  | word (negated : Bool)
  | blank (negated : Bool)
  deriving DecidableEq, Repr

/-- A set of characters. -/
structure CharacterClass where
  negated : Bool
  items : List ClassItem
  deriving DecidableEq, Repr

namespace CharacterClass

def itemContains (character : Char) : ClassItem → Bool
  | .range first last => first ≤ character && character ≤ last
  | .digit negated => isDecimalDigit character != negated
  | .word negated => isWordCharacter character != negated
  | .blank negated => isWhiteSpace character != negated

def contains (characters : CharacterClass) (character : Char) : Bool :=
  characters.items.any (itemContains character) != characters.negated

/-- The class of one character. -/
def only (character : Char) : CharacterClass := ⟨false, [.range character character]⟩

end CharacterClass

/-- A regular expression. -/
inductive Pattern where
  | empty
  | characters (set : CharacterClass)
  | atStart
  | atEnd
  | atWordBoundary (negated : Bool)
  | sequence (first second : Pattern)
  | alternative (first second : Pattern)
  /-- At least `least` and at most `most` times, as often as possible when it
  is greedy. -/
  | repetition (inner : Pattern) (least : Nat) (most : Option Nat) (greedy : Bool)
  | group (index : Nat) (inner : Pattern)
  deriving Repr

/-- The state of a match: the character before, what is left of the text, and
the texts of the groups matched so far. -/
structure MatchState where
  previous : Option Char
  rest : List Char
  groups : List (Nat × List Char)

namespace MatchState

/-- The text of a group, the latest one when it matched several times. -/
def group? (state : MatchState) (index : Nat) : Option (List Char) :=
  (state.groups.find? fun entry => entry.1 == index).map (·.2)

/-- The text between two states of one match. -/
def between (start finish : MatchState) : List Char :=
  start.rest.take (start.rest.length - finish.rest.length)

end MatchState

/-- A way to go on from the states a pattern reaches. -/
abbrev Continuation := MatchState → Option MatchState

namespace Pattern

/-- Repeat a matcher `required` times and then up to `optional` times more.  An
optional round that consumes nothing ends the repetition. -/
def rounds (inner : MatchState → Continuation → Option MatchState) (greedy : Bool) :
    Nat → Nat → MatchState → Continuation → Option MatchState
  | required + 1, optional, state, resume =>
    inner state fun next => rounds inner greedy required optional next resume
  | 0, 0, state, resume => resume state
  | 0, optional + 1, state, resume =>
    let more : Unit → Option MatchState := fun _ =>
      inner state fun next =>
        if next.rest.length < state.rest.length then
          rounds inner greedy 0 optional next resume
        else
          none
    if greedy then
      match more () with
      | some found => some found
      | none => resume state
    else
      match resume state with
      | some found => some found
      | none => more ()
  termination_by required optional => required + optional

/-- Whether the state stands between a word character and another one. -/
def isWordBoundary (state : MatchState) : Bool :=
  (state.previous.any isWordCharacter) != (state.rest.head?.any isWordCharacter)

/-- The ways a pattern matches from a state, each handed to a continuation. -/
def run : Pattern → MatchState → Continuation → Option MatchState
  | .empty, state, resume => resume state
  | .characters set, state, resume =>
    match state.rest with
    | [] => none
    | character :: rest =>
      if set.contains character then resume { state with previous := some character, rest := rest }
      else none
  | .atStart, state, resume => if state.previous.isNone then resume state else none
  | .atEnd, state, resume => if state.rest.isEmpty then resume state else none
  | .atWordBoundary negated, state, resume =>
    if isWordBoundary state != negated then resume state else none
  | .sequence first second, state, resume =>
    first.run state fun next => second.run next resume
  | .alternative first second, state, resume =>
    match first.run state resume with
    | some found => some found
    | none => second.run state resume
  | .repetition inner least most greedy, state, resume =>
    let optional :=
      match most with
      | some most => most - least
      | none => state.rest.length
    rounds inner.run greedy least optional state resume
  | .group index inner, state, resume =>
    inner.run state fun next =>
      resume { next with groups := (index, state.between next) :: next.groups }

/-- A found match: the text before it, its groups and the text behind it. -/
structure Match where
  before : List Char
  state : MatchState

/-- Search from a place on, the characters passed over being kept in reverse. -/
def searchFrom (pattern : Pattern) : List Char → List Char → Option Match
  | passed, [] =>
    (pattern.run ⟨passed.head?, [], []⟩ some).map fun state => ⟨passed.reverse, state⟩
  | passed, character :: rest =>
    match pattern.run ⟨passed.head?, character :: rest, []⟩ some with
    | some state => some ⟨passed.reverse, state⟩
    | none => searchFrom pattern (character :: passed) rest

/-- The leftmost match of a pattern in a text. -/
def search (pattern : Pattern) (text : String) : Option Match :=
  searchFrom pattern [] text.toList

/-- The text without the leftmost match of a pattern. -/
def removeFirst (pattern : Pattern) (text : String) : String :=
  match pattern.search text with
  | some found => String.ofList (found.before ++ found.state.rest)
  | none => text

end Pattern

/-! ## Engines -/

/-- A pattern that was read, by what it leaves of a text without its leftmost match. -/
structure CompiledPattern where
  removeFirst : String → String

/-- Reads the text of a pattern, or reports why it is malformed. -/
abbrev PatternEngine := String → Except String CompiledPattern

end TableGraph
