/-!
# Faults of patterns

A malformed pattern is refused with the spot where reading it fails.  The report
of a fault shows the pattern and marks the spot below it.
-/

namespace TableGraph

/-- What is wrong with a pattern text. -/
inductive PatternFaultKind where
  | unclosedGroup
  | unopenedGroup
  | unknownFlag
  | lookAround
  | unclosedClass
  | reversedRange
  | rangeBoundary
  | classOperation
  | classEscape
  | missingExpression
  | unfinishedEscape
  | unknownEscape
  | backReference
  | unclosedCounts
  | missingCount
  | oversizedCount
  | reversedCounts
  deriving DecidableEq, Repr

/-- The wording of each kind of fault. -/
def PatternFaultKind.description : PatternFaultKind → String
  | .unclosedGroup => "unclosed group"
  | .unopenedGroup => "unopened group"
  | .unknownFlag => "unrecognized flag"
  | .lookAround => "look-around, including look-ahead and look-behind, is not supported"
  | .unclosedClass => "unclosed character class"
  | .reversedRange => "invalid character class range, the start must be <= the end"
  | .rangeBoundary => "invalid range boundary, must be a literal"
  | .classOperation => "operations between character classes are not supported"
  | .classEscape => "invalid escape sequence found in character class"
  | .missingExpression => "repetition operator missing expression"
  | .unfinishedEscape => "incomplete escape sequence, reached end of pattern prematurely"
  | .unknownEscape => "unrecognized escape sequence"
  | .backReference => "backreferences are not supported"
  | .unclosedCounts => "unclosed counted repetition"
  | .missingCount => "repetition quantifier expects a valid decimal"
  | .oversizedCount => "decimal literal invalid"
  | .reversedCounts => "invalid repetition count range, the start must be <= the end"

/-- A fault and its spot, counted from the end of the pattern: how many
characters there are from its start on, and how many behind it. -/
structure PatternFault where
  kind : PatternFaultKind
  reach : Nat
  behind : Nat
  deriving DecidableEq, Repr

namespace PatternFault

/-- The fault of a spot given by the text from its start on and the text behind it. -/
def spanning (kind : PatternFaultKind) (start rest : List Char) : PatternFault :=
  ⟨kind, start.length, rest.length⟩

/-- The report of a fault of a pattern; an empty spot is marked like one of one
character. -/
def report (fault : PatternFault) (pattern : String) : String :=
  let indent := "".pushn ' ' (pattern.length - fault.reach)
  let mark := "".pushn '^' (max 1 (fault.reach - fault.behind))
  s!"regex parse error:\n    {pattern}\n    {indent}{mark}\nerror: " ++ fault.kind.description

end PatternFault

end TableGraph
