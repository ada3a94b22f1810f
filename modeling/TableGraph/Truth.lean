/-!
# Three-valued logic

A truth value is true, false or unknown.  A connective is known as soon as its
known operands decide it.
-/

namespace TableGraph

/-- A truth value, absent when it is unknown. -/
abbrev Truth := Option Bool

namespace Truth

def negate : Truth → Truth
  | some value => some (!value)
  | none => none

def both : Truth → Truth → Truth
  | some false, _ => some false
  | _, some false => some false
  | some true, some true => some true
  | _, _ => none

def either : Truth → Truth → Truth
  | some true, _ => some true
  | _, some true => some true
  | some false, some false => some false
  | _, _ => none

/-- Whether a value is known to be true. -/
def holds (value : Truth) : Bool := value == some true

end Truth

end TableGraph
