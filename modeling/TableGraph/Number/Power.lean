/-!
# Powers and bounds

The powers of two and ten that numbers are scaled by, and the bounds of integers
of fixed width.
-/

namespace TableGraph

/-- Two to the power of a number. -/
def twoTo (exponent : Nat) : Nat := Nat.pow 2 exponent

/-- Ten to the power of a number. -/
def tenTo (exponent : Nat) : Nat := Nat.pow 10 exponent

/-- Two to the power of 63: the signed integers of 64 bits lie below it, and not
below its negation. -/
def signedBound : Nat := 9223372036854775808

/-- Two to the power of 64: the natural numbers of 64 bits lie below it. -/
def unsignedBound : Nat := 18446744073709551616

end TableGraph
