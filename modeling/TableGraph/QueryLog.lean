import TableGraph.Number.Layout

/-!
# The query log

Every executed statement leaves one entry: its text behind the time it took, or
the bare text when it failed.
-/

namespace TableGraph

/-- The entries of a log, oldest first. -/
structure QueryLog where
  entries : List String
  deriving DecidableEq, Repr

namespace QueryLog

def empty : QueryLog := ⟨[]⟩

instance : Inhabited QueryLog := ⟨empty⟩

def isEmpty (log : QueryLog) : Bool := log.entries.isEmpty

def record (log : QueryLog) (entry : String) : QueryLog := ⟨log.entries ++ [entry]⟩

/-- A time in nanoseconds as milliseconds with three places.  The seconds are
rounded to a floating-point number before they are scaled. -/
def milliseconds (nanoseconds : Nat) : String :=
  let second := 1000000000
  let seconds := (Double.ofInteger (nanoseconds / second : Nat)).add
    ((Double.ofInteger (nanoseconds % second : Nat)).divide (Double.ofInteger second))
  (seconds.multiply (Double.ofInteger 1000)).withPlaces 3

/-- The entry of a statement that succeeded. -/
def timedEntry (nanoseconds : Nat) (statement : String) : String :=
  "(" ++ milliseconds nanoseconds ++ " ms) " ++ statement

def recordTimed (log : QueryLog) (nanoseconds : Nat) (statement : String) : QueryLog :=
  log.record (timedEntry nanoseconds statement)

/-- A statement that failed is recorded bare. -/
def recordFailed (log : QueryLog) (statement : String) : QueryLog := log.record statement

end QueryLog

end TableGraph
