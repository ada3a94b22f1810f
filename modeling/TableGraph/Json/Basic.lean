import TableGraph.Number.Double

/-!
# JSON documents

A document keeps the order of its object fields, and repeated fields too, so
that a reader of the document decides what a repetition means.  Integers within
the range of 64 bits stay integers, all other numbers are floating-point.
-/

namespace TableGraph

/-- A JSON document. -/
inductive Json where
  | null
  | bool (value : Bool)
  | integer (value : Int)
  | float (value : Double)
  | text (value : String)
  | array (elements : List Json)
  | object (fields : List (String × Json))
  deriving Inhabited, Repr

namespace Json

/-- The first field of a name. -/
def field? (document : Json) (name : String) : Option Json :=
  match document with
  | .object fields => fields.lookup name
  | _ => none

/-- A field, null when there is none. -/
def fieldOrNull (document : Json) (name : String) : Json :=
  (document.field? name).getD .null

def isNull : Json → Bool
  | .null => true
  | _ => false

def text? : Json → Option String
  | .text value => some value
  | _ => none

def bool? : Json → Option Bool
  | .bool value => some value
  | _ => none

def integer? : Json → Option Int
  | .integer value => some value
  | _ => none

def array? : Json → Option (List Json)
  | .array elements => some elements
  | _ => none

def object? : Json → Option (List (String × Json))
  | .object fields => some fields
  | _ => none

end Json

/-! ## Ordered maps

Maps that keep the order of insertion are lists of pairs.  Inserting a key
again keeps its place and replaces its value.
-/

/-- Insert a pair, a key that is already present keeping its place. -/
def insertPair {α : Type} (key : String) (value : α) : List (String × α) → List (String × α)
  | [] => [(key, value)]
  | (other, old) :: rest =>
    if other == key then (key, value) :: rest else (other, old) :: insertPair key value rest

/-- The pairs inserted one after the other. -/
def pairsOf {α : Type} (pairs : List (String × α)) : List (String × α) :=
  pairs.foldl (fun built entry => insertPair entry.1 entry.2 built) []

/-- Insert a pair into a list sorted by key. -/
def insertSorted {α : Type} (key : String) (value : α) : List (String × α) → List (String × α)
  | [] => [(key, value)]
  | (other, old) :: rest =>
    if key < other then (key, value) :: (other, old) :: rest
    else if other == key then (key, value) :: rest
    else (other, old) :: insertSorted key value rest

/-- The pairs sorted by key, the last one of a key being kept. -/
def sortedPairs {α : Type} (pairs : List (String × α)) : List (String × α) :=
  pairs.foldl (fun built entry => insertSorted entry.1 entry.2 built) []

end TableGraph
