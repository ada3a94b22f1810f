import TableGraph.Value

/-!
# Stored values

A cell is null, a number, a text or a blob; the four classes are ordered in this
way.  Texts and blobs are bytes, compared byte by byte; integers and real
numbers are compared by their exact values.
-/

namespace TableGraph

/-- A value as a database stores it. -/
inductive Cell where
  | null
  | integer (value : Int64)
  | real (value : Double)
  | text (bytes : List UInt8)
  | blob (bytes : List UInt8)
  deriving DecidableEq, Repr

instance : Inhabited Cell := ⟨.null⟩

namespace Cell

/-! ## Values -/

/-- The bytes of a text. -/
def bytesOf (text : String) : List UInt8 := text.toList.flatMap String.utf8EncodeChar

def ofText (text : String) : Cell := .text (bytesOf text)

/-- A real number; what is not a number is stored as null. -/
def ofDouble (value : Double) : Cell := if value.isNaN then .null else .real value

/-- A cell that can be stored: what is not a number becomes null. -/
def storable : Cell → Cell
  | .real value => ofDouble value
  | cell => cell

/-- The cell a value is bound as: truth values are the integers 1 and 0. -/
def ofValue : Value → Cell
  | .null => .null
  | .bool value => .integer (if value then 1 else 0)
  | .integer value => .integer value
  | .float value => ofDouble value
  | .text value => ofText value
  | .bytes value => .blob value

/-- The value a cell is read as. -/
def toValue : Cell → Value
  | .null => .null
  | .integer value => .integer value
  | .real value => .float value
  | .text bytes => .text (Utf8.decodeLossy bytes)
  | .blob bytes => .bytes bytes

def isNull (cell : Cell) : Bool := cell == .null

/-! ## Order -/

/-- The order of an integer and a real number by value. -/
def compareMixed (left : Int64) (right : Double) : Ordering :=
  if right.isInfinite then (if right.negative then .gt else .lt)
  else compare (left.toInt * right.denominator) right.signedNumerator

/-- The order of two real numbers by value. -/
def compareReal (left right : Double) : Ordering := (left.compare? right).getD .eq

/-- The order of byte sequences: the first difference decides, then the length. -/
def compareBytes : List UInt8 → List UInt8 → Ordering
  | [], [] => .eq
  | [], _ :: _ => .lt
  | _ :: _, [] => .gt
  | left :: lefts, right :: rights => (compare left right).then (compareBytes lefts rights)

/-- The place of a cell's class among the classes. -/
def rank : Cell → Nat
  | .null => 0
  | .integer _ => 1
  | .real _ => 1
  | .text _ => 2
  | .blob _ => 3

/-- The order of two cells. -/
def order : Cell → Cell → Ordering
  | .integer left, .integer right => compare left right
  | .integer left, .real right => compareMixed left right
  | .real left, .integer right => (compareMixed right left).swap
  | .real left, .real right => compareReal left right
  | .text left, .text right => compareBytes left right
  | .blob left, .blob right => compareBytes left right
  | left, right => compare left.rank right.rank

/-- Whether two cells are equal in the order. -/
def same (left right : Cell) : Bool := left.order right == .eq

end Cell

end TableGraph
