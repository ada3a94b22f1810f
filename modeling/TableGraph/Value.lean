import TableGraph.Json.Basic
import TableGraph.Number.Layout
import TableGraph.Number.Reading
import TableGraph.Text.Utf8

/-!
# Values

A `Value` is what a column of a row holds and what is bound to a statement.
Client text becomes a number only when the number is written back as exactly
that text, so no two texts become the same value.
-/

namespace TableGraph

/-- A stored or bound value. -/
inductive Value where
  | null
  | bool (value : Bool)
  | integer (value : Int64)
  | float (value : Double)
  | text (value : String)
  | bytes (value : List UInt8)
  deriving DecidableEq, Repr

instance : Inhabited Value := ⟨.null⟩

namespace Value

def isNull (value : Value) : Bool := value == .null

/-! ## Client text -/

/-- The most digits a text may have and still be read as a float. -/
def floatDigitLimit : Nat := 15

/-- The integer a text is the decimal form of. -/
def canonicalInteger? (text : String) : Option Int64 :=
  (Int64.ofText? text).filter fun value => decimalText value.toInt == text

/-- The finite float a text with a point and few digits is the exact form of. -/
def canonicalFloat? (text : String) : Option Double :=
  let characters := text.toList
  if characters.contains '.' && characters.countP Char.isDigit ≤ floatDigitLimit then
    (Double.ofText? text).filter fun value =>
      value.isFinite && FloatLayout.exact.render value == text
  else
    none

/-- The value a client text is bound as: an integer or a float in its
canonical form, else the text itself. -/
def ofInput (text : String) : Value :=
  match canonicalInteger? text with
  | some value => .integer value
  | none =>
    match canonicalFloat? text with
    | some value => .float value
    | none => .text text

/-! ## Views -/

/-- The displayed form. -/
def display : Value → String
  | .null => "NULL"
  | .bool value => if value then "true" else "false"
  | .integer value => decimalText value.toInt
  | .float value => FloatLayout.plain.render value
  | .text value => value
  | .bytes value => Utf8.decodeLossy value

/-- The table a stored value names; null and bytes name none. -/
def tableName? : Value → Option String
  | .null => none
  | .bytes _ => none
  | value => some value.display

/-- The JSON form shown to readers: bytes as text, and null for a float that is
no finite number. -/
def toJson : Value → Json
  | .null => .null
  | .bool value => .bool value
  | .integer value => .integer value.toInt
  | .float value => if value.isFinite then .float value else .null
  | .text value => .text value
  | .bytes value => .text (Utf8.decodeLossy value)

/-- Equality of two values of one kind, floats by value. -/
def sameAs : Value → Value → Bool
  | .float left, .float right => left.sameValue right
  | left, right => left == right

/-! ## The faithful JSON form

Values are written without a tag; bytes are a list of numbers.
-/

/-- The JSON form that is read back as the same value. -/
def toDocument : Value → Json
  | .bytes value => .array (value.map fun byte => .integer byte.toNat)
  | value => value.toJson

/-- A byte written as a number. -/
def byteOf? : Json → Option UInt8
  | .integer value => if 0 ≤ value && value < 256 then some (UInt8.ofNat value.toNat) else none
  | _ => none

/-- The value a document stands for; an integer beyond 64 bits with a sign is
read as a float. -/
def ofDocument? : Json → Option Value
  | .null => some .null
  | .bool value => some (.bool value)
  | .integer value =>
    some (if fitsInt64 value then .integer (Int64.ofInt value) else .float (Double.ofInteger value))
  | .float value => some (.float value)
  | .text value => some (.text value)
  | .array elements => (elements.mapM byteOf?).map .bytes
  | .object _ => none

end Value

end TableGraph
