import TableGraph.Failure
import TableGraph.Number.Power
import TableGraph.Text.UpperCase
import TableGraph.Value

/-!
# Scalars

The five scalar types of the schema, the choice of a scalar for a native column
type, and the value a field of a scalar type shows for a stored value.
-/

namespace TableGraph

/-- A scalar type of the schema. -/
inductive Scalar where
  | id
  | int
  | float
  | boolean
  | string
  deriving DecidableEq, Repr

namespace Scalar

def all : List Scalar := [.id, .int, .float, .boolean, .string]

def name : Scalar → String
  | .id => "ID"
  | .int => "Int"
  | .float => "Float"
  | .boolean => "Boolean"
  | .string => "String"

def ofName? (name : String) : Option Scalar := all.find? fun scalar => scalar.name == name

/-! ## Native types -/

def booleanTypes : List String := ["BOOL", "BOOLEAN"]

def floatTypes : List String :=
  ["FLOAT", "DOUBLE", "DOUBLE PRECISION", "REAL", "DECIMAL", "NUMERIC", "MONEY"]

/-- Whether one list of characters occurs inside another. -/
def occursIn (part : List Char) : List Char → Bool
  | [] => part.isEmpty
  | character :: rest => part.isPrefixOf (character :: rest) || occursIn part rest

/-- The scalar of a native column type, without regard to case: an integer
type is any other type with `INT` in its name. -/
def ofNativeType (nativeType : String) : Scalar :=
  let upper := UpperCase.ofText nativeType
  if booleanTypes.contains upper then .boolean
  else if floatTypes.contains upper then .float
  else if occursIn "INT".toList upper.toList then .int
  else .string

/-! ## Shown values -/

/-- A number of the schema, which is always finite. -/
def number (value : Double) : Except RequestError Json :=
  if value.isFinite then .ok (.float value)
  else .error (.nonFinite (FloatLayout.plain.render value))

/-- The nearest 64-bit integer to a number beyond their range. -/
def clampInt64 (value : Int) : Int := max (-(signedBound : Int)) (min value (signedBound - 1))

/-- The texts that are false. -/
def falseTexts : List String := ["", "0", "false", "f"]

/-- What a field of a scalar type shows for a stored text. -/
def showText (scalar : Scalar) (value : String) : Except RequestError Json :=
  match scalar with
  | .id => .ok (.text value)
  | .string => .ok (.text value)
  | .int =>
    match Int64.ofText? value with
    | some integer => .ok (.integer integer.toInt)
    | none => .ok (.text value)
  | .float =>
    match Double.ofText? value with
    | some parsed => number parsed
    | none => .ok (.text value)
  | .boolean => .ok (.bool (!falseTexts.contains value))

/-- What a field of a scalar type shows for a stored value.  A float shown as
an integer is cut to 64 bits. -/
def showValue (scalar : Scalar) : Value → Except RequestError Json
  | .null => .ok .null
  | .integer value =>
    match scalar with
    | .id => .ok (.text (decimalText value.toInt))
    | .string => .ok (.text (decimalText value.toInt))
    | .float => .ok (.float (Double.ofInteger value.toInt))
    | .boolean => .ok (.bool (value.toInt != 0))
    | .int => .ok (.integer value.toInt)
  | .float value =>
    match scalar with
    | .id => .ok (.text (FloatLayout.plain.render value))
    | .string => .ok (.text (FloatLayout.plain.render value))
    | .int =>
      if value.isIntegral then .ok (.integer (clampInt64 value.truncate)) else number value
    | .float => number value
    | .boolean => number value
  | .bool value =>
    match scalar with
    | .id => .ok (.text (if value then "true" else "false"))
    | .string => .ok (.text (if value then "true" else "false"))
    | .int => .ok (.integer (if value then 1 else 0))
    | .float => .ok (.bool value)
    | .boolean => .ok (.bool value)
  | .text value => scalar.showText value
  | .bytes value => .ok (.text (Utf8.decodeLossy value))

end Scalar

end TableGraph
