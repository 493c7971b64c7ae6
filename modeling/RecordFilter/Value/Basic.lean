import RecordFilter.Guid
import RecordFilter.Json.Basic
import RecordFilter.Number.DecimalText
import RecordFilter.Schema.EnumType
import RecordFilter.Time.Timestamp

/-!
# Values

The values that fields hold and predicates produce, the errors of operations on them, and their text
and JSON forms. Decimals, timestamps, guids and enumeration values are strings in JSON.
-/

namespace RecordFilter

/-- A value of a field or of a predicate. -/
inductive Value where
  | null
  | boolean (value : Bool)
  | int32 (value : Int32)
  | int64 (value : Int64)
  | double (value : Float)
  | decimal (value : Decimal)
  | string (value : String)
  | dateTime (value : Timestamp)
  | guid (value : Guid)
  | enumeration (type : EnumType) (value : Int64)
  | object (fields : List (String × Value))
deriving Inhabited

/-- Operands of types that an operation is not defined for. Operations and types go by the names that
messages show. -/
inductive TypeError where
  /-- Values at run time. -/
  | invalidOperation (operation left right : String)
  /-- Static types of two operands. -/
  | incompatibleOperands (operation left right : String)
  /-- A type other than the expected one. -/
  | unexpectedType (operation expected found : String)
deriving DecidableEq, Repr

/-- Why an operation on values has no result. -/
inductive ValueError where
  | type (error : TypeError)
  | invalidConversion (source target : String)
  | invalidComparison (left right : String)
  | divideByZero
  | decimalOverflow (operation : String)
deriving DecidableEq, Repr

namespace TypeError

/-- The text of the error. -/
def message : TypeError → String
  | .invalidOperation operation left right =>
    s!"operation '{operation}' is not supported for {left} and {right}"
  | .incompatibleOperands operation left right =>
    s!"operator '{operation}' cannot combine {left} with {right}"
  | .unexpectedType operation expected found =>
    s!"operator '{operation}' expects {expected} operands, found {found}"

end TypeError

namespace ValueError

/-- The text of the error. -/
def message : ValueError → String
  | .type error => error.message
  | .invalidConversion source target => s!"cannot convert {source} to {target}"
  | .invalidComparison left right => s!"cannot compare {left} with {right}"
  | .divideByZero => "attempted to divide by zero"
  | .decimalOverflow operation => s!"decimal {operation} overflowed"

end ValueError

namespace Value

/-- The name of the kind of a value. -/
def kindName : Value → String
  | .null => "null"
  | .boolean _ => "boolean"
  | .int32 _ => "int32"
  | .int64 _ => "int64"
  | .double _ => "double"
  | .decimal _ => "decimal"
  | .string _ => "string"
  | .dateTime _ => "datetime"
  | .guid _ => "guid"
  | .enumeration .. => "enum"
  | .object _ => "object"

/-! ## Views -/

/-- Whether the value is null. -/
def isNull : Value → Bool
  | .null => true
  | _ => false

/-- The truth value of a boolean. -/
def boolean? : Value → Option Bool
  | .boolean value => some value
  | _ => none

/-- The text of a string. -/
def string? : Value → Option String
  | .string value => some value
  | _ => none

/-- The integer behind an integer or an enumeration value. -/
def int64? : Value → Option Int64
  | .int32 value => some value.toInt64
  | .int64 value => some value
  | .enumeration _ value => some value
  | _ => none

/-- The double nearest to a number. -/
def double? : Value → Option Float
  | .int32 value => some (Double.ofInt value.toInt)
  | .int64 value => some (Double.ofInt value.toInt)
  | .double value => some value
  | .decimal value => some value.toDouble
  | _ => none

/-- The decimal for an integer or a decimal. -/
def decimal? : Value → Option Decimal
  | .int32 value => some (Decimal.ofInt64 value.toInt64)
  | .int64 value => some (Decimal.ofInt64 value)
  | .decimal value => some value
  | _ => none

/-- A field of an object. -/
def field? : Value → String → Option Value
  | .object fields, name => FieldMap.get? fields name
  | _, _ => none

/-! ## Text -/

mutual

/-- The text that shows a value. -/
def render : Value → String
  | .null => "null"
  | .boolean value => if value then "true" else "false"
  | .int32 value => String.ofList (Numeral.ofInt value.toInt)
  | .int64 value => String.ofList (Numeral.ofInt value.toInt)
  | .double value => String.ofList (Double.render Double.plain value)
  | .decimal value => String.ofList value.render
  | .string value => value
  | .dateTime value => String.ofList value.render
  | .guid value => String.ofList value.render
  | .enumeration type value => type.describe value
  | .object fields => "\x7b" ++ ", ".intercalate (renderFields fields) ++ "\x7d"

/-- The texts of the fields of an object. -/
def renderFields : List (String × Value) → List String
  | [] => []
  | (name, value) :: rest => s!"{name}: {render value}" :: renderFields rest

end

/-! ## JSON -/

mutual

/-- The JSON form of a value. -/
def toJson : Value → Json
  | .null => .null
  | .boolean value => .bool value
  | .int32 value => .int value.toInt
  | .int64 value => .int value.toInt
  | .double value => .double value
  | .decimal value => .string (String.ofList value.render)
  | .string value => .string value
  | .dateTime value => .string (String.ofList value.render)
  | .guid value => .string (String.ofList value.render)
  | .enumeration type value => .string (type.describe value)
  | .object fields => .object (fieldsToJson fields)

/-- The JSON forms of the fields of an object. -/
def fieldsToJson : List (String × Value) → List (String × Json)
  | [] => []
  | (name, value) :: rest => (name, toJson value) :: fieldsToJson rest

end

end Value
end RecordFilter
