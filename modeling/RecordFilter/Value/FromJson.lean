import RecordFilter.Schema.RecordType
import RecordFilter.Time.Reading
import RecordFilter.Value.Basic

/-!
# Values from JSON

A JSON value is read as a value of a given type. Null is read as null for every type. Decimals come
from numbers or from text, timestamps and guids from text, enumeration values from a member name or
from the number. A record takes the fields that its type declares; a missing field is null.
-/

namespace RecordFilter
namespace Value

/-- Reads a JSON value of a scalar type. -/
def scalarFromJson? (type : ValueType) (json : Json) : Option Value :=
  match type with
  | .boolean => json.bool?.map .boolean
  | .int32 =>
    match json with
    | .int n =>
      if -2 ^ (31 : Nat) ≤ n ∧ n < 2 ^ (31 : Nat) then some (.int32 (Int32.ofInt n)) else none
    | _ => none
  | .int64 => json.int64?.map .int64
  | .double => json.double?.map .double
  | .decimal =>
    let text? := json.numberText?.or (json.string?.map fun text => Text.trim text.toList)
    (text?.bind Decimal.read?).map .decimal
  | .string => json.string?.map .string
  | .dateTime =>
    (json.string?.bind fun text =>
      Timestamp.read? Timestamp.defaultPatterns text.toList).map .dateTime
  | .guid => (json.string?.bind fun text => Guid.read? text.toList).map .guid
  | .enumeration e =>
    (match json with
      | .string text => e.read? text.toList
      | json => json.int64?).map (.enumeration e)
  | .record .. | .nullable _ | .null => none

mutual

/-- Reads a JSON value of a type. `shown` is the type that an error names. -/
def fromJsonAs (shown : ValueType) : ValueType → Json → Except ValueError Value
  | _, .null => .ok .null
  | .nullable inner, json => fromJsonAs shown inner json
  | .record _ fields, json =>
    match json.object? with
    | some members => (fieldsFromJson fields members).map .object
    | none => .error (.invalidConversion json.kindName shown.render)
  | type, json =>
    match scalarFromJson? type json with
    | some value => .ok value
    | none => .error (.invalidConversion json.kindName shown.render)

/-- Reads the members that the fields name. -/
def fieldsFromJson :
    List (String × ValueType) → FieldMap Json → Except ValueError (List (String × Value))
  | [], _ => .ok []
  | (name, type) :: rest, members =>
    let value :=
      match FieldMap.get? members name with
      | some json => fromJsonAs type type json
      | none => .ok .null
    match value with
    | .error error => .error error
    | .ok value => (fieldsFromJson rest members).map ((name, value) :: ·)

end

/-- Reads a JSON value of a type. -/
def fromJson (type : ValueType) (json : Json) : Except ValueError Value :=
  fromJsonAs type type json

end Value

/-- The fields of a record. -/
abbrev Record := FieldMap Value

namespace Record

/-- Reads a JSON object as a record of a record type. -/
def fromJson (schema : RecordType) (json : Json) : Except ValueError Record :=
  match Value.fromJson schema.toType json with
  | .ok (.object fields) => .ok fields
  | .ok other => .error (.invalidConversion other.kindName schema.name)
  | .error error => .error error

end Record
end RecordFilter
