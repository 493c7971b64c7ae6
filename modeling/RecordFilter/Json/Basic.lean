import RecordFilter.FieldMap
import RecordFilter.Number.DoubleText

/-!
# JSON values

A JSON document as a value. A number without fraction and exponent that fits into 64 bits, signed or
unsigned, is an integer; every other number is a double. Members of objects are in the order of
their names.
-/

namespace RecordFilter

/-- A JSON value. A double that is not finite is written as null. -/
inductive Json where
  | null
  | bool (value : Bool)
  | int (value : Int)
  | double (value : Float)
  | string (value : String)
  | array (items : List Json)
  | object (members : List (String × Json))
deriving Inhabited

namespace Json

/-- The name of the kind of a JSON value. -/
def kindName : Json → String
  | .null => "null"
  | .bool _ => "boolean"
  | .int _ | .double _ => "number"
  | .string _ => "string"
  | .array _ => "array"
  | .object _ => "object"

/-- An object with these members; of two members of one name the later one counts. -/
def ofMembers (members : List (String × Json)) : Json :=
  .object (FieldMap.ofList members)

/-- A member of an object. -/
def member? : Json → String → Option Json
  | .object members, name => FieldMap.get? members name
  | _, _ => none

/-- The value of a boolean. -/
def bool? : Json → Option Bool
  | .bool value => some value
  | _ => none

/-- The value of a string. -/
def string? : Json → Option String
  | .string value => some value
  | _ => none

/-- The items of an array. -/
def array? : Json → Option (List Json)
  | .array items => some items
  | _ => none

/-- The members of an object. -/
def object? : Json → Option (FieldMap Json)
  | .object members => some members
  | _ => none

/-- The value of an integer that fits into 64 bits with a sign. -/
def int64? : Json → Option Int64
  | .int value => if -2 ^ (63 : Nat) ≤ value ∧ value < 2 ^ (63 : Nat) then some (Int64.ofInt value) else none
  | _ => none

/-- The value of a number as a double. -/
def double? : Json → Option Float
  | .int value => some (Double.ofInt value)
  | .double value => some value
  | _ => none

/-- The text of a number. -/
def numberText? : Json → Option Text
  | .int value => some (Numeral.ofInt value)
  | .double value => some (Double.render Double.json value)
  | _ => none

/-! ## Writing -/

/-- A character inside a JSON string. -/
def escape (c : Char) : Text :=
  if c = '"' then ['\\', '"']
  else if c = '\\' then ['\\', '\\']
  else if c = '\n' then ['\\', 'n']
  else if c = '\r' then ['\\', 'r']
  else if c = '\t' then ['\\', 't']
  else if c.toNat = 8 then ['\\', 'b']
  else if c.toNat = 12 then ['\\', 'f']
  else if c.toNat < 32 then "\\u".toList ++ Numeral.padStart 4 '0' (Nat.toDigits 16 c.toNat)
  else [c]

/-- A JSON string. -/
def quote (t : Text) : Text :=
  '"' :: t.flatMap escape ++ ['"']

mutual

/-- The text of a value without blanks. -/
def compact : Json → Text
  | .null => "null".toList
  | .bool value => (if value then "true" else "false").toList
  | .int value => Numeral.ofInt value
  | .double value => Double.render Double.json value
  | .string value => quote value.toList
  | .array items => '[' :: Text.join [','] (compactItems items) ++ [']']
  | .object members => '\x7b' :: Text.join [','] (compactMembers members) ++ ['\x7d']

/-- The texts of the items of an array. -/
def compactItems : List Json → List Text
  | [] => []
  | item :: rest => compact item :: compactItems rest

/-- The texts of the members of an object. -/
def compactMembers : List (String × Json) → List Text
  | [] => []
  | (name, value) :: rest => (quote name.toList ++ ':' :: compact value) :: compactMembers rest

end

end Json
end RecordFilter
