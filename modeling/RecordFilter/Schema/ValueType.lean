import RecordFilter.FieldMap
import RecordFilter.Schema.EnumType

/-!
# Types

The static types of fields, literals and predicates. Strings and records accept null by themselves;
every other type accepts it inside `nullable` only. The type of the bare literal `null` is a type of
its own.

Main statement: two types are equal if and only if they have the same structure, names included.
-/

namespace RecordFilter

/-- The static type of a field, a literal or a predicate. -/
inductive ValueType where
  | boolean
  | int32
  | int64
  | double
  | decimal
  | string
  | dateTime
  | guid
  | enumeration (type : EnumType)
  | record (name : String) (fields : List (String × ValueType))
  | nullable (inner : ValueType)
  | null
deriving Repr, Inhabited

namespace ValueType

/-! ## Equality -/

mutual

/-- Whether two types have the same structure. -/
def beq : ValueType → ValueType → Bool
  | .boolean, .boolean | .int32, .int32 | .int64, .int64 | .double, .double
  | .decimal, .decimal | .string, .string | .dateTime, .dateTime | .guid, .guid
  | .null, .null => true
  | .enumeration a, .enumeration b => a == b
  | .record a fields, .record b others => a == b && beqFields fields others
  | .nullable a, .nullable b => beq a b
  | _, _ => false

/-- Whether two lists of fields have the same names and types. -/
def beqFields : List (String × ValueType) → List (String × ValueType) → Bool
  | [], [] => true
  | (name, type) :: rest, (other, type') :: rest' =>
    name == other && beq type type' && beqFields rest rest'
  | _, _ => false

end

mutual

theorem eq_of_beq : ∀ {a b : ValueType}, beq a b = true → a = b
  | .record _ fields, b, h => by
    cases b <;> simp [beq] at h
    rw [h.1, eq_of_beqFields h.2]
  | .nullable a, b, h => by
    cases b <;> simp [beq] at h
    rw [eq_of_beq h]
  | .enumeration _, b, h => by
    cases b <;> simp [beq] at h
    rw [h]
  | .boolean, b, h | .int32, b, h | .int64, b, h | .double, b, h | .decimal, b, h
  | .string, b, h | .dateTime, b, h | .guid, b, h | .null, b, h => by
    cases b <;> simp [beq] at h
    rfl

theorem eq_of_beqFields : ∀ {a b : List (String × ValueType)}, beqFields a b = true → a = b
  | [], [], _ => rfl
  | [], _ :: _, h => by simp [beqFields] at h
  | _ :: _, [], h => by simp [beqFields] at h
  | (_, _) :: _, (_, _) :: _, h => by
    simp [beqFields] at h
    rw [h.1.1, eq_of_beq h.1.2, eq_of_beqFields h.2]

end

mutual

theorem beq_self : ∀ a : ValueType, beq a a = true
  | .record _ fields => by simp [beq, beqFields_self fields]
  | .nullable a => by simp [beq, beq_self a]
  | .enumeration _ => by simp [beq]
  | .boolean | .int32 | .int64 | .double | .decimal | .string | .dateTime | .guid | .null => by
    simp [beq]

theorem beqFields_self : ∀ a : List (String × ValueType), beqFields a a = true
  | [] => by simp [beqFields]
  | (_, type) :: rest => by simp [beqFields, beq_self type, beqFields_self rest]

end

instance : DecidableEq ValueType := fun a b =>
  decidable_of_iff (beq a b = true) ⟨eq_of_beq, fun h => h ▸ beq_self a⟩

/-! ## Properties -/

/-- The type without `nullable` around it. -/
def underlying : ValueType → ValueType
  | .nullable inner => inner.underlying
  | type => type

/-- Whether null is a value of the type. -/
def acceptsNull : ValueType → Bool
  | .nullable _ | .null | .string | .record .. => true
  | _ => false

/-- The type together with null. -/
def orNull (type : ValueType) : ValueType :=
  if type.acceptsNull then type else .nullable type

/-- Whether the type is wrapped in `nullable`. -/
def isNullable : ValueType → Bool
  | .nullable _ => true
  | _ => false

/-- Whether the values are numbers. -/
def isNumeric (type : ValueType) : Bool :=
  match type.underlying with
  | .int32 | .int64 | .double | .decimal => true
  | _ => false

/-- Whether the values are integers. -/
def isIntegral (type : ValueType) : Bool :=
  match type.underlying with
  | .int32 | .int64 => true
  | _ => false

/-- Whether the values are `true` and `false`. -/
def isBoolean (type : ValueType) : Bool :=
  type.underlying = .boolean

/-- Whether the values are strings. -/
def isString (type : ValueType) : Bool :=
  type.underlying = .string

/-- Whether the values are timestamps. -/
def isDateTime (type : ValueType) : Bool :=
  type.underlying = .dateTime

/-- The enumeration behind the type. -/
def enumeration? (type : ValueType) : Option EnumType :=
  match type.underlying with
  | .enumeration e => some e
  | _ => none

/-- The fields of the record type behind the type. -/
def fields? (type : ValueType) : Option (FieldMap ValueType) :=
  match type.underlying with
  | .record _ fields => some fields
  | _ => none

/-- Whether values of the two types can be compared with each other. The bare null goes with every
type that accepts null; numbers go with numbers. -/
def isCompatibleWith (a b : ValueType) : Bool :=
  if a = .null then b.acceptsNull
  else if b = .null then a.acceptsNull
  else (a.isNumeric && b.isNumeric) || a.underlying = b.underlying

/-! ## Names -/

/-- The text that shows a type. -/
def render : ValueType → String
  | .boolean => "boolean"
  | .int32 => "int32"
  | .int64 => "int64"
  | .double => "double"
  | .decimal => "decimal"
  | .string => "string"
  | .dateTime => "datetime"
  | .guid => "guid"
  | .enumeration e => e.name
  | .record name _ => name
  | .nullable inner => inner.render ++ "?"
  | .null => "null"

/-- The names of the scalar types. -/
def scalarNames : List (String × ValueType) :=
  [("bool", .boolean), ("boolean", .boolean), ("int", .int32), ("int32", .int32), ("long", .int64),
    ("int64", .int64), ("double", .double), ("float", .double), ("number", .double),
    ("decimal", .decimal), ("money", .decimal), ("string", .string), ("date", .dateTime),
    ("datetime", .dateTime), ("guid", .guid), ("uuid", .guid)]

/-- A type name without its question mark, and whether it had one. -/
def splitNullable (name : Text) : Text × Bool :=
  let name := Text.trim name
  match Text.dropFinish? ['?'] name with
  | some base => (Text.trim base, true)
  | none => (name, false)

/-- The type without null, or together with it. -/
def withNull (marked : Bool) (type : ValueType) : ValueType :=
  if marked then type.orNull else type

/-- The type of a scalar type name in any case, with a question mark for a nullable type. -/
def ofScalarName? (name : Text) : Option ValueType :=
  let (base, marked) := splitNullable name
  (scalarNames.lookup (String.ofList (Text.lowerAscii base))).map (withNull marked)

end ValueType
end RecordFilter
