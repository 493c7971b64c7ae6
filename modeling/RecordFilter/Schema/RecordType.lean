import RecordFilter.Schema.ValueType

/-!
# Record types and property paths

A record type has a name and typed fields. A property path leads from a record through nested
records to a field; it is resolved leg by leg, and every leg must be a field of the record before it.
-/

namespace RecordFilter

/-- A record type: its name, and its fields in the order of their names. -/
structure RecordType where
  name : String
  fields : FieldMap ValueType
deriving DecidableEq, Repr

/-- The field names from a record to one of its nested fields. -/
structure PropertyPath where
  segments : List String
deriving DecidableEq, Repr

namespace PropertyPath

/-- The names with a separator in between. -/
def join (path : PropertyPath) (separator : String) : String :=
  separator.intercalate path.segments

/-- The text that shows a path. -/
def render (path : PropertyPath) : String :=
  path.join "/"

end PropertyPath

namespace RecordType

/-- The type of records of this record type. -/
def toType (schema : RecordType) : ValueType :=
  .record schema.name schema.fields

/-- The type of a field. -/
def field? (schema : RecordType) (name : String) : Option ValueType :=
  schema.fields.get? name

/-- The type at the end of a path that begins with a value of the given type. -/
def follow? (type : ValueType) : List String → Option ValueType
  | [] => some type
  | name :: rest =>
    (type.fields?).bind fun fields => (fields.get? name).bind fun next => follow? next rest

/-- Resolves a path that is given by its names. There must be at least one. -/
def resolveSegments? (schema : RecordType) (segments : List String) :
    Option (PropertyPath × ValueType) :=
  if segments.isEmpty then none
  else (follow? schema.toType segments).map fun type => (⟨segments⟩, type)

theorem resolveSegments?_eq_some_iff {schema : RecordType} {names : List String}
    {found : PropertyPath} {type : ValueType} :
    schema.resolveSegments? names = some (found, type) ↔
      names ≠ [] ∧ found = ⟨names⟩ ∧ follow? schema.toType names = some type := by
  rw [resolveSegments?]
  split
  · rename_i hempty
    simp [List.isEmpty_iff.1 hempty]
  · rename_i hnonempty
    rw [List.isEmpty_iff] at hnonempty
    cases follow? schema.toType names with
    | none => simp
    | some target => simp [hnonempty, @eq_comm _ found]

/-- Resolves a path whose names are separated by slashes; blanks around the names do not count. -/
def resolvePath? (schema : RecordType) (path : Text) : Option (PropertyPath × ValueType) :=
  schema.resolveSegments? ((Text.split '/' path).map fun name => String.ofList (Text.trim name))

end RecordType
end RecordFilter
