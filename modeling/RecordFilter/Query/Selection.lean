import RecordFilter.Memo
import RecordFilter.Query.Options
import RecordFilter.Value.FromJson

/-!
# Selections

A selection keeps some fields of the records of a record type. Selections of the same fields of one
record type are the same, however they were asked for, and are shared.
-/

namespace RecordFilter

/-- The fields that a selection keeps, in the order of their names. -/
structure Selection where
  schema : String
  fields : FieldMap ValueType
deriving DecidableEq, Repr

namespace Selection

/-- The fields of a record type with these names. The first name without a field is the error. -/
def fieldsOf (schema : RecordType) : List Text → Except QueryError (FieldMap ValueType)
  | [] => .ok []
  | name :: rest =>
    let name := Text.trim name
    match schema.field? (String.ofList name) with
    | none => .error (.unknownField name)
    | some type => (fieldsOf schema rest).map (FieldMap.insert (String.ofList name) type)

/-- The selection of the named fields of a record type. -/
def resolve (schema : RecordType) (names : List Text) : Except QueryError Selection :=
  (fieldsOf schema names).map (⟨schema.name, ·⟩)

/-- The selected fields of a record. A field that is missing is null. -/
def project (selection : Selection) (record : Record) : Record :=
  selection.fields.map fun (name, _) => (name, (FieldMap.get? record name).getD .null)

end Selection

/-- A selection that was handed out before, with the number under which it is known. -/
structure SharedSelection where
  number : Nat
  selection : Selection
deriving DecidableEq, Repr

/-- The selections that have been handed out, by record type and field names. -/
abbrev SelectionTable := Memo (RecordType × List String) SharedSelection

namespace SelectionTable

/-- Hands a selection out. Names that give no selection leave the table as it is. -/
def resolve (table : SelectionTable) (schema : RecordType) (names : List Text) :
    Except QueryError (SelectionTable × SharedSelection) :=
  (Selection.resolve schema names).map fun selection =>
    table.getOrStore (schema, selection.fields.names) ⟨table.size, selection⟩

end SelectionTable
end RecordFilter
