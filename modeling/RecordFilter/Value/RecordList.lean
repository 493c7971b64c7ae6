import RecordFilter.Value.FromJson

/-!
# Lists of records

A JSON array of objects is read as the records of a record type.
-/

namespace RecordFilter

/-- Why JSON is no list of records. -/
inductive RecordListError where
  | notAnArray
  | record (index : Nat) (schema : String) (error : ValueError)
deriving DecidableEq, Repr

namespace RecordListError

/-- The messages from the outermost cause to the innermost one. -/
def messages : RecordListError → List String
  | notAnArray => ["expected a JSON array of records"]
  | record index schema error => [s!"record {index} does not match {schema}", error.message]

end RecordListError

namespace Record

/-- Reads the objects of an array, counting from `index`. -/
def listFrom (schema : RecordType) (index : Nat) :
    List Json → Except RecordListError (List Record)
  | [] => .ok []
  | json :: rest =>
    match fromJson schema json with
    | .error error => .error (.record index schema.name error)
    | .ok record => (listFrom schema (index + 1) rest).map (record :: ·)

/-- Reads the records of a JSON array. -/
def listFromJson (schema : RecordType) (json : Json) : Except RecordListError (List Record) :=
  match json.array? with
  | some items => listFrom schema 0 items
  | none => .error .notAnArray

end Record
end RecordFilter
