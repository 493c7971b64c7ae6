import RecordFilter.Query.Result
import RecordFilter.Report.Cbor
import RecordFilter.Report.Table
import RecordFilter.Text.Casing

/-!
# Output formats

Results are printed as a table, as JSON or in binary form. Lines of text have no form but the plain
one, and values no plain one.
-/

namespace RecordFilter

/-- A format of output. -/
inductive OutputFormat where
  | plain
  | json
  | binary
deriving DecidableEq, Repr

/-- What is printed: text, or bytes in the binary format. -/
inductive Output where
  | text (t : Text)
  | bytes (b : List UInt8)

/-- Why something cannot be printed in a format. -/
inductive PrintError where
  | valuesAreNotPlain
  | linesArePlain
deriving DecidableEq, Repr

namespace PrintError

/-- The text of the error. -/
def message : PrintError → String
  | valuesAreNotPlain => "Plain format not supported"
  | linesArePlain => "Non-plain format not supported for plain text output"

end PrintError

namespace Output

/-- The bytes of the output. -/
def toBytes : Output → List UInt8
  | text t => Utf8.encode t
  | bytes b => b

end Output

namespace OutputFormat

/-- The name of a format. -/
def name : OutputFormat → String
  | plain => "plain"
  | json => "json"
  | binary => "binary"

/-- The format of a name in any case. -/
def ofName? (name : Text) : Option OutputFormat :=
  match String.ofList (Text.lower name) with
  | "plain" => some .plain
  | "json" => some .json
  | "binary" | "cbor" => some .binary
  | _ => none

/-- The text that says that there is no format of a name. -/
def unknownMessage (name : Text) : String :=
  s!"Unknown format: {String.ofList name}"

/-- Text with a line break after it. -/
def line (t : Text) : Text :=
  t ++ ['\n']

/-- Prints a value. -/
def printValue (format : OutputFormat) (value : Json) : Except PrintError Output :=
  match format with
  | plain => .error .valuesAreNotPlain
  | json => .ok (.text (line value.compact))
  | binary => .ok (.bytes (Cbor.encode value))

/-- Prints lines of text. -/
def printLines (format : OutputFormat) (lines : List Text) : Except PrintError Output :=
  match format with
  | plain => .ok (.text (lines.flatMap line))
  | _ => .error .linesArePlain

/-- The text of a cell; null leaves it empty. -/
def cell : Option Value → Text
  | none | some .null => []
  | some value => value.render.toList

/-- The columns of a result: the fields of the record type for whole records, else the selected
fields, which only rows show. -/
def columns (schema : RecordType) : QueryResult → List String
  | .records _ => schema.fields.names
  | .selected rows => (rows.head?.map FieldMap.names).getD []

/-- Prints the result of a query. -/
def printResult (format : OutputFormat) (schema : RecordType) (result : QueryResult) :
    Except PrintError Output :=
  match format with
  | plain =>
    let names := columns schema result
    let rows := result.rows.map fun row => names.map fun name => cell (FieldMap.get? row name)
    .ok (.text (line (Table.render (names.map String.toList) rows)))
  | format => format.printValue result.toJson

end OutputFormat
end RecordFilter
