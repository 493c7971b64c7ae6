import RecordFilter.CommandLine.Arguments
import RecordFilter.Filter.OptionsReader
import RecordFilter.Json.Reader
import RecordFilter.Schema.DocumentReader
import RecordFilter.Value.RecordList
import RecordFilter.Yaml.Reader

/-!
# Running commands

A command is run on the texts of files. It ends with an exit code, some output, and messages that say
why it failed, with the causes below.
-/

namespace RecordFilter
namespace CommandLine

/-- Looks up the text of a file, or says why it cannot be read. -/
abbrev FileReader := String → Except String Text

/-- Why a command failed: messages from the outermost cause to the innermost one. -/
abbrev Failure := List String

/-- What a command leaves behind. -/
structure Outcome where
  exitCode : Nat
  output : List UInt8
  messages : Text

/-- The message for a file that is not there. -/
def missingFile : String := "No such file or directory (os error 2)"

/-! ## Messages -/

/-- The lines of a cause, with a number in front if there are several. -/
def indented (number : Option Nat) (message : Text) : Text :=
  let (first, others) :=
    match number with
    | some n => (Numeral.padStart 5 ' ' (Numeral.ofNat n) ++ [':', ' '], List.replicate 7 ' ')
    | none => (List.replicate 4 ' ', List.replicate 4 ' ')
  first ++ Text.join ('\n' :: others) (Text.split '\n' message)

/-- The text of the causes of a failure. -/
def causesText (causes : List Text) : Text :=
  match causes with
  | [] => []
  | [cause] => "\n\nCaused by:\n".toList ++ indented none cause
  | causes =>
    "\n\nCaused by:".toList
      ++ (causes.zipIdx.flatMap fun (cause, n) => '\n' :: indented (some n) cause)

/-- The text of a failure. -/
def failureText (failure : Failure) : Text :=
  match failure.map String.toList with
  | [] => []
  | outer :: causes => "Error: ".toList ++ outer ++ causesText causes ++ ['\n']

/-! ## Reading files -/

/-- Reads a file, or fails with a message above the cause. -/
def readFile (files : FileReader) (message path : String) : Except Failure Text :=
  (files path).mapError fun cause => [message, cause]

/-- Reads the schema of a file. -/
def readSchema (files : FileReader) (path : String) : Except Failure RecordType := do
  let text ← readFile files s!"failed to read schema {path}" path
  match (Yaml.read? text).bind SchemaDocument.ofYaml? with
  | none => throw ["the text is not a schema document"]
  | some document => document.build.mapError SchemaError.messages

/-- Reads the parser options of a file. -/
def readOptions (files : FileReader) (path : String) : Except Failure ParserOptions := do
  let text ← readFile files s!"failed to read parser options {path}" path
  match (Yaml.read? text).bind ParserOptions.ofYaml? with
  | some options => return options
  | none => throw [s!"invalid parser options in {path}", "the text does not hold parser options"]

/-- Reads the records of a file. -/
def readRecords (files : FileReader) (schema : RecordType) (path : String) :
    Except Failure (List Record) := do
  let text ← readFile files s!"failed to open records {path}" path
  match Json.read? text with
  | none => throw [s!"{path} is not valid JSON", "the text is not a JSON value"]
  | some json =>
    (Record.listFromJson schema json).mapError fun error =>
      s!"reading records from {path}" :: error.messages

/-- The parser for the files of a command. -/
def readParser (files : FileReader) (inputs : Inputs) : Except Failure FilterParser := do
  let schema ← readSchema files inputs.schema
  match inputs.config with
  | none => return { schema }
  | some path => return { schema, options := ← readOptions files path }

/-! ## Commands -/

/-- The output of a command. -/
def execute (files : FileReader) (newGuid : Guid) : Command → Except Failure Output
  | .filter inputs records query format => do
    let parser ← readParser files inputs
    let records ← readRecords files parser.schema records
    let options ← (QueryOptions.read query.toList).mapError fun error =>
      [s!"invalid query options '{query}'", error.message]
    let result ← (options.apply parser newGuid records).mapError fun error => [error.message]
    (format.printResult parser.schema result).mapError fun error => [error.message]
  | .translate inputs language filter => do
    let parser ← readParser files inputs
    match ← (parser.parse newGuid filter.toList).mapError fun error => [error.message] with
    | none => return .text []
    | some p =>
      let rendered ← (language.dialect.render p).mapError fun error => [error.message]
      (OutputFormat.plain.printLines [rendered]).mapError fun error => [error.message]
  | .version => return .text "odata-query 0.1.0\n".toList

/-- Runs the command that the arguments give. Arguments that are no command end with the code 2, and
failures with the code 1. -/
def run (files : FileReader) (newGuid : Guid) (arguments : List String) : Outcome :=
  match Command.read? arguments with
  | none =>
    ⟨2, [], "error: usage: odata-query <filter|translate> --schema <FILE> [OPTIONS]\n".toList⟩
  | some command =>
    match execute files newGuid command with
    | .ok output => ⟨0, output.toBytes, []⟩
    | .error failure => ⟨1, [], failureText failure⟩

end CommandLine
end RecordFilter
