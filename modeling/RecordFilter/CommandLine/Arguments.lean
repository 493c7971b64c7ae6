import RecordFilter.Dialect.OData
import RecordFilter.Dialect.Sql92
import RecordFilter.Report.Format

/-!
# Arguments of the command line

The command `filter` prints the records of a file that a query asks for; the command `translate`
prints a filter in one of the dialects. Options go by a long name or a letter; their value follows
as an argument of its own, after an equals sign, or right after the letter. After two hyphens there
are no options.
-/

namespace RecordFilter
namespace CommandLine

/-- The files that both commands read: the schema, and possibly parser options. -/
structure Inputs where
  schema : String
  config : Option String
deriving DecidableEq, Repr

/-- The languages that a filter can be printed in. -/
inductive Language where
  | odata
  | sql92
deriving DecidableEq, Repr

/-- The dialect of a language. -/
def Language.dialect : Language → Dialect
  | odata => .odata
  | sql92 => .sql92

/-- The language of a name. -/
def Language.ofName? (name : String) : Option Language :=
  if name = "odata" then some .odata
  else if name = "sql92" then some .sql92
  else none

/-- What is to be done. -/
inductive Command where
  | filter (inputs : Inputs) (records query : String) (format : OutputFormat)
  | translate (inputs : Inputs) (language : Language) (filter : String)
  | version
deriving DecidableEq, Repr

/-! ## Options -/

/-- An option: its long name and its letter. -/
structure OptionName where
  long : String
  letter : Char
deriving DecidableEq, Repr

/-- The options of both commands. -/
def inputOptions : List OptionName := [⟨"schema", 's'⟩, ⟨"config", 'c'⟩]

/-- The options of the command `filter`. -/
def filterOptions : List OptionName :=
  inputOptions ++ [⟨"output", 'o'⟩, ⟨"records", 'r'⟩, ⟨"query", 'q'⟩]

/-- The options of the command `translate`. -/
def translateOptions : List OptionName :=
  inputOptions ++ [⟨"dialect", 'd'⟩]

/-- The arguments of a command: values by the long names of options, and the other arguments. -/
structure Arguments where
  options : List (String × String)
  others : List String
deriving DecidableEq, Repr

/-- The part of an argument that names an option, and the value in the same argument. -/
def optionOf? (names : List OptionName) (argument : Text) : Option (String × Option Text) :=
  match argument with
  | '-' :: '-' :: rest =>
    let (name, value) := Text.spanWhile (· != '=') rest
    (names.find? fun option => option.long.toList == name).map fun option =>
      (option.long, value.tail?)
  | '-' :: letter :: rest =>
    (names.find? fun option => option.letter == letter).map fun option =>
      (option.long,
        if rest.isEmpty then none else some ((Text.dropStart? ['='] rest).getD rest))
  | _ => none

/-- Whether an argument looks like an option. -/
def looksLikeOption : Text → Bool
  | '-' :: _ :: _ => true
  | _ => false

/-- Adds the value of an option, which can be given only once. -/
def Arguments.withOption? (arguments : Arguments) (name : String) (value : Text) :
    Option Arguments :=
  if (arguments.options.lookup name).isSome then none
  else some { arguments with options := (name, String.ofList value) :: arguments.options }

/-- Reads the arguments of a command. -/
def Arguments.read? (names : List OptionName) : List String → Option Arguments
  | [] => some ⟨[], []⟩
  | argument :: rest =>
    if argument = "--" then some ⟨[], rest⟩
    else if !looksLikeOption argument.toList then
      (read? names rest).map fun arguments =>
        { arguments with others := argument :: arguments.others }
    else
      match optionOf? names argument.toList, rest with
      | none, _ => none
      | some (name, some value), rest =>
        (read? names rest).bind fun arguments => arguments.withOption? name value
      | some (_, none), [] => none
      | some (name, none), value :: rest =>
        if looksLikeOption value.toList then none
        else (read? names rest).bind fun arguments => arguments.withOption? name value.toList

/-! ## Commands -/

/-- The value of an option that names a file, which cannot be empty. -/
def Arguments.path? (arguments : Arguments) (name : String) : Option String :=
  (arguments.options.lookup name).filter fun path => path ≠ ""

/-- The files that both commands read. -/
def Arguments.inputs? (arguments : Arguments) : Option Inputs :=
  (arguments.path? "schema").bind fun schema =>
    match arguments.options.lookup "config" with
    | some "" => none
    | config => some ⟨schema, config⟩

/-- The command `filter`. -/
def filterCommand? (arguments : Arguments) : Option Command := do
  let inputs ← arguments.inputs?
  let records ← arguments.path? "records"
  let format ← OutputFormat.ofName? ((arguments.options.lookup "output").getD "plain").toList
  if arguments.others.isEmpty then
    return .filter inputs records ((arguments.options.lookup "query").getD "") format
  else none

/-- The command `translate`. -/
def translateCommand? (arguments : Arguments) : Option Command := do
  let inputs ← arguments.inputs?
  let language ← Language.ofName? ((arguments.options.lookup "dialect").getD "odata")
  match arguments.others with
  | [filter] => return .translate inputs language filter
  | _ => none

/-- Reads a command, unless the arguments are no command. -/
def Command.read? : List String → Option Command
  | "filter" :: rest => (Arguments.read? filterOptions rest).bind filterCommand?
  | "translate" :: rest => (Arguments.read? translateOptions rest).bind translateCommand?
  | "--version" :: _ | "-V" :: _ => some .version
  | _ => none

end CommandLine
end RecordFilter
