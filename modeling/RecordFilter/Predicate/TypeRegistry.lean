import RecordFilter.Schema.ValueType
import RecordFilter.Value.Basic

/-!
# Types that filters can construct

A filter may construct values by `new TypeName(arguments)`. A type registry says which type a name
stands for and which constructors it has. The built-in registry has `DateTime`, from three or six
date parts, and `Guid`, from text.
-/

namespace RecordFilter

/-- A way to construct a value of a registered type. `build` gives the value or the reason why there
is none. -/
structure Constructor where
  typeName : String
  parameters : List ValueType
  build : List Value → Except String Value

namespace Constructor

/-- Constructs a value from as many arguments as there are parameters. -/
def construct (constructor : Constructor) (arguments : List Value) : Except String Value :=
  if arguments.length ≠ constructor.parameters.length then
    let expected := constructor.parameters.length
    .error s!"{constructor.typeName} constructor takes {expected} arguments, got {arguments.length}"
  else constructor.build arguments

end Constructor

/-- A type that filters can construct. -/
structure RegisteredType where
  name : String
  type : ValueType
  constructors : List Constructor

/-- The types that filters can construct. -/
abbrev TypeRegistry := List RegisteredType

namespace TypeRegistry

/-- The type registered under a name; blanks around the name do not count. -/
def lookup? (registry : TypeRegistry) (name : Text) : Option RegisteredType :=
  let name := String.ofList (Text.trim name)
  registry.find? fun entry => entry.name == name

/-- Adds a constructor. The first one of a name decides on the type. -/
def register (registry : TypeRegistry) (name : String) (type : ValueType)
    (parameters : List ValueType) (build : List Value → Except String Value) : TypeRegistry :=
  let constructor : Constructor := ⟨name, parameters, build⟩
  if registry.any fun entry => entry.name == name then
    registry.map fun entry =>
      if entry.name == name then
        { entry with constructors := entry.constructors ++ [constructor] }
      else entry
  else registry ++ [⟨name, type, [constructor]⟩]

/-! ## Built-in constructors -/

/-- A date part: an integer of 32 bits that is not negative. -/
def datePart? (value : Value) : Option Nat :=
  (value.int64?).bind fun n => if 0 ≤ n.toInt ∧ n.toInt < 2 ^ (32 : Nat) then some n.toInt.toNat else none

/-- The timestamp for a year, a month, a day and a time of day. -/
def timestampOfParts (year month day hour minute second : Nat) : Except String Value :=
  if 2 ^ (31 : Nat) ≤ year then .error "number too large to fit in target type"
  else
    match Date.ofCivil? year month day with
    | none => .error s!"{year}-{month}-{day} is not a valid date"
    | some date =>
      match Timestamp.ofClock? date hour minute second with
      | some t => .ok (.dateTime t)
      | none => .error s!"{hour}:{minute}:{second} is not a valid time"

/-- The timestamp for three or six date parts. -/
def buildDateTime (arguments : List Value) : Except String Value :=
  match arguments.mapM datePart? with
  | none => .error "date parts must be non-negative integers"
  | some [year, month, day] => timestampOfParts year month day 0 0 0
  | some [year, month, day, hour, minute, second] =>
    timestampOfParts year month day hour minute second
  | some _ => .error "date parts must be three or six"

/-- The guid for its text. -/
def buildGuid : List Value → Except String Value
  | [.string text] =>
    match Guid.read? text.toList with
    | some guid => .ok (.guid guid)
    | none => .error "guid text is malformed"
  | _ => .error "guid text must be a string"

/-- The registry with `DateTime` and `Guid`. -/
def builtin : TypeRegistry :=
  register
    (register
      (register [] "DateTime" .dateTime (List.replicate 3 .int32) buildDateTime)
      "DateTime" .dateTime (List.replicate 6 .int32) buildDateTime)
    "Guid" .guid [.string] buildGuid

end TypeRegistry
end RecordFilter
