import RecordFilter.Predicate.Function
import RecordFilter.Text.Casing

/-!
# What the functions compute

A function table holds functions on values by name. The built-in table has every function of
`Function` under its name. String functions compare text in lower case, except for `substringof`;
positions count characters.
-/

namespace RecordFilter

/-- Why a function call has no result. -/
inductive FunctionError where
  | incorrectArgumentCount (expected found : Nat)
  | incorrectArgumentType (index : Nat) (found expected : String)
  | doesNotExist (name : String)
  | startOutside (start : Int64) (length : Nat)
  | tooLong
deriving DecidableEq, Repr

namespace FunctionError

/-- The text of the error. -/
def message : FunctionError → String
  | .incorrectArgumentCount expected found =>
    s!"incorrect number of arguments, expected {expected}, got {found}"
  | .incorrectArgumentType index found expected =>
    s!"incorrect argument type, argument at index {index} is type {found}, expected {expected}"
  | .doesNotExist name => s!"function {name} does not exist"
  | .startOutside start length =>
    s!"substring start {start.toInt} is outside a string of length {length}"
  | .tooLong => "number too large to fit in target type"

end FunctionError

/-- The outcome of a function call. -/
abbrev FunctionResult := Except FunctionError Value

namespace Evaluation

/-- An argument that must be a string. -/
def stringArgument (index : Nat) (value : Value) : Except FunctionError Text :=
  match value with
  | .string text => .ok text.toList
  | other => .error (.incorrectArgumentType index other.kindName "string")

/-- A call with one argument. -/
def unary (f : Value → FunctionResult) : List Value → FunctionResult
  | [a] => f a
  | arguments => .error (.incorrectArgumentCount 1 arguments.length)

/-- A call with two arguments. -/
def binary (f : Value → Value → FunctionResult) : List Value → FunctionResult
  | [a, b] => f a b
  | arguments => .error (.incorrectArgumentCount 2 arguments.length)

/-- A count as a 32-bit integer. -/
def count (n : Nat) : FunctionResult :=
  if n < 2 ^ (31 : Nat) then .ok (.int32 (Int32.ofNat n)) else .error .tooLong

/-- A function on two strings. -/
def onStrings (f : Text → Text → FunctionResult) : List Value → FunctionResult :=
  binary fun a b => do f (← stringArgument 0 a) (← stringArgument 1 b)

/-- A function from text to text. -/
def onText (f : Text → Text) : List Value → FunctionResult :=
  unary fun a => do
    let text ← stringArgument 0 a
    return .string (String.ofList (f text))

/-- A number that is part of a timestamp. -/
def datePart (part : Timestamp → Int) : List Value → FunctionResult :=
  unary fun
    | .dateTime t => .ok (.int32 (Int32.ofInt (part t)))
    | other => .error (.incorrectArgumentType 0 other.kindName "datetime")

/-- A rounding. Decimals stay decimals; other numbers become doubles. -/
def rounding (onDecimal : Decimal → Decimal) (onDouble : Float → Float) :
    List Value → FunctionResult :=
  unary fun
    | .decimal d => .ok (.decimal (onDecimal d))
    | value =>
      match value.double? with
      | some x => .ok (.double (onDouble x))
      | none => .error (.incorrectArgumentType 0 value.kindName "numeric")

/-- The position of a string in another one, or -1. -/
def indexOf (text needle : Text) : FunctionResult :=
  match Text.indexOf? (Text.lower needle) (Text.lower text) with
  | some index => count index
  | none => .ok (.int32 (-1))

/-- The characters from a position on. -/
def substring (text start : Value) : FunctionResult := do
  let text ← stringArgument 0 text
  match start.int64? with
  | none => throw (.incorrectArgumentType 1 start.kindName "integer")
  | some start =>
    if 0 ≤ start.toInt ∧ start.toInt ≤ text.length then
      return .string (String.ofList (text.drop start.toInt.toNat))
    else throw (.startOutside start text.length)

/-- Applies a function to its arguments. -/
def applyFunction : Function → List Value → FunctionResult
  | .substringOf => onStrings fun needle text => .ok (.boolean (Text.occursIn needle text))
  | .endsWith => onStrings fun text ending =>
    .ok (.boolean (Text.endsWith (Text.lower text) (Text.lower ending)))
  | .startsWith => onStrings fun text start =>
    .ok (.boolean (Text.startsWith (Text.lower text) (Text.lower start)))
  | .length => unary fun a => do count (← stringArgument 0 a).length
  | .indexOf => onStrings indexOf
  | .substring => binary substring
  | .toLower => onText Text.lower
  | .toUpper => onText Text.upper
  | .trim => onText Text.trim
  | .hour => datePart fun t => t.hour
  | .minute => datePart fun t => t.minute
  | .second => datePart fun t => t.second
  | .day => datePart fun t => t.date.day
  | .month => datePart fun t => t.date.month
  | .year => datePart fun t => t.date.year
  | .round => rounding Decimal.round Double.round
  | .floor => rounding Decimal.floor Double.floor
  | .ceiling => rounding Decimal.ceiling Double.ceiling

end Evaluation

/-- Functions on values by name. -/
abbrev FunctionTable := List (String × (List Value → FunctionResult))

namespace FunctionTable

/-- The table with every function under its name. -/
def builtin : FunctionTable :=
  Function.all.map fun function => (function.name, Evaluation.applyFunction function)

/-- Calls the function of exactly this name. -/
def call (table : FunctionTable) (name : String) (arguments : List Value) : FunctionResult :=
  match table.lookup name with
  | some f => f arguments
  | none => .error (.doesNotExist name)

end FunctionTable
end RecordFilter
