import RecordFilter.Schema.ValueType
import RecordFilter.Value.Basic

/-!
# Functions of filters

The functions that a filter can call, with the types of their arguments and results. What they
compute is in `RecordFilter.Evaluation.Functions`.
-/

namespace RecordFilter

/-- A function that a filter can call. -/
inductive Function where
  | substringOf
  | endsWith
  | startsWith
  | length
  | indexOf
  | substring
  | toLower
  | toUpper
  | trim
  | hour
  | minute
  | second
  | day
  | month
  | year
  | round
  | floor
  | ceiling
deriving DecidableEq, Repr

namespace Function

/-- All functions. -/
def all : List Function :=
  [.substringOf, .endsWith, .startsWith, .length, .indexOf, .substring, .toLower, .toUpper, .trim,
    .hour, .minute, .second, .day, .month, .year, .round, .floor, .ceiling]

/-- The name of the function in filters. -/
def name : Function → String
  | substringOf => "substringof"
  | endsWith => "endswith"
  | startsWith => "startswith"
  | length => "length"
  | indexOf => "indexof"
  | substring => "substring"
  | toLower => "tolower"
  | toUpper => "toupper"
  | trim => "trim"
  | hour => "hour"
  | minute => "minute"
  | second => "second"
  | day => "day"
  | month => "month"
  | year => "year"
  | round => "round"
  | floor => "floor"
  | ceiling => "ceiling"

/-- The function of a name in any case; blanks around it do not count. -/
def ofName? (name : Text) : Option Function :=
  all.find? fun function => Text.eqIgnoreCase function.name.toList (Text.trim name)

/-- The number of arguments. -/
def arity : Function → Nat
  | substringOf | endsWith | startsWith | indexOf | substring => 2
  | _ => 1

/-- Whether the function asks if one string occurs in another. -/
def isStringMatch : Function → Bool
  | substringOf | endsWith | startsWith => true
  | _ => false

/-- The type of an argument that has one of its own. Other arguments take the type of the argument
before them. -/
def parameterType? : Function → Nat → Option ValueType
  | substring, 1 => some .int32
  | _, _ => none

/-- A kind of argument. -/
inductive ArgumentKind where
  | string
  | integer
  | dateTime
  | numeric
deriving DecidableEq, Repr

namespace ArgumentKind

/-- The word for the kind. -/
def word : ArgumentKind → String
  | string => "string"
  | integer => "integer"
  | dateTime => "datetime"
  | numeric => "numeric"

/-- Whether a type is of the kind. The bare null is of every kind. -/
def admits (kind : ArgumentKind) (type : ValueType) : Bool :=
  type = .null ||
    match kind with
    | string => type.isString
    | integer => type.isIntegral
    | dateTime => type.isDateTime
    | numeric => type.isNumeric

end ArgumentKind

/-- The kinds of the arguments. -/
def parameterKinds : Function → List ArgumentKind
  | substringOf | endsWith | startsWith | indexOf => [.string, .string]
  | substring => [.string, .integer]
  | length | toLower | toUpper | trim => [.string]
  | hour | minute | second | day | month | year => [.dateTime]
  | round | floor | ceiling => [.numeric]

/-- The type of the result, when the arguments have the right kinds. Rounding keeps decimals, and
turns other numbers into doubles. -/
def returnType (function : Function) (arguments : List ValueType) : ValueType :=
  match function with
  | substringOf | endsWith | startsWith => .boolean
  | length | indexOf | hour | minute | second | day | month | year => .int32
  | substring | toLower | toUpper | trim => .string
  | round | floor | ceiling =>
    match arguments.head?.map ValueType.underlying with
    | some .decimal => .decimal
    | _ => .double

/-- The first argument that is not of its kind, as an error. -/
def checkKinds (function : Function) :
    List ArgumentKind → List ValueType → Except TypeError Unit
  | kind :: kinds, type :: types =>
    if kind.admits type then checkKinds function kinds types
    else .error (.unexpectedType function.name kind.word type.render)
  | _, _ => .ok ()

/-- The type of a call with arguments of these types. -/
def resultType (function : Function) (arguments : List ValueType) : Except TypeError ValueType :=
  if arguments.length ≠ function.arity then
    .error (.unexpectedType function.name
      (if function.arity = 1 then "one argument" else "two arguments")
      s!"{arguments.length} arguments")
  else
    (function.checkKinds function.parameterKinds arguments).map fun _ =>
      function.returnType arguments

end Function
end RecordFilter
