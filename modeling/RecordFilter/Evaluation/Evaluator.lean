import RecordFilter.Evaluation.Functions
import RecordFilter.Filter.Options
import RecordFilter.Predicate.Basic

/-!
# Evaluation of predicates

A predicate is evaluated against a record, which is anything that has values under field names.
Null is a value of its own: comparing it for order gives false, and the connectives have three
values. A predicate accepts a record when it evaluates to true.
-/

namespace RecordFilter

/-- Why a predicate has no value on a record. -/
inductive EvaluationError where
  | missingField (name : String)
  /-- A path that goes on through a value without fields. -/
  | notNavigable (field found : String)
  | value (error : ValueError)
  | function (error : FunctionError)
  | constructor (typeName reason : String)
deriving DecidableEq, Repr

namespace EvaluationError

/-- The text of the error. -/
def message : EvaluationError → String
  | missingField name => s!"record has no field '{name}'"
  | notNavigable field found => s!"cannot read '{field}' from a {found} value"
  | value error => error.message
  | function error => error.message
  | constructor typeName reason => s!"constructor for {typeName} failed: {reason}"

end EvaluationError

/-- A record: the values under its field names. -/
abbrev FieldReader := String → Option Value

namespace Evaluation

/-- The outcome of an evaluation. -/
abbrev Outcome (α : Type) := Except EvaluationError α

/-! ## Properties -/

/-- Goes on from a value along the rest of a path. -/
def navigate (path : PropertyPath) (value : Value) : List String → Outcome Value
  | [] => .ok value
  | name :: rest =>
    match value with
    | .object fields =>
      match FieldMap.get? fields name with
      | some next => navigate path next rest
      | none => .error (.missingField path.render)
    | other => .error (.notNavigable name other.kindName)

/-- The value at the end of a path. -/
def readProperty (record : FieldReader) (path : PropertyPath) : Outcome Value :=
  match path.segments with
  | [] => .error (.missingField "")
  | name :: rest =>
    match record name with
    | some value => navigate path value rest
    | none => .error (.missingField name)

/-! ## Operators -/

/-- A truth value, or nothing for null. -/
def truth (operation : String) : Value → Outcome (Option Bool)
  | .boolean value => .ok (some value)
  | .null => .ok none
  | other => .error (.value (.type (.unexpectedType operation "boolean" other.kindName)))

/-- The value of a truth value. -/
def ofTruth : Option Bool → Value
  | some value => .boolean value
  | none => .null

/-- The connective of two truth values: decided by either of them, else unknown if one is. -/
def connect (op : Connective) (left right : Option Bool) : Option Bool :=
  if left = some op.decisive ∨ right = some op.decisive then some op.decisive
  else if left = none ∨ right = none then none
  else some (!op.decisive)

/-- Whether two values are equal. Null equals null only. With `byFlags` the left value must have all
bits of the right one. -/
def areEqual (byFlags : Bool) (left right : Value) : Outcome Bool :=
  if left.isNull || right.isNull then .ok (left.isNull && right.isNull)
  else if byFlags then (left.hasFlags right).mapError .value
  else .ok (left.equals right)

/-- The outcome of a comparison. `flags` says that the left side is of a flags enumeration. -/
def comparison (flagsMatch : FlagsMatch) (flags : Bool) (op : Comparison) (left right : Value) :
    Outcome Bool :=
  match op with
  | .eq => areEqual (flags && flagsMatch = .contains) left right
  | .ne => (areEqual false left right).map (!·)
  | op =>
    if left.isNull || right.isNull then .ok false
    else ((left.compare right).mapError .value).map op.holds

/-- Whether the values of a predicate are of a flags enumeration. -/
def hasFlagsType (p : Predicate) : Bool :=
  p.type.enumeration?.any EnumType.flags

/-! ## Predicates -/

mutual

/-- The value of a predicate on a record. A connective does not look at its right side when the left
one decides it. -/
def value (flagsMatch : FlagsMatch) (record : FieldReader) : Predicate → Outcome Value
  | .property path _ => readProperty record path
  | .constant value _ => .ok value
  | .not operand =>
    match value flagsMatch record operand with
    | .error error => .error error
    | .ok operand => (truth "not" operand).map fun known => ofTruth (known.map (!·))
  | .binary (.connective op) left right _ =>
    match value flagsMatch record left with
    | .error error => .error error
    | .ok left =>
      match truth op.keyword left with
      | .error error => .error error
      | .ok left =>
        if left = some op.decisive then .ok (.boolean op.decisive)
        else
          match value flagsMatch record right with
          | .error error => .error error
          | .ok right =>
            (truth op.keyword right).map fun right => ofTruth (connect op left right)
  | .binary (.comparison op) left right _ =>
    match value flagsMatch record left, value flagsMatch record right with
    | .error error, _ => .error error
    | .ok _, .error error => .error error
    | .ok a, .ok b => (comparison flagsMatch (hasFlagsType left) op a b).map .boolean
  | .binary (.arithmetic op) left right _ =>
    match value flagsMatch record left, value flagsMatch record right with
    | .error error, _ => .error error
    | .ok _, .error error => .error error
    | .ok a, .ok b => (Value.arithmetic op a b).mapError .value
  | .call function arguments _ =>
    match values flagsMatch record arguments with
    | .error error => .error error
    | .ok arguments => (FunctionTable.builtin.call function.name arguments).mapError .function
  | .construct constructor arguments _ =>
    match values flagsMatch record arguments with
    | .error error => .error error
    | .ok arguments =>
      (constructor.construct arguments).mapError (.constructor constructor.typeName)

/-- The values of several predicates. -/
def values (flagsMatch : FlagsMatch) (record : FieldReader) :
    List Predicate → Outcome (List Value)
  | [] => .ok []
  | p :: rest =>
    match value flagsMatch record p with
    | .error error => .error error
    | .ok first => (values flagsMatch record rest).map (first :: ·)

end

end Evaluation

/-- A filter that is ready for records: a predicate, or none to accept every record. -/
structure CompiledFilter where
  predicate : Option Predicate := none
  flagsMatch : FlagsMatch := .exact

namespace CompiledFilter

/-- Whether the filter accepts a record, or why this cannot be told. -/
def tryMatches (filter : CompiledFilter) (record : FieldReader) : Except EvaluationError Bool :=
  match filter.predicate with
  | none => .ok true
  | some p => (Evaluation.value filter.flagsMatch record p).map fun value => value.boolean? = some true

/-- Whether the filter accepts a record. One that cannot be evaluated is not accepted. -/
def accepts (filter : CompiledFilter) (record : FieldReader) : Bool :=
  match filter.tryMatches record with
  | .ok result => result
  | .error _ => false

end CompiledFilter
end RecordFilter
