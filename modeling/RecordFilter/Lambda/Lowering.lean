import RecordFilter.Lambda.Basic

/-!
# Predicates from lambdas

A lambda over a record becomes a predicate: members of its parameter become properties, members of
constants become constants, methods of strings become functions, and a conversion that only adds null
is dropped. The length of a string and the parts of a timestamp are members as well.
-/

namespace RecordFilter

/-- Why a lambda is no predicate. -/
inductive LoweringError where
  | unboundParameter (name : String)
  | unknownProperty (path type : String)
  | unknownMember (name : String)
  | unsupportedExpression (kind : String)
  | unsupportedMethod (name : String)
  | unsupportedConversion (source target : String)
  | type (error : TypeError)
deriving DecidableEq, Repr

namespace LoweringError

/-- The text of the error. -/
def message : LoweringError → String
  | unboundParameter name => s!"parameter '{name}' is not bound by the predicate lambda"
  | unknownProperty path found => s!"property '{path}' does not exist on {found}"
  | unknownMember name => s!"constant has no member '{name}'"
  | unsupportedExpression kind => s!"expression node {kind} cannot be used in a predicate"
  | unsupportedMethod name => s!"method '{name}' cannot be used in a predicate"
  | unsupportedConversion source target =>
    s!"conversion from {source} to {target} is not supported"
  | type error => error.message

end LoweringError

namespace Lowering

/-- The outcome of making a predicate. -/
abbrev Outcome := Except LoweringError Predicate

/-- The names of the functions that are methods of strings. -/
def methods : List (String × Function) :=
  [("Contains", .substringOf), ("EndsWith", .endsWith), ("StartsWith", .startsWith),
    ("IndexOf", .indexOf), ("Substring", .substring), ("ToLower", .toLower),
    ("ToUpper", .toUpper), ("Trim", .trim)]

/-- The names of the functions that are members of timestamps. -/
def dateParts : List (String × Function) :=
  [("Hour", .hour), ("Minute", .minute), ("Second", .second), ("Day", .day), ("Month", .month),
    ("Year", .year)]

/-- A function applied to arguments. -/
def applied (function : Function) (arguments : List Predicate) : Outcome :=
  (Predicate.apply function arguments).mapError .type

/-- A member of a value that is not a record. -/
def intrinsicMember (target : Predicate) (name : String) : Outcome :=
  let type := target.type.underlying
  let function? :=
    match type with
    | .string => if name = "Length" then some .length else none
    | .dateTime => dateParts.lookup name
    | _ => none
  match function? with
  | some function => applied function [target]
  | none => .error (.unknownProperty name type.render)

/-- A path of members of a record. The last name may be a member of the property before it. -/
def property (schema : RecordType) (names : List String) : Outcome :=
  match schema.resolveSegments? names with
  | some (path, type) => .ok (.property path type)
  | none =>
    match schema.resolveSegments? names.dropLast, names.getLast? with
    | some (path, type), some last => intrinsicMember (.property path type) last
    | _, _ => .error (.unknownProperty ("/".intercalate names) schema.name)

/-- What an expression stands for: members of the record, a constant, or a predicate of its own. -/
inductive Meaning where
  | record (names : List String)
  | constant (value : Value)
  | predicate (p : Predicate)

/-- A member of what an expression stands for. -/
def Meaning.member (name : String) : Meaning → Except LoweringError Meaning
  | record names => .ok (record (names ++ [name]))
  | constant value =>
    match value.field? name with
    | some field => .ok (constant field)
    | none => .error (.unknownMember name)
  | predicate p => (intrinsicMember p name).map predicate

/-- The predicate for what an expression stands for. The record itself is none. -/
def Meaning.finish (schema : RecordType) (root : Option String) : Meaning → Outcome
  | record [] => .error (.unboundParameter (root.getD ""))
  | record names => property schema names
  | constant value => .ok (.literal value)
  | predicate p => .ok p

/-- The negative of a constant number. -/
def negated : Predicate → Outcome
  | .constant value type =>
    match Value.arithmetic .sub (.int32 0) value with
    | .ok result => .ok (.constant result type)
    | .error _ => .error (.unsupportedConversion type.render "negated value")
  | _ => .error (.unsupportedExpression "Negate")

/-- A predicate as one of another type, which must be the same or add null only. -/
def converted (p : Predicate) (target : ValueType) : Outcome :=
  if (target.isNullable && target.underlying = p.type.underlying) || target = p.type then .ok p
  else .error (.unsupportedConversion p.type.render target.render)

mutual

/-- What an expression stands for when the parameter `root` is a record. -/
def meaning (schema : RecordType) (root : Option String) :
    Expression → Except LoweringError Meaning
  | .constant value => .ok (.constant value)
  | .parameter name =>
    if root = some name then .ok (.record []) else .error (.unboundParameter name)
  | .member target name => (meaning schema root target).bind (Meaning.member name)
  | .binary op left right => do
    let left ← (← meaning schema root left).finish schema root
    let right ← (← meaning schema root right).finish schema root
    ((Predicate.combine op left right).mapError .type).map .predicate
  | .not operand => do
    let operand ← (← meaning schema root operand).finish schema root
    ((Predicate.negate operand).mapError .type).map .predicate
  | .negate operand => do
    let operand ← (← meaning schema root operand).finish schema root
    (negated operand).map .predicate
  | .convert operand type => do
    let operand ← (← meaning schema root operand).finish schema root
    (converted operand type).map .predicate
  | .methodCall target method arguments =>
    match methods.lookup method with
    | none => .error (.unsupportedMethod method)
    | some function => do
      let target ← (← meaning schema root target).finish schema root
      let arguments ← operands schema root arguments
      let ordered :=
        if function = .substringOf then arguments ++ [target] else target :: arguments
      (applied function ordered).map .predicate
  | .staticCall method arguments =>
    match Function.ofName? method.toList with
    | none => .error (.unsupportedMethod method)
    | some function => do
      let arguments ← operands schema root arguments
      (applied function arguments).map .predicate
  | other => .error (.unsupportedExpression other.kindName)

/-- The predicates of several expressions. -/
def operands (schema : RecordType) (root : Option String) :
    List Expression → Except LoweringError (List Predicate)
  | [] => .ok []
  | e :: rest => do
    let first ← (← meaning schema root e).finish schema root
    (operands schema root rest).map (first :: ·)

end

end Lowering

/-- The predicate that a lambda is over records of a record type. -/
def Lambda.toPredicate (lambda : Lambda) (schema : RecordType) : Lowering.Outcome :=
  let root := lambda.parameters.head?
  (Lowering.meaning schema root lambda.body).bind (Lowering.Meaning.finish schema root)

end RecordFilter
