import RecordFilter.Predicate.Function
import RecordFilter.Predicate.Operator
import RecordFilter.Predicate.TypeRegistry
import RecordFilter.Schema.RecordType

/-!
# Predicates

A predicate is a tree of properties, constants, operators, function calls and constructions, in
which every node knows its type. The functions `Predicate.negate`, `Predicate.combine` and
`Predicate.apply` build nodes whose operands fit the operator.
-/

namespace RecordFilter

/-- A typed expression over the fields of a record. -/
inductive Predicate where
  | property (path : PropertyPath) (type : ValueType)
  | constant (value : Value) (type : ValueType)
  | not (operand : Predicate)
  | binary (op : BinaryOperator) (left right : Predicate) (type : ValueType)
  | call (function : Function) (arguments : List Predicate) (type : ValueType)
  | construct (constructor : Constructor) (arguments : List Predicate) (type : ValueType)

namespace Predicate

/-- The type of the values of a predicate. -/
def type : Predicate → ValueType
  | property _ type | constant _ type | binary _ _ _ type | call _ _ type | construct _ _ type =>
    type
  | not _ => .boolean

/-- The type of a value by itself. Objects have none. -/
def naturalType : Value → ValueType
  | .null | .object _ => .null
  | .boolean _ => .boolean
  | .int32 _ => .int32
  | .int64 _ => .int64
  | .double _ => .double
  | .decimal _ => .decimal
  | .string _ => .string
  | .dateTime _ => .dateTime
  | .guid _ => .guid
  | .enumeration type _ => .enumeration type

/-- A constant of the type that its value has by itself. -/
def literal (value : Value) : Predicate :=
  .constant value (naturalType value)

/-- The truth value of a boolean constant. -/
def booleanLiteral? : Predicate → Option Bool
  | constant value _ => value.boolean?
  | _ => none

/-- Whether the predicate is a property or a constant. -/
def isAtomic : Predicate → Bool
  | property .. | constant .. => true
  | _ => false

/-! ## Checked construction -/

/-- The negation of a boolean. -/
def negate (operand : Predicate) : Except TypeError Predicate :=
  if operand.type.isBoolean then .ok (.not operand)
  else .error (.unexpectedType "not" "boolean" operand.type.render)

/-- The wider one of two numeric types. -/
def widerType (a b : ValueType) : ValueType :=
  if a = .double ∨ b = .double then .double
  else if a = .decimal ∨ b = .decimal then .decimal
  else if a = .int64 ∨ b = .int64 then .int64
  else .int32

/-- The type of an arithmetic expression: the wider operand type, together with null if an operand
may be null. Not both operands can be the bare null. -/
def arithmeticType (op : Arithmetic) (a b : ValueType) : Except TypeError ValueType :=
  let fits (type : ValueType) : Bool := type.isNumeric || type = .null
  if fits a && fits b && !(a = .null && b = .null) then
    .ok (ValueType.withNull (a.acceptsNull || b.acceptsNull) (widerType a.underlying b.underlying))
  else .error (.incompatibleOperands op.keyword a.render b.render)

/-- The type of an operator between operands of two types. -/
def operatorType (op : BinaryOperator) (a b : ValueType) : Except TypeError ValueType :=
  match op with
  | .connective op =>
    if a.isBoolean && b.isBoolean then .ok .boolean
    else .error (.unexpectedType op.keyword "boolean" s!"{a.render} and {b.render}")
  | .comparison op =>
    if a.isCompatibleWith b && !(op.isOrdered && a.fields?.isSome) then .ok .boolean
    else .error (.incompatibleOperands op.keyword a.render b.render)
  | .arithmetic op => arithmeticType op a b

/-- An operator between two operands that fit it. -/
def combine (op : BinaryOperator) (left right : Predicate) : Except TypeError Predicate :=
  (operatorType op left.type right.type).map (.binary op left right)

/-- A function applied to arguments that fit it. -/
def apply (function : Function) (arguments : List Predicate) : Except TypeError Predicate :=
  (function.resultType (arguments.map type)).map (.call function arguments)

end Predicate
end RecordFilter
