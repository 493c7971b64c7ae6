import RecordFilter.Predicate.Basic

/-!
# Lambda expressions

The expressions that query code is made of: parameters, members, operators, method calls and lambdas.
A lambda with one parameter can be turned into a predicate.
-/

namespace RecordFilter

/-- An expression of query code. Parameters go by their names. -/
inductive Expression where
  | constant (value : Value)
  | parameter (name : String)
  | member (target : Expression) (name : String)
  | binary (op : BinaryOperator) (left right : Expression)
  | not (operand : Expression)
  | negate (operand : Expression)
  | convert (operand : Expression) (type : ValueType)
  | conditional (test ifTrue ifFalse : Expression)
  | methodCall (target : Expression) (method : String) (arguments : List Expression)
  | staticCall (method : String) (arguments : List Expression)
  | new (typeName : String) (arguments : List Expression)
  | listInit (list : Expression) (items : List (List Expression))
  | typeIs (operand : Expression) (typeName : String)
  | lambda (parameters : List String) (body : Expression)
  | invoke (target : Expression) (arguments : List Expression)
  | quote (inner : Expression)
  | memberInit (object : Expression) (bindings : List (String × Expression))
  | newArray (items : List Expression)
deriving Inhabited

/-- A lambda: the names of its parameters and its body. -/
structure Lambda where
  parameters : List String
  body : Expression

namespace Expression

/-- The name of the kind of an expression. -/
def kindName : Expression → String
  | constant _ => "Constant"
  | parameter _ => "Parameter"
  | member .. => "MemberAccess"
  | binary .. => "Binary"
  | not _ | negate _ | convert .. => "Unary"
  | conditional .. => "Conditional"
  | methodCall .. | staticCall .. => "Call"
  | new .. => "New"
  | listInit .. => "ListInit"
  | typeIs .. => "TypeIs"
  | lambda .. => "Lambda"
  | invoke .. => "Invoke"
  | quote _ => "Quote"
  | memberInit .. => "MemberInit"
  | newArray _ => "NewArray"

/-- The member at the end of a path whose names are separated by slashes. -/
def path (root : Expression) (path : Text) : Expression :=
  (Text.split '/' path).foldl (fun target name => .member target (String.ofList name)) root

/-! ## Substitution -/

mutual

/-- Replaces every free occurrence of a parameter. A lambda with a parameter of that name stays as it
is. -/
def substitute (name : String) (replacement : Expression) : Expression → Expression
  | constant value => constant value
  | parameter other => if other = name then replacement else parameter other
  | member target field => member (substitute name replacement target) field
  | binary op left right =>
    binary op (substitute name replacement left) (substitute name replacement right)
  | not operand => not (substitute name replacement operand)
  | negate operand => negate (substitute name replacement operand)
  | convert operand type => convert (substitute name replacement operand) type
  | conditional test ifTrue ifFalse =>
    conditional (substitute name replacement test) (substitute name replacement ifTrue)
      (substitute name replacement ifFalse)
  | methodCall target method arguments =>
    methodCall (substitute name replacement target) method
      (substituteAll name replacement arguments)
  | staticCall method arguments => staticCall method (substituteAll name replacement arguments)
  | new typeName arguments => new typeName (substituteAll name replacement arguments)
  | listInit list items =>
    listInit (substitute name replacement list) (substituteItems name replacement items)
  | typeIs operand typeName => typeIs (substitute name replacement operand) typeName
  | lambda parameters body =>
    if parameters.contains name then lambda parameters body
    else lambda parameters (substitute name replacement body)
  | invoke target arguments =>
    invoke (substitute name replacement target) (substituteAll name replacement arguments)
  | quote inner => quote (substitute name replacement inner)
  | memberInit object bindings =>
    memberInit (substitute name replacement object) (substituteBindings name replacement bindings)
  | newArray items => newArray (substituteAll name replacement items)

/-- Substitution in several expressions. -/
def substituteAll (name : String) (replacement : Expression) : List Expression → List Expression
  | [] => []
  | e :: rest => substitute name replacement e :: substituteAll name replacement rest

/-- Substitution in the items of a list. -/
def substituteItems (name : String) (replacement : Expression) :
    List (List Expression) → List (List Expression)
  | [] => []
  | item :: rest => substituteAll name replacement item :: substituteItems name replacement rest

/-- Substitution in the members of an object. -/
def substituteBindings (name : String) (replacement : Expression) :
    List (String × Expression) → List (String × Expression)
  | [] => []
  | (field, e) :: rest =>
    (field, substitute name replacement e) :: substituteBindings name replacement rest

end

end Expression
end RecordFilter
