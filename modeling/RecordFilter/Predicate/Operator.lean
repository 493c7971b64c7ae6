import RecordFilter.Value.Arithmetic

/-!
# Operators

The operators between two operands: comparisons, the connectives `and` and `or`, and arithmetic.
-/

namespace RecordFilter

/-- A comparison. -/
inductive Comparison where
  | eq
  | ne
  | gt
  | ge
  | lt
  | le
deriving DecidableEq, Repr

namespace Comparison

/-- The word for the comparison. -/
def keyword : Comparison → String
  | eq => "eq"
  | ne => "ne"
  | gt => "gt"
  | ge => "ge"
  | lt => "lt"
  | le => "le"

/-- Whether the comparison asks for an order, and not only for equality. -/
def isOrdered : Comparison → Bool
  | eq | ne => false
  | _ => true

/-- Whether the comparison holds between operands of this order. -/
def holds : Comparison → Ordering → Bool
  | eq, order => order == .eq
  | ne, order => order != .eq
  | gt, order => order == .gt
  | ge, order => order != .lt
  | lt, order => order == .lt
  | le, order => order != .gt

end Comparison

/-- A connective between two booleans. -/
inductive Connective where
  | and
  | or
deriving DecidableEq, Repr

namespace Connective

/-- The word for the connective. -/
def keyword : Connective → String
  | and => "and"
  | or => "or"

/-- The value that decides the connective by itself. -/
def decisive : Connective → Bool
  | and => false
  | or => true

end Connective

/-- An operator between two operands. -/
inductive BinaryOperator where
  | comparison (op : Comparison)
  | connective (op : Connective)
  | arithmetic (op : Arithmetic)
deriving DecidableEq, Repr

namespace BinaryOperator

/-- The word for the operator. -/
def keyword : BinaryOperator → String
  | comparison op => op.keyword
  | connective op => op.keyword
  | arithmetic op => op.keyword

/-- All operators. -/
def all : List BinaryOperator :=
  [.comparison .eq, .comparison .ne, .comparison .gt, .comparison .ge, .comparison .lt,
    .comparison .le, .connective .and, .connective .or, .arithmetic .add, .arithmetic .sub,
    .arithmetic .mul, .arithmetic .div, .arithmetic .mod]

/-- The operator of a word in any case. -/
def ofKeyword? (word : Text) : Option BinaryOperator :=
  all.find? fun op => Text.eqIgnoreCase op.keyword.toList word

/-- Whether the operator compares. -/
def isComparison : BinaryOperator → Bool
  | comparison _ => true
  | _ => false

/-- Whether the operator connects booleans. -/
def isConnective : BinaryOperator → Bool
  | connective _ => true
  | _ => false

/-- Whether the operator computes. -/
def isArithmetic : BinaryOperator → Bool
  | arithmetic _ => true
  | _ => false

end BinaryOperator
end RecordFilter
