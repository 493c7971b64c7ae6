import RecordFilter.Predicate.Basic

/-!
# Syntax errors

A filter that cannot be parsed is rejected with the piece of text that is to blame, the token, and
the problem with it.
-/

namespace RecordFilter

/-- What is wrong with a piece of filter text. -/
inductive SyntaxProblem where
  /-- A whole filter of another type than boolean. -/
  | notBoolean (type : ValueType)
  | missingOperand
  | missingLeftOperand (operation : Text)
  | unsupportedOperation (operation : Text)
  | unknownFunction (name : Text)
  | argumentCount (function : Function) (found : Nat)
  | type (error : TypeError)
  | notConvertible (type : ValueType)
  | notMember (enumeration : String)
  /-- Neither a property nor a function nor a literal. -/
  | unresolved
  /-- A constructor argument of another type than its parameter. -/
  | argumentMismatch
  /-- Text without the kind of token that must stand there. -/
  | unexpected (wanted : String)

namespace SyntaxProblem

/-- The texts for tokens that are missing. -/
def expectations : List (String × String) :=
  [("Digit", "expected a number"), ("Alpha", "expected an identifier"), ("Tag", "unexpected token"),
    ("Char", "unexpected character"), ("Eof", "unexpected end of input"),
    ("TakeUntil", "unterminated literal")]

/-- The text of the problem. -/
def message : SyntaxProblem → String
  | notBoolean found => s!"filter evaluates to {found.render}, not a boolean"
  | missingOperand => "missing operand"
  | missingLeftOperand operation => s!"'{String.ofList operation}' has no left operand"
  | unsupportedOperation operation => s!"unsupported operation '{String.ofList operation}'"
  | unknownFunction name => s!"unknown function '{String.ofList name}'"
  | argumentCount function found =>
    s!"{function.name} takes {function.arity} argument(s), got {found}"
  | type error => error.message
  | notConvertible wanted => s!"cannot convert literal to {wanted.render}"
  | notMember enumeration => s!"not a member of enum {enumeration}"
  | unresolved => "not a property, function or literal"
  | argumentMismatch => "argument type mismatch"
  | unexpected wanted => (expectations.lookup wanted).getD s!"parse error: {wanted}"

end SyntaxProblem

/-- A problem with a piece of filter text. -/
structure SyntaxError where
  token : Text
  problem : SyntaxProblem

namespace SyntaxError

/-- The text of the error, which ends with the token. -/
def message (error : SyntaxError) : String :=
  s!"{error.problem.message} at: {String.ofList error.token}"

end SyntaxError
end RecordFilter
