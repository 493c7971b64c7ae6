import RecordFilter.Predicate.Basic
import RecordFilter.Time.Timestamp

/-!
# Filter languages

A dialect says how the pieces of a predicate are written in a filter language. What the dialects
have in common is here: brackets, the connectives with boolean literals, and string matches that are
compared with a boolean literal. `Dialect.render` writes a whole predicate.
-/

namespace RecordFilter

/-- Why a predicate cannot be written in a dialect. -/
inductive RenderError where
  | literal (kind : String)
  | function (name : String)
  | navigation (path : String)
  | node (description : String)
deriving DecidableEq, Repr

namespace RenderError

/-- The text of the error. -/
def message : RenderError → String
  | literal kind => s!"Unsupported data type detected: {kind}"
  | function name => s!"Unsupported method call encountered in query expression: {name}"
  | navigation path =>
    s!"SQL-92 dialect does not allow property navigation '{path}'."
      ++ " Only first level properties are supported."
  | node description => s!"Unsupported expression node encountered in query expression: {description}"

end RenderError

/-- The outcome of writing a predicate. -/
abbrev Rendered := Except RenderError Text

/-- How the pieces of a predicate are written. -/
structure Dialect where
  negation : Text
  connective : Connective → Text
  comparison : Comparison → Text
  arithmetic : Arithmetic → (left right : Text) → Text
  literal : Value → Rendered
  property : PropertyPath → Rendered
  /-- A filter that is nothing but a property. -/
  standaloneProperty : Text → Text
  /-- A function call; `inside` says that it is an operand of a comparison, of arithmetic or of
  another call. -/
  call : Function → List Text → (inside : Bool) → Rendered
  /-- A string match that must be as `matches` says, where the dialect has a form for it. -/
  stringMatch? : Function → List Text → (wanted : Bool) → Option Rendered

namespace Dialect

/-- The text, in brackets if asked for. -/
def wrap (bracket : Bool) (t : Text) : Text :=
  if bracket then '(' :: t ++ [')'] else t

/-- A literal with the given words for the booleans. -/
def plainLiteral (yes no : String) : Value → Rendered
  | .object _ => .error (.literal "object")
  | .boolean value => .ok (if value then yes.toList else no.toList)
  | .string text => .ok ('\'' :: text.toList ++ ['\''])
  | .dateTime t => .ok ("datetime'".toList ++ t.roundTripText ++ ['\''])
  | .guid guid => .ok ("guid'".toList ++ guid.render ++ ['\''])
  | .enumeration type value => .ok ('\'' :: (type.describe value).toList ++ ['\''])
  | other => .ok other.render.toList

/-- A connective of two texts. A conjunction with `false` has no text, and `true` adds nothing to
one; neither does a side without text. -/
def connected (d : Dialect) (bracket : Bool) (op : Connective) (left right : Option Bool)
    (leftText rightText : Text) : Text :=
  if op = .and ∧ (left = some false ∨ right = some false) then []
  else if op = .and ∧ left = some true then rightText
  else if op = .and ∧ right = some true then leftText
  else if Text.isBlank leftText then rightText
  else if Text.isBlank rightText then leftText
  else
    wrap bracket ('(' :: leftText ++ ") ".toList ++ d.connective op ++ " (".toList ++ rightText ++ [')'])

/-- The function of a call that asks for a string match. -/
def stringMatchOf? : Predicate → Option Function
  | .call function _ _ => if function.isStringMatch then some function else none
  | _ => none

/-- Two operands with a comparison in between. -/
def compared (d : Dialect) (bracket : Bool) (op : Comparison) (left right : Rendered) : Rendered :=
  left.bind fun left => right.map fun right =>
    wrap bracket (left ++ ' ' :: d.comparison op ++ ' ' :: right)

/-- A string match that is compared with a boolean literal. Where the dialect has no form of its own
the operands are compared as usual. -/
def matched (d : Dialect) (bracket : Bool) (op : Comparison) (function : Function) (literal : Bool)
    (arguments : Except RenderError (List Text)) (left right : Rendered) : Rendered :=
  match arguments with
  | .error error => .error error
  | .ok arguments =>
    match d.stringMatch? function arguments (literal == (op = .eq : Bool)) with
    | some rendered => rendered.map (wrap bracket)
    | none => d.compared bracket op left right

mutual

/-- The text of a predicate. `inside` says that it is an operand, and `bracket` that it gets
brackets if it consists of several parts. -/
def visit (d : Dialect) (inside bracket : Bool) : Predicate → Rendered
  | .property path _ => d.property path
  | .constant value _ => d.literal value
  | .not operand =>
    (visit d false false operand).map fun operand =>
      wrap bracket (d.negation ++ " (".toList ++ operand ++ [')'])
  | .binary (.connective op) left right _ =>
    (visit d false false left).bind fun leftText =>
      (visit d false false right).map fun rightText =>
        d.connected bracket op left.booleanLiteral? right.booleanLiteral? leftText rightText
  | .binary (.comparison op) left right _ =>
    let leftText := visit d true (!left.isAtomic) left
    let rightText := visit d true (!right.isAtomic) right
    match op.isOrdered, stringMatchOf? left, right.booleanLiteral?, stringMatchOf? right,
      left.booleanLiteral? with
    | false, some function, some literal, _, _ =>
      d.matched bracket op function literal (visitArguments d left) leftText rightText
    | false, _, _, some function, some literal =>
      d.matched bracket op function literal (visitArguments d right) leftText rightText
    | _, _, _, _, _ => d.compared bracket op leftText rightText
  | .binary (.arithmetic op) left right _ =>
    (visit d true (!left.isAtomic) left).bind fun leftText =>
      (visit d true (!right.isAtomic) right).map fun rightText =>
        wrap bracket (d.arithmetic op leftText rightText)
  | .call function arguments _ =>
    (visitAll d arguments).bind fun arguments => d.call function arguments inside
  | .construct constructor _ _ => .error (.node s!"constructor for {constructor.typeName}")

/-- The texts of the arguments of a call. -/
def visitArguments (d : Dialect) : Predicate → Except RenderError (List Text)
  | .call _ arguments _ => visitAll d arguments
  | _ => .ok []

/-- The texts of several operands. -/
def visitAll (d : Dialect) : List Predicate → Except RenderError (List Text)
  | [] => .ok []
  | p :: rest =>
    (visit d true (!p.isAtomic) p).bind fun first => (visitAll d rest).map (first :: ·)

end

/-- The text of a whole predicate. -/
def render (d : Dialect) : Predicate → Rendered
  | .property path _ => (d.property path).map d.standaloneProperty
  | p => d.visit false false p

end Dialect
end RecordFilter
