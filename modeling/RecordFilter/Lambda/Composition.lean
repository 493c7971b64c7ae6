import RecordFilter.Lambda.Basic

/-!
# Composition of lambdas

Predicate lambdas are merged into their conjunction, and lambdas are composed by an invocation. An
invocation is taken away by putting the arguments in place of the parameters, all at once; this is
possible only where the body has no lambdas, invocations and initializers of its own.
-/

namespace RecordFilter

/-- Why lambdas cannot be composed. -/
inductive CompositionError where
  | arityMismatch (parameters arguments : Nat)
  /-- An expression inside of which nothing can be replaced. -/
  | notInlined (kind : String)
  | notInvocable (kind : String)
  /-- A lambda with another number of parameters than one. -/
  | notAPredicate (parameters : Nat)
deriving DecidableEq, Repr

namespace CompositionError

/-- The text of the error. -/
def message : CompositionError → String
  | arityMismatch parameters arguments =>
    s!"lambda/invoke mismatch: lambda declares {parameters} parameters, invoked with {arguments}"
  | notInlined kind => s!"inlining is not implemented for node kind {kind}"
  | notInvocable kind => s!"node kind {kind} cannot be invoked"
  | notAPredicate parameters =>
    s!"a predicate lambda takes exactly one parameter, found {parameters}"

end CompositionError

namespace Expression

/-- The outcome of taking invocations away. -/
abbrev Inlined (α : Type) := Except CompositionError α

/-- A node of two parts, of which those that have changed are given. It is built anew only if one of them
has. -/
def rebuild {α β γ : Type} (build : α → β → γ) (a : α) (b : β)
    (left : Inlined (Option α)) (right : Inlined (Option β)) : Inlined (Option γ) :=
  left.bind fun left => right.map fun right =>
    match left, right with
    | none, none => none
    | left, right => some (build (left.getD a) (right.getD b))

mutual

/-- Replaces every parameter that the scope knows. There is no new expression if nothing changes. -/
def rewrite? (scope : String → Option Expression) : Expression → Inlined (Option Expression)
  | constant _ => .ok none
  | parameter name => .ok (scope name)
  | member target field => (rewrite? scope target).map (Option.map (member · field))
  | binary op left right =>
    rebuild (binary op) left right (rewrite? scope left) (rewrite? scope right)
  | not operand => (rewrite? scope operand).map (Option.map not)
  | negate operand => (rewrite? scope operand).map (Option.map negate)
  | convert operand type => (rewrite? scope operand).map (Option.map (convert · type))
  | conditional test ifTrue ifFalse =>
    rebuild (fun test branches => conditional test branches.1 branches.2) test (ifTrue, ifFalse)
      (rewrite? scope test)
      (rebuild Prod.mk ifTrue ifFalse (rewrite? scope ifTrue) (rewrite? scope ifFalse))
  | methodCall target method arguments =>
    rebuild (methodCall · method) target arguments (rewrite? scope target)
      (rewriteAll? scope arguments)
  | staticCall method arguments => (rewriteAll? scope arguments).map (Option.map (staticCall method))
  | new typeName arguments => (rewriteAll? scope arguments).map (Option.map (new typeName))
  | listInit list items =>
    rebuild listInit list items (rewrite? scope list) (rewriteItems? scope items)
  | typeIs operand typeName => (rewrite? scope operand).map (Option.map (typeIs · typeName))
  | lambda .. => .error (.notInlined "Lambda")
  | invoke .. => .error (.notInlined "Invoke")
  | quote _ => .error (.notInlined "Quote")
  | memberInit .. => .error (.notInlined "MemberInit")
  | newArray _ => .error (.notInlined "NewArray")

/-- Replaces parameters in several expressions. There is no new list if none of them changes. -/
def rewriteAll? (scope : String → Option Expression) :
    List Expression → Inlined (Option (List Expression))
  | [] => .ok none
  | e :: rest => rebuild (· :: ·) e rest (rewrite? scope e) (rewriteAll? scope rest)

/-- Replaces parameters in the items of a list. -/
def rewriteItems? (scope : String → Option Expression) :
    List (List Expression) → Inlined (Option (List (List Expression)))
  | [] => .ok none
  | item :: rest => rebuild (· :: ·) item rest (rewriteAll? scope item) (rewriteItems? scope rest)

end

/-- An expression with its parameters replaced; one in which nothing changes stays as it is. -/
def inlineIn (scope : String → Option Expression) (e : Expression) : Inlined Expression :=
  (rewrite? scope e).map (·.getD e)

/-- The arguments of parameters. Of two parameters of one name the later one counts. -/
def bindings (parameters : List String) (arguments : List Expression) (name : String) :
    Option Expression :=
  (parameters.zip arguments).reverse.lookup name

/-- Takes the invocation of a lambda away. Any other expression must be one in which parameters could
be replaced. -/
def inlineInvocation : Expression → Inlined Expression
  | invoke (lambda parameters body) arguments =>
    if parameters.length ≠ arguments.length then
      .error (.arityMismatch parameters.length arguments.length)
    else inlineIn (bindings parameters arguments) body
  | invoke target _ => .error (.notInvocable target.kindName)
  | e => inlineIn (fun _ => none) e

end Expression

namespace Lambda

/-- The only parameter of a lambda. -/
def parameter (lambda : Lambda) : Except CompositionError String :=
  match lambda.parameters with
  | [name] => .ok name
  | parameters => .error (.notAPredicate parameters.length)

/-- The conjunction of two predicate lambdas, with the parameter of the first one. -/
def conjunction (first second : Lambda) : Except CompositionError Lambda :=
  first.parameter.bind fun name => second.parameter.map fun other =>
    ⟨[name], .binary (.connective .and) first.body
      (Expression.substitute other (.parameter name) second.body)⟩

/-- The lambda that applies `inner` to the result of `outer`. -/
def compose (outer inner : Lambda) (inlined : Bool) : Except CompositionError Lambda :=
  let invocation := Expression.invoke (.lambda inner.parameters inner.body) [outer.body]
  let body := if inlined then invocation.inlineInvocation else .ok invocation
  body.map (⟨outer.parameters, ·⟩)

end Lambda
end RecordFilter
