import RecordFilter.Filter.Literal

/-!
# Parsing filters

A filter is parsed against a record type. Text with operators is divided into token sets, which are
combined from left to right without precedence. Text without operators is a quoted string, a
construction, a function call, a property path, a constant or a plain literal, in this order.

A literal takes its type from its surroundings: from the property on the other side of a
comparison, from the parameter of a function or constructor, or from the caller. The guid that
`newguid()` stands for is drawn anew for each filter that is parsed, so it is an argument beside the
text, the same wherever the word stands in it.

Every recursive call is on text that is shorter once it is trimmed, so parsing comes to an end on
every text.
-/

namespace RecordFilter

open RecordFilter.Filter

/-- What filters are parsed against: a record type, the types that can be constructed, and how literals
are written. -/
structure FilterParser where
  schema : RecordType
  registry : TypeRegistry := TypeRegistry.builtin
  options : ParserOptions := {}

namespace FilterParser

/-- The outcome of parsing: nothing for blank text. -/
abbrev Outcome := Except SyntaxError (Option Predicate)

/-- A parser for texts of fewer than `n` characters. The last argument is the type that literals take
where they have no other one. -/
abbrev Operand (n : Nat) := (t : Text) → t.length < n → Option ValueType → Outcome

/-! ## Properties and types -/

/-- The first property in a text, looked for in its first token set. -/
def firstProperty? (schema : RecordType) (token : Text) : Option (PropertyPath × ValueType) :=
  let t := Text.trim token
  let path := (stripEnclosing? t).getD t
  if t.isEmpty then none
  else if isImpliedBoolean t then schema.resolvePath? path
  else
    match _sets : tokenize t with
    | [] => schema.resolvePath? path
    | first :: _ => (firstProperty? schema first.left).or (firstProperty? schema first.right)
termination_by (Text.trim token).length
decreasing_by
  all_goals
    have hmem : first ∈ tokenize (Text.trim token) := by rw [_sets]; exact List.mem_cons_self
    have hlt := tokenize_sides_lt hmem
    have hle := Text.length_trim_le (Text.trim token)
    have hleft := Text.length_trim_le first.left
    have hright := Text.length_trim_le first.right
    omega

/-- The type that literals in a token set take: boolean beside a combinator, else the type of the
first property on either side. -/
def scopeType? (schema : RecordType) (set : TokenSet) : Option ValueType :=
  if isCombinator set.operation then some .boolean
  else ((firstProperty? schema set.left).or (firstProperty? schema set.right)).map Prod.snd

/-! ## Token sets -/

/-- Blames a token for a type error. -/
def blame (token : Text) {α : Type} (result : Except TypeError α) : Except SyntaxError α :=
  result.mapError fun error => ⟨token, .type error⟩

/-- A text that must not be blank. -/
def required {n : Nat} (parse : Operand n) (t : Text) (h : t.length < n)
    (expected : Option ValueType) : Except SyntaxError Predicate :=
  match parse t h expected with
  | .error error => .error error
  | .ok none => .error ⟨t, .missingOperand⟩
  | .ok (some predicate) => .ok predicate

/-- What has been combined so far and the operator that comes next. -/
abbrev Accumulator := Option Predicate × Option BinaryOperator

/-- Combines what there is so far with one more operand. Without an operator in between, the operand
takes its place. -/
def extend (text : Text) (sofar : Accumulator) (operand : Predicate) :
    Except SyntaxError Predicate :=
  match sofar with
  | (some existing, some op) => blame text (Predicate.combine op existing operand)
  | _ => .ok operand

/-- The operator of a token set applied to its sides. -/
def operate (set : TokenSet) (left right : Predicate) : Except SyntaxError Predicate :=
  let token := set.left ++ ' ' :: set.operation ++ ' ' :: set.right
  match BinaryOperator.ofKeyword? set.operation with
  | none => .error ⟨token, .unsupportedOperation set.operation⟩
  | some op => blame token (Predicate.combine op left right)

/-- A token set with a left side. Without a right side the left one stands alone. -/
def operand {n : Nat} (parse : Operand n) (set : TokenSet) (scope : Option ValueType)
    (hleft : set.left.length < n) (hright : set.right.length < n) :
    Except SyntaxError Predicate :=
  match required parse set.left hleft scope with
  | .error error => .error error
  | .ok left =>
    match parse set.right hright (some left.type) with
    | .error error => .error error
    | .ok none => .ok left
    | .ok (some right) => operate set left right

/-- A negation, which takes all of the text after it and so ends the token sets. -/
def negation {n : Nat} (parse : Operand n) (text : Text) (sofar : Accumulator) (set : TokenSet)
    (scope : Option ValueType) (hright : set.right.length < n) : Outcome :=
  match parse set.right hright scope with
  | .error error => .error error
  | .ok none => .ok sofar.1
  | .ok (some inner) =>
    match blame set.right (Predicate.negate inner) with
    | .error error => .error error
    | .ok negated => (extend text sofar negated).map some

/-- Combines the token sets of a text from left to right. -/
def foldSets {n : Nat} (schema : RecordType) (parse : Operand n) (text : Text)
    (expected : Option ValueType) :
    Accumulator → (sets : List TokenSet) →
      (∀ set ∈ sets, set.left.length < n ∧ set.right.length < n) → Outcome
  | sofar, [], _ => .ok sofar.1
  | sofar, set :: sets, h =>
    have hset := h set List.mem_cons_self
    have hrest := fun other hother => h other (List.mem_cons_of_mem set hother)
    let scope := (scopeType? schema set).or expected
    if Text.isBlank set.left then
      if Text.eqIgnoreCase set.operation "not".toList then
        negation parse text sofar set scope hset.2
      else if !Text.isBlank set.right then .error ⟨text, .missingLeftOperand set.operation⟩
      else
        foldSets schema parse text expected
          (sofar.1, BinaryOperator.ofKeyword? set.operation) sets hrest
    else
      match operand parse set scope hset.1 hset.2 with
      | .error error => .error error
      | .ok current =>
        match extend text sofar current with
        | .error error => .error error
        | .ok combined => foldSets schema parse text expected (some combined, none) sets hrest

/-! ## Text without operators -/

/-- The arguments of a call after the first one, whose type they may take. -/
def otherArguments {n : Nat} (parse : Operand n) (function : Function) (a : Predicate) :
    (second? : Option Text) → (∀ second, second? = some second → second.length < n) →
      Except SyntaxError (List Predicate)
  | none, _ => .ok []
  | some second, h =>
    (required parse second (h second rfl) (some ((function.parameterType? 1).getD a.type))).map fun b => [b]

/-- A call on parsed arguments, of which there must be as many as the function takes. -/
def applied (t : Text) (function : Function) (arguments : List Predicate) : Except SyntaxError Predicate :=
  if arguments.length ≠ function.arity then .error ⟨t, .argumentCount function arguments.length⟩
  else blame t (Predicate.apply function arguments)

/-- A call of a function. Nothing says that the text is no call. -/
def functionCall? (schema : RecordType) (t : Text) (parse : Operand t.length)
    (expected : Option ValueType) : Option (Except SyntaxError Predicate) :=
  match h : Filter.functionCall? t with
  | none => none
  | some (name, arguments) => some <|
    have hlt := length_functionCall? h
    have hparts := length_splitLastArgument_le arguments
    match Function.ofName? name with
    | none => .error ⟨t, .unknownFunction name⟩
    | some function =>
      let first := (splitLastArgument arguments).1
      let scope : TokenSet := ⟨first, name, (splitLastArgument arguments).2.getD []⟩
      match required parse first (Nat.lt_of_le_of_lt hparts.1 hlt)
          ((scopeType? schema scope).or expected) with
      | .error error => .error error
      | .ok a =>
        match otherArguments parse function a (splitLastArgument arguments).2
            fun second hsecond => Nat.lt_of_le_of_lt (hparts.2 second hsecond) hlt with
        | .error error => .error error
        | .ok others => applied t function (a :: others)

/-- The arguments of a constructor, one text for each parameter. -/
def constructorArguments {n : Nat} (parse : Operand n) :
    (tokens : List Text) → (∀ token ∈ tokens, token.length < n) → List ValueType →
      Except SyntaxError (List Predicate)
  | token :: tokens, h, parameter :: parameters =>
    match required parse token (h token List.mem_cons_self) (some parameter) with
    | .error error => .error error
    | .ok argument =>
      if argument.type.isCompatibleWith parameter then
        (constructorArguments parse tokens
          (fun other hother => h other (List.mem_cons_of_mem token hother)) parameters).map
          (argument :: ·)
      else .error ⟨token, .argumentMismatch⟩
  | _, _, _ => .ok []

/-- The construction by the first constructor whose arguments can be parsed. -/
def firstConstruction? {n : Nat} (parse : Operand n) (tokens : List Text)
    (h : ∀ token ∈ tokens, token.length < n) (type : ValueType) (constructors : List Constructor) :
    Option Predicate :=
  constructors.findSome? fun constructor =>
    if constructor.parameters.length ≠ tokens.length then none
    else
      match constructorArguments parse tokens h constructor.parameters with
      | .ok arguments => some (.construct constructor arguments type)
      | .error _ => none

/-- A construction of the expected type. Nothing says that the text is none. -/
def construction? (registry : TypeRegistry) (t : Text) (parse : Operand t.length)
    (expected : Option ValueType) : Option Predicate :=
  match h : Filter.construction? t with
  | none => none
  | some (name, arguments) =>
    have hlt := length_construction? h
    match registry.lookup? name, expected with
    | some entry, some expected =>
      if entry.type.underlying = expected.underlying then
        firstConstruction? parse (splitArguments arguments)
          (fun _ htoken => Nat.lt_of_le_of_lt (length_splitArguments_le htoken) hlt)
          expected entry.constructors
      else none
    | _, _ => none

/-- A text without operators. -/
def atom (p : FilterParser) (newGuid : Guid) (t : Text) (parse : Operand t.length)
    (expected : Option ValueType) : Except SyntaxError Predicate :=
  let blamed (result : Except SyntaxProblem Predicate) : Except SyntaxError Predicate :=
    result.mapError fun problem => ⟨t, problem⟩
  match quoted? t with
  | some content => blamed (Literal.ofQuoted p.options.culture expected content)
  | none =>
    match construction? p.registry t parse expected with
    | some predicate => .ok predicate
    | none =>
      match functionCall? p.schema t parse expected with
      | some result => result
      | none =>
        match firstProperty? p.schema t with
        | some (path, type) => .ok (.property path type)
        | none =>
          blamed ((Literal.known? p.options.culture newGuid expected t).getD
            (Literal.fallback p.options.culture expected t))

/-! ## Whole texts -/

/-- Parses a trimmed text, given a parser for the texts inside of it. -/
def parseTrimmed (p : FilterParser) (newGuid : Guid) (t : Text) (parse : Operand t.length)
    (expected : Option ValueType) : Outcome :=
  if t.isEmpty then .ok none
  else if (tokenize t).isEmpty then
    match h : stripEnclosing? t with
    | some inner => parse inner (length_stripEnclosing?_lt h) expected
    | none => (atom p newGuid t parse expected).map some
  else
    foldSets p.schema parse t expected (none, none) (tokenize t) fun _ hset =>
      ⟨Nat.lt_of_lt_of_le (tokenize_sides_lt hset).1 (Text.length_trim_le t),
        Nat.lt_of_lt_of_le (tokenize_sides_lt hset).2 (Text.length_trim_le t)⟩

/-- Parses an expression. Literals without a type of their own take the expected one. -/
def parseExpression (p : FilterParser) (newGuid : Guid) (text : Text) (expected : Option ValueType) :
    Outcome :=
  parseTrimmed p newGuid (Text.trim text)
    (fun shorter _ expected => parseExpression p newGuid shorter expected) expected
termination_by (Text.trim text).length
decreasing_by exact Nat.lt_of_le_of_lt (Text.length_trim_le _) (by assumption)

/-- Parses a filter, which must be a boolean. Blank text has no predicate and accepts every
record. -/
def parse (p : FilterParser) (newGuid : Guid) (filter : Text) : Outcome :=
  match p.parseExpression newGuid filter none with
  | .ok (some predicate) =>
    if predicate.type.isBoolean then .ok (some predicate)
    else .error ⟨filter, .notBoolean predicate.type⟩
  | other => other

end FilterParser
end RecordFilter
