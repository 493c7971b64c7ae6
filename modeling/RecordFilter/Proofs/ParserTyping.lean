import RecordFilter.Filter.Parser
import RecordFilter.Proofs.LiteralConstants

/-!
# Parsed predicates are typed

The parser builds its predicates with the checked constructors only. This module follows it function
by function: if the predicates for the texts inside of a text have a property that the constructors
preserve, then so have the ones that each function builds from them. That gives an induction principle
for parsed predicates. The constants that literals stand for are of their types, so typing is such a
property.

Main statements: `ClosedUnderParsing.of_parseExpression`, and `wellTyped_of_parseExpression`: every
expression that is parsed is a typed predicate over the record type of the parser, for every type that
is expected of it.
-/

namespace RecordFilter

/-! ## Checked constructors -/

namespace Predicate

variable {registry : TypeRegistry} {schema : RecordType}

/-- `negate` keeps a predicate well typed. -/
theorem WellTyped.of_negate {operand negated : Predicate} (h : WellTyped registry schema operand)
    (hnegate : negate operand = .ok negated) : WellTyped registry schema negated := by
  unfold negate at hnegate
  split at hnegate
  · rename_i hboolean
    cases hnegate
    exact .not h hboolean
  · cases hnegate

/-- `combine` of well-typed sides is well typed. -/
theorem WellTyped.of_combine {op : BinaryOperator} {left right combined : Predicate}
    (hleft : WellTyped registry schema left) (hright : WellTyped registry schema right)
    (hcombine : combine op left right = .ok combined) : WellTyped registry schema combined := by
  obtain ⟨type, htype, rfl⟩ := Except.map_eq_ok_iff.1 hcombine
  exact .binary hleft hright htype

/-- `apply` to well-typed arguments is well typed. -/
theorem WellTyped.of_apply {function : Function} {arguments : List Predicate} {applied : Predicate}
    (h : ∀ argument ∈ arguments, WellTyped registry schema argument)
    (happly : apply function arguments = .ok applied) : WellTyped registry schema applied := by
  obtain ⟨type, htype, rfl⟩ := Except.map_eq_ok_iff.1 happly
  exact .call h htype

/-- A constant whose value is of its type. -/
def IsTypedConstant (p : Predicate) : Prop :=
  ∃ value type, p = .constant value type ∧ value.Inhabits type

/-- A constant of its type is well typed. -/
theorem IsTypedConstant.wellTyped {p : Predicate} (h : p.IsTypedConstant) :
    WellTyped registry schema p := by
  obtain ⟨value, type, rfl, hin⟩ := h
  exact .constant hin

theorem isTypedConstant_constant {value : Value} {type : ValueType}
    (h : value.Inhabits type.underlying) : (constant value type).IsTypedConstant :=
  ⟨value, type, rfl, Value.inhabits_underlying.1 h⟩

end Predicate

/-! ## Literals -/

namespace Filter.Literal

open Predicate

variable {culture : Culture} {expected : Option ValueType} {t : Text}

/-- Literals stand for typed constants. -/
theorem StandsFor.isTypedConstant {q : Predicate} (h : StandsFor culture expected t q) :
    q.IsTypedConstant := by
  cases h with
  | null => exact isTypedConstant_constant (.null _)
  | boolean value => exact isTypedConstant_constant (.boolean value)
  | string => exact isTypedConstant_constant (.string _)
  | @marked _ _ _ type _ h =>
    refine isTypedConstant_constant ?_
    rw [underlying_expectedOr type h.underlying_eq]
    exact h.inhabits
  | expected _ h => exact isTypedConstant_constant h.inhabits
  | inferred _ h =>
    refine isTypedConstant_constant ?_
    rw [h.underlying_eq]
    exact h.inhabits

/-- The constants that literals stand for, in quotes or not. -/
inductive IsLiteral (culture : Culture) : Predicate → Prop
  | quoted {expected : Option ValueType} {content : Text} {q : Predicate}
      (h : ofQuoted culture expected content = .ok q) : IsLiteral culture q
  | known {newGuid : Guid} {expected : Option ValueType} {t : Text} {q : Predicate}
      (h : known? culture newGuid expected t = some (.ok q)) : IsLiteral culture q
  | plain {expected : Option ValueType} {t : Text} {q : Predicate}
      (h : fallback culture expected t = .ok q) : IsLiteral culture q

theorem IsLiteral.exists_standsFor {q : Predicate} (h : IsLiteral culture q) :
    ∃ expected t, StandsFor culture expected t q := by
  cases h with
  | quoted h => exact ⟨_, _, standsFor_of_ofQuoted h⟩
  | known h => exact ⟨_, _, standsFor_of_known h⟩
  | plain h => exact ⟨_, _, standsFor_of_fallback h⟩

theorem IsLiteral.isTypedConstant {q : Predicate} (h : IsLiteral culture q) : q.IsTypedConstant := by
  obtain ⟨_, _, h⟩ := h.exists_standsFor
  exact h.isTypedConstant

end Filter.Literal

/-! ## Parsing -/

namespace FilterParser

open Predicate RecordFilter.Filter

variable {p : FilterParser} {newGuid : Guid} {schema : RecordType} {P : Predicate → Prop}

/-- A property of predicates that the parser preserves: properties of the record type and literals have
it, and so has what the checked constructors make of predicates that have it. -/
structure ClosedUnderParsing (p : FilterParser) (P : Predicate → Prop) : Prop where
  property : ∀ path type, p.schema.resolveSegments? path.segments = some (path, type) →
    P (.property path type)
  literal : ∀ q, Literal.IsLiteral p.options.culture q → P q
  negate : ∀ operand q, P operand → Predicate.negate operand = .ok q → P q
  combine : ∀ op left right q, P left → P right → Predicate.combine op left right = .ok q → P q
  apply : ∀ function arguments q, (∀ argument ∈ arguments, P argument) →
    Predicate.apply function arguments = .ok q → P q
  construct : ∀ entry constructor arguments type, (∀ argument ∈ arguments, P argument) →
    entry ∈ p.registry → constructor ∈ entry.constructors →
    arguments.length = constructor.parameters.length → entry.type.underlying = type.underlying →
    P (.construct constructor arguments type)

/-- Every predicate that a parser for shorter texts yields has the property. -/
def Yields {n : Nat} (P : Predicate → Prop) (parse : Operand n) : Prop :=
  ∀ t h expected q, parse t h expected = .ok (some q) → P q

/-- Naming the token of an error does not touch a result. -/
theorem blame_eq_ok_iff {α : Type} {token : Text} {result : Except TypeError α} {a : α} :
    blame token result = .ok a ↔ result = .ok a := by
  unfold blame
  exact Except.mapError_eq_ok_iff

/-- `required` gives what was read, if anything was. -/
theorem required_eq_ok_iff {n : Nat} {parse : Operand n} {t : Text} {h : t.length < n}
    {expected : Option ValueType} {q : Predicate} :
    required parse t h expected = .ok q ↔ parse t h expected = .ok (some q) := by
  unfold required
  cases parse t h expected with
  | error => simp
  | ok found => cases found <;> simp

/-- The first property in a text resolves in the record type. -/
theorem resolved_of_firstProperty {token : Text} {path : PropertyPath} {type : ValueType}
    (h : firstProperty? schema token = some (path, type)) :
    schema.resolveSegments? path.segments = some (path, type) := by
  have hpath : ∀ t, schema.resolvePath? t = some (path, type) →
      schema.resolveSegments? path.segments = some (path, type) := by
    intro t ht
    obtain ⟨-, rfl, -⟩ := RecordType.resolveSegments?_eq_some_iff.1 ht
    exact ht
  fun_induction firstProperty? schema token with
  | case1 => cases h
  | case2 => exact hpath _ h
  | case3 => exact hpath _ h
  | case4 _ _ _ _ _ _ _ ihleft ihright =>
    rcases Option.or_eq_some_iff.1 h with hleft | ⟨-, hright⟩
    · exact ihleft hleft
    · exact ihright hright

namespace ClosedUnderParsing

section TokenSets

variable {n : Nat} {parse : Operand n}

/-- What is closed under parsing stays so through `extend`. -/
theorem of_extend (hP : ClosedUnderParsing p P) {text : Text} {sofar : Accumulator}
    {current combined : Predicate} (hsofar : ∀ q, sofar.1 = some q → P q) (hcurrent : P current)
    (h : extend text sofar current = .ok combined) : P combined := by
  unfold extend at h
  split at h
  · exact hP.combine _ _ _ _ (hsofar _ rfl) hcurrent (blame_eq_ok_iff.1 h)
  · cases h
    exact hcurrent

/-- What is closed under parsing stays so through `operate`. -/
theorem of_operate (hP : ClosedUnderParsing p P) {set : TokenSet} {left right q : Predicate}
    (hleft : P left) (hright : P right) (h : operate set left right = .ok q) : P q := by
  unfold operate at h
  simp only at h
  split at h
  · cases h
  · exact hP.combine _ _ _ _ hleft hright (blame_eq_ok_iff.1 h)

theorem of_operand (hP : ClosedUnderParsing p P) (hparse : Yields P parse) {set : TokenSet}
    {scope : Option ValueType} {hleft : set.left.length < n} {hright : set.right.length < n}
    {q : Predicate} (h : operand parse set scope hleft hright = .ok q) : P q := by
  unfold operand at h
  split at h
  · cases h
  · rename_i left hl
    have hfirst := hparse _ _ _ _ (required_eq_ok_iff.1 hl)
    split at h
    · cases h
    · cases h
      exact hfirst
    · exact hP.of_operate hfirst (hparse _ _ _ _ ‹_›) h

theorem of_negation (hP : ClosedUnderParsing p P) (hparse : Yields P parse) {text : Text}
    {sofar : Accumulator} (hsofar : ∀ q, sofar.1 = some q → P q) {set : TokenSet}
    {scope : Option ValueType} {hright : set.right.length < n} {q : Predicate}
    (h : negation parse text sofar set scope hright = .ok (some q)) : P q := by
  unfold negation at h
  split at h
  · cases h
  · exact hsofar q (by simpa using h)
  · rename_i inner hinner
    split at h
    · cases h
    · rename_i negated hnegated
      obtain ⟨combined, hcombined, heq⟩ := Except.map_eq_ok_iff.1 h
      cases heq
      have hnot := hP.negate _ _ (hparse _ _ _ _ hinner) (blame_eq_ok_iff.1 hnegated)
      exact hP.of_extend hsofar hnot hcombined

/-- By induction on the token sets: what has been combined so far keeps the property. -/
theorem of_foldSets (hP : ClosedUnderParsing p P) (hparse : Yields P parse) {text : Text}
    {expected : Option ValueType} : ∀ (sets : List TokenSet) (sofar : Accumulator) h,
      (∀ q, sofar.1 = some q → P q) →
      ∀ q, foldSets schema parse text expected sofar sets h = .ok (some q) → P q := by
  intro sets
  induction sets with
  | nil =>
    intro sofar h hsofar q hq
    simp only [foldSets, Except.ok.injEq] at hq
    exact hsofar q hq
  | cons set sets ih =>
    intro sofar h hsofar q hq
    simp only [foldSets] at hq
    split at hq
    · split at hq
      · exact hP.of_negation hparse hsofar hq
      · split at hq
        · cases hq
        · exact ih (sofar.1, BinaryOperator.ofKeyword? set.operation) _ hsofar q hq
    · split at hq
      · cases hq
      · rename_i current hcurrent
        split at hq
        · cases hq
        · rename_i combined hcombined
          have hall := hP.of_extend hsofar (hP.of_operand hparse hcurrent) hcombined
          refine ih _ _ (fun other hother => ?_) q hq
          cases hother
          exact hall

end TokenSets

end ClosedUnderParsing

/-! ### Text without operators -/

/-- A function is applied to as many arguments as it takes. -/
theorem length_of_apply {function : Function} {arguments : List Predicate} {q : Predicate}
    (h : Predicate.apply function arguments = .ok q) : arguments.length = function.arity := by
  obtain ⟨type, htype, -⟩ := Except.map_eq_ok_iff.1 h
  unfold Function.resultType at htype
  split at htype
  · cases htype
  · rename_i hlength
    simpa using hlength

/-- `applied` gives what `Predicate.apply` does, which counts the arguments, too. -/
theorem applied_eq_ok_iff {t : Text} {function : Function} {arguments : List Predicate} {q : Predicate} :
    applied t function arguments = .ok q ↔ Predicate.apply function arguments = .ok q := by
  unfold applied
  split
  · rename_i hlength
    exact ⟨nofun, fun happly => absurd (length_of_apply happly) hlength⟩
  · exact blame_eq_ok_iff

/-- `otherArguments` are none, or the second one read with the type of its parameter or of the first one. -/
theorem otherArguments_eq_ok_iff {n : Nat} {parse : Operand n} {function : Function} {a : Predicate}
    {second? : Option Text} {h : ∀ second, second? = some second → second.length < n}
    {others : List Predicate} :
    otherArguments parse function a second? h = .ok others ↔
      second? = none ∧ others = [] ∨
        ∃ second b hsecond, second? = some second ∧
          parse second hsecond (some ((function.parameterType? 1).getD a.type)) = .ok (some b) ∧
          others = [b] := by
  cases second? with
  | none => simp [otherArguments, eq_comm]
  | some second =>
    simp only [otherArguments, Except.map_eq_ok_iff, required_eq_ok_iff]
    constructor
    · rintro ⟨b, hb, rfl⟩
      exact .inr ⟨second, b, h second rfl, rfl, hb, rfl⟩
    · rintro (⟨hnone, -⟩ | ⟨_, b, _, hsome, hb, rfl⟩)
      · cases hnone
      · cases hsome
        exact ⟨b, hb, rfl⟩

/-- A call that is read has one argument, or two, of which the second one is read with the type of its
parameter or of the first one. -/
theorem exists_of_functionCall {t : Text} {parse : Operand t.length} {expected : Option ValueType}
    {q : Predicate} (h : functionCall? schema t parse expected = some (.ok q)) :
    ∃ name arguments function a others, Filter.functionCall? t = some (name, arguments) ∧
      Function.ofName? name = some function ∧
      (∃ hfirst, parse (splitLastArgument arguments).1 hfirst
        ((scopeType? schema ⟨(splitLastArgument arguments).1, name,
          (splitLastArgument arguments).2.getD []⟩).or expected) = .ok (some a)) ∧
      ((splitLastArgument arguments).2 = none ∧ others = [] ∨
        ∃ second b hsecond, (splitLastArgument arguments).2 = some second ∧
          parse second hsecond (some ((function.parameterType? 1).getD a.type)) = .ok (some b) ∧
          others = [b]) ∧
      Predicate.apply function (a :: others) = .ok q := by
  unfold functionCall? at h
  split at h
  · cases h
  · rename_i name arguments hcall
    simp only [Option.some.injEq] at h
    split at h
    · cases h
    · rename_i function hname
      split at h
      · cases h
      · rename_i a ha
        split at h
        · cases h
        · rename_i others hothers
          exact ⟨name, arguments, function, a, others, hcall, hname, ⟨_, required_eq_ok_iff.1 ha⟩,
            otherArguments_eq_ok_iff.1 hothers, applied_eq_ok_iff.1 h⟩

/-- What is read as a call of a function is one. -/
theorem eq_call_of_functionCall {t : Text} {parse : Operand t.length} {expected : Option ValueType}
    {q : Predicate} (h : functionCall? schema t parse expected = some (.ok q)) :
    ∃ function arguments type, q = .call function arguments type := by
  obtain ⟨_, _, function, a, others, -, -, -, -, happly⟩ := exists_of_functionCall h
  obtain ⟨type, -, rfl⟩ := Except.map_eq_ok_iff.1 happly
  exact ⟨function, a :: others, type, rfl⟩

/-- Conversely a call is read as soon as its arguments are. -/
theorem functionCall?_of_arguments {t : Text} {parse : Operand t.length} {expected : Option ValueType}
    {name arguments : Text} {function : Function} {a q : Predicate} {others : List Predicate}
    (hcall : Filter.functionCall? t = some (name, arguments))
    (hname : Function.ofName? name = some function)
    (ha : ∀ h, parse (splitLastArgument arguments).1 h
      ((scopeType? schema ⟨(splitLastArgument arguments).1, name,
        (splitLastArgument arguments).2.getD []⟩).or expected) = .ok (some a))
    (hothers : (splitLastArgument arguments).2 = none ∧ others = [] ∨
      ∃ second b, (splitLastArgument arguments).2 = some second ∧
        (∀ h, parse second h (some ((function.parameterType? 1).getD a.type)) = .ok (some b)) ∧
        others = [b])
    (happly : Predicate.apply function (a :: others) = .ok q) :
    functionCall? schema t parse expected = some (.ok q) := by
  have hfirst := fun h => required_eq_ok_iff.2 (ha h)
  unfold functionCall?
  split
  · rename_i hnone
    rw [hcall] at hnone
    cases hnone
  · rename_i name' arguments' hsome
    rw [hcall] at hsome
    cases hsome
    have hrest : ∀ h, otherArguments parse function a (splitLastArgument arguments).2 h = .ok others := fun h =>
      otherArguments_eq_ok_iff.2 (hothers.imp_right fun ⟨second, b, hsecond, hb, hsingle⟩ =>
        ⟨second, b, h second hsecond, hsecond, hb _, hsingle⟩)
    simp only [hname, hfirst, hrest, applied_eq_ok_iff.2 happly]

/-- The ways to read a text without operators, one for each branch of the parser, with what is read there. -/
inductive IsAtomRead (p : FilterParser) (newGuid : Guid) (t : Text) (parse : Operand t.length)
    (expected : Option ValueType) : Predicate → Prop where
  | quoted {content : Text} {q : Predicate} (hquoted : quoted? t = some content)
      (h : Literal.ofQuoted p.options.culture expected content = .ok q) :
      IsAtomRead p newGuid t parse expected q
  | construction {q : Predicate} (hquoted : quoted? t = none)
      (h : construction? p.registry t parse expected = some q) : IsAtomRead p newGuid t parse expected q
  | call {q : Predicate} (hquoted : quoted? t = none)
      (hnew : construction? p.registry t parse expected = none)
      (h : functionCall? p.schema t parse expected = some (.ok q)) : IsAtomRead p newGuid t parse expected q
  | property {path : PropertyPath} {type : ValueType} (hquoted : quoted? t = none)
      (hnew : construction? p.registry t parse expected = none)
      (hcall : functionCall? p.schema t parse expected = none)
      (h : firstProperty? p.schema t = some (path, type)) :
      IsAtomRead p newGuid t parse expected (.property path type)
  | known {q : Predicate} (hquoted : quoted? t = none)
      (hnew : construction? p.registry t parse expected = none)
      (hcall : functionCall? p.schema t parse expected = none)
      (hproperty : firstProperty? p.schema t = none)
      (h : Literal.known? p.options.culture newGuid expected t = some (.ok q)) :
      IsAtomRead p newGuid t parse expected q
  | fallback {q : Predicate} (hquoted : quoted? t = none)
      (hnew : construction? p.registry t parse expected = none)
      (hcall : functionCall? p.schema t parse expected = none)
      (hproperty : firstProperty? p.schema t = none)
      (hknown : Literal.known? p.options.culture newGuid expected t = none)
      (h : Literal.fallback p.options.culture expected t = .ok q) : IsAtomRead p newGuid t parse expected q

theorem isAtomRead_of_atom {t : Text} {parse : Operand t.length} {expected : Option ValueType}
    {q : Predicate} (h : atom p newGuid t parse expected = .ok q) :
    IsAtomRead p newGuid t parse expected q := by
  unfold atom at h
  simp only at h
  split at h
  · exact .quoted ‹_› (Except.mapError_eq_ok_iff.1 h)
  · rename_i hquoted
    split at h
    · cases h
      exact .construction hquoted ‹_›
    · rename_i hnew
      split at h
      · rename_i hcall
        rw [h] at hcall
        exact .call hquoted hnew hcall
      · rename_i hcall
        split at h
        · cases h
          exact .property hquoted hnew hcall ‹_›
        · rename_i hproperty
          have hread := Except.mapError_eq_ok_iff.1 h
          cases hknown : Literal.known? p.options.culture newGuid expected t with
          | none =>
            rw [hknown, Option.getD_none] at hread
            exact .fallback hquoted hnew hcall hproperty hknown hread
          | some result =>
            rw [hknown, Option.getD_some] at hread
            rw [hread] at hknown
            exact .known hquoted hnew hcall hproperty hknown

namespace ClosedUnderParsing

/-- What is closed under parsing holds of a function call, if it holds of the arguments. -/
theorem of_functionCall (hP : ClosedUnderParsing p P) {t : Text} {parse : Operand t.length}
    (hparse : Yields P parse) {expected : Option ValueType} {q : Predicate}
    (h : functionCall? schema t parse expected = some (.ok q)) : P q := by
  obtain ⟨_, _, _, a, others, -, -, ⟨_, ha⟩, hothers, happly⟩ := exists_of_functionCall h
  refine hP.apply _ _ _ (fun argument hargument => ?_) happly
  rcases List.mem_cons.1 hargument with rfl | hargument
  · exact hparse _ _ _ _ ha
  · rcases hothers with ⟨-, rfl⟩ | ⟨_, b, _, -, hb, rfl⟩
    · cases hargument
    · rw [List.mem_singleton.1 hargument]
      exact hparse _ _ _ _ hb

/-- By induction on the texts: each argument has the property, and there is one for each parameter. -/
theorem of_constructorArguments {n : Nat} {parse : Operand n} (hparse : Yields P parse) :
    ∀ (tokens : List Text) h parameters arguments,
      constructorArguments parse tokens h parameters = .ok arguments →
        (∀ argument ∈ arguments, P argument) ∧
          (parameters.length = tokens.length → arguments.length = parameters.length) := by
  intro tokens
  induction tokens with
  | nil =>
    intro h parameters arguments harguments
    cases harguments
    exact ⟨by simp, fun hlength => hlength.symm⟩
  | cons token tokens ih =>
    intro h parameters arguments harguments
    cases parameters with
    | nil =>
      cases harguments
      exact ⟨by simp, fun _ => rfl⟩
    | cons parameter parameters =>
      simp only [constructorArguments] at harguments
      split at harguments
      · cases harguments
      · rename_i first hfirst
        split at harguments
        · -- the first argument fits its parameter
          obtain ⟨others, hothers, rfl⟩ := Except.map_eq_ok_iff.1 harguments
          obtain ⟨hall, hcount⟩ := ih _ _ _ hothers
          refine ⟨fun argument hargument => ?_, fun hlength => ?_⟩
          · rcases List.mem_cons.1 hargument with rfl | hargument
            · exact hparse _ _ _ _ (required_eq_ok_iff.1 hfirst)
            · exact hall argument hargument
          · simp only [List.length_cons, Nat.add_right_cancel_iff] at hlength ⊢
            exact hcount hlength
        · cases harguments

/-- What is closed under parsing holds of a construction, if it holds of the arguments. -/
theorem of_construction (hP : ClosedUnderParsing p P) {t : Text} {parse : Operand t.length}
    (hparse : Yields P parse) {expected : Option ValueType} {q : Predicate}
    (h : construction? p.registry t parse expected = some q) : P q := by
  unfold construction? at h
  split at h
  · cases h
  · simp only at h
    split at h
    · rename_i entry expected hentry
      split at h
      · -- the type that is expected is the registered one up to null
        rename_i hsame
        obtain ⟨constructor, hmem, hq⟩ := List.exists_of_findSome?_eq_some h
        split at hq
        · cases hq
        · rename_i hlength
          split at hq
          · rename_i arguments harguments
            cases hq
            obtain ⟨hall, hcount⟩ := of_constructorArguments hparse _ _ _ _ harguments
            exact hP.construct _ _ _ _ hall (List.mem_of_find?_eq_some hentry) hmem
              (hcount (Decidable.not_not.1 hlength)) hsame
          · cases hq
      · cases h
    · cases h

/-- What is closed under parsing holds of an atom, if it holds of all shorter texts. -/
theorem of_atom (hP : ClosedUnderParsing p P) {t : Text} {parse : Operand t.length}
    (hparse : Yields P parse) {expected : Option ValueType} {q : Predicate}
    (h : atom p newGuid t parse expected = .ok q) : P q := by
  cases isAtomRead_of_atom h with
  | quoted _ hread => exact hP.literal _ (.quoted hread)
  | construction _ hread => exact hP.of_construction hparse hread
  | call _ _ hread => exact hP.of_functionCall hparse hread
  | property _ _ _ hread => exact hP.property _ _ (resolved_of_firstProperty hread)
  | known _ _ _ _ hread => exact hP.literal _ (.known hread)
  | fallback _ _ _ _ _ hread => exact hP.literal _ (.plain hread)

/-! ### Whole texts -/

/-- What is closed under parsing holds of a text, if it holds of all shorter ones. -/
theorem of_parseTrimmed (hP : ClosedUnderParsing p P) {t : Text} {parse : Operand t.length}
    (hparse : Yields P parse) {expected : Option ValueType} {q : Predicate}
    (h : parseTrimmed p newGuid t parse expected = .ok (some q)) : P q := by
  unfold parseTrimmed at h
  split at h
  · cases h
  · split at h
    · split at h
      · exact hparse _ _ _ _ h
      · obtain ⟨found, hfound, heq⟩ := Except.map_eq_ok_iff.1 h
        cases heq
        exact hP.of_atom hparse hfound
    · exact hP.of_foldSets hparse _ _ _ (fun _ h => by cases h) q h

/-- Every expression that is parsed has the property. The induction is on the length of the trimmed text,
as the recursion of the parser is. -/
theorem of_parseExpression (hP : ClosedUnderParsing p P) (t : Text) (expected : Option ValueType)
    (q : Predicate) (h : p.parseExpression newGuid t expected = .ok (some q)) : P q := by
  rw [parseExpression] at h
  refine hP.of_parseTrimmed (fun shorter hshorter expected q hq => ?_) h
  exact of_parseExpression hP shorter expected q hq
termination_by (Text.trim t).length
decreasing_by exact Nat.lt_of_le_of_lt (Text.length_trim_le _) hshorter

end ClosedUnderParsing

/-- Typing is preserved by the parser. -/
theorem closedUnderParsing_wellTyped (p : FilterParser) :
    ClosedUnderParsing p (WellTyped p.registry p.schema) where
  property _ _ hresolved := .property hresolved
  literal _ h := h.isTypedConstant.wellTyped
  negate _ _ h hnegate := h.of_negate hnegate
  combine _ _ _ _ hleft hright hcombine := hleft.of_combine hright hcombine
  apply _ _ _ h happly := .of_apply h happly
  construct _ _ _ _ h hentry hconstructor hcount hsame :=
    .construct h hentry hconstructor hcount hsame

/-- Every expression that is parsed is a typed predicate. -/
theorem wellTyped_of_parseExpression (p : FilterParser) (newGuid : Guid) (t : Text)
    (expected : Option ValueType) (q : Predicate) (h : p.parseExpression newGuid t expected = .ok (some q)) :
    WellTyped p.registry p.schema q :=
  (closedUnderParsing_wellTyped p).of_parseExpression t expected q h

/-- A filter is accepted as what its text is parsed as, if this is not a predicate of another type. -/
theorem parse_eq_ok_iff {p : FilterParser} {newGuid : Guid} {filter : Text} {q : Option Predicate} :
    p.parse newGuid filter = .ok q ↔
      p.parseExpression newGuid filter none = .ok q ∧
        ∀ found, q = some found → found.type.isBoolean = true := by
  unfold parse
  split
  · rename_i found hfound
    simp only [hfound, Except.ok.injEq]
    split
    · rename_i hboolean
      simp only [Except.ok.injEq, iff_self_and]
      rintro rfl other heq
      cases heq
      exact hboolean
    · rename_i hboolean
      simp only [reduceCtorEq, false_iff]
      rintro ⟨rfl, hother⟩
      exact hboolean (hother found rfl)
  · rename_i hother
    refine (and_iff_left_of_imp fun h found heq => ?_).symm
    exact absurd (heq ▸ h) (hother found)

/-- A filter is accepted as a predicate if its text is parsed as a boolean one. -/
theorem parse_eq_ok_some_iff {p : FilterParser} {newGuid : Guid} {filter : Text} {q : Predicate} :
    p.parse newGuid filter = .ok (some q) ↔
      p.parseExpression newGuid filter none = .ok (some q) ∧ q.type.isBoolean = true := by
  simp [parse_eq_ok_iff]

/-- A parser for filters on items, which have a flag, a number and a name. -/
def items : FilterParser where
  schema := ⟨"Item", [("Flag", .boolean), ("Id", .int32), ("Name", .string)]⟩

end FilterParser
end RecordFilter
