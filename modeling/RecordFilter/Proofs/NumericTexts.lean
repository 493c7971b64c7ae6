import RecordFilter.Proofs.NumberLiterals
import RecordFilter.Proofs.Printing

/-!
# Texts of numeric expressions

The OData dialect writes arithmetic as two operands with an operator in between, in parentheses when it is
an operand itself, and a call as its name with the argument in parentheses. This module says what the
parser makes of these texts. Arithmetic is read with the type of the first property that is seen in it;
a call hides the properties in its argument from the expression around it.

Main statement: `parseExpression_call_iff`.
-/

namespace RecordFilter
namespace Filter

/-- The text of a call with one argument. -/
def unaryText (function : Function) (argument : Text) : Text :=
  function.name.toList ++ '(' :: argument ++ [')']

theorem isIdentifier_name (function : Function) : isIdentifier function.name.toList = true := by
  cases function <;> decide

theorem isOperand_unaryText (function : Function) {argument : Text} (h : IsPiece argument) :
    IsOperand (unaryText function argument) :=
  isOperand_callOf (isIdentifier_name function) h.nested h.squeezed

/-- A text without commas is a single argument. -/
theorem splitLastArgument_single {t : Text} (h : ',' ∉ t) (htrimmed : Text.IsTrimmed t) :
    splitLastArgument t = (t, none) := by
  have hsplit : splitTop .start t = [t] := splitTop_of_commaFree (commaFree_of_not_mem h)
  unfold splitLastArgument
  rw [hsplit]
  show (Text.trim t, none) = _
  rw [htrimmed.trim_eq]

end Filter

namespace FilterParser

open RecordFilter.Filter

variable {p : FilterParser} {newGuid : Guid} {expected : Option ValueType} {t : Text}

/-! ## Properties that are seen -/

/-- In an operator between two operands the properties of both are seen. -/
theorem firstProperty?_operatorText (schema : RecordType) (op : BinaryOperator)
    (hop : op.isConnective = false) {left right : Text} (hleft : IsPiece left) (hright : IsPiece right) :
    firstProperty? schema (operatorText op left right)
      = (firstProperty? schema left).or (firstProperty? schema right) :=
  firstProperty?_of_sets schema (isFilterText_operatorText op hop hleft hright)
    (tokenize_operatorText op hop hleft hright)

/-- A call hides the properties in its argument. -/
theorem firstProperty?_unaryText {schema : RecordType} (hnamed : schema.isWellNamed = true)
    (function : Function) (h : IsPiece t) : firstProperty? schema (unaryText function t) = none := by
  have hparen : '(' ∈ unaryText function t := by simp [unaryText]
  rw [firstProperty?_atom schema (isOperand_unaryText function h).toIsAtom]
  exact RecordType.resolvePath?_eq_none_of_mem hnamed hparen (by decide) (by decide) (by decide)

/-! ## Something is read -/

/-- An operator between two operands is never read as nothing. -/
theorem parseExpression_operator_ne_none (op : BinaryOperator) (hop : op.isConnective = false)
    {left right : Text} (hleft : IsPiece left) (hright : IsPiece right) :
    p.parseExpression newGuid (operatorText op left right) expected ≠ .ok none := by
  have htrim := (isFilterText_operatorText op hop hleft hright).trimmed.trim_eq
  have hsets := tokenize_operatorText op hop hleft hright
  rw [← htrim] at hsets
  rw [parseExpression_of_sets hsets (by simp)]
  exact foldSets_ne_ok_none hleft.trimmed.isBlank_eq

/-! ## Parentheses -/

/-- Parentheses around an operator with its operands change nothing. -/
theorem sameResult_enclosedText (newGuid : Guid) (expected : Option ValueType) (h : IsFilterText t) :
    SameResult (p.parseExpression newGuid ('(' :: t ++ [')']) expected)
      (p.parseExpression newGuid t expected) := by
  have hsame := sameResult_enclosed p newGuid expected h.enclosable
  rwa [h.squeezed] at hsame

/-! ## Calls with one argument -/

/-- The step from the text of the argument to the call. -/
theorem functionCall?_single_iff {name argument : Text} {function : Function}
    (hcall : Filter.functionCall? t = some (name, argument))
    (hname : Function.ofName? name = some function)
    (hsplit : splitLastArgument argument = (argument, none)) {q : Predicate} :
    functionCall? p.schema t (p.inner newGuid t.length) expected = some (.ok q) ↔
      ∃ a, p.parseExpression newGuid argument ((scopeType? p.schema ⟨argument, name, []⟩).or expected)
          = .ok (some a) ∧ Predicate.apply function [a] = .ok q := by
  constructor
  · intro h
    obtain ⟨name', argument', function', a, others, hcall', hname', ⟨hlt, ha⟩, hothers, happly⟩ :=
      exists_of_functionCall h
    rw [hcall] at hcall'
    cases hcall'
    rw [hname] at hname'
    cases hname'
    simp only [hsplit, Option.getD_none] at ha
    rcases hothers with ⟨-, rfl⟩ | ⟨second, _, _, hsecond, -⟩
    · exact ⟨a, ha, happly⟩
    · rw [hsplit] at hsecond
      cases hsecond
  · rintro ⟨a, ha, happly⟩
    refine functionCall?_of_arguments hcall hname (fun _ => ?_) (.inl ⟨?_, rfl⟩) happly
    · show p.parseExpression newGuid (splitLastArgument argument).1 _ = _
      rw [hsplit]
      exact ha
    · rw [hsplit]

/-- A call with one argument is read as the function of what the argument is read as. In the argument
literals take the type of the first property that is seen in it. -/
theorem parseExpression_call_iff (function : Function) (h : IsPiece t) (hcomma : ',' ∉ t)
    {q : Predicate} :
    p.parseExpression newGuid (unaryText function t) expected = .ok (some q) ↔
      ∃ a, p.parseExpression newGuid t (((firstProperty? p.schema t).map Prod.snd).or expected) = .ok (some a) ∧
        Predicate.apply function [a] = .ok q := by
  have hatom := (isOperand_unaryText function h).toIsAtom
  have hname : Function.ofName? function.name.toList = some function := by
    cases function <;> decide
  have hcombinator : isCombinator function.name.toList = false := by
    cases function <;> decide
  -- no other reader takes the text of the call
  have hquoted : quoted? (unaryText function t) = none := by
    cases function <;> rfl
  have hconstruction : Filter.construction? (unaryText function t) = none := by
    cases function <;> rfl
  have hscope : scopeType? p.schema ⟨t, function.name.toList, []⟩
      = (firstProperty? p.schema t).map Prod.snd := by
    unfold scopeType?
    rw [if_neg (by simp [hcombinator]), firstProperty?_nil, Option.or_none]
  have hcall : Filter.functionCall? (unaryText function t) = some (function.name.toList, t) :=
    functionCall?_callOf (isIdentifier_name function) h.trimmed.isBlank_eq
  have hstep : functionCall? p.schema (unaryText function t) (p.inner newGuid (unaryText function t).length)
      expected = some (.ok q) ↔ _ :=
    functionCall?_single_iff hcall hname (splitLastArgument_single hcomma h.trimmed)
  rw [hscope] at hstep
  rw [parseExpression_atom hatom, ← hstep, atom]
  simp only [hquoted, construction?_eq_none hconstruction]
  cases hfound : functionCall? p.schema (unaryText function t) (p.inner newGuid (unaryText function t).length)
      expected with
  | none =>
    rw [functionCall?_eq_none_iff, hcall] at hfound
    cases hfound
  | some result => cases result <;> simp [Except.map]

end FilterParser
end RecordFilter
