import RecordFilter.Dialect.OData
import RecordFilter.Proofs.Grouping
import RecordFilter.Proofs.MatchCalls

/-!
# Printed filters

The OData dialect writes a comparison as two operands with an operator in between, and connectives and
negations with parentheses around what they connect. This module says what the scanner makes of such a
text: it finds the one operator outside of the parentheses, and the outermost parentheses never belong
together, so they are not taken away.

Main statements: `parseExpression_operator_iff`, and for every form of text that it is an `IsFilterText`.
-/

namespace RecordFilter
namespace Filter

/-! ## Texts -/

/-- A text that is neither changed by trimming and scanning nor put in parentheses as a whole. -/
structure IsFilterText (t : Text) : Prop where
  trimmed : Text.IsTrimmed t
  squeezed : Text.squeeze t = t
  nested : WellNested t
  bare : stripEnclosing? t = none

theorem IsFilterText.enclosable {t : Text} (h : IsFilterText t) : Enclosable t := by
  refine ⟨h.trimmed.ne_nil, h.nested, fun inside hinside => ?_⟩
  rw [h.squeezed, h.trimmed.trim_eq, h.bare] at hinside
  cases hinside

/-- An operand is a filter text. -/
theorem IsOperand.isFilterText {t : Text} (h : IsOperand t) : IsFilterText t :=
  ⟨h.trimmed, h.squeezed, h.nested, h.stripEnclosing?_eq⟩

/-- A text in parentheses, which hide its operators. -/
theorem IsFilterText.isPiece_enclosed {t : Text} (h : IsFilterText t) : IsPiece ('(' :: t ++ [')']) := by
  refine ⟨⟨⟨'(', rfl, rfl⟩, ⟨')', List.getLast?_concat, rfl⟩⟩, ?_, h.nested.enclosed,
    h.nested.closes.hasNoOperator_enclosed.operatorFree⟩
  rw [squeeze_enclosed, h.squeezed]

/-- Two texts with an operator in between. -/
theorem isFilterText_between {word left right : Text} (hword : isOperation word = true)
    (hleft : IsPiece left) (hright : IsPiece right) :
    IsFilterText (left ++ ' ' :: (word ++ ' ' :: right)) := by
  obtain ⟨hne, hspace⟩ := isWord_of_isOperation hword
  -- the operator with its spaces as one text
  have hbetween : left ++ ' ' :: (word ++ ' ' :: right) = left ++ (' ' :: word ++ [' ']) ++ right := by
    simp
  have hplain : ∀ c ∈ ' ' :: word ++ [' '], Nesting.isQuote c = false ∧ c ≠ '(' ∧ c ≠ ')' := by
    intro c hc
    simp only [List.cons_append, List.mem_cons, List.mem_append, List.not_mem_nil, or_false] at hc
    rcases hc with rfl | hc | rfl
    · decide
    · exact plain_of_isOperation hword c hc
    · decide
  have hhead : (word ++ ' ' :: right).head? ≠ some ' ' := by
    obtain ⟨c, rest, rfl⟩ := List.exists_cons_of_ne_nil hne
    simpa using fun h : c = ' ' => hspace (by simp [h])
  have hlast : word.getLast? ≠ some ' ' := fun h => hspace (List.mem_of_getLast? h)
  refine ⟨?_, ?_, ?_, ?_⟩
  · rw [hbetween]
    exact hleft.trimmed.append _ hright.trimmed
  · rw [Text.squeeze_append_space_cons hleft.trimmed.getLast?_ne hhead,
      Text.squeeze_append_space_cons hlast hright.trimmed.head?_ne, hleft.squeezed, hright.squeezed,
      Text.squeeze_eq_self hspace]
  · rw [hbetween]
    exact (hleft.nested.append (.of_plain hplain)).append hright.nested
  · rw [hbetween, List.append_assoc]
    exact stripEnclosing?_append hleft.trimmed.ne_nil (by simp) hleft.nested.balanced
      (depthAfter?_plain_append (fun c hc => (hplain c hc).2) hright.nested.balanced)

/-- Two operands with an operator in between. -/
def operatorText (op : BinaryOperator) (left right : Text) : Text :=
  left ++ ' ' :: op.keyword.toList ++ ' ' :: right

/-- Two operands with a comparison in between. -/
def comparisonText (op : Comparison) (left right : Text) : Text :=
  left ++ ' ' :: op.keyword.toList ++ ' ' :: right

section Operators

variable {left right : Text}

theorem operatorText_eq (op : BinaryOperator) (left right : Text) :
    operatorText op left right = left ++ ' ' :: (op.keyword.toList ++ ' ' :: right) := by
  simp [operatorText]

theorem comparisonText_eq (op : Comparison) (left right : Text) :
    comparisonText op left right = left ++ ' ' :: (op.keyword.toList ++ ' ' :: right) :=
  operatorText_eq (.comparison op) left right

theorem isOperation_operator (op : BinaryOperator) (hop : op.isConnective = false) :
    isOperation op.keyword.toList = true ∧ isCombinator op.keyword.toList = false ∧
      isLowerOperation op.keyword.toList = true ∧
      Text.words op.keyword.toList = [op.keyword.toList] := by
  cases op with
  | comparison op => cases op <;> decide
  | arithmetic op => cases op <;> decide
  | connective op => cases hop

theorem isOperation_comparison (op : Comparison) :
    isOperation op.keyword.toList = true ∧ isCombinator op.keyword.toList = false ∧
      isLowerOperation op.keyword.toList = true ∧
      Text.words op.keyword.toList = [op.keyword.toList] :=
  isOperation_operator (.comparison op) rfl

/-- The words of an operator text are those of its sides, with the keyword between them. -/
theorem words_operatorText (op : BinaryOperator) (hop : op.isConnective = false) (left right : Text) :
    Text.words (operatorText op left right)
      = Text.words left ++ op.keyword.toList :: Text.words right := by
  obtain ⟨-, -, -, hword⟩ := isOperation_operator op hop
  rw [operatorText_eq, Text.words_append_space, Text.words_append_space, hword]
  rfl

theorem words_comparisonText (op : Comparison) (left right : Text) :
    Text.words (comparisonText op left right)
      = Text.words left ++ op.keyword.toList :: Text.words right :=
  words_operatorText (.comparison op) rfl left right

/-- Two pieces with an operator between them are a filter text. -/
theorem isFilterText_operatorText (op : BinaryOperator) (hop : op.isConnective = false)
    (hleft : IsPiece left) (hright : IsPiece right) : IsFilterText (operatorText op left right) := by
  rw [operatorText_eq]
  exact isFilterText_between (isOperation_operator op hop).1 hleft hright

theorem isFilterText_comparisonText (op : Comparison) (hleft : IsPiece left) (hright : IsPiece right) :
    IsFilterText (comparisonText op left right) :=
  isFilterText_operatorText (.comparison op) rfl hleft hright

/-- An operator between two operands is a single token set. -/
theorem tokenize_operatorText (op : BinaryOperator) (hop : op.isConnective = false)
    (hleft : IsPiece left) (hright : IsPiece right) :
    tokenize (operatorText op left right) = [⟨left, op.keyword.toList, right⟩] := by
  have htext := isFilterText_operatorText op hop hleft hright
  obtain ⟨hoperation, hcombinator, hlower, -⟩ := isOperation_operator op hop
  have hwords : Text.words (Text.trim (operatorText op left right))
      = Text.words left ++ op.keyword.toList :: Text.words right := by
    rw [htext.trimmed.trim_eq, words_operatorText op hop]
  have himplied : isImpliedBoolean (operatorText op left right) = false :=
    isImpliedBoolean_eq_false (Text.words left) hwords hleft.hasNoOperator.foldl_words hlower hoperation
  have hblank : Text.isBlank (Text.unwords (Text.words left)) = false := by
    rw [hleft.unwords_words]
    exact hleft.trimmed.isBlank_eq
  rw [tokenize_eq_scan htext.trimmed.trim_eq htext.trimmed.ne_nil htext.bare himplied,
    words_operatorText op hop, scan_comparison hleft.hasNoOperator hright.operators hoperation hcombinator
      hblank, hleft.unwords_words, hright.unwords_words]

/-- Two pieces with a comparison between them are one token set. -/
theorem tokenize_comparisonText (op : Comparison) (hleft : IsPiece left) (hright : IsPiece right) :
    tokenize (comparisonText op left right) = [⟨left, op.keyword.toList, right⟩] :=
  tokenize_operatorText (.comparison op) rfl hleft hright

end Operators

/-- Filter texts in parentheses on both sides of a keyword are a filter text. -/
theorem isFilterText_grouped {op : Connective} {f g : Text} (hf : IsFilterText f)
    (hg : IsFilterText g) : IsFilterText (grouped op f g) := by
  rw [grouped_eq]
  exact isFilterText_between (isOperation_of_isCombinator (isCombinator_keyword op))
    hf.isPiece_enclosed hg.isPiece_enclosed

theorem isFilterText_negated {f : Text} (hf : IsFilterText f) : IsFilterText (negated f) := by
  have hbetween : negated f = "not".toList ++ ' ' :: ('(' :: f ++ [')']) := rfl
  refine ⟨?_, ?_, ?_, stripEnclosing?_eq_none_of_head (by simp [negated])⟩
  · exact ⟨⟨'n', rfl, rfl⟩, ⟨')', List.getLast?_concat, rfl⟩⟩
  · rw [hbetween, Text.squeeze_append_space_cons (by decide) hf.isPiece_enclosed.trimmed.head?_ne,
      squeeze_enclosed, hf.squeezed]
    rfl
  · exact (WellNested.of_plain (t := "not ".toList) (by decide)).append hf.nested.enclosed

end Filter

namespace FilterParser

open RecordFilter.Filter

variable {p : FilterParser} {newGuid : Guid} {expected : Option ValueType}

/-! ## The first property -/

/-- The first property of a filter with operators is in its first token set. -/
theorem firstProperty?_of_sets (schema : RecordType) {t : Text} (h : IsFilterText t) {set : TokenSet}
    {sets : List TokenSet} (hsets : tokenize t = set :: sets) :
    firstProperty? schema t
      = (firstProperty? schema set.left).or (firstProperty? schema set.right) := by
  refine firstProperty?_of_cons schema h.trimmed ?_ hsets
  cases himplied : isImpliedBoolean t with
  | false => rfl
  | true =>
    unfold tokenize at hsets
    simp [h.trimmed.trim_eq, h.bare, himplied] at hsets

/-- Parentheses around a filter do not hide its first property. -/
theorem firstProperty?_enclosed (schema : RecordType) {t : Text} (h : IsFilterText t) :
    firstProperty? schema ('(' :: t ++ [')']) = firstProperty? schema t := by
  have horphan := hasOrphan_of_balanced h.nested.balanced
  have htokens : tokenize ('(' :: t ++ [')']) = tokenize t := by
    rw [tokenize_enclosed h.trimmed.ne_nil horphan]
    have hne : t.isEmpty = false := by simpa using h.trimmed.ne_nil
    simp [tokenize, h.trimmed.trim_eq, h.bare, hne, Scan.start, Scan.fresh]
  have htrimmed := h.isPiece_enclosed.trimmed
  cases hsets : tokenize t with
  | nil =>
    rw [firstProperty?_of_nil schema htrimmed (htokens.trans hsets),
      firstProperty?_of_nil schema h.trimmed hsets, h.bare,
      stripEnclosing?_enclosed h.trimmed.ne_nil, horphan, h.trimmed.trim_eq]
    rfl
  | cons set sets =>
    have himplied := isImpliedBoolean_enclosed h.trimmed.ne_nil
    rw [firstProperty?_of_cons schema htrimmed himplied (htokens.trans hsets),
      firstProperty?_of_sets schema h hsets]

/-! ## Reading -/

/-- The type that literals take beside a comparison of two operands. -/
theorem scopeType?_comparisonText {op : Comparison} {left right : Text} (hleft : IsOperand left)
    (hright : IsOperand right) :
    scopeType? p.schema ⟨left, op.keyword.toList, right⟩ =
      ((p.schema.resolvePath? left).or (p.schema.resolvePath? right)).map Prod.snd := by
  unfold scopeType?
  rw [if_neg (by simp [(isOperation_comparison op).2.1]), firstProperty?_atom _ hleft.toIsAtom,
    firstProperty?_atom _ hright.toIsAtom]

/-- An operator is found by its keyword. -/
theorem ofKeyword?_operator (op : BinaryOperator) :
    BinaryOperator.ofKeyword? op.keyword.toList = some op := by
  cases op with
  | comparison op => cases op <;> decide
  | connective op => cases op <;> decide
  | arithmetic op => cases op <;> decide

theorem ofKeyword?_comparison (op : Comparison) :
    BinaryOperator.ofKeyword? op.keyword.toList = some (.comparison op) :=
  ofKeyword?_operator (.comparison op)

/-- An operator between two operands is read as their combination. -/
theorem parseExpression_operator_iff (op : BinaryOperator) (hop : op.isConnective = false)
    {left right : Text} (hleft : IsPiece left) (hright : IsPiece right)
    (hpresent : ∀ expected, p.parseExpression newGuid right expected ≠ .ok none) {q : Predicate} :
    p.parseExpression newGuid (operatorText op left right) expected = .ok (some q) ↔
      ∃ a b, p.parseExpression newGuid left ((scopeType? p.schema ⟨left, op.keyword.toList, right⟩).or expected)
          = .ok (some a) ∧
        p.parseExpression newGuid right (some a.type) = .ok (some b) ∧ Predicate.combine op a b = .ok q := by
  have htrim := (isFilterText_operatorText op hop hleft hright).trimmed.trim_eq
  have hsets := tokenize_operatorText op hop hleft hright
  rw [← htrim] at hsets
  rw [parseExpression_of_set hsets hleft.trimmed.isBlank_eq]
  constructor
  · rintro ⟨a, ha, ⟨hnone, -⟩ | ⟨b, hb, hoperate⟩⟩
    · exact absurd hnone (hpresent _)
    · exact ⟨a, b, ha, hb, (operate_of_keyword (ofKeyword?_operator op)).1 hoperate⟩
  · rintro ⟨a, b, ha, hb, hcombine⟩
    exact ⟨a, ha, .inr ⟨b, hb, (operate_of_keyword (ofKeyword?_operator op)).2 hcombine⟩⟩

/-- A comparison is read as soon as its operands are. -/
theorem parseExpression_compared {op : Comparison} {left right : Text} (hleft : IsPiece left)
    (hright : IsPiece right) {a b : Predicate}
    (ha : p.parseExpression newGuid left ((scopeType? p.schema ⟨left, op.keyword.toList, right⟩).or expected)
      = .ok (some a))
    (hb : p.parseExpression newGuid right (some a.type) = .ok (some b))
    (hfits : Predicate.operatorType (.comparison op) a.type b.type = .ok .boolean) :
    p.parseExpression newGuid (comparisonText op left right) expected
      = .ok (some (.binary (.comparison op) a b .boolean)) := by
  have hpresent : ∀ expected, p.parseExpression newGuid right expected ≠ .ok none := by
    intro expected hnone
    rw [parseExpression_eq_ok_none rfl hnone] at hb
    cases hb
  refine (parseExpression_operator_iff (.comparison op) rfl hleft hright hpresent).2
    ⟨a, b, ha, hb, ?_⟩
  rw [Predicate.combine, hfits]
  rfl

/-- A connective of two printed filters is read as soon as they are. -/
theorem parseExpression_grouped {op : Connective} {f g : Text} (hf : IsFilterText f)
    (hg : IsFilterText g) {a b : Predicate} (ha : p.parseExpression newGuid f (some .boolean) = .ok (some a))
    (hb : p.parseExpression newGuid g (some a.type) = .ok (some b)) (haboolean : a.type.isBoolean = true)
    (hbboolean : b.type.isBoolean = true) :
    p.parseExpression newGuid (grouped op f g) expected
      = .ok (some (.binary (.connective op) a b .boolean)) := by
  refine (parseExpression_grouped_iff hf.enclosable hg.enclosable hb).2 ⟨a, b, ?_, ?_, haboolean,
    hbboolean, rfl⟩
  · rw [hf.squeezed]
    exact ha
  · rw [hg.squeezed]
    exact hb

/-- The negation of a printed filter is read as soon as the filter is. -/
theorem parseExpression_negated {f : Text} (hf : IsFilterText f) {a : Predicate}
    (ha : p.parseExpression newGuid f (some .boolean) = .ok (some a)) (hboolean : a.type.isBoolean = true) :
    p.parseExpression newGuid (negated f) expected = .ok (some (.not a)) := by
  refine (parseExpression_negated_iff hf.enclosable).2 ⟨a, ?_, hboolean, rfl⟩
  rw [hf.squeezed]
  exact ha

end FilterParser

namespace Dialect

open RecordFilter.Filter

/-! ## Writing -/

/-- A predicate is written in the same way alone and as part of another one. -/
theorem render_odata (q : Predicate) : odata.render q = odata.visit false false q := by
  cases q with
  | property path type => rfl
  | _ => rfl

/-- The arguments of a call that is written are written. -/
theorem exists_visitArguments {q : Predicate} {t : Text} {function : Function} {inside bracket : Bool}
    (hq : odata.visit inside bracket q = .ok t) (hmatch : stringMatchOf? q = some function) :
    ∃ arguments, visitArguments odata q = .ok arguments := by
  cases q with
  | call function arguments type =>
    rw [visit] at hq
    rw [visitArguments]
    cases harguments : visitAll odata arguments with
    | ok texts => exact ⟨texts, rfl⟩
    | error error =>
      rw [harguments] at hq
      cases hq
  | _ => cases hmatch

/-- A comparison is written as its operands with the operator in between. String matches that are
compared with a boolean have no form of their own. -/
theorem visit_comparison {op : Comparison} {left right : Predicate} {type : ValueType} {a b : Text}
    (ha : odata.visit true (!left.isAtomic) left = .ok a)
    (hb : odata.visit true (!right.isAtomic) right = .ok b) (inside bracket : Bool) :
    odata.visit inside bracket (.binary (.comparison op) left right type)
      = .ok (wrap bracket (comparisonText op a b)) := by
  have hcompared : odata.compared bracket op (.ok a) (.ok b)
      = .ok (wrap bracket (comparisonText op a b)) := rfl
  rw [visit]
  simp only [ha, hb]
  split
  · rename_i hmatch _
    obtain ⟨arguments, harguments⟩ := exists_visitArguments ha hmatch
    rw [harguments]
    exact hcompared
  · rename_i hmatch _ _
    obtain ⟨arguments, harguments⟩ := exists_visitArguments hb hmatch
    rw [harguments]
    exact hcompared
  · exact hcompared

/-- A negation is written as `not` in front of its operand, in parentheses. -/
theorem visit_negation {q : Predicate} {t : Text} (h : odata.visit false false q = .ok t)
    (inside bracket : Bool) : odata.visit inside bracket (.not q) = .ok (wrap bracket (negated t)) := by
  rw [visit, h]
  rfl

/-- A connective of two texts that are not blank is written with parentheses around both of them. -/
theorem visit_connective {op : Connective} {left right : Predicate} {type : ValueType} {a b : Text}
    (ha : odata.visit false false left = .ok a) (hb : odata.visit false false right = .ok b)
    (hablank : Text.isBlank a = false) (hbblank : Text.isBlank b = false)
    (hleft : left.booleanLiteral? = none) (hright : right.booleanLiteral? = none) (inside : Bool) :
    odata.visit inside false (.binary (.connective op) left right type) = .ok (grouped op a b) := by
  rw [visit, ha, hb]
  refine congrArg Except.ok ?_
  unfold connected
  simp only [hleft, hright, hablank, hbblank, reduceCtorEq, or_self, and_false, if_false,
    Bool.false_eq_true]
  rfl

/-- A call with two atomic arguments. -/
theorem visit_call {function : Function} {first second : Predicate} {type : ValueType} {a b : Text}
    (ha : odata.visit true (!first.isAtomic) first = .ok a)
    (hb : odata.visit true (!second.isAtomic) second = .ok b) (inside bracket : Bool) :
    odata.visit inside bracket (.call function [first, second] type) =
      .ok (if function.isStringMatch && !inside then
        comparisonText .eq (callText function.name.toList a b) "true".toList
      else callText function.name.toList a b) := by
  have harguments : visitAll odata [first, second] = .ok [a, b] := by
    rw [visitAll, visitAll, visitAll, ha, hb]
    rfl
  rw [visit, harguments]
  refine congrArg Except.ok ?_
  cases h : function.isStringMatch && !inside with
  | true => simp [comparisonText, callText, Comparison.keyword]
  | false => simp [callText]

end Dialect
end RecordFilter
