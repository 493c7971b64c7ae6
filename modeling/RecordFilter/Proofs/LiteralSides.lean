import RecordFilter.Proofs.BracketedChains
import RecordFilter.Proofs.MirroredComparisons

/-!
# Literals on either side

A literal is compared with a property on either of its sides. Behind the property it takes the type of
what is before it; in front it takes the type of the first property that is found behind it. These are
the same, so the two comparisons hold the same constant, and the one is well typed if the other is.

Spaces in the literal are squeezed on both sides. The name of the property has to be one that cannot be
taken for anything else, since there are no quotes for names.

Main statement: `FilterParser.parse_literal_sides`.
-/

namespace RecordFilter

/-! ## Types of operands -/

namespace ValueType

theorem isCompatibleWith_comm (a b : ValueType) : a.isCompatibleWith b = b.isCompatibleWith a := by
  unfold isCompatibleWith
  by_cases ha : a = .null
  · by_cases hb : b = .null
    · rw [ha, hb]
    · rw [if_pos ha, if_neg hb, if_pos ha]
  · by_cases hb : b = .null
    · rw [if_neg ha, if_pos hb, if_pos hb]
    · rw [if_neg ha, if_neg hb, if_neg hb, if_neg ha, Bool.and_comm]
      simp only [eq_comm]

theorem fields?_eq_none_of_isNumeric {type : ValueType} (h : type.isNumeric = true) :
    type.fields? = none := by
  unfold isNumeric at h
  unfold fields?
  split at h <;> simp_all

end ValueType

namespace Predicate

/-- The static check of a comparison does not depend on which side is which, unless a record is compared
with something else. -/
theorem operatorType_mirror {op : Comparison} {a b : ValueType}
    (h : a.isCompatibleWith b = true → a.fields?.isSome = b.fields?.isSome) :
    operatorType (.comparison op.mirror) b a = .ok .boolean ↔
      operatorType (.comparison op) a b = .ok .boolean := by
  unfold operatorType
  simp only [op.isOrdered_mirror, b.isCompatibleWith_comm a]
  cases hcompatible : a.isCompatibleWith b with
  | false => simp
  | true =>
    rw [h hcompatible]
    split <;> simp

end Predicate

namespace Filter

/-! ## Types of literals -/

namespace Literal

/-- The types that a literal can have where a type is expected: the expected one, or one of its own. The
bare null has one of its own only where null is not expected. -/
def Suits (expected type : ValueType) : Prop :=
  type = expected ∨ (type.fields? = none ∧ (type = .null → expected.acceptsNull = false))

variable {culture : Culture} {newGuid : Guid} {type : ValueType} {t : Text} {q : Predicate}

theorem suits_expectedOr {value : Value} {other : ValueType} (h : Denotes culture t value other) :
    Suits type (expectedOr (some type) other) := by
  have hfields : other.fields? = none := by cases h <;> rfl
  have hnull : other ≠ .null := by cases h <;> simp
  unfold expectedOr
  by_cases hsame : type.underlying = other
  · exact .inl (by simp [Option.filter, hsame])
  · exact .inr (by simp [Option.filter, hsame, hfields, hnull])

theorem StandsFor.suits (h : StandsFor culture (some type) t q) : Suits type q.type := by
  cases h with
  | null =>
    by_cases hnull : type.acceptsNull = true
    · exact .inl (by simp [Predicate.type, Option.filter, hnull])
    · refine .inr ⟨?_, fun _ => by simpa using hnull⟩
      simp [Predicate.type, Option.filter, hnull, ValueType.fields?, ValueType.underlying]
  | boolean => exact .inr ⟨rfl, fun h => by cases h⟩
  | string => exact .inr ⟨rfl, fun h => by cases h⟩
  | marked _ h => exact suits_expectedOr h
  | expected hexpected _ =>
    cases hexpected
    exact .inl rfl
  | inferred hexpected _ => cases hexpected

/-- A literal that can be compared with a value of the expected type is a record only if that is one. -/
theorem Suits.fields?_isSome {other : ValueType} (h : Suits type other)
    (hcompatible : type.isCompatibleWith other = true) :
    type.fields?.isSome = other.fields?.isSome := by
  rcases h with rfl | ⟨hfields, hnull⟩
  · rfl
  · rw [hfields]
    unfold ValueType.isCompatibleWith at hcompatible
    split at hcompatible
    · rename_i heq
      rw [heq]
      rfl
    · split at hcompatible
      · rw [hnull ‹_›] at hcompatible
        cases hcompatible
      · rw [Bool.or_eq_true, Bool.and_eq_true, decide_eq_true_eq] at hcompatible
        rcases hcompatible with ⟨hnumeric, -⟩ | hsame
        · rw [ValueType.fields?_eq_none_of_isNumeric hnumeric]
        · rw [← hfields, ValueType.fields?, ValueType.fields?, hsame]

end Literal

/-! ## Texts of literals -/

/-- A text without parentheses and without operators outside of its quotes, which it closes. No property is
found in it when its runs of spaces are squeezed. There may be blanks around it. -/
structure IsLiteralText (schema : RecordType) (t : Text) : Prop where
  notBlank : Text.isBlank t = false
  plain : ∀ c ∈ t, c ≠ '(' ∧ c ≠ ')'
  closed : Nesting.start.advance t = .start
  operatorFree : OperatorFree .start (Text.words (Text.trim t))
  noProperty : FilterParser.firstProperty? schema (Text.squeeze t) = none

namespace IsLiteralText

variable {schema : RecordType} {t : Text}

theorem isSide (h : IsLiteralText schema t) : IsSide t :=
  ⟨h.notBlank, depthAfter?_of_plain h.plain 0, h.closed, h.operatorFree⟩

theorem noParens (h : IsLiteralText schema t) : '(' ∉ Text.squeeze (Text.trim t) :=
  fun hmem => (h.plain _ (Text.mem_of_mem_trim (Text.mem_squeeze hmem))).1 rfl

/-- The scanner squeezes the text and leaves it whole. -/
theorem isAtom (h : IsLiteralText schema t) : IsAtom (Text.squeeze (Text.trim t)) := by
  refine ⟨?_, ?_, fun hhead => h.noParens (List.mem_of_mem_head? hhead)⟩
  · rw [← Text.trim_squeeze]
    refine .of_trim fun hnil => ?_
    rw [← Text.isBlank_iff_trim, Text.isBlank_squeeze, h.notBlank] at hnil
    cases hnil
  · rw [Text.words_squeeze]
    exact h.operatorFree

theorem firstProperty?_eq (h : IsLiteralText schema t) :
    FilterParser.firstProperty? schema (Text.squeeze (Text.trim t)) = none := by
  rw [← h.noProperty]
  refine FilterParser.firstProperty?_congr schema ?_
  rw [Text.trim_squeeze, Text.trim_squeeze, Text.trim_trim]

end IsLiteralText

/-- A text that names a property and cannot be taken for anything else: the scanner leaves it whole, and it
is no string in quotes, no call and no construction. There are no quotes for names, so a name may be none
of these texts. -/
structure IsPropertyText (schema : RecordType) (path : PropertyPath) (type : ValueType) (t : Text) : Prop
    extends IsOperand t where
  resolves : schema.resolvePath? t = some (path, type)
  notQuoted : quoted? t = none
  noCall : functionCall? t = none
  noConstruction : construction? t = none

namespace IsPropertyText

variable {schema : RecordType} {path : PropertyPath} {type : ValueType} {t : Text}

theorem isSide (h : IsPropertyText schema path type t) : IsSide t :=
  ⟨h.trimmed.isBlank_eq, h.nested.balanced, h.nested.closed,
    by rw [h.trimmed.trim_eq]; exact h.operators⟩

theorem squeeze_trim (h : IsPropertyText schema path type t) : Text.squeeze (Text.trim t) = t := by
  rw [h.trimmed.trim_eq, h.squeezed]

theorem firstProperty?_eq (h : IsPropertyText schema path type t) :
    FilterParser.firstProperty? schema t = some (path, type) := by
  rw [FilterParser.firstProperty?_atom _ h.toIsAtom, h.resolves]

/-- A name without operators, quotes and parentheses is such a text. -/
theorem of_plain (hname : IsPlainOperand t) (hresolve : schema.resolvePath? t = some (path, type)) :
    IsPropertyText schema path type t := by
  have hparen : '(' ∉ t := fun hmem => (hname.plain _ hmem).2.1 rfl
  exact {
    toIsOperand := hname.isOperand
    resolves := hresolve
    notQuoted := quoted?_eq_none_of_head fun c hc => (hname.plain c (List.mem_of_mem_head? hc)).1
    noCall := FilterParser.functionCall?_eq_none_of_plain hparen
    noConstruction := FilterParser.construction?_eq_none_of_plain hparen }

end IsPropertyText

end Filter

namespace FilterParser

open RecordFilter.Filter

variable {p : FilterParser} {newGuid : Guid}

/-! ## Comparisons by themselves -/

theorem combine_comparison_iff {op : Comparison} {a b q : Predicate} :
    Predicate.combine (.comparison op) a b = .ok q ↔
      Predicate.operatorType (.comparison op) a.type b.type = .ok .boolean ∧
        .binary (.comparison op) a b .boolean = q := by
  constructor
  · intro h
    obtain ⟨type, htype, hq⟩ := Except.map_eq_ok_iff.1 h
    rw [combine_comparison h] at hq ⊢
    cases hq
    exact ⟨htype, rfl⟩
  · rintro ⟨htype, rfl⟩
    exact Except.map_eq_ok_iff.2 ⟨_, htype, rfl⟩

/-- A comparison is read as its sides are by themselves, without runs of spaces and blanks around them. The
left one takes the type of the first property on either side, the right one that of the left one. -/
theorem parse_comparison_iff {op : Comparison} {left right : Text} (hleft : IsSide left)
    (hright : IsSide right)
    (hpresent : ∀ expected, p.parseExpression newGuid (Text.squeeze (Text.trim right)) expected ≠ .ok none)
    {q : Option Predicate} :
    p.parse newGuid (comparisonText op left right) = .ok q ↔
      ∃ a b,
        p.parseExpression newGuid (Text.squeeze (Text.trim left))
          (((firstProperty? p.schema (Text.squeeze (Text.trim left))).or
            (firstProperty? p.schema (Text.squeeze (Text.trim right)))).map Prod.snd) = .ok (some a) ∧
        p.parseExpression newGuid (Text.squeeze (Text.trim right)) (some a.type) = .ok (some b) ∧
        Predicate.operatorType (.comparison op) a.type b.type = .ok .boolean ∧
        q = some (.binary (.comparison op) a b .boolean) := by
  have hblank : Text.isBlank (comparisonSet op left right).left = false := by
    simp [comparisonSet, hleft.notBlank]
  have hsets := tokenize_comparisonText_continued op hleft hright .nil
  rw [List.append_nil] at hsets
  have hscope : (scopeType? p.schema (comparisonSet op left right)).or none
      = ((firstProperty? p.schema (Text.squeeze (Text.trim left))).or
        (firstProperty? p.schema (Text.squeeze (Text.trim right)))).map Prod.snd := by
    rw [Option.or_none]
    exact if_neg (by simp [comparisonSet, (isOperation_comparison op).2.1])
  obtain ⟨n, hn⟩ := exists_bound [comparisonSet op left right]
  have hread := p.parseExpression_of_trimmed_sets newGuid none []
    (by rw [hsets, List.map_singleton, trim_comparisonSet]) (by simp) hn
  have hoperate : ∀ {a b q}, operate (comparisonSet op left right) a b = .ok q ↔
      Predicate.combine (.comparison op) a b = .ok q := operate_of_keyword (ofKeyword?_comparison op)
  rw [parse_eq_ok_iff, hread, foldSets_operand hblank, hscope]
  simp only [operand_eq_ok_iff, extend_none, foldSets_nil, Except.ok.injEq, hoperate,
    combine_comparison_iff]
  constructor
  · rintro ⟨⟨_, _, ⟨a, ha, ⟨hnone, -⟩ | ⟨b, hb, hfits, rfl⟩⟩, rfl, rfl⟩, -⟩
    · exact absurd hnone (hpresent _)
    · exact ⟨a, b, ha, hb, hfits, rfl⟩
  · rintro ⟨a, b, ha, hb, hfits, rfl⟩
    refine ⟨⟨_, _, ⟨a, ha, .inr ⟨b, hb, hfits, rfl⟩⟩, rfl, rfl⟩, ?_⟩
    rintro _ ⟨⟩
    rfl

/-! ## Literals in comparisons -/

section Literals

variable {path : PropertyPath} {type : ValueType} {name literal : Text}

/-- A literal beside a property is a constant, and its type is the one of the property or one of its own. -/
theorem constant_of_parseExpression (h : IsLiteralText p.schema literal) {q : Predicate}
    (hq : p.parseExpression newGuid (Text.squeeze (Text.trim literal)) (some type) = .ok (some q)) :
    ∃ value own, q = .constant value own ∧ Literal.Suits type own := by
  have hliteral : q.IsTypedConstant ∧ Literal.Suits type q.type := by
    rw [parseExpression_atom h.isAtom] at hq
    obtain ⟨_, hatom, hsome⟩ := Except.map_eq_ok_iff.1 hq
    cases hsome
    have hstands : ∃ t, Literal.StandsFor p.options.culture (some type) t q := by
      cases isAtomRead_of_atom hatom with
      | quoted _ hread => exact ⟨_, Literal.standsFor_of_ofQuoted hread⟩
      | construction _ hread =>
        rw [construction?_eq_none (construction?_eq_none_of_plain h.noParens)] at hread
        cases hread
      | call _ _ hread =>
        rw [functionCall?_eq_none_iff.2 (functionCall?_eq_none_of_plain h.noParens)] at hread
        cases hread
      | property _ _ _ hproperty =>
        rw [h.firstProperty?_eq] at hproperty
        cases hproperty
      | known _ _ _ _ hread => exact ⟨_, Literal.standsFor_of_known hread⟩
      | fallback _ _ _ _ _ hread => exact ⟨_, Literal.standsFor_of_fallback hread⟩
    obtain ⟨_, hstands⟩ := hstands
    exact ⟨hstands.isTypedConstant, hstands.suits⟩
  obtain ⟨⟨value, own, rfl, -⟩, hsuits⟩ := hliteral
  exact ⟨value, own, rfl, hsuits⟩

/-- The name of a property is read as the property, whatever type is expected. -/
theorem parseExpression_propertyText (hname : IsPropertyText p.schema path type name)
    (expected : Option ValueType) :
    p.parseExpression newGuid name expected = .ok (some (.property path type)) := by
  rw [parseExpression_atom hname.toIsAtom]
  unfold atom
  simp only [hname.notQuoted, construction?_eq_none hname.noConstruction,
    functionCall?_eq_none_iff.2 hname.noCall, hname.firstProperty?_eq]
  rfl

variable (hname : IsPropertyText p.schema path type name) (hliteral : IsLiteralText p.schema literal)

include hname hliteral

/-- Behind a property a literal takes the type of the property. -/
theorem parse_property_literal_iff {op : Comparison} {q : Option Predicate} :
    p.parse newGuid (comparisonText op name literal) = .ok q ↔
      ∃ b, p.parseExpression newGuid (Text.squeeze (Text.trim literal)) (some type) = .ok (some b) ∧
        Predicate.operatorType (.comparison op) type b.type = .ok .boolean ∧
        q = some (.binary (.comparison op) (.property path type) b .boolean) := by
  have hpresent : ∀ expected,
      p.parseExpression newGuid (Text.squeeze (Text.trim literal)) expected ≠ .ok none :=
    fun _ => parseExpression_atom_ne_none hliteral.isAtom
  rw [parse_comparison_iff hname.isSide hliteral.isSide hpresent, hname.squeeze_trim]
  simp only [parseExpression_propertyText hname, Except.ok.injEq, Option.some.injEq, exists_and_left,
    exists_eq_left', Predicate.type]

/-- In front of a property a literal takes the type of the property. -/
theorem parse_literal_property_iff {op : Comparison} {q : Option Predicate} :
    p.parse newGuid (comparisonText op literal name) = .ok q ↔
      ∃ a, p.parseExpression newGuid (Text.squeeze (Text.trim literal)) (some type) = .ok (some a) ∧
        Predicate.operatorType (.comparison op) a.type type = .ok .boolean ∧
        q = some (.binary (.comparison op) a (.property path type) .boolean) := by
  have hpresent : ∀ expected,
      p.parseExpression newGuid (Text.squeeze (Text.trim name)) expected ≠ .ok none := by
    rw [hname.squeeze_trim]
    exact fun _ => parseExpression_atom_ne_none hname.toIsAtom
  have hscope : ((firstProperty? p.schema (Text.squeeze (Text.trim literal))).or
      (firstProperty? p.schema name)).map Prod.snd = some type := by
    rw [hliteral.firstProperty?_eq, hname.firstProperty?_eq]
    rfl
  rw [parse_comparison_iff hliteral.isSide hname.isSide hpresent, hname.squeeze_trim, hscope]
  simp only [parseExpression_propertyText hname, Except.ok.injEq, Option.some.injEq, exists_and_left,
    exists_eq_left', Predicate.type]

/-- A literal is read as the same constant on either side of a property, and a comparison with it is
accepted if and only if the mirrored one is. -/
theorem parse_literal_sides (op : Comparison) :
    ((∃ q, p.parse newGuid (comparisonText op name literal) = .ok q) ↔
      ∃ q, p.parse newGuid (comparisonText op.mirror literal name) = .ok q) ∧
    ∀ q q', p.parse newGuid (comparisonText op name literal) = .ok q →
      p.parse newGuid (comparisonText op.mirror literal name) = .ok q' →
      ∃ value own,
        q = some (.binary (.comparison op) (.property path type) (.constant value own) .boolean) ∧
        q' = some (.binary (.comparison op.mirror) (.constant value own) (.property path type) .boolean) := by
  have hfits : ∀ {b},
      p.parseExpression newGuid (Text.squeeze (Text.trim literal)) (some type) = .ok (some b) →
      (Predicate.operatorType (.comparison op.mirror) b.type type = .ok .boolean ↔
        Predicate.operatorType (.comparison op) type b.type = .ok .boolean) := by
    intro b hb
    obtain ⟨value, own, rfl, hsuits⟩ := constant_of_parseExpression hliteral hb
    exact Predicate.operatorType_mirror hsuits.fields?_isSome
  simp only [parse_property_literal_iff hname hliteral, parse_literal_property_iff hname hliteral]
  refine ⟨⟨?_, ?_⟩, ?_⟩
  · rintro ⟨_, b, hb, hfit, -⟩
    exact ⟨_, b, hb, (hfits hb).2 hfit, rfl⟩
  · rintro ⟨_, b, hb, hfit, -⟩
    exact ⟨_, b, hb, (hfits hb).1 hfit, rfl⟩
  · rintro _ _ ⟨b, hb, -, rfl⟩ ⟨b', hb', -, rfl⟩
    rw [hb] at hb'
    cases hb'
    obtain ⟨value, own, rfl, -⟩ := constant_of_parseExpression hliteral hb
    exact ⟨value, own, rfl, rfl⟩

end Literals

/-- A string with an operator and two spaces in it, in front of a name and behind it. -/
theorem parse_literal_sides_items :
    ∃ q q', items.parse .nil "Name le 'x and  y'".toList = .ok q ∧
      items.parse .nil "'x and  y' ge Name".toList = .ok q' ∧
      ∃ value own,
        q = some (.binary (.comparison .le) (.property ⟨["Name"]⟩ .string) (.constant value own) .boolean) ∧
        q' = some (.binary (.comparison .ge) (.constant value own) (.property ⟨["Name"]⟩ .string)
          .boolean) := by
  have hname : IsPropertyText items.schema ⟨["Name"]⟩ .string "Name".toList :=
    .of_plain (.of_word (by decide) (by decide) (by decide) (by decide)) (by decide)
  have hliteral : IsLiteralText items.schema "'x and  y'".toList :=
    ⟨by decide, by decide, by decide, by decide, by decide +kernel⟩
  obtain ⟨hboth, hsame⟩ := parse_literal_sides hname hliteral .le
  have haccepted : ∃ q, items.parse .nil (comparisonText .le "Name".toList "'x and  y'".toList) = .ok q := by
    obtain ⟨q, hq⟩ : ∃ q, items.parse .nil "Name le 'x and  y'".toList = .ok (some q) :=
      Except.exists_of_isSome_join (by decide +kernel)
    exact ⟨some q, hq⟩
  obtain ⟨q, hq⟩ := haccepted
  obtain ⟨q', hq'⟩ := hboth.1 ⟨q, hq⟩
  exact ⟨q, q', hq, hq', hsame q q' hq hq'⟩

/-- Fields whose names hold a quote mark and a space. -/
def oddNames : FilterParser where
  schema := ⟨"Item", [("Id", .int32), ("a b", .int32), ("it's", .int32)]⟩

/-- A quote mark in a name hides what is behind it, and a name with a space is found in a text with two of
them once it is squeezed. -/
theorem parse_literal_sides_oddNames :
    (oddNames.schema.resolvePath? "it's".toList = some (⟨["it's"]⟩, .int32) ∧
      IsLiteralText oddNames.schema "5".toList ∧
      (∀ q, oddNames.parse .nil "it's eq 5".toList ≠ .ok q) ∧
      ∃ q, oddNames.parse .nil "5 eq it's".toList = .ok (some q)) ∧
    firstProperty? oddNames.schema "a  b".toList = none ∧
    oddNames.parse .nil "Id eq a  b".toList
      = .ok (some (.binary (.comparison .eq) (.property ⟨["Id"]⟩ .int32) (.property ⟨["a b"]⟩ .int32)
        .boolean)) := by
  refine ⟨⟨by decide, ⟨by decide, by decide, by decide, by decide, by decide +kernel⟩, ?_, ?_⟩,
    by decide +kernel, ?_⟩
  · intro q hq
    have hnone : (oddNames.parse .nil "it's eq 5".toList).toOption.isSome = false := by decide +kernel
    rw [hq] at hnone
    cases hnone
  · exact Except.exists_of_isSome_join (by decide +kernel)
  · have hid : IsPropertyText oddNames.schema ⟨["Id"]⟩ .int32 "Id".toList :=
      .of_plain (.of_word (by decide) (by decide) (by decide) (by decide)) (by decide)
    have hspaced : IsPropertyText oddNames.schema ⟨["a b"]⟩ .int32 "a b".toList :=
      .of_plain ⟨⟨⟨⟨'a', rfl, rfl⟩, ⟨'b', rfl, rfl⟩⟩, by decide, by decide⟩, by decide, by decide⟩
        (by decide)
    have hside : IsSide "a  b".toList := ⟨by decide, by decide, by decide, by decide⟩
    have hright : Text.squeeze (Text.trim "a  b".toList) = "a b".toList := by decide
    show oddNames.parse .nil (comparisonText .eq "Id".toList "a  b".toList) = _
    refine (parse_comparison_iff hid.isSide hside ?_).2
      ⟨.property ⟨["Id"]⟩ .int32, .property ⟨["a b"]⟩ .int32, ?_, ?_, rfl, rfl⟩
    · rw [hright]
      exact fun _ => parseExpression_atom_ne_none hspaced.toIsAtom
    · exact parseExpression_propertyText hid _
    · rw [hright]
      exact parseExpression_propertyText hspaced _

end FilterParser
end RecordFilter
