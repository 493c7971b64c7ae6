import RecordFilter.Proofs.Equivalence
import RecordFilter.Proofs.NumericTexts

/-!
# Printing and parsing numeric expressions

A comparison of two numeric expressions is written with the digits of its constants. When the text is
read, a constant gets its kind from its place: from the first property that the parser sees in the
expression around it, from the type of the operand on its left, or from its digits. The comparison is read
back if and only if this is the kind that each constant has (`Predicate.keepsKinds`). Else a constant is
read as another number or not at all: the double in `(5.0 div 2) eq length(Name)` is written as `5`, and
dividing two integers gives another result.

The induction goes over the expression. Each step knows the text of the expression, the first property
that is seen in it, and that for every type that is expected the text is read back if and only if the
constants keep their kinds there (`NumericReads`).

Main statement: `parse_render_numeric`.
-/

namespace RecordFilter

/-- Whether the function rounds a number. -/
def Function.isRounding : Function → Bool
  | round | floor | ceiling => true
  | _ => false

namespace Predicate

/-! ## Numeric expressions -/

/-- Whether an expression is numeric: arithmetic over numeric properties, finite numbers, lengths of string
properties and rounded numeric expressions. -/
def isNumericExpression : Predicate → Bool
  | .property _ type => type.isNumeric
  | .constant value _ => value.isFiniteNumber
  | .binary (.arithmetic _) left right _ => left.isNumericExpression && right.isNumericExpression
  | .call .length [.property _ own] _ => own.isString
  | .call function [argument] _ => function.isRounding && argument.isNumericExpression
  | _ => false

/-- Whether a predicate is a comparison of two numeric expressions. -/
def isNumericComparison : Predicate → Bool
  | .binary (.comparison _) left right _ => left.isNumericExpression && right.isNumericExpression
  | _ => false

/-- The type of the first property that the parser sees in the text of an expression. It does not look
into calls. -/
def leadingKind? : Predicate → Option ValueType
  | .property _ type => some type.underlying
  | .binary _ left right _ => left.leadingKind?.or right.leadingKind?
  | _ => none

/-- Whether every constant has the kind that the parser gives it at its place, where a type is expected
of the whole expression or not. The left operand takes the type of the first property on either side, and
the right operand the type of the left one. -/
def keepsKinds (expected : Option ValueType) : Predicate → Bool
  | .constant value _ => expected.getD value.spelledKind = naturalType value
  | .binary _ left right _ =>
    let scope := (left.leadingKind?.or right.leadingKind?).or expected
    keepsKinds scope left && keepsKinds (some left.type.underlying) right
  | .call _ [argument] _ => keepsKinds (argument.leadingKind?.or expected) argument
  | _ => true

/-- Whether two expressions are the same up to null in the types of their nodes. -/
inductive UpToNull : Predicate → Predicate → Prop
  | property (path : PropertyPath) {a b : ValueType} (h : a.underlying = b.underlying) :
      UpToNull (.property path a) (.property path b)
  | constant (value : Value) {a b : ValueType} (h : a.underlying = b.underlying) :
      UpToNull (.constant value a) (.constant value b)
  | binary (op : BinaryOperator) {left right left' right' : Predicate} {a b : ValueType}
      (hleft : UpToNull left left') (hright : UpToNull right right') (h : a.underlying = b.underlying) :
      UpToNull (.binary op left right a) (.binary op left' right' b)
  | call (function : Function) {argument argument' : Predicate} {a b : ValueType}
      (hargument : UpToNull argument argument') (h : a.underlying = b.underlying) :
      UpToNull (.call function [argument] a) (.call function [argument'] b)

namespace UpToNull

variable {p q : Predicate}

theorem underlying_eq (h : UpToNull p q) : p.type.underlying = q.type.underlying := by
  cases h <;> assumption

/-- Null in a type does not change what an expression means. -/
theorem sameValue (h : UpToNull p q) : SameValue p q := by
  induction h with
  | property path h =>
    intro flagsMatch record
    rw [Evaluation.value_property, Evaluation.value_property]
  | constant value h =>
    intro flagsMatch record
    rw [Evaluation.value_constant, Evaluation.value_constant]
  | binary op hleft hright h ihleft ihright =>
    have hflags := hasFlagsType_of_underlying hleft.underlying_eq
    intro flagsMatch record
    cases op <;> rw [Evaluation.value, Evaluation.value, ihleft, ihright]
    rw [hflags]
  | call function hargument h ih =>
    intro flagsMatch record
    rw [Evaluation.value, Evaluation.value]
    simp only [Evaluation.values, ih flagsMatch record]

theorem tryMatches_eq (h : UpToNull p q) (flagsMatch : FlagsMatch) (record : FieldReader) :
    (CompiledFilter.mk (some p) flagsMatch).tryMatches record
      = (CompiledFilter.mk (some q) flagsMatch).tryMatches record := by
  unfold CompiledFilter.tryMatches
  simp only [h.sameValue flagsMatch record]

end UpToNull

/-! ## Types of numeric expressions -/

section Types

variable {a b type : ValueType}

theorem ne_null_of_isNumeric (h : a.isNumeric = true) : a ≠ .null := by
  rintro rfl
  cases h

/-- Two numeric types are combined to the wider one of them. -/
theorem operatorType_arithmetic (op : Arithmetic) (ha : a.isNumeric = true) (hb : b.isNumeric = true) :
    operatorType (.arithmetic op) a b
      = .ok (ValueType.withNull (a.acceptsNull || b.acceptsNull) (widerType a.underlying b.underlying)) := by
  simp [operatorType, arithmeticType, ha, hb, ne_null_of_isNumeric ha]

theorem isNumeric_widerType (a b : ValueType) : (widerType a b).isNumeric = true := by
  unfold widerType
  split
  · rfl
  · split
    · rfl
    · split <;> rfl

theorem isNumeric_congr (h : a.underlying = b.underlying) : a.isNumeric = b.isNumeric := by
  unfold ValueType.isNumeric
  rw [h]

theorem operatorType_numbers (op : Comparison) (ha : a.isNumeric = true) (hb : b.isNumeric = true) :
    operatorType (.comparison op) a b = .ok .boolean := by
  have hfields : a.fields? = none := by
    unfold ValueType.fields?
    split
    · rename_i hrecord
      rw [ValueType.isNumeric, hrecord] at ha
      cases ha
    · rfl
  have hcompatible : a.isCompatibleWith b = true := by
    rw [ValueType.isCompatibleWith, if_neg (ne_null_of_isNumeric ha), if_neg (ne_null_of_isNumeric hb),
      ha, hb]
    rfl
  simp [operatorType, hcompatible, hfields]

/-- Operators between numbers take types that differ in null, and their result differs in null only. -/
theorem exists_operatorType {op : BinaryOperator} (hop : op.isConnective = false) {a' b' : ValueType}
    (ha : a.isNumeric = true) (hb : b.isNumeric = true) (hleft : a'.underlying = a.underlying)
    (hright : b'.underlying = b.underlying) (h : operatorType op a b = .ok type) :
    ∃ type', operatorType op a' b' = .ok type' ∧ type'.underlying = type.underlying := by
  have ha' : a'.isNumeric = true := (isNumeric_congr hleft).trans ha
  have hb' : b'.isNumeric = true := (isNumeric_congr hright).trans hb
  cases op with
  | comparison op =>
    rw [operatorType_numbers op ha hb] at h
    cases h
    exact ⟨_, operatorType_numbers op ha' hb', rfl⟩
  | arithmetic op =>
    rw [operatorType_arithmetic op ha hb] at h
    cases h
    refine ⟨_, operatorType_arithmetic op ha' hb', ?_⟩
    rw [ValueType.underlying_withNull, ValueType.underlying_withNull, hleft, hright]
  | connective op => cases hop

theorem resultType_length (h : a.isString = true) : Function.length.resultType [a] = .ok .int32 := by
  simp [Function.resultType, Function.arity, Function.parameterKinds, Function.checkKinds,
    Function.ArgumentKind.admits, h, Function.returnType, Except.map]

theorem cases_of_isRounding {function : Function} (h : function.isRounding = true) :
    function = .round ∨ function = .floor ∨ function = .ceiling := by
  cases function <;> first | decide | cases h

/-- Rounding keeps decimals and gives doubles otherwise, whether or not there may be null. -/
theorem resultType_rounding {function : Function} (hfunction : function.isRounding = true)
    (h : a.isNumeric = true) :
    function.resultType [a] = .ok (if a.underlying = .decimal then .decimal else .double) := by
  have hreturn : function.returnType [a] = if a.underlying = .decimal then .decimal else .double := by
    rcases cases_of_isRounding hfunction with rfl | rfl | rfl <;>
      simp only [Function.returnType, List.head?_cons, Option.map_some] <;>
        cases a.underlying <;> rfl
  have hcheck : function.checkKinds [.numeric] [a] = .ok () := by
    simp [Function.checkKinds, Function.ArgumentKind.admits, h]
  rw [Function.resultType, hreturn]
  rcases cases_of_isRounding hfunction with rfl | rfl | rfl <;>
    simp [Function.arity, Function.parameterKinds, hcheck, Except.map]

end Types

section Typed

variable {registry : TypeRegistry} {schema : RecordType}

/-- A number of a type is of the kind that is under the type. -/
theorem underlying_of_inhabits {value : Value} (hvalue : value.isFiniteNumber = true) {type : ValueType}
    (h : value.Inhabits type) : type.underlying = naturalType value := by
  rw [← Value.inhabits_underlying] at h
  have hnullable := Value.underlying_ne_nullable type
  generalize type.underlying = kind at *
  cases h with
  | nullable _ => exact absurd rfl (hnullable _)
  | _ => first | rfl | cases hvalue

/-- The type of a numeric expression is numeric. -/
theorem isNumeric_type {q : Predicate} (h : q.isNumericExpression = true)
    (htyped : WellTyped registry schema q) : q.type.isNumeric = true := by
  fun_induction isNumericExpression q with
  | case1 path type => exact h
  | case2 value type =>
    -- a constant is of the type of its value up to null
    cases htyped with
    | constant hin =>
      show type.isNumeric = true
      rw [ValueType.isNumeric, underlying_of_inhabits h hin]
      cases value <;> first | rfl | cases h
  | case3 op left right type ihleft ihright =>
    -- arithmetic is of the wider type of its operands
    obtain ⟨hleft, hright⟩ := Bool.and_eq_true_iff.1 h
    cases htyped with
    | binary hl hr hfits =>
      rw [operatorType_arithmetic op (ihleft hleft hl) (ihright hright hr)] at hfits
      cases hfits
      exact (isNumeric_congr (ValueType.underlying_withNull _ _)).trans (isNumeric_widerType _ _)
  | case4 path own type =>
    -- a length is an integer
    cases htyped with
    | call harguments hfits =>
      have hresult := (resultType_length h).symm.trans hfits
      cases hresult
      rfl
  | case5 function argument type _ ih =>
    -- a rounded number is a decimal or a double
    obtain ⟨hfunction, hargument⟩ := Bool.and_eq_true_iff.1 h
    cases htyped with
    | call harguments hfits =>
      have hnumeric := ih hargument (harguments _ List.mem_cons_self)
      have hresult := (resultType_rounding hfunction hnumeric).symm.trans hfits
      cases hresult
      show ValueType.isNumeric (if _ then _ else _) = true
      split <;> rfl
  | case6 => cases h

end Typed

end Predicate

namespace FilterParser

open RecordFilter.Filter Predicate Dialect

variable {p : FilterParser} {newGuid : Guid} {q left right : Predicate} {t u : Text}

/-! ## Expressions -/

/-- The text of an expression, the first property that is seen in it, and what it is read as. -/
structure NumericReads (p : FilterParser) (newGuid : Guid) (q : Predicate) (t : Text) : Prop where
  written : odata.visit true (!q.isAtomic) q = .ok t
  piece : IsPiece t
  noComma : ',' ∉ t
  first : (firstProperty? p.schema t).map (fun found => found.2.underlying) = q.leadingKind?
  present : ∀ expected, p.parseExpression newGuid t expected ≠ .ok none
  reads : ∀ expected, (∃ found, p.parseExpression newGuid t expected = .ok (some found) ∧ found.UpToNull q) ↔
    q.keepsKinds (expected.map ValueType.underlying) = true

theorem noComma_operatorText (op : BinaryOperator) (ht : ',' ∉ t) (hu : ',' ∉ u) :
    ',' ∉ operatorText op t u := by
  have hkeyword : ',' ∉ op.keyword.toList := by
    cases op with
    | comparison op => cases op <;> decide
    | connective op => cases op <;> decide
    | arithmetic op => cases op <;> decide
  simp [operatorText, ht, hu, hkeyword]

theorem noComma_unaryText (function : Function) (ht : ',' ∉ t) : ',' ∉ unaryText function t := by
  have hname : ',' ∉ function.name.toList := by
    cases function <;> decide
  simp [unaryText, ht, hname]

/-- A call is written with the text of its argument in parentheses. -/
theorem visit_unary (function : Function) (hq : odata.visit true (!q.isAtomic) q = .ok t)
    (bracket : Bool) (type : ValueType) :
    odata.visit true bracket (.call function [q] type) = .ok (unaryText function t) := by
  have harguments : visitAll odata [q] = .ok [t] := by
    rw [visitAll, visitAll, hq]
    rfl
  rw [visit, harguments]
  show Except.ok (if function.isStringMatch && !true then _ else _) = _
  rw [Bool.not_true, Bool.and_false]
  rfl

/-- An operator between two expressions is read back if and only if both are, where the types of the
first property and of the left side are expected. -/
theorem reads_operator (op : BinaryOperator) (hop : op.isConnective = false)
    (hleft : NumericReads p newGuid left t) (hright : NumericReads p newGuid right u)
    (hnumeric : left.type.isNumeric = true ∧ right.type.isNumeric = true) {type : ValueType}
    (hfits : operatorType op left.type right.type = .ok type) (expected : Option ValueType) :
    (∃ found, p.parseExpression newGuid (operatorText op t u) expected = .ok (some found) ∧
      found.UpToNull (.binary op left right type)) ↔
    keepsKinds (expected.map ValueType.underlying) (.binary op left right type) = true := by
  -- the types that are expected of the sides, up to null
  have hscope : ((scopeType? p.schema ⟨t, op.keyword.toList, u⟩).or expected).map ValueType.underlying
      = (left.leadingKind?.or right.leadingKind?).or (expected.map ValueType.underlying) := by
    unfold scopeType?
    rw [if_neg (by simp [(isOperation_operator op hop).2.1]), ← hleft.first, ← hright.first]
    simp only [Option.map_or, Option.map_map]
    rfl
  have hkeeps : keepsKinds (expected.map ValueType.underlying) (.binary op left right type) = true ↔
      left.keepsKinds (((scopeType? p.schema ⟨t, op.keyword.toList, u⟩).or expected).map
        ValueType.underlying) = true ∧
      right.keepsKinds (some left.type.underlying) = true := by
    rw [keepsKinds, Bool.and_eq_true, hscope]
  rw [hkeeps, ← hleft.reads]
  constructor
  · rintro ⟨found, hfound, hsame⟩
    obtain ⟨a, b, ha, hb, hcombine⟩ :=
      (parseExpression_operator_iff op hop hleft.piece hright.piece hright.present).1 hfound
    obtain ⟨own, -, rfl⟩ := Except.map_eq_ok_iff.1 hcombine
    cases hsame with
    | binary _ hsameleft hsameright _ =>
      refine ⟨⟨a, ha, hsameleft⟩, ?_⟩
      rw [← hsameleft.underlying_eq]
      exact (hright.reads (some a.type)).1 ⟨b, hb, hsameright⟩
  · rintro ⟨⟨a, ha, hsameleft⟩, hkeep⟩
    rw [← hsameleft.underlying_eq] at hkeep
    obtain ⟨b, hb, hsameright⟩ := (hright.reads (some a.type)).2 hkeep
    obtain ⟨own, hown, hunderlying⟩ := exists_operatorType hop hnumeric.1 hnumeric.2
      hsameleft.underlying_eq hsameright.underlying_eq hfits
    refine ⟨.binary op a b own, ?_, .binary op hsameleft hsameright hunderlying⟩
    refine (parseExpression_operator_iff op hop hleft.piece hright.piece hright.present).2
      ⟨a, b, ha, hb, ?_⟩
    rw [combine, hown]
    rfl

namespace NumericReads

theorem property (hnamed : p.schema.isWellNamed = true) {path : PropertyPath} {type : ValueType}
    (hresolve : p.schema.resolveSegments? path.segments = some (path, type)) :
    NumericReads p newGuid (.property path type) path.render.toList := by
  have hoperand := isOperand_path hnamed hresolve
  obtain ⟨-, -, -, hnames⟩ := RecordType.wellNamed_of_resolveSegments? hnamed hresolve
  refine ⟨rfl, hoperand.isPiece, fun hmem => ?_, ?_, fun expected => ?_, fun expected => ?_⟩
  · rcases PropertyPath.mem_render hnames hmem with hc | hc <;> exact absurd hc (by decide)
  · rw [firstProperty?_atom _ hoperand.toIsAtom, RecordType.resolvePath?_render hnamed hresolve]
    rfl
  · exact parseExpression_atom_ne_none hoperand.toIsAtom
  · have hread : p.parseExpression newGuid path.render.toList expected = .ok (some (.property path type)) :=
      parseExpression_path hnamed hresolve
    exact ⟨fun _ => rfl, fun _ => ⟨_, hread, .property path rfl⟩⟩

theorem constant (hoptions : p.options = {}) (hnamed : p.schema.isWellNamed = true) {value : Value}
    {type : ValueType} (hvalue : value.isFiniteNumber = true)
    (hdecimal : ∀ d, value = .decimal d → d.isCanonical = true)
    (htype : type.underlying = naturalType value) :
    NumericReads p newGuid (.constant value type) value.numberText := by
  have hnumeral := isNumeral_numberText hvalue
  have hoperand := isOperand_numeral hnumeral
  refine ⟨odataLiteral_number hvalue, hoperand.isPiece, hnumeral.not_mem (by decide), ?_,
    fun expected => parseExpression_atom_ne_none hoperand.toIsAtom, fun expected => ?_⟩
  · rw [firstProperty?_atom _ hoperand.toIsAtom, resolvePath?_numeral hnamed hnumeral]
    rfl
  · rw [keepsKinds, decide_eq_true_eq, ← parseExpression_number hoptions hnamed hvalue hdecimal]
    constructor
    · rintro ⟨found, hfound, hsame⟩
      cases hsame with
      | constant _ h => exact ⟨_, h.trans htype, hfound⟩
    · rintro ⟨own, hown, hfound⟩
      exact ⟨_, hfound, .constant value (hown.trans htype.symm)⟩

/-- Arithmetic in parentheses. -/
theorem arithmetic (op : Arithmetic) (hleft : NumericReads p newGuid left t)
    (hright : NumericReads p newGuid right u)
    (hnumeric : left.type.isNumeric = true ∧ right.type.isNumeric = true) {type : ValueType}
    (hfits : operatorType (.arithmetic op) left.type right.type = .ok type) :
    NumericReads p newGuid (.binary (.arithmetic op) left right type)
      ('(' :: operatorText (.arithmetic op) t u ++ [')']) := by
  have hop : (BinaryOperator.arithmetic op).isConnective = false := rfl
  have htext := isFilterText_operatorText (.arithmetic op) hop hleft.piece hright.piece
  have hsame := fun expected => sameResult_enclosedText (p := p) newGuid expected htext
  refine ⟨?_, htext.isPiece_enclosed, ?_, ?_, fun expected hnone => ?_, fun expected => ?_⟩
  · rw [visit, hleft.written, hright.written]
    rfl
  · have hcomma := noComma_operatorText (.arithmetic op) hleft.noComma hright.noComma
    simp [hcomma]
  · rw [firstProperty?_enclosed _ htext, firstProperty?_operatorText _ _ hop hleft.piece hright.piece,
      Option.map_or, hleft.first, hright.first]
    rfl
  · exact parseExpression_operator_ne_none _ hop hleft.piece hright.piece ((hsame expected none).1 hnone)
  · rw [← reads_operator _ hop hleft hright hnumeric hfits expected]
    simp only [hsame expected _]

/-- A call, if its function takes the type of its argument whether or not there may be null. Constants in
the argument take the type of the first property in it, though the expressions around the call do not see
this property. -/
theorem unary (hnamed : p.schema.isWellNamed = true) {function : Function} (h : NumericReads p newGuid q t)
    {type : ValueType} (hfits : ∀ own : ValueType, own.underlying = q.type.underlying →
      function.resultType [own] = .ok type) :
    NumericReads p newGuid (.call function [q] type) (unaryText function t) := by
  have hoperand := isOperand_unaryText function h.piece
  -- the type that is expected of the argument, up to null
  have hscope : ∀ expected : Option ValueType,
      (((firstProperty? p.schema t).map Prod.snd).or expected).map ValueType.underlying
        = q.leadingKind?.or (expected.map ValueType.underlying) := by
    intro expected
    rw [← h.first, Option.map_or, Option.map_map]
    rfl
  refine ⟨visit_unary function h.written _ _, hoperand.isPiece, noComma_unaryText function h.noComma, ?_,
    fun expected => parseExpression_atom_ne_none hoperand.toIsAtom, fun expected => ?_⟩
  · rw [firstProperty?_unaryText hnamed function h.piece]
    rfl
  · rw [keepsKinds, ← hscope, ← h.reads]
    constructor
    · rintro ⟨found, hfound, hsame⟩
      obtain ⟨a, ha, happly⟩ := (parseExpression_call_iff _ h.piece h.noComma).1 hfound
      obtain ⟨own, -, rfl⟩ := Except.map_eq_ok_iff.1 happly
      cases hsame with
      | call _ hargument _ => exact ⟨a, ha, hargument⟩
    · rintro ⟨a, ha, hsame⟩
      refine ⟨.call function [a] type, ?_, .call function hsame rfl⟩
      refine (parseExpression_call_iff _ h.piece h.noComma).2 ⟨a, ha, ?_⟩
      rw [Predicate.apply, List.map_singleton, hfits _ hsame.underlying_eq]
      rfl

end NumericReads

/-- Every numeric expression has a text, if it is typed and its decimals can be written and read again. -/
theorem exists_numericReads (newGuid : Guid) (hoptions : p.options = {}) (hnamed : p.schema.isWellNamed = true)
    (h : q.isNumericExpression = true) (htyped : WellTyped p.registry p.schema q)
    (hdecimals : CanonicalDecimals q) : ∃ t, NumericReads p newGuid q t := by
  fun_induction isNumericExpression q with
  | case1 path type =>
    -- a property
    cases htyped with
    | property hresolved => exact ⟨_, .property hnamed hresolved⟩
  | case2 value type =>
    -- a constant
    cases htyped with
    | constant hin =>
      refine ⟨_, .constant hoptions hnamed h ?_ (underlying_of_inhabits h hin)⟩
      rintro d rfl
      exact hdecimals d type (.refl _)
  | case3 op left right type ihleft ihright =>
    -- arithmetic
    obtain ⟨hleft, hright⟩ := Bool.and_eq_true_iff.1 h
    cases htyped with
    | binary hl hr hfits =>
      obtain ⟨t, ht⟩ := ihleft hleft hl (hdecimals.of_isPart (.left (.refl _) _ _ _))
      obtain ⟨u, hu⟩ := ihright hright hr (hdecimals.of_isPart (.right (.refl _) _ _ _))
      exact ⟨_, .arithmetic op ht hu ⟨isNumeric_type hleft hl, isNumeric_type hright hr⟩ hfits⟩
  | case4 path own type =>
    -- the length of a string property
    cases htyped with
    | call harguments hfits =>
      cases harguments _ List.mem_cons_self with
      | property hresolved =>
        have hresult := (resultType_length h).symm.trans hfits
        cases hresult
        refine ⟨_, .unary hnamed (.property hnamed hresolved) fun other hother => resultType_length ?_⟩
        rw [ValueType.isString, hother]
        exact h
  | case5 function argument type _ ih =>
    -- a rounded expression
    obtain ⟨hfunction, hargument⟩ := Bool.and_eq_true_iff.1 h
    cases htyped with
    | call harguments hfits =>
      have ha := harguments _ List.mem_cons_self
      have hnumeric := isNumeric_type hargument ha
      obtain ⟨t, ht⟩ := ih hargument ha (hdecimals.of_isPart (.argument (.refl _) List.mem_cons_self _ _))
      refine ⟨_, .unary hnamed ht fun other hother => ?_⟩
      have hresult := (resultType_rounding hfunction hnumeric).symm.trans hfits
      rw [resultType_rounding hfunction ((isNumeric_congr hother).trans hnumeric), hother, hresult]
  | case6 => cases h

/-! ## Comparisons -/

/-- A comparison of two expressions is read back as a filter if and only if its constants keep their
kinds. -/
theorem parse_compared_iff (op : Comparison) (hleft : NumericReads p newGuid left t)
    (hright : NumericReads p newGuid right u)
    (hnumeric : left.type.isNumeric = true ∧ right.type.isNumeric = true) {type : ValueType}
    (hfits : operatorType (.comparison op) left.type right.type = .ok type) :
    (∃ found, p.parse newGuid (comparisonText op t u) = .ok (some found) ∧
      found.UpToNull (.binary (.comparison op) left right type)) ↔
    keepsKinds none (.binary (.comparison op) left right type) = true := by
  have hboolean : type = .boolean := by
    rw [operatorType_numbers op hnumeric.1 hnumeric.2] at hfits
    exact (Except.ok.inj hfits).symm
  have hreads := reads_operator (.comparison op) rfl hleft hright hnumeric hfits none
  rw [Option.map_none] at hreads
  rw [← hreads]
  constructor
  · rintro ⟨found, hfound, hsame⟩
    exact ⟨found, (parse_eq_ok_some_iff.1 hfound).1, hsame⟩
  · rintro ⟨found, hfound, hsame⟩
    refine ⟨found, parse_eq_ok_some_iff.2 ⟨hfound, ?_⟩, hsame⟩
    rw [ValueType.isBoolean, hsame.underlying_eq, Predicate.type, hboolean]
    rfl

/-- A parsed comparison of numeric expressions has a text, from which it is read back `UpToNull` if and only
if it `keepsKinds`. Then `tryMatches` is the same on every record. -/
theorem parse_render_numeric (p : FilterParser) (newGuid : Guid) (hoptions : p.options = {})
    (hnamed : p.schema.isWellNamed = true) {filter : Text} {q : Predicate}
    (hparse : p.parse newGuid filter = .ok (some q)) (hnumeric : q.isNumericComparison = true) :
    ∃ text, odata.render q = .ok text ∧
      ((∃ found, p.parse newGuid text = .ok (some found) ∧ found.UpToNull q) ↔ q.keepsKinds none = true) ∧
      (q.keepsKinds none = true → ∃ found, p.parse newGuid text = .ok (some found) ∧
        ∀ flagsMatch record, (CompiledFilter.mk (some found) flagsMatch).tryMatches record
          = (CompiledFilter.mk (some q) flagsMatch).tryMatches record) := by
  have hexpression := (parse_eq_ok_some_iff.1 hparse).1
  have htyped := wellTyped_of_parseExpression p newGuid _ _ _ hexpression
  have hdecimals := canonicalDecimals_of_parse hexpression
  unfold isNumericComparison at hnumeric
  split at hnumeric
  case h_2 => cases hnumeric
  case h_1 op left right type =>
    obtain ⟨hleft, hright⟩ := Bool.and_eq_true_iff.1 hnumeric
    cases htyped with
    | binary hl hr hfits =>
      obtain ⟨t, ht⟩ := exists_numericReads newGuid hoptions hnamed hleft hl
        (hdecimals.of_isPart (.left (.refl _) _ _ _))
      obtain ⟨u, hu⟩ := exists_numericReads newGuid hoptions hnamed hright hr
        (hdecimals.of_isPart (.right (.refl _) _ _ _))
      have hiff := parse_compared_iff op ht hu ⟨isNumeric_type hleft hl, isNumeric_type hright hr⟩ hfits
      refine ⟨_, ?_, hiff, fun hkeeps => ?_⟩
      · rw [render_odata]
        exact visit_comparison ht.written hu.written false false
      · obtain ⟨found, hfound, hsame⟩ := hiff.2 hkeeps
        exact ⟨found, hfound, hsame.tryMatches_eq⟩

/-- The constants of arithmetic beside a property are read as its type, and those beside a call as their
digits show. -/
theorem parse_render_numeric_items :
    ∃ q text found, items.parse .nil "round((Id add 2) div 3) ge 1.5".toList = .ok (some q) ∧
      odata.render q = .ok text ∧ items.parse .nil text = .ok (some found) ∧
      ∀ flagsMatch record, (CompiledFilter.mk (some found) flagsMatch).tryMatches record
        = (CompiledFilter.mk (some q) flagsMatch).tryMatches record := by
  obtain ⟨q, hparse, hq⟩ : ∃ q, items.parse .nil "round((Id add 2) div 3) ge 1.5".toList = .ok (some q) ∧
      (q.isNumericComparison, q.keepsKinds none) = (true, true) :=
    Except.exists_of_map_join (by decide +kernel)
  obtain ⟨hnumeric, hkeeps⟩ := Prod.mk.inj hq
  obtain ⟨text, hwritten, -, hsame⟩ := parse_render_numeric items .nil rfl (by decide) hparse hnumeric
  obtain ⟨found, hfound, hmatches⟩ := hsame hkeeps
  exact ⟨q, text, found, hparse, hwritten, hfound, hmatches⟩

/-- A double is divided, but its text is the one of an integer, so that integers are divided: the outcome
on a record is another one. In the second filter parentheses hide the property from the parser, so that a
double is found; in the text nothing hides it, and the double is no integer. -/
theorem parse_render_numeric_loses_kind :
    (∃ q found, items.parse .nil "(5.0 div 2) eq length(Name)".toList = .ok (some q) ∧
      q.isNumericComparison = true ∧
      odata.render q = .ok "(5 div 2) eq length(Name)".toList ∧
      items.parse .nil "(5 div 2) eq length(Name)".toList = .ok (some found) ∧
      CompiledFilter.tryMatches ⟨some q, .exact⟩ (Record.reader [("Name", .string "ab")]) = .ok false ∧
      CompiledFilter.tryMatches ⟨some found, .exact⟩ (Record.reader [("Name", .string "ab")]) = .ok true) ∧
    ∃ q, items.parse .nil "(2.5 add 1) gt ((Id))".toList = .ok (some q) ∧ q.isNumericComparison = true ∧
      odata.render q = .ok "(2.5 add 1) gt Id".toList ∧
      ∀ found, items.parse .nil "(2.5 add 1) gt Id".toList ≠ .ok (some found) := by
  constructor
  · obtain ⟨q, hparse, hq⟩ : ∃ q, items.parse .nil "(5.0 div 2) eq length(Name)".toList = .ok (some q) ∧
        (q.isNumericComparison, (odata.render q).toOption,
          (CompiledFilter.tryMatches ⟨some q, .exact⟩
            (Record.reader [("Name", .string "ab")])).toOption)
          = (true, some "(5 div 2) eq length(Name)".toList, some false) :=
      Except.exists_of_map_join (by decide +kernel)
    obtain ⟨found, hfound, htrue⟩ : ∃ found,
        items.parse .nil "(5 div 2) eq length(Name)".toList = .ok (some found) ∧
        (CompiledFilter.tryMatches ⟨some found, .exact⟩
            (Record.reader [("Name", .string "ab")])).toOption = some true :=
      Except.exists_of_map_join (by decide +kernel)
    simp only [Prod.mk.injEq] at hq
    exact ⟨q, found, hparse, hq.1, Except.eq_ok_of_toOption hq.2.1, hfound,
      Except.eq_ok_of_toOption hq.2.2, Except.eq_ok_of_toOption htrue⟩
  · obtain ⟨q, hparse, hq⟩ : ∃ q, items.parse .nil "(2.5 add 1) gt ((Id))".toList = .ok (some q) ∧
        (q.isNumericComparison, (odata.render q).toOption)
          = (true, some "(2.5 add 1) gt Id".toList) :=
      Except.exists_of_map_join (by decide +kernel)
    simp only [Prod.mk.injEq] at hq
    exact ⟨q, hparse, hq.1, Except.eq_ok_of_toOption hq.2, Except.ne_ok_some_of_isSome_join (by decide +kernel)⟩

end FilterParser
end RecordFilter
