import RecordFilter.Proofs.Equivalence
import RecordFilter.Proofs.Printing

/-!
# Printing and parsing

A predicate that is built by connectives and negations over properties, comparisons and string matches is
read back from its text. The predicate that is found need not be the same: constants take the type that
is expected beside them, and a string match that stands alone is compared with `true`. But it is written
as the same text, and it has the same value on every record.

The induction goes over the predicate. Each step knows the texts of the parts, that the parts are read
back wherever a boolean is expected, and that they mean the same (`ReadsBack`).

Main statement: `parse_render`.
-/

namespace RecordFilter

namespace FilterParser

open RecordFilter.Filter Dialect

variable {p : FilterParser} {newGuid : Guid}

/-! ## Operands -/

/-- An operand is read back from its text where the type `scope` is expected. -/
structure OperandReadsBack (p : FilterParser) (newGuid : Guid) (scope : Option ValueType) (q : Predicate)
    (t : Text) (found : Predicate) : Prop where
  written : odata.visit true (!q.isAtomic) q = .ok t
  text : IsOperand t
  read : p.parseExpression newGuid t scope = .ok (some found)
  again : odata.visit true (!found.isAtomic) found = .ok t
  same : found.SameValue q

section Operands

variable {path : PropertyPath} {type : ValueType}

theorem readsBack_path (h : p.schema.isWellNamed = true)
    (hresolve : p.schema.resolveSegments? path.segments = some (path, type)) (scope : Option ValueType) :
    OperandReadsBack p newGuid scope (.property path type) path.render.toList (.property path type) :=
  ⟨rfl, isOperand_path h hresolve, parseExpression_path h hresolve, rfl, .refl _⟩

/-- A constant that a property of the type can be compared with: a literal of the type, or null where
the type accepts it and no order is asked for. -/
inductive ConstantFor (type : ValueType) (op : Comparison) : Predicate → Prop
  | literal {value : Value} {own : ValueType} (h : IsLiteralOf type value)
      (same : own.underlying = type.underlying) : ConstantFor type op (.constant value own)
  | null {own : ValueType} (accepts : type.acceptsNull = true) (equation : op.isOrdered = false) :
      ConstantFor type op (.constant .null own)

/-- A constant is read back where the type of the property beside it is expected. -/
theorem readsBack_constant (h : p.schema.isWellNamed = true) (hoptions : p.options = {})
    (hnamed : type.isWellNamed = true) {op : Comparison} {q : Predicate} (hq : ConstantFor type op q) :
    ∃ t found, OperandReadsBack p newGuid (some type) q t found ∧ p.schema.resolvePath? t = none ∧
      found.type.underlying = type.underlying ∧ found.SameSide q := by
  cases hq with
  | literal hvalue hsame =>
    obtain ⟨t, own, hwritten, htext, hresolve, hunderlying, hread⟩ :=
      parseExpression_literal h hoptions hnamed hvalue
    refine ⟨t, _, ⟨hwritten, htext, hread, hwritten, fun _ _ => rfl⟩, hresolve, hunderlying,
      fun _ _ => rfl, .inl ?_⟩
    exact Predicate.hasFlagsType_of_underlying (hunderlying.trans hsame.symm)
  | null haccepts =>
    exact ⟨_, _, ⟨rfl, isOperand_null, parseExpression_null h haccepts, rfl, fun _ _ => rfl⟩,
      resolvePath?_null h, rfl, fun _ _ => rfl, .inr ⟨_, rfl⟩⟩

/-- A boolean literal is read back where nothing or a boolean is expected. -/
theorem readsBack_boolean (h : p.schema.isWellNamed = true) {scope : Option ValueType}
    (hscope : ∀ type ∈ scope, type.isBoolean = true) (b : Bool) (own : ValueType) :
    OperandReadsBack p newGuid scope (.constant (.boolean b) own) (booleanText b)
      (.constant (.boolean b) .boolean) :=
  ⟨rfl, isOperand_booleanText b, parseExpression_boolean (resolvePath?_booleanText h b) hscope, rfl,
    fun _ _ => rfl⟩

end Operands

/-! ## String matches -/

section Matches

/-- A string match between a string property and a string that can stand in quotes, in either order. -/
inductive StringMatch (schema : RecordType) : Predicate → Prop
  | property {function : Function} {path : PropertyPath} {type own : ValueType} {text : String}
      (isMatch : function.isStringMatch = true)
      (resolved : schema.resolveSegments? path.segments = some (path, type))
      (string : type.isString = true) (plain : IsPlainString text) :
      StringMatch schema (.call function [.property path type, .constant (.string text) own] .boolean)
  | text {function : Function} {path : PropertyPath} {type own : ValueType} {text : String}
      (isMatch : function.isStringMatch = true)
      (resolved : schema.resolveSegments? path.segments = some (path, type))
      (string : type.isString = true) (plain : IsPlainString text) :
      StringMatch schema (.call function [.constant (.string text) own, .property path type] .boolean)

/-- The text of a string match, and the call that it is read as. -/
structure MatchReadsBack (p : FilterParser) (newGuid : Guid) (q : Predicate) (t : Text) (function : Function)
    (arguments : List Predicate) : Prop where
  isMatch : function.isStringMatch = true
  written : ∀ inside bracket, odata.visit inside bracket q =
    .ok (if inside then t else comparisonText .eq t "true".toList)
  text : IsOperand t
  resolves : p.schema.resolvePath? t = none
  read : ∀ expected, p.parseExpression newGuid t expected = .ok (some (.call function arguments .boolean))
  again : odata.visit true true (.call function arguments .boolean) = .ok t
  noLiteral : q.booleanLiteral? = none
  same : (Predicate.call function arguments .boolean).SameSide q

/-- As an operand a string match is read back whatever type is expected. -/
theorem MatchReadsBack.operand {q : Predicate} {t : Text} {function : Function}
    {arguments : List Predicate} (h : MatchReadsBack p newGuid q t function arguments)
    (scope : Option ValueType) : OperandReadsBack p newGuid scope q t (.call function arguments .boolean) :=
  ⟨h.written true _, h.text, h.read scope, h.again, h.same.1⟩

/-- A call of two operands is read back as soon as they are. -/
theorem readsBack_call (h : p.schema.isWellNamed = true) {function : Function}
    (hmatch : function.isStringMatch = true) {a b a' b' : Predicate} {first second : Text}
    {scope : ValueType} (hf : CommaFree .start first) (hs : CommaFree .start second)
    (hscope : ((p.schema.resolvePath? first).or (p.schema.resolvePath? second)).map Prod.snd = some scope)
    (hfirst : OperandReadsBack p newGuid (some scope) a first a')
    (hsecond : OperandReadsBack p newGuid (some a'.type) b second b')
    (hstrings : a'.type.isString = true ∧ b'.type.isString = true) :
    MatchReadsBack p newGuid (.call function [a, b] .boolean) (callText function.name.toList first second)
      function [a', b'] := by
  have hname : isIdentifier function.name.toList = true := by
    cases function <;> decide
  refine ⟨hmatch, fun inside bracket => ?_, isOperand_call hname hfirst.text hsecond.text, ?_,
    fun expected => parseExpression_match hmatch hfirst.text hsecond.text hf hs hscope hfirst.read
      hsecond.read hstrings.1 hstrings.2, ?_, rfl, ?_, .inl rfl⟩
  · rw [visit_call hfirst.written hsecond.written, hmatch]
    cases inside <;> rfl
  · exact RecordType.resolvePath?_eq_none_of_mem h (c := '(') (by simp [callText]) (by decide)
      (by decide) (by decide)
  · rw [visit_call hfirst.again hsecond.again, hmatch]
    rfl
  · intro flagsMatch record
    have ha := hfirst.same flagsMatch record
    have hb := hsecond.same flagsMatch record
    simp only [Evaluation.value, Evaluation.values, ha, hb]

/-- A string match is read back whatever type is expected. -/
theorem readsBack_match (newGuid : Guid) (h : p.schema.isWellNamed = true) {q : Predicate}
    (hq : StringMatch p.schema q) :
    ∃ t function arguments, MatchReadsBack p newGuid q t function arguments := by
  have hstring : ∀ {text : String} {type : ValueType} (own : ValueType), IsPlainString text →
      type.isString = true → OperandReadsBack p newGuid (some type) (.constant (.string text) own)
        (quote text.toList) (.constant (.string text) .string) :=
    fun own hplain htype => ⟨rfl, isOperand_quote (isQuotable_string hplain),
      parseExpression_string hplain htype, rfl, fun _ _ => rfl⟩
  have hquote : ∀ {content : Text}, p.schema.resolvePath? (quote content) = none := resolvePath?_quote h
  cases hq with
  | @property function path type own text hmatch hresolved htype hplain =>
    have hpath := RecordType.resolvePath?_render h hresolved
    exact ⟨_, _, _, readsBack_call h hmatch (commaFree_path h hresolved)
      (commaFree_quote (isQuotable_string hplain)) (by rw [hpath]; rfl)
      (readsBack_path h hresolved (some type)) (hstring own hplain htype) ⟨htype, rfl⟩⟩
  | @text function path type own text hmatch hresolved htype hplain =>
    have hpath := RecordType.resolvePath?_render h hresolved
    exact ⟨_, _, _, readsBack_call h hmatch (commaFree_quote (isQuotable_string hplain))
      (commaFree_path h hresolved) (by rw [hquote, hpath]; rfl) (hstring own hplain htype)
      (readsBack_path h hresolved _) ⟨rfl, htype⟩⟩

end Matches

/-! ## Types that fit -/

theorem acceptsNull_of_underlying {type : ValueType} (h : type.underlying = .null) :
    type.acceptsNull = true := by
  cases type with
  | nullable _ => rfl
  | null => rfl
  | _ => cases h

/-- Types that are the same up to null can be compared, and unless they are record types they can be
compared for order. -/
theorem operatorType_comparison {op : Comparison} {a b : ValueType} (h : a.underlying = b.underlying)
    (hfits : op.isOrdered = false ∨ a.fields? = none) :
    Predicate.operatorType (.comparison op) a b = .ok .boolean := by
  have hcompatible : a.isCompatibleWith b = true := by
    unfold ValueType.isCompatibleWith
    split
    · rename_i ha
      rw [ha] at h
      exact acceptsNull_of_underlying h.symm
    · split
      · rename_i hb
        rw [hb] at h
        exact acceptsNull_of_underlying h
      · simp [h]
  have hordered : (op.isOrdered && a.fields?.isSome) = false := by
    rcases hfits with h | h <;> simp [h]
  simp [Predicate.operatorType, hcompatible, hordered]

theorem fields?_congr {a b : ValueType} (h : a.underlying = b.underlying) : a.fields? = b.fields? := by
  unfold ValueType.fields?
  rw [h]

theorem fields?_of_isLiteralOf {type : ValueType} {value : Value} (h : IsLiteralOf type value) :
    type.fields? = none := by
  unfold ValueType.fields?
  split
  · rename_i hrecord
    cases value <;> simp [IsLiteralOf, hrecord] at h
  · rfl

theorem ConstantFor.fits {type : ValueType} {op : Comparison} {q : Predicate}
    (h : ConstantFor type op q) : op.isOrdered = false ∨ type.fields? = none := by
  cases h with
  | literal hvalue => exact .inr (fields?_of_isLiteralOf hvalue)
  | null _ hequation => exact .inl hequation

/-! ## Filters -/

/-- A filter is read back from its text wherever a boolean is expected. -/
structure ReadsBack (p : FilterParser) (newGuid : Guid) (q : Predicate) (t : Text) (found : Predicate) :
    Prop where
  written : odata.visit false false q = .ok t
  text : IsFilterText t
  read : ∀ expected, (∀ type ∈ expected, type.isBoolean = true) →
    p.parseExpression newGuid t expected = .ok (some found)
  again : odata.visit false false found = .ok t
  boolean : found.type.isBoolean = true
  noLiteral : q.booleanLiteral? = none ∧ found.booleanLiteral? = none
  same : found.SameValue q

namespace ReadsBack

variable {q q' found found' : Predicate} {t t' : Text}

theorem property (h : p.schema.isWellNamed = true) {path : PropertyPath} {type : ValueType}
    (hresolve : p.schema.resolveSegments? path.segments = some (path, type))
    (hboolean : type.isBoolean = true) :
    ReadsBack p newGuid (.property path type) path.render.toList (.property path type) where
  written := rfl
  text := (isOperand_path h hresolve).isFilterText
  read _ _ := parseExpression_path h hresolve
  again := rfl
  boolean := hboolean
  noLiteral := ⟨rfl, rfl⟩
  same := .refl _

/-- A comparison is read back if its left side is, where its own scope is expected, and its right side
is, where the type of the left one is expected. -/
theorem comparison {op : Comparison}
    (hleft : ∀ expected, (∀ type ∈ expected, type.isBoolean = true) →
      OperandReadsBack p newGuid
        ((((p.schema.resolvePath? t).or (p.schema.resolvePath? t')).map Prod.snd).or expected) q t found)
    (hright : OperandReadsBack p newGuid (some found.type) q' t' found')
    (hfits : Predicate.operatorType (.comparison op) found.type found'.type = .ok .boolean)
    (hside : found.SameSide q) :
    ReadsBack p newGuid (.binary (.comparison op) q q' .boolean) (comparisonText op t t')
      (.binary (.comparison op) found found' .boolean) := by
  have hnone := hleft none (by simp)
  exact {
    written := visit_comparison hnone.written hright.written false false
    text := isFilterText_comparisonText op hnone.text.isPiece hright.text.isPiece
    read := fun expected hexpected =>
      parseExpression_compared hnone.text.isPiece hright.text.isPiece
        (by rw [scopeType?_comparisonText hnone.text hright.text]; exact (hleft expected hexpected).read)
        hright.read hfits
    again := visit_comparison hnone.again hright.again false false
    boolean := rfl
    noLiteral := ⟨rfl, rfl⟩
    same := hside.comparison hright.same }

theorem negation (h : ReadsBack p newGuid q t found) :
    ReadsBack p newGuid (.not q) (negated t) (.not found) where
  written := visit_negation h.written false false
  text := isFilterText_negated h.text
  read _ _ := parseExpression_negated h.text (h.read (some .boolean) (by simp)) h.boolean
  again := visit_negation h.again false false
  boolean := rfl
  noLiteral := ⟨rfl, rfl⟩
  same := h.same.not

theorem connective {op : Connective} (h : ReadsBack p newGuid q t found)
    (h' : ReadsBack p newGuid q' t' found') :
    ReadsBack p newGuid (.binary (.connective op) q q' .boolean) (grouped op t t')
      (.binary (.connective op) found found' .boolean) := by
  have hblank := h.text.trimmed.isBlank_eq
  have hblank' := h'.text.trimmed.isBlank_eq
  -- the right side is read where the type of the left one is expected
  have hleft := h.read (some .boolean) (by simp)
  have hright := h'.read (some found.type) (by simpa using h.boolean)
  exact {
    written := visit_connective h.written h'.written hblank hblank' h.noLiteral.1 h'.noLiteral.1 false
    text := isFilterText_grouped h.text h'.text
    read := fun _ _ => parseExpression_grouped h.text h'.text hleft hright h.boolean h'.boolean
    again := visit_connective h.again h'.again hblank hblank' h.noLiteral.2 h'.noLiteral.2 false
    boolean := rfl
    noLiteral := ⟨rfl, rfl⟩
    same := h.same.connective h'.same }

/-- A string match alone is written as its equation with `true`. -/
theorem stringMatch (h : p.schema.isWellNamed = true) (hq : StringMatch p.schema q) :
    ∃ t found, ReadsBack p newGuid q t found := by
  obtain ⟨t, function, arguments, hmatch⟩ := readsBack_match newGuid h hq
  have hscope : ∀ type ∈ some (Predicate.call function arguments .boolean).type,
      type.isBoolean = true := by
    simp [Predicate.type]
  have htrue : OperandReadsBack p newGuid _ _ _ _ := readsBack_boolean h hscope true .boolean
  have hequation : ReadsBack p newGuid
      (.binary (.comparison .eq) q (.constant (.boolean true) .boolean) .boolean)
      (comparisonText .eq t (booleanText true))
      (.binary (.comparison .eq) (.call function arguments .boolean)
        (.constant (.boolean true) .boolean) .boolean) :=
    comparison (fun _ _ => hmatch.operand _) htrue (operatorType_comparison rfl (.inl rfl)) hmatch.same
  refine ⟨_, _, ⟨hmatch.written false false, hequation.text, hequation.read, hequation.again, rfl,
    ⟨hmatch.noLiteral, rfl⟩, fun flagsMatch record => ?_⟩⟩
  rw [Predicate.sameValue_equals_true hmatch.isMatch flagsMatch record]
  exact hmatch.same.1 flagsMatch record

theorem constantRight (h : p.schema.isWellNamed = true) (hoptions : p.options = {})
    {op : Comparison} {path : PropertyPath} {type : ValueType}
    (hresolve : p.schema.resolveSegments? path.segments = some (path, type))
    (hq : ConstantFor type op q) :
    ∃ t found, ReadsBack p newGuid (.binary (.comparison op) (.property path type) q .boolean) t found := by
  obtain ⟨-, -, hnamed, -⟩ := RecordType.wellNamed_of_resolveSegments? h hresolve
  obtain ⟨t, found, hback, -, hsame, -⟩ := readsBack_constant h hoptions hnamed hq
  exact ⟨_, _, comparison (fun _ _ => readsBack_path h hresolve _) hback
    (operatorType_comparison hsame.symm hq.fits) ⟨.refl _, .inl rfl⟩⟩

/-- The constant on the left is read with the type of the property, because it is no property itself. -/
theorem constantLeft (h : p.schema.isWellNamed = true) (hoptions : p.options = {})
    {op : Comparison} {path : PropertyPath} {type : ValueType}
    (hresolve : p.schema.resolveSegments? path.segments = some (path, type))
    (hq : ConstantFor type op q) :
    ∃ t found, ReadsBack p newGuid (.binary (.comparison op) q (.property path type) .boolean) t found := by
  obtain ⟨-, -, hnamed, -⟩ := RecordType.wellNamed_of_resolveSegments? h hresolve
  obtain ⟨t, found, hback, hnone, hsame, hside⟩ := readsBack_constant h hoptions hnamed hq
  have hpath := RecordType.resolvePath?_render h hresolve
  refine ⟨_, _, comparison (t := t) (fun _ _ => ?_) (readsBack_path h hresolve _)
    (operatorType_comparison hsame ?_) hside⟩
  · rw [hnone, hpath]
    exact hback
  · rw [fields?_congr hsame]
    exact hq.fits

theorem matchRight (h : p.schema.isWellNamed = true) (hq : StringMatch p.schema q)
    (op : Comparison) (b : Bool) (own : ValueType) :
    ∃ t found, ReadsBack p newGuid (.binary (.comparison op) q (.constant (.boolean b) own) .boolean)
      t found := by
  obtain ⟨t, function, arguments, hback⟩ := readsBack_match newGuid h hq
  exact ⟨_, _, comparison (fun _ _ => hback.operand _)
    (readsBack_boolean h (by simp [Predicate.type]) b own)
    (operatorType_comparison rfl (.inr rfl)) hback.same⟩

/-- Neither side is a property, so the constant on the left is read as at the place of the comparison. -/
theorem matchLeft (h : p.schema.isWellNamed = true) (hq : StringMatch p.schema q)
    (op : Comparison) (b : Bool) {own : ValueType} (hboolean : own.isBoolean = true) :
    ∃ t found, ReadsBack p newGuid (.binary (.comparison op) (.constant (.boolean b) own) q .boolean)
      t found := by
  obtain ⟨t, function, arguments, hback⟩ := readsBack_match newGuid h hq
  have hunderlying : own.underlying = .boolean := by simpa [ValueType.isBoolean] using hboolean
  have hside : (Predicate.constant (.boolean b) .boolean).SameSide (.constant (.boolean b) own) :=
    ⟨fun _ _ => rfl, .inl (Predicate.hasFlagsType_of_underlying hunderlying.symm)⟩
  have hleft : ∀ expected, (∀ type ∈ expected, type.isBoolean = true) → OperandReadsBack p newGuid
      ((((p.schema.resolvePath? (booleanText b)).or (p.schema.resolvePath? t)).map Prod.snd).or
        expected) (.constant (.boolean b) own) (booleanText b) (.constant (.boolean b) .boolean) := by
    intro expected hexpected
    rw [resolvePath?_booleanText h, hback.resolves]
    exact readsBack_boolean h hexpected b own
  exact ⟨_, _, comparison hleft (hback.operand _) (operatorType_comparison rfl (.inr rfl)) hside⟩

end ReadsBack

/-! ## Round trip -/

/-- The predicates that are printed and read back: connectives and negations over boolean properties,
comparisons of a property with a constant or with another property of its type, and string matches, alone
or compared with a boolean. -/
inductive Printable (schema : RecordType) : Predicate → Prop
  | property {path : PropertyPath} {type : ValueType}
      (resolved : schema.resolveSegments? path.segments = some (path, type))
      (boolean : type.isBoolean = true) : Printable schema (.property path type)
  | properties {op : Comparison} {path other : PropertyPath} {type otherType : ValueType}
      (resolved : schema.resolveSegments? path.segments = some (path, type))
      (otherResolved : schema.resolveSegments? other.segments = some (other, otherType))
      (same : type.underlying = otherType.underlying)
      (fits : op.isOrdered = false ∨ type.fields? = none) :
      Printable schema (.binary (.comparison op) (.property path type) (.property other otherType) .boolean)
  | constantRight {op : Comparison} {path : PropertyPath} {type : ValueType} {constant : Predicate}
      (resolved : schema.resolveSegments? path.segments = some (path, type))
      (h : ConstantFor type op constant) :
      Printable schema (.binary (.comparison op) (.property path type) constant .boolean)
  | constantLeft {op : Comparison} {path : PropertyPath} {type : ValueType} {constant : Predicate}
      (resolved : schema.resolveSegments? path.segments = some (path, type))
      (h : ConstantFor type op constant) :
      Printable schema (.binary (.comparison op) constant (.property path type) .boolean)
  | stringMatch {call : Predicate} (h : StringMatch schema call) : Printable schema call
  | matchRight {op : Comparison} {call : Predicate} {b : Bool} {own : ValueType}
      (h : StringMatch schema call) (boolean : own.isBoolean = true) :
      Printable schema (.binary (.comparison op) call (.constant (.boolean b) own) .boolean)
  | matchLeft {op : Comparison} {call : Predicate} {b : Bool} {own : ValueType}
      (h : StringMatch schema call) (boolean : own.isBoolean = true) :
      Printable schema (.binary (.comparison op) (.constant (.boolean b) own) call .boolean)
  | not {operand : Predicate} (h : Printable schema operand) : Printable schema (.not operand)
  | connective {op : Connective} {left right : Predicate} (hleft : Printable schema left)
      (hright : Printable schema right) :
      Printable schema (.binary (.connective op) left right .boolean)

/-- Every printable predicate is read back. -/
theorem exists_readsBack (h : p.schema.isWellNamed = true) (hoptions : p.options = {}) {q : Predicate}
    (hq : Printable p.schema q) : ∃ t found, ReadsBack p newGuid q t found := by
  induction hq with
  | property hresolved hboolean => exact ⟨_, _, .property h hresolved hboolean⟩
  | properties hresolved hother hsame hfits =>
    exact ⟨_, _, .comparison (fun _ _ => readsBack_path h hresolved _) (readsBack_path h hother _)
      (operatorType_comparison hsame hfits) ⟨.refl _, .inl rfl⟩⟩
  | constantRight hresolved hconstant => exact ReadsBack.constantRight h hoptions hresolved hconstant
  | constantLeft hresolved hconstant => exact ReadsBack.constantLeft h hoptions hresolved hconstant
  | stringMatch hmatch => exact ReadsBack.stringMatch h hmatch
  | matchRight hmatch => exact ReadsBack.matchRight h hmatch _ _ _
  | matchLeft hmatch hboolean => exact ReadsBack.matchLeft h hmatch _ _ hboolean
  | not _ ih =>
    obtain ⟨t, found, hread⟩ := ih
    exact ⟨_, _, hread.negation⟩
  | connective _ _ ihleft ihright =>
    obtain ⟨t, found, hleft⟩ := ihleft
    obtain ⟨t', found', hright⟩ := ihright
    exact ⟨_, _, hleft.connective hright⟩

/-- A printable predicate has a text. The parser with its default options reads from this text a
predicate that is written as the same text and has the same value on every record. -/
theorem parse_render (p : FilterParser) (newGuid : Guid) (hoptions : p.options = {})
    (hnamed : p.schema.isWellNamed = true) {q : Predicate} (h : Printable p.schema q) :
    ∃ text found, odata.render q = .ok text ∧ p.parse newGuid text = .ok (some found) ∧
      odata.render found = .ok text ∧
      ∀ flagsMatch record,
        Evaluation.value flagsMatch record found = Evaluation.value flagsMatch record q ∧
        (CompiledFilter.mk (some found) flagsMatch).tryMatches record
          = (CompiledFilter.mk (some q) flagsMatch).tryMatches record := by
  obtain ⟨text, found, hback⟩ := exists_readsBack hnamed hoptions h
  refine ⟨text, found, ?_, parse_eq_ok_some_iff.2 ⟨hback.read none (by simp), hback.boolean⟩, ?_, ?_⟩
  · rw [render_odata]
    exact hback.written
  · rw [render_odata]
    exact hback.again
  · intro flagsMatch record
    have hvalue := hback.same flagsMatch record
    refine ⟨hvalue, ?_⟩
    unfold CompiledFilter.tryMatches
    simp only [hvalue]

/-- A conjunction of an equation, a negated flag and a string match is read back. -/
theorem parse_render_conjunction :
    ∃ text found, odata.render (.binary (.connective .and)
        (.binary (.comparison .eq) (.constant (.int32 5) .int32) (.property ⟨["Id"]⟩ .int32) .boolean)
        (.binary (.connective .or) (.not (.property ⟨["Flag"]⟩ .boolean))
          (.call .startsWith [.property ⟨["Name"]⟩ .string, .constant (.string "a, b") .string] .boolean)
          .boolean) .boolean) = .ok text ∧
      items.parse .nil text = .ok (some found) ∧ odata.render found = .ok text := by
  have hid : items.schema.resolveSegments? ["Id"] = some (⟨["Id"]⟩, .int32) := rfl
  have hflag : items.schema.resolveSegments? ["Flag"] = some (⟨["Flag"]⟩, .boolean) := rfl
  have hname : items.schema.resolveSegments? ["Name"] = some (⟨["Name"]⟩, .string) := rfl
  have hliteral : IsLiteralOf .int32 (.int32 5) := rfl
  have hmatch : Function.startsWith.isStringMatch = true := rfl
  have hplain : IsPlainString "a, b" := ⟨by decide, by decide⟩
  obtain ⟨text, found, hwritten, hread, hagain, -⟩ := parse_render items .nil rfl (by decide)
    (.connective (.constantLeft hid (.literal hliteral rfl))
      (.connective (.not (.property hflag rfl)) (.stringMatch (.property hmatch hname rfl hplain))))
  exact ⟨text, found, hwritten, hread, hagain⟩

end FilterParser
end RecordFilter
