import RecordFilter.Dialect.OData
import RecordFilter.Proofs.Operands
import RecordFilter.Proofs.ParserTyping

/-!
# Literals

What a literal is read as depends on the type that is expected beside it. A literal of that type is read
as the value it shows: integers, booleans, guids, and strings and enumeration values in quotes.

Main statement: `parseExpression_literal`.
-/

namespace RecordFilter

/-- A string type is `string` or its nullable form. -/
theorem ValueType.underlying_of_isString {type : ValueType} (h : type.isString = true) :
    type.underlying = .string := by
  simpa [isString] using h

namespace FilterParser

open RecordFilter.Filter

variable {p : FilterParser} {newGuid : Guid} {t : Text} {expected : Option ValueType} {type : ValueType}

/-! ## Constants without quotes -/

/-- A word that shows no path is a constant. -/
theorem parseExpression_constant (h : IsOperand t)
    (hquote : ∀ c, t.head? = some c → Nesting.isQuote c = false) (hspace : ' ' ∉ t) (hparen : '(' ∉ t)
    (hresolve : p.schema.resolvePath? t = none) {q : Predicate} :
    p.parseExpression newGuid t expected = .ok (some q) ↔
      (Literal.known? p.options.culture newGuid expected t).getD
        (Literal.fallback p.options.culture expected t) = .ok q := by
  rw [parseExpression_atom h.toIsAtom, Except.map_eq_ok_iff, atom_plain hquote hspace hparen,
    firstProperty?_atom _ h.toIsAtom, hresolve]
  simp only [Except.mapError_eq_ok_iff, Option.some.injEq, exists_eq_right]

/-- Without a quote mark there is no marked literal. -/
theorem marked?_eq_none {mark : String} (h : '\'' ∉ t) : marked? mark t = none := by
  unfold marked?
  refine Option.bind_eq_none_iff.2 fun rest hrest => ?_
  have hsuffix : rest = t.drop mark.toList.length := by
    simp only [afterWord?, Option.ite_none_right_eq_some, Option.some.injEq] at hrest
    exact hrest.2.symm
  cases rest with
  | nil => rfl
  | cons c rest =>
    have hc : c ≠ '\'' := by
      rintro rfl
      exact h (List.mem_of_mem_drop (hsuffix ▸ List.mem_cons_self))
    simp [hc]

/-- Where a type is expected, a text without a mark in front is read as that type has it. -/
theorem known?_of_unmarked {culture : Culture} {newGuid : Guid} {type : ValueType} (hmark : '\'' ∉ t)
    (hnull : Text.eqIgnoreCase t "null".toList = false) :
    Literal.known? culture newGuid (some type) t =
      (Literal.ofType? culture newGuid type.underlying t).map fun result =>
        result.map (Predicate.constant · type) := by
  unfold Literal.known?
  simp only [hnull, marked?_eq_none hmark, Bool.false_eq_true, if_false]

/-! ## Numbers -/

section Numerals

open Numeral (IsNumeral)

/-- A numeral has no quote marks and no parentheses. -/
theorem plain_of_mem_numeral (h : IsNumeral t) {c : Char} (hc : c ∈ t) :
    Nesting.isQuote c = false ∧ c ≠ '(' ∧ c ≠ ')' := by
  refine ⟨Bool.eq_false_iff.2 fun hquote => ?_, ?_, ?_⟩
  · simp only [Nesting.isQuote, Bool.or_eq_true, beq_iff_eq] at hquote
    rcases hquote with rfl | rfl <;> exact h.not_mem (by decide) hc
  · rintro rfl
    exact h.not_mem (by decide) hc
  · rintro rfl
    exact h.not_mem (by decide) hc

/-- A numeral is an operand. -/
theorem isOperand_numeral (h : IsNumeral t) : IsOperand t := by
  have hblank : ∀ c ∈ t, Text.isBlankChar c = false := fun _ => h.isBlankChar_of_mem
  have hplain := fun c hc => plain_of_mem_numeral h (c := c) hc
  obtain ⟨c, rest, hcons, hfirst⟩ := h.first
  have hc : c ∈ t := by rw [hcons]; exact List.mem_cons_self
  refine .of_word h.ne_nil hblank (.of_plain hplain) ?_ fun hhead => ?_
  · refine isOperation_eq_false_of_lt hc ?_
    rcases hfirst with rfl | hdigit
    · decide
    · have := Numeral.toNat_of_isDigit hdigit
      omega
  · exact (hplain _ (List.mem_of_mem_head? hhead)).2.1 rfl

/-- A numeral is no identifier. -/
theorem isIdentifier_numeral (h : IsNumeral t) : isIdentifier t = false := by
  obtain ⟨c, rest, rfl, hfirst⟩ := h.first
  have hletter : (c.isAlpha || c == '_') = false := by
    rcases hfirst with rfl | hdigit
    · rfl
    · have hrange := Numeral.toNat_of_isDigit hdigit
      refine Bool.eq_false_iff.2 fun hletter => ?_
      rw [Bool.or_eq_true, beq_iff_eq] at hletter
      rcases hletter with hletter | rfl
      · have := toNat_of_isAlpha hletter
        omega
      · revert hrange
        decide
  rw [isIdentifier, hletter]
  rfl

/-- In a well-named schema no field is named like a numeral. -/
theorem resolvePath?_numeral {schema : RecordType} (hnamed : schema.isWellNamed = true)
    (h : IsNumeral t) : schema.resolvePath? t = none := by
  refine RecordType.resolvePath?_eq_none_of_word hnamed (h.not_mem (by decide)) h.isTrimmed.trim_eq ?_
  rw [isFieldName, isIdentifier_numeral h]
  rfl

/-- A number is none of the words of the language. -/
theorem eqIgnoreCase_numeral (h : IsNumeral t) {word : Text} {d : Char}
    (hd : d ∈ Text.lowerAscii word) (hletter : 97 ≤ d.toNat ∧ d ≠ 'm') :
    Text.eqIgnoreCase t word = false := by
  refine Bool.eq_false_iff.2 fun heq => ?_
  obtain ⟨c, hc, hlower⟩ := Text.exists_of_eqIgnoreCase heq hd
  rcases h.toNat_of_mem hc with hrange | hmark
  · rw [Text.toLower_eq_self (by omega)] at hlower
    rw [hlower] at hrange
    omega
  · have hM : c = 'M' := Char.toNat_inj.1 hmark
    rw [hM] at hlower
    exact hletter.2 hlower.symm

/-- What a number is read as depends on the type that is expected. -/
theorem parseExpression_numeral (hnamed : p.schema.isWellNamed = true) (h : IsNumeral t)
    {q : Predicate} : p.parseExpression newGuid t expected = .ok (some q) ↔
      (Literal.known? p.options.culture newGuid expected t).getD
        (Literal.fallback p.options.culture expected t) = .ok q := by
  have hquote : ∀ c, t.head? = some c → Nesting.isQuote c = false :=
    fun c hc => (plain_of_mem_numeral h (List.mem_of_mem_head? hc)).1
  exact parseExpression_constant (isOperand_numeral h) hquote (h.not_mem (by decide))
    (h.not_mem (by decide)) (resolvePath?_numeral hnamed h)

/-- A numeral is read by its expected type. -/
theorem known?_numeral (culture : Culture) (newGuid : Guid) (h : IsNumeral t) (type : ValueType) :
    Literal.known? culture newGuid (some type) t =
      (Literal.ofType? culture newGuid type.underlying t).map fun result =>
        result.map (Predicate.constant · type) :=
  known?_of_unmarked (h.not_mem (by decide)) (eqIgnoreCase_numeral h (d := 'n') (by decide) (by decide))

/-- A number without group separators whose decimal separators are points is read as it is. -/
theorem normalizeNumber?_of_spared (culture : Culture) (h : IsNumeral t) (hmark : 'M' ∉ t)
    (hgroup : culture.groupSeparator ∉ t)
    (hdecimal : culture.decimalSeparator ∈ t → culture.decimalSeparator = '.') :
    culture.normalizeNumber? t = some t := by
  have hfilter : t.filter (fun c => c != culture.groupSeparator) = t := by
    refine List.filter_eq_self.2 fun c hc => ?_
    simpa using fun heq : c = culture.groupSeparator => hgroup (heq ▸ hc)
  have hmap : t.map (fun c => if c = culture.decimalSeparator then '.' else c) = t := by
    refine (List.map_congr_left fun c hc => ?_).trans (List.map_id _)
    split
    · rename_i heq
      rw [id, heq, hdecimal (heq ▸ hc)]
    · rfl
  have hall : t.all Culture.isNumberChar = true := by
    refine List.all_eq_true.2 fun c hc => ?_
    rcases h.chars c hc with rfl | hdigit | rfl | rfl
    · rfl
    · simp [Culture.isNumberChar, hdigit]
    · rfl
    · exact absurd hc hmark
  have hne : t.isEmpty = false := by simpa using h.ne_nil
  unfold Culture.normalizeNumber?
  simp only [h.isTrimmed.trim_eq, hfilter, hmap, hall, hne]
  rfl

/-- The numbers of the default culture are written as numbers are read. -/
theorem normalizeNumber?_numeral (h : IsNumeral t) (hmark : 'M' ∉ t) :
    Culture.normalizeNumber? {} t = some t :=
  normalizeNumber?_of_spared {} h hmark (h.not_mem (by decide)) fun _ => rfl

end Numerals

/-! ## Integers -/

section Integers

variable {n : Int}

/-- Integers are written with digits and a hyphen. -/
theorem toNat_of_mem_ofInt {c : Char} (hc : c ∈ Numeral.ofInt n) : 45 ≤ c.toNat ∧ c.toNat ≤ 57 := by
  rcases Numeral.mem_ofInt hc with rfl | hdigit
  · decide
  · have h := Numeral.toNat_of_isDigit hdigit
    omega

theorem not_mem_ofInt {c : Char} (h : c.toNat < 45 ∨ 57 < c.toNat) : c ∉ Numeral.ofInt n := by
  intro hc
  have := toNat_of_mem_ofInt hc
  omega

theorem plain_of_mem_ofInt {c : Char} (hc : c ∈ Numeral.ofInt n) :
    Nesting.isQuote c = false ∧ c ≠ '(' ∧ c ≠ ')' :=
  plain_of_mem_numeral (Numeral.isNumeral_ofInt n) hc

/-- The digits of an integer are an operand. -/
theorem isOperand_ofInt (n : Int) : IsOperand (Numeral.ofInt n) :=
  isOperand_numeral (Numeral.isNumeral_ofInt n)

theorem isIdentifier_ofInt (n : Int) : isIdentifier (Numeral.ofInt n) = false :=
  isIdentifier_numeral (Numeral.isNumeral_ofInt n)

/-- In a well-named schema no field is named like an integer. -/
theorem resolvePath?_ofInt {schema : RecordType} (h : schema.isWellNamed = true) :
    schema.resolvePath? (Numeral.ofInt n) = none :=
  resolvePath?_numeral h (Numeral.isNumeral_ofInt n)

/-- Where an integer is expected, its digits are read as that integer. -/
theorem parseExpression_ofInt (h : p.schema.isWellNamed = true) {value : Value}
    (hvalue : Literal.ofType? p.options.culture newGuid type.underlying (Numeral.ofInt n)
      = some (.ok value)) :
    p.parseExpression newGuid (Numeral.ofInt n) (some type) = .ok (some (.constant value type)) := by
  have hnumeral := Numeral.isNumeral_ofInt n
  rw [parseExpression_numeral h hnumeral, known?_numeral _ _ hnumeral, hvalue]
  rfl

/-- The separators of the default culture are not in the digits of an integer. -/
theorem normalizeNumber?_ofInt (n : Int) :
    Culture.normalizeNumber? {} (Numeral.ofInt n) = some (Numeral.ofInt n) :=
  normalizeNumber?_numeral (Numeral.isNumeral_ofInt n) (not_mem_ofInt (by decide))

end Integers

/-! ## Words -/

/-- An identifier is an operand unless it is an operator. -/
theorem isOperand_of_isIdentifier {word : Text} (h : isIdentifier word = true)
    (hop : isOperation word = false) : IsOperand word := by
  have hchar : ∀ c ∈ word, isIdentifierChar c = true := fun c => isIdentifierChar_of_mem h
  have hblank : ∀ c ∈ word, Text.isBlankChar c = false :=
    fun c hc => isBlankChar_of_isIdentifierChar (hchar c hc)
  have hplain : ∀ c ∈ word, Nesting.isQuote c = false ∧ c ≠ '(' ∧ c ≠ ')' :=
    fun c hc => plain_of_isIdentifierChar (hchar c hc)
  exact (IsPlainOperand.of_word (ne_nil_of_isIdentifier h) hblank hplain hop).isOperand

/-- The word for a boolean. -/
def booleanText (b : Bool) : Text :=
  if b then "true".toList else "false".toList

/-- `true` and `false` are operands. -/
theorem isOperand_booleanText (b : Bool) : IsOperand (booleanText b) := by
  cases b <;> exact isOperand_of_isIdentifier (by decide) (by decide)

theorem isOperand_null : IsOperand "null".toList :=
  isOperand_of_isIdentifier (by decide) (by decide)

/-- In a well-named schema no field is named `true` or `false`. -/
theorem resolvePath?_booleanText {schema : RecordType} (h : schema.isWellNamed = true) (b : Bool) :
    schema.resolvePath? (booleanText b) = none := by
  cases b <;> exact RecordType.resolvePath?_eq_none_of_word h (by decide) (by decide) (by decide)

/-- In a well-named schema no field is named `null`. -/
theorem resolvePath?_null {schema : RecordType} (h : schema.isWellNamed = true) :
    schema.resolvePath? "null".toList = none :=
  RecordType.resolvePath?_eq_none_of_word h (by decide) (by decide) (by decide)

/-- Where nothing or a boolean is expected, the words are read as the booleans. -/
theorem parseExpression_boolean {b : Bool} (hresolve : p.schema.resolvePath? (booleanText b) = none)
    (hexpected : ∀ type ∈ expected, type.isBoolean = true) :
    p.parseExpression newGuid (booleanText b) expected = .ok (some (.constant (.boolean b) .boolean)) := by
  have hnull : Text.eqIgnoreCase (booleanText b) "null".toList = false := by cases b <;> decide
  have hmark : '\'' ∉ booleanText b := by cases b <;> decide
  have hread : boolean? (booleanText b) = some b := by cases b <;> decide
  rw [parseExpression_constant (isOperand_booleanText b) (by cases b <;> decide) (by cases b <;> decide)
    (by cases b <;> decide) hresolve]
  cases expected with
  | none =>
    have hknown : Literal.known? p.options.culture newGuid none (booleanText b) = none := by
      unfold Literal.known?
      simp only [hnull, marked?_eq_none hmark, Bool.false_eq_true, if_false]
    have hinfer : Literal.infer? p.options.culture (booleanText b)
        = some (.constant (.boolean b) .boolean) := by
      unfold Literal.infer?
      rw [hread]
      rfl
    rw [hknown, Option.getD_none, Literal.fallback]
    simp only [Option.map_none, hinfer]
  | some type =>
    have hboolean : type.underlying = .boolean := by
      simpa [ValueType.isBoolean] using hexpected type rfl
    rw [known?_of_unmarked hmark hnull, hboolean, Literal.fallback]
    simp only [Option.map_some, hboolean, hread]
    rfl

/-- Where null is expected, the word for it is read as null of the expected type. -/
theorem parseExpression_null (h : p.schema.isWellNamed = true) (hnull : type.acceptsNull = true) :
    p.parseExpression newGuid "null".toList (some type) = .ok (some (.constant .null type)) := by
  rw [parseExpression_constant isOperand_null (by decide) (by decide) (by decide) (resolvePath?_null h)]
  simp [Literal.known?, Text.eqIgnoreCase, Option.filter, hnull]

/-! ## Guids -/

/-- A guid literal. -/
def guidText (g : Guid) : Text :=
  'g' :: 'u' :: 'i' :: 'd' :: quote g.render

/-- A guid has no blanks, quote marks and parentheses. -/
theorem plain_of_mem_guid {g : Guid} {c : Char} (hc : c ∈ g.render) :
    Text.isBlankChar c = false ∧ Nesting.isQuote c = false ∧ c ≠ '(' ∧ c ≠ ')' := by
  rcases Guid.mem_render hc with rfl | hhex
  · decide
  · exact hhex.all (P := fun c => Text.isBlankChar c = false ∧ Nesting.isQuote c = false ∧
      c ≠ '(' ∧ c ≠ ')') (by decide)

/-- A guid can stand in quotes. -/
theorem isQuotable_guid (g : Guid) : IsQuotable g.render := by
  have hspace : ' ' ∉ g.render := fun hc => by cases (plain_of_mem_guid hc).1
  exact ⟨fun c hc => (plain_of_mem_guid hc).2.1, fun c hc => (plain_of_mem_guid hc).2.2,
    Text.squeeze_eq_self hspace⟩

theorem blankFree_guidText {g : Guid} {c : Char} (hc : c ∈ guidText g) :
    Text.isBlankChar c = false ∧ c ≠ '(' := by
  simp only [guidText, quote, List.cons_append, List.mem_cons, List.mem_append, List.not_mem_nil,
    or_false] at hc
  rcases hc with rfl | rfl | rfl | rfl | rfl | hc | rfl
  case inr.inr.inr.inr.inr.inl =>
    obtain ⟨hblank, -, hparen, -⟩ := plain_of_mem_guid hc
    exact ⟨hblank, hparen⟩
  all_goals decide

/-- `guidText` is an operand. -/
theorem isOperand_guid (g : Guid) : IsOperand (guidText g) := by
  have hquotable := isQuotable_guid g
  have hnested : WellNested (guidText g) :=
    (WellNested.of_plain (t := ['g', 'u', 'i', 'd']) (by decide)).append
      (.quoted hquotable.quotes hquotable.parens)
  have hop : isOperation (guidText g) = false :=
    isOperation_eq_false_of_lt (c := '\'') (by simp [guidText, quote]) (by decide)
  exact .of_word (by simp [guidText]) (fun c hc => (blankFree_guidText hc).1) hnested hop
    (by simp [guidText])

/-- In a well-named schema no field is named like quoted text. -/
theorem resolvePath?_quote {schema : RecordType} (h : schema.isWellNamed = true) {content : Text} :
    schema.resolvePath? (quote content) = none :=
  RecordType.resolvePath?_eq_none_of_mem h (c := '\'') (by simp [quote]) (by decide) (by decide)
    (by decide)

theorem resolvePath?_guid {schema : RecordType} (h : schema.isWellNamed = true) (g : Guid) :
    schema.resolvePath? (guidText g) = none :=
  RecordType.resolvePath?_eq_none_of_mem h (c := '\'') (by simp [guidText, quote]) (by decide)
    (by decide) (by decide)

/-- Where a guid is expected, a guid literal is read as the guid. -/
theorem parseExpression_guid (expected : Option ValueType) (h : p.schema.isWellNamed = true) (g : Guid) :
    ∃ found, found.underlying = .guid ∧
      p.parseExpression newGuid (guidText g) expected = .ok (some (.constant (.guid g) found)) := by
  have hquotable := isQuotable_guid g
  have hspace : ' ' ∉ guidText g := fun hc => by cases (blankFree_guidText hc).1
  have hparen : '(' ∉ guidText g := fun hc => (blankFree_guidText hc).2 rfl
  have hmarked : marked? "guid" (guidText g) = some g.render := by
    have hafter : afterWord? "guid" (guidText g) = some (quote g.render) := rfl
    have hspan := Text.spanWhile_append_of_all (p := (· != '\'')) (a := g.render) (b := ['\''])
      (fun c hc => by simpa using fun heq : c = '\'' => by cases heq ▸ hquotable.quotes c hc) (by simp)
    rw [marked?, hafter, Option.bind_some]
    simp [quote, hspan]
  refine ⟨Literal.expectedOr expected .guid, Literal.underlying_expectedOr .guid rfl, ?_⟩
  have hhead : ∀ c, (guidText g).head? = some c → Nesting.isQuote c = false := by
    intro c hc
    cases hc
    rfl
  rw [parseExpression_constant (isOperand_guid g) hhead hspace hparen (resolvePath?_guid h g)]
  have hnull : Text.eqIgnoreCase (guidText g) "null".toList = false := rfl
  unfold Literal.known?
  simp only [hnull, hmarked, Bool.false_eq_true, if_false, Guid.read?_render]
  rfl

/-! ## Literals of a type -/

/-- A string that can stand in quotes: without quote marks, parentheses and adjacent spaces. -/
def IsPlainString (text : String) : Prop :=
  (∀ c ∈ text.toList, Nesting.isQuote c = false ∧ c ≠ '(' ∧ c ≠ ')') ∧ ¬[' ', ' '] <:+: text.toList

/-- An `IsPlainString` can stand in quotes. -/
theorem isQuotable_string {text : String} (h : IsPlainString text) : IsQuotable text.toList :=
  ⟨fun c hc => (h.1 c hc).1, fun c hc => (h.1 c hc).2, Text.squeeze_eq_self_of_no_run h.2⟩

/-- Where a string is expected, text in quotes is read as the string. -/
theorem ofQuoted_string {culture : Culture} (htype : type.isString = true) (content : Text) :
    Literal.ofQuoted culture (some type) content
      = .ok (.constant (.string (String.ofList content)) .string) := by
  simp [Literal.ofQuoted, ValueType.underlying_of_isString htype, Predicate.literal, Predicate.naturalType]

/-- Where a string is expected, quoted text is read as a string. -/
theorem parseExpression_string {text : String} (h : IsPlainString text) (htype : type.isString = true) :
    p.parseExpression newGuid (quote text.toList) (some type)
      = .ok (some (.constant (.string text) .string)) := by
  rw [parseExpression_quote (isQuotable_string h), ofQuoted_string htype, String.ofList_toList]

/-- The values of a type that literals show: booleans, integers, guids, enumeration values, and strings
that can stand in quotes. -/
def IsLiteralOf (type : ValueType) : Value → Prop
  | .boolean _ => type.underlying = .boolean
  | .int32 _ => type.underlying = .int32
  | .int64 _ => type.underlying = .int64
  | .guid _ => type.underlying = .guid
  | .string text => type.underlying = .string ∧ IsPlainString text
  | .enumeration e _ => type.underlying = .enumeration e
  | _ => False

section Describe

variable {e : EnumType}

/-- In a well-named enumeration the members are identifiers. -/
theorem isIdentifierChar_of_member (h : e.isWellNamed = true) {member : String × Int64}
    (hmember : member ∈ e.members) {c : Char} (hc : c ∈ member.1.toList) :
    isIdentifierChar c = true :=
  isIdentifierChar_of_mem (EnumType.isIdentifier_of_mem h hmember) hc

/-- The text of an enumeration value has no quote marks and no parentheses. -/
theorem plain_of_mem_describe (h : e.isWellNamed = true) {value : Int64} {c : Char}
    (hc : c ∈ (e.describe value).toList) : Nesting.isQuote c = false ∧ c ≠ '(' ∧ c ≠ ')' := by
  rcases e.describe_cases value with ⟨member, hmember, -, htext⟩ |
    ⟨members, hmembers, -, -, -, htext⟩ | htext
  all_goals rw [htext] at hc
  · exact plain_of_isIdentifierChar (isIdentifierChar_of_member h hmember hc)
  · rcases Text.mem_join hc with hc | ⟨piece, hpiece, hc⟩
    · simp only [List.mem_cons, List.not_mem_nil, or_false] at hc
      rcases hc with rfl | rfl <;> decide
    · obtain ⟨member, hmember, rfl⟩ := List.mem_map.1 hpiece
      exact plain_of_isIdentifierChar (isIdentifierChar_of_member h (hmembers member hmember) hc)
  · exact plain_of_mem_ofInt hc

/-- The text of an enumeration value has no run of spaces. -/
theorem squeeze_describe (h : e.isWellNamed = true) (value : Int64) :
    Text.squeeze (e.describe value).toList = (e.describe value).toList := by
  have hspace : ∀ member ∈ e.members, ' ' ∉ member.1.toList := by
    intro member hmember hc
    cases isIdentifierChar_of_member h hmember hc
  rcases e.describe_cases value with ⟨member, hmember, -, htext⟩ |
    ⟨members, hmembers, -, -, -, htext⟩ | htext
  · rw [htext, Text.squeeze_eq_self (hspace member hmember)]
  · rw [htext]
    refine Text.squeeze_join (by decide) fun piece hpiece => ?_
    obtain ⟨member, hmember, rfl⟩ := List.mem_map.1 hpiece
    have hmem := hmembers member hmember
    exact ⟨isTrimmed_of_isIdentifier (EnumType.isIdentifier_of_mem h hmem),
      Text.squeeze_eq_self (hspace member hmem)⟩
  · rw [htext, Text.squeeze_eq_self (not_mem_ofInt (by decide))]

/-- The text of an enumeration value can stand in quotes. -/
theorem isQuotable_describe (h : e.isWellNamed = true) (value : Int64) :
    IsQuotable (e.describe value).toList :=
  ⟨fun _ hc => (plain_of_mem_describe h hc).1, fun _ hc => (plain_of_mem_describe h hc).2,
    squeeze_describe h value⟩

end Describe

/-- Where the type of a literal is expected, its text is read as its value. The type of the constant is
the expected one up to null. -/
theorem parseExpression_literal (h : p.schema.isWellNamed = true) (hoptions : p.options = {})
    (hnamed : type.isWellNamed = true) {value : Value} (hvalue : IsLiteralOf type value) :
    ∃ text found, Dialect.odataLiteral value = .ok text ∧ IsOperand text ∧
      p.schema.resolvePath? text = none ∧ found.underlying = type.underlying ∧
      p.parseExpression newGuid text (some type) = .ok (some (.constant value found)) := by
  cases value with
  | boolean b =>
    refine ⟨booleanText b, .boolean, ?_, isOperand_booleanText b, resolvePath?_booleanText h b,
      hvalue.symm, parseExpression_boolean (resolvePath?_booleanText h b) ?_⟩
    · rfl
    · have hunderlying : type.underlying = .boolean := hvalue
      rintro other ⟨⟩
      simp [ValueType.isBoolean, hunderlying]
  | int32 n =>
    refine ⟨Numeral.ofInt n.toInt, type, ?_, isOperand_ofInt _, resolvePath?_ofInt h, rfl,
      parseExpression_ofInt h ?_⟩
    · exact congrArg Except.ok (String.toList_ofList)
    · have hunderlying : type.underlying = .int32 := hvalue
      rw [hunderlying, hoptions]
      simp [Literal.ofType?, Literal.reader?, normalizeNumber?_ofInt, Numeral.int32?_ofInt,
        Literal.orNotConvertible]
  | int64 n =>
    refine ⟨Numeral.ofInt n.toInt, type, ?_, isOperand_ofInt _, resolvePath?_ofInt h, rfl,
      parseExpression_ofInt h ?_⟩
    · exact congrArg Except.ok (String.toList_ofList)
    · have hunderlying : type.underlying = .int64 := hvalue
      rw [hunderlying, hoptions]
      simp [Literal.ofType?, Literal.reader?, normalizeNumber?_ofInt, Numeral.int64?_ofInt,
        Literal.orNotConvertible]
  | guid g =>
    obtain ⟨found, hfound, hparse⟩ := parseExpression_guid (some type) h g
    refine ⟨guidText g, found, ?_, isOperand_guid g, ?_, hfound.trans hvalue.symm, hparse⟩
    · rfl
    · exact resolvePath?_guid h g
  | string text =>
    obtain ⟨hunderlying, hplain⟩ := hvalue
    exact ⟨quote text.toList, .string, rfl, isOperand_quote (isQuotable_string hplain),
      resolvePath?_quote h, hunderlying.symm,
      parseExpression_string hplain (by simp [ValueType.isString, hunderlying])⟩
  | enumeration e value =>
    have hunderlying : type.underlying = .enumeration e := hvalue
    have hwell : e.isWellNamed = true := by
      rw [← ValueType.isWellNamed_underlying, hunderlying] at hnamed
      exact hnamed
    have hquotable := isQuotable_describe hwell value
    have hread := EnumType.read?_describe (EnumType.isUnambiguous_of_isWellNamed hwell) value
    -- the constant takes the expected type as it is, null included
    refine ⟨quote (e.describe value).toList, type, rfl, isOperand_quote hquotable, resolvePath?_quote h,
      rfl, (parseExpression_quote hquotable).2 ?_⟩
    simp [Literal.ofQuoted, hunderlying, hread, Literal.orNotConvertible, Except.map]
  | null => cases hvalue
  | double _ => cases hvalue
  | decimal _ => cases hvalue
  | dateTime _ => cases hvalue
  | object _ => cases hvalue

end FilterParser
end RecordFilter
