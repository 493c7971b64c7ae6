import RecordFilter.Proofs.LiteralSides
import RecordFilter.Proofs.NumberLiterals
import RecordFilter.Proofs.RoundTrip

/-!
# Numbers under a culture

A culture says how the numbers of a filter are written. The OData dialect knows no cultures: it writes a
decimal with a point. A parser whose culture separates groups of digits with points deletes that point when
it reads the text again, so that all digits of the decimal stand in front of it.

Main statement: `FilterParser.parse_render_decimal_iff`.
-/

namespace RecordFilter

open RecordFilter.Filter Numeral

/-! ## Decimals without their point -/

namespace Decimal

/-- The number with all of its digits in front of the point. -/
def withoutPoint (d : Decimal) : Decimal :=
  { d with scale := 0, scale_le := zero.scale_le }

theorem isCanonical_withoutPoint {d : Decimal} (h : d.isCanonical = true) :
    d.withoutPoint.isCanonical = true := h

/-- The point makes no difference if there is nothing behind it, or if the number is zero. -/
theorem compare_withoutPoint (d : Decimal) :
    d.withoutPoint.compare d = .eq ↔ d.scale = 0 ∨ d.isZero = true := by
  have hsigned : d.signed = 0 ↔ d.isZero = true := by
    unfold signed isZero
    split <;> simp
  have hscale : (10 : Int) ^ d.scale = 1 ↔ d.scale = 0 := by
    constructor
    · intro h
      by_contra hne
      have : (1 : Int) < 10 ^ d.scale := one_lt_pow₀ (by decide) hne
      omega
    · rintro h
      rw [h, pow_zero]
  have hcompare : d.withoutPoint.compare d = Ord.compare (d.signed * 10 ^ d.scale) (d.signed * 1) := by
    show Ord.compare (d.signed * 10 ^ (max 0 d.scale - 0)) (d.signed * 10 ^ (max 0 d.scale - d.scale)) = _
    rw [Nat.zero_max, Nat.sub_zero, Nat.sub_self, pow_zero]
  rw [hcompare, Int.compare_eq_eq, mul_eq_mul_left_iff, hscale, hsigned]

theorem filter_magnitudeText (d : Decimal) :
    d.magnitudeText.filter (fun c => c != '.') = padded (d.scale + 1) d.coefficient := by
  have hdigits : ∀ t, AreDigits t → t.filter (fun c => c != '.') = t := by
    intro t ht
    refine List.filter_eq_self.2 fun c hc => ?_
    simpa using ne_of_isDigit (ht c hc) (d := '.') (by decide)
  have hpadded : AreDigits (padded (d.scale + 1) d.coefficient) := areDigits_padStart _ _
  unfold magnitudeText
  simp only
  split
  · exact hdigits _ hpadded
  · rw [List.filter_append, List.filter_cons_of_neg (by simp), ← List.filter_append,
      List.take_append_drop, hdigits _ hpadded]

/-- The text of a decimal without the point is the sign with digits. -/
theorem exists_cons_filter_render (d : Decimal) : ∃ c t, isDigit c = true ∧
    padded (d.scale + 1) d.coefficient = c :: t ∧
    d.render.filter (fun c => c != '.') = if d.negative then '-' :: c :: t else c :: t := by
  have hdigits : AreDigits (padded (d.scale + 1) d.coefficient) := areDigits_padStart _ _
  have hlength := length_padStart (d.scale + 1) (ofNat d.coefficient)
  obtain ⟨c, t, htext⟩ := List.exists_cons_of_length_pos (l := padded (d.scale + 1) d.coefficient)
    (by rw [padded, hlength]; omega)
  refine ⟨c, t, hdigits c (by rw [htext]; exact List.mem_cons_self), htext, ?_⟩
  rw [render_eq, ← htext, ← filter_magnitudeText]
  split
  · rw [List.filter_cons_of_pos (by decide)]
  · rfl

theorem isNumeral_filter_render (d : Decimal) :
    IsNumeral (d.render.filter fun c => c != '.') ∧ 'M' ∉ d.render.filter fun c => c != '.' := by
  have hdigits : AreDigits (padded (d.scale + 1) d.coefficient) := areDigits_padStart _ _
  obtain ⟨c, t, hc, htext, hrender⟩ := d.exists_cons_filter_render
  rw [htext] at hdigits
  rw [hrender]
  exact isNumeral_signed d.negative hc fun a ha => .inl (hdigits a ha)

theorem read?_filter_render {d : Decimal} (h : d.isCanonical = true) :
    read? (d.render.filter fun c => c != '.') = some d.withoutPoint := by
  have hplain : readPlain? (d.render.filter fun c => c != '.') = some d.withoutPoint := by
    obtain ⟨c, t, hc, htext, hrender⟩ := d.exists_cons_filter_render
    have hvalue := foldDigits?_padStart (d.scale + 1) d.coefficient
    have hread : readFrom? d.negative false false 0 0 (padded (d.scale + 1) d.coefficient ++ []) = _ :=
      readFrom?_whole hvalue d.coefficient_lt
    rw [List.append_nil, htext] at hread
    rw [hrender, readPlain?_signed _ hc, hread]
    exact ofParts?_eq (isCanonical_withoutPoint h)
  rw [read?, hplain]
  rfl

end Decimal

/-! ## Reading under a culture -/

/-- The separators of the culture are neither digits nor minus signs. -/
structure Culture.SparesDigits (culture : Culture) : Prop where
  decimal : isDigit culture.decimalSeparator = false
  decimalSign : culture.decimalSeparator ≠ '-'
  group : isDigit culture.groupSeparator = false
  groupSign : culture.groupSeparator ≠ '-'

/-- What the text of a decimal is read as again. -/
def Culture.reread (culture : Culture) (d : Decimal) : Decimal :=
  if culture.groupSeparator = '.' then d.withoutPoint else d

namespace Culture

variable {culture : Culture} {t : Text}

/-- A separator that is neither digit nor minus sign is not in a number, unless it is the point. -/
theorem eq_point_of_mem (h : IsNumeral t) (hmark : 'M' ∉ t) {c : Char} (hdigit : isDigit c = false)
    (hsign : c ≠ '-') (hc : c ∈ t) : c = '.' := by
  rcases h.chars c hc with rfl | hc' | rfl | rfl
  · exact absurd rfl hsign
  · rw [hdigit] at hc'
    cases hc'
  · rfl
  · exact absurd hc hmark

theorem normalizeNumber?_filter (culture : Culture) (h : IsNumeral t)
    (h' : IsNumeral (t.filter fun c => c != culture.groupSeparator)) :
    culture.normalizeNumber? t
      = culture.normalizeNumber? (t.filter fun c => c != culture.groupSeparator) := by
  unfold normalizeNumber?
  simp only [h.isTrimmed.trim_eq, h'.isTrimmed.trim_eq, List.filter_filter, Bool.and_self]

/-- The number in the text of a decimal: a culture that groups with points deletes the point. -/
theorem normalizeNumber?_render (hculture : culture.SparesDigits) (d : Decimal) :
    culture.normalizeNumber? d.render
      = some (if culture.groupSeparator = '.' then d.render.filter (fun c => c != '.') else d.render) := by
  obtain ⟨h, hmark⟩ := d.isNumeral_render
  split
  · rename_i hgroup
    obtain ⟨h', hmark'⟩ := d.isNumeral_filter_render
    have hfilter := normalizeNumber?_filter culture h (by rwa [hgroup])
    rw [hgroup] at hfilter
    rw [hfilter]
    refine FilterParser.normalizeNumber?_of_spared culture h' hmark' ?_ ?_
    · rw [hgroup]
      simp
    · exact eq_point_of_mem h' hmark' hculture.decimal hculture.decimalSign
  · rename_i hgroup
    refine FilterParser.normalizeNumber?_of_spared culture h hmark ?_ ?_
    · exact fun hmem => hgroup (eq_point_of_mem h hmark hculture.group hculture.groupSign hmem)
    · exact eq_point_of_mem h hmark hculture.decimal hculture.decimalSign

end Culture

/-- The text of a decimal with its mark is read, with or without its point. -/
theorem Filter.Literal.decimal?_render {culture : Culture} (hculture : culture.SparesDigits) {d : Decimal}
    (hd : d.isCanonical = true) :
    Literal.decimal? culture (d.render ++ ['M']) = some (culture.reread d) := by
  obtain ⟨h, hmark⟩ := d.isNumeral_render
  unfold Literal.decimal?
  simp only [h.marked.isTrimmed.trim_eq, FilterParser.beforeSuffix?_marked h hmark, Option.getD_some,
    Culture.normalizeNumber?_render hculture, Option.bind_some, Culture.reread]
  split
  · exact Decimal.read?_filter_render hd
  · exact Decimal.read?_render hd

namespace FilterParser

variable {p : FilterParser} {newGuid : Guid} {path : PropertyPath} {type : ValueType} {d : Decimal}

/-- Where a decimal is expected, the text of a decimal is read as one, unless a field is named like it. -/
theorem parseExpression_decimal (hculture : p.options.culture.SparesDigits) (hd : d.isCanonical = true)
    (htype : type.underlying = .decimal) (hfree : p.schema.resolvePath? (d.render ++ ['M']) = none) :
    p.parseExpression newGuid (d.render ++ ['M']) (some type)
      = .ok (some (.constant (.decimal (p.options.culture.reread d)) type)) := by
  have hnumeral := d.isNumeral_render.1.marked
  have hquote : ∀ c, (d.render ++ ['M']).head? = some c → Nesting.isQuote c = false :=
    fun c hc => (plain_of_mem_numeral hnumeral (List.mem_of_mem_head? hc)).1
  refine (parseExpression_constant (isOperand_numeral hnumeral) hquote (hnumeral.not_mem (by decide))
    (hnumeral.not_mem (by decide)) hfree).2 ?_
  rw [known?_numeral _ _ hnumeral, htype]
  have hread := Literal.decimal?_render hculture hd
  simp only [Literal.ofType?, Literal.reader?, Option.map_some, hread, Literal.orNotConvertible,
    Option.getD_some]
  rfl

/-- A number that no field is named like is a literal. -/
theorem isLiteralText_numeral {schema : RecordType} {t : Text} (h : IsNumeral t)
    (hfree : schema.resolvePath? t = none) : IsLiteralText schema t := by
  have hoperand := isOperand_numeral h
  refine ⟨hoperand.trimmed.isBlank_eq, fun c hc => (plain_of_mem_numeral h hc).2, hoperand.nested.closed,
    ?_, ?_⟩
  · rw [hoperand.trimmed.trim_eq]
    exact hoperand.operators
  · rw [hoperand.squeezed, firstProperty?_atom _ hoperand.toIsAtom, hfree]

/-- A comparison of a property with a decimal. -/
def exceeds (path : PropertyPath) (type : ValueType) (d : Decimal) (own : ValueType) : Predicate :=
  .binary (.comparison .gt) (.property path type) (.constant (.decimal d) own) .boolean

theorem isPlainOperand_numeral {t : Text} (h : IsNumeral t) : IsPlainOperand t :=
  have hoperand := isOperand_numeral h
  ⟨hoperand.toIsAtom, hoperand.squeezed, fun _ hc => plain_of_mem_numeral h hc⟩

theorem render_exceeds (path : PropertyPath) (type : ValueType) (d : Decimal) (own : ValueType) :
    Dialect.odata.render (exceeds path type d own)
      = .ok (comparisonText .gt path.render.toList (d.render ++ ['M'])) := by
  rw [Dialect.render_odata]
  exact Dialect.visit_comparison rfl rfl false false

/-- What the written comparison is read as: a number that is a name is the field of that name. -/
theorem parse_exceeds_iff (hculture : p.options.culture.SparesDigits)
    (hname : IsPropertyText p.schema path type path.render.toList) (htype : type.underlying = .decimal)
    (hd : d.isCanonical = true) {d' : Decimal} {own : ValueType} :
    p.parse newGuid (comparisonText .gt path.render.toList (d.render ++ ['M']))
        = .ok (some (exceeds path type d' own)) ↔
      p.schema.resolvePath? (d.render ++ ['M']) = none ∧ d' = p.options.culture.reread d ∧ own = type := by
  have hnumeral := d.isNumeral_render.1.marked
  cases hfound : p.schema.resolvePath? (d.render ++ ['M']) with
  | none =>
    have hfits : Predicate.operatorType (.comparison .gt) type type = .ok .boolean :=
      operatorType_comparison rfl (.inr (by rw [ValueType.fields?, htype]))
    rw [parse_property_literal_iff hname (isLiteralText_numeral hnumeral hfound)]
    have hliteral := isOperand_numeral hnumeral
    simp only [hliteral.trimmed.trim_eq, hliteral.squeezed,
      parseExpression_decimal hculture hd htype hfound, Except.ok.injEq, Option.some.injEq,
      exists_eq_left', Predicate.type, hfits, true_and, exceeds, Predicate.binary.injEq,
      Predicate.constant.injEq, Value.decimal.injEq, and_true]
  | some found =>
    obtain ⟨other, otherType⟩ := found
    have hother : IsPropertyText p.schema other otherType (d.render ++ ['M']) :=
      .of_plain (isPlainOperand_numeral hnumeral) hfound
    refine iff_of_false (fun hread => ?_) (by simp)
    have hpresent : ∀ expected,
        p.parseExpression newGuid (Text.squeeze (Text.trim (d.render ++ ['M']))) expected ≠ .ok none := by
      rw [hother.squeeze_trim]
      exact fun _ => parseExpression_atom_ne_none hother.toIsAtom
    obtain ⟨a, b, -, hb, -, hq⟩ := (parse_comparison_iff hname.isSide hother.isSide hpresent).1 hread
    rw [hother.squeeze_trim, parseExpression_propertyText hother] at hb
    cases hb
    cases hq

/-- The decimal that a parser has read from the right side of a comparison is read again from the text of
the comparison if and only if no field is named like its text, and no digit of it is behind a point that
separates groups of digits for the parser. -/
theorem parse_render_decimal_iff (hculture : p.options.culture.SparesDigits)
    (hname : IsPropertyText p.schema path type path.render.toList) (htype : type.underlying = .decimal)
    {name literal : Text} {own : ValueType}
    (h : p.parse newGuid (comparisonText .gt name literal) = .ok (some (exceeds path type d own))) :
    ∃ text, Dialect.odata.render (exceeds path type d own) = .ok text ∧
      ((∃ d' own', p.parse newGuid text = .ok (some (exceeds path type d' own')) ∧ d'.compare d = .eq) ↔
        p.schema.resolvePath? (d.render ++ ['M']) = none ∧
          (p.options.culture.groupSeparator = '.' → d.scale = 0 ∨ d.isZero = true)) := by
  have hd : d.isCanonical = true :=
    canonicalDecimals_of_parse (parse_eq_ok_some_iff.1 h).1 d own (.right (.refl _) _ _ _)
  have hequal : (p.options.culture.reread d).compare d = .eq ↔
      (p.options.culture.groupSeparator = '.' → d.scale = 0 ∨ d.isZero = true) := by
    unfold Culture.reread
    split
    · rename_i hgroup
      rw [d.compare_withoutPoint]
      exact ⟨fun h _ => h, fun h => h hgroup⟩
    · rename_i hgroup
      have hself : d.compare d = .eq := Std.ReflCmp.compare_self
      exact ⟨fun _ h => absurd h hgroup, fun _ => hself⟩
  refine ⟨_, render_exceeds path type d own, ?_⟩
  simp only [parse_exceeds_iff hculture hname htype hd]
  constructor
  · rintro ⟨_, _, ⟨hfree, rfl, -⟩, hsame⟩
    exact ⟨hfree, hequal.1 hsame⟩
  · rintro ⟨hfree, hpoint⟩
    exact ⟨_, _, ⟨hfree, rfl, rfl⟩, hequal.2 hpoint⟩

/-- A parser for filters on prices, in which a decimal comma follows the whole part of a number. -/
def prices (groupSeparator : Char) : FilterParser where
  schema := ⟨"Item", [("Price", .decimal)]⟩
  options := { culture := { decimalSeparator := ',', groupSeparator := groupSeparator } }

/-- A price and a half. -/
def price : Decimal := ⟨false, 12345, 1, by decide, by decide⟩

theorem isPropertyText_price (groupSeparator : Char) :
    IsPropertyText (prices groupSeparator).schema ⟨["Price"]⟩ .decimal "Price".toList :=
  .of_plain (.of_word (by decide) (by decide) (by decide) (by decide)) rfl

theorem parse_prices {groupSeparator : Char} (h : groupSeparator = '_' ∨ groupSeparator = '.') :
    (prices groupSeparator).parse newGuid "Price gt 1234,5".toList
      = .ok (some (exceeds ⟨["Price"]⟩ .decimal price .decimal)) := by
  have hliteral : IsLiteralText (prices groupSeparator).schema "1234,5".toList := by
    rcases h with rfl | rfl <;>
      exact ⟨by decide, by decide, by decide, by decide, by decide +kernel⟩
  have hoperand : IsOperand "1234,5".toList :=
    .of_word (by decide) (by decide) (.of_plain (by decide)) (by decide) (by decide)
  have hread : (prices groupSeparator).parseExpression newGuid "1234,5".toList (some .decimal)
      = .ok (some (.constant (.decimal price) .decimal)) := by
    refine (parseExpression_constant hoperand (by decide) (by decide) (by decide) rfl).2 ?_
    rcases h with rfl | rfl <;> rfl
  show (prices groupSeparator).parse newGuid (comparisonText .gt "Price".toList "1234,5".toList) = _
  exact (parse_property_literal_iff (isPropertyText_price _) hliteral).2 ⟨_, hread, rfl, rfl⟩

/-- A decimal with a digit behind its comma is read again where groups are separated by underscores. -/
theorem parse_render_decimal_prices :
    (prices '_').options.culture.SparesDigits ∧
      (prices '_').parse .nil "Price gt 1234,5".toList
        = .ok (some (exceeds ⟨["Price"]⟩ .decimal price .decimal)) ∧
      ∃ text, Dialect.odata.render (exceeds ⟨["Price"]⟩ .decimal price .decimal) = .ok text ∧
        ∃ d' own', (prices '_').parse .nil text = .ok (some (exceeds ⟨["Price"]⟩ .decimal d' own')) ∧
          d'.compare price = .eq := by
  have hculture : (prices '_').options.culture.SparesDigits := ⟨rfl, by decide, rfl, by decide⟩
  have hread : (prices '_').parse .nil (comparisonText .gt "Price".toList "1234,5".toList)
      = .ok (some (exceeds ⟨["Price"]⟩ .decimal price .decimal)) := parse_prices (.inl rfl)
  obtain ⟨text, htext, hagain⟩ :=
    parse_render_decimal_iff hculture (isPropertyText_price _) rfl hread
  exact ⟨hculture, hread, text, htext, hagain.2 ⟨by decide, by decide⟩⟩

/-- Where they are separated by points, the point that is written is deleted, and the price is ten times
as high. -/
theorem parse_render_decimal_rescaled :
    (prices '.').parse .nil "Price gt 1234,5".toList
        = .ok (some (exceeds ⟨["Price"]⟩ .decimal price .decimal)) ∧
      Dialect.odata.render (exceeds ⟨["Price"]⟩ .decimal price .decimal) = .ok "Price gt 1234.5M".toList ∧
      (prices '.').parse .nil "Price gt 1234.5M".toList
        = .ok (some (exceeds ⟨["Price"]⟩ .decimal price.withoutPoint .decimal)) ∧
      price.withoutPoint.compare price ≠ .eq := by
  have hculture : (prices '.').options.culture.SparesDigits := ⟨rfl, by decide, rfl, by decide⟩
  refine ⟨parse_prices (.inr rfl), ?_, ?_, by decide⟩
  · rw [render_exceeds]
    rfl
  · have hagain : (prices '.').parse .nil (comparisonText .gt "Price".toList (price.render ++ ['M'])) = _ :=
      (parse_exceeds_iff hculture (isPropertyText_price _) rfl rfl).2 ⟨by decide, rfl, rfl⟩
    exact hagain

end FilterParser
end RecordFilter
