import RecordFilter.Proofs.LiteralParsing
import RecordFilter.Proofs.NumberTexts
import RecordFilter.Proofs.TypeSoundness

/-!
# Literals of numbers

A number is written with its digits, and only a decimal carries a mark of its kind. The kind that the
other numbers are read as depends on the type that is expected, and without one on the digits: they are
of the first kind among the two integers and the double that holds them. So a double without a fraction
is read as an integer, and a small integer of 64 bits as one of 32 bits.

Main statements: `parseExpression_number`, and `canonicalDecimals_of_parse`: a decimal that is parsed can
be written and read again.
-/

namespace RecordFilter

namespace Value

/-- Whether the value is a number, and a finite one. -/
def isFiniteNumber : Value → Bool
  | .int32 _ | .int64 _ | .decimal _ => true
  | .double x => Double.isFinite x
  | _ => false

/-- The digits of a number, and the mark of a decimal. -/
def numberText : Value → Text
  | .decimal d => d.render ++ ['M']
  | value => value.render.toList

/-- The kind of number that the digits of a number show where no type is expected. -/
def spelledKind (value : Value) : ValueType :=
  match value with
  | .decimal _ => .decimal
  | value =>
    if (Numeral.int32? value.numberText).isSome then .int32
    else if (Numeral.int64? value.numberText).isSome then .int64
    else .double

end Value

namespace Numeral

theorem IsNumeral.marked {t : Text} (h : IsNumeral t) : IsNumeral (t ++ ['M']) := by
  obtain ⟨c, rest, rfl, hfirst⟩ := h.first
  refine ⟨⟨c, rest ++ ['M'], rfl, hfirst⟩, fun d hd => ?_⟩
  rcases List.mem_append.1 hd with hd | hd
  · exact h.chars d hd
  · exact .inr (.inr (.inr (List.mem_singleton.1 hd)))

end Numeral

namespace FilterParser

open RecordFilter.Filter Predicate Numeral

variable {value : Value} {t : Text}

/-! ## Texts -/

/-- The text of a number that is no decimal has no mark. -/
theorem isNumeral_render (hvalue : value.isFiniteNumber = true) (hdecimal : ∀ d, value ≠ .decimal d) :
    IsNumeral value.render.toList ∧ 'M' ∉ value.render.toList := by
  have hint : ∀ n : Int, IsNumeral (ofInt n) ∧ 'M' ∉ ofInt n :=
    fun n => ⟨isNumeral_ofInt n, not_mem_ofInt (by decide)⟩
  cases value with
  | int32 n =>
    rw [Value.render, String.toList_ofList]
    exact hint _
  | int64 n =>
    rw [Value.render, String.toList_ofList]
    exact hint _
  | double x =>
    rw [Value.render, String.toList_ofList]
    exact Double.isNumeral_render hvalue
  | decimal d => exact absurd rfl (hdecimal d)
  | _ => cases hvalue

theorem isNumeral_numberText (hvalue : value.isFiniteNumber = true) : IsNumeral value.numberText := by
  cases value with
  | decimal d => exact (Decimal.isNumeral_render d).1.marked
  | int32 n => exact (isNumeral_render hvalue (by simp)).1
  | int64 n => exact (isNumeral_render hvalue (by simp)).1
  | double x => exact (isNumeral_render hvalue (by simp)).1
  | _ => cases hvalue

/-- A number is written as its digits, with the mark of a decimal. -/
theorem odataLiteral_number (hvalue : value.isFiniteNumber = true) :
    Dialect.odataLiteral value = .ok value.numberText := by
  cases value with
  | decimal d => rfl
  | int32 n => rfl
  | int64 n => rfl
  | double x => rfl
  | _ => cases hvalue

/-! ## The mark of decimals -/

theorem isNoMark_of_unmarked (h : IsNumeral t) (hmark : 'M' ∉ t) :
    ∀ c ∈ t, (c != 'm' && c != 'M') = true := by
  intro c hc
  have hm : 'm' ∉ t := h.not_mem (by decide)
  simp only [Bool.and_eq_true, bne_iff_ne]
  exact ⟨fun heq => hm (heq ▸ hc), fun heq => hmark (heq ▸ hc)⟩

/-- A numeral without a mark is no decimal by its form. -/
theorem beforeSuffix?_of_unmarked (h : IsNumeral t) (hmark : 'M' ∉ t) : beforeSuffix? t = none := by
  have hspan := Text.spanWhile_append_of_all (b := []) (isNoMark_of_unmarked h hmark) (by simp)
  rw [List.append_nil] at hspan
  rw [beforeSuffix?, hspan]

theorem beforeSuffix?_marked (h : IsNumeral t) (hmark : 'M' ∉ t) :
    beforeSuffix? (t ++ ['M']) = some t := by
  have hspan := Text.spanWhile_append_of_all (b := ['M']) (isNoMark_of_unmarked h hmark) (by simp)
  have hne : t.isEmpty = false := by simpa using h.ne_nil
  rw [beforeSuffix?, hspan]
  simp [hne]

/-- A marked decimal is read back. -/
theorem decimal?_marked {d : Decimal} (hd : d.isCanonical = true) :
    Literal.decimal? {} (d.render ++ ['M']) = some d := by
  obtain ⟨h, hmark⟩ := Decimal.isNumeral_render d
  unfold Literal.decimal?
  simp only [h.marked.isTrimmed.trim_eq, beforeSuffix?_marked h hmark, Option.getD_some,
    normalizeNumber?_numeral h hmark, Option.bind_some, Decimal.read?_render hd]

/-! ## Reading numbers -/

/-- Where the kind of a number is expected, its text is read as the number. -/
theorem exists_reader (hvalue : value.isFiniteNumber = true)
    (hdecimal : ∀ d, value = .decimal d → d.isCanonical = true) :
    ∃ read, Literal.reader? {} (naturalType value) = some read ∧ read value.numberText = some value := by
  have hnormal : (∀ d, value ≠ .decimal d) →
      Culture.normalizeNumber? {} value.render.toList = some value.render.toList := by
    intro hother
    obtain ⟨h, hmark⟩ := isNumeral_render hvalue hother
    exact normalizeNumber?_numeral h hmark
  cases value with
  | int32 n =>
    refine ⟨_, rfl, ?_⟩
    simp only [Value.numberText, hnormal (by simp)]
    simp [Value.render, int32?_ofInt]
  | int64 n =>
    refine ⟨_, rfl, ?_⟩
    simp only [Value.numberText, hnormal (by simp)]
    simp [Value.render, int64?_ofInt]
  | double x =>
    refine ⟨_, rfl, ?_⟩
    have hfinite : Double.isFinite x = true := hvalue
    simp only [Value.numberText, hnormal (by simp)]
    simp [Value.render, Double.read?_render hfinite]
  | decimal d =>
    refine ⟨_, rfl, ?_⟩
    simp only [Value.numberText, decimal?_marked (hdecimal d rfl), Option.map_some]
  | _ => cases hvalue

theorem ofType?_number (newGuid : Guid) (hvalue : value.isFiniteNumber = true)
    (hdecimal : ∀ d, value = .decimal d → d.isCanonical = true) :
    Literal.ofType? {} newGuid (naturalType value) value.numberText = some (.ok value) := by
  obtain ⟨read, hreader, hread⟩ := exists_reader hvalue hdecimal
  have hplain : Literal.ofType? {} newGuid (naturalType value) value.numberText
      = (Literal.reader? {} (naturalType value)).map fun read =>
        Literal.orNotConvertible (naturalType value) (read value.numberText) := by
    cases value <;> first | rfl | cases hvalue
  rw [hplain, hreader, Option.map_some, hread]
  rfl

/-- A number is no boolean. -/
theorem boolean?_numeral (h : IsNumeral t) : boolean? t = none := by
  rw [boolean?, eqIgnoreCase_numeral h (d := 't') (by decide) (by decide),
    eqIgnoreCase_numeral h (d := 'f') (by decide) (by decide)]
  rfl

/-- A numeral without a mark is read as the first kind that holds it. -/
theorem infer?_numeral (h : IsNumeral t) (hmark : 'M' ∉ t) :
    Literal.infer? {} t =
      ((((int32? t).map Value.int32).or ((int64? t).map .int64)).or
        ((Double.read? t).map .double)).map literal := by
  have hnormal := normalizeNumber?_numeral h hmark
  unfold Literal.infer?
  simp only [boolean?_numeral h, beforeSuffix?_of_unmarked h hmark, List.findSome?_cons, List.findSome?_nil,
    Literal.reader?, Option.bind_some, hnormal]
  cases (int32? t) <;> cases (int64? t) <;> cases (Double.read? t) <;> rfl

/-- Where no type is expected, the text of a number is read as the number if its digits show its
kind. -/
theorem infer?_number_iff (hvalue : value.isFiniteNumber = true)
    (hdecimal : ∀ d, value = .decimal d → d.isCanonical = true) {type : ValueType} :
    Literal.infer? {} value.numberText = some (.constant value type) ↔
      value.spelledKind = naturalType value ∧ type = naturalType value := by
  cases value with
  | decimal d =>
    obtain ⟨h, hmark⟩ := Decimal.isNumeral_render d
    have hinfer : Literal.infer? {} (d.render ++ ['M']) = some (.constant (.decimal d) .decimal) := by
      unfold Literal.infer?
      simp only [boolean?_numeral h.marked, beforeSuffix?_marked h hmark, decimal?_marked (hdecimal d rfl)]
      rfl
    rw [Value.numberText, hinfer]
    simp [Value.spelledKind, naturalType, eq_comm]
  | int32 n =>
    obtain ⟨h, hmark⟩ := isNumeral_render hvalue (by simp)
    have hread : int32? (Value.int32 n).render.toList = some n := by simp [Value.render, int32?_ofInt]
    rw [Value.numberText, infer?_numeral h hmark]
    · simp [Value.spelledKind, Value.numberText, hread, literal, naturalType, eq_comm]
    · simp
  | int64 n =>
    obtain ⟨h, hmark⟩ := isNumeral_render hvalue (by simp)
    have hread : int64? (Value.int64 n).render.toList = some n := by simp [Value.render, int64?_ofInt]
    rw [Value.numberText, infer?_numeral h hmark]
    · cases hsmall : int32? (Value.int64 n).render.toList <;>
        simp [Value.spelledKind, Value.numberText, hread, hsmall, literal, naturalType, eq_comm]
    · simp
  | double x =>
    have hfinite : Double.isFinite x = true := hvalue
    obtain ⟨h, hmark⟩ := isNumeral_render hvalue (by simp)
    have hread : Double.read? (Value.double x).render.toList = some x := by
      simp [Value.render, Double.read?_render hfinite]
    rw [Value.numberText, infer?_numeral h hmark]
    · cases hsmall : int32? (Value.double x).render.toList <;>
        cases hlarge : int64? (Value.double x).render.toList <;>
          simp [Value.spelledKind, Value.numberText, hread, hsmall, hlarge, literal, naturalType,
            eq_comm]
    · simp
  | _ => cases hvalue

/-- A text that stands for nothing else is read as a number only where no type is expected. -/
theorem fallback_number_iff {culture : Culture} {expected : Option ValueType} {type : ValueType}
    (hvalue : value.isFiniteNumber = true) :
    Literal.fallback culture expected t = .ok (.constant value type) ↔
      expected = none ∧ Literal.infer? culture t = some (.constant value type) := by
  cases expected with
  | none =>
    unfold Literal.fallback
    cases Literal.infer? culture t <;> simp
  | some expected =>
    refine ⟨fun h => ?_, fun h => absurd h.1 (Option.some_ne_none _)⟩
    unfold Literal.fallback at h
    simp only [Option.map_some] at h
    -- a boolean or a string is found, which is no number
    split at h
    · split at h
      · cases h
        cases hvalue
      · cases h
    · cases h
      cases hvalue
    · cases h
    · rename_i hnone
      cases hnone

/-- What the text of a number is read as, with the type that is expected or without one: it is the number
again if and only if its kind is the one that is expected, or the one that its digits show. -/
theorem parseExpression_number {p : FilterParser} {newGuid : Guid} (hoptions : p.options = {})
    (hnamed : p.schema.isWellNamed = true) (hvalue : value.isFiniteNumber = true)
    (hdecimal : ∀ d, value = .decimal d → d.isCanonical = true) (expected : Option ValueType) :
    (∃ type, type.underlying = naturalType value ∧
      p.parseExpression newGuid value.numberText expected = .ok (some (.constant value type))) ↔
    (expected.map ValueType.underlying).getD value.spelledKind = naturalType value := by
  have hnumeral := isNumeral_numberText hvalue
  simp only [parseExpression_numeral hnamed hnumeral, hoptions]
  cases expected with
  | some expected =>
    have hreads := ofType?_number newGuid hvalue hdecimal
    rw [Option.map_some, Option.getD_some, known?_numeral _ _ hnumeral]
    constructor
    · rintro ⟨type, htype, hread⟩
      cases hfound : Literal.ofType? {} newGuid expected.underlying value.numberText with
      | none =>
        rw [hfound] at hread
        exact absurd ((fallback_number_iff hvalue).1 hread).1 (Option.some_ne_none _)
      | some result =>
        rw [hfound] at hread
        obtain ⟨other, -, hsame⟩ := Except.map_eq_ok_iff.1 hread
        cases hsame
        exact htype
    · intro hkind
      refine ⟨expected, hkind, ?_⟩
      rw [hkind, hreads]
      rfl
  | none =>
    have hknown : Literal.known? {} newGuid none value.numberText = none := by
      have hnull : Text.eqIgnoreCase value.numberText "null".toList = false :=
        eqIgnoreCase_numeral hnumeral (d := 'n') (by decide) (by decide)
      have hmark : '\'' ∉ value.numberText := hnumeral.not_mem (by decide)
      unfold Literal.known?
      simp only [hnull, marked?_eq_none hmark, Bool.false_eq_true, if_false]
    simp only [hknown, Option.getD_none, Option.map_none, fallback_number_iff hvalue,
      infer?_number_iff hvalue hdecimal, true_and]
    refine ⟨fun ⟨_, _, hkind, _⟩ => hkind, fun hkind => ⟨_, ?_, hkind, rfl⟩⟩
    cases value <;> rfl

/-! ## Decimals that are parsed -/

/-- Whether no decimal of a predicate is a zero with a sign. -/
def CanonicalDecimals (q : Predicate) : Prop :=
  ∀ d type, IsPart (.constant (.decimal d) type) q → d.isCanonical = true

theorem CanonicalDecimals.of_isPart {part q : Predicate} (h : CanonicalDecimals q) (hpart : IsPart part q) :
    CanonicalDecimals part :=
  fun d type hd => h d type (hd.trans hpart)

end FilterParser

namespace Filter.Literal

open Predicate

variable {culture : Culture} {t : Text}

theorem isCanonical_of_decimal? {d : Decimal} (h : decimal? culture t = some d) : d.isCanonical = true := by
  obtain ⟨number, -, hread⟩ := Option.bind_eq_some_iff.1 h
  exact Decimal.isCanonical_of_read? hread

/-- The decimals among literals are read by the reader of decimals. -/
theorem isCanonical_of_isLiteral {d : Decimal} {type : ValueType}
    (h : IsLiteral culture (.constant (.decimal d) type)) : d.isCanonical = true := by
  have hdenotes : ∀ {t : Text} {type : ValueType}, Denotes culture t (.decimal d) type →
      d.isCanonical = true := by
    intro t type h
    cases h with
    | decimal h => exact isCanonical_of_decimal? h
  obtain ⟨expected, t, hstands⟩ := h.exists_standsFor
  cases hstands with
  | marked _ hread => exact hdenotes hread
  | expected _ hread => exact hdenotes hread
  | inferred _ hread => exact hdenotes hread

end Filter.Literal

namespace FilterParser

open RecordFilter.Filter Predicate

variable {p : FilterParser} {newGuid : Guid}

/-- A node has the decimals of its operands. -/
theorem closedUnderParsing_canonicalDecimals (p : FilterParser) :
    ClosedUnderParsing p CanonicalDecimals where
  property _ _ _ _ _ hpart := by cases hpart
  literal q h d type hpart := by
    obtain ⟨value, own, rfl, -⟩ := h.isTypedConstant
    cases hpart
    exact Literal.isCanonical_of_isLiteral h
  negate operand q h hnegate d type hpart := by
    unfold Predicate.negate at hnegate
    split at hnegate
    · cases hnegate
      cases hpart with
      | operand hpart => exact h d type hpart
    · cases hnegate
  combine op left right q hleft hright hcombine d type hpart := by
    obtain ⟨own, -, rfl⟩ := Except.map_eq_ok_iff.1 hcombine
    cases hpart with
    | left hpart => exact hleft d type hpart
    | right hpart => exact hright d type hpart
  apply function arguments q h happly d type hpart := by
    obtain ⟨own, -, rfl⟩ := Except.map_eq_ok_iff.1 happly
    cases hpart with
    | argument hpart hmem => exact h _ hmem d type hpart
  construct entry constructor arguments own h _ _ _ _ d type hpart := by
    cases hpart with
    | constructorArgument hpart hmem => exact h _ hmem d type hpart

/-- A decimal of a parsed expression is no zero with a sign, so it can be written and read again. -/
theorem canonicalDecimals_of_parse {t : Text} {expected : Option ValueType} {q : Predicate}
    (h : p.parseExpression newGuid t expected = .ok (some q)) : CanonicalDecimals q :=
  (closedUnderParsing_canonicalDecimals p).of_parseExpression t expected q h

end FilterParser
end RecordFilter
