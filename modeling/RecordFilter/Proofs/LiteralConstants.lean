import RecordFilter.Filter.Literal
import RecordFilter.Proofs.Typing

/-!
# The constants that literals stand for

There is a reader for text in quotes, one for text that is known by its mark or by the type that is
expected, and one for text that is nothing else. Which constants they give is said here once:
`StandsFor` has a case for each of their branches, so what holds of all literals is proved by cases, and
not reader by reader.

Main statements: `standsFor_of_ofQuoted`, `standsFor_of_known` and `standsFor_of_fallback`.
-/

namespace RecordFilter.Filter.Literal

variable {culture : Culture} {newGuid : Guid} {expected : Option ValueType} {t : Text}

theorem orNotConvertible_eq_ok_iff {type : ValueType} {found : Option Value} {value : Value} :
    orNotConvertible type found = .ok value ↔ found = some value := by
  cases found <;> simp [orNotConvertible]

/-! ## Values of a type -/

/-- A text of a type is read as a value of the type. Nulls, booleans, strings and objects have no text of
this kind. -/
inductive Denotes (culture : Culture) (t : Text) : Value → ValueType → Prop
  | int32 {n : Int32} (h : (culture.normalizeNumber? t).bind Numeral.int32? = some n) :
      Denotes culture t (.int32 n) .int32
  | int64 {n : Int64} (h : (culture.normalizeNumber? t).bind Numeral.int64? = some n) :
      Denotes culture t (.int64 n) .int64
  | double {x : Float} (h : (culture.normalizeNumber? t).bind Double.read? = some x) :
      Denotes culture t (.double x) .double
  | decimal {d : Decimal} (h : decimal? culture t = some d) : Denotes culture t (.decimal d) .decimal
  | dateTime {d : Timestamp} (h : timestamp? culture t = some d) :
      Denotes culture t (.dateTime d) .dateTime
  | enumeration {e : EnumType} {n : Int64} (h : e.read? t = some n) :
      Denotes culture t (.enumeration e n) (.enumeration e)
  | guid {g : Guid} (h : Guid.read? t = some g) : Denotes culture t (.guid g) .guid
  | guidWord {newGuid g : Guid} (h : guidWord? newGuid t = some g) : Denotes culture t (.guid g) .guid

namespace Denotes

variable {value : Value} {type : ValueType}

/-- A denoted value inhabits its type. -/
theorem inhabits (h : Denotes culture t value type) : value.Inhabits type := by
  cases h <;> constructor

/-- The type of a denoted value is its natural one. -/
theorem naturalType_eq (h : Denotes culture t value type) :
    Predicate.naturalType value = type := by
  cases h <;> rfl

theorem underlying_eq (h : Denotes culture t value type) : type.underlying = type := by
  cases h <;> rfl

end Denotes

/-- What the reader of a type gives is denoted by the text. -/
theorem denotes_of_reader {type : ValueType} {read : Text → Option Value} {value : Value}
    (hreader : reader? culture type = some read) (hread : read t = some value) :
    Denotes culture t value type := by
  cases type <;> simp only [reader?, Option.some.injEq, reduceCtorEq] at hreader
  all_goals
    subst hreader
    obtain ⟨_, h, rfl⟩ := Option.map_eq_some_iff.1 hread
    constructor
    exact h

/-- What `ofType?` gives is denoted by the text. -/
theorem denotes_of_ofType {type : ValueType} {value : Value}
    (h : ofType? culture newGuid type t = some (.ok value)) : Denotes culture t value type := by
  unfold ofType? at h
  split at h
  · simp only [Option.some.injEq, orNotConvertible_eq_ok_iff, Option.map_eq_some_iff] at h
    obtain ⟨_, hguid, rfl⟩ := h
    exact .guidWord hguid
  · simp only [Option.some.injEq] at h
    split at h
    · cases h
      exact .enumeration ‹_›
    · cases h
  · obtain ⟨read, hread, hvalue⟩ := Option.map_eq_some_iff.1 h
    exact denotes_of_reader hread (orNotConvertible_eq_ok_iff.1 hvalue)

/-! ## Constants -/

/-- The expected type is taken only where it is the given one up to null. -/
theorem underlying_expectedOr (type : ValueType) (h : type.underlying = type) :
    (expectedOr expected type).underlying = type := by
  unfold expectedOr
  cases hfilter : expected.filter fun expected => expected.underlying = type with
  | none => exact h
  | some other => simpa using (Option.filter_eq_some_iff.1 hfilter).2

/-- The constants that a text can stand for where a type is expected, or none. -/
inductive StandsFor (culture : Culture) (expected : Option ValueType) (t : Text) : Predicate → Prop
  | null : StandsFor culture expected t
      (.constant .null ((expected.filter ValueType.acceptsNull).getD .null))
  | boolean (value : Bool) : StandsFor culture expected t (.constant (.boolean value) .boolean)
  | string : StandsFor culture expected t (.constant (.string (String.ofList t)) .string)
  | marked {mark : String} {content : Text} {value : Value} {type : ValueType}
      (hmark : marked? mark t = some content) (h : Denotes culture content value type) :
      StandsFor culture expected t (.constant value (expectedOr expected type))
  | expected {value : Value} {type : ValueType} (hexpected : expected = some type)
      (h : Denotes culture t value type.underlying) : StandsFor culture expected t (.constant value type)
  | inferred {value : Value} {type : ValueType} (hexpected : expected = none)
      (h : Denotes culture t value type) : StandsFor culture expected t (.constant value type)

/-- Text in quotes. -/
theorem standsFor_of_ofQuoted {content : Text} {q : Predicate}
    (h : ofQuoted culture expected content = .ok q) : StandsFor culture expected content q := by
  unfold ofQuoted at h
  split at h
  · cases h
    exact .string
  · split at h
    case h_4 =>
      cases h
      exact .string
    all_goals
      rename_i hunderlying
      obtain ⟨value, hvalue, rfl⟩ := Except.map_eq_ok_iff.1 h
      obtain ⟨_, hread, rfl⟩ := Option.map_eq_some_iff.1 (orNotConvertible_eq_ok_iff.1 hvalue)
      refine .expected rfl ?_
      rw [hunderlying]
      constructor
      exact hread

/-- The word `null`, text with a mark and text of the expected type. -/
theorem standsFor_of_known {q : Predicate}
    (h : known? culture newGuid expected t = some (.ok q)) : StandsFor culture expected t q := by
  unfold known? at h
  split at h
  · cases h
    exact .null
  · split at h
    case h_4 => cases h
    case h_3 expected _ _ =>
      obtain ⟨result, hresult, hq⟩ := Option.map_eq_some_iff.1 h
      obtain ⟨value, rfl, rfl⟩ := Except.map_eq_ok_iff.1 hq
      exact .expected rfl (denotes_of_ofType hresult)
    all_goals
      obtain ⟨value, hvalue, rfl⟩ := Except.map_eq_ok_iff.1 (Option.some.inj h)
      obtain ⟨_, hread, rfl⟩ := Option.map_eq_some_iff.1 (orNotConvertible_eq_ok_iff.1 hvalue)
      refine .marked ‹_› ?_
      constructor
      exact hread

/-- A boolean or a number whose type is inferred from its text alone. -/
theorem standsFor_of_infer {q : Predicate} (h : infer? culture t = some q) :
    StandsFor culture none t q := by
  unfold infer? at h
  split at h
  · cases h
    exact .boolean _
  · obtain ⟨_, hread, rfl⟩ := Option.map_eq_some_iff.1 h
    exact .inferred rfl (.decimal hread)
  · obtain ⟨value, hvalue, rfl⟩ := Option.map_eq_some_iff.1 h
    obtain ⟨type, -, hread⟩ := List.exists_of_findSome?_eq_some hvalue
    obtain ⟨read, hreader, hread⟩ := Option.bind_eq_some_iff.1 hread
    have hdenotes := denotes_of_reader hreader hread
    rw [Predicate.literal, hdenotes.naturalType_eq]
    exact .inferred rfl hdenotes

/-- A `fallback` predicate stands for the text it was read from. -/
theorem standsFor_of_fallback {q : Predicate} (h : fallback culture expected t = .ok q) :
    StandsFor culture expected t q := by
  unfold fallback at h
  split at h
  · split at h
    · cases h
      exact .boolean _
    · cases h
  · cases h
    exact .string
  · cases h
  · rename_i hnone
    obtain rfl := Option.map_eq_none_iff.1 hnone
    split at h
    · cases h
      exact standsFor_of_infer ‹_›
    · cases h

end RecordFilter.Filter.Literal
