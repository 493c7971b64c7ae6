import RecordFilter.Filter.Options
import RecordFilter.Filter.SyntaxError
import RecordFilter.Filter.Token
import RecordFilter.Number.DoubleText

/-!
# Literals and calls

The forms of text without operators: quoted strings, literals with a mark in front (`guid'…'`),
decimals with an `m` at the end, calls and constructions; and the constants that such text stands
for where a type is expected.

Main statement: the arguments of a call are shorter than the call.
-/

namespace RecordFilter
namespace Filter

/-! ## Forms -/

/-- The text between two quote marks, with no other quote mark inside. -/
def quoted? : Text → Option Text
  | [] => none
  | opening :: t =>
    if Nesting.isQuote opening then
      match Text.spanWhile (fun c => !Nesting.isQuote c) t with
      | (content, [_]) => some content
      | _ => none
    else none

/-- The number before a single `m` at the end of the text. -/
def beforeSuffix? (t : Text) : Option Text :=
  match Text.spanWhile (fun c => c != 'm' && c != 'M') t with
  | (number, [_]) => if number.isEmpty then none else some number
  | _ => none

/-- What follows a word in any case at the beginning of the text. -/
def afterWord? (word : String) (t : Text) : Option Text :=
  let n := word.toList.length
  if Text.eqIgnoreCase (t.take n) word.toList then some (t.drop n) else none

/-- The text in single quotes after a mark. -/
def marked? (mark : String) (t : Text) : Option Text :=
  (afterWord? mark t).bind fun rest =>
    match rest with
    | '\'' :: rest =>
      match Text.spanWhile (· != '\'') rest with
      | (content, [_]) => some content
      | _ => none
    | _ => none

/-- The text before the first parenthesis, and the text between that and one at the end. -/
def call? (t : Text) : Option (Text × Text) :=
  match Text.spanWhile (fun c => c != '(' && c != ')') t with
  | (name, '(' :: rest) =>
    if name.isEmpty then none else (Text.dropFinish? [')'] rest).map (name, ·)
  | _ => none

/-- The type name and the arguments of a construction. -/
def construction? (t : Text) : Option (Text × Text) :=
  ((afterWord? "new " t).bind call?).map fun (name, arguments) => (Text.trim name, arguments)

/-- The name and the arguments of a call, which must not be blank. -/
def functionCall? (t : Text) : Option (Text × Text) :=
  ((call? t).filter fun (_, arguments) => !Text.isBlank arguments).map fun (name, arguments) =>
    (Text.trim name, arguments)

/-! ## Arguments -/

/-- The pieces between the commas outside of parentheses and quotes. -/
def splitTop (n : Nesting) : Text → List Text
  | [] => [[]]
  | c :: t =>
    if n.isTop && c == ',' then [] :: splitTop n t
    else match splitTop (n.step c) t with
      | [] => [[c]]
      | piece :: pieces => (c :: piece) :: pieces

/-- The arguments, without blanks around them. Blank text has none. -/
def splitArguments (t : Text) : List Text :=
  if Text.isBlank t then [] else (splitTop .start t).map Text.trim

/-- The arguments before the last comma, and the one after it. -/
def splitLastArgument (t : Text) : Text × Option Text :=
  match (splitTop .start t).reverse with
  | last :: before :: others =>
    (Text.trim (Text.join [','] (before :: others).reverse), some (Text.trim last))
  | _ => (Text.trim t, none)

/-! ## Constants -/

/-- Reads a boolean. -/
def boolean? (t : Text) : Option Bool :=
  if Text.eqIgnoreCase t "true".toList then some true
  else if Text.eqIgnoreCase t "false".toList then some false
  else none

namespace Literal

/-- Reads a decimal with or without the suffix. -/
def decimal? (culture : Culture) (t : Text) : Option Decimal :=
  let t := Text.trim t
  (culture.normalizeNumber? ((beforeSuffix? t).getD t)).bind Decimal.read?

/-- Reads a timestamp. -/
def timestamp? (culture : Culture) (t : Text) : Option Timestamp :=
  Timestamp.read? culture.dateFormats t

/-- The reader of numbers and timestamps of a type, if the type has one. -/
def reader? (culture : Culture) : ValueType → Option (Text → Option Value)
  | .int32 => some fun t =>
    ((culture.normalizeNumber? t).bind Numeral.int32?).map .int32
  | .int64 => some fun t =>
    ((culture.normalizeNumber? t).bind Numeral.int64?).map .int64
  | .double => some fun t =>
    ((culture.normalizeNumber? t).bind Double.read?).map .double
  | .decimal => some fun t => (decimal? culture t).map .decimal
  | .dateTime => some fun t => (timestamp? culture t).map .dateTime
  | _ => none

/-- A value, or the problem that the text is not one of the type. -/
def orNotConvertible (type : ValueType) (value : Option Value) : Except SyntaxProblem Value :=
  match value with
  | some value => .ok value
  | none => .error (.notConvertible type)

/-- The constant for quoted text. Where an enumeration, a guid or a timestamp is expected the text
must be one; otherwise it is a string. -/
def ofQuoted (culture : Culture) (expected : Option ValueType) (content : Text) :
    Except SyntaxProblem Predicate :=
  let string := Predicate.literal (.string (String.ofList content))
  match expected with
  | none => .ok string
  | some expected =>
    let converted (value : Option Value) :=
      (orNotConvertible expected value).map (Predicate.constant · expected)
    match expected.underlying with
    | .enumeration e => converted ((e.read? content).map (.enumeration e))
    | .guid => converted ((Guid.read? content).map .guid)
    | .dateTime => converted ((timestamp? culture content).map .dateTime)
    | _ => .ok string

/-- Reads a guid or one of the words `newguid()` and `empty`. The first one stands for a guid that is drawn
for the occasion. -/
def guidWord? (newGuid : Guid) (t : Text) : Option Guid :=
  if Text.eqIgnoreCase t "newguid()".toList then some newGuid
  else if Text.eqIgnoreCase t "empty".toList then some .nil
  else Guid.read? t

/-- The value of a type that the text stands for. Nothing says that the type has no text of its
own. -/
def ofType? (culture : Culture) (newGuid : Guid) (type : ValueType) (t : Text) :
    Option (Except SyntaxProblem Value) :=
  match type with
  | .guid => some (orNotConvertible .guid ((guidWord? newGuid t).map .guid))
  | .enumeration e => some <|
    match e.read? t with
    | some value => .ok (.enumeration e value)
    | none => .error (.notMember e.name)
  | type => (reader? culture type).map fun read => orNotConvertible type (read t)

/-- The expected type, if it is the given one up to null, else the given one. -/
def expectedOr (expected : Option ValueType) (type : ValueType) : ValueType :=
  (expected.filter fun expected => expected.underlying = type).getD type

/-- The constant for `null`, for a literal with a mark, and for text of the expected type. Nothing
says that the text is none of them. -/
def known? (culture : Culture) (newGuid : Guid) (expected : Option ValueType) (t : Text) :
    Option (Except SyntaxProblem Predicate) :=
  if Text.eqIgnoreCase t "null".toList then
    some (.ok (.constant .null ((expected.filter ValueType.acceptsNull).getD .null)))
  else
    match marked? "guid" t, marked? "datetime" t, expected with
    | some content, _, _ => some <|
      (orNotConvertible .guid ((Guid.read? content).map .guid)).map fun value =>
        .constant value (expectedOr expected .guid)
    | none, some content, _ => some <|
      (orNotConvertible .dateTime ((timestamp? culture content).map .dateTime)).map fun value =>
        .constant value (expectedOr expected .dateTime)
    | none, none, some expected =>
      (ofType? culture newGuid expected.underlying t).map fun result =>
        result.map (Predicate.constant · expected)
    | none, none, none => none

/-- The constant for a boolean or a number where no type is expected. Numbers with a suffix are
decimals; others are of the first type among the two integers and the double that can hold them. -/
def infer? (culture : Culture) (t : Text) : Option Predicate :=
  match boolean? t, beforeSuffix? t with
  | some value, _ => some (.literal (.boolean value))
  | none, some _ => (decimal? culture t).map fun value => .literal (.decimal value)
  | none, none =>
    ([ValueType.int32, .int64, .double].findSome? fun type =>
      (reader? culture type).bind fun read => read t).map Predicate.literal

/-- The constant for text that stands for nothing else. -/
def fallback (culture : Culture) (expected : Option ValueType) (t : Text) :
    Except SyntaxProblem Predicate :=
  match expected.map ValueType.underlying with
  | some .boolean =>
    match boolean? t with
    | some value => .ok (.constant (.boolean value) .boolean)
    | none => .error (.notConvertible .boolean)
  | some .string => .ok (.literal (.string (String.ofList t)))
  | some type => .error (.notConvertible type)
  | none =>
    match infer? culture t with
    | some constant => .ok constant
    | none => .error .unresolved

end Literal

/-! ## Lengths -/

theorem call?_eq_some {t name arguments : Text} (h : call? t = some (name, arguments)) :
    t = name ++ '(' :: (arguments ++ [')']) := by
  unfold call? at h
  split at h
  · rename_i name' rest hspan
    split at h
    · simp at h
    · simp only [Option.map_eq_some_iff, Prod.mk.injEq] at h
      obtain ⟨inner, hinner, rfl, rfl⟩ := h
      rw [← Text.dropFinish?_eq_some hinner]
      have happ := Text.spanWhile_append (fun c => c != '(' && c != ')') t
      rw [hspan] at happ
      exact happ.symm
  · simp at h

theorem length_call? {t name arguments : Text} (h : call? t = some (name, arguments)) :
    arguments.length + 2 ≤ t.length := by
  have := congrArg List.length (call?_eq_some h)
  simp at this
  omega

/-- The arguments of a construction are shorter than the construction. -/
theorem length_construction? {t name arguments : Text}
    (h : construction? t = some (name, arguments)) : arguments.length < t.length := by
  simp only [construction?, afterWord?, Option.map_eq_some_iff, Option.bind_eq_some_iff] at h
  obtain ⟨⟨name', arguments'⟩, ⟨rest, hrest, hcall⟩, heq⟩ := h
  simp only [Prod.mk.injEq] at heq
  obtain ⟨-, rfl⟩ := heq
  have hlen := length_call? hcall
  split at hrest
  · simp only [Option.some.injEq] at hrest
    rw [← hrest] at hlen
    simp at hlen
    omega
  · simp at hrest

/-- The arguments of a function call are shorter than the call. -/
theorem length_functionCall? {t name arguments : Text}
    (h : functionCall? t = some (name, arguments)) : arguments.length < t.length := by
  simp only [functionCall?, Option.map_eq_some_iff, Option.filter_eq_some_iff] at h
  obtain ⟨⟨name', arguments'⟩, ⟨hcall, -⟩, heq⟩ := h
  simp only [Prod.mk.injEq] at heq
  obtain ⟨-, rfl⟩ := heq
  have := length_call? hcall
  omega

theorem splitTop_ne_nil (n : Nesting) (t : Text) : splitTop n t ≠ [] := by
  cases t with
  | nil => simp [splitTop]
  | cons c t =>
    simp only [splitTop]
    split
    · simp
    · split <;> simp

/-- The pieces between commas hold the characters of the text without the commas. -/
theorem join_splitTop (n : Nesting) (t : Text) : Text.join [','] (splitTop n t) = t := by
  induction t generalizing n with
  | nil => rfl
  | cons c t ih =>
    simp only [splitTop]
    split
    · rename_i h
      have hc : c = ',' := by
        simp only [Bool.and_eq_true, beq_iff_eq] at h
        exact h.2
      have := ih n
      cases hs : splitTop n t with
      | nil => exact absurd hs (splitTop_ne_nil n t)
      | cons piece pieces =>
        rw [hs] at this
        simp [Text.join, this, hc]
    · have := ih (n.step c)
      cases hs : splitTop (n.step c) t with
      | nil => exact absurd hs (splitTop_ne_nil _ t)
      | cons piece pieces =>
        rw [hs] at this
        cases pieces with
        | nil => simpa [Text.join] using this
        | cons next others => simpa [Text.join] using this

/-- No argument is longer than the text of all of them. -/
theorem length_splitArguments_le {t argument : Text} (h : argument ∈ splitArguments t) :
    argument.length ≤ t.length := by
  unfold splitArguments at h
  split at h
  · simp at h
  · simp only [List.mem_map] at h
    obtain ⟨piece, hpiece, rfl⟩ := h
    have h1 := Text.length_le_of_mem_join [','] hpiece
    rw [join_splitTop] at h1
    exact Nat.le_trans (Text.length_trim_le piece) h1

/-- Neither part of an argument text is longer than the text. -/
theorem length_splitLastArgument_le (t : Text) :
    (splitLastArgument t).1.length ≤ t.length
      ∧ ∀ last ∈ (splitLastArgument t).2, last.length ≤ t.length := by
  unfold splitLastArgument
  split
  · rename_i last before others hrev
    have hpieces : splitTop .start t = (before :: others).reverse ++ [last] := by
      have := congrArg List.reverse hrev
      simpa using this
    have hjoin := join_splitTop .start t
    rw [hpieces] at hjoin
    constructor
    · refine Nat.le_trans (Text.length_trim_le _) ?_
      have := Text.length_join_le_of_append [','] (before :: others).reverse [last]
      rw [hjoin] at this
      exact this
    · intro text htext
      simp only [Option.mem_some_iff] at htext
      subst htext
      refine Nat.le_trans (Text.length_trim_le _) ?_
      have := Text.length_le_of_mem_join [',']
        (show last ∈ (before :: others).reverse ++ [last] by simp)
      rw [hjoin] at this
      exact this
  · exact ⟨Text.length_trim_le t, by simp⟩

end Filter
end RecordFilter
