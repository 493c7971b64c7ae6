import RecordFilter.Proofs.LiteralTexts
import RecordFilter.Proofs.TokenSets
import RecordFilter.Schema.RecordType

/-!
# Names of fields

A path is written as the names of its fields with slashes in between. Where field names are identifiers
and none of the words that mean something else in a filter, the text of a path leads back to the path,
and no other text resolves.

Main statements: `resolvePath?_render`, and `resolvePath?_eq_none_of_mem` for texts that hold a
character of no name.
-/

namespace RecordFilter

open RecordFilter.Filter

/-! ## Well-named schemas -/

/-- The words that mean something by themselves: the operators and the literals. -/
def reservedWords : List String :=
  operationWords ++ ["true", "false", "null"]

/-- Whether a text is an identifier and not a reserved word in any case. -/
def isFieldName (t : Text) : Bool :=
  isIdentifier t && !isOneOf reservedWords t

namespace ValueType

mutual

/-- Whether the field names and member names inside of a type are well-formed. -/
def isWellNamed : ValueType → Bool
  | .enumeration e => e.isWellNamed
  | .record _ fields => areWellNamed fields
  | .nullable inner => inner.isWellNamed
  | _ => true

/-- Whether fields have well-formed names and types. -/
def areWellNamed : List (String × ValueType) → Bool
  | [] => true
  | (name, type) :: rest => isFieldName name.toList && type.isWellNamed && areWellNamed rest

end

theorem isWellNamed_underlying : ∀ type : ValueType, type.underlying.isWellNamed = type.isWellNamed
  | .nullable inner => by
    rw [underlying, isWellNamed, isWellNamed_underlying inner]
  | .boolean | .int32 | .int64 | .double | .decimal | .string | .dateTime | .guid | .enumeration _
  | .record .. | .null => rfl

/-- The name and the type of a field that is found among well-named ones. -/
theorem wellNamed_of_get? {fields : FieldMap ValueType} (h : areWellNamed fields = true)
    {name : String} {type : ValueType} (hget : fields.get? name = some type) :
    isFieldName name.toList = true ∧ type.isWellNamed = true := by
  induction fields with
  | nil => cases hget
  | cons field rest ih =>
    obtain ⟨other, otherType⟩ := field
    simp only [areWellNamed, Bool.and_eq_true] at h
    simp only [FieldMap.get?, List.lookup_cons] at hget
    by_cases hname : name == other
    · simp only [hname, Option.some.injEq] at hget
      rw [beq_iff_eq.1 hname, ← hget]
      exact h.1
    · simp only [hname] at hget
      exact ih h.2 hget

end ValueType

namespace RecordType

/-- Whether the field names at every level and the member names of enumerations are well-formed. -/
def isWellNamed (schema : RecordType) : Bool :=
  ValueType.areWellNamed schema.fields

/-- A path goes along field names. -/
theorem wellNamed_of_follow? {type target : ValueType} {segments : List String}
    (h : type.isWellNamed = true) (hfollow : follow? type segments = some target) :
    target.isWellNamed = true ∧ ∀ name ∈ segments, isFieldName name.toList = true := by
  induction segments generalizing type with
  | nil =>
    cases hfollow
    exact ⟨h, by simp⟩
  | cons name rest ih =>
    simp only [follow?, Option.bind_eq_some_iff] at hfollow
    obtain ⟨fields, hfields, next, hnext, hfollow⟩ := hfollow
    rw [← ValueType.isWellNamed_underlying] at h
    unfold ValueType.fields? at hfields
    split at hfields
    · rename_i hrecord
      cases hfields
      rw [hrecord, ValueType.isWellNamed] at h
      obtain ⟨hname, hnamed⟩ := ValueType.wellNamed_of_get? h hnext
      obtain ⟨htarget, hrest⟩ := ih hnamed hfollow
      exact ⟨htarget, List.forall_mem_cons.2 ⟨hname, hrest⟩⟩
    · cases hfields

variable {schema : RecordType}

theorem wellNamed_of_resolveSegments? (h : schema.isWellNamed = true) {segments : List String}
    {path : PropertyPath} {type : ValueType}
    (hresolve : schema.resolveSegments? segments = some (path, type)) :
    segments ≠ [] ∧ path = ⟨segments⟩ ∧ type.isWellNamed = true ∧
      ∀ name ∈ segments, isFieldName name.toList = true := by
  unfold resolveSegments? at hresolve
  split at hresolve
  · cases hresolve
  · rename_i hne
    simp only [Option.map_eq_some_iff, Prod.mk.injEq] at hresolve
    obtain ⟨target, hfollow, rfl, rfl⟩ := hresolve
    have htype : schema.toType.isWellNamed = true := h
    obtain ⟨htarget, hnames⟩ := wellNamed_of_follow? htype hfollow
    exact ⟨by simpa using hne, rfl, htarget, hnames⟩

end RecordType

/-! ## Texts of paths -/

theorem plain_of_isIdentifierChar {c : Char} (h : isIdentifierChar c = true) :
    Nesting.isQuote c = false ∧ c ≠ '(' ∧ c ≠ ')' := by
  have hne := fun d => ne_of_isIdentifierChar (d := d) h
  exact ⟨by simp [Nesting.isQuote, hne], hne _ (by decide), hne _ (by decide)⟩

theorem isOperation_of_isFieldName {t : Text} (h : isFieldName t = true) : isOperation t = false := by
  simp only [isFieldName, isOneOf, reservedWords, Bool.and_eq_true, Bool.not_eq_true',
    List.any_append, Bool.or_eq_false_iff] at h
  exact h.2.1

theorem isIdentifier_of_isFieldName {t : Text} (h : isFieldName t = true) : isIdentifier t = true := by
  unfold isFieldName at h
  rw [Bool.and_eq_true] at h
  exact h.1

namespace PropertyPath

theorem toList_render (path : PropertyPath) :
    path.render.toList = Text.join ['/'] (path.segments.map String.toList) := by
  rw [render, join, String.toList_intercalate, Text.join_eq_intercalate]
  rfl

/-- The text of a path has the characters of its names, and slashes. -/
theorem mem_render {path : PropertyPath}
    (hnames : ∀ name ∈ path.segments, isFieldName name.toList = true)
    {c : Char} (hc : c ∈ path.render.toList) : c = '/' ∨ isIdentifierChar c = true := by
  rw [toList_render] at hc
  rcases Text.mem_join hc with hc | ⟨piece, hpiece, hc⟩
  · exact .inl (List.mem_singleton.1 hc)
  · obtain ⟨name, hname, rfl⟩ := List.mem_map.1 hpiece
    exact .inr (isIdentifierChar_of_mem (isIdentifier_of_isFieldName (hnames name hname)) hc)

/-- A path is no operator: it is a field name, or it has a slash. -/
theorem isOperation_render {path : PropertyPath}
    (hnames : ∀ name ∈ path.segments, isFieldName name.toList = true) :
    isOperation path.render.toList = false := by
  rw [toList_render]
  match hsegments : path.segments with
  | [] => decide
  | [name] =>
    have hname : name ∈ path.segments := by
      rw [hsegments]
      exact List.mem_cons_self
    exact isOperation_of_isFieldName (hnames name hname)
  | _ :: _ :: _ => exact isOperation_eq_false (c := '/') (by simp [Text.join]) (by decide)

end PropertyPath

namespace RecordType

variable {schema : RecordType}

/-- The text of a path has its names between the slashes. -/
theorem resolvePath?_render_of_names (schema : RecordType) {path : PropertyPath}
    (hne : path.segments ≠ [])
    (hnames : ∀ name ∈ path.segments, Text.trim name.toList = name.toList ∧ '/' ∉ name.toList) :
    schema.resolvePath? path.render.toList = schema.resolveSegments? path.segments := by
  have hsegments : (Text.split '/' path.render.toList).map (fun name => String.ofList (Text.trim name))
      = path.segments := by
    rw [PropertyPath.toList_render]
    obtain ⟨first, rest, hcons⟩ := List.exists_cons_of_ne_nil hne
    rw [hcons] at hnames ⊢
    rw [List.map_cons, Text.split_join, ← List.map_cons, List.map_map]
    · refine (List.map_congr_left fun name hname => ?_).trans (List.map_id _)
      show String.ofList (Text.trim name.toList) = name
      rw [(hnames name hname).1, String.ofList_toList]
    · intro other hother hslash
      rw [← List.map_cons] at hother
      obtain ⟨name, hname, rfl⟩ := List.mem_map.1 hother
      exact (hnames name hname).2 hslash
  rw [resolvePath?, hsegments]

/-- A name by itself is looked up among the fields of the record type. -/
theorem resolvePath?_name (schema : RecordType) {name : String}
    (htrim : Text.trim name.toList = name.toList) (hslash : '/' ∉ name.toList) :
    schema.resolvePath? name.toList = (schema.field? name).map fun type => (⟨[name]⟩, type) := by
  have hrender : (PropertyPath.mk [name]).render.toList = name.toList := PropertyPath.toList_render _
  rw [← hrender, resolvePath?_render_of_names schema (List.cons_ne_nil name [])
    (by simpa using ⟨htrim, hslash⟩)]
  unfold field? resolveSegments? follow?
  simp [toType, ValueType.fields?, ValueType.underlying, follow?]

/-- The text of a path leads back to the path. -/
theorem resolvePath?_render (h : schema.isWellNamed = true) {path : PropertyPath} {type : ValueType}
    (hresolve : schema.resolveSegments? path.segments = some (path, type)) :
    schema.resolvePath? path.render.toList = some (path, type) := by
  obtain ⟨hne, -, -, hnames⟩ := wellNamed_of_resolveSegments? h hresolve
  rw [resolvePath?_render_of_names schema hne, hresolve]
  intro name hname
  have hident := isIdentifier_of_isFieldName (hnames name hname)
  refine ⟨(isTrimmed_of_isIdentifier hident).trim_eq, fun hslash => ?_⟩
  have hchar := isIdentifierChar_of_mem hident hslash
  exact absurd hchar (by decide)

/-- A text that resolves has field names between its slashes. -/
theorem isFieldName_of_resolvePath? (h : schema.isWellNamed = true) {t : Text}
    {found : PropertyPath × ValueType} (hresolve : schema.resolvePath? t = some found) :
    ∀ piece ∈ Text.split '/' t, isFieldName (Text.trim piece) = true := by
  intro piece hpiece
  obtain ⟨-, -, -, hnames⟩ := wellNamed_of_resolveSegments? h hresolve
  have hname := hnames _ (List.mem_map.2 ⟨piece, hpiece, rfl⟩)
  rwa [String.toList_ofList] at hname

/-- A text with a character that is in no name does not resolve. -/
theorem resolvePath?_eq_none_of_mem (h : schema.isWellNamed = true) {t : Text} {c : Char} (hc : c ∈ t)
    (hname : isIdentifierChar c = false) (hslash : c ≠ '/') (hblank : Text.isBlankChar c = false) :
    schema.resolvePath? t = none := by
  refine Option.eq_none_iff_forall_ne_some.2 fun found hfound => ?_
  obtain ⟨piece, hpiece, hmem⟩ := Text.exists_piece_of_mem (· == '/') hc (by simpa using hslash)
  have hident := isIdentifier_of_isFieldName (isFieldName_of_resolvePath? h hfound piece hpiece)
  have hchar := isIdentifierChar_of_mem hident (Text.mem_trim hmem hblank)
  rw [hname] at hchar
  cases hchar

/-- A single word that is no field name does not resolve. -/
theorem resolvePath?_eq_none_of_word (h : schema.isWellNamed = true) {t : Text} (hslash : '/' ∉ t)
    (htrim : Text.trim t = t) (hname : isFieldName t = false) : schema.resolvePath? t = none := by
  refine Option.eq_none_iff_forall_ne_some.2 fun found hfound => ?_
  have hsplit : Text.split '/' t = [t] :=
    Text.splitWhere_eq_singleton fun c hc => by simpa using fun heq : c = '/' => hslash (heq ▸ hc)
  have hpiece := isFieldName_of_resolvePath? h hfound t (by rw [hsplit]; exact List.mem_cons_self)
  rw [htrim, hname] at hpiece
  cases hpiece

end RecordType
end RecordFilter
