import RecordFilter.Schema.RecordType

/-!
# Schema documents

A schema document declares a record type by the names of its field types, together with the
enumerations and nested record types that these names refer to. Building resolves the names; it
fails where a name is unknown or where a record type contains itself.
-/

namespace RecordFilter

/-- The declaration of an enumeration. -/
structure EnumDeclaration where
  flags : Bool
  members : FieldMap Int64
deriving DecidableEq, Repr

/-- A record type with the types of its fields given by name, and the types that the names mean. -/
structure SchemaDocument where
  name : String
  fields : FieldMap String
  enums : FieldMap EnumDeclaration
  records : FieldMap (FieldMap String)
deriving DecidableEq, Repr

/-- Why a schema document describes no record type. -/
inductive SchemaError where
  | selfReference (record : String)
  | unknownType (name : String)
  | inField (record field : String) (cause : SchemaError)
deriving DecidableEq, Repr

namespace SchemaError

/-- The messages from the outermost cause to the innermost one. -/
def messages : SchemaError → List String
  | .selfReference record => [s!"Record type '{record}' refers to itself"]
  | .unknownType name => [s!"Unknown type '{name}'"]
  | .inField record field cause =>
    s!"Failed to resolve type of field '{record}.{field}'" :: cause.messages

end SchemaError

namespace SchemaDocument

/-- The record types that are declared and not in the list. -/
def remaining (document : SchemaDocument) (visiting : List String) : Nat :=
  (document.records.names.filter fun name => !visiting.contains name).length

theorem length_filter_lt_of_imp {α : Type} {p q : α → Bool} (names : List α)
    (imp : ∀ a, p a = true → q a = true) {x : α} (mem : x ∈ names) (hq : q x = true)
    (hp : p x = false) : (names.filter p).length < (names.filter q).length := by
  induction names with
  | nil => simp at mem
  | cons a names ih =>
    have le : ∀ l : List α, (l.filter p).length ≤ (l.filter q).length := by
      intro l
      induction l with
      | nil => simp
      | cons b l ih =>
        by_cases hb : p b = true
        · simp [hb, imp b hb, ih]
        · by_cases hb' : q b = true
          · simp [hb, hb']
            omega
          · simp [hb, hb', ih]
    rcases List.mem_cons.1 mem with rfl | mem
    · simp [hq, hp]
      have := le names
      omega
    · have := ih mem
      by_cases ha : p a = true
      · simp [ha, imp a ha]
        omega
      · by_cases ha' : q a = true
        · simp [ha, ha']
          omega
        · simp [ha, ha', this]

theorem mem_names_of_get? {α : Type} {fields : FieldMap α} {name : String} {value : α}
    (h : fields.get? name = some value) : name ∈ fields.names := by
  induction fields with
  | nil => simp [FieldMap.get?] at h
  | cons pair rest ih =>
    obtain ⟨other, present⟩ := pair
    simp only [FieldMap.get?, List.lookup_cons] at h
    simp only [FieldMap.names, List.map_cons, List.mem_cons]
    by_cases hn : name == other
    · exact Or.inl (by simpa using hn)
    · simp only [hn] at h
      exact Or.inr (ih h)

/-- Visiting a declared record type leaves fewer of them. -/
theorem remaining_cons_lt {document : SchemaDocument} {visiting : List String} {name : String}
    {fields : FieldMap String} (declared : document.records.get? name = some fields)
    (fresh : visiting.contains name = false) :
    document.remaining (name :: visiting) < document.remaining visiting := by
  apply length_filter_lt_of_imp (x := name)
  · intro a ha
    simp at ha ⊢
    exact ha.2
  · exact mem_names_of_get? declared
  · simpa using fresh
  · simp

/-- What a type name refers to. -/
inductive TypeReference where
  | known (type : ValueType)
  | declaredRecord (name : String) (marked : Bool)
deriving Repr

/-- Looks a type name up among the scalar types, then the enumerations, then the record types. -/
def lookupType (document : SchemaDocument) (typeName : Text) : TypeReference :=
  match ValueType.ofScalarName? typeName with
  | some type => .known type
  | none =>
    let (base, marked) := ValueType.splitNullable typeName
    let base := String.ofList base
    match document.enums.get? base with
    | some declared =>
      .known (ValueType.withNull marked
        (.enumeration (EnumType.ofMembers base declared.flags declared.members)))
    | none => .declaredRecord base marked

/-- The fields of the record types that have been built, by the name of the record type. -/
abbrev BuiltRecords := FieldMap (FieldMap ValueType)

mutual

/-- The type that a type name means, inside the record types `visiting`, and the record types that have
been built by then. A record type is built once, however often it is named. -/
def resolveType (document : SchemaDocument) (visiting : List String) (built : BuiltRecords)
    (typeName : Text) : Except SchemaError (ValueType × BuiltRecords) :=
  match document.lookupType typeName with
  | .known type => .ok (type, built)
  | .declaredRecord name marked =>
    match _declared : document.records.get? name with
    | none => .error (.unknownType name)
    | some fields =>
      match built.get? name with
      | some types => .ok (ValueType.withNull marked (.record name types), built)
      | none =>
        if _fresh : visiting.contains name = false then
          (resolveFields document (name :: visiting) built name fields).map fun (types, built) =>
            (ValueType.withNull marked (.record name types), built.insert name types)
        else .error (.selfReference name)
termination_by (document.remaining visiting, 0)
decreasing_by exact Prod.Lex.left _ _ (remaining_cons_lt (by assumption) (by assumption))

/-- The types of the fields of a record type, inside the record types `visiting`, and the record types that
have been built by then. The first field without a type is the error. -/
def resolveFields (document : SchemaDocument) (visiting : List String) (built : BuiltRecords)
    (record : String) :
    List (String × String) → Except SchemaError (List (String × ValueType) × BuiltRecords)
  | [] => .ok ([], built)
  | (field, typeName) :: rest =>
    match resolveType document visiting built typeName.toList with
    | .error cause => .error (.inField record field cause)
    | .ok (type, built) =>
      (resolveFields document visiting built record rest).map fun (types, built) =>
        ((field, type) :: types, built)
termination_by fields => (document.remaining visiting, fields.length + 1)
decreasing_by
  · exact Prod.Lex.right _ (by simp)
  · exact Prod.Lex.right _ (by simp)

end

/-- The type that a type name means in the document. -/
def typeOf? (document : SchemaDocument) (typeName : Text) : Option ValueType :=
  (document.resolveType [document.name] [] typeName).toOption.map Prod.fst

/-- The record type that a document declares. -/
def build (document : SchemaDocument) : Except SchemaError RecordType :=
  (document.resolveFields [document.name] [] document.name document.fields).map fun (fields, _) =>
    ⟨document.name, fields⟩

end SchemaDocument
end RecordFilter
