import Mathlib.Logic.Relation
import RecordFilter.Proofs.Outcomes
import RecordFilter.Schema.Document

/-!
# Building schema documents

A schema document can be built if and only if it is well founded: every type name that is used resolves, and
no record type contains itself. What counts is what can be reached from the root; other declarations change
nothing.

The builder searches depth first. It keeps the record types that it is inside of, to notice one that contains
itself, and those that it has built, to build none of them twice. Each of the two has an invariant: what was
built has the types that its declaration says (`AreDeclared`), and what the builder is inside of leads to the
record types that are named next (`LeadTo`), so that one that is named again contains itself.

Main statement: `SchemaDocument.build_iff_isWellFounded`.
-/

namespace RecordFilter
namespace SchemaDocument

/-! ## What type names mean -/

/-- The name in a type name, without the question mark. -/
def baseName (typeName : String) : String :=
  String.ofList (ValueType.splitNullable typeName.toList).1

/-- Whether a type name has a question mark. -/
def isMarked (typeName : String) : Bool :=
  (ValueType.splitNullable typeName.toList).2

variable (document : SchemaDocument)

/-- The type name means an enumeration. Scalar types come first. -/
def NamesEnum (typeName : String) (declared : EnumDeclaration) : Prop :=
  ValueType.ofScalarName? typeName.toList = none ∧ document.enums.get? (baseName typeName) = some declared

/-- The type name means a record type. Scalar types and enumerations come first. -/
def NamesRecord (typeName : String) (fields : FieldMap String) : Prop :=
  ValueType.ofScalarName? typeName.toList = none ∧ document.enums.get? (baseName typeName) = none ∧
    document.records.get? (baseName typeName) = some fields

/-- The type name means something. -/
def Resolves (typeName : String) : Prop :=
  (ValueType.ofScalarName? typeName.toList).isSome ∨
    (∃ declared, document.NamesEnum typeName declared) ∨
    ∃ fields, document.NamesRecord typeName fields

mutual

/-- The types that type names mean. Nested record types have a type for each of their fields. -/
inductive Declares (document : SchemaDocument) : String → ValueType → Prop
  | scalar {typeName : String} {type : ValueType}
      (known : ValueType.ofScalarName? typeName.toList = some type) : Declares document typeName type
  | enumeration {typeName : String} {declared : EnumDeclaration}
      (named : document.NamesEnum typeName declared) :
      Declares document typeName (ValueType.withNull (isMarked typeName)
        (.enumeration (EnumType.ofMembers (baseName typeName) declared.flags declared.members)))
  | record {typeName : String} {fields : FieldMap String} {types : FieldMap ValueType}
      (named : document.NamesRecord typeName fields) (typed : DeclaresFields document fields types) :
      Declares document typeName
        (ValueType.withNull (isMarked typeName) (.record (baseName typeName) types))

/-- Fields that have the types that their type names mean. -/
inductive DeclaresFields (document : SchemaDocument) : FieldMap String → FieldMap ValueType → Prop
  | nil : DeclaresFields document [] []
  | cons {field typeName : String} {type : ValueType} {rest : FieldMap String}
      {types : FieldMap ValueType} (first : Declares document typeName type)
      (others : DeclaresFields document rest types) :
      DeclaresFields document ((field, typeName) :: rest) ((field, type) :: types)

end

/-! ## What can be reached -/

/-- The type name means this record type. -/
def RefersTo (typeName record : String) : Prop :=
  (∃ fields, document.NamesRecord typeName fields) ∧ baseName typeName = record

/-- A record type has a field of another one. -/
def Refers (record other : String) : Prop :=
  ∃ fields, document.records.get? record = some fields ∧
    ∃ field ∈ fields, document.RefersTo field.2 other

/-- The record types that can be reached from the root. -/
inductive IsReachable (document : SchemaDocument) : String → Prop
  | root {field : String × String} {record : String} (mem : field ∈ document.fields)
      (refers : document.RefersTo field.2 record) : IsReachable document record
  | step {record other : String} (reachable : IsReachable document record)
      (refers : document.Refers record other) : IsReachable document other

/-- The type names of the root and of the record types that can be reached from it. -/
def Uses (typeName : String) : Prop :=
  (∃ field ∈ document.fields, field.2 = typeName) ∨
    ∃ record fields, document.IsReachable record ∧ document.records.get? record = some fields ∧
      ∃ field ∈ fields, field.2 = typeName

/-- Every type name that is used means something, and no record type that can be reached contains itself. -/
structure IsWellFounded : Prop where
  resolves : ∀ typeName, document.Uses typeName → document.Resolves typeName
  acyclic : ∀ record, document.IsReachable record → ¬Relation.TransGen document.Refers record record

/-- Another document that declares the same root, and means the same by every type name that is used. -/
structure AgreesWith (other : SchemaDocument) : Prop where
  name : other.name = document.name
  fields : other.fields = document.fields
  enums : ∀ typeName, document.Uses typeName → ValueType.ofScalarName? typeName.toList = none →
    other.enums.get? (baseName typeName) = document.enums.get? (baseName typeName)
  records : ∀ typeName, document.Uses typeName → ValueType.ofScalarName? typeName.toList = none →
    document.enums.get? (baseName typeName) = none →
      other.records.get? (baseName typeName) = document.records.get? (baseName typeName)

/-! ## One step of the builder -/

section Step

variable {document} {visiting : List String} {built : BuiltRecords} {typeName : String}

/-- A name of no scalar is looked up among the enums, and then among the records. -/
theorem lookupType_of_notScalar (h : ValueType.ofScalarName? typeName.toList = none) :
    document.lookupType typeName.toList = match document.enums.get? (baseName typeName) with
      | some declared => .known (ValueType.withNull (isMarked typeName)
        (.enumeration (EnumType.ofMembers (baseName typeName) declared.flags declared.members)))
      | none => .declaredRecord (baseName typeName) (isMarked typeName) := by
  rw [lookupType, h]
  rfl

theorem resolveType_scalar {type : ValueType} (h : ValueType.ofScalarName? typeName.toList = some type) :
    document.resolveType visiting built typeName.toList = .ok (type, built) := by
  rw [resolveType, lookupType, h]

theorem resolveType_enum {declared : EnumDeclaration} (h : document.NamesEnum typeName declared) :
    document.resolveType visiting built typeName.toList = .ok (ValueType.withNull (isMarked typeName)
        (.enumeration (EnumType.ofMembers (baseName typeName) declared.flags declared.members)), built) := by
  rw [resolveType, lookupType_of_notScalar h.1, h.2]

/-- A type name without a declaration is reported by its base name. -/
theorem resolveType_undeclared (hscalar : ValueType.ofScalarName? typeName.toList = none)
    (henum : document.enums.get? (baseName typeName) = none)
    (hrecord : document.records.get? (baseName typeName) = none) :
    document.resolveType visiting built typeName.toList = .error (.unknownType (baseName typeName)) := by
  rw [resolveType, lookupType_of_notScalar hscalar, henum]
  simp only
  split
  · rfl
  · simp_all

/-- A record that is built already is not built again; one that is being visited is a cycle. -/
theorem resolveType_record {fields : FieldMap String} (h : document.NamesRecord typeName fields) :
    document.resolveType visiting built typeName.toList =
      match built.get? (baseName typeName) with
      | some types => .ok (ValueType.withNull (isMarked typeName) (.record (baseName typeName) types), built)
      | none =>
        if visiting.contains (baseName typeName) = false then
          (document.resolveFields (baseName typeName :: visiting) built (baseName typeName) fields).map
            fun result => (ValueType.withNull (isMarked typeName) (.record (baseName typeName) result.1),
              result.2.insert (baseName typeName) result.1)
        else .error (.selfReference (baseName typeName)) := by
  rw [resolveType, lookupType_of_notScalar h.1, h.2.1]
  simp only
  split
  · simp_all [NamesRecord]
  · rename_i found hfound
    rw [h.2.2] at hfound
    cases hfound
    rfl

/-- A type name means a scalar type, an enumeration or a record type, or nothing. -/
theorem reference_cases (document : SchemaDocument) (typeName : String) :
    (∃ type, ValueType.ofScalarName? typeName.toList = some type) ∨
      (∃ declared, document.NamesEnum typeName declared) ∨
      (∃ fields, document.NamesRecord typeName fields) ∨
      (ValueType.ofScalarName? typeName.toList = none ∧ document.enums.get? (baseName typeName) = none ∧
        document.records.get? (baseName typeName) = none) := by
  cases hscalar : ValueType.ofScalarName? typeName.toList with
  | some type => exact .inl ⟨type, rfl⟩
  | none =>
    cases henum : document.enums.get? (baseName typeName) with
    | some declared => exact .inr (.inl ⟨declared, hscalar, henum⟩)
    | none =>
      cases hrecord : document.records.get? (baseName typeName) with
      | some fields => exact .inr (.inr (.inl ⟨fields, hscalar, henum, hrecord⟩))
      | none => exact .inr (.inr (.inr ⟨rfl, rfl, rfl⟩))

end Step

/-! ## What is built is declared -/

/-- The fields of a declared record type have these types. -/
def HasTypes (record : String) (types : FieldMap ValueType) : Prop :=
  ∃ fields, document.records.get? record = some fields ∧ document.DeclaresFields fields types

/-- What has been built has the types that its declaration says. -/
def AreDeclared (built : BuiltRecords) : Prop :=
  ∀ record types, built.get? record = some types → document.HasTypes record types

variable {document}

/-- A record with the types of its declaration may join the built ones. -/
theorem AreDeclared.insert {built : BuiltRecords} {record : String} {types : FieldMap ValueType}
    (h : document.AreDeclared built) (htypes : document.HasTypes record types) :
    document.AreDeclared (built.insert record types) := by
  intro other found hother
  rw [FieldMap.get?_insert] at hother
  split at hother
  · rename_i hsame
    cases hother
    exact hsame ▸ htypes
  · exact h other found hother

mutual

/-- What `resolveType` gives is the declared type, and the built records stay the declared ones. -/
theorem declares_of_resolveType {visiting : List String} {built built' : BuiltRecords} {typeName : String}
    {type : ValueType} (hbuilt : document.AreDeclared built)
    (h : document.resolveType visiting built typeName.toList = .ok (type, built')) :
    document.Declares typeName type ∧ document.AreDeclared built' := by
  rcases document.reference_cases typeName with
    ⟨type, hscalar⟩ | ⟨declared, henum⟩ | ⟨fields, hrecord⟩ | ⟨hscalar, henum, hrecord⟩
  · rw [resolveType_scalar hscalar] at h
    cases h
    exact ⟨.scalar hscalar, hbuilt⟩
  · rw [resolveType_enum henum] at h
    cases h
    exact ⟨.enumeration henum, hbuilt⟩
  · rw [resolveType_record hrecord] at h
    split at h
    · rename_i types htypes
      cases h
      obtain ⟨declared, hdeclared, htyped⟩ := hbuilt _ _ htypes
      rw [hrecord.2.2] at hdeclared
      cases hdeclared
      exact ⟨.record hrecord htyped, hbuilt⟩
    · split at h
      · rename_i hfresh
        have hfewer := remaining_cons_lt hrecord.2.2 hfresh
        obtain ⟨⟨types, after⟩, hresolve, heq⟩ := Except.map_eq_ok_iff.1 h
        cases heq
        obtain ⟨htyped, hafter⟩ := declaresFields_of_resolveFields hbuilt hresolve
        exact ⟨.record hrecord htyped, hafter.insert ⟨fields, hrecord.2.2, htyped⟩⟩
      · cases h
  · rw [resolveType_undeclared hscalar henum hrecord] at h
    cases h
termination_by (document.remaining visiting, 0)
decreasing_by exact Prod.Lex.left _ _ hfewer

/-- `declares_of_resolveType` for the fields of a record, in their order. -/
theorem declaresFields_of_resolveFields {visiting : List String} {built built' : BuiltRecords}
    {record : String} {fields : FieldMap String} {types : FieldMap ValueType}
    (hbuilt : document.AreDeclared built)
    (h : document.resolveFields visiting built record fields = .ok (types, built')) :
    document.DeclaresFields fields types ∧ document.AreDeclared built' := by
  match fields with
  | [] =>
    rw [resolveFields] at h
    cases h
    exact ⟨.nil, hbuilt⟩
  | (field, typeName) :: rest =>
    rw [resolveFields] at h
    split at h
    · cases h
    · rename_i type after htype
      obtain ⟨⟨others, last⟩, hothers, heq⟩ := Except.map_eq_ok_iff.1 h
      cases heq
      obtain ⟨hfirst, hafter⟩ := declares_of_resolveType hbuilt htype
      obtain ⟨hrest, hlast⟩ := declaresFields_of_resolveFields hafter hothers
      exact ⟨.cons hfirst hrest, hlast⟩
termination_by (document.remaining visiting, fields.length + 1)
decreasing_by
  · exact Prod.Lex.right _ (by simp)
  · exact Prod.Lex.right _ (by simp)

end

/-! ## One meaning -/

mutual

/-- A type name means one type. -/
theorem Declares.unique : ∀ {typeName : String} {type other : ValueType},
    document.Declares typeName type → document.Declares typeName other → type = other
  | _, _, _, .scalar known, .scalar known' => Option.some.inj (known.symm.trans known')
  | _, _, _, .scalar known, .enumeration named => nomatch known.symm.trans named.1
  | _, _, _, .scalar known, .record named _ => nomatch known.symm.trans named.1
  | _, _, _, .enumeration named, .scalar known => nomatch named.1.symm.trans known
  | _, _, _, .enumeration named, .enumeration named' => by
    cases named.2.symm.trans named'.2
    rfl
  | _, _, _, .enumeration named, .record named' _ => nomatch named.2.symm.trans named'.2.1
  | _, _, _, .record named _, .scalar known => nomatch named.1.symm.trans known
  | _, _, _, .record named _, .enumeration named' => nomatch named.2.1.symm.trans named'.2
  | _, _, _, .record named typed, .record named' typed' => by
    cases named.2.2.symm.trans named'.2.2
    rw [DeclaresFields.unique typed typed']

/-- A document declares at most one list of types for its fields. -/
theorem DeclaresFields.unique : ∀ {fields : FieldMap String} {types others : FieldMap ValueType},
    document.DeclaresFields fields types → document.DeclaresFields fields others → types = others
  | _, _, _, .nil, .nil => rfl
  | _, _, _, .cons first rest, .cons first' rest' => by
    rw [Declares.unique first first', DeclaresFields.unique rest rest']

end

/-! ## What is declared is well founded -/

theorem DeclaresFields.exists_of_mem {fields : FieldMap String} {types : FieldMap ValueType}
    (h : document.DeclaresFields fields types) {field : String × String} (hfield : field ∈ fields) :
    ∃ type, document.Declares field.2 type ∧ sizeOf type < sizeOf types := by
  induction fields generalizing types with
  | nil => cases hfield
  | cons first rest ih =>
    cases h with
    | @cons name typeName type _ types hfirst hrest =>
      rcases List.mem_cons.1 hfield with rfl | hmem
      · exact ⟨type, hfirst, by simp; omega⟩
      · obtain ⟨found, hfound, hsize⟩ := ih hrest hmem
        exact ⟨found, hfound, by simp; omega⟩

/-- Record types have null without being marked. -/
theorem withNull_record (marked : Bool) (name : String) (types : FieldMap ValueType) :
    ValueType.withNull marked (.record name types) = .record name types := by
  cases marked <;> rfl

/-- A type name that declares a type resolves. -/
theorem Declares.resolves {typeName : String} {type : ValueType} (h : document.Declares typeName type) :
    document.Resolves typeName := by
  cases h with
  | scalar known => exact .inl (by rw [known]; rfl)
  | enumeration named => exact .inr (.inl ⟨_, named⟩)
  | record named _ => exact .inr (.inr ⟨_, named⟩)

/-- A nested record type is smaller than the type that a type name means. -/
theorem Declares.exists_of_refersTo {typeName record : String} {type : ValueType}
    (h : document.Declares typeName type) (hrefers : document.RefersTo typeName record) :
    ∃ types, document.HasTypes record types ∧ sizeOf types < sizeOf type := by
  obtain ⟨⟨fields, hnamed⟩, rfl⟩ := hrefers
  cases h with
  | scalar known =>
    rw [hnamed.1] at known
    cases known
  | enumeration named =>
    have hfound := named.2
    rw [hnamed.2.1] at hfound
    cases hfound
  | @record _ _ types named typed =>
    rw [withNull_record, ValueType.record.sizeOf_spec]
    exact ⟨types, ⟨_, named.2.2, typed⟩, by omega⟩

/-- A record that another one refers to has types of its own, smaller than those of the other. -/
theorem HasTypes.exists_of_refers {record other : String} {types : FieldMap ValueType}
    (h : document.HasTypes record types) (hrefers : document.Refers record other) :
    ∃ inner, document.HasTypes other inner ∧ sizeOf inner < sizeOf types := by
  obtain ⟨fields, hfields, htypes⟩ := h
  obtain ⟨found, hfound, field, hfield, hto⟩ := hrefers
  rw [hfields] at hfound
  cases hfound
  obtain ⟨type, htype, hsize⟩ := htypes.exists_of_mem hfield
  obtain ⟨inner, hinner, hless⟩ := htype.exists_of_refersTo hto
  exact ⟨inner, hinner, by omega⟩

/-- `HasTypes.exists_of_refers` along a path of references. -/
theorem HasTypes.exists_of_transGen {record other : String} {types : FieldMap ValueType}
    (h : document.HasTypes record types) (hrefers : Relation.TransGen document.Refers record other) :
    ∃ inner, document.HasTypes other inner ∧ sizeOf inner < sizeOf types := by
  induction hrefers with
  | single hrefers => exact h.exists_of_refers hrefers
  | tail _ hrefers ih =>
    obtain ⟨inner, hinner, hsize⟩ := ih
    obtain ⟨last, hlast, hless⟩ := hinner.exists_of_refers hrefers
    exact ⟨last, hlast, by omega⟩

/-- Types are finite, so no record type that has types contains itself. -/
theorem HasTypes.not_transGen {record : String} {types : FieldMap ValueType}
    (h : document.HasTypes record types) : ¬Relation.TransGen document.Refers record record := by
  intro hcycle
  induction hsize : sizeOf types using Nat.strongRecOn generalizing types with
  | ind n ih =>
    obtain ⟨inner, hinner, hless⟩ := h.exists_of_transGen hcycle
    exact ih _ (hsize ▸ hless) hinner rfl

/-- Every record reachable from a document with types has types. -/
theorem exists_hasTypes_of_isReachable {types : FieldMap ValueType}
    (h : document.DeclaresFields document.fields types) {record : String}
    (hreachable : document.IsReachable record) : ∃ inner, document.HasTypes record inner := by
  induction hreachable with
  | root mem refers =>
    obtain ⟨type, htype, -⟩ := h.exists_of_mem mem
    obtain ⟨inner, hinner, -⟩ := htype.exists_of_refersTo refers
    exact ⟨inner, hinner⟩
  | step _ refers ih =>
    obtain ⟨inner, hinner⟩ := ih
    obtain ⟨last, hlast, -⟩ := hinner.exists_of_refers refers
    exact ⟨last, hlast⟩

/-- A document whose fields have types is well-founded: a cycle would make a type smaller than itself. -/
theorem DeclaresFields.isWellFounded {types : FieldMap ValueType}
    (h : document.DeclaresFields document.fields types) : document.IsWellFounded where
  resolves := by
    rintro typeName (⟨field, hfield, rfl⟩ | ⟨record, fields, hreachable, hfields, field, hfield, rfl⟩)
    · obtain ⟨type, htype, -⟩ := h.exists_of_mem hfield
      exact htype.resolves
    · obtain ⟨inner, found, hfound, htypes⟩ := exists_hasTypes_of_isReachable h hreachable
      rw [hfields] at hfound
      cases hfound
      obtain ⟨type, htype, -⟩ := htypes.exists_of_mem hfield
      exact htype.resolves
  acyclic := by
    intro record hreachable
    obtain ⟨inner, hinner⟩ := exists_hasTypes_of_isReachable h hreachable
    exact hinner.not_transGen

/-! ## What is well founded is built -/

/-- The record types that the builder is inside of lead to what the type name means. The root does not count,
since no type name means it. -/
def LeadTo (document : SchemaDocument) (visiting : List String) (typeName : String) : Prop :=
  ∀ record ∈ visiting, document.records.get? record = none ∨
    ∀ other, document.RefersTo typeName other → Relation.TransGen document.Refers record other

/-- A record that a used type name refers to is reachable. -/
theorem Uses.isReachable {typeName record : String} (h : document.Uses typeName)
    (hrefers : document.RefersTo typeName record) : document.IsReachable record := by
  rcases h with ⟨field, hfield, rfl⟩ | ⟨outer, fields, houter, hfields, field, hfield, rfl⟩
  · exact .root hfield hrefers
  · exact .step houter ⟨fields, hfields, field, hfield, hrefers⟩

/-- A field of a record type that is used has a type name that is used. -/
theorem Uses.field {typeName : String} {fields : FieldMap String} (h : document.Uses typeName)
    (hnamed : document.NamesRecord typeName fields) {field : String × String} (hfield : field ∈ fields) :
    document.Uses field.2 :=
  .inr ⟨_, fields, h.isReachable ⟨⟨fields, hnamed⟩, rfl⟩, hnamed.2.2, field, hfield, rfl⟩

/-- Inside of one more record type, the same holds of its fields. -/
theorem LeadTo.cons {visiting : List String} {typeName : String} {fields : FieldMap String}
    (h : document.LeadTo visiting typeName) (hnamed : document.NamesRecord typeName fields)
    {field : String × String} (hfield : field ∈ fields) :
    document.LeadTo (baseName typeName :: visiting) field.2 := by
  have hrefers : ∀ other, document.RefersTo field.2 other → document.Refers (baseName typeName) other :=
    fun other hother => ⟨fields, hnamed.2.2, field, hfield, hother⟩
  intro record hrecord
  rcases List.mem_cons.1 hrecord with rfl | hrecord
  · exact .inr fun other hother => .single (hrefers other hother)
  · rcases h record hrecord with hnone | hlead
    · exact .inl hnone
    · exact .inr fun other hother =>
        (hlead (baseName typeName) ⟨⟨fields, hnamed⟩, rfl⟩).tail (hrefers other hother)

/-- The builder is not yet inside of a record type that is named. -/
theorem LeadTo.fresh {visiting : List String} {typeName : String} {fields : FieldMap String}
    (h : document.LeadTo visiting typeName) (hwell : document.IsWellFounded)
    (huses : document.Uses typeName) (hnamed : document.NamesRecord typeName fields) :
    visiting.contains (baseName typeName) = false := by
  have hself : document.RefersTo typeName (baseName typeName) := ⟨⟨fields, hnamed⟩, rfl⟩
  refine Bool.eq_false_iff.2 fun hinside => ?_
  rcases h _ (List.contains_iff_mem.1 hinside) with hnone | hlead
  · rw [hnamed.2.2] at hnone
    cases hnone
  · exact hwell.acyclic _ (huses.isReachable hself) (hlead _ hself)

mutual

/-- In a well-founded document every used type resolves, by induction over the records that may still be
visited. -/
theorem exists_resolveType (hwell : document.IsWellFounded) {visiting : List String} (built : BuiltRecords)
    {typeName : String} (huses : document.Uses typeName) (hlead : document.LeadTo visiting typeName) :
    ∃ result, document.resolveType visiting built typeName.toList = .ok result := by
  rcases document.reference_cases typeName with
    ⟨type, hscalar⟩ | ⟨declared, henum⟩ | ⟨fields, hrecord⟩ | ⟨hscalar, henum, hrecord⟩
  · exact ⟨_, resolveType_scalar hscalar⟩
  · exact ⟨_, resolveType_enum henum⟩
  · have hfresh := hlead.fresh hwell huses hrecord
    have hfewer := remaining_cons_lt hrecord.2.2 hfresh
    have hfields : ∀ field ∈ fields, document.Uses field.2 ∧
        document.LeadTo (baseName typeName :: visiting) field.2 := fun field hfield =>
      ⟨huses.field hrecord hfield, hlead.cons hrecord hfield⟩
    obtain ⟨result, hresult⟩ := exists_resolveFields hwell built (baseName typeName) hfields
    rw [resolveType_record hrecord]
    split
    · exact ⟨_, rfl⟩
    · rw [if_pos hfresh, hresult]
      exact ⟨_, rfl⟩
  · rcases hwell.resolves typeName huses with hknown | ⟨declared, hnamed⟩ | ⟨fields, hnamed⟩
    · rw [hscalar] at hknown
      cases hknown
    · have hfound := hnamed.2
      rw [henum] at hfound
      cases hfound
    · have hfound := hnamed.2.2
      rw [hrecord] at hfound
      cases hfound
termination_by (document.remaining visiting, 0)
decreasing_by exact Prod.Lex.left _ _ hfewer

/-- `exists_resolveType` for the fields of a record. -/
theorem exists_resolveFields (hwell : document.IsWellFounded) {visiting : List String} (built : BuiltRecords)
    (record : String) {fields : FieldMap String}
    (hfields : ∀ field ∈ fields, document.Uses field.2 ∧ document.LeadTo visiting field.2) :
    ∃ result, document.resolveFields visiting built record fields = .ok result := by
  match fields with
  | [] => exact ⟨_, by rw [resolveFields]⟩
  | (field, typeName) :: rest =>
    obtain ⟨⟨huses, hlead⟩, hrest⟩ := List.forall_mem_cons.1 hfields
    obtain ⟨⟨type, after⟩, htype⟩ := exists_resolveType hwell built huses hlead
    obtain ⟨result, hresult⟩ := exists_resolveFields hwell after record hrest
    rw [resolveFields, htype]
    simp only [hresult]
    exact ⟨_, rfl⟩
termination_by (document.remaining visiting, fields.length + 1)
decreasing_by
  · exact Prod.Lex.right _ (by simp)
  · exact Prod.Lex.right _ (by simp)

end

/-! ## What cannot be reached -/

section Agreement

variable {other : SchemaDocument}

mutual

/-- Where two documents agree, a type name that is used means the same in both. -/
theorem resolveType_eq_of_agreesWith (h : document.AgreesWith other) {visiting : List String}
    (built : BuiltRecords) {typeName : String} (huses : document.Uses typeName) :
    other.resolveType visiting built typeName.toList
      = document.resolveType visiting built typeName.toList := by
  have henums := h.enums typeName huses
  have hrecords := h.records typeName huses
  rcases document.reference_cases typeName with
    ⟨type, hscalar⟩ | ⟨declared, henum⟩ | ⟨fields, hrecord⟩ | ⟨hscalar, henum, hrecord⟩
  · rw [resolveType_scalar hscalar, resolveType_scalar hscalar]
  · have henum' : other.NamesEnum typeName declared := ⟨henum.1, (henums henum.1).trans henum.2⟩
    rw [resolveType_enum henum, resolveType_enum henum']
  · have hrecord' : other.NamesRecord typeName fields :=
      ⟨hrecord.1, (henums hrecord.1).trans hrecord.2.1,
        (hrecords hrecord.1 hrecord.2.1).trans hrecord.2.2⟩
    have hfields : ∀ field ∈ fields, document.Uses field.2 := fun field hfield =>
      huses.field hrecord hfield
    rw [resolveType_record hrecord, resolveType_record hrecord']
    split
    · rfl
    · split
      · rename_i hfresh
        have hfewer := remaining_cons_lt hrecord.2.2 hfresh
        rw [resolveFields_eq_of_agreesWith h built (baseName typeName) hfields]
      · rfl
  · rw [resolveType_undeclared hscalar henum hrecord,
      resolveType_undeclared hscalar ((henums hscalar).trans henum) ((hrecords hscalar henum).trans hrecord)]
termination_by (document.remaining visiting, 0)
decreasing_by exact Prod.Lex.left _ _ hfewer

/-- Documents that agree on what the root uses resolve its fields alike. -/
theorem resolveFields_eq_of_agreesWith (h : document.AgreesWith other) {visiting : List String}
    (built : BuiltRecords) (record : String) {fields : FieldMap String}
    (hfields : ∀ field ∈ fields, document.Uses field.2) :
    other.resolveFields visiting built record fields
      = document.resolveFields visiting built record fields := by
  match fields with
  | [] => rw [resolveFields, resolveFields]
  | (field, typeName) :: rest =>
    obtain ⟨huses, hrest⟩ := List.forall_mem_cons.1 hfields
    have hsame : other.resolveType visiting built typeName.toList
        = document.resolveType visiting built typeName.toList := resolveType_eq_of_agreesWith h built huses
    rw [resolveFields, resolveFields, hsame]
    cases document.resolveType visiting built typeName.toList with
    | error cause => rfl
    | ok result =>
      obtain ⟨type, after⟩ := result
      show (other.resolveFields visiting after record rest).map _ = _
      rw [resolveFields_eq_of_agreesWith h after record hrest]
termination_by (document.remaining visiting, fields.length + 1)
decreasing_by
  · exact Prod.Lex.right _ (by simp)
  · exact Prod.Lex.right _ (by simp)

end

end Agreement

/-! ## Paths -/

/-- The fields of the record type that a type name means. -/
def recordFields? (document : SchemaDocument) (typeName : String) : Option (FieldMap String) :=
  match ValueType.ofScalarName? typeName.toList, document.enums.get? (baseName typeName) with
  | none, none => document.records.get? (baseName typeName)
  | _, _ => none

/-- The type name at the end of a path through declared fields. There must be at least one. -/
def typeNameAt? (document : SchemaDocument) (fields : FieldMap String) : List String → Option String
  | [] => none
  | [name] => fields.get? name
  | name :: next :: rest =>
    (fields.get? name).bind fun typeName =>
      (document.recordFields? typeName).bind fun inner => typeNameAt? document inner (next :: rest)

/-- A nullable record has the fields of the record. -/
theorem fields?_withNull (marked : Bool) (type : ValueType) :
    (ValueType.withNull marked type).fields? = type.fields? := by
  cases marked with
  | false => rfl
  | true =>
    rw [ValueType.withNull, if_pos rfl, ValueType.orNull]
    split <;> rfl

theorem fields?_of_scalar {text : Text} {type : ValueType} (h : ValueType.ofScalarName? text = some type) :
    type.fields? = none := by
  obtain ⟨scalar, hscalar, rfl⟩ := Option.map_eq_some_iff.1 h
  have hall : ∀ entry ∈ ValueType.scalarNames, entry.2.fields? = none := by decide
  obtain ⟨before, after, hentries, -⟩ := List.lookup_eq_some_iff.1 hscalar
  rw [fields?_withNull]
  exact hall (_, scalar) (hentries ▸ List.mem_append_right before List.mem_cons_self)

/-- The fields behind a type are declared by the fields that its type name means. -/
theorem Declares.fields? {typeName : String} {type : ValueType} (h : document.Declares typeName type) :
    Option.Rel document.DeclaresFields (document.recordFields? typeName) type.fields? := by
  cases h with
  | scalar known =>
    rw [recordFields?, known, fields?_of_scalar known]
    exact .none
  | enumeration named =>
    rw [recordFields?, named.1, named.2, fields?_withNull]
    exact .none
  | record named typed =>
    rw [recordFields?, named.1, named.2.1, fields?_withNull]
    simp only [named.2.2]
    exact .some typed

/-- A field is declared if and only if it has a type, and with the declared one. -/
theorem DeclaresFields.get? {fields : FieldMap String} {types : FieldMap ValueType}
    (h : document.DeclaresFields fields types) (name : String) :
    Option.Rel document.Declares (fields.get? name) (types.get? name) := by
  induction fields generalizing types with
  | nil =>
    cases h
    exact .none
  | cons first rest ih =>
    cases h with
    | cons hfirst hrest =>
      rw [FieldMap.get?_cons, FieldMap.get?_cons]
      split
      · exact .some hfirst
      · exact ih hrest

theorem rel_bind {α β γ δ : Type} {r : α → β → Prop} {s : γ → δ → Prop} {a : Option α} {b : Option β}
    {f : α → Option γ} {g : β → Option δ} (h : Option.Rel r a b)
    (hstep : ∀ x y, r x y → Option.Rel s (f x) (g y)) : Option.Rel s (a.bind f) (b.bind g) := by
  cases h with
  | none => exact .none
  | some hxy => exact hstep _ _ hxy

/-- Along every path, the types are those that the declared type names mean. -/
theorem DeclaresFields.follow? {fields : FieldMap String} {types : FieldMap ValueType}
    (h : document.DeclaresFields fields types) (name : String) (path : List String) :
    Option.Rel document.Declares (document.typeNameAt? fields (name :: path))
      ((types.get? name).bind fun type => RecordType.follow? type path) := by
  induction path generalizing name fields types with
  | nil =>
    have hlast : (types.get? name).bind (fun type => RecordType.follow? type []) = types.get? name :=
      Option.bind_fun_some _
    rw [typeNameAt?, hlast]
    exact h.get? name
  | cons next rest ih =>
    rw [typeNameAt?]
    refine rel_bind (h.get? name) fun typeName type htype => ?_
    rw [RecordType.follow?]
    exact rel_bind htype.fields? fun inner found hinner => ih hinner next

/-- Every path through the built schema ends at the type that the document declares for it. -/
theorem DeclaresFields.resolveSegments? {schema : RecordType}
    (h : document.DeclaresFields document.fields schema.fields) (path : List String) :
    Option.Rel document.Declares (document.typeNameAt? document.fields path)
      ((schema.resolveSegments? path).map Prod.snd) := by
  cases path with
  | nil => exact .none
  | cons name rest =>
    have hpath : (schema.resolveSegments? (name :: rest)).map Prod.snd
        = (schema.fields.get? name).bind fun type => RecordType.follow? type rest := by
      rw [RecordType.resolveSegments?, if_neg (by simp), Option.map_map]
      exact congrFun Option.map_id _
    rw [hpath]
    exact h.follow? name rest

/-! ## The root -/

/-- A built schema carries the name of its document and the declared fields. -/
theorem exists_of_build {schema : RecordType} (h : document.build = .ok schema) :
    schema.name = document.name ∧ document.DeclaresFields document.fields schema.fields := by
  obtain ⟨⟨types, built⟩, hresolve, rfl⟩ := Except.map_eq_ok_iff.1 h
  have hempty : document.AreDeclared [] := fun record types htypes => by cases htypes
  exact ⟨rfl, (declaresFields_of_resolveFields hempty hresolve).1⟩

/-- A schema document can be built if and only if it is well founded. The fields of what is built have the
types that their type names mean, and so has what any path leads to. Declarations that cannot be reached
from the root make no difference. -/
theorem build_iff_isWellFounded (hname : document.records.get? document.name = none) :
    ((∃ schema, document.build = .ok schema) ↔ document.IsWellFounded) ∧
      (∀ schema, document.build = .ok schema → schema.name = document.name ∧
        (∀ types, document.DeclaresFields document.fields types ↔ types = schema.fields) ∧
        ∀ path, Option.Rel document.Declares (document.typeNameAt? document.fields path)
          ((schema.resolveSegments? path).map Prod.snd)) ∧
      ∀ other, document.AgreesWith other → other.build = document.build := by
  refine ⟨⟨fun ⟨schema, hschema⟩ => (exists_of_build hschema).2.isWellFounded, fun hwell => ?_⟩,
    fun schema hschema => ?_, fun other hother => ?_⟩
  · have hfields : ∀ field ∈ document.fields, document.Uses field.2 ∧
        document.LeadTo [document.name] field.2 := fun field hfield =>
      ⟨.inl ⟨field, hfield, rfl⟩, fun record hrecord => .inl (List.mem_singleton.1 hrecord ▸ hname)⟩
    obtain ⟨result, hresult⟩ := exists_resolveFields hwell [] document.name hfields
    exact ⟨_, Except.map_eq_ok_iff.2 ⟨result, hresult, rfl⟩⟩
  · obtain ⟨hsame, htypes⟩ := exists_of_build hschema
    exact ⟨hsame, fun types => ⟨fun h => h.unique htypes, fun h => h ▸ htypes⟩, htypes.resolveSegments?⟩
  · rw [build, build, hother.name, hother.fields,
      resolveFields_eq_of_agreesWith hother [] document.name
        fun field hfield => .inl ⟨field, hfield, rfl⟩]

/-- A document in which two fields have one record type, and another record type that contains itself is not
used. -/
def shipment : SchemaDocument where
  name := "Shipment"
  fields := [("From", "Place"), ("Kind", "Handling?"), ("To", " Place ?")]
  enums := [("Handling", ⟨true, [("Cold", 1), ("Fragile", 2)]⟩)]
  records := [("Loop", [("Next", "Loop")]), ("Place", [("Name", "String"), ("Number", "int?")])]

theorem build_iff_isWellFounded_shipment :
    shipment.records.get? shipment.name = none ∧ shipment.IsWellFounded ∧
      ∃ schema, shipment.build = .ok schema ∧
        Option.Rel shipment.Declares (shipment.typeNameAt? shipment.fields ["To", "Number"])
          ((schema.resolveSegments? ["To", "Number"]).map Prod.snd) := by
  have hbuild : shipment.build = .ok ⟨"Shipment",
      [("From", .record "Place" [("Name", .string), ("Number", .nullable .int32)]),
        ("Kind", .nullable (.enumeration ⟨"Handling", true, [("Cold", 1), ("Fragile", 2)]⟩)),
        ("To", .record "Place" [("Name", .string), ("Number", .nullable .int32)])]⟩ := by
    have hfields : shipment.fields = [("From", "Place"), ("Kind", "Handling?"), ("To", " Place ?")] := rfl
    have hfrom : shipment.NamesRecord "Place" [("Name", "String"), ("Number", "int?")] := ⟨rfl, rfl, rfl⟩
    have hto : shipment.NamesRecord " Place ?" [("Name", "String"), ("Number", "int?")] := ⟨rfl, rfl, rfl⟩
    have hname : ValueType.ofScalarName? "String".toList = some .string := rfl
    have hnumber : ValueType.ofScalarName? "int?".toList = some (.nullable .int32) := rfl
    have hkind : shipment.NamesEnum "Handling?" ⟨true, [("Cold", 1), ("Fragile", 2)]⟩ := ⟨rfl, rfl⟩
    have hmembers : EnumType.ofMembers (baseName "Handling?") true [("Cold", 1), ("Fragile", 2)]
        = ⟨"Handling", true, [("Cold", 1), ("Fragile", 2)]⟩ :=
      congrArg (EnumType.mk "Handling" true) (List.mergeSort_of_pairwise (by decide))
    rw [build, hfields]
    simp only [resolveFields, resolveType_record hfrom, resolveType_record hto, resolveType_enum hkind,
      resolveType_scalar hname, resolveType_scalar hnumber, hmembers]
    rfl
  have hname : shipment.records.get? shipment.name = none := rfl
  obtain ⟨hiff, hschema, -⟩ := build_iff_isWellFounded hname
  exact ⟨hname, hiff.1 ⟨_, hbuild⟩, _, hbuild, (hschema _ hbuild).2.2 _⟩

end SchemaDocument
end RecordFilter
