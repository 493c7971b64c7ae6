import RecordFilter.Proofs.NumberTexts
import RecordFilter.Proofs.TimestampTexts
import RecordFilter.Proofs.Typing

/-!
# Records in JSON

A record that was read from JSON is read again from its own JSON form, whatever that JSON was. Decimals,
timestamps, guids and enumeration values are strings there, so each of them is read from its text; a field
that was missing is null there, and null is read for every type.

The induction is on the type, with the fields of a record in a statement of their own: fields are read from
any members that have the JSON form of each of them under its name (`fieldsFromJson_of_get?`).

Main statement: `Record.fromJson_toJson`.
-/

namespace RecordFilter

/-! ## Types whose values can be told apart -/

namespace ValueType

mutual

/-- Whether the members of every enumeration can be told apart by their names, and the fields of every
record. -/
def isUnambiguous : ValueType → Bool
  | .enumeration e => e.isUnambiguous
  | .record _ fields => decide (fields.map Prod.fst).Nodup && areUnambiguous fields
  | .nullable inner => inner.isUnambiguous
  | _ => true

/-- Whether this holds of the types of fields. -/
def areUnambiguous : List (String × ValueType) → Bool
  | [] => true
  | (_, type) :: rest => type.isUnambiguous && areUnambiguous rest

end

end ValueType

/-- Whether this holds of the fields of a record type, at all levels. -/
def RecordType.isUnambiguous (schema : RecordType) : Bool :=
  schema.toType.isUnambiguous

namespace Value

/-! ## Scalars -/

theorem scalarFromJson?_int32 (n : Int32) :
    scalarFromJson? .int32 (.int n.toInt) = some (.int32 n) := by
  rw [scalarFromJson?, if_pos ⟨n.le_toInt, n.toInt_lt⟩, Int32.ofInt_toInt]

theorem int64?_toInt (n : Int64) : Json.int64? (.int n.toInt) = some n := by
  rw [Json.int64?, if_pos ⟨n.le_toInt, n.toInt_lt⟩, Int64.ofInt_toInt]

/-- A decimal is read from its text, which has all of its digits. -/
theorem scalarFromJson?_decimal {d : Decimal} (h : d.isCanonical = true) :
    scalarFromJson? .decimal (.string (String.ofList d.render)) = some (.decimal d) := by
  have htrim : Text.trim d.render = d.render := (Decimal.isNumeral_render d).1.isTrimmed.trim_eq
  simp only [scalarFromJson?, Json.numberText?, Json.string?, Option.none_or, Option.map_some,
    String.toList_ofList, htrim, Option.bind_some, Decimal.read?_render h]

/-- A timestamp is read from its text, unless it lies in a leap second that has no text of its own. -/
theorem scalarFromJson?_dateTime {t : Timestamp} (h : t.LeapEndsMinute) :
    scalarFromJson? .dateTime (.string (String.ofList t.render)) = some (.dateTime t) := by
  simp only [scalarFromJson?, Json.string?, String.toList_ofList, Option.bind_some, Timestamp.read?_render,
    Timestamp.shown_of_leapEndsMinute h, Option.map_some]

theorem scalarFromJson?_guid (g : Guid) :
    scalarFromJson? .guid (.string (String.ofList g.render)) = some (.guid g) := by
  simp only [scalarFromJson?, Json.string?, String.toList_ofList, Option.bind_some, Guid.read?_render,
    Option.map_some]

theorem scalarFromJson?_enumeration {e : EnumType} (h : e.isUnambiguous = true) (n : Int64) :
    scalarFromJson? (.enumeration e) (.string (e.describe n)) = some (.enumeration e n) := by
  simp only [scalarFromJson?, EnumType.read?_describe h, Option.map_some]

/-- A scalar that was read from JSON is read from its JSON form. -/
theorem scalarFromJson?_toJson {type : ValueType} {json : Json} {value : Value}
    (htype : type.isUnambiguous = true) (h : scalarFromJson? type json = some value) :
    scalarFromJson? type value.toJson = some value := by
  cases type with
  | boolean =>
    obtain ⟨b, -, rfl⟩ := Option.map_eq_some_iff.1 h
    rfl
  | int32 =>
    simp only [scalarFromJson?] at h
    split at h
    · split at h
      · cases h
        exact scalarFromJson?_int32 _
      · cases h
    · cases h
  | int64 =>
    obtain ⟨n, -, rfl⟩ := Option.map_eq_some_iff.1 h
    exact congrArg (Option.map _) (int64?_toInt n)
  | double =>
    obtain ⟨x, -, rfl⟩ := Option.map_eq_some_iff.1 h
    rfl
  | decimal =>
    obtain ⟨d, hd, rfl⟩ := Option.map_eq_some_iff.1 h
    obtain ⟨t, -, hread⟩ := Option.bind_eq_some_iff.1 hd
    exact scalarFromJson?_decimal (Decimal.isCanonical_of_read? hread)
  | string =>
    obtain ⟨text, -, rfl⟩ := Option.map_eq_some_iff.1 h
    rfl
  | dateTime =>
    obtain ⟨t, ht, rfl⟩ := Option.map_eq_some_iff.1 h
    obtain ⟨text, -, hread⟩ := Option.bind_eq_some_iff.1 ht
    exact scalarFromJson?_dateTime (Timestamp.leapEndsMinute_of_read? hread)
  | guid =>
    obtain ⟨g, -, rfl⟩ := Option.map_eq_some_iff.1 h
    exact scalarFromJson?_guid g
  | enumeration e =>
    obtain ⟨n, -, rfl⟩ := Option.map_eq_some_iff.1 h
    exact scalarFromJson?_enumeration htype n
  | record | nullable | null => cases h

/-- Only null is null in JSON. -/
theorem eq_null_of_toJson {value : Value} (h : value.toJson = .null) : value = .null := by
  cases value with
  | null => rfl
  | _ => cases h

/-! ## Records -/

theorem fromJsonAs_null (shown type : ValueType) : fromJsonAs shown type .null = .ok .null := by
  rw [fromJsonAs]

/-- The fields that are read are those of the type. -/
theorem names_of_fieldsFromJson : ∀ {types : List (String × ValueType)} {members : FieldMap Json}
    {fields : List (String × Value)}, fieldsFromJson types members = .ok fields →
    fields.map Prod.fst = types.map Prod.fst
  | [], _, _, h => by
    cases h
    rfl
  | (name, type) :: rest, _, _, h => by
    obtain ⟨value, others, rfl, hothers, -⟩ := fieldsFromJson_cons h
    rw [List.map_cons, List.map_cons, names_of_fieldsFromJson hothers]

/-- A field is found again among the written ones, where the names are unique. -/
theorem get?_fieldsToJson {fields : List (String × Value)} (h : (fields.map Prod.fst).Nodup)
    {field : String × Value} (hfield : field ∈ fields) :
    FieldMap.get? (fieldsToJson fields) field.1 = some field.2.toJson := by
  induction fields with
  | nil => cases hfield
  | cons first rest ih =>
    obtain ⟨name, value⟩ := first
    obtain ⟨hname, hrest⟩ := List.nodup_cons.1 h
    rw [fieldsToJson, FieldMap.get?_cons]
    rcases List.mem_cons.1 hfield with rfl | hmem
    · rw [if_pos rfl]
    · have hne : field.1 ≠ name := by
        rintro rfl
        exact hname (List.mem_map.2 ⟨field, hmem, rfl⟩)
      rw [if_neg hne, ih hrest hmem]

/-- A nullable type reads what is not `null` as the type inside. -/
theorem fromJsonAs_nullable {shown inner : ValueType} {json : Json} (h : json ≠ .null) :
    fromJsonAs shown (.nullable inner) json = fromJsonAs shown inner json := by
  rw [fromJsonAs]
  exact h

theorem fromJsonAs_nullable_of_inner {shown inner : ValueType} {json : Json} {value : Value}
    (h : fromJsonAs shown inner json = .ok value) : fromJsonAs shown (.nullable inner) json = .ok value := by
  by_cases hnull : json = .null
  · subst hnull
    rwa [fromJsonAs_null] at h ⊢
  · rwa [fromJsonAs_nullable hnull]

/-- A type without parts has one reader for all JSON but null. -/
theorem fromJsonAs_eq_ok_iff {shown type : ValueType} {json : Json} {value : Value}
    (hrecord : ∀ name fields, type ≠ .record name fields)
    (hnullable : ∀ inner, type ≠ .nullable inner) (hjson : json ≠ .null) :
    fromJsonAs shown type json = .ok value ↔ scalarFromJson? type json = some value := by
  rw [fromJsonAs]
  · cases scalarFromJson? type json with
    | none => simp
    | some found => simp
  · exact hnullable
  · exact hrecord
  · exact hjson

/-- A scalar that was read is read back from what is written for it. -/
theorem fromJsonAs_toJson_of_scalar {shown type : ValueType} {json : Json} {value : Value}
    (hrecord : ∀ name fields, type ≠ .record name fields)
    (hnullable : ∀ inner, type ≠ .nullable inner)
    (htype : type.isUnambiguous = true) (h : fromJsonAs shown type json = .ok value) :
    fromJsonAs shown type value.toJson = .ok value := by
  by_cases hnull : value = .null
  · subst hnull
    exact fromJsonAs_null shown type
  · have hjson : json ≠ .null := by
      rintro rfl
      rw [fromJsonAs_null] at h
      cases h
      exact hnull rfl
    rw [fromJsonAs_eq_ok_iff hrecord hnullable hjson] at h
    rw [fromJsonAs_eq_ok_iff hrecord hnullable (mt eq_null_of_toJson hnull)]
    exact scalarFromJson?_toJson htype h

mutual

/-- What was read from JSON is read from its JSON form. -/
theorem fromJsonAs_toJson {shown : ValueType} : ∀ {type : ValueType} {json : Json} {value : Value},
    type.isUnambiguous = true → fromJsonAs shown type json = .ok value →
      fromJsonAs shown type value.toJson = .ok value
  | type, .null, value, _, h => by
    rw [fromJsonAs_null] at h
    cases h
    exact fromJsonAs_null shown type
  | .nullable inner, json, value, htype, h => by
    by_cases hnull : json = .null
    · subst hnull
      rw [fromJsonAs_null] at h
      cases h
      exact fromJsonAs_null shown _
    · rw [fromJsonAs_nullable hnull] at h
      exact fromJsonAs_nullable_of_inner (fromJsonAs_toJson htype h)
  | .record name types, json, value, htype, h => by
    rw [ValueType.isUnambiguous, Bool.and_eq_true, decide_eq_true_eq] at htype
    cases json <;> simp only [fromJsonAs, Json.object?, reduceCtorEq] at h
    case null =>
      cases h
      exact fromJsonAs_null shown _
    case object members =>
      obtain ⟨fields, hfields, rfl⟩ := Except.map_eq_ok_iff.1 h
      have hnodup : (fields.map Prod.fst).Nodup := by
        rw [names_of_fieldsFromJson hfields]
        exact htype.1
      have hread := fieldsFromJson_of_get? htype.2 hfields fun field => get?_fieldsToJson hnodup
      simp only [toJson, fromJsonAs, Json.object?, hread]
      rfl
  | .boolean, json, value, htype, h | .int32, json, value, htype, h | .int64, json, value, htype, h
  | .double, json, value, htype, h | .decimal, json, value, htype, h | .string, json, value, htype, h
  | .dateTime, json, value, htype, h | .guid, json, value, htype, h | .enumeration _, json, value, htype, h
  | .null, json, value, htype, h =>
    fromJsonAs_toJson_of_scalar nofun nofun htype h

/-- Fields are read from any members that have the JSON form of each of them under its name. -/
theorem fieldsFromJson_of_get? : ∀ {types : List (String × ValueType)} {members target : FieldMap Json}
    {fields : List (String × Value)}, ValueType.areUnambiguous types = true →
    fieldsFromJson types members = .ok fields →
    (∀ field ∈ fields, FieldMap.get? target field.1 = some field.2.toJson) →
      fieldsFromJson types target = .ok fields
  | [], _, _, _, _, h, _ => h
  | (name, type) :: rest, members, target, fields, htypes, h, htarget => by
    rw [ValueType.areUnambiguous, Bool.and_eq_true] at htypes
    obtain ⟨value, others, rfl, hothers, hvalue⟩ := fieldsFromJson_cons h
    obtain ⟨hfirst, hrest⟩ := List.forall_mem_cons.1 htarget
    have hread : fromJsonAs type type value.toJson = .ok value := by
      rcases hvalue with rfl | ⟨json, hjson⟩
      · exact fromJsonAs_null type type
      · exact fromJsonAs_toJson htypes.1 hjson
    rw [fieldsFromJson, hfirst, fieldsFromJson_of_get? htypes.2 hothers hrest]
    simp only [hread]
    rfl

end

end Value

namespace Record

/-- A record is read as the object of its schema's type. -/
theorem fromJson_eq_ok_iff {schema : RecordType} {json : Json} {record : Record} :
    fromJson schema json = .ok record ↔ Value.fromJson schema.toType json = .ok (.object record) := by
  rw [fromJson]
  cases Value.fromJson schema.toType json with
  | error error => simp
  | ok value => cases value <;> simp

/-- A record that was read from JSON is read from its own JSON form. -/
theorem fromJson_toJson {schema : RecordType} {json : Json} {record : Record}
    (hschema : schema.isUnambiguous = true) (h : fromJson schema json = .ok record) :
    fromJson schema (.object (Value.fieldsToJson record)) = .ok record := by
  rw [fromJson_eq_ok_iff] at h ⊢
  exact Value.fromJsonAs_toJson hschema h

/-- Ways to send a parcel, of which one has no name. -/
def handling : EnumType :=
  ⟨"Handling", true, [("", 1), ("Keep cold", 2), ("Fragile", 4)]⟩

/-- A parcel with its weight and its sender. -/
def parcel : RecordType :=
  ⟨"Parcel", [("Handling", .enumeration handling), ("Sender", .record "Sender" [("Id", .nullable .guid),
    ("Name", .string)]), ("Weight", .decimal)]⟩

/-- A cold parcel of a sender without a number. -/
def sent : Record :=
  [("Handling", .enumeration handling 3), ("Sender", .object [("Id", .null), ("Name", .string "A")]),
    ("Weight", .decimal ⟨false, 150, 2, by decide, by decide⟩)]

theorem fromJson_toJson_parcel :
    parcel.isUnambiguous = true ∧
      fromJson parcel (.object [("Handling", .int 3), ("Sender", .object [("Name", .string "A")]),
          ("Weight", .string " 1.50")]) = .ok sent ∧
        fromJson parcel (.object (Value.fieldsToJson sent)) = .ok sent := by
  have hparcel : parcel.isUnambiguous = true := by decide
  have hsent : fromJson parcel (.object [("Handling", .int 3), ("Sender", .object [("Name", .string "A")]),
      ("Weight", .string " 1.50")]) = .ok sent := rfl
  exact ⟨hparcel, hsent, fromJson_toJson hparcel hsent⟩

end Record
end RecordFilter
