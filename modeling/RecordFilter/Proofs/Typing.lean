import RecordFilter.Evaluation.Evaluator
import RecordFilter.Proofs.Outcomes
import RecordFilter.Value.FromJson

/-!
# Typed values and typed predicates

A static type says which values a field, a literal or a predicate may have. This module makes that
precise for values (`Value.Inhabits`), for the values that are read from JSON, and for predicates
(`Predicate.WellTyped`), whose nodes must carry the types that the checked constructors give them.

Main statement: what is read from JSON for a type inhabits that type, so every path that resolves in
a record type leads through the records of that type.
-/

namespace RecordFilter

/-! ## Values of a type -/

namespace Value

/-- The values of a type. Null is among the values of every type: a field that is missing in JSON is
null, whatever type it is declared with. An object has a typed value for each field of its type. -/
inductive Inhabits : Value → ValueType → Prop
  | null (type : ValueType) : Inhabits .null type
  | boolean (b : Bool) : Inhabits (.boolean b) .boolean
  | int32 (n : Int32) : Inhabits (.int32 n) .int32
  | int64 (n : Int64) : Inhabits (.int64 n) .int64
  | double (x : Float) : Inhabits (.double x) .double
  | decimal (d : Decimal) : Inhabits (.decimal d) .decimal
  | string (text : String) : Inhabits (.string text) .string
  | dateTime (t : Timestamp) : Inhabits (.dateTime t) .dateTime
  | guid (g : Guid) : Inhabits (.guid g) .guid
  | enumeration (e : EnumType) (n : Int64) : Inhabits (.enumeration e n) (.enumeration e)
  | object {name : String} {types : FieldMap ValueType} {fields : FieldMap Value}
      (present : ∀ field type, types.get? field = some type → (fields.get? field).isSome)
      (typed : ∀ field type value, types.get? field = some type →
        fields.get? field = some value → Inhabits value type) :
      Inhabits (.object fields) (.record name types)
  | nullable {value : Value} {type : ValueType} (h : Inhabits value type) :
      Inhabits value (.nullable type)

/-- Being nullable does not change the values of a type. -/
theorem inhabits_underlying {value : Value} {type : ValueType} :
    Inhabits value type.underlying ↔ Inhabits value type := by
  fun_induction ValueType.underlying type with
  | case1 inner ih =>
    rw [ih]
    constructor
    · exact .nullable
    · intro h
      cases h with
      | null => exact .null _
      | nullable h => exact h
  | case2 => exact Iff.rfl

/-- What is under a type is not nullable any more. -/
theorem underlying_ne_nullable (type inner : ValueType) : type.underlying ≠ .nullable inner := by
  fun_induction ValueType.underlying type with
  | case1 _ ih => exact ih
  | case2 type h => exact h inner

/-! ## Values from JSON -/

theorem inhabits_of_scalarFromJson {type : ValueType} {json : Json} {value : Value}
    (h : scalarFromJson? type json = some value) : Inhabits value type := by
  cases type <;> simp only [scalarFromJson?, Option.map_eq_some_iff, reduceCtorEq] at h
  case int32 =>
    split at h
    · split at h
      · cases h
        exact .int32 _
      · cases h
    · cases h
  all_goals
    obtain ⟨_, _, rfl⟩ := h
    constructor

/-- The members of a record that are read for its fields are its fields, in the same order. -/
theorem fieldsFromJson_cons {name : String} {type : ValueType} {rest : List (String × ValueType)}
    {members : FieldMap Json} {fields : List (String × Value)}
    (h : fieldsFromJson ((name, type) :: rest) members = .ok fields) :
    ∃ value others, fields = (name, value) :: others ∧ fieldsFromJson rest members = .ok others ∧
      (value = .null ∨ ∃ json, fromJsonAs type type json = .ok value) := by
  simp only [fieldsFromJson] at h
  split at h
  · cases h
  · rename_i value hvalue
    obtain ⟨others, hothers, rfl⟩ := Except.map_eq_ok_iff.1 h
    refine ⟨value, others, rfl, hothers, ?_⟩
    split at hvalue
    · exact .inr ⟨_, hvalue⟩
    · cases hvalue
      exact .inl rfl

mutual

/-- What is read from JSON for a type inhabits the type. -/
theorem inhabits_of_fromJsonAs {shown : ValueType} : ∀ {type : ValueType} {json : Json}
    {value : Value}, fromJsonAs shown type json = .ok value → Inhabits value type
  | type, .null, value, h => by
    rw [fromJsonAs] at h
    cases h
    exact .null type
  | .nullable inner, json, value, h => by
    cases json
    case null =>
      rw [fromJsonAs] at h
      cases h
      exact .null _
    all_goals
      rw [fromJsonAs] at h
      · exact .nullable (inhabits_of_fromJsonAs h)
      · simp
  | .record name types, json, value, h => by
    cases json <;> simp only [fromJsonAs, Json.object?, reduceCtorEq] at h
    case null =>
      cases h
      exact .null _
    case object members =>
      obtain ⟨fields, hfields, rfl⟩ := Except.map_eq_ok_iff.1 h
      have hget := get?_of_fieldsFromJson hfields
      refine .object (fun field type hf => ?_) (fun field type value hf hv => ?_)
      · obtain ⟨value, hv, -⟩ := hget field type hf
        simp [hv]
      · obtain ⟨value', hv', hin⟩ := hget field type hf
        rw [hv] at hv'
        cases hv'
        exact hin
  -- the other types have no parts, and one reader
  | .boolean, json, value, h | .int32, json, value, h | .int64, json, value, h
  | .double, json, value, h | .decimal, json, value, h | .string, json, value, h
  | .dateTime, json, value, h | .guid, json, value, h | .enumeration _, json, value, h
  | .null, json, value, h => by
    cases json
    case null =>
      rw [fromJsonAs] at h
      cases h
      exact .null _
    all_goals
      simp only [fromJsonAs] at h
      split at h
      · cases h
        exact inhabits_of_scalarFromJson ‹_›
      · cases h

/-- Every field of a record type is found among the values that are read for it. -/
theorem get?_of_fieldsFromJson : ∀ {types : List (String × ValueType)} {members : FieldMap Json}
    {fields : List (String × Value)}, fieldsFromJson types members = .ok fields →
    ∀ field type, FieldMap.get? types field = some type →
      ∃ value, FieldMap.get? fields field = some value ∧ Inhabits value type
  | [], _, _, _, _, _, hget => by simp [FieldMap.get?] at hget
  | (name, type) :: rest, members, fields, h, field, fieldType, hget => by
    obtain ⟨value, others, rfl, hothers, hvalue⟩ := fieldsFromJson_cons h
    simp only [FieldMap.get?, List.lookup_cons] at hget ⊢
    by_cases hname : field == name
    · simp only [hname, Option.some.injEq] at hget ⊢
      subst hget
      refine ⟨value, rfl, ?_⟩
      rcases hvalue with rfl | ⟨json, hjson⟩
      · exact .null _
      · exact inhabits_of_fromJsonAs hjson
    · simp only [hname] at hget ⊢
      exact get?_of_fieldsFromJson hothers field fieldType hget

end

end Value

/-! ## Records of a record type -/

/-- A record that has a value of the declared type under every field name. -/
def RecordType.Admits (schema : RecordType) (record : FieldReader) : Prop :=
  ∀ name type, schema.field? name = some type →
    ∃ value, record name = some value ∧ value.Inhabits type

/-- A record that is read from JSON has a typed value in every field. -/
theorem RecordType.admits_of_fromJson {schema : RecordType} {json : Json} {record : Record}
    (h : Record.fromJson schema json = .ok record) : schema.Admits fun name => record.get? name := by
  unfold Record.fromJson Value.fromJson at h
  split at h
  · rename_i fields hfields
    cases h
    cases Value.inhabits_of_fromJsonAs hfields with
    | object present typed =>
      intro name type hname
      obtain ⟨value, hvalue⟩ := Option.isSome_iff_exists.1 (present name type hname)
      exact ⟨value, hvalue, typed name type value hname hvalue⟩
  · cases h
  · cases h

namespace Evaluation

open Value

@[simp] theorem value_property (flagsMatch : FlagsMatch) (record : FieldReader) (path : PropertyPath)
    (type : ValueType) :
    value flagsMatch record (.property path type) = readProperty record path := by
  rw [value]

@[simp] theorem value_constant (flagsMatch : FlagsMatch) (record : FieldReader) (found : Value)
    (type : ValueType) : value flagsMatch record (.constant found type) = .ok found := by
  rw [value]

/-- Going along a path that resolves in the type of a value ends in a value of the type at the end,
or stops at a null. -/
theorem navigate_typed (path : PropertyPath) (segments : List String) :
    ∀ {value : Value} {type target : ValueType}, value.Inhabits type →
      RecordType.follow? type segments = some target →
      (∃ found, navigate path value segments = .ok found ∧ found.Inhabits target) ∨
        ∃ before name after, segments = before ++ name :: after ∧
          navigate path value before = .ok .null ∧
          navigate path value segments = .error (.notNavigable name "null") := by
  induction segments with
  | nil =>
    intro value type target h hfollow
    cases hfollow
    exact .inl ⟨value, rfl, h⟩
  | cons name rest ih =>
    intro value type target h hfollow
    simp only [RecordType.follow?, ValueType.fields?, Option.bind_eq_some_iff] at hfollow
    obtain ⟨types, htypes, next, hnext, hrest⟩ := hfollow
    have hu := inhabits_underlying.2 h
    generalize type.underlying = u at htypes hu
    cases hu with
    | null =>
      -- the path stops here, at a null leg
      exact .inr ⟨[], name, rest, rfl, rfl, rfl⟩
    | @object _ _ fields present typed =>
      cases htypes
      obtain ⟨found, hfound⟩ := Option.isSome_iff_exists.1 (present name next hnext)
      have hstep : ∀ tail, navigate path (.object fields) (name :: tail)
          = navigate path found tail := by
        intro tail
        simp [navigate, hfound]
      rcases ih (typed name next found hnext hfound) hrest with ⟨v, hv, hin⟩ | hstop
      · exact .inl ⟨v, by rw [hstep, hv], hin⟩
      · obtain ⟨before, stop, after, rfl, hnull, herror⟩ := hstop
        exact .inr ⟨name :: before, stop, after, rfl, by rw [hstep, hnull], by rw [hstep, herror]⟩
    | _ =>
      -- other types have no fields, so the path does not resolve in them
      cases htypes

/-- The path in an error does not matter where there is no error. -/
theorem navigate_path_irrelevant (path other : PropertyPath) (segments : List String) :
    ∀ {value found : Value}, navigate path value segments = .ok found →
      navigate other value segments = .ok found := by
  induction segments with
  | nil => exact fun h => h
  | cons name rest ih =>
    intro value found h
    cases value <;> simp only [navigate, reduceCtorEq] at h ⊢
    split at h
    · exact ih h
    · cases h

/-- Reading a property of an admitted record gives a value of the type of the property, or stops at a
null leg of its path. -/
theorem readProperty_typed {schema : RecordType} {record : FieldReader}
    (hrecord : schema.Admits record) {path : PropertyPath} {type : ValueType}
    (hpath : schema.resolveSegments? path.segments = some (path, type)) :
    (∃ found, readProperty record path = .ok found ∧ found.Inhabits type) ∨
      ∃ before name after, path.segments = before ++ name :: after ∧
        readProperty record ⟨before⟩ = .ok .null ∧
        readProperty record path = .error (.notNavigable name "null") := by
  obtain ⟨segments⟩ := path
  obtain ⟨hne, -, hfollow⟩ := RecordType.resolveSegments?_eq_some_iff.1 hpath
  obtain ⟨first, rest, rfl⟩ := List.exists_cons_of_ne_nil hne
  simp only [RecordType.follow?, RecordType.toType, ValueType.fields?, ValueType.underlying,
    Option.bind_some, Option.bind_eq_some_iff] at hfollow
  obtain ⟨next, hnext, hrest⟩ := hfollow
  obtain ⟨value, hvalue, hin⟩ := hrecord first next hnext
  have hread : ∀ tail, readProperty record ⟨first :: tail⟩
      = navigate ⟨first :: tail⟩ value tail := by
    intro tail
    simp [readProperty, hvalue]
  rcases navigate_typed ⟨first :: rest⟩ rest hin hrest with ⟨v, hv, hv'⟩ | hstop
  · exact .inl ⟨v, by rw [hread, hv], hv'⟩
  · obtain ⟨before, stop, after, rfl, hnull, herror⟩ := hstop
    refine .inr ⟨first :: before, stop, after, rfl, ?_, by rw [hread, herror]⟩
    rw [hread]
    exact navigate_path_irrelevant _ _ before hnull

end Evaluation

/-! ## Typed predicates -/

/-- A registry whose constructors build values of the types that they are registered for. -/
def TypeRegistry.Sound (registry : TypeRegistry) : Prop :=
  ∀ entry ∈ registry, ∀ constructor ∈ entry.constructors, ∀ arguments value,
    constructor.build arguments = .ok value → value.Inhabits entry.type

namespace Predicate

/-- Predicates whose nodes have the types that the checked constructors give them: properties resolve
in the record type, constants have a value of their type, operators and functions accept the types
of their operands, and constructions have as many arguments as their constructor has parameters and
are of the type that it is registered for. -/
inductive WellTyped (registry : TypeRegistry) (schema : RecordType) : Predicate → Prop
  | property {path : PropertyPath} {type : ValueType}
      (resolved : schema.resolveSegments? path.segments = some (path, type)) :
      WellTyped registry schema (.property path type)
  | constant {value : Value} {type : ValueType} (h : value.Inhabits type) :
      WellTyped registry schema (.constant value type)
  | not {operand : Predicate} (h : WellTyped registry schema operand)
      (boolean : operand.type.isBoolean = true) : WellTyped registry schema (.not operand)
  | binary {op : BinaryOperator} {left right : Predicate} {type : ValueType}
      (hleft : WellTyped registry schema left) (hright : WellTyped registry schema right)
      (fits : operatorType op left.type right.type = .ok type) :
      WellTyped registry schema (.binary op left right type)
  | call {function : Function} {arguments : List Predicate} {type : ValueType}
      (h : ∀ argument ∈ arguments, WellTyped registry schema argument)
      (fits : function.resultType (arguments.map Predicate.type) = .ok type) :
      WellTyped registry schema (.call function arguments type)
  | construct {entry : RegisteredType} {constructor : Constructor} {arguments : List Predicate}
      {type : ValueType} (h : ∀ argument ∈ arguments, WellTyped registry schema argument)
      (registered : entry ∈ registry) (known : constructor ∈ entry.constructors)
      (count : arguments.length = constructor.parameters.length)
      (same : entry.type.underlying = type.underlying) :
      WellTyped registry schema (.construct constructor arguments type)

end Predicate
end RecordFilter
