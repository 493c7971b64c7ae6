import RecordFilter.Proofs.Typing

/-!
# Nested records

A path through nested records can be read in two parts: to a nested object, and on from there. A predicate
over nested records becomes one over the records around them by putting the path to the nested record in
front of every property. The new predicate has a value on a record if and only if the old one has it on the
nested object. Only the errors may differ, since they show paths.

Main statements: `RecordType.resolveSegments?_append` and `Evaluation.toOption_value_under`.
-/

namespace RecordFilter

/-! ## Resolving paths -/

namespace RecordType

theorem follow?_append (type : ValueType) (before after : List String) :
    follow? type (before ++ after) = (follow? type before).bind (follow? · after) := by
  induction before generalizing type with
  | nil => rfl
  | cons name before ih =>
    rw [List.cons_append, follow?, follow?, Option.bind_assoc]
    refine congrArg _ (funext fun fields => ?_)
    rw [Option.bind_assoc]
    exact congrArg _ (funext fun next => ih next)

/-- Only the fields count where a path begins. -/
theorem follow?_congr {type type' : ValueType} (h : type.underlying = type'.underlying)
    {names : List String} (hnames : names ≠ []) : follow? type names = follow? type' names := by
  obtain ⟨name, rest, rfl⟩ := List.exists_cons_of_ne_nil hnames
  rw [follow?, follow?, ValueType.fields?, ValueType.fields?, h]

variable {schema nested : RecordType} {path names : List String}

/-- Whether a path leads from the records of one type to nested records of another type, which may be
missing. -/
def LeadsTo (schema : RecordType) (path : List String) (nested : RecordType) : Prop :=
  ∃ type, schema.resolveSegments? path = some (⟨path⟩, type) ∧ type.underlying = nested.toType

/-- A path that goes on through a nested record resolves as its end does in the nested record type. -/
theorem resolveSegments?_append (h : schema.LeadsTo path nested) (hnames : names ≠ []) :
    schema.resolveSegments? (path ++ names)
      = (nested.resolveSegments? names).map fun found => (⟨path ++ names⟩, found.2) := by
  obtain ⟨type, hpath, hnested⟩ := h
  obtain ⟨hne, -, hfollow⟩ := resolveSegments?_eq_some_iff.1 hpath
  have hends : follow? type names = follow? nested.toType names :=
    follow?_congr (by rw [hnested]; rfl) hnames
  rw [resolveSegments?, if_neg (by simp [hne]), follow?_append, hfollow, Option.bind_some, hends,
    resolveSegments?, if_neg (by simpa using hnames), Option.map_map]
  rfl

end RecordType

/-! ## Reading properties -/

namespace Evaluation

/-- What is read does not depend on the path that errors show. -/
theorem toOption_navigate (path other : PropertyPath) (value : Value) (names : List String) :
    (navigate path value names).toOption = (navigate other value names).toOption := by
  induction names generalizing value with
  | nil => rfl
  | cons name rest ih =>
    cases value with
    | object fields =>
      rw [navigate, navigate]
      split
      · exact ih _
      · rfl
    | _ => rfl

theorem navigate_append {path : PropertyPath} {value found : Value} {before : List String}
    (h : navigate path value before = .ok found) (after : List String) :
    navigate path value (before ++ after) = navigate path found after := by
  induction before generalizing value with
  | nil =>
    cases h
    rfl
  | cons name before ih =>
    cases value <;> simp only [navigate, List.cons_append, reduceCtorEq] at h ⊢
    split at h
    · exact ih h
    · cases h

variable {record : FieldReader} {base : List String} {fields : FieldMap Value}

/-- A path that leads on from an object is read from the object. -/
theorem toOption_readProperty_append (h : readProperty record ⟨base⟩ = .ok (.object fields))
    {names : List String} (hnames : names ≠ []) :
    (readProperty record ⟨base ++ names⟩).toOption
      = (readProperty (fun name => fields.get? name) ⟨names⟩).toOption := by
  cases base with
  | nil => cases h
  | cons first base =>
    obtain ⟨name, rest, rfl⟩ := List.exists_cons_of_ne_nil hnames
    simp only [readProperty, List.cons_append] at h ⊢
    cases hfirst : record first with
    | none =>
      rw [hfirst] at h
      cases h
    | some value =>
      rw [hfirst] at h
      have hread := navigate_path_irrelevant _ ⟨first :: (base ++ name :: rest)⟩ base h
      simp only [navigate_append hread, navigate]
      split
      · exact toOption_navigate _ _ _ rest
      · rfl

end Evaluation

/-! ## Moving predicates -/

namespace Predicate

mutual

/-- The predicate with more names in front of every property path. -/
def under (base : List String) : Predicate → Predicate
  | property path type => property ⟨base ++ path.segments⟩ type
  | constant value type => constant value type
  | not operand => not (under base operand)
  | binary op left right type => binary op (under base left) (under base right) type
  | call function arguments type => call function (underAll base arguments) type
  | construct constructor arguments type => construct constructor (underAll base arguments) type

/-- Several predicates with more names in front of every property path. -/
def underAll (base : List String) : List Predicate → List Predicate
  | [] => []
  | p :: rest => under base p :: underAll base rest

end

@[simp] theorem type_under (base : List String) (p : Predicate) : (p.under base).type = p.type := by
  cases p <;> rfl

theorem underAll_eq_map (base : List String) (ps : List Predicate) :
    underAll base ps = ps.map (under base) := by
  induction ps with
  | nil => rfl
  | cons p rest ih => rw [underAll, ih, List.map_cons]

mutual

/-- With no names in front, nothing changes. -/
theorem under_nil : ∀ p : Predicate, p.under [] = p
  | property _ _ => rfl
  | constant _ _ => rfl
  | not operand => by rw [under, under_nil operand]
  | binary _ left right _ => by rw [under, under_nil left, under_nil right]
  | call _ arguments _ => by rw [under, underAll_nil arguments]
  | construct _ arguments _ => by rw [under, underAll_nil arguments]

theorem underAll_nil : ∀ ps : List Predicate, underAll [] ps = ps
  | [] => rfl
  | p :: rest => by rw [underAll, under_nil p, underAll_nil rest]

end

mutual

/-- The paths of the properties of a predicate. -/
def paths : Predicate → List PropertyPath
  | property path _ => [path]
  | constant _ _ => []
  | not operand => paths operand
  | binary _ left right _ => paths left ++ paths right
  | call _ arguments _ => pathsOf arguments
  | construct _ arguments _ => pathsOf arguments

/-- The paths of the properties of several predicates. -/
def pathsOf : List Predicate → List PropertyPath
  | [] => []
  | p :: rest => paths p ++ pathsOf rest

end

/-- Whether every property is a field, or a field of a nested record, and not the record itself. -/
def ReadsFields (p : Predicate) : Prop :=
  ∀ path ∈ p.paths, path.segments ≠ []

theorem mem_pathsOf {path : PropertyPath} {ps : List Predicate} :
    path ∈ pathsOf ps ↔ ∃ p ∈ ps, path ∈ p.paths := by
  induction ps with
  | nil => simp [pathsOf]
  | cons p rest ih => simp [pathsOf, ih]

end Predicate

/-! ## Evaluating moved predicates -/

namespace Evaluation

variable {flagsMatch : FlagsMatch} {record : FieldReader} {base : List String} {fields : FieldMap Value}

/-- What an operator makes of its operands depends on their values, and for a comparison on whether the left
one is of a flags type. Which error an operand has makes no difference to the value. -/
theorem toOption_value_binary {record' : FieldReader} {op : BinaryOperator}
    {left left' right right' : Predicate} {type : ValueType}
    (hleft : (value flagsMatch record left).toOption = (value flagsMatch record' left').toOption)
    (hright : (value flagsMatch record right).toOption = (value flagsMatch record' right').toOption)
    (hflags : hasFlagsType left = hasFlagsType left') :
    (value flagsMatch record (.binary op left right type)).toOption
      = (value flagsMatch record' (.binary op left' right' type)).toOption := by
  rcases Except.cases_of_toOption_eq hleft with ⟨a, hleft, hleft'⟩ | ⟨e, e', hleft, hleft'⟩
  · rcases Except.cases_of_toOption_eq hright with ⟨b, hright, hright'⟩ | ⟨e, e', hright, hright'⟩
    · cases op <;> simp only [value, hleft, hleft', hright, hright', hflags]
    · cases op with
      | connective op =>
        simp only [value, hleft, hleft', hright, hright']
        -- a decisive left side hides the error of the right one
        split
        · rfl
        · split <;> rfl
      | comparison op | arithmetic op =>
        simp only [value, hleft, hleft', hright, hright']
        rfl
  · cases op <;> simp only [value, hleft, hleft'] <;> rfl

mutual

/-- On a record with an object at the end of the path, a predicate that is moved there has the value that
it has on the object. -/
theorem toOption_value_under (h : readProperty record ⟨base⟩ = .ok (.object fields)) :
    ∀ p : Predicate, p.ReadsFields →
      (value flagsMatch record (p.under base)).toOption
        = (value flagsMatch (fun name => fields.get? name) p).toOption
  | .property path type, hp => by
    rw [Predicate.under, value_property, value_property]
    exact toOption_readProperty_append h (hp path List.mem_cons_self)
  | .constant found type, _ => by rw [Predicate.under, value_constant, value_constant]
  | .not operand, hp => by
    rw [Predicate.under, value, value]
    rcases Except.cases_of_toOption_eq (toOption_value_under h operand hp) with
      ⟨a, hmoved, hvalue⟩ | ⟨e, e', hmoved, hvalue⟩ <;> rw [hmoved, hvalue]
    rfl
  | .binary op left right type, hp => by
    rw [Predicate.under]
    refine toOption_value_binary
      (toOption_value_under h left fun path hpath => hp path (List.mem_append_left _ hpath))
      (toOption_value_under h right fun path hpath => hp path (List.mem_append_right _ hpath)) ?_
    rw [hasFlagsType, hasFlagsType, Predicate.type_under]
  | .call function arguments type, hp => by
    rw [Predicate.under, value, value]
    rcases Except.cases_of_toOption_eq (toOption_values_under h arguments hp) with
      ⟨a, hmoved, hvalue⟩ | ⟨e, e', hmoved, hvalue⟩ <;> rw [hmoved, hvalue]
    rfl
  | .construct constructor arguments type, hp => by
    rw [Predicate.under, value, value]
    rcases Except.cases_of_toOption_eq (toOption_values_under h arguments hp) with
      ⟨a, hmoved, hvalue⟩ | ⟨e, e', hmoved, hvalue⟩ <;> rw [hmoved, hvalue]
    rfl

theorem toOption_values_under (h : readProperty record ⟨base⟩ = .ok (.object fields)) :
    ∀ ps : List Predicate, (∀ path ∈ Predicate.pathsOf ps, path.segments ≠ []) →
      (values flagsMatch record (Predicate.underAll base ps)).toOption
        = (values flagsMatch (fun name => fields.get? name) ps).toOption
  | [], _ => rfl
  | p :: rest, hps => by
    have hrest := toOption_values_under h rest fun path hpath => hps path (List.mem_append_right _ hpath)
    rw [Predicate.underAll, values, values]
    rcases Except.cases_of_toOption_eq
        (toOption_value_under h p fun path hpath => hps path (List.mem_append_left _ hpath)) with
      ⟨a, hmoved, hvalue⟩ | ⟨e, e', hmoved, hvalue⟩ <;> rw [hmoved, hvalue]
    · rcases Except.cases_of_toOption_eq hrest with
        ⟨b, hmoved, hvalue⟩ | ⟨e, e', hmoved, hvalue⟩ <;> rw [hmoved, hvalue]
      rfl
    · rfl

end

end Evaluation
end RecordFilter
