import RecordFilter.Proofs.OperatorTyping

/-!
# Predicates that mean the same

Two predicates mean the same if they have the same outcome on every record. A predicate that is parsed
from a text may differ from the one that the text shows elsewhere: a string match may be compared with
`true`, and null may have taken another type. Neither changes an outcome.

Main statements: `Predicate.sameValue_equals_true` and `Predicate.Alike.sameValue`.
-/

namespace RecordFilter

namespace Predicate

/-! ## Outcomes -/

/-- Whether two predicates have the same outcome on every record. -/
def SameValue (p q : Predicate) : Prop :=
  ∀ flagsMatch record, Evaluation.value flagsMatch record p = Evaluation.value flagsMatch record q

/-- Every predicate is the `SameValue` as itself. -/
theorem SameValue.refl (p : Predicate) : SameValue p p :=
  fun _ _ => rfl

theorem SameValue.not {p q : Predicate} (h : SameValue p q) : SameValue (.not p) (.not q) := by
  intro flagsMatch record
  rw [Evaluation.value, Evaluation.value, h]

/-- `SameValue` on both sides of a connective gives `SameValue` of the whole. -/
theorem SameValue.connective {op : Connective} {p q p' q' : Predicate} {type : ValueType}
    (hleft : SameValue p p') (hright : SameValue q q') :
    SameValue (.binary (.connective op) p q type) (.binary (.connective op) p' q' type) := by
  intro flagsMatch record
  rw [Evaluation.value, Evaluation.value, hleft, hright]

/-- Null compares in the same way whether or not it is of a flags type. -/
theorem comparison_null (flagsMatch : FlagsMatch) (flags flags' : Bool) (op : Comparison) (b : Value) :
    Evaluation.comparison flagsMatch flags op .null b
      = Evaluation.comparison flagsMatch flags' op .null b := by
  cases op <;> rfl

/-- The left side of a comparison counts with its value and with whether it is of a flags type. -/
def SameSide (p q : Predicate) : Prop :=
  SameValue p q ∧
    (Evaluation.hasFlagsType p = Evaluation.hasFlagsType q ∨ ∃ type, q = .constant .null type)

/-- A comparison needs `SameSide` of its left side, whose type decides about flags, and `SameValue` of its
right side. -/
theorem SameSide.comparison {op : Comparison} {p q p' q' : Predicate} {type : ValueType}
    (hleft : SameSide p p') (hright : SameValue q q') :
    SameValue (.binary (.comparison op) p q type) (.binary (.comparison op) p' q' type) := by
  obtain ⟨hleft, hflags⟩ := hleft
  intro flagsMatch record
  rw [Evaluation.value, Evaluation.value, hleft, hright]
  rcases hflags with hflags | ⟨type, rfl⟩
  · rw [hflags]
  · rw [Evaluation.value]
    cases Evaluation.value flagsMatch record q' with
    | error error => rfl
    | ok b => simp only [comparison_null flagsMatch (Evaluation.hasFlagsType p)
        (Evaluation.hasFlagsType (constant .null type))]

/-- `hasFlagsType` reads nothing of a predicate but the underlying type. -/
theorem hasFlagsType_of_underlying {p q : Predicate} (h : p.type.underlying = q.type.underlying) :
    Evaluation.hasFlagsType p = Evaluation.hasFlagsType q := by
  unfold Evaluation.hasFlagsType ValueType.enumeration?
  rw [h]

/-- A string function that answers with a boolean gives no other value. -/
theorem boolean_of_onStrings {f : Text → Text → Bool} {arguments : List Value} {value : Value}
    (h : Evaluation.onStrings (fun a b => .ok (.boolean (f a b))) arguments = .ok value) :
    ∃ b, value = .boolean b := by
  unfold Evaluation.onStrings Evaluation.binary at h
  split at h
  · rename_i first second
    beta_reduce at h
    cases hfirst : Evaluation.stringArgument 0 first with
    | error error =>
      rw [hfirst] at h
      cases h
    | ok a =>
      cases hsecond : Evaluation.stringArgument 1 second with
      | error error =>
        rw [hfirst, hsecond] at h
        cases h
      | ok b =>
        rw [hfirst, hsecond] at h
        cases h
        exact ⟨_, rfl⟩
  · cases h

/-- A string match gives a boolean or an error. -/
theorem value_call_of_isStringMatch {function : Function} (h : function.isStringMatch = true)
    {flagsMatch : FlagsMatch} {record : FieldReader} {arguments : List Predicate} {type : ValueType}
    {value : Value}
    (hvalue : Evaluation.value flagsMatch record (.call function arguments type) = .ok value) :
    ∃ b, value = .boolean b := by
  rw [Evaluation.value] at hvalue
  split at hvalue
  · cases hvalue
  · rw [Except.mapError_eq_ok_iff, Evaluation.call_builtin] at hvalue
    cases function <;> first | exact boolean_of_onStrings hvalue | cases h

/-- A string match says the same as the equation of it with `true`. -/
theorem sameValue_equals_true {function : Function} (h : function.isStringMatch = true)
    {arguments : List Predicate} {type : ValueType} :
    SameValue (.binary (.comparison .eq) (.call function arguments .boolean)
      (.constant (.boolean true) type) .boolean) (.call function arguments .boolean) := by
  intro flagsMatch record
  rw [Evaluation.value, Evaluation.value]
  cases hcall : Evaluation.value flagsMatch record (.call function arguments .boolean) with
  | error error => rfl
  | ok value =>
    obtain ⟨b, rfl⟩ := value_call_of_isStringMatch h hcall
    have hflags : Evaluation.hasFlagsType (.call function arguments .boolean) = false := rfl
    have hequal : Value.equals (.boolean b) (.boolean true) = b := by cases b <;> rfl
    simp [Evaluation.comparison, Evaluation.areEqual, hflags, Value.isNull, hequal, Except.map]

/-! ## Types of null -/

/-- Whether two predicates are the same up to the type of null in comparisons: in the first one null has
a type of its own, in the second one it may have a boolean type. -/
inductive Alike : Predicate → Predicate → Prop
  | refl (p : Predicate) : Alike p p
  | null {type : ValueType} (h : type.isBoolean = true) :
      Alike (.constant .null .null) (.constant .null type)
  | comparison {op : Comparison} {left left' right right' : Predicate} (hleft : Alike left left')
      (hright : Alike right right') :
      Alike (.binary (.comparison op) left right .boolean)
        (.binary (.comparison op) left' right' .boolean)

theorem Alike.sameSide {p q : Predicate} (h : Alike p q) : SameSide p q := by
  induction h with
  | refl p => exact ⟨.refl p, .inl rfl⟩
  | null => exact ⟨fun _ _ => by rw [Evaluation.value_constant, Evaluation.value_constant],
      .inr ⟨_, rfl⟩⟩
  | comparison _ _ ihleft ihright => exact ⟨ihleft.comparison ihright.1, .inl rfl⟩

/-- `Alike` predicates have the `SameValue`, whatever the record and the options. -/
theorem Alike.sameValue {p q : Predicate} (h : Alike p q) : SameValue p q :=
  h.sameSide.1

end Predicate
end RecordFilter
