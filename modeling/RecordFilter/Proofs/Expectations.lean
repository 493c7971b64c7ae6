import RecordFilter.Proofs.Equivalence
import RecordFilter.Proofs.Grouping
import RecordFilter.Proofs.Operands

/-!
# Expected types

A literal takes the type that is expected where it stands. At the beginning of a filter nothing is
expected, and beside a connective a boolean is. What is read in these two places can differ in booleans
only: a text that is read as anything else beside a connective is read as the same predicate at the
beginning.

The induction follows the parser. What it carries along is that two predicates are the same unless the
second one is a boolean, and no function and no arithmetic takes a boolean.

Main statement: `sameUnlessBoolean_parseExpression`.
-/

namespace RecordFilter

/-! ## Operators -/

namespace Predicate

/-- A predicate that is no operator. -/
def IsSimple : Predicate → Prop
  | .binary .. | .not _ => False
  | _ => True

theorem IsTypedConstant.isSimple {p : Predicate} (h : p.IsTypedConstant) : p.IsSimple := by
  obtain ⟨_, _, rfl, -⟩ := h
  trivial

/-- Whether two predicates are the same if the second one is no boolean. -/
def SameUnlessBoolean (p q : Predicate) : Prop :=
  q.type.isBoolean = false → p = q

theorem SameUnlessBoolean.refl (p : Predicate) : p.SameUnlessBoolean p :=
  fun _ => rfl

theorem SameUnlessBoolean.of_boolean (p : Predicate) {q : Predicate} (h : q.type.isBoolean = true) :
    p.SameUnlessBoolean q := by
  intro hq
  rw [h] at hq
  cases hq

/-- `Alike` predicates are the same unless they are boolean. -/
theorem Alike.sameUnlessBoolean {p q : Predicate} (h : Alike p q) : p.SameUnlessBoolean q := by
  cases h with
  | refl => exact .refl p
  | null h => exact .of_boolean _ h
  | comparison => exact .of_boolean _ rfl

/-- Of booleans there are booleans only. -/
theorem not_boolean_of_combine {op : BinaryOperator} {left right q : Predicate}
    (h : combine op left right = .ok q) (hq : q.type.isBoolean = false) :
    left.type.isBoolean = false ∧ right.type.isBoolean = false := by
  obtain ⟨type, htype, rfl⟩ := Except.map_eq_ok_iff.1 h
  cases op with
  | connective op =>
    simp only [operatorType] at htype
    split at htype <;> cases htype
    cases hq
  | comparison op =>
    simp only [operatorType] at htype
    split at htype <;> cases htype
    cases hq
  | arithmetic op =>
    -- a number or null
    have hfits : ∀ {type : ValueType}, (type.isNumeric || type = .null) = true →
        type.isBoolean = false := by
      intro type hfits
      rw [Bool.or_eq_true, decide_eq_true_eq] at hfits
      rcases hfits with hnumeric | rfl
      · unfold ValueType.isNumeric at hnumeric
        unfold ValueType.isBoolean
        split at hnumeric <;> simp_all
      · rfl
    simp only [operatorType, arithmeticType] at htype
    split at htype
    · rename_i hboth
      rw [Bool.and_eq_true, Bool.and_eq_true] at hboth
      exact ⟨hfits hboth.1.1, hfits hboth.1.2⟩
    · cases htype

/-- What `combine` makes of sides that are `SameUnlessBoolean` is so as well. -/
theorem SameUnlessBoolean.combine {op : BinaryOperator} {left left' right right' q q' : Predicate}
    (hleft : left.SameUnlessBoolean left') (hright : right.SameUnlessBoolean right')
    (h : combine op left right = .ok q) (h' : combine op left' right' = .ok q') :
    q.SameUnlessBoolean q' := by
  intro hq
  obtain ⟨hl, hr⟩ := not_boolean_of_combine h' hq
  rw [hleft hl, hright hr, h'] at h
  cases h
  rfl

/-- A negation is boolean. -/
theorem boolean_of_negate {operand q : Predicate} (h : negate operand = .ok q) :
    q.type.isBoolean = true := by
  unfold negate at h
  split at h <;> cases h
  rfl

/-- No kind of argument is boolean. -/
theorem not_boolean_of_admits {kind : Function.ArgumentKind} {type : ValueType}
    (h : kind.admits type = true) : type.isBoolean = false := by
  unfold Function.ArgumentKind.admits at h
  rw [Bool.or_eq_true, decide_eq_true_eq] at h
  rcases h with rfl | h
  · rfl
  · unfold ValueType.isBoolean
    cases kind <;>
      simp only [ValueType.isString, ValueType.isIntegral, ValueType.isDateTime,
        ValueType.isNumeric, decide_eq_true_eq] at h
    case string | dateTime => simp [h]
    case integer | numeric => split at h <;> simp_all

/-- No function takes a boolean. -/
theorem not_boolean_of_apply {function : Function} {arguments : List Predicate} {q : Predicate}
    (h : apply function arguments = .ok q) : ∀ a ∈ arguments, a.type.isBoolean = false := by
  have hall : ∀ {kinds : List Function.ArgumentKind} {types : List ValueType},
      List.Forall₂ (fun kind type => kind.admits type = true) kinds types →
      ∀ type ∈ types, type.isBoolean = false := by
    intro kinds types hkinds
    induction hkinds with
    | nil => simp
    | cons hfirst _ ih =>
      intro type htype
      rcases List.mem_cons.1 htype with rfl | htype
      · exact not_boolean_of_admits hfirst
      · exact ih type htype
  obtain ⟨type, htype, rfl⟩ := Except.map_eq_ok_iff.1 h
  intro a ha
  exact hall (Evaluation.resultType_eq_ok htype).2 a.type (List.mem_map_of_mem ha)

end Predicate

namespace FilterParser

open RecordFilter.Filter

/-! ## Token sets -/

/-- Whether texts are read as the same predicates where nothing is expected and where a boolean is,
booleans apart. Whether there is a predicate at all does not depend on the type that is expected. -/
structure IsSteady {n : Nat} (parse : Operand n) : Prop where
  same : ∀ {t h type q q'}, type.isBoolean = true → parse t h none = .ok (some q) →
    parse t h (some type) = .ok (some q') → q.SameUnlessBoolean q'
  blank : ∀ {t h expected}, parse t h expected = .ok none → ∀ expected', parse t h expected' = .ok none

/-- Where a token set gives its literals a type, it makes no difference what is expected. -/
theorem eq_or_of_scope (read : Option ValueType → Outcome) {scope : Option ValueType} {type : ValueType}
    {q q' : Predicate} (h : read (scope.or none) = .ok (some q))
    (h' : read (scope.or (some type)) = .ok (some q')) :
    q = q' ∨ read none = .ok (some q) ∧ read (some type) = .ok (some q') := by
  cases scope with
  | none => exact .inr ⟨h, h'⟩
  | some scope =>
    rw [Option.some_or] at h h'
    rw [h] at h'
    cases h'
    exact .inl rfl

section TokenSets

variable {n : Nat} {schema : RecordType} {parse : Operand n} {text : Text} {type : ValueType}

/-- A boolean expectation changes nothing in an operand that is not boolean. -/
theorem sameUnlessBoolean_operand (hparse : IsSteady parse) (htype : type.isBoolean = true)
    {set : TokenSet} {scope : Option ValueType} {hleft : set.left.length < n}
    {hright : set.right.length < n} {q q' : Predicate}
    (h : operand parse set (scope.or none) hleft hright = .ok q)
    (h' : operand parse set (scope.or (some type)) hleft hright = .ok q') :
    q.SameUnlessBoolean q' := by
  rw [operand_eq_ok_iff] at h h'
  obtain ⟨left, hl, hq⟩ := h
  obtain ⟨left', hl', hq'⟩ := h'
  have hsame : left.SameUnlessBoolean left' := by
    rcases eq_or_of_scope (parse set.left hleft) hl hl' with rfl | ⟨hl, hl'⟩
    · exact .refl _
    · exact hparse.same htype hl hl'
  rcases hq with ⟨hnone, rfl⟩ | ⟨right, hr, hoperate⟩ <;>
    rcases hq' with ⟨hnone', rfl⟩ | ⟨right', hr', hoperate'⟩
  · exact hsame
  · rw [hparse.blank hnone] at hr'
    cases hr'
  · rw [hparse.blank hnone'] at hr
    cases hr
  · obtain ⟨op, hop, hcombine⟩ := operate_eq_ok_iff.1 hoperate
    obtain ⟨op', hop', hcombine'⟩ := operate_eq_ok_iff.1 hoperate'
    rw [hop] at hop'
    cases hop'
    -- the right side takes the type of the left one
    intro hq
    obtain ⟨hboolean, -⟩ := Predicate.not_boolean_of_combine hcombine' hq
    rw [hsame hboolean, hr'] at hr
    cases hr
    exact Predicate.SameUnlessBoolean.combine hsame (.refl _) hcombine hcombine' hq

/-- `extend` keeps what is held `SameUnlessBoolean`. -/
theorem sameUnlessBoolean_extend {sofar sofar' : Option Predicate} {op : Option BinaryOperator}
    {current current' q q' : Predicate}
    (hsofar : Option.Rel Predicate.SameUnlessBoolean sofar sofar')
    (hcurrent : current.SameUnlessBoolean current') (h : extend text (sofar, op) current = .ok q)
    (h' : extend text (sofar', op) current' = .ok q') : q.SameUnlessBoolean q' := by
  cases hsofar with
  | none =>
    rw [extend_none] at h h'
    cases h
    cases h'
    exact hcurrent
  | some hexisting =>
    cases op with
    | none =>
      rw [extend_some] at h h'
      cases h
      cases h'
      exact hcurrent
    | some op =>
      exact .combine hexisting hcurrent (extend_eq_ok_iff.1 h) (extend_eq_ok_iff.1 h')

/-- `negation` keeps what is held `SameUnlessBoolean`. -/
theorem sameUnlessBoolean_negation (hparse : IsSteady parse) {sofar sofar' : Option Predicate}
    {op : Option BinaryOperator} (hsofar : Option.Rel Predicate.SameUnlessBoolean sofar sofar')
    {set : TokenSet} {scope scope' : Option ValueType} {hright : set.right.length < n}
    {q q' : Option Predicate} (h : negation parse text (sofar, op) set scope hright = .ok q)
    (h' : negation parse text (sofar', op) set scope' hright = .ok q') :
    Option.Rel Predicate.SameUnlessBoolean q q' := by
  rw [negation_eq_ok_iff] at h h'
  rcases h with ⟨hnone, rfl⟩ | ⟨operand, negated, combined, hoperand, hnegate, hextend, rfl⟩ <;>
    rcases h' with ⟨hnone', rfl⟩ | ⟨operand', negated', combined', hoperand', hnegate', hextend', rfl⟩
  · exact hsofar
  · rw [hparse.blank hnone] at hoperand'
    cases hoperand'
  · rw [hparse.blank hnone'] at hoperand
    cases hoperand
  · have hsame : negated.SameUnlessBoolean negated' :=
      .of_boolean _ (Predicate.boolean_of_negate hnegate')
    exact .some (sameUnlessBoolean_extend hsofar hsame hextend hextend')

/-- The fold over token sets keeps what is held `SameUnlessBoolean`. -/
theorem sameUnlessBoolean_foldSets (hparse : IsSteady parse) (htype : type.isBoolean = true) :
    ∀ {sets : List TokenSet} {sofar sofar' : Option Predicate} {op : Option BinaryOperator} {h}
      {q q' : Option Predicate}, Option.Rel Predicate.SameUnlessBoolean sofar sofar' →
      foldSets schema parse text none (sofar, op) sets h = .ok q →
      foldSets schema parse text (some type) (sofar', op) sets h = .ok q' →
      Option.Rel Predicate.SameUnlessBoolean q q' := by
  intro sets
  induction sets with
  | nil =>
    intro sofar sofar' op h q q' hsofar hq hq'
    cases hq
    cases hq'
    exact hsofar
  | cons set sets ih =>
    intro sofar sofar' op h q q' hsofar hq hq'
    -- the set alone decides what is done with it
    rcases foldSets_cases hq with ⟨hleft, current, combined, hcurrent, hcombined, hq⟩ |
      ⟨hleft, hnot, hq⟩ | ⟨hleft, hnot, hright, hq⟩
    · obtain ⟨current', combined', hcurrent', hcombined', hq'⟩ := (foldSets_operand hleft).1 hq'
      have hsame := sameUnlessBoolean_operand hparse htype hcurrent hcurrent'
      exact ih (.some (sameUnlessBoolean_extend hsofar hsame hcombined hcombined')) hq hq'
    · rw [foldSets_not hleft hnot] at hq'
      exact sameUnlessBoolean_negation hparse hsofar hq hq'
    · rw [foldSets_marker hleft hnot hright] at hq'
      exact ih hsofar hq hq'

end TokenSets

end FilterParser

/-! ## Constants -/

namespace Filter.Literal

variable {culture : Culture} {newGuid : Guid} {expected : Option ValueType} {type : ValueType}
  {t : Text} {q q' : Predicate}

/-- A quoted text is a string where nothing, null or a boolean is expected. -/
theorem ofQuoted_of_bare {content : Text}
    (h : ∀ type ∈ expected, type = .null ∨ type.isBoolean = true) :
    ofQuoted culture expected content = .ok (.literal (.string (String.ofList content))) := by
  cases expected with
  | none => rfl
  | some type =>
    rcases h type rfl with rfl | h
    · rfl
    · have hunderlying : type.underlying = .boolean := of_decide_eq_true h
      simp [ofQuoted, hunderlying]

/-- Neither null nor a boolean says of which type a marked literal is. -/
theorem expectedOr_of_bare (h : ∀ type ∈ expected, type = .null ∨ type.isBoolean = true)
    (other : ValueType) (hboolean : other ≠ .boolean) (hnull : other ≠ .null) :
    expectedOr expected other = other := by
  cases expected with
  | none => rfl
  | some type =>
    have hne : type.underlying ≠ other := by
      rcases h type rfl with rfl | h
      · exact hnull.symm
      · rw [of_decide_eq_true h]
        exact hboolean.symm
    simp [expectedOr, Option.filter, hne]

/-- A null without a type can have one where a boolean is expected. -/
theorem alike_null (hexpected : ∀ other ∈ expected, other = .null) (htype : type.isBoolean = true) :
    (Predicate.constant .null ((expected.filter ValueType.acceptsNull).getD .null)).Alike
      (.constant .null (((some type).filter ValueType.acceptsNull).getD .null)) := by
  have huntyped : (expected.filter ValueType.acceptsNull).getD .null = .null := by
    cases expected with
    | none => rfl
    | some other =>
      obtain rfl := hexpected other rfl
      rfl
  rw [huntyped]
  by_cases haccepts : type.acceptsNull = true
  · have htyped : ((some type).filter ValueType.acceptsNull).getD .null = type := by
      simp [Option.filter, haccepts]
    rw [htyped]
    exact .null htype
  · have huntyped' : ((some type).filter ValueType.acceptsNull).getD .null = .null := by
      simp [Option.filter, haccepts]
    rw [huntyped']
    exact .refl _

/-- Text without a mark that is a constant where a boolean is expected, is `true` or `false`. Where
nothing is expected, it is the same constant. -/
theorem eq_of_unmarked (hexpected : ∀ other ∈ expected, other = .null)
    (hunderlying : type.underlying = .boolean)
    (hnull : ¬Text.eqIgnoreCase t "null".toList = true) (hguid : marked? "guid" t = none)
    (hdate : marked? "datetime" t = none)
    (h : (known? culture newGuid expected t).getD (fallback culture expected t) = .ok q)
    (h' : (known? culture newGuid (some type) t).getD (fallback culture (some type) t) = .ok q') :
    q = q' := by
  unfold known? at h h'
  rw [if_neg hnull] at h h'
  have hboolean : ofType? culture newGuid .boolean t = none := rfl
  simp only [hguid, hdate, hunderlying, hboolean, Option.map_none, Option.getD_none, fallback,
    Option.map_some] at h'
  cases hvalue : boolean? t with
  | none =>
    rw [hvalue] at h'
    cases h'
  | some value =>
    rw [hvalue] at h'
    cases h'
    cases expected with
    | none =>
      simp only [hguid, hdate, Option.getD_none, fallback, Option.map_none, infer?, hvalue] at h
      cases h
      rfl
    | some other =>
      -- null alone is of the type of null
      obtain rfl := hexpected other rfl
      simp only [hguid, hdate, ValueType.underlying] at h
      cases h

/-- Text that stands for a constant both where no type is known and where a boolean is expected, stands
for the same one, but for the type of null. -/
theorem alike_constant (hexpected : ∀ other ∈ expected, other = .null) (htype : type.isBoolean = true)
    (h : (known? culture newGuid expected t).getD (fallback culture expected t) = .ok q)
    (h' : (known? culture newGuid (some type) t).getD (fallback culture (some type) t) = .ok q') :
    q.Alike q' := by
  have hbare : ∀ other ∈ expected, other = .null ∨ other.isBoolean = true :=
    fun other hother => .inl (hexpected other hother)
  have hbare' : ∀ other ∈ some type, other = .null ∨ other.isBoolean = true := by
    rintro _ ⟨⟩
    exact .inr htype
  by_cases hnull : Text.eqIgnoreCase t "null".toList = true
  · unfold known? at h h'
    rw [if_pos hnull] at h h'
    cases h
    cases h'
    exact alike_null hexpected htype
  · -- a mark says of which type a literal is
    cases hguid : marked? "guid" t with
    | some content =>
      unfold known? at h h'
      simp only [if_neg hnull, hguid, Option.getD_some, expectedOr_of_bare hbare .guid nofun nofun,
        expectedOr_of_bare hbare' .guid nofun nofun] at h h'
      rw [h] at h'
      cases h'
      exact .refl _
    | none =>
      cases hdate : marked? "datetime" t with
      | some content =>
        unfold known? at h h'
        simp only [if_neg hnull, hguid, hdate, Option.getD_some,
          expectedOr_of_bare hbare .dateTime nofun nofun,
          expectedOr_of_bare hbare' .dateTime nofun nofun] at h h'
        rw [h] at h'
        cases h'
        exact .refl _
      | none =>
        rw [eq_of_unmarked hexpected (of_decide_eq_true htype) hnull hguid hdate h h']
        exact .refl _

end Filter.Literal

namespace FilterParser

open RecordFilter.Filter

variable {p : FilterParser} {newGuid : Guid} {expected : Option ValueType} {type : ValueType} {q q' : Predicate}

/-! ## Text without operators -/

theorem construction?_none {registry : TypeRegistry} {t : Text} {parse : Operand t.length} :
    construction? registry t parse none = none := by
  unfold construction?
  split
  · rfl
  · simp only
    split
    · rename_i hnone
      cases hnone
    · rfl

/-- A construction has the type that is expected. -/
theorem exists_of_construction {registry : TypeRegistry} {t : Text} {parse : Operand t.length}
    (h : construction? registry t parse expected = some q) :
    ∃ constructor arguments type, expected = some type ∧ q = .construct constructor arguments type := by
  unfold construction? at h
  split at h
  · cases h
  · simp only at h
    split at h
    · split at h
      · obtain ⟨constructor, -, hq⟩ := List.exists_of_findSome?_eq_some h
        split at hq
        · cases hq
        · split at hq <;> cases hq
          exact ⟨_, _, _, rfl, rfl⟩
      · cases h
    · cases h

/-- A text without operators is not read as an operator. -/
theorem isSimple_of_atom {t : Text} {parse : Operand t.length} (h : atom p newGuid t parse expected = .ok q) :
    q.IsSimple := by
  cases isAtomRead_of_atom h with
  | quoted _ hread => exact (Literal.standsFor_of_ofQuoted hread).isTypedConstant.isSimple
  | construction _ hread =>
    obtain ⟨_, _, _, -, rfl⟩ := exists_of_construction hread
    trivial
  | call _ _ hread =>
    obtain ⟨_, _, _, rfl⟩ := eq_call_of_functionCall hread
    trivial
  | property => trivial
  | known _ _ _ _ hread => exact (Literal.standsFor_of_known hread).isTypedConstant.isSimple
  | fallback _ _ _ _ _ hread => exact (Literal.standsFor_of_fallback hread).isTypedConstant.isSimple

/-- A call that is read in both places is the same one, because its arguments are no booleans. -/
theorem functionCall_steady {t : Text} {parse : Operand t.length} (hparse : IsSteady parse)
    (htype : type.isBoolean = true) (h : functionCall? p.schema t parse none = some (.ok q))
    (h' : functionCall? p.schema t parse (some type) = some (.ok q')) : q = q' := by
  obtain ⟨name, arguments, function, a, others, hcall, hname, ⟨hfirst, ha⟩, hothers, happly⟩ :=
    exists_of_functionCall h
  obtain ⟨_, _, _, a', others', hcall', hname', ⟨hfirst', ha'⟩, hothers', happly'⟩ :=
    exists_of_functionCall h'
  rw [hcall] at hcall'
  cases hcall'
  rw [hname] at hname'
  cases hname'
  -- the expected type can matter for the first argument only
  have hnot := Predicate.not_boolean_of_apply happly'
  have hsame : a = a' := by
    rcases eq_or_of_scope (parse (splitLastArgument arguments).1 hfirst) ha ha' with rfl | ⟨ha, ha'⟩
    · rfl
    · exact hparse.same htype ha ha' (hnot a' List.mem_cons_self)
  subst hsame
  rcases hothers with ⟨hnone, rfl⟩ | ⟨second, b, _, hsecond, hb, rfl⟩ <;>
    rcases hothers' with ⟨hnone', rfl⟩ | ⟨second', b', _, hsecond', hb', rfl⟩
  · rw [happly] at happly'
    cases happly'
    rfl
  · rw [hnone] at hsecond'
    cases hsecond'
  · rw [hnone'] at hsecond
    cases hsecond
  · rw [hsecond] at hsecond'
    cases hsecond'
    rw [hb] at hb'
    cases hb'
    rw [happly] at happly'
    cases happly'
    rfl

/-- What is no construction is read alike in both places, if calls are. -/
theorem alike_atom {t : Text} {parse : Operand t.length} (hexpected : ∀ other ∈ expected, other = .null)
    (htype : type.isBoolean = true) (hnew : construction? p.registry t parse expected = none)
    (hnew' : construction? p.registry t parse (some type) = none)
    (hcall : ∀ r r', functionCall? p.schema t parse expected = some (.ok r) →
      functionCall? p.schema t parse (some type) = some (.ok r') → r = r')
    (h : atom p newGuid t parse expected = .ok q) (h' : atom p newGuid t parse (some type) = .ok q') :
    q.Alike q' := by
  unfold atom at h h'
  simp only [hnew] at h
  simp only [hnew'] at h'
  split at h
  · -- text in quotes
    rename_i content hcontent
    simp only [hcontent, Except.mapError_eq_ok_iff] at h h'
    rw [Literal.ofQuoted_of_bare fun other hother => .inl (hexpected other hother)] at h
    rw [Literal.ofQuoted_of_bare (by simp [htype])] at h'
    rw [h] at h'
    cases h'
    exact .refl _
  · rename_i hquoted
    simp only [hquoted] at h'
    split at h
    · -- what is a call in one place is a call in the other
      rename_i hfound
      split at h'
      · rename_i hfound'
        rw [h] at hfound
        rw [h'] at hfound'
        rw [hcall q q' hfound hfound']
        exact .refl _
      · rename_i hnone
        rw [functionCall?_eq_none_iff.2 (functionCall?_eq_none_iff.1 hnone)] at hfound
        cases hfound
    · rename_i hnone
      rw [functionCall?_eq_none_iff.2 (functionCall?_eq_none_iff.1 hnone)] at h'
      simp only at h'
      split at h
      · rename_i hproperty
        simp only [hproperty] at h'
        rw [h] at h'
        cases h'
        exact .refl _
      · rename_i hproperty
        simp only [hproperty, Except.mapError_eq_ok_iff] at h h'
        exact Literal.alike_constant hexpected htype h h'

/-- A boolean expectation changes nothing in an atom that is not boolean. -/
theorem sameUnlessBoolean_atom {t : Text} {parse : Operand t.length} (hparse : IsSteady parse)
    (htype : type.isBoolean = true) (h : atom p newGuid t parse none = .ok q)
    (h' : atom p newGuid t parse (some type) = .ok q') : q.SameUnlessBoolean q' := by
  have hcall : ∀ r r', functionCall? p.schema t parse none = some (.ok r) →
      functionCall? p.schema t parse (some type) = some (.ok r') → r = r' :=
    fun _ _ => functionCall_steady hparse htype
  cases hnew : construction? p.registry t parse (some type) with
  | none => exact (alike_atom (by simp) htype construction?_none hnew hcall h h').sameUnlessBoolean
  | some found =>
    unfold atom at h h'
    simp only [construction?_none] at h
    simp only [hnew] at h'
    split at h'
    · rename_i content hcontent
      simp only [hcontent, Except.mapError_eq_ok_iff] at h h'
      rw [Literal.ofQuoted_of_bare (by simp)] at h
      rw [Literal.ofQuoted_of_bare (by simp [htype])] at h'
      rw [h] at h'
      cases h'
      exact .refl _
    · cases h'
      obtain ⟨_, _, _, ⟨⟩, rfl⟩ := exists_of_construction hnew
      exact .of_boolean _ htype

/-! ## Whole texts -/

/-- A text that is read both where nothing is expected and where a boolean is, is read as the same
predicate, unless it is read as a boolean. -/
theorem sameUnlessBoolean_parseExpression {p : FilterParser} {newGuid : Guid} {t : Text} {type : ValueType}
    {q q' : Predicate} (htype : type.isBoolean = true)
    (h : p.parseExpression newGuid t none = .ok (some q))
    (h' : p.parseExpression newGuid t (some type) = .ok (some q')) : q.SameUnlessBoolean q' := by
  have hparse : IsSteady (p.inner newGuid (Text.trim t).length) := by
    refine ⟨fun {shorter hshorter _ _ _} htype h h' => ?_, fun hnone _ => ?_⟩
    · exact sameUnlessBoolean_parseExpression htype h h'
    · exact parseExpression_eq_ok_none rfl hnone
  cases isRead_of_parseExpression h with
  | blank _ h => cases h
  | enclosed hsets hstrip h =>
    rw [parseExpression_of_strip hsets hstrip] at h'
    exact hparse.same (h := length_stripEnclosing?_lt hstrip) htype h h'
  | atom hne hsets hstrip h =>
    rw [parseExpression_of_atom _ hne hsets hstrip, Except.map_eq_ok_iff] at h'
    obtain ⟨_, h', ⟨⟩⟩ := h'
    obtain ⟨_, h, ⟨⟩⟩ := Except.map_eq_ok_iff.1 h
    exact sameUnlessBoolean_atom hparse htype h h'
  | sets hsets h =>
    rw [parseExpression_of_sets hsets (by simp)] at h'
    cases sameUnlessBoolean_foldSets hparse htype .none h h' with
    | some hsame => exact hsame
termination_by (Text.trim t).length
decreasing_by exact Nat.lt_of_le_of_lt (Text.length_trim_le _) hshorter

theorem isSteady_inner (p : FilterParser) (newGuid : Guid) (n : Nat) : IsSteady (p.inner newGuid n) :=
  ⟨sameUnlessBoolean_parseExpression, fun hnone _ => parseExpression_eq_ok_none rfl hnone⟩

/-- A text without operators that is no construction is read alike in both places. -/
theorem alike_of_isAtom {t : Text} (ht : IsAtom t) (hnew : Filter.construction? t = none)
    (htype : type.isBoolean = true) (h : p.parseExpression newGuid t none = .ok (some q))
    (h' : p.parseExpression newGuid t (some type) = .ok (some q')) : q.Alike q' := by
  rw [parseExpression_atom ht, Except.map_eq_ok_iff] at h h'
  obtain ⟨_, h, ⟨⟩⟩ := h
  obtain ⟨_, h', ⟨⟩⟩ := h'
  exact alike_atom (by simp) htype construction?_none (construction?_eq_none hnew)
    (fun _ _ => functionCall_steady (isSteady_inner p newGuid _) htype) h h'

/-- A text without operators and parentheses is read alike also beside a null without a type. -/
theorem alike_of_plain {t : Text} (ht : IsAtom t) (hparen : '(' ∉ t)
    (hexpected : ∀ other ∈ expected, other = .null) (htype : type.isBoolean = true)
    (h : p.parseExpression newGuid t expected = .ok (some q))
    (h' : p.parseExpression newGuid t (some type) = .ok (some q')) : q.Alike q' := by
  rw [parseExpression_atom ht, Except.map_eq_ok_iff] at h h'
  obtain ⟨_, h, ⟨⟩⟩ := h
  obtain ⟨_, h', ⟨⟩⟩ := h'
  have hnew := construction?_eq_none_of_plain hparen
  have hcall := functionCall?_eq_none_of_plain hparen
  refine alike_atom hexpected htype (construction?_eq_none hnew) (construction?_eq_none hnew)
    (fun r r' hr => ?_) h h'
  rw [functionCall?_eq_none_iff.2 hcall] at hr
  cases hr

end FilterParser
end RecordFilter
