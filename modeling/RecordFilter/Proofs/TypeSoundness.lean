import RecordFilter.Proofs.OperatorTyping
import RecordFilter.Proofs.ParserTyping
import RecordFilter.Query.Result

/-!
# Type soundness

A typed predicate does on an admitted record what its types promise: each of its parts has a value of
its type, or fails for a reason that lies in the data. The reasons are listed by `DataFault`, node by
node.

Main statement: a filter that the parser accepts never fails for a reason that its static check is
there to prevent.
-/

namespace RecordFilter

/-! ## Parts of a predicate -/

namespace Predicate

/-- The subexpressions of a predicate, with the predicate itself. -/
inductive IsPart : Predicate → Predicate → Prop
  | refl (p : Predicate) : IsPart p p
  | operand {part operand : Predicate} (h : IsPart part operand) : IsPart part (.not operand)
  | left {part left : Predicate} (h : IsPart part left) (op : BinaryOperator) (right : Predicate)
      (type : ValueType) : IsPart part (.binary op left right type)
  | right {part right : Predicate} (h : IsPart part right) (op : BinaryOperator) (left : Predicate)
      (type : ValueType) : IsPart part (.binary op left right type)
  | argument {part argument : Predicate} {arguments : List Predicate} (h : IsPart part argument)
      (mem : argument ∈ arguments) (function : Function) (type : ValueType) :
      IsPart part (.call function arguments type)
  | constructorArgument {part argument : Predicate} {arguments : List Predicate}
      (h : IsPart part argument) (mem : argument ∈ arguments) (constructor : Constructor)
      (type : ValueType) : IsPart part (.construct constructor arguments type)

/-- A part of a part is a part. -/
theorem IsPart.trans {part middle p : Predicate} (h : IsPart part middle) (hmiddle : IsPart middle p) :
    IsPart part p := by
  induction hmiddle with
  | refl => exact h
  | operand _ ih => exact .operand ih
  | left _ op right type ih => exact .left ih op right type
  | right _ op left type ih => exact .right ih op left type
  | argument _ mem function type ih => exact .argument ih mem function type
  | constructorArgument _ mem constructor type ih =>
    exact .constructorArgument ih mem constructor type

/-- The parts of a typed predicate are typed. -/
theorem WellTyped.of_isPart {registry : TypeRegistry} {schema : RecordType} {part p : Predicate}
    (hpart : IsPart part p) (hp : WellTyped registry schema p) : WellTyped registry schema part := by
  induction hpart with
  | refl => exact hp
  | operand _ ih =>
    cases hp with
    | not h _ => exact ih h
  | left _ _ _ _ ih =>
    cases hp with
    | binary hleft _ _ => exact ih hleft
  | right _ _ _ _ ih =>
    cases hp with
    | binary _ hright _ => exact ih hright
  | argument _ mem _ _ ih =>
    cases hp with
    | call h _ => exact ih (h _ mem)
  | constructorArgument _ mem _ _ ih =>
    cases hp with
    | construct h _ _ _ _ => exact ih (h _ mem)

end Predicate

namespace TypeRegistry

/-- A timestamp made of its parts is a timestamp. -/
theorem inhabits_of_timestampOfParts {year month day hour minute second : Nat} {value : Value}
    (h : timestampOfParts year month day hour minute second = .ok value) :
    value.Inhabits .dateTime := by
  unfold timestampOfParts at h
  split at h
  · cases h
  · split at h
    · cases h
    · split at h
      · cases h
        exact .dateTime _
      · cases h

theorem inhabits_of_buildDateTime {arguments : List Value} {value : Value}
    (h : buildDateTime arguments = .ok value) : value.Inhabits .dateTime := by
  unfold buildDateTime at h
  split at h
  · cases h
  · exact inhabits_of_timestampOfParts h
  · exact inhabits_of_timestampOfParts h
  · cases h

theorem inhabits_of_buildGuid {arguments : List Value} {value : Value}
    (h : buildGuid arguments = .ok value) : value.Inhabits .guid := by
  unfold buildGuid at h
  split at h
  · split at h
    · cases h
      exact .guid _
    · cases h
  · cases h

/-- The built-in constructors build timestamps and guids. -/
theorem sound_builtin : Sound builtin := by
  intro entry hentry constructor hconstructor
  have hentries : builtin =
      [⟨"DateTime", .dateTime, [⟨"DateTime", List.replicate 3 .int32, buildDateTime⟩,
        ⟨"DateTime", List.replicate 6 .int32, buildDateTime⟩]⟩,
        ⟨"Guid", .guid, [⟨"Guid", [.string], buildGuid⟩]⟩] := rfl
  rw [hentries] at hentry
  simp only [List.mem_cons, List.not_mem_nil, or_false] at hentry
  rcases hentry with rfl | rfl
  · simp only [List.mem_cons, List.not_mem_nil, or_false] at hconstructor
    rcases hconstructor with rfl | rfl
    · exact fun _ _ => inhabits_of_buildDateTime
    · exact fun _ _ => inhabits_of_buildDateTime
  · simp only [List.mem_cons, List.not_mem_nil, or_false] at hconstructor
    subst hconstructor
    exact fun _ _ => inhabits_of_buildGuid

end TypeRegistry

/-! ## Faults -/

/-- The errors that a static check is there to prevent: operands, arguments or objects of a wrong
type, fields and functions that do not exist, and wrong numbers of arguments. -/
def EvaluationError.isStatic : EvaluationError → Bool
  | missingField _ => true
  | notNavigable _ found => found != "null"
  | value (.type _) => true
  | value (.invalidConversion ..) => true
  | value _ => false
  | function (.incorrectArgumentCount ..) => true
  | function (.incorrectArgumentType _ found _) => found != "null"
  | function (.doesNotExist _) => true
  | function _ => false
  | constructor .. => false

namespace Evaluation

variable {registry : TypeRegistry} {schema : RecordType} {flagsMatch : FlagsMatch}
  {record : FieldReader}

/-- The errors that a node raises by itself on values of the right types. -/
inductive DataFault (flagsMatch : FlagsMatch) (record : FieldReader) :
    Predicate → EvaluationError → Prop
  /-- A leg of the path before its end is null. -/
  | nullLeg {path : PropertyPath} {type : ValueType} {before after : List String} {name : String}
      (segments : path.segments = before ++ name :: after)
      (null : readProperty record ⟨before⟩ = .ok .null) :
      DataFault flagsMatch record (.property path type) (.notNavigable name "null")
  | arithmetic {op : Arithmetic} {left right : Predicate} {type : ValueType} {a b : Value}
      {error : ValueError} (hleft : value flagsMatch record left = .ok a)
      (hright : value flagsMatch record right = .ok b) (fault : Value.ArithmeticFault op a b error) :
      DataFault flagsMatch record (.binary (.arithmetic op) left right type) (.value error)
  | comparison {op : Comparison} {left right : Predicate} {type : ValueType} {a b : Value}
      {error : EvaluationError} (hleft : value flagsMatch record left = .ok a)
      (hright : value flagsMatch record right = .ok b) (fault : ComparisonFault op a b error) :
      DataFault flagsMatch record (.binary (.comparison op) left right type) error
  | function {f : Function} {arguments : List Predicate} {type : ValueType} {found : List Value}
      {error : FunctionError} (harguments : values flagsMatch record arguments = .ok found)
      (fault : FunctionFault f found error) :
      DataFault flagsMatch record (.call f arguments type) (.function error)
  /-- The constructor rejects as many arguments as it takes. -/
  | rejected {constructor : Constructor} {arguments : List Predicate} {type : ValueType}
      {found : List Value} {reason : String}
      (harguments : values flagsMatch record arguments = .ok found)
      (count : found.length = constructor.parameters.length)
      (fault : constructor.build found = .error reason) :
      DataFault flagsMatch record (.construct constructor arguments type)
        (.constructor constructor.typeName reason)

/-- No fault in the data is one that a static check is there to prevent. -/
theorem DataFault.isStatic_eq_false {p : Predicate} {error : EvaluationError}
    (h : DataFault flagsMatch record p error) : error.isStatic = false := by
  cases h with
  | nullLeg => rfl
  | arithmetic _ _ fault => cases fault <;> rfl
  | comparison _ _ fault => cases fault; rfl
  | function _ fault => cases fault <;> rfl
  | rejected => rfl

/-- The value of a predicate is of its type, and an error comes from a part of it. -/
structure Behaves (flagsMatch : FlagsMatch) (record : FieldReader) (p : Predicate) : Prop where
  typed : ∀ found, value flagsMatch record p = .ok found → found.Inhabits p.type
  faults : ∀ error, value flagsMatch record p = .error error →
    ∃ part, Predicate.IsPart part p ∧ DataFault flagsMatch record part error

/-- A predicate with a value of its type behaves. -/
theorem Behaves.of_ok {p : Predicate} (found : Value)
    (h : value flagsMatch record p = .ok found) (hin : found.Inhabits p.type) :
    Behaves flagsMatch record p := by
  refine ⟨fun other hother => ?_, fun error herror => ?_⟩
  · rw [h] at hother
    cases hother
    exact hin
  · rw [h] at herror
    cases herror

/-- A predicate whose fault comes from a part of it behaves. -/
theorem Behaves.of_error {p : Predicate} {error : EvaluationError}
    (h : value flagsMatch record p = .error error)
    (hfault : ∃ part, Predicate.IsPart part p ∧ DataFault flagsMatch record part error) :
    Behaves flagsMatch record p := by
  refine ⟨fun found hfound => ?_, fun other hother => ?_⟩
  · rw [h] at hfound
    cases hfound
  · rw [h] at hother
    cases hother
    exact hfault

/-- A predicate may fail with the error of one of its parts. -/
theorem Behaves.of_part {part p : Predicate} {error : EvaluationError}
    (h : Behaves flagsMatch record part) (hpart : Predicate.IsPart part p)
    (herror : value flagsMatch record part = .error error)
    (hvalue : value flagsMatch record p = .error error) : Behaves flagsMatch record p := by
  obtain ⟨inner, hinner, hfault⟩ := h.faults error herror
  exact .of_error hvalue ⟨inner, hinner.trans hpart, hfault⟩

/-! ## Nodes

Each kind of node behaves if its operands do. -/

/-- A property behaves on every record its schema admits. -/
theorem behaves_property (hrecord : schema.Admits record) {path : PropertyPath} {type : ValueType}
    (hpath : schema.resolveSegments? path.segments = some (path, type)) :
    Behaves flagsMatch record (.property path type) := by
  rcases readProperty_typed hrecord hpath with ⟨found, hfound, hin⟩ | ⟨before, name, after, hlegs⟩
  · exact .of_ok _ (by rw [value_property, hfound]) hin
  · obtain ⟨hsegments, hnull, hfault⟩ := hlegs
    exact .of_error (by rw [value_property, hfault]) ⟨_, .refl _, .nullLeg hsegments hnull⟩

/-- A value of a boolean type has a truth value. -/
theorem truth_typed {found : Value} {type : ValueType} (h : found.Inhabits type)
    (htype : type.isBoolean = true) (operation : String) :
    ∃ known, truth operation found = .ok known := by
  rcases h.boolean_cases htype with rfl | ⟨b, rfl⟩
  · exact ⟨none, rfl⟩
  · exact ⟨some b, rfl⟩

theorem inhabits_ofTruth (known : Option Bool) : (ofTruth known).Inhabits .boolean := by
  cases known with
  | none => exact .null _
  | some b => exact .boolean b

/-- A negation behaves if its operand does. -/
theorem behaves_not {operand : Predicate} (h : Behaves flagsMatch record operand)
    (htype : operand.type.isBoolean = true) : Behaves flagsMatch record (.not operand) := by
  cases hoperand : value flagsMatch record operand with
  | error error =>
    exact h.of_part (.operand (.refl _)) hoperand (by simp only [value, hoperand])
  | ok found =>
    obtain ⟨known, hknown⟩ := truth_typed (h.typed found hoperand) htype "not"
    refine .of_ok (ofTruth (known.map (!·))) ?_ (inhabits_ofTruth _)
    simp only [value, hoperand, hknown, Except.map]

/-- A connective behaves if both of its sides do. -/
theorem behaves_connective {op : Connective} {left right : Predicate} {type : ValueType}
    (hleft : Behaves flagsMatch record left) (hright : Behaves flagsMatch record right)
    (htype : Predicate.operatorType (.connective op) left.type right.type = .ok type) :
    Behaves flagsMatch record (.binary (.connective op) left right type) := by
  simp only [Predicate.operatorType] at htype
  split at htype
  case isFalse => cases htype
  rename_i hbooleans
  cases htype
  simp only [Bool.and_eq_true] at hbooleans
  cases hl : value flagsMatch record left with
  | error error =>
    exact hleft.of_part (.left (.refl _) _ _ _) hl (by simp only [value, hl])
  | ok a =>
    obtain ⟨known, hknown⟩ := truth_typed (hleft.typed a hl) hbooleans.1 op.keyword
    -- a decisive left side makes the right one irrelevant, its faults included
    by_cases hdecisive : known = some op.decisive
    · refine .of_ok (.boolean op.decisive) ?_ (.boolean _)
      simp only [value, hl, hknown, if_pos hdecisive]
    · cases hr : value flagsMatch record right with
      | error error =>
        refine hright.of_part (.right (.refl _) _ _ _) hr ?_
        simp only [value, hl, hknown, if_neg hdecisive, hr]
      | ok b =>
        obtain ⟨other, hother⟩ := truth_typed (hright.typed b hr) hbooleans.2 op.keyword
        refine .of_ok (ofTruth (connect op known other)) ?_ (inhabits_ofTruth _)
        simp only [value, hl, hknown, if_neg hdecisive, hr, hother, Except.map]

/-- An operator that takes the values of both of its sides behaves if it does once they have values. -/
theorem Behaves.of_sides {op : BinaryOperator} {left right : Predicate} {type : ValueType}
    (hop : op.isConnective = false) (hleft : Behaves flagsMatch record left)
    (hright : Behaves flagsMatch record right)
    (h : ∀ a b, value flagsMatch record left = .ok a → value flagsMatch record right = .ok b →
      Behaves flagsMatch record (.binary op left right type)) :
    Behaves flagsMatch record (.binary op left right type) := by
  cases hl : value flagsMatch record left with
  | error error =>
    refine hleft.of_part (.left (.refl _) _ _ _) hl ?_
    cases op with
    | connective => cases hop
    | comparison | arithmetic => simp only [value, hl]
  | ok a =>
    cases hr : value flagsMatch record right with
    | error error =>
      refine hright.of_part (.right (.refl _) _ _ _) hr ?_
      cases op with
      | connective => cases hop
      | comparison | arithmetic => simp only [value, hl, hr]
    | ok b => exact h a b hl hr

/-- A comparison behaves if both of its sides do. -/
theorem behaves_comparison {op : Comparison} {left right : Predicate} {type : ValueType}
    (hleft : Behaves flagsMatch record left) (hright : Behaves flagsMatch record right)
    (htype : Predicate.operatorType (.comparison op) left.type right.type = .ok type) :
    Behaves flagsMatch record (.binary (.comparison op) left right type) := by
  refine hleft.of_sides rfl hright fun a b hl hr => ?_
  obtain ⟨rfl, houtcome⟩ := comparison_typed flagsMatch (hleft.typed a hl) (hright.typed b hr) htype
  rcases houtcome with ⟨result, hresult⟩ | ⟨error, herror, hfault⟩
  · refine .of_ok (.boolean result) ?_ (.boolean _)
    simp only [value, hl, hr, hresult, Except.map]
  · refine .of_error ?_ ⟨_, .refl _, .comparison hl hr hfault⟩
    simp only [value, hl, hr, herror, Except.map]

/-- An arithmetic operator behaves if both of its sides do. -/
theorem behaves_arithmetic {op : Arithmetic} {left right : Predicate} {type : ValueType}
    (hleft : Behaves flagsMatch record left) (hright : Behaves flagsMatch record right)
    (htype : Predicate.operatorType (.arithmetic op) left.type right.type = .ok type) :
    Behaves flagsMatch record (.binary (.arithmetic op) left right type) := by
  refine hleft.of_sides rfl hright fun a b hl hr => ?_
  obtain ⟨htyped, hfaults⟩ := Value.arithmetic_typed (hleft.typed a hl) (hright.typed b hr) htype
  cases hresult : Value.arithmetic op a b with
  | ok result =>
    refine .of_ok result ?_ (htyped result hresult)
    simp only [value, hl, hr, hresult, Except.mapError_ok]
  | error error =>
    refine .of_error ?_ ⟨_, .refl _, .arithmetic hl hr (hfaults error hresult)⟩
    simp only [value, hl, hr, hresult, Except.mapError_error]

/-- By induction on the predicates: either all of them have values of their types, or one of them has
the error of all. -/
theorem values_typed {predicates : List Predicate}
    (h : ∀ p ∈ predicates, Behaves flagsMatch record p) :
    (∃ found, values flagsMatch record predicates = .ok found ∧
        List.Forall₂ Value.Inhabits found (predicates.map Predicate.type)) ∨
      ∃ error, values flagsMatch record predicates = .error error ∧
        ∃ p ∈ predicates, value flagsMatch record p = .error error := by
  induction predicates with
  | nil => exact .inl ⟨[], by rw [values], .nil⟩
  | cons p rest ih =>
    have hp := h p List.mem_cons_self
    cases hfirst : value flagsMatch record p with
    | error error =>
      exact .inr ⟨error, by simp only [values, hfirst], p, List.mem_cons_self, hfirst⟩
    | ok first =>
      rcases ih fun other hother => h other (List.mem_cons_of_mem p hother) with
        ⟨found, hfound, htyped⟩ | ⟨error, herror, other, hother, hvalue⟩
      · refine .inl ⟨first :: found, ?_, .cons (hp.typed first hfirst) htyped⟩
        simp only [values, hfirst, hfound, Except.map]
      · refine .inr ⟨error, ?_, other, List.mem_cons_of_mem p hother, hvalue⟩
        simp only [values, hfirst, herror, Except.map]

/-- A call behaves if all of its arguments do. -/
theorem behaves_call {function : Function} {arguments : List Predicate} {type : ValueType}
    (h : ∀ argument ∈ arguments, Behaves flagsMatch record argument)
    (htype : function.resultType (arguments.map Predicate.type) = .ok type) :
    Behaves flagsMatch record (.call function arguments type) := by
  rcases values_typed h with ⟨found, hfound, htyped⟩ | ⟨error, herror, p, hp, hvalue⟩
  · obtain ⟨hresults, hfaults⟩ := applyFunction_typed htyped htype
    cases hresult : applyFunction function found with
    | ok result =>
      refine .of_ok result ?_ (hresults result hresult)
      simp only [value, hfound, call_builtin, hresult, Except.mapError_ok]
    | error error =>
      refine .of_error ?_ ⟨_, .refl _, .function hfound (hfaults error hresult)⟩
      simp only [value, hfound, call_builtin, hresult, Except.mapError_error]
  · exact (h p hp).of_part (.argument (.refl _) hp _ _) hvalue (by simp only [value, herror])

/-- A construction behaves if all of its arguments do and its registry is sound. -/
theorem behaves_construct {entry : RegisteredType} {constructor : Constructor}
    {arguments : List Predicate} {type : ValueType} (hregistry : registry.Sound)
    (h : ∀ argument ∈ arguments, Behaves flagsMatch record argument)
    (registered : entry ∈ registry) (known : constructor ∈ entry.constructors)
    (count : arguments.length = constructor.parameters.length)
    (same : entry.type.underlying = type.underlying) :
    Behaves flagsMatch record (.construct constructor arguments type) := by
  rcases values_typed h with ⟨found, hfound, htyped⟩ | ⟨error, herror, p, hp, hvalue⟩
  · -- the number of arguments has been checked, so only the constructor itself can reject them
    have hcount : found.length = constructor.parameters.length := by
      rw [← count, htyped.length_eq, List.length_map]
    have hconstruct : constructor.construct found = constructor.build found := by
      simp only [Constructor.construct, ne_eq, hcount, not_true_eq_false, if_false]
    cases hresult : constructor.build found with
    | ok result =>
      refine .of_ok result ?_ ?_
      · simp only [value, hfound, hconstruct, hresult, Except.mapError_ok]
      · have hin := hregistry entry registered constructor known found result hresult
        rw [← Value.inhabits_underlying] at hin ⊢
        rwa [same] at hin
    | error reason =>
      refine .of_error ?_ ⟨_, .refl _, .rejected hfound hcount hresult⟩
      simp only [value, hfound, hconstruct, hresult, Except.mapError_error]
  · refine (h p hp).of_part (.constructorArgument (.refl _) hp _ _) hvalue ?_
    simp only [value, herror]

/-! ## Predicates -/

/-- A typed predicate behaves on every admitted record, by induction on its typing. -/
theorem behaves_of_wellTyped (flagsMatch : FlagsMatch) (hregistry : registry.Sound)
    (hrecord : schema.Admits record) {p : Predicate} (hp : Predicate.WellTyped registry schema p) :
    Behaves flagsMatch record p := by
  induction hp with
  | property resolved => exact behaves_property hrecord resolved
  | constant h => exact .of_ok _ (value_constant _ _ _ _) h
  | not _ boolean ih => exact behaves_not ih boolean
  | @binary op _ _ _ _ _ fits ihleft ihright =>
    cases op with
    | connective => exact behaves_connective ihleft ihright fits
    | comparison => exact behaves_comparison ihleft ihright fits
    | arithmetic => exact behaves_arithmetic ihleft ihright fits
  | call _ fits ih => exact behaves_call ih fits
  | construct _ registered known count same ih =>
    exact behaves_construct hregistry ih registered known count same

end Evaluation

namespace FilterParser

/-- A filter that the parser accepts against a record type accepts or rejects every record of that
type, or it fails by a fault in the data of one of its parts; and every part that has a value has one
of its type. -/
theorem tryMatches_parsed (p : FilterParser) (newGuid : Guid) (hregistry : p.registry = .builtin)
    {filter : Text}
    {q : Predicate} (hparse : p.parse newGuid filter = .ok (some q)) {json : Json} {record : Record}
    (hrecord : Record.fromJson p.schema json = .ok record) (flagsMatch : FlagsMatch) :
    ((∃ accepted, CompiledFilter.tryMatches ⟨some q, flagsMatch⟩ record.reader = .ok accepted) ∨
      ∃ error part,
        CompiledFilter.tryMatches ⟨some q, flagsMatch⟩ record.reader = .error error ∧
        error.isStatic = false ∧ Predicate.IsPart part q ∧
        Evaluation.DataFault flagsMatch record.reader part error) ∧
    ∀ part found, Predicate.IsPart part q →
      Evaluation.value flagsMatch record.reader part = .ok found → found.Inhabits part.type := by
  have htyped : Predicate.WellTyped p.registry p.schema q :=
    wellTyped_of_parseExpression p newGuid _ _ _ (parse_eq_ok_some_iff.1 hparse).1
  have hsound : p.registry.Sound := hregistry ▸ TypeRegistry.sound_builtin
  have hadmits : p.schema.Admits record.reader := RecordType.admits_of_fromJson hrecord
  refine ⟨?_, fun part found hpart hfound => ?_⟩
  · cases hvalue : Evaluation.value flagsMatch record.reader q with
    | ok found =>
      refine .inl ⟨found.boolean? = some true, ?_⟩
      simp only [CompiledFilter.tryMatches, hvalue, Except.map]
    | error error =>
      have hq := Evaluation.behaves_of_wellTyped flagsMatch hsound hadmits htyped
      obtain ⟨part, hpart, hfault⟩ := hq.faults error hvalue
      refine .inr ⟨error, part, ?_, hfault.isStatic_eq_false, hpart, hfault⟩
      simp only [CompiledFilter.tryMatches, hvalue, Except.map]
  · have hpart' := Evaluation.behaves_of_wellTyped flagsMatch hsound hadmits
      (htyped.of_isPart hpart)
    exact hpart'.typed found hfound

/-- A name that is missing in a record makes its length a fault of the data, and a division by a field
that is zero is one too. -/
theorem tryMatches_parsed_quotient :
    ∃ q, items.parse .nil "(length(Name) div Id) gt 1".toList = .ok (some q) ∧
      ((∃ accepted, CompiledFilter.tryMatches ⟨some q, .contains⟩
          (Record.reader [("Flag", .null), ("Id", .int32 0), ("Name", .null)]) = .ok accepted) ∨
        ∃ error part, CompiledFilter.tryMatches ⟨some q, .contains⟩
            (Record.reader [("Flag", .null), ("Id", .int32 0), ("Name", .null)]) = .error error ∧
          error.isStatic = false ∧ Predicate.IsPart part q ∧ Evaluation.DataFault .contains
            (Record.reader [("Flag", .null), ("Id", .int32 0), ("Name", .null)]) part error) := by
  obtain ⟨q, hq⟩ : ∃ q, items.parse .nil "(length(Name) div Id) gt 1".toList = .ok (some q) :=
    Except.exists_of_isSome_join (by decide +kernel)
  have hrecord : Record.fromJson items.schema (.object [("Id", .int 0)])
      = .ok [("Flag", .null), ("Id", .int32 0), ("Name", .null)] := by
    rfl
  exact ⟨q, hq, (tryMatches_parsed items .nil rfl hq hrecord .contains).1⟩

end FilterParser
end RecordFilter
