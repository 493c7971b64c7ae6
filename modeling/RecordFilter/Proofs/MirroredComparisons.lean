import Mathlib.Data.List.Perm.Subperm
import RecordFilter.Proofs.ChainedFilters
import RecordFilter.Proofs.JoinedOperands
import RecordFilter.Proofs.OperatorTyping
import RecordFilter.Proofs.RecordOrder

/-!
# Mirrored comparisons

A comparison can be read from the right: `l lt r` asks for what `r gt l` asks for. Order and equality
of values are symmetric in that way for all pairs of kinds, also where two values have no order, and
for objects field by field. The one comparison that is not is `eq` on a flags enumeration where values
match by their flags, since it asks the left side for the flags of the right one.

Main statement: `CompiledFilter.accepts_mirror`.
-/

namespace RecordFilter

namespace Comparison

/-- The comparison that holds with the sides exchanged. -/
def mirror : Comparison → Comparison
  | eq => eq
  | ne => ne
  | gt => lt
  | ge => le
  | lt => gt
  | le => ge

theorem isOrdered_mirror (op : Comparison) : op.mirror.isOrdered = op.isOrdered := by
  cases op <;> rfl

/-- The mirrored comparison holds of the swapped order. -/
theorem holds_mirror (op : Comparison) (order : Ordering) :
    op.mirror.holds order.swap = op.holds order := by
  cases op <;> cases order <;> rfl

end Comparison

namespace Double

theorem compare?_swap (x y : Float) : compare? y x = (compare? x y).map Ordering.swap := by
  rw [compare?, compare?, Bool.or_comm]
  split
  · rfl
  · exact congrArg some Std.OrientedOrd.eq_swap

end Double

namespace Value

/-! ## Numbers -/

/-- The pair with its numbers exchanged. -/
def NumericPair.swap : NumericPair → NumericPair
  | integral x y => integral y x
  | decimal x y => decimal y x
  | double x y => double y x

/-- Which kind two numbers are brought to does not depend on their order. -/
theorem numericPair?_swap (a b : Value) : numericPair? b a = (numericPair? a b).map NumericPair.swap := by
  cases a <;> cases b <;> rfl

theorem NumericPair.order?_swap (pair : NumericPair) :
    pair.swap.order? = pair.order?.map Ordering.swap := by
  cases pair with
  | integral x y => exact congrArg some Std.OrientedOrd.eq_swap
  | decimal x y => exact congrArg some Std.OrientedCmp.eq_swap
  | double x y => exact Double.compare?_swap x y

/-- Whether the numbers of a pair are equal. -/
def NumericPair.areEqual : NumericPair → Bool
  | integral x y => x == y
  | decimal x y => x.compare y == .eq
  | double x y => Double.compare? x y == some .eq

/-- Equality of numbers does not depend on the sides. -/
theorem NumericPair.areEqual_swap (pair : NumericPair) : pair.swap.areEqual = pair.areEqual := by
  cases pair with
  | integral x y => exact BEq.comm
  | decimal x y =>
    have hswap : y.compare x = (x.compare y).swap := Std.OrientedCmp.eq_swap
    show (y.compare x == .eq) = (x.compare y == .eq)
    rw [hswap]
    cases x.compare y <;> rfl
  | double x y =>
    show (Double.compare? y x == some .eq) = (Double.compare? x y == some .eq)
    rw [Double.compare?_swap x y]
    rcases Double.compare? x y with _ | order
    · rfl
    · cases order <;> rfl

/-! ## Order -/

/-- Two values that have an order have the reverse one the other way round, and two values without an
order have none that way either. -/
theorem compare_swap (a b : Value) :
    (compare b a).toOption = (compare a b).toOption.map Ordering.swap := by
  cases hpair : numericPair? a b with
  | some pair =>
    have hswap : numericPair? b a = some pair.swap := by rw [numericPair?_swap, hpair, Option.map_some]
    rw [compare_pair hpair, compare_pair hswap, NumericPair.order?_swap]
    cases pair.order? <;> rfl
  | none =>
    -- values of one kind without numbers have an order, and all others have none
    cases a <;> cases b
    case string.string => exact congrArg some Std.OrientedOrd.eq_swap
    case boolean.boolean => exact congrArg some Std.OrientedOrd.eq_swap
    case dateTime.dateTime => exact congrArg some Std.OrientedCmp.eq_swap
    case guid.guid => exact congrArg some Std.OrientedOrd.eq_swap
    case enumeration.enumeration => exact congrArg some Std.OrientedOrd.eq_swap
    all_goals first | rfl | cases hpair

/-! ## Equality -/

theorem equalsFlat_pair {a b : Value} {pair : NumericPair} (h : numericPair? a b = some pair) :
    equalsFlat a b = pair.areEqual := by
  cases a <;> first | (simp [numericPair?, decimal?, double?] at h; done) | skip
  all_goals
    cases b <;> first | (simp [numericPair?, decimal?, double?] at h; done) | skip
  all_goals
    simp only [equalsFlat, h]
    cases pair <;> rfl

/-- `equalsFlat` is symmetric. -/
theorem equalsFlat_comm (a b : Value) : equalsFlat a b = equalsFlat b a := by
  cases hpair : numericPair? a b with
  | some pair =>
    have hswap : numericPair? b a = some pair.swap := by rw [numericPair?_swap, hpair, Option.map_some]
    rw [equalsFlat_pair hpair, equalsFlat_pair hswap, NumericPair.areEqual_swap]
  | none =>
    cases a <;> cases b
    case string.string => exact BEq.comm
    case boolean.boolean => exact BEq.comm
    case dateTime.dateTime => exact BEq.comm
    case guid.guid => exact BEq.comm
    case enumeration.enumeration => exact BEq.comm
    all_goals first | rfl | cases hpair

/-- Each object in the value has each of its names once. -/
inductive HasUniqueNames : Value → Prop
  | flat {value : Value} (h : ∀ fields, value ≠ .object fields) : HasUniqueNames value
  | object {fields : FieldMap Value} (names : fields.names.Nodup)
      (values : ∀ name value, fields.get? name = some value → HasUniqueNames value) :
      HasUniqueNames (.object fields)

end Value

namespace FieldMap

variable {α : Type}

/-- Where the names are unique, a field is found if and only if it is there. -/
theorem get?_eq_some_iff {fields : FieldMap α} (h : fields.names.Nodup) {name : String} {value : α} :
    fields.get? name = some value ↔ (name, value) ∈ fields := by
  induction fields with
  | nil => simp [get?]
  | cons pair rest ih =>
    obtain ⟨other, present⟩ := pair
    obtain ⟨hname, hrest⟩ := List.nodup_cons.1 h
    rw [get?_cons, List.mem_cons]
    split
    · rename_i hsame
      subst hsame
      have hmem : (name, value) ∉ rest := fun hmem => hname (List.mem_map.2 ⟨_, hmem, rfl⟩)
      simp [hmem, eq_comm]
    · rename_i hdiffers
      rw [ih hrest]
      simp [hdiffers]

/-- Of two maps of one size, the one has all names of the other if that has all of its names. -/
theorem names_subset_symm {fields others : FieldMap α} (h : fields.names.Nodup)
    (hlength : fields.length = others.length) (hsubset : fields.names ⊆ others.names) :
    others.names ⊆ fields.names := by
  have hperm : fields.names.Perm others.names := by
    refine (List.subperm_of_subset h hsubset).perm_of_length_le (Nat.le_of_eq ?_)
    rw [names, names, List.length_map, List.length_map, hlength]
  exact hperm.symm.subset

end FieldMap

namespace Value

/-- `equalsFields` looks for every field of the one object in the other. -/
theorem equalsFields_iff {fields others : FieldMap Value} :
    equalsFields fields others = true ↔ ∀ field ∈ fields,
      ∃ other, others.get? field.1 = some other ∧ equals field.2 other = true := by
  induction fields with
  | nil => simp [equalsFields]
  | cons field rest ih =>
    rw [equalsFields, Bool.and_eq_true, ih, List.forall_mem_cons]
    cases FieldMap.get? others field.1 <;> simp

/-- Objects are equal the other way round if their fields of one name are. -/
theorem equals_object_symm {fields others : FieldMap Value} (hfields : fields.names.Nodup)
    (hothers : others.names.Nodup)
    (hcomm : ∀ name value other, fields.get? name = some value → others.get? name = some other →
      equals value other = equals other value)
    (h : equals (.object fields) (.object others) = true) :
    equals (.object others) (.object fields) = true := by
  rw [equals, Bool.and_eq_true, beq_iff_eq, equalsFields_iff] at h ⊢
  obtain ⟨hlength, hequal⟩ := h
  have hsubset : fields.names ⊆ others.names := by
    intro name hname
    obtain ⟨field, hfield, rfl⟩ := List.mem_map.1 hname
    obtain ⟨other, hother, -⟩ := hequal field hfield
    exact List.mem_map.2 ⟨_, (FieldMap.get?_eq_some_iff hothers).1 hother, rfl⟩
  refine ⟨hlength.symm, fun other hother => ?_⟩
  have hname := FieldMap.names_subset_symm hfields hlength hsubset (List.mem_map_of_mem hother)
  obtain ⟨field, hfield, hsame⟩ := List.mem_map.1 hname
  have hvalue : fields.get? other.1 = some field.2 := by
    rw [← hsame]
    exact (FieldMap.get?_eq_some_iff hfields).2 hfield
  refine ⟨field.2, hvalue, ?_⟩
  obtain ⟨found, hfound, heq⟩ := hequal field hfield
  rw [hsame, (FieldMap.get?_eq_some_iff hothers).2 hother, Option.some.injEq] at hfound
  subst hfound
  rwa [← hcomm other.1 field.2 other.2 hvalue ((FieldMap.get?_eq_some_iff hothers).2 hother)]

/-- Only two objects are compared by their fields. -/
theorem equals_eq_equalsFlat {a b : Value} (h : (∀ fields, a ≠ .object fields) ∨ ∀ fields, b ≠ .object fields) :
    equals a b = equalsFlat a b := by
  cases a <;> cases b <;> rw [equals]
  all_goals simp_all

/-- Equality of values is symmetric, by induction on the value on the left. -/
theorem equals_comm {a b : Value} (ha : a.HasUniqueNames) (hb : b.HasUniqueNames) :
    equals a b = equals b a := by
  induction ha generalizing b with
  | flat h => rw [equals_eq_equalsFlat (.inl h), equals_eq_equalsFlat (.inr h), equalsFlat_comm]
  | object hfields hvalues ih =>
    cases hb with
    | flat h => rw [equals_eq_equalsFlat (.inr h), equals_eq_equalsFlat (.inl h), equalsFlat_comm]
    | object hothers hvalues' =>
      rw [Bool.eq_iff_iff]
      constructor
      · refine equals_object_symm hfields hothers fun name value other hvalue hother => ?_
        exact ih name value hvalue (hvalues' name other hother)
      · refine equals_object_symm hothers hfields fun name value other hvalue hother => ?_
        exact (ih name other hother (hvalues' name value hvalue)).symm

end Value

/-! ## What a predicate yields -/

namespace Value

/-- What arithmetic gives is no object. -/
theorem hasUniqueNames_of_arithmetic {op : Arithmetic} {a b value : Value}
    (h : arithmetic op a b = .ok value) : value.HasUniqueNames := by
  refine .flat fun fields => ?_
  rintro rfl
  unfold arithmetic at h
  split at h
  · cases h
  · split at h
    · cases h
    · split at h
      · cases h
      · split at h
        · simp only [Except.ok.injEq] at h
          split at h <;> cases h
        · split at h <;> cases h
        · cases h

end Value

namespace Evaluation

/-- A function result other than an object. -/
def FlatResult (result : FunctionResult) : Prop :=
  ∀ fields, result ≠ .ok (.object fields)

/-- A function of one argument gives flat values, if its body does. -/
theorem flatResult_unary {f : Value → FunctionResult} (h : ∀ a, FlatResult (f a))
    (arguments : List Value) : FlatResult (unary f arguments) := by
  intro fields
  unfold unary
  split
  · exact h _ fields
  · simp

theorem flatResult_binary {f : Value → Value → FunctionResult} (h : ∀ a b, FlatResult (f a b))
    (arguments : List Value) : FlatResult (binary f arguments) := by
  intro fields
  unfold binary
  split
  · exact h _ _ fields
  · simp

theorem flatResult_stringArgument {index : Nat} {a : Value} {f : Text → FunctionResult}
    (h : ∀ text, FlatResult (f text)) : FlatResult (stringArgument index a >>= f) := by
  intro fields hresult
  obtain ⟨text, -, hf⟩ := Except.bind_eq_ok_iff.1 hresult
  exact h text fields hf

theorem flatResult_count (n : Nat) : FlatResult (count n) := by
  intro fields
  unfold count
  split <;> simp

theorem flatResult_onStrings {f : Text → Text → FunctionResult} (h : ∀ x y, FlatResult (f x y))
    (arguments : List Value) : FlatResult (onStrings f arguments) :=
  flatResult_binary (fun _ _ => flatResult_stringArgument fun x =>
    flatResult_stringArgument fun y => h x y) arguments

theorem flatResult_onText (f : Text → Text) (arguments : List Value) :
    FlatResult (onText f arguments) :=
  flatResult_unary (fun _ => flatResult_stringArgument fun _ fields => by simp [pure, Except.pure])
    arguments

theorem flatResult_datePart (part : Timestamp → Int) (arguments : List Value) :
    FlatResult (datePart part arguments) := by
  refine flatResult_unary (fun a fields => ?_) arguments
  split <;> simp

theorem flatResult_rounding (onDecimal : Decimal → Decimal) (onDouble : Float → Float)
    (arguments : List Value) : FlatResult (rounding onDecimal onDouble arguments) := by
  refine flatResult_unary (fun a fields => ?_) arguments
  split
  · simp
  · split <;> simp

/-- `indexOf` gives a number or an error. -/
theorem flatResult_indexOf (text needle : Text) : FlatResult (indexOf text needle) := by
  intro fields
  unfold indexOf
  split
  · exact flatResult_count _ fields
  · simp

theorem flatResult_substring (text start : Value) : FlatResult (substring text start) := by
  refine flatResult_stringArgument fun x fields => ?_
  split
  · simp [throw, throwThe, MonadExceptOf.throw]
  · split <;> simp [throw, throwThe, MonadExceptOf.throw, pure, Except.pure]

/-- No function gives an object. -/
theorem flatResult_applyFunction (function : Function) (arguments : List Value) :
    FlatResult (applyFunction function arguments) := by
  cases function
  case substringOf | endsWith | startsWith =>
    exact flatResult_onStrings (fun _ _ _ => by simp) arguments
  case length =>
    exact flatResult_unary (fun _ => flatResult_stringArgument fun _ => flatResult_count _) arguments
  case indexOf => exact flatResult_onStrings flatResult_indexOf arguments
  case substring => exact flatResult_binary flatResult_substring arguments
  case toLower | toUpper | trim => exact flatResult_onText _ arguments
  case hour | minute | second | day | month | year => exact flatResult_datePart _ arguments
  case round | floor | ceiling => exact flatResult_rounding _ _ arguments

end Evaluation

/-- Each object in the fields of a record has each of its names once. -/
def FieldReader.HasUniqueNames (record : FieldReader) : Prop :=
  ∀ name value, record name = some value → value.HasUniqueNames

/-- Each object that the predicate holds or constructs has each of its names once. Properties read
their objects from the record, and operators and functions give none. -/
def Predicate.HasUniqueNames : Predicate → Prop
  | .constant value _ => value.HasUniqueNames
  | .construct constructor _ _ =>
    ∀ arguments value, constructor.build arguments = .ok value → value.HasUniqueNames
  | _ => True

namespace Evaluation

variable {flagsMatch : FlagsMatch} {record : FieldReader}

/-- What is found along a path is part of the value it starts from, by induction on the path. -/
theorem hasUniqueNames_of_navigate {path : PropertyPath} {start found : Value} {rest : List String}
    (hstart : start.HasUniqueNames) (h : navigate path start rest = .ok found) :
    found.HasUniqueNames := by
  induction rest generalizing start with
  | nil =>
    cases h
    exact hstart
  | cons name rest ih =>
    cases hstart with
    | @flat start hflat => cases start <;> first | cases h | exact absurd rfl (hflat _)
    | object _ hvalues =>
      rw [navigate] at h
      split at h
      · exact ih (hvalues name _ ‹_›) h
      · cases h

theorem hasUniqueNames_boolean (b : Bool) : (Value.boolean b).HasUniqueNames :=
  .flat fun fields => by simp

theorem hasUniqueNames_ofTruth (known : Option Bool) : (ofTruth known).HasUniqueNames := by
  cases known with
  | none => exact .flat fun fields => by simp [ofTruth]
  | some b => exact hasUniqueNames_boolean b

section Nodes

variable {left right : Predicate} {type : ValueType} {found : Value}

theorem hasUniqueNames_of_connective {op : Connective}
    (h : value flagsMatch record (.binary (.connective op) left right type) = .ok found) :
    found.HasUniqueNames := by
  obtain ⟨known, rfl⟩ := exists_ofTruth_of_connective h
  exact hasUniqueNames_ofTruth known

theorem hasUniqueNames_of_comparison {op : Comparison}
    (h : value flagsMatch record (.binary (.comparison op) left right type) = .ok found) :
    found.HasUniqueNames := by
  rw [value] at h
  split at h
  · cases h
  · cases h
  · obtain ⟨result, -, rfl⟩ := Except.map_eq_ok_iff.1 h
    exact hasUniqueNames_boolean _

/-- The value of an operator has no fields. -/
theorem hasUniqueNames_of_operator {op : BinaryOperator}
    (h : value flagsMatch record (.binary op left right type) = .ok found) : found.HasUniqueNames := by
  cases op with
  | comparison op => exact hasUniqueNames_of_comparison h
  | connective op => exact hasUniqueNames_of_connective h
  | arithmetic op =>
    rw [value] at h
    split at h
    · cases h
    · cases h
    · exact Value.hasUniqueNames_of_arithmetic (Except.mapError_eq_ok_iff.1 h)

end Nodes

/-- The value of a predicate has unique names if the record and the predicate have. -/
theorem hasUniqueNames_of_value {p : Predicate} {found : Value} (hp : p.HasUniqueNames)
    (hrecord : record.HasUniqueNames) (h : value flagsMatch record p = .ok found) :
    found.HasUniqueNames := by
  cases p with
  | property path type =>
    rw [value_property, readProperty] at h
    split at h
    · cases h
    · split at h
      · exact hasUniqueNames_of_navigate (hrecord _ _ ‹_›) h
      · cases h
  | constant constant type =>
    rw [value_constant] at h
    cases h
    exact hp
  | not operand =>
    rw [value] at h
    split at h
    · cases h
    · obtain ⟨known, -, rfl⟩ := Except.map_eq_ok_iff.1 h
      exact hasUniqueNames_ofTruth _
  | binary op left right type => exact hasUniqueNames_of_operator h
  | call function arguments type =>
    rw [value] at h
    split at h
    · cases h
    · rw [Except.mapError_eq_ok_iff, call_builtin] at h
      exact .flat fun fields hfound => flatResult_applyFunction function _ fields (hfound ▸ h)
  | construct constructor arguments type =>
    rw [value] at h
    split at h
    · cases h
    · rw [Except.mapError_eq_ok_iff, Constructor.construct] at h
      split at h
      · cases h
      · exact hp _ found h

/-! ## Comparisons of predicates -/

/-- A comparison asks for flags if it is an `eq` in the mode for flags with a flags enumeration on either
side, and no side is null or without a value. -/
def AsksForFlags (flagsMatch : FlagsMatch) (record : FieldReader) (op : Comparison) (l r : Predicate) :
    Prop :=
  flagsMatch = .contains ∧ op = .eq ∧ (hasFlagsType l = true ∨ hasFlagsType r = true) ∧
    ∃ a b, value flagsMatch record l = .ok a ∧ value flagsMatch record r = .ok b ∧
      a.isNull = false ∧ b.isNull = false

/-- `areEqual` is symmetric on values with unique field names, where flags are compared exactly. -/
theorem areEqual_comm {a b : Value} (ha : a.HasUniqueNames) (hb : b.HasUniqueNames) :
    areEqual false a b = areEqual false b a := by
  unfold areEqual
  rw [Bool.or_comm, Bool.and_comm, Value.equals_comm ha hb]
  simp

/-- Null has no flags to ask for. -/
theorem areEqual_of_isNull {a b : Value} (h : (a.isNull || b.isNull) = true) (byFlags : Bool) :
    areEqual byFlags a b = areEqual false a b := by
  unfold areEqual
  rw [if_pos h, if_pos h]

/-- The outcome of a comparison of two values, up to its error, is the one of the mirrored comparison,
unless a side is asked for the flags of the other one. -/
theorem comparison_mirror {flags flags' : Bool} {op : Comparison} {a b : Value}
    (hflags : flagsMatch = .contains → op = .eq → a.isNull = false → b.isNull = false →
      flags = false ∧ flags' = false)
    (ha : a.HasUniqueNames) (hb : b.HasUniqueNames) :
    (comparison flagsMatch flags' op.mirror b a).toOption
      = (comparison flagsMatch flags op a b).toOption := by
  cases hop : op.isOrdered with
  | false =>
    cases op <;> simp only [Comparison.isOrdered, Bool.true_eq_false] at hop
    case eq =>
      rw [Comparison.mirror, comparison, comparison]
      cases hnull : a.isNull || b.isNull with
      | true =>
        rw [areEqual_of_isNull hnull, areEqual_of_isNull ((Bool.or_comm ..).trans hnull),
          areEqual_comm ha hb]
      | false =>
        obtain ⟨hpresent, hpresent'⟩ := Bool.or_eq_false_iff.1 hnull
        have hplain : ∀ flags, (flagsMatch = .contains → flags = false) →
            (flags && flagsMatch = .contains) = false := by
          intro flags h
          by_cases hmode : flagsMatch = .contains <;> simp [hmode, h]
        rw [hplain _ fun hmode => (hflags hmode rfl hpresent hpresent').1,
          hplain _ fun hmode => (hflags hmode rfl hpresent hpresent').2, areEqual_comm ha hb]
    case ne => rw [Comparison.mirror, comparison, comparison, areEqual_comm ha hb]
  | true =>
    have hcomparison : ∀ {op : Comparison} {flags : Bool} {a b : Value}, op.isOrdered = true →
        (comparison flagsMatch flags op a b).toOption =
          if a.isNull || b.isNull then some false else (a.compare b).toOption.map op.holds := by
      intro op flags a b hop
      cases op <;> simp only [Comparison.isOrdered, Bool.false_eq_true] at hop
      all_goals
        simp only [comparison]
        split
        · rfl
        · cases a.compare b <;> rfl
    rw [hcomparison hop, hcomparison (op.isOrdered_mirror.trans hop), Bool.or_comm,
      Value.compare_swap, Option.map_map]
    simp only [Function.comp_def, Comparison.holds_mirror]

/-- By flags, null equals null, and of two numbers the left one must have all bits of the right one. -/
theorem comparison_flags_iff {a b : Value} :
    comparison .contains true .eq a b = .ok true ↔ (a.isNull = true ∧ b.isNull = true) ∨
      ∃ x y, a.int64? = some x ∧ b.int64? = some y ∧ x &&& y = y := by
  have hbits : ∀ {v : Value} {x}, v.int64? = some x → v.isNull = false := by
    intro v x h
    cases v <;> first | rfl | cases h
  rw [comparison, areEqual]
  split
  · rename_i hnull
    rw [Except.ok.injEq, Bool.and_eq_true]
    refine ⟨.inl, ?_⟩
    rintro (h | ⟨x, y, hx, hy, -⟩)
    · exact h
    · rw [hbits hx, hbits hy] at hnull
      cases hnull
  · rename_i hnull
    rw [Bool.or_eq_true, not_or] at hnull
    simp only [decide_true, Bool.and_self, if_true, Except.mapError_eq_ok_iff, Value.hasFlags]
    cases a.int64? <;> cases b.int64? <;> simp [hnull.1]

end Evaluation

namespace CompiledFilter

open Evaluation

variable {flagsMatch : FlagsMatch} {record : FieldReader}

/-- A comparison accepts a record if both sides have values there of which it holds. -/
theorem accepts_comparison_iff {op : Comparison} {l r : Predicate} {type : ValueType} :
    (CompiledFilter.mk (some (.binary (.comparison op) l r type)) flagsMatch).accepts record = true ↔
      ∃ a b, value flagsMatch record l = .ok a ∧ value flagsMatch record r = .ok b ∧
        comparison flagsMatch (hasFlagsType l) op a b = .ok true := by
  rw [accepts_some_iff, value]
  cases value flagsMatch record l with
  | error error => simp
  | ok a =>
    cases value flagsMatch record r with
    | error error => simp
    | ok b => simp [Except.map_eq_ok_iff]

/-- Two comparisons with their sides exchanged accept the same record if they have the same outcome for
the values of the sides there. -/
theorem accepts_comparison_congr {op op' : Comparison} {l r : Predicate} {type type' : ValueType}
    (h : ∀ {a b}, value flagsMatch record l = .ok a → value flagsMatch record r = .ok b →
      (comparison flagsMatch (hasFlagsType r) op' b a).toOption
        = (comparison flagsMatch (hasFlagsType l) op a b).toOption) :
    (CompiledFilter.mk (some (.binary (.comparison op) l r type)) flagsMatch).accepts record
      = (CompiledFilter.mk (some (.binary (.comparison op') r l type')) flagsMatch).accepts record := by
  rw [Bool.eq_iff_iff, accepts_comparison_iff, accepts_comparison_iff]
  constructor
  · rintro ⟨a, b, ha, hb, hholds⟩
    exact ⟨b, a, hb, ha, Except.eq_ok_of_toOption ((h ha hb).trans (congrArg Except.toOption hholds))⟩
  · rintro ⟨b, a, hb, ha, hholds⟩
    exact ⟨a, b, ha, hb,
      Except.eq_ok_of_toOption ((h ha hb).symm.trans (congrArg Except.toOption hholds))⟩

/-- A comparison accepts what the mirrored one accepts, whatever its sides are: where one of them has
no value, or the values have no order, neither of the two accepts the record. The exception is an `eq`
that asks one value for the flags of another. -/
theorem accepts_mirror {op : Comparison} {l r p q : Predicate}
    (hp : Predicate.combine (.comparison op) l r = .ok p)
    (hq : Predicate.combine (.comparison op.mirror) r l = .ok q)
    (hl : l.HasUniqueNames) (hr : r.HasUniqueNames) (hrecord : record.HasUniqueNames) :
    (¬AsksForFlags flagsMatch record op l r →
      (CompiledFilter.mk (some p) flagsMatch).accepts record
        = (CompiledFilter.mk (some q) flagsMatch).accepts record) ∧
    (flagsMatch = .contains → op = .eq → hasFlagsType l = true →
      ((CompiledFilter.mk (some p) flagsMatch).accepts record = true ↔
        ∃ a b, value flagsMatch record l = .ok a ∧ value flagsMatch record r = .ok b ∧
          ((a.isNull = true ∧ b.isNull = true) ∨
            ∃ x y, a.int64? = some x ∧ b.int64? = some y ∧ x &&& y = y))) := by
  obtain ⟨type, -, rfl⟩ := Except.map_eq_ok_iff.1 hp
  obtain ⟨type', -, rfl⟩ := Except.map_eq_ok_iff.1 hq
  refine ⟨fun hplain => accepts_comparison_congr fun {a b} ha hb => ?_, fun hmode hop hflags => ?_⟩
  · have hsides : flagsMatch = .contains → op = .eq → a.isNull = false → b.isNull = false →
        hasFlagsType l = false ∧ hasFlagsType r = false := by
      intro hmode hop hpresent hpresent'
      have hnone : ¬(hasFlagsType l = true ∨ hasFlagsType r = true) :=
        fun hflags => hplain ⟨hmode, hop, hflags, a, b, ha, hb, hpresent, hpresent'⟩
      simpa using hnone
    exact comparison_mirror hsides (hasUniqueNames_of_value hl hrecord ha)
      (hasUniqueNames_of_value hr hrecord hb)
  · subst hmode hop
    rw [accepts_comparison_iff, hflags]
    simp only [comparison_flags_iff]

/-- An enumeration of flags, for examples. -/
def kinds : EnumType := ⟨"Kinds", true, [("A", 1), ("B", 2)]⟩

/-- A record with both flags. -/
def taggedRecord : FieldReader :=
  Record.reader [("Id", .int32 5), ("Kind", .enumeration kinds 3)]

theorem hasUniqueNames_taggedRecord : taggedRecord.HasUniqueNames := by
  intro name value h
  simp only [taggedRecord, Record.reader, FieldMap.get?_cons] at h
  split at h
  · cases h
    exact .flat fun fields => nofun
  · split at h
    · cases h
      exact .flat fun fields => nofun
    · cases h

/-- By flags, an order is mirrored as ever, and an `eq` asks its left side for the bits of the right. -/
theorem accepts_mirror_taggedRecord :
    ((CompiledFilter.mk (some (.binary (.comparison .gt) (.property ⟨["Id"]⟩ .int32)
        (.constant (.int64 4) .int64) .boolean)) .contains).accepts taggedRecord
      = (CompiledFilter.mk (some (.binary (.comparison .lt) (.constant (.int64 4) .int64)
          (.property ⟨["Id"]⟩ .int32) .boolean)) .contains).accepts taggedRecord) ∧
    ((CompiledFilter.mk (some (.binary (.comparison .eq)
        (.property ⟨["Kind"]⟩ (.enumeration kinds))
        (.constant (.enumeration kinds 1) (.enumeration kinds)) .boolean)) .contains).accepts
          taggedRecord = true ↔
      ∃ a b, value .contains taggedRecord (.property ⟨["Kind"]⟩ (.enumeration kinds)) = .ok a ∧
        value .contains taggedRecord (.constant (.enumeration kinds 1) (.enumeration kinds)) = .ok b ∧
          ((a.isNull = true ∧ b.isNull = true) ∨
            ∃ x y, a.int64? = some x ∧ b.int64? = some y ∧ x &&& y = y)) := by
  have hid : Predicate.combine (.comparison .gt) (.property ⟨["Id"]⟩ .int32)
      (.constant (.int64 4) .int64) = .ok _ := rfl
  have hkind : Predicate.combine (.comparison .eq) (.property ⟨["Kind"]⟩ (.enumeration kinds))
      (.constant (.enumeration kinds 1) (.enumeration kinds)) = .ok _ := rfl
  have hfour : (Predicate.constant (.int64 4) .int64).HasUniqueNames := .flat fun _ h => (by cases h)
  have hflag : (Predicate.constant (.enumeration kinds 1) (.enumeration kinds)).HasUniqueNames :=
    .flat fun _ h => (by cases h)
  exact ⟨(accepts_mirror hid rfl trivial hfour hasUniqueNames_taggedRecord).1 (by simp [AsksForFlags]),
    (accepts_mirror hkind rfl trivial hflag hasUniqueNames_taggedRecord).2 rfl rfl rfl⟩

/-- A value with two flags has the flag, but the flag alone does not have both. -/
theorem accepts_flags_not_mirrored :
    ∃ p q, Predicate.combine (.comparison .eq) (.property ⟨["Kind"]⟩ (.enumeration kinds))
        (.constant (.enumeration kinds 1) (.enumeration kinds)) = .ok p ∧
      Predicate.combine (.comparison Comparison.eq.mirror)
        (.constant (.enumeration kinds 1) (.enumeration kinds))
        (.property ⟨["Kind"]⟩ (.enumeration kinds)) = .ok q ∧
      (CompiledFilter.mk (some p) .contains).accepts taggedRecord = true ∧
      (CompiledFilter.mk (some q) .contains).accepts taggedRecord = false :=
  ⟨_, _, rfl, rfl, by decide +kernel, by decide +kernel⟩

end CompiledFilter
end RecordFilter
