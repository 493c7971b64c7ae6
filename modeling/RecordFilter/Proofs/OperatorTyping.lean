import Mathlib.Data.List.Forall2
import RecordFilter.Proofs.Typing

/-!
# Typed operators and functions

What an operator or a function does with typed operands, at run time. Each operation either gives a
value of the type that the static check promises, or fails for a reason that no type can exclude:
a division by zero, a decimal that overflows, a double that is not a number, a null argument, or a
position or length out of range.

Main statements: one theorem for each of arithmetic, comparison and function calls.
-/

namespace RecordFilter

namespace ValueType

@[simp] theorem isBoolean_boolean : ValueType.boolean.isBoolean = true := rfl

/-- Null on top of a type leaves what is under it. -/
@[simp] theorem underlying_withNull (marked : Bool) (type : ValueType) :
    (withNull marked type).underlying = type.underlying := by
  unfold withNull orNull
  split
  · split <;> rfl
  · rfl

end ValueType

namespace Value

/-- The bare null type has no other value than null. -/
theorem Inhabits.eq_null {value : Value} (h : value.Inhabits .null) : value = .null := by
  cases h
  rfl

/-- A value of a boolean type is a boolean or null. -/
theorem Inhabits.boolean_cases {value : Value} {type : ValueType} (h : value.Inhabits type)
    (htype : type.isBoolean = true) : value = .null ∨ ∃ b, value = .boolean b := by
  have hu := inhabits_underlying.2 h
  simp only [ValueType.isBoolean, decide_eq_true_eq] at htype
  rw [htype] at hu
  cases hu with
  | null => exact .inl rfl
  | boolean b => exact .inr ⟨b, rfl⟩

/-! ## Arithmetic -/

/-- The type of the numbers that a pair is made of, when both of them had at most the given kind of
integer. -/
def NumericPair.kind (bothInt32 : Bool) : NumericPair → ValueType
  | .integral .. => if bothInt32 then .int32 else .int64
  | .decimal .. => .decimal
  | .double .. => .double

/-- Two numbers have a pair, and it is of the wider of their types. -/
theorem numericPair_typed {a b : Value} {s t : ValueType} (ha : a.Inhabits s) (hb : b.Inhabits t)
    (hs : s.isNumeric = true) (ht : t.isNumeric = true) (hanull : a.isNull = false)
    (hbnull : b.isNull = false) :
    ∃ pair, numericPair? a b = some pair ∧
      pair.kind (bothInt32 a b) = Predicate.widerType s.underlying t.underlying := by
  have hua := inhabits_underlying.2 ha
  have hub := inhabits_underlying.2 hb
  unfold ValueType.isNumeric at hs ht
  generalize s.underlying = u at hs hua
  generalize t.underlying = w at ht hub
  -- what is left are the numbers on either side
  cases hua <;> first | (simp [isNull] at hanull; done) | (simp at hs; done) | skip
  all_goals
    cases hub <;> first | (simp [isNull] at hbnull; done) | (simp at ht; done) | skip
  all_goals exact ⟨_, rfl, rfl⟩

/-- Why arithmetic on two numbers has no result. -/
inductive ArithmeticFault (op : Arithmetic) (a b : Value) : ValueError → Prop
  | zeroDivisor {pair : NumericPair} (numbers : numericPair? a b = some pair)
      (divides : op.divides = true) (zero : pair.dividesByZero = true) :
      ArithmeticFault op a b .divideByZero
  | overflow {x y : Decimal} (numbers : numericPair? a b = some (.decimal x y))
      (overflows : op.onDecimal? x y = none) :
      ArithmeticFault op a b (.decimalOverflow op.keyword)

/-- Arithmetic on two numbers gives a number of the kind that their pair has, or a fault. -/
theorem arithmetic_numbers (op : Arithmetic) {a b : Value} {pair : NumericPair}
    (hnull : (a.isNull || b.isNull) = false) (hpair : numericPair? a b = some pair) :
    (∀ value, arithmetic op a b = .ok value → value.Inhabits (pair.kind (bothInt32 a b))) ∧
      ∀ error, arithmetic op a b = .error error → ArithmeticFault op a b error := by
  unfold arithmetic
  rw [hnull, hpair]
  simp only [Bool.false_eq_true, if_false]
  split
  · rename_i hzero
    simp only [Bool.and_eq_true] at hzero
    refine ⟨fun value h => (by cases h), fun error h => ?_⟩
    cases h
    exact .zeroDivisor hpair hzero.1 hzero.2
  · cases pair with
    | integral x y =>
      -- integers wrap around, so there is always a result
      refine ⟨fun value h => ?_, fun error h => (by cases h)⟩
      cases h
      unfold NumericPair.kind
      split
      · exact .int32 _
      · exact .int64 _
    | decimal x y =>
      simp only
      cases hresult : op.onDecimal? x y with
      | some result =>
        refine ⟨fun value h => ?_, fun error h => (by cases h)⟩
        cases h
        exact .decimal _
      | none =>
        refine ⟨fun value h => (by cases h), fun error h => ?_⟩
        cases h
        exact .overflow hpair hresult
    | double x y =>
      refine ⟨fun value h => ?_, fun error h => (by cases h)⟩
      cases h
      exact .double _

/-- A value other than null of a type that arithmetic takes is a number. -/
theorem Inhabits.isNumeric {value : Value} {type : ValueType} (h : value.Inhabits type)
    (hnull : value.isNull = false) (htype : type.isNumeric = true ∨ type = .null) :
    type.isNumeric = true := by
  rcases htype with htype | rfl
  · exact htype
  · rw [h.eq_null] at hnull
    cases hnull

/-- Arithmetic on operands that it is typed for gives null or a number of its type, unless it divides
by zero or a decimal overflows. -/
theorem arithmetic_typed {op : Arithmetic} {a b : Value} {s t type : ValueType}
    (ha : a.Inhabits s) (hb : b.Inhabits t)
    (htype : Predicate.arithmeticType op s t = .ok type) :
    (∀ value, arithmetic op a b = .ok value → value.Inhabits type) ∧
      ∀ error, arithmetic op a b = .error error → ArithmeticFault op a b error := by
  unfold Predicate.arithmeticType at htype
  simp only at htype
  split at htype
  case isFalse => cases htype
  rename_i hfits
  cases htype
  simp only [Bool.and_eq_true, Bool.or_eq_true, decide_eq_true_eq] at hfits
  obtain ⟨⟨hs, ht⟩, -⟩ := hfits
  by_cases hnull : (a.isNull || b.isNull) = true
  · unfold arithmetic
    rw [if_pos hnull]
    refine ⟨fun value h => ?_, fun error h => (by cases h)⟩
    cases h
    exact .null _
  · rw [Bool.not_eq_true] at hnull
    obtain ⟨hanull, hbnull⟩ := Bool.or_eq_false_iff.1 hnull
    obtain ⟨pair, hpair, hkind⟩ := numericPair_typed ha hb (ha.isNumeric hanull hs)
      (hb.isNumeric hbnull ht) hanull hbnull
    obtain ⟨hvalue, hfault⟩ := arithmetic_numbers op hnull hpair
    refine ⟨fun value h => ?_, hfault⟩
    -- the type that is promised is the one of the pair, with null on top if an operand can be null
    have hin := hvalue value h
    rw [hkind] at hin
    rw [← inhabits_underlying, ValueType.underlying_withNull]
    exact inhabits_underlying.2 hin

/-! ## Comparison -/

/-- Two values of one type other than records, neither of them null, have an order unless they are
numbers. -/
theorem compare_sameType {a b : Value} {type : ValueType} (ha : a.Inhabits type)
    (hb : b.Inhabits type) (hfields : type.fields? = none) (hnumeric : type.isNumeric = false)
    (hanull : a.isNull = false) (hbnull : b.isNull = false) :
    ∃ order, compare a b = .ok order := by
  have hua := inhabits_underlying.2 ha
  have hub := inhabits_underlying.2 hb
  unfold ValueType.fields? at hfields
  unfold ValueType.isNumeric at hnumeric
  generalize hu : type.underlying = u at hfields hnumeric hua hub
  cases hua <;> first | (simp [isNull] at hanull; done) | (simp at hfields hnumeric; done) | skip
  case nullable => exact absurd hu (underlying_ne_nullable _ _)
  all_goals
    cases hub <;> first | (simp [isNull] at hbnull; done) | skip
  all_goals exact ⟨_, rfl⟩

/-- The order of the numbers of a pair, unless one of them is not a number. -/
def NumericPair.order? : NumericPair → Option Ordering
  | .integral x y => some (Ord.compare x y)
  | .decimal x y => some (x.compare y)
  | .double x y => Double.compare? x y

/-- Numbers of any two types are compared as the pair that they make. -/
theorem compare_pair {a b : Value} {pair : NumericPair} (h : numericPair? a b = some pair) :
    compare a b =
      pair.order?.elim (.error (.invalidComparison a.kindName b.kindName)) .ok := by
  cases a <;> first | (simp [numericPair?, decimal?, double?] at h; done) | skip
  all_goals
    cases b <;> first | (simp [numericPair?, decimal?, double?] at h; done) | skip
  all_goals
    simp only [compare, h]
    cases pair with
    | integral x y => rfl
    | decimal x y => rfl
    | double x y =>
      dsimp only [NumericPair.order?]
      cases Double.compare? x y <;> rfl

/-- Numbers have an order unless one of them, taken as a double, is not a number. -/
theorem compare_numbers {a b : Value} {pair : NumericPair} (h : numericPair? a b = some pair) :
    (∃ order, compare a b = .ok order) ∨
      ∃ x y, pair = .double x y ∧ (Double.isNaN x || Double.isNaN y) = true ∧
        compare a b = .error (.invalidComparison a.kindName b.kindName) := by
  rw [compare_pair h]
  cases pair with
  | integral x y => exact .inl ⟨_, rfl⟩
  | decimal x y => exact .inl ⟨_, rfl⟩
  | double x y =>
    rw [NumericPair.order?, Double.compare?]
    by_cases hnan : (Double.isNaN x || Double.isNaN y) = true
    · rw [if_pos hnan]
      exact .inr ⟨x, y, rfl, hnan, rfl⟩
    · rw [if_neg hnan]
      exact .inl ⟨_, rfl⟩

end Value

namespace Evaluation

open Value

/-- Why two comparable values have no order. -/
inductive ComparisonFault (op : Comparison) (a b : Value) : EvaluationError → Prop
  | notANumber {x y : Float} (ordered : op.isOrdered = true)
      (numbers : numericPair? a b = some (.double x y))
      (nan : (Double.isNaN x || Double.isNaN y) = true) :
      ComparisonFault op a b (.value (.invalidComparison a.kindName b.kindName))

/-- Values of compatible types that are not null have numeric types, or types that are the same up to
null. -/
theorem compatible_cases {a b : Value} {s t : ValueType} (ha : a.Inhabits s) (hb : b.Inhabits t)
    (hcompatible : s.isCompatibleWith t = true) (hanull : a.isNull = false)
    (hbnull : b.isNull = false) :
    (s.isNumeric = true ∧ t.isNumeric = true) ∨ s.underlying = t.underlying := by
  have hs : s ≠ .null := by
    rintro rfl
    rw [ha.eq_null] at hanull
    cases hanull
  have ht : t ≠ .null := by
    rintro rfl
    rw [hb.eq_null] at hbnull
    cases hbnull
  unfold ValueType.isCompatibleWith at hcompatible
  rw [if_neg hs, if_neg ht] at hcompatible
  simpa using hcompatible

/-- Values of a flags enumeration and of a compatible type have bits to compare. -/
theorem hasFlags_typed {a b : Value} {s t : ValueType} {e : EnumType} (ha : a.Inhabits s)
    (hb : b.Inhabits t) (hs : s.underlying = .enumeration e)
    (hcompatible : s.isCompatibleWith t = true) (hanull : a.isNull = false)
    (hbnull : b.isNull = false) : ∃ result, hasFlags a b = .ok result := by
  have hsame : t.underlying = .enumeration e := by
    rcases compatible_cases ha hb hcompatible hanull hbnull with ⟨hnumeric, -⟩ | hsame
    · simp [ValueType.isNumeric, hs] at hnumeric
    · rw [← hsame, hs]
  have hua := inhabits_underlying.2 ha
  have hub := inhabits_underlying.2 hb
  rw [hs] at hua
  rw [hsame] at hub
  cases hua with
  | null => simp [isNull] at hanull
  | enumeration =>
    cases hub with
    | null => simp [isNull] at hbnull
    | enumeration => exact ⟨_, rfl⟩

theorem exists_enumeration {p : Predicate} (h : hasFlagsType p = true) :
    ∃ e, p.type.underlying = .enumeration e := by
  simp only [hasFlagsType, Option.any_eq_true] at h
  obtain ⟨e, he, -⟩ := h
  unfold ValueType.enumeration? at he
  split at he
  · exact ⟨_, ‹_›⟩
  · cases he

/-- Null is compared with anything. -/
theorem comparison_of_null (flagsMatch : FlagsMatch) (flags : Bool) (op : Comparison) {a b : Value}
    (hnull : (a.isNull || b.isNull) = true) :
    ∃ result, comparison flagsMatch flags op a b = .ok result := by
  cases op <;> simp only [comparison, areEqual, if_pos hnull]
  all_goals exact ⟨_, rfl⟩

/-- Whether values of compatible types are equal is decided. -/
theorem equation_typed (flagsMatch : FlagsMatch) {op : Comparison} {p : Predicate} {a b : Value}
    {t : ValueType} (hop : op.isOrdered = false) (ha : a.Inhabits p.type) (hb : b.Inhabits t)
    (hcompatible : p.type.isCompatibleWith t = true) (hanull : a.isNull = false)
    (hbnull : b.isNull = false) :
    ∃ result, comparison flagsMatch (hasFlagsType p) op a b = .ok result := by
  cases op <;> simp only [Comparison.isOrdered, Bool.true_eq_false] at hop
  case eq =>
    simp only [comparison, areEqual, hanull, hbnull, Bool.or_self, Bool.false_eq_true, if_false]
    split
    · rename_i hby
      rw [Bool.and_eq_true] at hby
      obtain ⟨e, he⟩ := exists_enumeration hby.1
      obtain ⟨result, hresult⟩ := hasFlags_typed ha hb he hcompatible hanull hbnull
      exact ⟨result, Except.mapError_eq_ok_iff.2 hresult⟩
    · exact ⟨_, rfl⟩
  case ne =>
    simp only [comparison, areEqual, hanull, hbnull, Bool.or_self, Bool.false_eq_true, if_false]
    exact ⟨_, rfl⟩

/-- Values of compatible types other than records have an order, unless they are doubles and one is not
a number. -/
theorem compare_typed {a b : Value} {s t : ValueType} (ha : a.Inhabits s) (hb : b.Inhabits t)
    (hcompatible : s.isCompatibleWith t = true) (hfields : s.fields? = none)
    (hanull : a.isNull = false) (hbnull : b.isNull = false) :
    (∃ order, a.compare b = .ok order) ∨
      ∃ x y, numericPair? a b = some (.double x y) ∧ (Double.isNaN x || Double.isNaN y) = true ∧
        a.compare b = .error (.invalidComparison a.kindName b.kindName) := by
  by_cases hnumeric : s.isNumeric = true ∧ t.isNumeric = true
  · obtain ⟨pair, hpair, -⟩ := numericPair_typed ha hb hnumeric.1 hnumeric.2 hanull hbnull
    rcases compare_numbers hpair with horder | ⟨x, y, rfl, hnan, herror⟩
    · exact .inl horder
    · exact .inr ⟨x, y, hpair, hnan, herror⟩
  · have hsame : s.underlying = t.underlying :=
      (compatible_cases ha hb hcompatible hanull hbnull).resolve_left hnumeric
    have hb' : b.Inhabits s := by
      rw [← inhabits_underlying, hsame]
      exact inhabits_underlying.2 hb
    have hlike : t.isNumeric = s.isNumeric := by
      unfold ValueType.isNumeric
      rw [hsame]
    rw [hlike, and_self, Bool.not_eq_true] at hnumeric
    exact .inl (compare_sameType ha hb' hfields hnumeric hanull hbnull)

/-- A comparison of operands that it is typed for is decided, unless it asks for the order of a
double that is not a number. `p` is the predicate on the left, whose type decides on flags. -/
theorem comparison_typed (flagsMatch : FlagsMatch) {op : Comparison} {p : Predicate} {a b : Value}
    {t type : ValueType} (ha : a.Inhabits p.type) (hb : b.Inhabits t)
    (htype : Predicate.operatorType (.comparison op) p.type t = .ok type) :
    type = .boolean ∧
      ((∃ result, comparison flagsMatch (hasFlagsType p) op a b = .ok result) ∨
        ∃ error, comparison flagsMatch (hasFlagsType p) op a b = .error error ∧
          ComparisonFault op a b error) := by
  simp only [Predicate.operatorType] at htype
  split at htype
  case isFalse => cases htype
  rename_i hfits
  cases htype
  simp only [Bool.and_eq_true, Bool.not_eq_true', Bool.and_eq_false_iff] at hfits
  obtain ⟨hcompatible, hordered⟩ := hfits
  refine ⟨rfl, ?_⟩
  by_cases hnull : (a.isNull || b.isNull) = true
  · exact .inl (comparison_of_null flagsMatch _ op hnull)
  rw [Bool.not_eq_true] at hnull
  obtain ⟨hanull, hbnull⟩ := Bool.or_eq_false_iff.1 hnull
  cases hop : op.isOrdered with
  | false => exact .inl (equation_typed flagsMatch hop ha hb hcompatible hanull hbnull)
  | true =>
    -- records are equal or not, but have no order
    have hfields : p.type.fields? = none := by
      rcases hordered with h | h
      · rw [hop] at h
        cases h
      · simpa using h
    have hcomparison : comparison flagsMatch (hasFlagsType p) op a b
        = ((a.compare b).mapError .value).map op.holds := by
      cases op <;> simp only [Comparison.isOrdered, Bool.false_eq_true] at hop
      all_goals simp only [comparison, hnull, Bool.false_eq_true, if_false]
    rw [hcomparison]
    rcases compare_typed ha hb hcompatible hfields hanull hbnull with
      ⟨order, horder⟩ | ⟨x, y, hpair, hnan, herror⟩
    · rw [horder]
      exact .inl ⟨_, rfl⟩
    · rw [herror]
      exact .inr ⟨_, rfl, .notANumber hop hpair hnan⟩

/-! ## Functions -/

/-- Why a function of typed arguments has no result. -/
inductive FunctionFault (function : Function) (arguments : List Value) : FunctionError → Prop
  | nullArgument {index : Nat} (kind : Function.ArgumentKind)
      (parameter : function.parameterKinds[index]? = some kind)
      (null : arguments[index]? = some .null) :
      FunctionFault function arguments (.incorrectArgumentType index "null" kind.word)
  | startOutside {text : String} {start : Value} {position : Int64}
      (substring : function = .substring) (given : arguments = [.string text, start])
      (integer : start.int64? = some position)
      (outside : ¬(0 ≤ position.toInt ∧ position.toInt ≤ text.toList.length)) :
      FunctionFault function arguments (.startOutside position text.toList.length)
  | lengthTooLong {text : String} (length : function = .length) (given : arguments = [.string text])
      (long : 2 ^ (31 : Nat) ≤ text.toList.length) : FunctionFault function arguments .tooLong
  | indexTooLong {text needle : String} {index : Nat} (indexOf : function = .indexOf)
      (given : arguments = [.string text, .string needle])
      (found : Text.indexOf? (Text.lower needle.toList) (Text.lower text.toList) = some index)
      (long : 2 ^ (31 : Nat) ≤ index) : FunctionFault function arguments .tooLong

/-- The table has every function under its name. -/
theorem call_builtin (function : Function) (arguments : List Value) :
    FunctionTable.builtin.call function.name arguments = applyFunction function arguments := by
  cases function <;> rfl

/-- A value of a type of a kind is null or a value of that kind. -/
theorem argument_cases {kind : Function.ArgumentKind} {value : Value} {type : ValueType}
    (h : value.Inhabits type) (hkind : kind.admits type = true) :
    value = .null ∨
      match kind with
      | .string => ∃ text, value = .string text
      | .integer => ∃ n, value.int64? = some n
      | .dateTime => ∃ t, value = .dateTime t
      | .numeric => ∃ x, value.double? = some x := by
  unfold Function.ArgumentKind.admits at hkind
  simp only [Bool.or_eq_true, decide_eq_true_eq] at hkind
  rcases hkind with rfl | hkind
  · exact .inl h.eq_null
  · have hu := inhabits_underlying.2 h
    cases kind
    all_goals
      simp only [ValueType.isString, ValueType.isIntegral, ValueType.isDateTime,
        ValueType.isNumeric, decide_eq_true_eq] at hkind
      generalize type.underlying = u at hkind hu
      cases hu <;> first | exact .inl rfl | exact .inr ⟨_, rfl⟩ | cases hkind

/-- The outcome of a function call that the types of its arguments account for. -/
def Accounted (function : Function) (arguments : List Value) (type : ValueType)
    (result : FunctionResult) : Prop :=
  (∀ value, result = .ok value → value.Inhabits type) ∧
    ∀ error, result = .error error → FunctionFault function arguments error

section Accounted

variable {function : Function} {arguments : List Value} {type : ValueType}

theorem accounted_ok {value : Value} (h : value.Inhabits type) :
    Accounted function arguments type (.ok value) :=
  ⟨fun _ hvalue => Except.ok.inj hvalue ▸ h, fun _ herror => (by cases herror)⟩

theorem accounted_error {error : FunctionError} (h : FunctionFault function arguments error) :
    Accounted function arguments type (.error error) :=
  ⟨fun _ hvalue => (by cases hvalue), fun _ herror => Except.error.inj herror ▸ h⟩

/-- A function of two strings is accounted for if it is on all pairs of strings. -/
theorem accounted_onStrings {f : Text → Text → FunctionResult} {a b : Value} {s t : ValueType}
    (hkinds : function.parameterKinds = [.string, .string]) (ha : a.Inhabits s)
    (hb : b.Inhabits t) (hs : Function.ArgumentKind.string.admits s = true)
    (ht : Function.ArgumentKind.string.admits t = true)
    (hf : ∀ x y, a = .string x → b = .string y →
      Accounted function [a, b] type (f x.toList y.toList)) :
    Accounted function [a, b] type (onStrings f [a, b]) := by
  have first : function.parameterKinds[0]? = some .string := by rw [hkinds]; rfl
  have second : function.parameterKinds[1]? = some .string := by rw [hkinds]; rfl
  rcases argument_cases ha hs with rfl | ⟨x, rfl⟩
  · exact accounted_error (.nullArgument _ first rfl)
  · rcases argument_cases hb ht with rfl | ⟨y, rfl⟩
    · exact accounted_error (.nullArgument _ second rfl)
    · exact hf x y rfl rfl

/-- A function from text to text gives a string. -/
theorem accounted_onText {f : Text → Text} {a : Value} {s : ValueType}
    (hkinds : function.parameterKinds = [.string]) (ha : a.Inhabits s)
    (hs : Function.ArgumentKind.string.admits s = true) :
    Accounted function [a] .string (onText f [a]) := by
  have first : function.parameterKinds[0]? = some .string := by rw [hkinds]; rfl
  rcases argument_cases ha hs with rfl | ⟨x, rfl⟩
  · exact accounted_error (.nullArgument _ first rfl)
  · exact accounted_ok (.string _)

/-- A part of a timestamp is a 32-bit integer. -/
theorem accounted_datePart {part : Timestamp → Int} {a : Value} {s : ValueType}
    (hkinds : function.parameterKinds = [.dateTime]) (ha : a.Inhabits s)
    (hs : Function.ArgumentKind.dateTime.admits s = true) :
    Accounted function [a] .int32 (datePart part [a]) := by
  have first : function.parameterKinds[0]? = some .dateTime := by rw [hkinds]; rfl
  rcases argument_cases ha hs with rfl | ⟨x, rfl⟩
  · exact accounted_error (.nullArgument _ first rfl)
  · exact accounted_ok (.int32 _)

/-- Rounding gives a decimal for a decimal type, and a double for other numeric types. -/
theorem accounted_rounding {onDecimal : Decimal → Decimal} {onDouble : Float → Float} {a : Value}
    {s : ValueType} (hkinds : function.parameterKinds = [.numeric])
    (hreturn : function.returnType [s] = if s.underlying = .decimal then .decimal else .double)
    (ha : a.Inhabits s) (hs : Function.ArgumentKind.numeric.admits s = true) :
    Accounted function [a] (function.returnType [s]) (rounding onDecimal onDouble [a]) := by
  have first : function.parameterKinds[0]? = some .numeric := by rw [hkinds]; rfl
  rcases argument_cases ha hs with rfl | ⟨x, hx⟩
  · exact accounted_error (.nullArgument _ first rfl)
  · rw [hreturn]
    have hu := inhabits_underlying.2 ha
    generalize hs' : s.underlying = u at hu ⊢
    cases hu with
    | nullable => exact absurd hs' (Value.underlying_ne_nullable _ _)
    | decimal => exact accounted_ok (.decimal _)
    | int32 => exact accounted_ok (.double _)
    | int64 => exact accounted_ok (.double _)
    | double => exact accounted_ok (.double _)
    | _ => cases hx

theorem accounted_count {n : Nat} (hlong : 2 ^ (31 : Nat) ≤ n → FunctionFault function arguments .tooLong) :
    Accounted function arguments .int32 (count n) := by
  unfold count
  split
  · exact accounted_ok (.int32 _)
  · exact accounted_error (hlong (by omega))

theorem accounted_substring {a b : Value} {s t : ValueType} (ha : a.Inhabits s) (hb : b.Inhabits t)
    (hs : Function.ArgumentKind.string.admits s = true)
    (ht : Function.ArgumentKind.integer.admits t = true) :
    Accounted .substring [a, b] .string (substring a b) := by
  rcases argument_cases ha hs with rfl | ⟨x, rfl⟩
  · exact accounted_error (.nullArgument .string rfl rfl)
  · rcases argument_cases hb ht with rfl | ⟨n, hn⟩
    · exact accounted_error (.nullArgument .integer rfl rfl)
    · have hresult : substring (.string x) b
          = if 0 ≤ n.toInt ∧ n.toInt ≤ x.toList.length then
              .ok (.string (String.ofList (x.toList.drop n.toInt.toNat)))
            else .error (.startOutside n x.toList.length) := by
        unfold substring
        rw [hn]
        rfl
      rw [hresult]
      split
      · exact accounted_ok (.string _)
      · exact accounted_error (.startOutside rfl rfl hn ‹_›)

end Accounted

/-- As many types as kinds that pass the check are each of their kind. -/
theorem admits_of_checkKinds (function : Function) :
    ∀ {kinds : List Function.ArgumentKind} {types : List ValueType},
      types.length = kinds.length → function.checkKinds kinds types = .ok () →
      List.Forall₂ (fun kind type => kind.admits type = true) kinds types
  | [], [], _, _ => .nil
  | kind :: kinds, type :: types, hlength, h => by
    simp only [Function.checkKinds] at h
    split at h
    · exact .cons ‹_› (admits_of_checkKinds function (by simpa using hlength) h)
    · cases h

/-- Arguments whose types pass the check of a function are as many as the function takes, and each of
them is of its kind. -/
theorem resultType_eq_ok {function : Function} {types : List ValueType} {type : ValueType}
    (h : function.resultType types = .ok type) :
    type = function.returnType types ∧
      List.Forall₂ (fun kind type => kind.admits type = true) function.parameterKinds types := by
  unfold Function.resultType at h
  split at h
  · cases h
  · rename_i hlength
    obtain ⟨⟨⟩, hkinds, rfl⟩ := Except.map_eq_ok_iff.1 h
    have harity : types.length = function.parameterKinds.length := by
      cases function <;> simpa [Function.arity, Function.parameterKinds] using hlength
    exact ⟨rfl, admits_of_checkKinds function harity hkinds⟩

/-- A function of arguments that it is typed for gives a value of its type, unless an argument is
null, or a position or length is out of range. -/
theorem applyFunction_typed {function : Function} {arguments : List Value} {types : List ValueType}
    {type : ValueType} (h : List.Forall₂ Value.Inhabits arguments types)
    (htype : function.resultType types = .ok type) :
    Accounted function arguments type (applyFunction function arguments) := by
  obtain ⟨rfl, hkinds⟩ := resultType_eq_ok htype
  cases function
  all_goals
    simp only [Function.parameterKinds] at hkinds
    obtain _ | ⟨hs, _ | ⟨ht, ⟨⟩⟩⟩ := hkinds
    obtain _ | ⟨ha, _ | ⟨hb, ⟨⟩⟩⟩ := h
  case substringOf | endsWith | startsWith =>
    exact accounted_onStrings rfl ha hb hs ht fun _ _ _ _ => accounted_ok (.boolean _)
  case length =>
    rcases argument_cases ha hs with rfl | ⟨x, rfl⟩
    · exact accounted_error (.nullArgument .string rfl rfl)
    · exact accounted_count (.lengthTooLong rfl rfl)
  case indexOf =>
    refine accounted_onStrings rfl ha hb hs ht fun x y hx hy => ?_
    subst hx hy
    unfold indexOf
    split
    · exact accounted_count (.indexTooLong rfl rfl ‹_›)
    · exact accounted_ok (.int32 _)
  case substring => exact accounted_substring ha hb hs ht
  case toLower | toUpper | trim => exact accounted_onText rfl ha hs
  case hour | minute | second | day | month | year => exact accounted_datePart rfl ha hs
  case round | floor | ceiling =>
    refine accounted_rounding rfl ?_ ha hs
    simp only [Function.returnType, List.head?_cons, Option.map_some]
    split <;> simp_all

end Evaluation
end RecordFilter
