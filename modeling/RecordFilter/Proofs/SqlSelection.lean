import RecordFilter.Proofs.ChainedFilters
import RecordFilter.Proofs.SqlConditions
import RecordFilter.Proofs.Typing

/-!
# What SQL-92 conditions select

A predicate that compares integer fields with integers or null has a condition of SQL-92 as its text.
Where the condition is true or false, the predicate has the same value. Where a comparison meets null,
the condition may be unknown and then selects nothing, while the predicate still has a value: null equals
null, and nothing else.

Main statement: `Dialect.selects_render`.
-/

namespace RecordFilter

/-! ## Comparisons of integers -/

namespace Value

/-- The integers, and null. -/
inductive IsIntegral : Value → Prop
  | null : IsIntegral .null
  | int32 (n : Int32) : IsIntegral (.int32 n)
  | int64 (n : Int64) : IsIntegral (.int64 n)

theorem compare_toInt (x y : Int64) : Ord.compare x y = Ord.compare x.toInt y.toInt := by
  show compareOfLessAndEq x y = compareOfLessAndEq x.toInt y.toInt
  unfold compareOfLessAndEq
  simp only [Int64.lt_iff_toInt_lt, Int64.toInt_inj]

/-- An integral value is null or an integer of 64 bits. -/
theorem IsIntegral.cases {a : Value} (h : a.IsIntegral) :
    a = .null ∨ a.isNull = false ∧ ∃ x, a.int64? = some x := by
  cases h with
  | null => exact .inl rfl
  | int32 n => exact .inr ⟨rfl, _, rfl⟩
  | int64 n => exact .inr ⟨rfl, _, rfl⟩

/-- Integers of either width compare as integers. -/
theorem numericPair?_integral {a b : Value} (ha : a.IsIntegral) (hb : b.IsIntegral) {x y : Int64}
    (hx : a.int64? = some x) (hy : b.int64? = some y) : numericPair? a b = some (.integral x y) := by
  cases ha <;> cases hb <;> cases hx <;> cases hy <;> rfl

/-- Integers are equal by their values. -/
theorem equals_integral {a b : Value} (ha : a.IsIntegral) (hb : b.IsIntegral) {x y : Int64}
    (hx : a.int64? = some x) (hy : b.int64? = some y) : a.equals b = (x == y) := by
  have hpair := numericPair?_integral ha hb hx hy
  cases ha <;> cases hb <;> cases hx <;> cases hy <;>
    simp only [equals, equalsFlat, hpair]

/-- Integers are ordered by their values. -/
theorem compare_integral {a b : Value} (ha : a.IsIntegral) (hb : b.IsIntegral) {x y : Int64}
    (hx : a.int64? = some x) (hy : b.int64? = some y) :
    a.compare b = .ok (Ord.compare x.toInt y.toInt) := by
  have hpair := numericPair?_integral ha hb hx hy
  rw [← compare_toInt]
  cases ha <;> cases hb <;> cases hx <;> cases hy <;> simp only [compare, hpair]

end Value

namespace Evaluation

/-- A comparison with null on its left side has a value. -/
theorem comparison_null_left (flagsMatch : FlagsMatch) (op : Comparison) (b : Value) :
    ∃ result, comparison flagsMatch false op .null b = .ok result := by
  cases op <;> exact ⟨_, rfl⟩

theorem comparison_null_right (flagsMatch : FlagsMatch) (op : Comparison) (a : Value) :
    ∃ result, comparison flagsMatch false op a .null = .ok result := by
  cases op <;> simp [comparison, areEqual, Value.isNull, Except.map]

/-- A comparison of integers or null is decided; between two integers, by their order. -/
theorem comparison_integral (flagsMatch : FlagsMatch) (op : Comparison) {a b : Value}
    (ha : a.IsIntegral) (hb : b.IsIntegral) :
    ∃ result, comparison flagsMatch false op a b = .ok result ∧
      ∀ x y, a.int64? = some x → b.int64? = some y → result = op.holds (compare x.toInt y.toInt) := by
  rcases ha.cases with rfl | ⟨hanull, x, hx⟩
  · obtain ⟨result, hresult⟩ := comparison_null_left flagsMatch op b
    exact ⟨result, hresult, nofun⟩
  rcases hb.cases with rfl | ⟨hbnull, y, hy⟩
  · obtain ⟨result, hresult⟩ := comparison_null_right flagsMatch op a
    exact ⟨result, hresult, nofun⟩
  refine ⟨op.holds (compare x.toInt y.toInt), ?_, ?_⟩
  -- equality has a path of its own in the evaluation; on integers it agrees with the order
  · have hequal : (x == y) = (compare x.toInt y.toInt == Ordering.eq) := by
      rw [Bool.eq_iff_iff, beq_iff_eq, beq_iff_eq, Int.compare_eq_eq, Int64.toInt_inj]
    have hequals := Value.equals_integral ha hb hx hy
    have hcompare := Value.compare_integral ha hb hx hy
    cases op with
    | eq => simp [comparison, areEqual, hanull, hbnull, hequals, hequal, Comparison.holds]
    | ne => simp [comparison, areEqual, hanull, hbnull, hequals, hequal, Comparison.holds, Except.map, bne]
    | _ => simp [comparison, hanull, hbnull, hcompare, Except.map]
  · intro x' y' hx' hy'
    rw [hx] at hx'
    rw [hy] at hy'
    cases hx'
    cases hy'
    rfl

end Evaluation

/-! ## Predicates and their conditions -/

namespace Predicate

/-- A nullable 32-bit field of the record itself, with the name of a column. -/
structure IsColumn (schema : RecordType) (name : String) (p : Predicate) : Prop where
  eq : p = .property ⟨[name]⟩ (.nullable .int32)
  declared : schema.field? name = some (.nullable .int32)
  named : Sql.isColumnName name.toList = true

/-- An integer literal or the null literal. -/
structure IsIntegralLiteral (value : Value) (p : Predicate) : Prop where
  eq : ∃ type, p = .constant value type ∧ type.enumeration? = none
  integral : value.IsIntegral

/-- The predicates of any nesting of `and`, `or` and `not` over comparisons of a field with a literal. -/
inductive ComparesColumns (schema : RecordType) : Predicate → Prop
  | columnLeft {op : Comparison} {p q : Predicate} {name : String} {value : Value} {type : ValueType}
      (hp : p.IsColumn schema name) (hq : q.IsIntegralLiteral value) :
      ComparesColumns schema (.binary (.comparison op) p q type)
  | columnRight {op : Comparison} {p q : Predicate} {name : String} {value : Value} {type : ValueType}
      (hp : p.IsIntegralLiteral value) (hq : q.IsColumn schema name) :
      ComparesColumns schema (.binary (.comparison op) p q type)
  | not {p : Predicate} (hp : ComparesColumns schema p) : ComparesColumns schema (.not p)
  | connective {op : Connective} {p q : Predicate} {type : ValueType} (hp : ComparesColumns schema p)
      (hq : ComparesColumns schema q) : ComparesColumns schema (.binary (.connective op) p q type)

/-- The operand of a condition for a side of a comparison. -/
def sqlOperand : Predicate → Sql.Operand
  | .property path _ => .column (path.segments.headD "")
  | .constant value _ => value.int64?.elim .null fun n => .number n.toInt
  | _ => .null

/-- The condition for a predicate. -/
def sqlCondition : Predicate → Sql.Condition
  | .binary (.comparison op) p q _ => .comparison op p.sqlOperand q.sqlOperand
  | .binary (.connective op) p q _ => .connective op p.sqlCondition q.sqlCondition
  | .not p => .not p.sqlCondition
  | p => .comparison .eq p.sqlOperand .null

end Predicate

/-- A record as a row. -/
def Sql.rowOf (record : FieldReader) : Sql.Row :=
  fun name => ((record name).bind Value.int64?).map Int64.toInt

namespace Dialect

variable {schema : RecordType}

/-- What a side of a comparison has in common with the operand that it is written as. -/
structure IsComparand (schema : RecordType) (p : Predicate) : Prop where
  atomic : p.isAtomic = true
  noMatch : stringMatchOf? p = none
  noFlags : Evaluation.hasFlagsType p = false
  written : ∃ text, sql92.visit true false p = .ok text ∧
    Sql.tokens? text = some [.operand p.sqlOperand]
  valued : ∀ record, schema.Admits record → ∀ flagsMatch, ∃ value,
    Evaluation.value flagsMatch record p = .ok value ∧ value.IsIntegral ∧
      p.sqlOperand.value (Sql.rowOf record) = value.int64?.map Int64.toInt

/-- A column is a comparand. -/
theorem isComparand_column {p : Predicate} {name : String} (h : p.IsColumn schema name) :
    IsComparand schema p := by
  obtain ⟨rfl, hdeclared, hnamed⟩ := h
  refine ⟨rfl, rfl, rfl, ⟨name.toList, rfl, Sql.tokens?_column hnamed⟩, fun record hrecord _ => ?_⟩
  obtain ⟨value, hvalue, htyped⟩ := hrecord name _ hdeclared
  refine ⟨value, ?_, ?_, ?_⟩
  · simp [Evaluation.readProperty, hvalue, Evaluation.navigate]
  -- a field of this type has null or a 32-bit integer
  · cases htyped with
    | null => exact .null
    | nullable h =>
      cases h with
      | null => exact .null
      | int32 n => exact .int32 n
  · simp [Predicate.sqlOperand, Sql.Operand.value, Sql.rowOf, hvalue]

/-- An integral literal is a comparand. -/
theorem isComparand_literal {p : Predicate} {value : Value} (h : p.IsIntegralLiteral value) :
    IsComparand schema p := by
  obtain ⟨⟨type, rfl, htype⟩, hintegral⟩ := h
  refine ⟨rfl, rfl, ?_, ?_, fun record _ _ => ⟨value, Evaluation.value_constant .., hintegral, ?_⟩⟩
  · simp [Evaluation.hasFlagsType, Predicate.type, htype]
  · cases hintegral with
    | null => exact ⟨"null".toList, rfl, by rw [Predicate.sqlOperand]; decide +kernel⟩
    | int32 n =>
      have htokens := Sql.tokens?_ofInt n.toInt64
      rw [Int32.toInt_toInt64] at htokens
      refine ⟨Numeral.ofInt n.toInt, ?_, ?_⟩
      · simp [visit, sql92, plainLiteral, Value.render]
      · simpa [Predicate.sqlOperand, Value.int64?] using htokens
    | int64 n =>
      refine ⟨Numeral.ofInt n.toInt, ?_, Sql.tokens?_ofInt n⟩
      simp [visit, sql92, plainLiteral, Value.render]
  · cases hintegral <;> rfl

/-- A comparand is written as one operand. -/
theorem IsComparand.visit {p : Predicate} (h : IsComparand schema p) :
    ∃ text, sql92.visit true (!p.isAtomic) p = .ok text ∧
      Sql.tokens? text = some [.operand p.sqlOperand] := by
  rw [h.atomic]
  exact h.written

/-! ## Texts -/

/-- A comparison of comparands is written as its operator between their texts. -/
theorem visit_compared {op : Comparison} {p q : Predicate} {type : ValueType} {a b : Text}
    (hp : IsComparand schema p) (ha : sql92.visit true (!p.isAtomic) p = .ok a)
    (hq : IsComparand schema q) (hb : sql92.visit true (!q.isAtomic) q = .ok b) (inside : Bool) :
    sql92.visit inside false (.binary (.comparison op) p q type)
      = .ok (a ++ ' ' :: (sqlComparison op).toList ++ ' ' :: b) := by
  rw [visit]
  simp only [ha, hb, hp.noMatch, hq.noMatch]
  simp [compared, wrap, sql92, Except.bind, Except.map]

end Dialect

/-! ## Reading -/

namespace Sql

/-- Tokens that are read as a condition at the beginning of a bracket, whatever comes after them. -/
def IsReadAs (ks : List Token) (c : Condition) : Prop :=
  ∃ f : Frame, f.whole = some c ∧
    ∀ outer rest, readTokens outer {} (ks ++ rest) = readTokens outer f rest

/-- Two operands with an operator between them are read as a comparison. -/
theorem isReadAs_comparison (op : Comparison) (a b : Operand) :
    IsReadAs [.operand a, .comparison op, .operand b] (.comparison op a b) := by
  refine ⟨{ last := some (.comparison op a b) }, rfl, fun outer rest => ?_⟩
  show readTokens outer {} (.operand a :: .comparison op :: .operand b :: rest) = _
  rw [readTokens]
  rfl

variable {ks ls : List Token} {c d : Condition}

/-- In brackets, a condition counts as one. -/
theorem IsReadAs.enclosed (h : IsReadAs ks c) (outer : List Frame) (f : Frame) (rest : List Token) :
    readTokens outer f ((.opening :: ks ++ [.closing]) ++ rest)
      = (f.put c).bind fun f => readTokens outer f rest := by
  obtain ⟨inner, hwhole, hread⟩ := h
  have htokens : (.opening :: ks ++ [.closing]) ++ rest = .opening :: (ks ++ .closing :: rest) := by simp
  rw [htokens, readTokens, hread, readTokens, hwhole]
  rfl

/-- `NOT` in front of a condition in parentheses is read as its negation. -/
theorem IsReadAs.not (h : IsReadAs ks c) :
    IsReadAs (.not :: (.opening :: ks ++ [.closing])) (.not c) := by
  refine ⟨{ last := some (.not c) }, rfl, fun outer rest => ?_⟩
  rw [List.cons_append, readTokens]
  exact h.enclosed outer { negated := true } rest

/-- Conditions in parentheses on both sides of a keyword are read as the connective. -/
theorem IsReadAs.connective (op : Connective) (h : IsReadAs ks c) (h' : IsReadAs ls d) :
    IsReadAs ((.opening :: ks ++ [.closing]) ++ .connective op :: (.opening :: ls ++ [.closing]))
      (.connective op c d) := by
  cases op with
  | and =>
    refine ⟨{ conjunction := some c, last := some d }, rfl, fun outer rest => ?_⟩
    rw [List.append_assoc, h.enclosed, List.cons_append]
    show readTokens outer { last := some c } (.connective .and :: _) = _
    rw [readTokens]
    exact h'.enclosed outer { conjunction := some c } rest
  | or =>
    refine ⟨{ disjunction := some c, last := some d }, rfl, fun outer rest => ?_⟩
    rw [List.append_assoc, h.enclosed, List.cons_append]
    show readTokens outer { last := some c } (.connective .or :: _) = _
    rw [readTokens]
    exact h'.enclosed outer { disjunction := some c } rest

/-- A whole text of such tokens is read as the condition. -/
theorem read?_of_isReadAs {t : Text} (ht : tokens? t = some ks) (h : IsReadAs ks c) :
    read? t = some c := by
  obtain ⟨f, hwhole, hread⟩ := h
  have hks := hread [] []
  rw [List.append_nil] at hks
  rw [read?, ht, Option.bind_some, hks, readTokens, hwhole]

/-- Blanks have no tokens. -/
theorem tokens?_of_isBlank {t : Text} (h : Text.isBlank t = true) : tokens? t = some [] := by
  have hnone : (t.splitBy together).filter (fun word => !Text.isBlank word) = [] := by
    refine List.filter_eq_nil_iff.2 fun word hword => ?_
    have hsub : ∀ c ∈ word, c ∈ t := by
      intro c hc
      rw [← List.flatten_splitBy together t]
      exact List.mem_flatten_of_mem hword hc
    have hall : Text.isBlank word = true :=
      List.all_eq_true.2 fun c hc => List.all_eq_true.1 h c (hsub c hc)
    simp [hall]
  rw [tokens?, hnone]
  rfl

end Sql

namespace Dialect

variable {schema : RecordType}

/-- What a text in the SQL-92 dialect says: it is the text of the predicate, not in brackets, and it is
read as a condition. -/
def Says (p : Predicate) (text : Text) (c : Sql.Condition) : Prop :=
  (∀ inside, sql92.visit inside false p = .ok text) ∧
    ∃ ks, Sql.tokens? text = some ks ∧ ks ≠ [] ∧ Sql.IsReadAs ks c

/-- A text that says a condition is not blank. -/
theorem Says.isBlank {p : Predicate} {text : Text} {c : Sql.Condition} (h : Says p text c) :
    Text.isBlank text = false := by
  obtain ⟨-, ks, htokens, hne, -⟩ := h
  refine Bool.eq_false_iff.2 fun hblank => hne ?_
  rw [Sql.tokens?_of_isBlank hblank] at htokens
  exact (Option.some.inj htokens).symm

/-- A comparison of comparands has a text that says it. -/
theorem exists_says_comparison (op : Comparison) {p q : Predicate} (type : ValueType)
    (hp : IsComparand schema p) (hq : IsComparand schema q) :
    ∃ text, Says (.binary (.comparison op) p q type) text (.comparison op p.sqlOperand q.sqlOperand) := by
  obtain ⟨a, ha, hatokens⟩ := hp.visit
  obtain ⟨b, hb, hbtokens⟩ := hq.visit
  refine ⟨_, visit_compared hp ha hq hb, _, Sql.tokens?_compared hatokens hbtokens, ?_,
    Sql.isReadAs_comparison op _ _⟩
  simp

/-- A negation says the negated condition. -/
theorem Says.not {p : Predicate} {text : Text} {c : Sql.Condition} (h : Says p text c) :
    Says (.not p) ("NOT (".toList ++ text ++ [')']) (.not c) := by
  obtain ⟨hvisit, ks, htokens, -, hread⟩ := h
  refine ⟨fun inside => ?_, _, Sql.tokens?_negated htokens, by simp, hread.not⟩
  rw [visit, hvisit]
  rfl

/-- A connective says the connected conditions, where neither side is a literal. -/
theorem Says.connective {op : Connective} {p q : Predicate} {type : ValueType} {a b : Text}
    {c d : Sql.Condition} (hp : Says p a c) (hq : Says q b d) (hpliteral : p.booleanLiteral? = none)
    (hqliteral : q.booleanLiteral? = none) :
    Says (.binary (.connective op) p q type)
      ('(' :: a ++ ") ".toList ++ sql92.connective op ++ " (".toList ++ b ++ [')'])
      (.connective op c d) := by
  have hablank := hp.isBlank
  have hbblank := hq.isBlank
  obtain ⟨hvisita, ks, hatokens, -, hreada⟩ := hp
  obtain ⟨hvisitb, ls, hbtokens, -, hreadb⟩ := hq
  refine ⟨fun inside => ?_, _, Sql.tokens?_connected hatokens hbtokens, by simp, hreada.connective op hreadb⟩
  rw [visit, hvisita, hvisitb]
  simp [connected, hpliteral, hqliteral, hablank, hbblank, wrap, Except.bind, Except.map]

theorem booleanLiteral?_of_comparesColumns {p : Predicate} (h : p.ComparesColumns schema) :
    p.booleanLiteral? = none := by
  cases h <;> rfl

/-- Every predicate over columns has a text that says its condition. -/
theorem exists_says {p : Predicate} (h : p.ComparesColumns schema) :
    ∃ text, Says p text p.sqlCondition := by
  induction h with
  | columnLeft hp hq => exact exists_says_comparison _ _ (isComparand_column hp) (isComparand_literal hq)
  | columnRight hp hq => exact exists_says_comparison _ _ (isComparand_literal hp) (isComparand_column hq)
  | not _ ih =>
    obtain ⟨text, hsays⟩ := ih
    exact ⟨_, hsays.not⟩
  | connective hp hq ihp ihq =>
    obtain ⟨a, ha⟩ := ihp
    obtain ⟨b, hb⟩ := ihq
    exact ⟨_, ha.connective hb (booleanLiteral?_of_comparesColumns hp)
      (booleanLiteral?_of_comparesColumns hq)⟩

/-- A predicate over columns is rendered as it is visited. -/
theorem render_eq_visit {p : Predicate} (h : p.ComparesColumns schema) :
    sql92.render p = sql92.visit false false p := by
  cases h <;> rfl

/-! ## Values -/

/-- What a comparison of a predicate gives, its condition gives unless null is compared. -/
theorem exists_value_comparison (op : Comparison) {p q : Predicate} (type : ValueType)
    (hp : IsComparand schema p) (hq : IsComparand schema q) {record : FieldReader}
    (hrecord : schema.Admits record) (flagsMatch : FlagsMatch) :
    ∃ b, Evaluation.value flagsMatch record (.binary (.comparison op) p q type) = .ok (.boolean b) ∧
      ∀ known, (Sql.Condition.comparison op p.sqlOperand q.sqlOperand).truth (Sql.rowOf record)
        = some known → known = b := by
  obtain ⟨v, hv, hvi, hvrow⟩ := hp.valued record hrecord flagsMatch
  obtain ⟨w, hw, hwi, hwrow⟩ := hq.valued record hrecord flagsMatch
  obtain ⟨result, hresult, horder⟩ := Evaluation.comparison_integral flagsMatch op hvi hwi
  refine ⟨result, ?_, fun known hknown => ?_⟩
  · rw [Evaluation.value, hv, hw]
    simp only [hp.noFlags, hresult]
    rfl
  · rw [Sql.Condition.truth, hvrow, hwrow] at hknown
    -- with a null on either side the condition is unknown, which leaves two integers
    cases hx : v.int64? with
    | none =>
      rw [hx] at hknown
      cases hknown
    | some x =>
      cases hy : w.int64? with
      | none =>
        rw [hx, hy] at hknown
        cases hknown
      | some y =>
        rw [hx, hy] at hknown
        rw [horder x y hx hy]
        exact (Option.some.inj hknown).symm

/-- The connectives of the two sides agree where the condition is known. -/
theorem exists_value_connective (op : Connective) {p q : Predicate} {type : ValueType}
    {flagsMatch : FlagsMatch} {record : FieldReader} {a b : Bool} {c d : Sql.Condition} {row : Sql.Row}
    (ha : Evaluation.value flagsMatch record p = .ok (.boolean a))
    (hb : Evaluation.value flagsMatch record q = .ok (.boolean b))
    (haknown : ∀ known, c.truth row = some known → known = a)
    (hbknown : ∀ known, d.truth row = some known → known = b) :
    ∃ result, Evaluation.value flagsMatch record (.binary (.connective op) p q type)
        = .ok (.boolean result) ∧
      ∀ known, (Sql.Condition.connective op c d).truth row = some known → known = result := by
  -- an unknown side is absorbed where the other decides, and that decides both connectives alike
  have hleft : c.truth row = none ∨ c.truth row = some a := by
    cases hc : c.truth row with
    | none => exact .inl rfl
    | some known => exact .inr (by rw [haknown known hc])
  have hright : d.truth row = none ∨ d.truth row = some b := by
    cases hd : d.truth row with
    | none => exact .inl rfl
    | some known => exact .inr (by rw [hbknown known hd])
  cases op with
  | and =>
    refine ⟨a && b, ?_, ?_⟩
    · rw [Evaluation.value, ha, hb]
      cases a <;> cases b <;> rfl
    · rw [Sql.Condition.truth]
      rcases hleft with hleft | hleft <;> rcases hright with hright | hright <;> rw [hleft, hright] <;>
        cases a <;> cases b <;> simp [Sql.Truth.and]
  | or =>
    refine ⟨a || b, ?_, ?_⟩
    · rw [Evaluation.value, ha, hb]
      cases a <;> cases b <;> rfl
    · rw [Sql.Condition.truth]
      rcases hleft with hleft | hleft <;> rcases hright with hright | hright <;> rw [hleft, hright] <;>
        cases a <;> cases b <;> simp [Sql.Truth.or]

/-- A predicate over columns has a truth value on every record, and its condition has no other one. -/
theorem exists_value {p : Predicate} (h : p.ComparesColumns schema) {record : FieldReader}
    (hrecord : schema.Admits record) (flagsMatch : FlagsMatch) :
    ∃ b, Evaluation.value flagsMatch record p = .ok (.boolean b) ∧
      ∀ known, p.sqlCondition.truth (Sql.rowOf record) = some known → known = b := by
  induction h with
  | columnLeft hp hq =>
    exact exists_value_comparison _ _ (isComparand_column hp) (isComparand_literal hq) hrecord flagsMatch
  | columnRight hp hq =>
    exact exists_value_comparison _ _ (isComparand_literal hp) (isComparand_column hq) hrecord flagsMatch
  | not hp ih =>
    obtain ⟨b, hb, hknown⟩ := ih
    refine ⟨!b, ?_, fun known hnot => ?_⟩
    · rw [Evaluation.value, hb]
      rfl
    · obtain ⟨inner, hinner, rfl⟩ := Option.map_eq_some_iff.1 hnot
      rw [hknown inner hinner]
  | connective hp hq ihp ihq =>
    obtain ⟨a, ha, haknown⟩ := ihp
    obtain ⟨b, hb, hbknown⟩ := ihq
    exact exists_value_connective _ ha hb haknown hbknown

/-- The SQL text of a predicate that `ComparesColumns` is read back as its `sqlCondition`. A record is
selected if and only if it is accepted and the condition is not unknown on it, so the two agree where the
condition `hasValues`. -/
theorem selects_render {p : Predicate} (h : p.ComparesColumns schema) :
    ∃ text, sql92.render p = .ok text ∧ Sql.read? text = some p.sqlCondition ∧
      ∀ record, schema.Admits record → ∀ flagsMatch,
        (p.sqlCondition.selects (Sql.rowOf record) = true ↔
          (CompiledFilter.mk (some p) flagsMatch).accepts record = true ∧
            p.sqlCondition.truth (Sql.rowOf record) ≠ none) ∧
        (p.sqlCondition.hasValues (Sql.rowOf record) = true →
          p.sqlCondition.selects (Sql.rowOf record)
            = (CompiledFilter.mk (some p) flagsMatch).accepts record) := by
  obtain ⟨text, hvisit, ks, htokens, -, hread⟩ := exists_says h
  refine ⟨text, ?_, Sql.read?_of_isReadAs htokens hread, fun record hrecord flagsMatch => ?_⟩
  · rw [render_eq_visit h]
    exact hvisit false
  · obtain ⟨b, hvalue, hknown⟩ := exists_value h hrecord flagsMatch
    have haccepts : (CompiledFilter.mk (some p) flagsMatch).accepts record = b := by
      rw [Bool.eq_iff_iff, CompiledFilter.accepts_some_iff, hvalue]
      cases b <;> simp
    rw [haccepts, Sql.Condition.selects]
    constructor
    · cases htruth : p.sqlCondition.truth (Sql.rowOf record) with
      | none => simp
      | some known =>
        rw [hknown known htruth]
        simp
    · intro hvalues
      obtain ⟨known, htruth⟩ := Sql.Condition.exists_truth hvalues
      rw [htruth, hknown known htruth]
      cases b <;> rfl

/-- A record type with one nullable number. -/
def numbered : RecordType :=
  ⟨"Numbered", [("A", .nullable .int32)]⟩

/-- A comparison of the number. -/
def numberIs (op : Comparison) (value : Value) : Predicate :=
  .binary (.comparison op) (.property ⟨["A"]⟩ (.nullable .int32)) (.constant value (.nullable .int32))
    .boolean

/-- A record with the number, or with null. -/
def numberedOf (value : Value) : FieldReader :=
  fun name => if name = "A" then some value else none

/-- A negation in a disjunction: among numbers, the condition selects what the predicate accepts. -/
theorem selects_render_numbered :
    ∃ p text, p = .binary (.connective .or) (.not (numberIs .gt (.int32 1))) (numberIs .eq (.int64 5))
        .boolean ∧
      sql92.render p = .ok text ∧ Sql.read? text = some p.sqlCondition ∧
      ∀ n, p.sqlCondition.selects (Sql.rowOf (numberedOf (.int32 n)))
        = (CompiledFilter.mk (some p) .exact).accepts (numberedOf (.int32 n)) := by
  have hcolumns : ∀ op value, Value.IsIntegral value → (numberIs op value).ComparesColumns numbered :=
    fun op value hvalue => .columnLeft ⟨rfl, rfl, by decide⟩ ⟨⟨_, rfl, rfl⟩, hvalue⟩
  have hp : (Predicate.binary (.connective .or) (.not (numberIs .gt (.int32 1))) (numberIs .eq (.int64 5))
      .boolean).ComparesColumns numbered :=
    .connective (.not (hcolumns .gt _ (.int32 1))) (hcolumns .eq _ (.int64 5))
  obtain ⟨text, hrender, hread, hselects⟩ := selects_render hp
  refine ⟨_, text, rfl, hrender, hread, fun n => (hselects _ ?_ .exact).2 rfl⟩
  intro name type hname
  by_cases hA : name = "A"
  · subst hA
    cases hname
    exact ⟨.int32 n, rfl, .nullable (.int32 n)⟩
  · have hnone : numbered.field? name = none := by
      simp [numbered, RecordType.field?, FieldMap.get?, List.lookup_cons, beq_eq_false_iff_ne.2 hA]
    rw [hnone] at hname
    cases hname

/-- Where the number is null, these predicates are true and their conditions unknown. A field that is
called like a connective has no condition at all. -/
theorem selects_render_null :
    (∀ p ∈ [numberIs .eq .null, numberIs .ne (.int32 1), .not (numberIs .gt (.int32 1))],
      ∃ text, sql92.render p = .ok text ∧ Sql.read? text = some p.sqlCondition ∧
        (CompiledFilter.mk (some p) .exact).accepts (numberedOf .null) = true ∧
        p.sqlCondition.selects (Sql.rowOf (numberedOf .null)) = false) ∧
    sql92.render (numberIs .eq .null) = .ok "A = null".toList ∧
    ∃ text, sql92.render (.binary (.comparison .eq) (.property ⟨["or"]⟩ (.nullable .int32))
        (.constant (.int32 1) .int32) .boolean) = .ok text ∧ Sql.read? text = none := by
  refine ⟨?_, rfl, "or = 1".toList, ?_, by decide +kernel⟩
  · intro p hp
    simp only [List.mem_cons, List.not_mem_nil, or_false] at hp
    rcases hp with rfl | rfl | rfl
    · exact ⟨"A = null".toList, rfl, by decide +kernel, rfl, rfl⟩
    · exact ⟨"A != 1".toList, rfl, by decide +kernel, rfl, rfl⟩
    · exact ⟨"NOT (A > 1)".toList, rfl, by decide +kernel, rfl, rfl⟩
  · rfl

end Dialect

end RecordFilter
