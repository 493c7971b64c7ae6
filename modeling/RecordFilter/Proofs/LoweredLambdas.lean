import Mathlib.Data.List.Forall2
import RecordFilter.Lambda.Lowering
import RecordFilter.Proofs.Inlining
import RecordFilter.Proofs.Navigation
import RecordFilter.Proofs.Outcomes

/-!
# What lambdas stand for

What an expression stands for is found along the expression: every node is made of what its operands stand
for. A statement on expressions and on what they stand for, which each kind of node passes on from its
operands, holds of all expressions that stand for something (`Lowering.Invariant.meaning`). So no such
expression binds a name or has an invocation, and every property is below the record. If the parameter is
replaced by a path to a nested record, what an expression stands for is moved to that record.

Main statements: `Lowering.Invariant.meaning` and `Lowering.meaning_moved`.
-/

namespace RecordFilter
namespace Lowering

/-! ## Induction over what is lowered -/

section

variable (schema : RecordType) (root : Option String) (holds : Expression → Meaning → Prop)

/-- An operand and its predicate, for whose meaning a statement holds. -/
def IsOperand (e : Expression) (p : Predicate) : Prop :=
  ∃ m, holds e m ∧ m.finish schema root = .ok p

/-- A statement on expressions and their meanings that each kind of expression passes on. -/
structure Invariant : Prop where
  constant (value : Value) : holds (.constant value) (.constant value)
  parameter {name : String} (h : root = some name) : holds (.parameter name) (.record [])
  member {target : Expression} {m m' : Meaning} {name : String} (htarget : holds target m)
    (h : m.member name = .ok m') : holds (.member target name) m'
  binary {op : BinaryOperator} {left right : Expression} {p q r : Predicate}
    (hleft : IsOperand schema root holds left p) (hright : IsOperand schema root holds right q)
    (h : Predicate.combine op p q = .ok r) : holds (.binary op left right) (.predicate r)
  not {operand : Expression} {p r : Predicate} (hoperand : IsOperand schema root holds operand p)
    (h : Predicate.negate p = .ok r) : holds (.not operand) (.predicate r)
  negate {operand : Expression} {p r : Predicate} (hoperand : IsOperand schema root holds operand p)
    (h : negated p = .ok r) : holds (.negate operand) (.predicate r)
  convert {operand : Expression} {type : ValueType} {p r : Predicate}
    (hoperand : IsOperand schema root holds operand p) (h : converted p type = .ok r) :
    holds (.convert operand type) (.predicate r)
  methodCall {target : Expression} {method : String} {arguments : List Expression}
    {function : Function} {p r : Predicate} {ps : List Predicate}
    (hmethod : methods.lookup method = some function)
    (htarget : IsOperand schema root holds target p)
    (harguments : List.Forall₂ (IsOperand schema root holds) arguments ps)
    (h : applied function (if function = .substringOf then ps ++ [p] else p :: ps) = .ok r) :
    holds (.methodCall target method arguments) (.predicate r)
  staticCall {method : String} {arguments : List Expression} {function : Function} {r : Predicate}
    {ps : List Predicate} (hmethod : Function.ofName? method.toList = some function)
    (harguments : List.Forall₂ (IsOperand schema root holds) arguments ps)
    (h : applied function ps = .ok r) : holds (.staticCall method arguments) (.predicate r)

end

section

variable {schema : RecordType} {root : Option String} {holds : Expression → Meaning → Prop}

mutual

/-- A statement that each kind of expression passes on holds of every expression that has a meaning. -/
theorem Invariant.meaning (invariant : Invariant schema root holds) : ∀ {e : Expression} {m : Meaning},
    Lowering.meaning schema root e = .ok m → holds e m
  | .constant value, m, h => by
    cases h
    exact invariant.constant value
  | .parameter name, m, h => by
    rw [Lowering.meaning] at h
    split at h
    · cases h
      exact invariant.parameter ‹_›
    · cases h
  | .member target name, m, h => by
    rw [Lowering.meaning] at h
    obtain ⟨inner, hinner, hm⟩ := Except.bind_eq_ok_iff.1 h
    exact invariant.member (invariant.meaning hinner) hm
  | .binary op left right, m, h => by
    simp only [Lowering.meaning, Except.bind_eq_ok_iff, Except.map_eq_ok_iff, Except.mapError_eq_ok_iff] at h
    obtain ⟨l, hl, p, hp, r, hr, q, hq, result, hresult, rfl⟩ := h
    exact invariant.binary ⟨l, invariant.meaning hl, hp⟩ ⟨r, invariant.meaning hr, hq⟩ hresult
  | .not operand, m, h => by
    simp only [Lowering.meaning, Except.bind_eq_ok_iff, Except.map_eq_ok_iff, Except.mapError_eq_ok_iff] at h
    obtain ⟨inner, hinner, p, hp, result, hresult, rfl⟩ := h
    exact invariant.not ⟨inner, invariant.meaning hinner, hp⟩ hresult
  | .negate operand, m, h => by
    simp only [Lowering.meaning, Except.bind_eq_ok_iff, Except.map_eq_ok_iff] at h
    obtain ⟨inner, hinner, p, hp, result, hresult, rfl⟩ := h
    exact invariant.negate ⟨inner, invariant.meaning hinner, hp⟩ hresult
  | .convert operand type, m, h => by
    simp only [Lowering.meaning, Except.bind_eq_ok_iff, Except.map_eq_ok_iff] at h
    obtain ⟨inner, hinner, p, hp, result, hresult, rfl⟩ := h
    exact invariant.convert ⟨inner, invariant.meaning hinner, hp⟩ hresult
  | .methodCall target method arguments, m, h => by
    rw [Lowering.meaning] at h
    split at h
    · cases h
    · rename_i function hmethod
      simp only [Except.bind_eq_ok_iff, Except.map_eq_ok_iff] at h
      obtain ⟨inner, hinner, p, hp, ps, hps, result, hresult, rfl⟩ := h
      exact invariant.methodCall hmethod ⟨inner, invariant.meaning hinner, hp⟩
        (invariant.operands hps) hresult
  | .staticCall method arguments, m, h => by
    rw [Lowering.meaning] at h
    split at h
    · cases h
    · rename_i function hmethod
      simp only [Except.bind_eq_ok_iff, Except.map_eq_ok_iff] at h
      obtain ⟨ps, hps, result, hresult, rfl⟩ := h
      exact invariant.staticCall hmethod (invariant.operands hps) hresult
  -- the other expressions have no meaning
  | .conditional .., m, h | .new .., m, h | .listInit .., m, h | .typeIs .., m, h
  | .lambda .., m, h | .invoke .., m, h | .quote _, m, h | .memberInit .., m, h
  | .newArray _, m, h => by simp [Lowering.meaning] at h

/-- Operands that are lowered satisfy `IsOperand`, one by one. -/
theorem Invariant.operands (invariant : Invariant schema root holds) :
    ∀ {es : List Expression} {ps : List Predicate}, Lowering.operands schema root es = .ok ps →
      List.Forall₂ (IsOperand schema root holds) es ps
  | [], ps, h => by
    cases h
    exact .nil
  | e :: rest, ps, h => by
    simp only [Lowering.operands, Except.bind_eq_ok_iff] at h
    obtain ⟨m, hm, p, hp, hrest⟩ := h
    obtain ⟨others, hothers, rfl⟩ := Except.map_eq_ok_iff.1 hrest
    exact .cons ⟨m, invariant.meaning hm, hp⟩ (invariant.operands hothers)

end

end

/-! ## Nodes -/

variable {schema : RecordType} {root : Option String}

/-- Nodes in which something can be replaced. -/
def AreFlexible (nodes : List Expression) : Prop :=
  ∀ n ∈ nodes, n.isRigid = false

/-- A node in front of flexible nodes must be flexible itself. -/
theorem areFlexible_cons {e : Expression} {nodes : List Expression} (he : e.isRigid = false)
    (hnodes : AreFlexible nodes) : AreFlexible (e :: nodes) :=
  List.forall_mem_cons.2 ⟨he, hnodes⟩

theorem areFlexible_append {nodes nodes' : List Expression} (h : AreFlexible nodes)
    (h' : AreFlexible nodes') : AreFlexible (nodes ++ nodes') :=
  List.forall_mem_append.2 ⟨h, h'⟩

/-- The nodes of operands are flexible if those of each operand are. -/
theorem areFlexible_nodesOf {es : List Expression} {ps : List Predicate}
    (h : List.Forall₂ (IsOperand schema root fun e _ => AreFlexible e.nodes) es ps) :
    AreFlexible (Expression.nodesOf es) := by
  induction h with
  | nil => exact fun n hn => nomatch hn
  | cons he _ ih =>
    obtain ⟨_, hnodes, -⟩ := he
    exact areFlexible_append hnodes ih

/-- An expression that has a meaning binds no names, invokes nothing and initializes nothing. -/
theorem invariant_areFlexible : Invariant schema root fun e _ => AreFlexible e.nodes where
  constant _ := areFlexible_cons rfl fun n hn => nomatch hn
  parameter _ := areFlexible_cons rfl fun n hn => nomatch hn
  member htarget _ := areFlexible_cons rfl htarget
  binary hleft hright _ := by
    obtain ⟨_, hleft, -⟩ := hleft
    obtain ⟨_, hright, -⟩ := hright
    exact areFlexible_cons rfl (areFlexible_append hleft hright)
  not hoperand _ := by
    obtain ⟨_, hoperand, -⟩ := hoperand
    exact areFlexible_cons rfl hoperand
  negate hoperand _ := by
    obtain ⟨_, hoperand, -⟩ := hoperand
    exact areFlexible_cons rfl hoperand
  convert hoperand _ := by
    obtain ⟨_, hoperand, -⟩ := hoperand
    exact areFlexible_cons rfl hoperand
  methodCall _ htarget harguments _ := by
    obtain ⟨_, htarget, -⟩ := htarget
    exact areFlexible_cons rfl (areFlexible_append htarget (areFlexible_nodesOf harguments))
  staticCall _ harguments _ := areFlexible_cons rfl (areFlexible_nodesOf harguments)

/-! ## Properties -/

/-- A member of a value is a call of one function. -/
theorem intrinsicMember_eq_ok {p r : Predicate} {name : String} (h : intrinsicMember p name = .ok r) :
    ∃ function, Predicate.apply function [p] = .ok r := by
  simp only [intrinsicMember] at h
  split at h
  · rename_i function hfunction
    exact ⟨function, Except.mapError_eq_ok_iff.1 h⟩
  · cases h

/-- A path of members is a field, or a member of a field. -/
theorem property_eq_ok {names : List String} {p : Predicate} (h : property schema names = .ok p) :
    (∃ type, schema.resolveSegments? names = some (⟨names⟩, type) ∧ p = .property ⟨names⟩ type) ∨
      schema.resolveSegments? names = none ∧ ∃ type last,
        schema.resolveSegments? names.dropLast = some (⟨names.dropLast⟩, type) ∧
          names.getLast? = some last ∧
          intrinsicMember (.property ⟨names.dropLast⟩ type) last = .ok p := by
  rw [property] at h
  split at h
  · rename_i path type hresolve
    cases h
    obtain ⟨-, rfl, -⟩ := RecordType.resolveSegments?_eq_some_iff.1 hresolve
    exact .inl ⟨type, hresolve, rfl⟩
  · rename_i hnone
    split at h
    · rename_i path type last hresolve hlast
      obtain ⟨-, rfl, -⟩ := RecordType.resolveSegments?_eq_some_iff.1 hresolve
      exact .inr ⟨hnone, type, last, hresolve, hlast, h⟩
    · cases h

/-- Whether everything that a meaning reads is a field. -/
def Meaning.ReadsFields : Meaning → Prop
  | record _ | constant _ => True
  | predicate p => p.ReadsFields

/-- A constant reads no field. -/
theorem readsFields_constant (value : Value) (type : ValueType) :
    (Predicate.constant value type).ReadsFields :=
  fun _ hpath => nomatch hpath

/-- A call reads the fields that its arguments read. -/
theorem readsFields_apply {function : Function} {ps : List Predicate} {r : Predicate}
    (h : Predicate.apply function ps = .ok r) (hps : ∀ p ∈ ps, p.ReadsFields) : r.ReadsFields := by
  obtain ⟨type, -, rfl⟩ := Except.map_eq_ok_iff.1 h
  intro path hpath
  obtain ⟨p, hp, hmem⟩ := Predicate.mem_pathsOf.1 hpath
  exact hps p hp path hmem

theorem readsFields_applied {function : Function} {ps : List Predicate} {r : Predicate}
    (h : applied function ps = .ok r) (hps : ∀ p ∈ ps, p.ReadsFields) : r.ReadsFields :=
  readsFields_apply (Except.mapError_eq_ok_iff.1 h) hps

/-- A member of a value reads the fields that the value reads. -/
theorem readsFields_intrinsicMember {p r : Predicate} {name : String}
    (h : intrinsicMember p name = .ok r) (hp : p.ReadsFields) : r.ReadsFields := by
  obtain ⟨function, happly⟩ := intrinsicMember_eq_ok h
  exact readsFields_apply happly (by simpa using hp)

/-- What `Lowering.property` gives reads a field of the schema. -/
theorem readsFields_property {names : List String} {p : Predicate} (h : property schema names = .ok p) :
    p.ReadsFields := by
  have hfield : ∀ {names : List String} {type : ValueType},
      schema.resolveSegments? names = some (⟨names⟩, type) →
        (Predicate.property ⟨names⟩ type).ReadsFields := by
    rintro names type hresolve path hpath
    cases List.mem_singleton.1 hpath
    exact (RecordType.resolveSegments?_eq_some_iff.1 hresolve).1
  rcases property_eq_ok h with ⟨type, hresolve, rfl⟩ | ⟨-, type, last, hresolve, -, hmember⟩
  · exact hfield hresolve
  · exact readsFields_intrinsicMember hmember (hfield hresolve)

/-- `Meaning.finish` adds no fields. -/
theorem Meaning.ReadsFields.finish {m : Meaning} {p : Predicate} (hm : m.ReadsFields)
    (h : m.finish schema root = .ok p) : p.ReadsFields := by
  cases m with
  | record names =>
    cases names with
    | nil => cases h
    | cons => exact readsFields_property h
  | constant value =>
    cases h
    exact readsFields_constant _ _
  | predicate =>
    cases h
    exact hm

theorem IsOperand.readsFields {e : Expression} {p : Predicate}
    (h : IsOperand schema root (fun _ m => m.ReadsFields) e p) : p.ReadsFields := by
  obtain ⟨m, hm, hp⟩ := h
  exact hm.finish hp

/-- Operands read fields only if each of them does. -/
theorem forall_readsFields {es : List Expression} {ps : List Predicate}
    (h : List.Forall₂ (IsOperand schema root fun _ m => m.ReadsFields) es ps) :
    ∀ p ∈ ps, p.ReadsFields := by
  induction h with
  | nil => exact fun p hp => nomatch hp
  | cons he _ ih => exact List.forall_mem_cons.2 ⟨he.readsFields, ih⟩

/-- An expression that has a meaning reads fields of the record only. -/
theorem invariant_readsFields : Invariant schema root fun _ m => m.ReadsFields where
  constant _ := trivial
  parameter _ := trivial
  member {_ m _ name} htarget h := by
    cases m with
    | record names =>
      cases h
      trivial
    | constant value =>
      rw [Meaning.member] at h
      split at h
      · cases h
        trivial
      · cases h
    | predicate p =>
      obtain ⟨r, hr, rfl⟩ := Except.map_eq_ok_iff.1 h
      exact readsFields_intrinsicMember hr htarget
  binary hleft hright h := by
    obtain ⟨type, -, rfl⟩ := Except.map_eq_ok_iff.1 h
    exact List.forall_mem_append.2 ⟨hleft.readsFields, hright.readsFields⟩
  not hoperand h := by
    rw [Predicate.negate] at h
    split at h
    · cases h
      exact hoperand.readsFields
    · cases h
  negate {_ p _} _ h := by
    cases p <;> simp only [negated, reduceCtorEq] at h
    split at h
    · cases h
      exact readsFields_constant _ _
    · cases h
  convert hoperand h := by
    rw [converted] at h
    split at h
    · cases h
      exact hoperand.readsFields
    · cases h
  methodCall {_ _ _ _ p _ ps} _ htarget harguments h := by
    refine readsFields_applied h fun q hq => ?_
    have hmem : q = p ∨ q ∈ ps := by
      split at hq
      · exact (List.mem_append.1 hq).symm.imp_left List.mem_singleton.1
      · exact List.mem_cons.1 hq
    rcases hmem with rfl | hmem
    · exact htarget.readsFields
    · exact forall_readsFields harguments q hmem
  staticCall _ harguments h := readsFields_applied h (forall_readsFields harguments)

/-! ## Nested records -/

/-- What an expression stands for, with more names in front of every path. -/
def Meaning.under (base : List String) : Meaning → Meaning
  | record names => record (base ++ names)
  | constant value => constant value
  | predicate p => predicate (p.under base)

section

variable {base : List String}

/-- Nothing changes `under` the empty path. -/
theorem under_nil (m : Meaning) : m.under [] = m := by
  cases m with
  | record | constant => rfl
  | predicate p => rw [Meaning.under, Predicate.under_nil]

/-- `Predicate.combine` does not look at paths, so it goes `under` a path with its operands. -/
theorem combine_under {op : BinaryOperator} {p q r : Predicate} (h : Predicate.combine op p q = .ok r) :
    Predicate.combine op (p.under base) (q.under base) = .ok (r.under base) := by
  obtain ⟨type, htype, rfl⟩ := Except.map_eq_ok_iff.1 h
  rw [Predicate.combine, Predicate.type_under, Predicate.type_under, htype]
  rfl

/-- `Predicate.negate` goes `under` a path with its operand. -/
theorem negate_under {p r : Predicate} (h : Predicate.negate p = .ok r) :
    Predicate.negate (p.under base) = .ok (r.under base) := by
  rw [Predicate.negate] at h ⊢
  rw [Predicate.type_under]
  split at h
  · cases h
    rw [if_pos ‹_›, Predicate.under]
  · cases h

/-- `Predicate.apply` goes `under` a path with its arguments. -/
theorem apply_under {function : Function} {ps : List Predicate} {r : Predicate}
    (h : Predicate.apply function ps = .ok r) :
    Predicate.apply function (Predicate.underAll base ps) = .ok (r.under base) := by
  obtain ⟨type, htype, rfl⟩ := Except.map_eq_ok_iff.1 h
  have htypes : (Predicate.underAll base ps).map Predicate.type = ps.map Predicate.type := by
    rw [Predicate.underAll_eq_map, List.map_map]
    exact List.map_congr_left fun p _ => Predicate.type_under base p
  rw [Predicate.apply, htypes, htype]
  rfl

theorem applied_under {function : Function} {ps : List Predicate} {r : Predicate}
    (h : applied function ps = .ok r) :
    applied function (Predicate.underAll base ps) = .ok (r.under base) :=
  Except.mapError_eq_ok_iff.2 (apply_under (Except.mapError_eq_ok_iff.1 h))

/-- A member of a value goes `under` a path with the value. -/
theorem intrinsicMember_under {p r : Predicate} {name : String} (h : intrinsicMember p name = .ok r) :
    intrinsicMember (p.under base) name = .ok (r.under base) := by
  simp only [intrinsicMember, Predicate.type_under] at h ⊢
  split at h
  · rename_i function hfunction
    exact applied_under h
  · cases h

/-- Only a constant has a negative, and it reads nothing. -/
theorem negated_under {p r : Predicate} (h : negated p = .ok r) :
    negated (p.under base) = .ok (r.under base) := by
  cases p with
  | constant value type =>
    rw [Predicate.under]
    rw [negated] at h ⊢
    split at h
    · cases h
      simp [Predicate.under, *]
    · cases h
  | _ => cases h

/-- A conversion goes `under` a path with what it converts. -/
theorem converted_under {p r : Predicate} {type : ValueType} (h : converted p type = .ok r) :
    converted (p.under base) type = .ok (r.under base) := by
  rw [converted] at h ⊢
  rw [Predicate.type_under]
  split at h
  · cases h
    rw [if_pos ‹_›]
  · cases h

/-- A member that is found is found `under` a path as well. -/
theorem member_under {m m' : Meaning} {name : String} (h : m.member name = .ok m') :
    (m.under base).member name = .ok (m'.under base) := by
  cases m with
  | record names =>
    cases h
    rw [Meaning.under, Meaning.under, Meaning.member, List.append_assoc]
  | constant value =>
    rw [Meaning.under]
    rw [Meaning.member] at h ⊢
    split at h
    · cases h
      simp [Meaning.under, *]
    · cases h
  | predicate p =>
    obtain ⟨r, hr, rfl⟩ := Except.map_eq_ok_iff.1 h
    rw [Meaning.under, Meaning.member, intrinsicMember_under hr]
    rfl

/-- Whether the properties of a record type are found behind a path in another one. -/
def IsFoundUnder (schema : RecordType) (base : List String) (nested : RecordType) : Prop :=
  ∀ ⦃names p⦄, property nested names = .ok p → property schema (base ++ names) = .ok (p.under base)

/-- Every schema is found in itself. -/
theorem isFoundUnder_nil : IsFoundUnder schema [] schema := fun _ p h => by
  rwa [Predicate.under_nil p]

/-- A property of a nested record is one of the records around it. -/
theorem isFoundUnder_of_leadsTo {nested : RecordType} (hbase : schema.LeadsTo base nested) :
    IsFoundUnder schema base nested := by
  have hresolve : ∀ {names type}, nested.resolveSegments? names = some (⟨names⟩, type) →
      schema.resolveSegments? (base ++ names) = some (⟨base ++ names⟩, type) := fun {names type} h => by
    have hne := (RecordType.resolveSegments?_eq_some_iff.1 h).1
    rw [RecordType.resolveSegments?_append hbase hne, h]
    rfl
  intro names p h
  rcases property_eq_ok h with ⟨type, hfield, rfl⟩ | ⟨hnone, type, last, hfield, hlast, hmember⟩
  · rw [property, hresolve hfield]
    rfl
  · -- the last name is a member of the property before it, and no field of the nested record
    have hne : names ≠ [] := by
      rintro rfl
      cases hlast
    have hend : schema.resolveSegments? (base ++ names) = none := by
      rw [RecordType.resolveSegments?_append hbase hne, hnone]
      rfl
    rw [property, hend, List.dropLast_append_of_ne_nil hne, hresolve hfield,
      List.getLast?_append_of_ne_nil _ hne, hlast]
    exact intrinsicMember_under hmember

end

section

variable {nested : RecordType} {base : List String} {root' : Option String} {name : String}
  {replacement : Expression}

/-- The record itself is no predicate. What is one stays one, moved to the end of the path. -/
theorem finish_under (hbase : IsFoundUnder schema base nested) {m : Meaning} {p : Predicate}
    (h : m.finish nested root = .ok p) : (m.under base).finish schema root' = .ok (p.under base) := by
  cases m with
  | record names =>
    obtain ⟨first, rest, rfl⟩ : ∃ first rest, names = first :: rest := by
      cases names with
      | nil => cases h
      | cons first rest => exact ⟨first, rest, rfl⟩
    have hproperty : property nested (first :: rest) = .ok p := h
    have hmoved := hbase hproperty
    rw [Meaning.under]
    cases base with
    | nil => exact hmoved
    | cons => exact hmoved
  | constant value =>
    cases h
    rfl
  | predicate =>
    cases h
    rfl

/-- Whether an expression stands for the same behind a path, once the path is put in place of its
parameter. -/
def IsMoved (schema : RecordType) (root : Option String) (base : List String) (name : String)
    (replacement e : Expression) (m : Meaning) : Prop :=
  meaning schema root (Expression.substitute name replacement e) = .ok (m.under base)

/-- After the substitution an operand has the predicate that it had before, `under` the path. -/
theorem IsOperand.moved (hbase : IsFoundUnder schema base nested) {e : Expression} {p : Predicate}
    (h : IsOperand nested root (IsMoved schema root' base name replacement) e p) :
    ∃ m, meaning schema root' (Expression.substitute name replacement e) = .ok m ∧
      m.finish schema root' = .ok (p.under base) := by
  obtain ⟨m, hm, hp⟩ := h
  exact ⟨_, hm, finish_under hbase hp⟩

/-- All operands have the predicates that they had before, `under` the path. -/
theorem operands_moved (hbase : IsFoundUnder schema base nested) {es : List Expression}
    {ps : List Predicate}
    (h : List.Forall₂ (IsOperand nested root (IsMoved schema root' base name replacement)) es ps) :
    operands schema root' (Expression.substituteAll name replacement es)
      = .ok (Predicate.underAll base ps) := by
  induction h with
  | nil => rfl
  | cons he _ ih =>
    obtain ⟨m, hm, hp⟩ := he.moved hbase
    simp only [Expression.substituteAll, operands, Except.bind_eq_ok_iff]
    refine ⟨m, hm, _, hp, ?_⟩
    rw [ih]
    rfl

/-- The path in place of the parameter moves whatever an expression stands for. -/
theorem invariant_isMoved (hbase : IsFoundUnder schema base nested)
    (hreplacement : meaning schema root' replacement = .ok (.record base)) :
    Invariant nested (some name) (IsMoved schema root' base name replacement) where
  constant _ := rfl
  parameter h := by
    cases h
    rw [IsMoved, Expression.substitute, if_pos rfl, hreplacement, Meaning.under, List.append_nil]
  member htarget h := by
    rw [IsMoved, Expression.substitute, meaning, htarget]
    exact member_under h
  binary hleft hright h := by
    obtain ⟨l, hl, hp⟩ := hleft.moved hbase
    obtain ⟨r, hr, hq⟩ := hright.moved hbase
    simp only [IsMoved, Expression.substitute, meaning, Except.bind_eq_ok_iff]
    refine ⟨l, hl, _, hp, r, hr, _, hq, ?_⟩
    rw [combine_under h]
    rfl
  not hoperand h := by
    obtain ⟨m, hm, hp⟩ := hoperand.moved hbase
    simp only [IsMoved, Expression.substitute, meaning, Except.bind_eq_ok_iff]
    refine ⟨m, hm, _, hp, ?_⟩
    rw [negate_under h]
    rfl
  negate hoperand h := by
    obtain ⟨m, hm, hp⟩ := hoperand.moved hbase
    simp only [IsMoved, Expression.substitute, meaning, Except.bind_eq_ok_iff]
    refine ⟨m, hm, _, hp, ?_⟩
    rw [negated_under h]
    rfl
  convert hoperand h := by
    obtain ⟨m, hm, hp⟩ := hoperand.moved hbase
    simp only [IsMoved, Expression.substitute, meaning, Except.bind_eq_ok_iff]
    refine ⟨m, hm, _, hp, ?_⟩
    rw [converted_under h]
    rfl
  methodCall {_ _ _ function p _ ps} hmethod htarget harguments h := by
    obtain ⟨m, hm, hp⟩ := htarget.moved hbase
    have hordered : (if function = .substringOf then Predicate.underAll base ps ++ [p.under base]
        else p.under base :: Predicate.underAll base ps)
          = Predicate.underAll base (if function = .substringOf then ps ++ [p] else p :: ps) := by
      split <;> simp [Predicate.underAll_eq_map]
    rw [IsMoved, Expression.substitute, meaning, hmethod]
    simp only [Except.bind_eq_ok_iff]
    refine ⟨m, hm, _, hp, _, operands_moved hbase harguments, ?_⟩
    rw [hordered, applied_under h]
    rfl
  staticCall hmethod harguments h := by
    rw [IsMoved, Expression.substitute, meaning, hmethod]
    simp only [Except.bind_eq_ok_iff]
    refine ⟨_, operands_moved hbase harguments, ?_⟩
    rw [applied_under h]
    rfl

/-- With a path in place of its parameter, an expression over a nested record stands for the same, moved to
the end of the path. -/
theorem meaning_moved (hbase : IsFoundUnder schema base nested)
    (hreplacement : meaning schema root' replacement = .ok (.record base)) {e : Expression} {m : Meaning}
    (h : meaning nested (some name) e = .ok m) :
    meaning schema root' (Expression.substitute name replacement e) = .ok (m.under base) :=
  (invariant_isMoved hbase hreplacement).meaning h

end

end Lowering
end RecordFilter
