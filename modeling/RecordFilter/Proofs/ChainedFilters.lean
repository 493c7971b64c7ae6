import Mathlib.Data.List.Forall2
import RecordFilter.Evaluation.Evaluator
import RecordFilter.Proofs.LoweredLambdas
import RecordFilter.Proofs.ParserTyping
import RecordFilter.Query.Builder

/-!
# Chained filters

A query that is narrowed by one lambda after the other asks for the conjunction of them all. Each step
renames the parameter of the new lambda to the one of the first lambda. This does not change the
predicate that the lambda stands for, so the conjunction of the lambdas stands for the conjunction of
their predicates.

Main statements: `Lowering.meaning_substitute` and `LambdaQuery.predicate_chain`.
-/

namespace RecordFilter

/-! ## Renaming a parameter -/

namespace Lowering

variable {schema : RecordType}

/-- The name of the parameter occurs in errors only. -/
theorem Meaning.finish_of_root {m : Meaning} {root root' : Option String} {p : Predicate}
    (h : m.finish schema root = .ok p) : m.finish schema root' = .ok p := by
  cases m with
  | record names =>
    cases names with
    | nil => cases h
    | cons => exact h
  | constant => exact h
  | predicate => exact h

/-- An expression stands for the same after its parameter is renamed. Expressions that bind names stand
for nothing, so that the new name is never captured. -/
theorem meaning_substitute {name other : String} {e : Expression} {m : Meaning}
    (h : meaning schema (some other) e = .ok m) :
    meaning schema (some name) (Expression.substitute other (.parameter name) e) = .ok m := by
  have hroot : meaning schema (some name) (.parameter name) = .ok (.record []) := if_pos rfl
  rw [meaning_moved isFoundUnder_nil hroot h, under_nil]

end Lowering

/-! ## Conjunctions of predicates -/

/-- The conjunction of predicates, joined from the left. -/
def Predicate.conjunction (first : Predicate) (rest : List Predicate) : Predicate :=
  rest.foldl (fun p q => .binary (.connective .and) p q .boolean) first

namespace CompiledFilter

variable {flagsMatch : FlagsMatch} {record : FieldReader}

/-- A predicate accepts a record on which its value is true: not null, and no error. -/
theorem accepts_some_iff {p : Predicate} :
    (CompiledFilter.mk (some p) flagsMatch).accepts record = true ↔
      Evaluation.value flagsMatch record p = .ok (.boolean true) := by
  simp only [accepts, tryMatches]
  cases Evaluation.value flagsMatch record p with
  | error error => simp [Except.map]
  | ok value => cases value <;> simp [Except.map, Value.boolean?]

/-- A conjunction is true if both of its sides are. A left side that is not true settles this before
the right side is looked at, and so does one that has no value. -/
theorem accepts_and {p q : Predicate} {type : ValueType} :
    (CompiledFilter.mk (some (.binary (.connective .and) p q type)) flagsMatch).accepts record = true ↔
      (CompiledFilter.mk (some p) flagsMatch).accepts record = true ∧
        (CompiledFilter.mk (some q) flagsMatch).accepts record = true := by
  simp only [accepts_some_iff, Evaluation.value]
  cases Evaluation.value flagsMatch record p with
  | error error => simp
  | ok left =>
    cases Evaluation.value flagsMatch record q with
    | error error =>
      -- the error counts unless the left side is false
      rcases left with _ | ⟨_ | _⟩ <;> simp [Evaluation.truth, Connective.decisive]
    | ok right =>
      rcases left with _ | ⟨_ | _⟩ <;> rcases right with _ | ⟨_ | _⟩ <;>
        simp [Evaluation.truth, Evaluation.connect, Evaluation.ofTruth, Connective.decisive, Except.map]

/-- A conjunction accepts what all of its predicates accept. -/
theorem accepts_conjunction {first : Predicate} {rest : List Predicate} :
    (CompiledFilter.mk (some (first.conjunction rest)) flagsMatch).accepts record = true ↔
      ∀ p ∈ first :: rest, (CompiledFilter.mk (some p) flagsMatch).accepts record = true := by
  induction rest generalizing first with
  | nil => simp [Predicate.conjunction]
  | cons next rest ih =>
    rw [Predicate.conjunction, List.foldl_cons, ← Predicate.conjunction, ih]
    simp only [List.forall_mem_cons, accepts_and, and_assoc]

end CompiledFilter

/-! ## Chains of lambdas -/

/-- A lambda of one parameter that stands for a boolean predicate over the records of a record type. -/
structure Lambda.StandsFor (schema : RecordType) (lambda : Lambda) (p : Predicate) : Prop where
  parameter : ∃ name, lambda.parameters = [name]
  predicate : lambda.toPredicate schema = .ok p
  isBoolean : p.type.isBoolean = true

namespace Lambda

variable {schema : RecordType}

/-- The conjunction of two lambdas stands for the conjunction of their predicates. -/
theorem StandsFor.conjunction {first second : Lambda} {p q : Predicate} (hp : StandsFor schema first p)
    (hq : StandsFor schema second q) :
    ∃ both, first.conjunction second = .ok both ∧
      StandsFor schema both (.binary (.connective .and) p q .boolean) := by
  obtain ⟨⟨name, hname⟩, hp, hpboolean⟩ := hp
  obtain ⟨⟨other, hother⟩, hq, hqboolean⟩ := hq
  refine ⟨⟨[name], .binary (.connective .and) first.body
    (Expression.substitute other (.parameter name) second.body)⟩, ?_, ⟨name, rfl⟩, ?_, rfl⟩
  · rw [Lambda.conjunction, Lambda.parameter, hname, Lambda.parameter, hother]
    rfl
  · rw [toPredicate, hname] at hp
    rw [toPredicate, hother] at hq
    obtain ⟨m, hm, hmp⟩ := Except.bind_eq_ok_iff.1 hp
    obtain ⟨m', hm', hmq⟩ := Except.bind_eq_ok_iff.1 hq
    have htype : Predicate.operatorType (.connective .and) p.type q.type = .ok .boolean := by
      rw [Predicate.operatorType, if_pos (by rw [hpboolean, hqboolean]; rfl)]
    have hcombine : Predicate.combine (.connective .and) p q
        = .ok (.binary (.connective .and) p q .boolean) := by
      rw [Predicate.combine, htype]
      rfl
    simp only [toPredicate, List.head?_cons, Lowering.meaning]
    refine Except.bind_eq_ok_iff.2 ⟨.predicate (.binary (.connective .and) p q .boolean), ?_, rfl⟩
    simp only [Except.bind_eq_ok_iff]
    refine ⟨m, hm, p, hmp, m', Lowering.meaning_substitute hm', q,
      Lowering.Meaning.finish_of_root hmq, ?_⟩
    rw [hcombine]
    rfl

end Lambda

namespace LambdaQuery

/-- One more lambda is one more predicate in the conjunction. -/
theorem filter_standsFor {query : LambdaQuery} {existing lambda : Lambda} {p q : Predicate}
    (hexisting : query.lambda = some existing) (hp : existing.StandsFor query.schema p)
    (hq : lambda.StandsFor query.schema q) :
    ∃ both, query.filter lambda = .ok { query with lambda := some both } ∧
      both.StandsFor query.schema (.binary (.connective .and) p q .boolean) := by
  obtain ⟨both, hboth, hstands⟩ := hp.conjunction hq
  refine ⟨both, ?_, hstands⟩
  rw [filter, hexisting]
  simp only [hboth]
  rfl

/-- Any number of lambdas more are as many predicates more in the conjunction. -/
theorem foldlM_filter (query : LambdaQuery) {existing : Lambda} {p : Predicate}
    (hexisting : query.lambda = some existing) (hp : existing.StandsFor query.schema p)
    {lambdas : List Lambda} {predicates : List Predicate}
    (h : List.Forall₂ (Lambda.StandsFor query.schema) lambdas predicates) :
    ∃ whole, lambdas.foldlM filter query = .ok { query with lambda := some whole } ∧
      whole.StandsFor query.schema (p.conjunction predicates) := by
  induction lambdas generalizing query existing p predicates with
  | nil =>
    cases h
    refine ⟨existing, ?_, hp⟩
    rw [List.foldlM_nil, ← hexisting]
    rfl
  | cons lambda lambdas ih =>
    cases h with
    | cons hq hrest =>
      obtain ⟨both, hboth, hstands⟩ := filter_standsFor hexisting hp hq
      obtain ⟨whole, hwhole, hconjunction⟩ :=
        ih { query with lambda := some both } rfl hstands hrest
      refine ⟨whole, ?_, hconjunction⟩
      rw [List.foldlM_cons, hboth]
      exact hwhole

/-- Narrowing a query by lambdas that each `StandsFor` a predicate, whatever their parameters are called,
gives the left-nested `conjunction` of these. It accepts a record if and only if each of them does. -/
theorem predicate_chain (query : LambdaQuery) (hquery : query.lambda = none)
    {first : Lambda} {p : Predicate} (hfirst : first.StandsFor query.schema p)
    {rest : List Lambda} {predicates : List Predicate}
    (hrest : List.Forall₂ (Lambda.StandsFor query.schema) rest predicates) :
    ∃ narrowed, (first :: rest).foldlM filter query = .ok narrowed ∧
      narrowed.predicate = .ok (some (p.conjunction predicates)) ∧
      ∀ flagsMatch record,
        (CompiledFilter.mk (some (p.conjunction predicates)) flagsMatch).accepts record = true ↔
          ∀ q ∈ p :: predicates, (CompiledFilter.mk (some q) flagsMatch).accepts record = true := by
  have hstart : query.filter first = .ok { query with lambda := some first } := by
    obtain ⟨name, hname⟩ := hfirst.parameter
    rw [filter, hquery, Lambda.parameter, hname]
    rfl
  obtain ⟨whole, hwhole, hstands⟩ :=
    foldlM_filter { query with lambda := some first } rfl hfirst hrest
  refine ⟨{ query with lambda := some whole }, ?_, ?_, fun _ _ => CompiledFilter.accepts_conjunction⟩
  · rw [List.foldlM_cons, hstart]
    exact hwhole
  · show (whole.toPredicate query.schema).map some = _
    rw [hstands.predicate]
    rfl

/-- Three lambdas over items, the last one with the parameter of the first one. -/
theorem predicate_chain_items :
    ∃ narrowed p q r, [Lambda.mk ["x"] (.member (.parameter "x") "Flag"),
        ⟨["y"], .binary (.comparison .gt) (.member (.parameter "y") "Id") (.constant (.int32 1))⟩,
        ⟨["x"], .methodCall (.member (.parameter "x") "Name") "StartsWith" [.constant (.string "a")]⟩].foldlM
        filter ⟨FilterParser.items.schema, none, 0, 0⟩ = .ok narrowed ∧
      narrowed.predicate = .ok (some (.binary (.connective .and)
        (.binary (.connective .and) p q .boolean) r .boolean)) ∧
      p = .property ⟨["Flag"]⟩ .boolean ∧
      q = .binary (.comparison .gt) (.property ⟨["Id"]⟩ .int32) (.constant (.int32 1) .int32) .boolean ∧
      r = .call .startsWith [.property ⟨["Name"]⟩ .string, .constant (.string "a") .string] .boolean := by
  let schema := FilterParser.items.schema
  have hflag : Lambda.StandsFor schema ⟨["x"], .member (.parameter "x") "Flag"⟩
      (.property ⟨["Flag"]⟩ .boolean) := ⟨⟨"x", rfl⟩, rfl, rfl⟩
  have hid : Lambda.StandsFor schema
      ⟨["y"], .binary (.comparison .gt) (.member (.parameter "y") "Id") (.constant (.int32 1))⟩
      (.binary (.comparison .gt) (.property ⟨["Id"]⟩ .int32) (.constant (.int32 1) .int32) .boolean) :=
    ⟨⟨"y", rfl⟩, rfl, rfl⟩
  have hname : Lambda.StandsFor schema
      ⟨["x"], .methodCall (.member (.parameter "x") "Name") "StartsWith" [.constant (.string "a")]⟩
      (.call .startsWith [.property ⟨["Name"]⟩ .string, .constant (.string "a") .string] .boolean) :=
    ⟨⟨"x", rfl⟩, rfl, rfl⟩
  obtain ⟨narrowed, hnarrowed, hpredicate, -⟩ :=
    predicate_chain ⟨schema, none, 0, 0⟩ rfl hflag (.cons hid (.cons hname .nil))
  exact ⟨narrowed, _, _, _, hnarrowed, hpredicate, rfl, rfl, rfl⟩

end LambdaQuery

end RecordFilter
