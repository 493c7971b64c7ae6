import RecordFilter.Lambda.Composition
import RecordFilter.Proofs.ChainedFilters
import RecordFilter.Proofs.LoweredLambdas
import RecordFilter.Proofs.Navigation

/-!
# Composition with a selector

A selector is a lambda that leads from a record to a nested record. A lambda over the nested records can
be applied to the result of a selector. Once the invocation is taken away, this is the lambda with the path
of the selector in place of its parameter. It asks of a record what the lambda asks of the object at the
end of the path.

Main statement: `Lambda.compose_selector`.
-/

namespace RecordFilter

/-! ## Filters of nested records -/

namespace CompiledFilter

open Evaluation (readProperty)

/-- A predicate that is moved to the end of a path accepts a record if and only if the predicate accepts the
object there. -/
theorem accepts_under {flagsMatch : FlagsMatch} {record : FieldReader} {base : List String}
    {fields : FieldMap Value} (h : readProperty record ⟨base⟩ = .ok (.object fields)) {p : Predicate}
    (hp : p.ReadsFields) :
    (CompiledFilter.mk (some (p.under base)) flagsMatch).accepts record = true ↔
      (CompiledFilter.mk (some p) flagsMatch).accepts (fun name => fields.get? name) = true := by
  rw [accepts_some_iff, accepts_some_iff]
  rcases Except.cases_of_toOption_eq (Evaluation.toOption_value_under h p hp) with
    ⟨a, hmoved, hown⟩ | ⟨e, e', hmoved, hown⟩ <;> rw [hmoved, hown]
  -- an error accepts nothing
  exact iff_of_false (fun h => nomatch h) (fun h => nomatch h)

end CompiledFilter

/-! ## Selectors -/

namespace Lambda

variable {schema nested : RecordType} {lambda : Lambda} {p : Predicate}

/-- A lambda that is a predicate has nothing in it that would keep a parameter from being replaced. -/
theorem areFlexible_of_toPredicate (h : lambda.toPredicate schema = .ok p) :
    Lowering.AreFlexible lambda.body.nodes := by
  obtain ⟨m, hm, -⟩ := Except.bind_eq_ok_iff.1 h
  exact Lowering.invariant_areFlexible.meaning hm

theorem readsFields_of_toPredicate (h : lambda.toPredicate schema = .ok p) : p.ReadsFields := by
  obtain ⟨m, hm, hp⟩ := Except.bind_eq_ok_iff.1 h
  exact (Lowering.invariant_readsFields.meaning hm).finish hp

/-- The lambda from a record to the value at the end of a path. -/
def selector (name : String) (path : List String) : Lambda :=
  ⟨[name], path.foldl .member (.parameter name)⟩

theorem meaning_foldl_member {root : Option String} {target : Expression} {names : List String}
    (h : Lowering.meaning schema root target = .ok (.record names)) (path : List String) :
    Lowering.meaning schema root (path.foldl .member target) = .ok (.record (names ++ path)) := by
  induction path generalizing target names with
  | nil => rw [List.foldl_nil, List.append_nil, h]
  | cons name path ih =>
    have hmember : Lowering.meaning schema root (.member target name) = .ok (.record (names ++ [name])) := by
      rw [Lowering.meaning, h]
      rfl
    rw [List.foldl_cons, ih hmember, List.append_assoc, List.singleton_append]

/-- What a selector selects is the end of its path. -/
theorem meaning_selector (name : String) (path : List String) :
    Lowering.meaning schema (some name) (selector name path).body = .ok (.record path) := by
  have hroot : Lowering.meaning schema (some name) (.parameter name) = .ok (.record []) := if_pos rfl
  exact meaning_foldl_member hroot path

/-- A lambda over a nested record composes with a `selector` of it, and the predicate is the lambda's own one
`under` the path. It accepts a record if and only if the lambda's predicate accepts the object at the end of
the path. -/
theorem compose_selector {path : List String} (hpath : schema.LeadsTo path nested)
    (hparameter : ∃ other, lambda.parameters = [other]) (hlambda : lambda.toPredicate nested = .ok p)
    (name : String) :
    ∃ composed, (selector name path).compose lambda true = .ok composed ∧
      composed.toPredicate schema = .ok (p.under path) ∧
      ∀ flagsMatch record (fields : FieldMap Value),
        Evaluation.readProperty record ⟨path⟩ = .ok (.object fields) →
          ((CompiledFilter.mk (some (p.under path)) flagsMatch).accepts record = true ↔
          (CompiledFilter.mk (some p) flagsMatch).accepts (fun field => fields.get? field) = true) := by
  obtain ⟨other, hother⟩ := hparameter
  refine ⟨⟨[name], Expression.substitute other (selector name path).body lambda.body⟩, ?_, ?_,
    fun _ _ _ hobject => CompiledFilter.accepts_under hobject (readsFields_of_toPredicate hlambda)⟩
  · have hinlined := Expression.inlineInvocation_single (areFlexible_of_toPredicate hlambda) other
      (selector name path).body
    simp only [compose, hother, if_true, hinlined]
    rfl
  · have hfound := Lowering.isFoundUnder_of_leadsTo hpath
    rw [toPredicate, hother] at hlambda
    obtain ⟨m, hm, hfinish⟩ := Except.bind_eq_ok_iff.1 hlambda
    exact Except.bind_eq_ok_iff.2 ⟨m.under path,
      Lowering.meaning_moved hfound (meaning_selector name path) hm,
      Lowering.finish_under hfound hfinish⟩

/-- A selector of two names, and a lambda with the parameter of the selector that asks for the length of a
name. -/
theorem compose_selector_customer :
    let customer : RecordType := ⟨"Customer", [("Name", .string), ("Since", .dateTime)]⟩
    let orders : RecordType :=
      ⟨"Order", [("Id", .int32), ("Shipment", .record "Shipment" [("Customer", .nullable customer.toType)])]⟩
    let fields : FieldMap Value := [("Name", .string "Anna"), ("Since", .null)]
    let record : FieldReader := fun name =>
      if name = "Shipment" then some (.object [("Customer", .object fields)]) else none
    let length (path : List String) : Predicate :=
      .binary (.comparison .gt) (.call .length [.property ⟨path⟩ .string] .int32)
        (.constant (.int32 3) .int32) .boolean
    orders.LeadsTo ["Shipment", "Customer"] customer ∧
    ∃ composed, (selector "m" ["Shipment", "Customer"]).compose
        ⟨["m"], .binary (.comparison .gt) (.member (.member (.parameter "m") "Name") "Length")
          (.constant (.int32 3))⟩ true = .ok composed ∧
      composed.toPredicate orders = .ok (length ["Shipment", "Customer", "Name"]) ∧
      ((CompiledFilter.mk (some (length ["Shipment", "Customer", "Name"])) .exact).accepts record = true ↔
        (CompiledFilter.mk (some (length ["Name"])) .exact).accepts (fun field => fields.get? field)
          = true) := by
  intro customer orders fields record length
  have hpath : orders.LeadsTo ["Shipment", "Customer"] customer :=
    ⟨.nullable customer.toType, by decide, rfl⟩
  have hlength : Lambda.toPredicate ⟨["m"], .binary (.comparison .gt)
      (.member (.member (.parameter "m") "Name") "Length") (.constant (.int32 3))⟩ customer
        = .ok (length ["Name"]) := rfl
  obtain ⟨composed, hcomposed, hpredicate, haccepts⟩ := compose_selector hpath ⟨"m", rfl⟩ hlength "m"
  exact ⟨hpath, composed, hcomposed, hpredicate, haccepts .exact record fields rfl⟩

end Lambda
end RecordFilter
