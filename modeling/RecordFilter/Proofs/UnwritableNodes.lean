import Mathlib.Data.List.Basic
import RecordFilter.Dialect.OData
import RecordFilter.Dialect.Sql92
import RecordFilter.Proofs.Outcomes

/-!
# Nodes that a dialect cannot write

A predicate has a text in a dialect if and only if each of its nodes can be written by itself. This also
holds where a conjunction with `false` leaves the text empty and where `true` or an operand without text
is left out: the nodes of what is left out count as well.

Main statement: `Dialect.render_error_iff`.
-/

namespace RecordFilter

/-! ## Nodes -/

namespace Predicate

mutual

/-- The nodes of a predicate. It is one of them itself. -/
def nodes : Predicate → List Predicate
  | .property path type => [.property path type]
  | .constant value type => [.constant value type]
  | .not operand => .not operand :: nodes operand
  | .binary op left right type => .binary op left right type :: (nodes left ++ nodes right)
  | .call function arguments type => .call function arguments type :: nodesOf arguments
  | .construct constructor arguments type => .construct constructor arguments type :: nodesOf arguments

/-- The nodes of several predicates. -/
def nodesOf : List Predicate → List Predicate
  | [] => []
  | p :: rest => nodes p ++ nodesOf rest

end

theorem mem_nodes_self (p : Predicate) : p ∈ p.nodes := by
  cases p <;> simp [nodes]

/-- Whether a call has as many arguments as its function takes. -/
def callFits : Predicate → Bool
  | .call function arguments _ => arguments.length == function.arity
  | _ => true

/-- Whether a node is of a kind that no dialect writes: a construction or a constant object. -/
def isForeign : Predicate → Bool
  | .construct .. => true
  | .constant (.object _) _ => true
  | _ => false

/-- Whether a node leads beyond the fields and functions of SQL-92: a path that is not a single name, or a
call of a function that is no string match. -/
def leavesSql : Predicate → Bool
  | .property path _ => path.segments.length != 1
  | .call function _ _ => !function.isStringMatch
  | _ => false

end Predicate

namespace Dialect

/-! ## Strict dialects -/

/-- A dialect that writes exactly the calls of certain functions, in each form that it has for them, and
the booleans. -/
structure IsStrict (d : Dialect) (writes : Function → Bool) : Prop where
  boolean : ∀ value, (d.literal (.boolean value)).isOk = true
  call : ∀ {function : Function} {arguments : List Text}, arguments.length = function.arity →
    ∀ inside, (d.call function arguments inside).isOk = writes function
  stringMatch : ∀ {function : Function} {arguments : List Text},
    arguments.length = function.arity → function.isStringMatch = true →
      ∀ {wanted : Bool} {rendered : Rendered},
        d.stringMatch? function arguments wanted = some rendered → rendered.isOk = writes function

/-- Whether a node can be written, as far as it depends on the node alone. -/
def canWrite (d : Dialect) (writes : Function → Bool) : Predicate → Bool
  | .property path _ => (d.property path).isOk
  | .constant value _ => (d.literal value).isOk
  | .call function _ _ => writes function
  | .construct .. => false
  | .not _ | .binary .. => true

variable {d : Dialect} {writes : Function → Bool}

/-- A visited list of arguments has as many texts as arguments. -/
theorem length_of_visitAll : ∀ {ps : List Predicate} {texts : List Text},
    d.visitAll ps = .ok texts → texts.length = ps.length
  | [], texts, h => by
    rw [visitAll] at h
    cases h
    rfl
  | p :: rest, texts, h => by
    rw [visitAll] at h
    obtain ⟨first, -, hrest⟩ := Except.bind_eq_ok_iff.1 h
    obtain ⟨others, hothers, rfl⟩ := Except.map_eq_ok_iff.1 hrest
    rw [List.length_cons, List.length_cons, length_of_visitAll hothers]

/-- A comparison is written if and only if both of its sides are. -/
theorem isOk_compared (bracket : Bool) (op : Comparison) (left right : Rendered) :
    (d.compared bracket op left right).isOk = (left.isOk && right.isOk) :=
  Except.isOk_bind_map ..

/-- The form for a string match that is compared with a boolean exists where the call has a text. -/
theorem isOk_matched (hd : d.IsStrict writes) {p : Predicate} {function : Function}
    (hfunction : stringMatchOf? p = some function) (hfits : p.callFits = true) {bracket : Bool}
    {op : Comparison} {literal : Bool} {left right : Rendered}
    (hsides : (left.isOk && right.isOk) = (d.visit true (!p.isAtomic) p).isOk) :
    (d.matched bracket op function literal (d.visitArguments p) left right).isOk
      = (left.isOk && right.isOk) := by
  cases p with
  | call called arguments type =>
    simp only [stringMatchOf?, Option.ite_none_right_eq_some, Option.some.injEq] at hfunction
    obtain ⟨hmatch, rfl⟩ := hfunction
    rw [visit] at hsides
    rw [visitArguments]
    cases htexts : d.visitAll arguments with
    | error error =>
      rw [htexts] at hsides
      exact hsides.symm
    | ok texts =>
      have hlength : texts.length = called.arity := by
        rw [length_of_visitAll htexts]
        exact beq_iff_eq.1 hfits
      rw [htexts] at hsides
      cases hform : d.stringMatch? called texts (literal == (op = .eq : Bool)) with
      | none => simp only [matched, hform, isOk_compared]
      | some rendered =>
        simp only [matched, hform, Except.isOk_map]
        rw [hd.stringMatch hlength hmatch hform, hsides]
        exact (hd.call hlength true).symm
  | _ => cases hfunction

/-- A boolean literal is written in every place by a strict dialect. -/
theorem isOk_visit_literal (hd : d.IsStrict writes) {p : Predicate} {literal : Bool}
    (h : p.booleanLiteral? = some literal) (inside bracket : Bool) :
    (d.visit inside bracket p).isOk = true := by
  cases p with
  | constant value type =>
    cases value with
    | boolean value =>
      rw [visit]
      exact hd.boolean value
    | _ => cases h
  | _ => cases h

/-- A comparison has a text if both of its sides have one, whichever form it takes. -/
theorem isOk_visit_comparison (hd : d.IsStrict writes) {op : Comparison} {left right : Predicate}
    {type : ValueType} (hleft : left.callFits = true) (hright : right.callFits = true)
    (inside bracket : Bool) :
    (d.visit inside bracket (.binary (.comparison op) left right type)).isOk
      = ((d.visit true (!left.isAtomic) left).isOk && (d.visit true (!right.isAtomic) right).isOk) := by
  rw [visit]
  split
  · rename_i _ hfunction hliteral
    refine isOk_matched hd hfunction hleft ?_
    rw [isOk_visit_literal hd hliteral, Bool.and_true]
  · rename_i hfunction hliteral _
    refine isOk_matched hd hfunction hright ?_
    rw [isOk_visit_literal hd hliteral, Bool.true_and]
  · exact isOk_compared ..

mutual

/-- A predicate has a text if and only if each of its nodes can be written. -/
theorem isOk_visit (hd : d.IsStrict writes) : ∀ {p : Predicate}, (∀ n ∈ p.nodes, n.callFits = true) →
    ∀ inside bracket, (d.visit inside bracket p).isOk = p.nodes.all (d.canWrite writes)
  | .property path type, _, inside, bracket => by
    rw [visit, Predicate.nodes, List.all_cons, List.all_nil, Bool.and_true, canWrite]
  | .constant value type, _, inside, bracket => by
    rw [visit, Predicate.nodes, List.all_cons, List.all_nil, Bool.and_true, canWrite]
  | .not operand, h, inside, bracket => by
    rw [Predicate.nodes, List.forall_mem_cons] at h
    rw [visit, Except.isOk_map, isOk_visit hd h.2, Predicate.nodes, List.all_cons, canWrite,
      Bool.true_and]
  | .binary (.connective op) left right type, h, inside, bracket => by
    rw [Predicate.nodes, List.forall_mem_cons, List.forall_mem_append] at h
    rw [visit, Except.isOk_bind_map, isOk_visit hd h.2.1, isOk_visit hd h.2.2, Predicate.nodes,
      List.all_cons, List.all_append, canWrite, Bool.true_and]
  | .binary (.comparison op) left right type, h, inside, bracket => by
    rw [Predicate.nodes, List.forall_mem_cons, List.forall_mem_append] at h
    have hleft := h.2.1 left left.mem_nodes_self
    have hright := h.2.2 right right.mem_nodes_self
    rw [isOk_visit_comparison hd hleft hright, isOk_visit hd h.2.1, isOk_visit hd h.2.2,
      Predicate.nodes, List.all_cons, List.all_append, canWrite, Bool.true_and]
  | .binary (.arithmetic op) left right type, h, inside, bracket => by
    rw [Predicate.nodes, List.forall_mem_cons, List.forall_mem_append] at h
    rw [visit, Except.isOk_bind_map, isOk_visit hd h.2.1, isOk_visit hd h.2.2, Predicate.nodes,
      List.all_cons, List.all_append, canWrite, Bool.true_and]
  | .call function arguments type, h, inside, bracket => by
    rw [Predicate.nodes, List.forall_mem_cons] at h
    obtain ⟨hfits, harguments⟩ := h
    have hall := isOk_visitAll hd harguments
    rw [visit, Predicate.nodes, List.all_cons, canWrite, ← hall]
    cases htexts : d.visitAll arguments with
    | error error => exact (Bool.and_false _).symm
    | ok texts =>
      have hlength : texts.length = function.arity := by
        rw [length_of_visitAll htexts]
        exact beq_iff_eq.1 hfits
      exact (hd.call hlength inside).trans (Bool.and_true _).symm
  | .construct constructor arguments type, _, inside, bracket => by
    rw [visit, Predicate.nodes, List.all_cons, canWrite, Bool.false_and]
    rfl

/-- A list of arguments is written if and only if the dialect can write every node below it. -/
theorem isOk_visitAll (hd : d.IsStrict writes) : ∀ {ps : List Predicate},
    (∀ n ∈ Predicate.nodesOf ps, n.callFits = true) →
    (d.visitAll ps).isOk = (Predicate.nodesOf ps).all (d.canWrite writes)
  | [], _ => rfl
  | p :: rest, h => by
    rw [Predicate.nodesOf, List.forall_mem_append] at h
    rw [visitAll, Except.isOk_bind_map, isOk_visit hd h.1, isOk_visitAll hd h.2, Predicate.nodesOf,
      List.all_append]

end

/-- A predicate is written if and only if the dialect can write each of its `nodes`. -/
theorem isOk_render (hd : d.IsStrict writes) {p : Predicate} (h : ∀ n ∈ p.nodes, n.callFits = true) :
    (d.render p).isOk = p.nodes.all (d.canWrite writes) := by
  rw [← isOk_visit hd h false false]
  cases p with
  | property path type =>
    rw [render, visit]
    exact Except.isOk_map ..
  | _ => rfl

/-- A predicate has no text if and only if one of its nodes cannot be written. -/
theorem exists_error_iff (hd : d.IsStrict writes) {p : Predicate}
    (h : ∀ n ∈ p.nodes, n.callFits = true) :
    (∃ error, d.render p = .error error) ↔ ∃ n ∈ p.nodes, d.canWrite writes n = false := by
  rw [← Except.isOk_eq_false_iff, isOk_render hd h, List.all_eq_false]
  simp only [Bool.not_eq_true]

/-! ## The two dialects -/

/-- The query dialect writes every function. -/
theorem isStrict_odata : odata.IsStrict fun _ => true :=
  ⟨fun _ => rfl, fun _ _ => rfl, fun _ _ _ _ h => nomatch h⟩

/-- A `LIKE` is written for every string match with its arguments, negated or not. -/
theorem isOk_sqlLike {function : Function} {arguments : List Text}
    (hlength : arguments.length = function.arity) (hmatch : function.isStringMatch = true)
    (wanted : Bool) : (sqlLike function arguments wanted).isOk = true := by
  cases function with
  | substringOf | endsWith | startsWith =>
    obtain ⟨a, b, rfl⟩ := List.length_eq_two.1 hlength
    rfl
  | _ => cases hmatch

/-- The SQL dialect writes the string matches and no other function. -/
theorem isStrict_sql92 : sql92.IsStrict Function.isStringMatch := by
  refine ⟨fun _ => rfl, fun {function arguments} hlength inside => ?_,
    fun {function arguments} hlength hmatch {wanted rendered} hform => ?_⟩
  · show (sqlCall function arguments).isOk = function.isStringMatch
    rw [sqlCall]
    split
    · rename_i hmatch
      rw [isOk_sqlLike hlength hmatch, hmatch]
    · rename_i hmatch
      exact (Bool.eq_false_iff.2 hmatch).symm
  · cases hform
    rw [isOk_sqlLike hlength hmatch, hmatch]

/-- Only foreign nodes have no text in the query dialect. -/
theorem canWrite_odata (n : Predicate) : odata.canWrite (fun _ => true) n = !n.isForeign := by
  cases n with
  | constant value type => cases value <;> rfl
  | _ => rfl

theorem isOk_sqlProperty (path : PropertyPath) :
    (sqlProperty path).isOk = (path.segments.length == 1) := by
  rw [sqlProperty]
  split
  · rename_i name hsegments
    rw [hsegments]
    rfl
  · rename_i hsegments
    refine (beq_eq_false_iff_ne.2 fun hlength => ?_).symm
    obtain ⟨name, hname⟩ := List.length_eq_one_iff.1 hlength
    exact hsegments name hname

/-- Foreign nodes and those that `leavesSql` have no text in the SQL dialect. -/
theorem canWrite_sql92 (n : Predicate) :
    sql92.canWrite Function.isStringMatch n = !(n.isForeign || n.leavesSql) := by
  cases n with
  | property path type =>
    show (sqlProperty path).isOk = !(false || path.segments.length != 1)
    rw [isOk_sqlProperty, Bool.false_or, bne, Bool.not_not]
  | constant value type => cases value <;> rfl
  | call function arguments type =>
    show function.isStringMatch = !(false || !function.isStringMatch)
    rw [Bool.false_or, Bool.not_not]
  | _ => rfl

/-- With the right number of arguments in every call, `odata` has no text exactly for a predicate with a node
that `isForeign`, and `sql92` exactly for one with such a node or one that `leavesSql`. So what has a text in
`sql92` has one in `odata`. -/
theorem render_error_iff {p : Predicate} (h : ∀ n ∈ p.nodes, n.callFits = true) :
    ((∃ error, odata.render p = .error error) ↔ ∃ n ∈ p.nodes, n.isForeign = true) ∧
    ((∃ error, sql92.render p = .error error) ↔
      ∃ n ∈ p.nodes, n.isForeign = true ∨ n.leavesSql = true) ∧
    ((∃ text, sql92.render p = .ok text) → ∃ text, odata.render p = .ok text) := by
  have hodata : (∃ error, odata.render p = .error error) ↔ ∃ n ∈ p.nodes, n.isForeign = true := by
    simp only [exists_error_iff isStrict_odata h, canWrite_odata, Bool.not_eq_false']
  have hsql92 : (∃ error, sql92.render p = .error error) ↔
      ∃ n ∈ p.nodes, n.isForeign = true ∨ n.leavesSql = true := by
    simp only [exists_error_iff isStrict_sql92 h, canWrite_sql92, Bool.not_eq_false', Bool.or_eq_true]
  refine ⟨hodata, hsql92, fun ⟨text, htext⟩ => ?_⟩
  cases hrender : odata.render p with
  | ok text => exact ⟨text, rfl⟩
  | error error =>
    -- what keeps a predicate from having a text in OData does so in SQL-92
    obtain ⟨n, hn, hforeign⟩ := hodata.1 ⟨error, hrender⟩
    obtain ⟨other, hother⟩ := hsql92.2 ⟨n, hn, .inl hforeign⟩
    rw [htext] at hother
    cases hother

/-- A constant object in a conjunct that is left out, and a path of two names in a needle. -/
theorem render_error_iff_hidden :
    ∃ p q : Predicate,
      p = .binary (.connective .and) (.constant (.boolean false) .boolean)
        (.binary (.comparison .eq) (.property ⟨["Nav"]⟩ .null) (.constant (.object []) .null) .boolean)
        .boolean ∧
      q = .binary (.comparison .eq) (.call .startsWith [.property ⟨["Name"]⟩ .string,
        .property ⟨["Nav", "Foo"]⟩ .string] .boolean) (.constant (.boolean true) .boolean) .boolean ∧
      (∀ n ∈ p.nodes, n.callFits = true) ∧ (∀ n ∈ q.nodes, n.callFits = true) ∧
      (∃ error, odata.render p = .error error) ∧ (∃ error, sql92.render p = .error error) ∧
      (¬ ∃ error, odata.render q = .error error) ∧ ∃ error, sql92.render q = .error error := by
  refine ⟨_, _, rfl, rfl, ?_, ?_, ?_, ?_, ?_, ?_⟩
  · decide
  · decide
  · exact (render_error_iff (by decide)).1.2 (by decide)
  · exact (render_error_iff (by decide)).2.1.2 (by decide)
  · exact fun h => absurd ((render_error_iff (by decide)).1.1 h) (by decide)
  · exact (render_error_iff (by decide)).2.1.2 (by decide)

end Dialect
end RecordFilter
