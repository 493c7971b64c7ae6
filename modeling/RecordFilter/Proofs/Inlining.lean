import RecordFilter.Lambda.Composition

/-!
# Inlining as substitution

To take the invocation of a lambda away is to put all arguments in place of the parameters at once. The
arguments go in as they are: a parameter of the lambda that occurs in an argument is not replaced again.
An expression is built anew only around what changes; this makes no difference to the result. There is no
result if the body has a lambda, an invocation, a quotation or an initializer anywhere, even where no
parameter occurs.

Main statements: `Expression.inlineIn_eq` and `Expression.inlineInvocation_lambda`.
-/

namespace RecordFilter
namespace Expression

/-! ## Nodes -/

mutual

/-- The nodes of an expression, from the outside and from the left. It is the first one itself. -/
def nodes : Expression → List Expression
  | constant value => [constant value]
  | parameter name => [parameter name]
  | member target field => member target field :: nodes target
  | binary op left right => binary op left right :: (nodes left ++ nodes right)
  | not operand => not operand :: nodes operand
  | negate operand => negate operand :: nodes operand
  | convert operand type => convert operand type :: nodes operand
  | conditional test ifTrue ifFalse =>
    conditional test ifTrue ifFalse :: (nodes test ++ (nodes ifTrue ++ nodes ifFalse))
  | methodCall target method arguments =>
    methodCall target method arguments :: (nodes target ++ nodesOf arguments)
  | staticCall method arguments => staticCall method arguments :: nodesOf arguments
  | new typeName arguments => new typeName arguments :: nodesOf arguments
  | listInit list items => listInit list items :: (nodes list ++ nodesOfItems items)
  | typeIs operand typeName => typeIs operand typeName :: nodes operand
  | lambda parameters body => lambda parameters body :: nodes body
  | invoke target arguments => invoke target arguments :: (nodes target ++ nodesOf arguments)
  | quote inner => quote inner :: nodes inner
  | memberInit object bindings => memberInit object bindings :: (nodes object ++ nodesOfBindings bindings)
  | newArray items => newArray items :: nodesOf items

/-- The nodes of several expressions. -/
def nodesOf : List Expression → List Expression
  | [] => []
  | e :: rest => nodes e ++ nodesOf rest

/-- The nodes of the items of a list. -/
def nodesOfItems : List (List Expression) → List Expression
  | [] => []
  | item :: rest => nodesOf item ++ nodesOfItems rest

/-- The nodes of the members of an object. -/
def nodesOfBindings : List (String × Expression) → List Expression
  | [] => []
  | (_, e) :: rest => nodes e ++ nodesOfBindings rest

end

/-- Whether a node is of a kind in which nothing can be replaced. -/
def isRigid : Expression → Bool
  | lambda .. | invoke .. | quote _ | memberInit .. | newArray _ => true
  | _ => false

/-! ## Simultaneous substitution -/

mutual

/-- Replaces every free occurrence of the parameters that have an argument, all at once. The parameters of
a lambda have none inside of it. -/
def instantiate (argument : String → Option Expression) : Expression → Expression
  | constant value => constant value
  | parameter name => (argument name).getD (parameter name)
  | member target field => member (instantiate argument target) field
  | binary op left right => binary op (instantiate argument left) (instantiate argument right)
  | not operand => not (instantiate argument operand)
  | negate operand => negate (instantiate argument operand)
  | convert operand type => convert (instantiate argument operand) type
  | conditional test ifTrue ifFalse =>
    conditional (instantiate argument test) (instantiate argument ifTrue) (instantiate argument ifFalse)
  | methodCall target method arguments =>
    methodCall (instantiate argument target) method (instantiateAll argument arguments)
  | staticCall method arguments => staticCall method (instantiateAll argument arguments)
  | new typeName arguments => new typeName (instantiateAll argument arguments)
  | listInit list items => listInit (instantiate argument list) (instantiateItems argument items)
  | typeIs operand typeName => typeIs (instantiate argument operand) typeName
  | lambda parameters body =>
    lambda parameters
      (instantiate (fun name => if parameters.contains name then none else argument name) body)
  | invoke target arguments =>
    invoke (instantiate argument target) (instantiateAll argument arguments)
  | quote inner => quote (instantiate argument inner)
  | memberInit object bindings =>
    memberInit (instantiate argument object) (instantiateBindings argument bindings)
  | newArray items => newArray (instantiateAll argument items)

/-- Simultaneous substitution in several expressions. -/
def instantiateAll (argument : String → Option Expression) : List Expression → List Expression
  | [] => []
  | e :: rest => instantiate argument e :: instantiateAll argument rest

/-- Simultaneous substitution in the items of a list. -/
def instantiateItems (argument : String → Option Expression) :
    List (List Expression) → List (List Expression)
  | [] => []
  | item :: rest => instantiateAll argument item :: instantiateItems argument rest

/-- Simultaneous substitution in the members of an object. -/
def instantiateBindings (argument : String → Option Expression) :
    List (String × Expression) → List (String × Expression)
  | [] => []
  | (field, e) :: rest => (field, instantiate argument e) :: instantiateBindings argument rest

end

/-- The argument that stands where the parameter stands. -/
def argumentFor (parameters : List String) (arguments : List Expression) (name : String) :
    Option Expression :=
  (parameters.zip arguments).lookup name

/-- Two parameters can change places, since their arguments are not replaced again. -/
example : instantiate (argumentFor ["x", "y"] [parameter "y", parameter "x"])
    (binary (.arithmetic .sub) (parameter "x") (member (parameter "y") "Id"))
      = binary (.arithmetic .sub) (parameter "y") (member (parameter "x") "Id") := rfl

mutual

/-- Without arguments, nothing changes. -/
theorem instantiate_none : ∀ e : Expression, instantiate (fun _ => none) e = e
  | constant value => rfl
  | parameter name => rfl
  | member target field => by rw [instantiate, instantiate_none]
  | binary op left right => by rw [instantiate, instantiate_none, instantiate_none]
  | not operand => by rw [instantiate, instantiate_none]
  | negate operand => by rw [instantiate, instantiate_none]
  | convert operand type => by rw [instantiate, instantiate_none]
  | conditional test ifTrue ifFalse => by
    rw [instantiate, instantiate_none, instantiate_none, instantiate_none]
  | methodCall target method arguments => by rw [instantiate, instantiate_none, instantiateAll_none]
  | staticCall method arguments => by rw [instantiate, instantiateAll_none]
  | new typeName arguments => by rw [instantiate, instantiateAll_none]
  | listInit list items => by rw [instantiate, instantiate_none, instantiateItems_none]
  | typeIs operand typeName => by rw [instantiate, instantiate_none]
  | lambda parameters body => by
    simp only [instantiate, ite_self]
    rw [instantiate_none]
  | invoke target arguments => by rw [instantiate, instantiate_none, instantiateAll_none]
  | quote inner => by rw [instantiate, instantiate_none]
  | memberInit object bindings => by rw [instantiate, instantiate_none, instantiateBindings_none]
  | newArray items => by rw [instantiate, instantiateAll_none]

theorem instantiateAll_none : ∀ es : List Expression, instantiateAll (fun _ => none) es = es
  | [] => rfl
  | e :: rest => by rw [instantiateAll, instantiate_none, instantiateAll_none]

theorem instantiateItems_none : ∀ items : List (List Expression),
    instantiateItems (fun _ => none) items = items
  | [] => rfl
  | item :: rest => by rw [instantiateItems, instantiateAll_none, instantiateItems_none]

theorem instantiateBindings_none : ∀ bindings : List (String × Expression),
    instantiateBindings (fun _ => none) bindings = bindings
  | [] => rfl
  | (field, e) :: rest => by rw [instantiateBindings, instantiate_none, instantiateBindings_none]

end

/-- One argument for one parameter. -/
def single (name : String) (replacement : Expression) (other : String) : Option Expression :=
  if other = name then some replacement else none

section

variable (name : String) (replacement : Expression)

mutual

/-- With one argument, this is the substitution of a single parameter. -/
theorem instantiate_single : ∀ e : Expression,
    instantiate (single name replacement) e = substitute name replacement e
  | constant value => rfl
  | parameter other => by
    rw [instantiate, substitute, single]
    split <;> rfl
  | member target field => by rw [instantiate, substitute, instantiate_single]
  | binary op left right => by
    rw [instantiate, substitute, instantiate_single, instantiate_single]
  | not operand => by rw [instantiate, substitute, instantiate_single]
  | negate operand => by rw [instantiate, substitute, instantiate_single]
  | convert operand type => by rw [instantiate, substitute, instantiate_single]
  | conditional test ifTrue ifFalse => by
    rw [instantiate, substitute, instantiate_single, instantiate_single, instantiate_single]
  | methodCall target method arguments => by
    rw [instantiate, substitute, instantiate_single, instantiateAll_single]
  | staticCall method arguments => by rw [instantiate, substitute, instantiateAll_single]
  | new typeName arguments => by rw [instantiate, substitute, instantiateAll_single]
  | listInit list items => by
    rw [instantiate, substitute, instantiate_single, instantiateItems_single]
  | typeIs operand typeName => by rw [instantiate, substitute, instantiate_single]
  | lambda parameters body => by
    rw [instantiate, substitute]
    by_cases h : parameters.contains name = true
    -- inside of the lambda the parameter is another one, and has no argument
    · have hnone : (fun other => if parameters.contains other then none
          else single name replacement other) = fun _ => none := by
        funext other
        by_cases hother : other = name
        · rw [hother, if_pos h]
        · rw [single, if_neg hother, ite_self]
      rw [if_pos h, hnone, instantiate_none]
    · have hsingle : (fun other => if parameters.contains other then none
          else single name replacement other) = single name replacement := by
        funext other
        by_cases hother : other = name
        · rw [hother, if_neg h]
        · rw [single, if_neg hother, ite_self]
      rw [if_neg h, hsingle, instantiate_single]
  | invoke target arguments => by
    rw [instantiate, substitute, instantiate_single, instantiateAll_single]
  | quote inner => by rw [instantiate, substitute, instantiate_single]
  | memberInit object bindings => by
    rw [instantiate, substitute, instantiate_single, instantiateBindings_single]
  | newArray items => by rw [instantiate, substitute, instantiateAll_single]

theorem instantiateAll_single : ∀ es : List Expression,
    instantiateAll (single name replacement) es = substituteAll name replacement es
  | [] => rfl
  | e :: rest => by
    rw [instantiateAll, substituteAll, instantiate_single, instantiateAll_single]

theorem instantiateItems_single : ∀ items : List (List Expression),
    instantiateItems (single name replacement) items = substituteItems name replacement items
  | [] => rfl
  | item :: rest => by
    rw [instantiateItems, substituteItems, instantiateAll_single, instantiateItems_single]

theorem instantiateBindings_single : ∀ bindings : List (String × Expression),
    instantiateBindings (single name replacement) bindings
      = substituteBindings name replacement bindings
  | [] => rfl
  | (field, e) :: rest => by
    rw [instantiateBindings, substituteBindings, instantiate_single, instantiateBindings_single]

end

end

/-! ## Rewriting -/

/-- What rewriting has to come to: an error for the first rigid node, if there is one, and else the new
expression, where one that is not given has not changed. -/
def IsRewritten {α : Type} (outcome : Inlined (Option α)) (rigid : Option Expression) (old new : α) :
    Prop :=
  match rigid with
  | some n => outcome = .error (.notInlined n.kindName)
  | none => ∃ changed, outcome = .ok changed ∧ changed.getD old = new

namespace IsRewritten

variable {α β γ : Type} {a a' : α} {b b' : β} {left : Inlined (Option α)} {right : Inlined (Option β)}
  {rigid rigid' : Option Expression}

/-- A node of one part. -/
theorem map (h : IsRewritten left rigid a a') (build : α → β) :
    IsRewritten (left.map (Option.map build)) rigid (build a) (build a') := by
  cases rigid with
  | some n =>
    rw [IsRewritten] at h ⊢
    rw [h]
    rfl
  | none =>
    obtain ⟨changed, hleft, rfl⟩ := h
    refine ⟨changed.map build, by rw [hleft]; rfl, ?_⟩
    cases changed <;> rfl

/-- A node of two parts: the first rigid node of the left part counts before those of the right one, and
a part that has not changed is kept beside one that has. -/
theorem rebuild (h : IsRewritten left rigid a a') (h' : IsRewritten right rigid' b b')
    (build : α → β → γ) :
    IsRewritten (Expression.rebuild build a b left right) (rigid.or rigid') (build a b)
      (build a' b') := by
  cases rigid with
  | some n =>
    rw [IsRewritten] at h
    rw [Expression.rebuild, h]
    rfl
  | none =>
    obtain ⟨changed, hleft, rfl⟩ := h
    cases rigid' with
    | some n =>
      rw [IsRewritten] at h'
      rw [Expression.rebuild, hleft, h']
      rfl
    | none =>
      obtain ⟨changed', hright, rfl⟩ := h'
      refine ⟨_, by rw [Expression.rebuild, hleft, hright]; rfl, ?_⟩
      cases changed <;> cases changed' <;> rfl

end IsRewritten

theorem find?_isRigid_cons {e : Expression} {rest : List Expression} (h : e.isRigid = false) :
    (e :: rest).find? isRigid = rest.find? isRigid :=
  List.find?_cons_of_neg (by rw [h]; exact Bool.false_ne_true)

section

variable (scope : String → Option Expression)

mutual

/-- Rewriting comes to the substitution of all parameters at once. -/
theorem isRewritten_rewrite? : ∀ e : Expression,
    IsRewritten (rewrite? scope e) (e.nodes.find? isRigid) e (e.instantiate scope)
  | constant value => ⟨none, rfl, rfl⟩
  | parameter name => ⟨scope name, rfl, rfl⟩
  | member target field => by
    rw [rewrite?, nodes, find?_isRigid_cons rfl, instantiate]
    exact (isRewritten_rewrite? target).map (member · field)
  | binary op left right => by
    rw [rewrite?, nodes, find?_isRigid_cons rfl, List.find?_append, instantiate]
    exact (isRewritten_rewrite? left).rebuild (isRewritten_rewrite? right) (binary op)
  | not operand => by
    rw [rewrite?, nodes, find?_isRigid_cons rfl, instantiate]
    exact (isRewritten_rewrite? operand).map not
  | negate operand => by
    rw [rewrite?, nodes, find?_isRigid_cons rfl, instantiate]
    exact (isRewritten_rewrite? operand).map negate
  | convert operand type => by
    rw [rewrite?, nodes, find?_isRigid_cons rfl, instantiate]
    exact (isRewritten_rewrite? operand).map (convert · type)
  | conditional test ifTrue ifFalse => by
    rw [rewrite?, nodes, find?_isRigid_cons rfl, List.find?_append, List.find?_append, instantiate]
    exact (isRewritten_rewrite? test).rebuild
      ((isRewritten_rewrite? ifTrue).rebuild (isRewritten_rewrite? ifFalse) Prod.mk)
      (fun test branches => conditional test branches.1 branches.2)
  | methodCall target method arguments => by
    rw [rewrite?, nodes, find?_isRigid_cons rfl, List.find?_append, instantiate]
    exact (isRewritten_rewrite? target).rebuild (isRewritten_rewriteAll? arguments)
      (methodCall · method)
  | staticCall method arguments => by
    rw [rewrite?, nodes, find?_isRigid_cons rfl, instantiate]
    exact (isRewritten_rewriteAll? arguments).map (staticCall method)
  | new typeName arguments => by
    rw [rewrite?, nodes, find?_isRigid_cons rfl, instantiate]
    exact (isRewritten_rewriteAll? arguments).map (new typeName)
  | listInit list items => by
    rw [rewrite?, nodes, find?_isRigid_cons rfl, List.find?_append, instantiate]
    exact (isRewritten_rewrite? list).rebuild (isRewritten_rewriteItems? items) listInit
  | typeIs operand typeName => by
    rw [rewrite?, nodes, find?_isRigid_cons rfl, instantiate]
    exact (isRewritten_rewrite? operand).map (typeIs · typeName)
  -- the rigid nodes fail by themselves, whatever is inside of them
  | lambda parameters body => rfl
  | invoke target arguments => rfl
  | quote inner => rfl
  | memberInit object bindings => rfl
  | newArray items => rfl

theorem isRewritten_rewriteAll? : ∀ es : List Expression,
    IsRewritten (rewriteAll? scope es) ((nodesOf es).find? isRigid) es (instantiateAll scope es)
  | [] => ⟨none, rfl, rfl⟩
  | e :: rest => by
    rw [rewriteAll?, nodesOf, List.find?_append, instantiateAll]
    exact (isRewritten_rewrite? e).rebuild (isRewritten_rewriteAll? rest) (· :: ·)

theorem isRewritten_rewriteItems? : ∀ items : List (List Expression),
    IsRewritten (rewriteItems? scope items) ((nodesOfItems items).find? isRigid) items
      (instantiateItems scope items)
  | [] => ⟨none, rfl, rfl⟩
  | item :: rest => by
    rw [rewriteItems?, nodesOfItems, List.find?_append, instantiateItems]
    exact (isRewritten_rewriteAll? item).rebuild (isRewritten_rewriteItems? rest) (· :: ·)

end

/-- An expression is inlined by substitution, unless it has a rigid node: then the first one is the
error. -/
theorem inlineIn_eq (e : Expression) :
    inlineIn scope e =
      match e.nodes.find? isRigid with
      | some n => .error (.notInlined n.kindName)
      | none => .ok (e.instantiate scope) := by
  have h := isRewritten_rewrite? scope e
  rw [inlineIn]
  cases hrigid : e.nodes.find? isRigid with
  | some n =>
    rw [hrigid, IsRewritten] at h
    rw [h]
    rfl
  | none =>
    rw [hrigid] at h
    obtain ⟨changed, houtcome, hchanged⟩ := h
    rw [houtcome]
    exact congrArg Except.ok hchanged

end

/-! ## Invocations -/

/-- If no parameter is there twice, the last argument for it is the only one. -/
theorem lookup_reverse {α β : Type} [BEq α] [LawfulBEq α] {entries : List (α × β)}
    (h : (entries.map Prod.fst).Nodup) (key : α) : entries.reverse.lookup key = entries.lookup key := by
  induction entries with
  | nil => rfl
  | cons entry entries ih =>
    obtain ⟨hnew, hnodup⟩ := List.nodup_cons.1 h
    rw [List.reverse_cons, List.lookup_append, ih hnodup, List.lookup_cons, List.lookup_cons]
    by_cases hkey : key = entry.1
    · have hnone : entries.lookup key = none := by
        refine List.lookup_eq_none_iff.2 fun other hother => ?_
        rw [bne_iff_ne, hkey]
        exact fun hsame => hnew (List.mem_map.2 ⟨other, hother, hsame.symm⟩)
      rw [hnone, hkey, beq_self_eq_true]
      rfl
    · rw [beq_eq_false_iff_ne.2 hkey]
      exact Option.or_none

theorem bindings_eq {parameters : List String} {arguments : List Expression}
    (hnodup : parameters.Nodup) (hlength : parameters.length = arguments.length) :
    bindings parameters arguments = argumentFor parameters arguments := by
  funext name
  refine lookup_reverse ?_ name
  rw [List.map_fst_zip (Nat.le_of_eq hlength)]
  exact hnodup

theorem inlineInvocation_eq {parameters : List String} {arguments : List Expression}
    (hlength : parameters.length = arguments.length) (body : Expression) :
    inlineInvocation (.invoke (.lambda parameters body) arguments)
      = inlineIn (bindings parameters arguments) body := by
  rw [inlineInvocation, if_neg (not_not_intro hlength)]

/-- For a single parameter, the argument that stands where it stands is the only one. -/
theorem argumentFor_singleton (name : String) (argument : Expression) :
    argumentFor [name] [argument] = single name argument := by
  funext other
  by_cases hother : other = name
  · simp [argumentFor, single, hother]
  · simp [argumentFor, single, hother, List.lookup_cons, beq_eq_false_iff_ne.2 hother]

/-- The invocation of a lambda with a single parameter is taken away by substitution. -/
theorem inlineInvocation_single {body : Expression} (h : ∀ n ∈ body.nodes, n.isRigid = false)
    (name : String) (argument : Expression) :
    inlineInvocation (.invoke (.lambda [name] body) [argument])
      = .ok (substitute name argument body) := by
  have hnone : body.nodes.find? isRigid = none := List.find?_eq_none.2 fun n hn => by simp [h n hn]
  rw [inlineInvocation_eq rfl, bindings_eq (by simp) rfl, argumentFor_singleton,
    inlineIn_eq, hnone, instantiate_single]

/-- The invocation of a lambda with different parameters is taken away, unless a rigid node is anywhere in
its body. The result is the body with all arguments in place of the parameters at once; for a single
parameter this is the substitution of the argument for it. -/
theorem inlineInvocation_lambda {parameters : List String} {arguments : List Expression}
    (hnodup : parameters.Nodup) (hlength : parameters.length = arguments.length) (body : Expression) :
    ((∃ kind, inlineInvocation (.invoke (.lambda parameters body) arguments)
        = .error (.notInlined kind)) ↔ ∃ n ∈ body.nodes, n.isRigid = true) ∧
    ((∀ n ∈ body.nodes, n.isRigid = false) →
      inlineInvocation (.invoke (.lambda parameters body) arguments)
          = .ok (body.instantiate (argumentFor parameters arguments)) ∧
        ∀ name argument, parameters = [name] → arguments = [argument] →
          inlineInvocation (.invoke (.lambda parameters body) arguments)
            = .ok (substitute name argument body)) := by
  rw [inlineInvocation_eq hlength, inlineIn_eq, bindings_eq hnodup hlength]
  constructor
  · rw [← List.find?_isSome]
    cases body.nodes.find? isRigid with
    | none => simp
    | some n => simp
  · intro hflexible
    have hnone : body.nodes.find? isRigid = none :=
      List.find?_eq_none.2 fun n hn => by simp [hflexible n hn]
    rw [hnone]
    refine ⟨rfl, ?_⟩
    rintro name argument rfl rfl
    rw [argumentFor_singleton, instantiate_single]

/-- The parameters occur in the arguments as well, and the body of the second lambda has a quotation
beside its parameter. -/
theorem inlineInvocation_lambda_swapped :
    inlineInvocation (.invoke
        (.lambda ["x", "y"] (.methodCall (.parameter "x") "Take" [.constant .null, .parameter "y"]))
        [.member (.parameter "y") "Id", .parameter "x"])
      = .ok (.methodCall (.member (.parameter "y") "Id") "Take" [.constant .null, .parameter "x"]) ∧
    inlineInvocation (.invoke (.lambda ["x"] (.member (.parameter "x") "Id")) [.parameter "x"])
      = .ok (substitute "x" (.parameter "x") (.member (.parameter "x") "Id")) ∧
    ∃ kind, inlineInvocation (.invoke
        (.lambda ["x"] (.new "Pair" [.parameter "x", .quote (.constant .null)])) [.parameter "x"])
      = .error (.notInlined kind) := by
  refine ⟨?_, ?_, ?_⟩
  · exact ((inlineInvocation_lambda (by decide) rfl _).2 (by simp [nodes, nodesOf, isRigid])).1
  · exact ((inlineInvocation_lambda (by decide) rfl _).2 (by simp [nodes, isRigid])).2 _ _ rfl rfl
  · exact (inlineInvocation_lambda (by decide) rfl _).1.2 (by simp [nodes, nodesOf, isRigid])

end Expression
end RecordFilter
