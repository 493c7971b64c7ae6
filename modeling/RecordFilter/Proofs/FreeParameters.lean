import RecordFilter.Lambda.Composition

/-!
# Free parameters

A parameter that occurs inside of a lambda with a parameter of the same name belongs to that lambda; any
other occurrence is free. An expression that comes in place of a parameter is put where the parameter stands,
and the lambdas there keep the names of their parameters: they bind what is free in it and has one of these
names. Every other name that is free in it stays free.

Main statements: `Expression.occurrences_substitute` and `Expression.mem_freeNames_substitute`.
-/

namespace RecordFilter

/-! ## Occurrences -/

/-- An occurrence of a parameter, with the parameters of all lambdas around it. -/
structure Occurrence where
  name : String
  binders : List String
deriving DecidableEq, Repr

namespace Occurrence

/-- Whether no lambda around the occurrence has a parameter of its name. -/
def isFree (o : Occurrence) : Bool :=
  !o.binders.contains o.name

/-- The occurrence with more lambdas around it. -/
def inside (parameters : List String) (o : Occurrence) : Occurrence :=
  ⟨o.name, o.binders ++ parameters⟩

/-- The occurrences that stand in place of one when a parameter is replaced by an expression that has
the occurrences `inner`. -/
def replaced (name : String) (inner : List Occurrence) (o : Occurrence) : List Occurrence :=
  if o.isFree && o.name == name then inner.map (inside o.binders) else [o]

/-- A free occurrence of the old name has the new one where it stands. -/
def renamed (old new : String) (o : Occurrence) : Occurrence :=
  if o.isFree && o.name == old then ⟨new, o.binders⟩ else o

/-- Whether a lambda around the occurrence has a parameter of the new name that comes in place of the old
one. -/
def isCaptured (old new : String) (o : Occurrence) : Bool :=
  o.name == old && o.binders.contains new

@[simp] theorem name_inside (parameters : List String) (o : Occurrence) :
    (o.inside parameters).name = o.name := rfl

@[simp] theorem binders_inside (parameters : List String) (o : Occurrence) :
    (o.inside parameters).binders = o.binders ++ parameters := rfl

@[simp] theorem isFree_inside (parameters : List String) (o : Occurrence) :
    (o.inside parameters).isFree = (o.isFree && !parameters.contains o.name) := by
  simp [isFree, inside, Bool.not_or]

theorem inside_nil : inside [] = id := by
  funext o
  rw [inside, List.append_nil, id]

/-- Inside of a lambda that has the parameter itself, nothing is replaced. -/
theorem replaced_inside_of_mem {parameters : List String} {name : String} (h : name ∈ parameters)
    (inner : List Occurrence) (o : Occurrence) :
    (o.inside parameters).replaced name inner = [o.inside parameters] := by
  rw [replaced, if_neg]
  simp only [isFree_inside, name_inside, Bool.and_eq_true, beq_iff_eq, not_and]
  rintro ⟨-, hfree⟩ rfl
  simp [h] at hfree

/-- Inside of any other lambda, it makes no difference whether the lambda is put around the occurrences
before or after. -/
theorem replaced_inside_of_notMem {parameters : List String} {name : String} (h : name ∉ parameters)
    (inner : List Occurrence) (o : Occurrence) :
    (o.inside parameters).replaced name inner = (o.replaced name inner).map (inside parameters) := by
  have hsame : ((o.inside parameters).isFree && (o.inside parameters).name == name)
      = (o.isFree && o.name == name) := by
    rw [isFree_inside, name_inside]
    by_cases hname : o.name = name
    · simp [hname, h]
    · rw [beq_eq_false_iff_ne.2 hname, Bool.and_false, Bool.and_false]
  rw [replaced, replaced, hsame]
  split
  · rw [List.map_map]
    refine List.map_congr_left fun other _ => ?_
    simp [inside, List.append_assoc]
  · rfl

end Occurrence

namespace Expression

mutual

/-- The occurrences of parameters in an expression, from the left. -/
def occurrences : Expression → List Occurrence
  | constant _ => []
  | parameter name => [⟨name, []⟩]
  | member target _ => occurrences target
  | binary _ left right => occurrences left ++ occurrences right
  | not operand => occurrences operand
  | negate operand => occurrences operand
  | convert operand _ => occurrences operand
  | conditional test ifTrue ifFalse => occurrences test ++ (occurrences ifTrue ++ occurrences ifFalse)
  | methodCall target _ arguments => occurrences target ++ occurrencesOf arguments
  | staticCall _ arguments => occurrencesOf arguments
  | new _ arguments => occurrencesOf arguments
  | listInit list items => occurrences list ++ occurrencesOfItems items
  | typeIs operand _ => occurrences operand
  | lambda parameters body => (occurrences body).map (Occurrence.inside parameters)
  | invoke target arguments => occurrences target ++ occurrencesOf arguments
  | quote inner => occurrences inner
  | memberInit object bindings => occurrences object ++ occurrencesOfBindings bindings
  | newArray items => occurrencesOf items

/-- The occurrences in several expressions. -/
def occurrencesOf : List Expression → List Occurrence
  | [] => []
  | e :: rest => occurrences e ++ occurrencesOf rest

/-- The occurrences in the items of a list. -/
def occurrencesOfItems : List (List Expression) → List Occurrence
  | [] => []
  | item :: rest => occurrencesOf item ++ occurrencesOfItems rest

/-- The occurrences in the members of an object. -/
def occurrencesOfBindings : List (String × Expression) → List Occurrence
  | [] => []
  | (_, e) :: rest => occurrences e ++ occurrencesOfBindings rest

end

mutual

/-- The names of the free parameters of an expression, as often as they occur. A lambda binds those of its
parameters. -/
def freeNames : Expression → List String
  | constant _ => []
  | parameter name => [name]
  | member target _ => freeNames target
  | binary _ left right => freeNames left ++ freeNames right
  | not operand => freeNames operand
  | negate operand => freeNames operand
  | convert operand _ => freeNames operand
  | conditional test ifTrue ifFalse => freeNames test ++ (freeNames ifTrue ++ freeNames ifFalse)
  | methodCall target _ arguments => freeNames target ++ freeNamesOf arguments
  | staticCall _ arguments => freeNamesOf arguments
  | new _ arguments => freeNamesOf arguments
  | listInit list items => freeNames list ++ freeNamesOfItems items
  | typeIs operand _ => freeNames operand
  | lambda parameters body => (freeNames body).filter fun name => !parameters.contains name
  | invoke target arguments => freeNames target ++ freeNamesOf arguments
  | quote inner => freeNames inner
  | memberInit object bindings => freeNames object ++ freeNamesOfBindings bindings
  | newArray items => freeNamesOf items

/-- The free parameters of several expressions. -/
def freeNamesOf : List Expression → List String
  | [] => []
  | e :: rest => freeNames e ++ freeNamesOf rest

/-- The free parameters of the items of a list. -/
def freeNamesOfItems : List (List Expression) → List String
  | [] => []
  | item :: rest => freeNamesOf item ++ freeNamesOfItems rest

/-- The free parameters of the members of an object. -/
def freeNamesOfBindings : List (String × Expression) → List String
  | [] => []
  | (_, e) :: rest => freeNames e ++ freeNamesOfBindings rest

end

/-! ## Free occurrences -/

/-- The names of those occurrences that are free. -/
def namesOfFree (occurrences : List Occurrence) : List String :=
  (occurrences.filter Occurrence.isFree).map Occurrence.name

theorem namesOfFree_append (before after : List Occurrence) :
    namesOfFree (before ++ after) = namesOfFree before ++ namesOfFree after := by
  simp [namesOfFree]

/-- A lambda around the occurrences binds the names of its parameters. -/
theorem namesOfFree_inside (parameters : List String) (occurrences : List Occurrence) :
    namesOfFree (occurrences.map (Occurrence.inside parameters))
      = (namesOfFree occurrences).filter fun name => !parameters.contains name := by
  induction occurrences with
  | nil => rfl
  | cons o occurrences ih =>
    rw [List.map_cons, ← List.singleton_append, namesOfFree_append, ih,
      ← List.singleton_append (l := occurrences),
      namesOfFree_append, List.filter_append]
    congr 1
    by_cases hfree : o.isFree = true <;> by_cases hbound : parameters.contains o.name = true <;>
      simp_all [namesOfFree]

mutual

/-- The free parameters are the names of the free occurrences. -/
theorem freeNames_eq : ∀ e : Expression, freeNames e = namesOfFree (occurrences e)
  | constant _ => rfl
  | parameter _ => rfl
  | member target _ => freeNames_eq target
  | binary _ left right => by
    rw [freeNames, occurrences, namesOfFree_append, freeNames_eq left, freeNames_eq right]
  | not operand => freeNames_eq operand
  | negate operand => freeNames_eq operand
  | convert operand _ => freeNames_eq operand
  | conditional test ifTrue ifFalse => by
    rw [freeNames, occurrences, namesOfFree_append, namesOfFree_append, freeNames_eq test,
      freeNames_eq ifTrue, freeNames_eq ifFalse]
  | methodCall target _ arguments => by
    rw [freeNames, occurrences, namesOfFree_append, freeNames_eq target, freeNamesOf_eq arguments]
  | staticCall _ arguments => freeNamesOf_eq arguments
  | new _ arguments => freeNamesOf_eq arguments
  | listInit list items => by
    rw [freeNames, occurrences, namesOfFree_append, freeNames_eq list, freeNamesOfItems_eq items]
  | typeIs operand _ => freeNames_eq operand
  | lambda parameters body => by
    rw [freeNames, occurrences, namesOfFree_inside, freeNames_eq body]
  | invoke target arguments => by
    rw [freeNames, occurrences, namesOfFree_append, freeNames_eq target, freeNamesOf_eq arguments]
  | quote inner => freeNames_eq inner
  | memberInit object bindings => by
    rw [freeNames, occurrences, namesOfFree_append, freeNames_eq object,
      freeNamesOfBindings_eq bindings]
  | newArray items => freeNamesOf_eq items

/-- The free names of a list of expressions are those of its free occurrences. -/
theorem freeNamesOf_eq : ∀ es : List Expression, freeNamesOf es = namesOfFree (occurrencesOf es)
  | [] => rfl
  | e :: rest => by
    rw [freeNamesOf, occurrencesOf, namesOfFree_append, freeNames_eq e, freeNamesOf_eq rest]

theorem freeNamesOfItems_eq : ∀ items : List (List Expression),
    freeNamesOfItems items = namesOfFree (occurrencesOfItems items)
  | [] => rfl
  | item :: rest => by
    rw [freeNamesOfItems, occurrencesOfItems, namesOfFree_append, freeNamesOf_eq item,
      freeNamesOfItems_eq rest]

theorem freeNamesOfBindings_eq : ∀ bindings : List (String × Expression),
    freeNamesOfBindings bindings = namesOfFree (occurrencesOfBindings bindings)
  | [] => rfl
  | (_, e) :: rest => by
    rw [freeNamesOfBindings, occurrencesOfBindings, namesOfFree_append, freeNames_eq e,
      freeNamesOfBindings_eq rest]

end

/-- A name is free in an expression if and only if it occurs free in it. -/
theorem mem_freeNames {name : String} {e : Expression} :
    name ∈ freeNames e ↔ ∃ o ∈ occurrences e, o.isFree = true ∧ o.name = name := by
  simp [freeNames_eq, namesOfFree, and_assoc]

/-! ## Substitution -/

section

variable (name : String) (replacement : Expression)

mutual

/-- The occurrences of the new expression stand where the parameter is free, inside of the lambdas that
are there. All other occurrences stay as they are. -/
theorem occurrences_substitute : ∀ e : Expression,
    occurrences (substitute name replacement e)
      = (occurrences e).flatMap (Occurrence.replaced name (occurrences replacement))
  | constant _ => rfl
  | parameter other => by
    by_cases h : other = name
    · simp [substitute, occurrences, Occurrence.replaced, Occurrence.isFree, h, Occurrence.inside_nil]
    · simp [substitute, occurrences, Occurrence.replaced, Occurrence.isFree, h]
  | member target _ => occurrences_substitute target
  | binary _ left right => by
    rw [substitute, occurrences, occurrences, List.flatMap_append, occurrences_substitute left,
      occurrences_substitute right]
  | not operand => occurrences_substitute operand
  | negate operand => occurrences_substitute operand
  | convert operand _ => occurrences_substitute operand
  | conditional test ifTrue ifFalse => by
    rw [substitute, occurrences, occurrences, List.flatMap_append, List.flatMap_append,
      occurrences_substitute test, occurrences_substitute ifTrue, occurrences_substitute ifFalse]
  | methodCall target _ arguments => by
    rw [substitute, occurrences, occurrences, List.flatMap_append, occurrences_substitute target,
      occurrencesOf_substituteAll arguments]
  | staticCall _ arguments => occurrencesOf_substituteAll arguments
  | new _ arguments => occurrencesOf_substituteAll arguments
  | listInit list items => by
    rw [substitute, occurrences, occurrences, List.flatMap_append, occurrences_substitute list,
      occurrencesOfItems_substituteItems items]
  | typeIs operand _ => occurrences_substitute operand
  | lambda parameters body => by
    rw [substitute]
    by_cases h : name ∈ parameters
    -- the lambda has the parameter itself
    · rw [if_pos (List.contains_iff_mem.2 h), occurrences, List.flatMap_map]
      simp only [Occurrence.replaced_inside_of_mem h]
      rw [← List.map_eq_flatMap]
    · rw [if_neg fun hmem => h (List.contains_iff_mem.1 hmem), occurrences, occurrences,
        occurrences_substitute body, List.map_flatMap, List.flatMap_map]
      simp only [Occurrence.replaced_inside_of_notMem h]
  | invoke target arguments => by
    rw [substitute, occurrences, occurrences, List.flatMap_append, occurrences_substitute target,
      occurrencesOf_substituteAll arguments]
  | quote inner => occurrences_substitute inner
  | memberInit object bindings => by
    rw [substitute, occurrences, occurrences, List.flatMap_append, occurrences_substitute object,
      occurrencesOfBindings_substituteBindings bindings]
  | newArray items => occurrencesOf_substituteAll items

/-- `substituteAll` replaces occurrence by occurrence. -/
theorem occurrencesOf_substituteAll : ∀ es : List Expression,
    occurrencesOf (substituteAll name replacement es)
      = (occurrencesOf es).flatMap (Occurrence.replaced name (occurrences replacement))
  | [] => rfl
  | e :: rest => by
    rw [substituteAll, occurrencesOf, occurrencesOf, List.flatMap_append, occurrences_substitute e,
      occurrencesOf_substituteAll rest]

theorem occurrencesOfItems_substituteItems : ∀ items : List (List Expression),
    occurrencesOfItems (substituteItems name replacement items)
      = (occurrencesOfItems items).flatMap (Occurrence.replaced name (occurrences replacement))
  | [] => rfl
  | item :: rest => by
    rw [substituteItems, occurrencesOfItems, occurrencesOfItems, List.flatMap_append,
      occurrencesOf_substituteAll item, occurrencesOfItems_substituteItems rest]

theorem occurrencesOfBindings_substituteBindings : ∀ bindings : List (String × Expression),
    occurrencesOfBindings (substituteBindings name replacement bindings)
      = (occurrencesOfBindings bindings).flatMap (Occurrence.replaced name (occurrences replacement))
  | [] => rfl
  | (_, e) :: rest => by
    rw [substituteBindings, occurrencesOfBindings, occurrencesOfBindings, List.flatMap_append,
      occurrences_substitute e, occurrencesOfBindings_substituteBindings rest]

end

end

/-- Behind a replaced occurrence of `name` the free names are those of the replacement that no binder around it
captures, and behind any other free one its own. -/
theorem mem_namesOfFree_replaced {name other : String} {inner : List Occurrence} {o : Occurrence} :
    other ∈ namesOfFree (o.replaced name inner) ↔
      o.isFree = true ∧ o.name = name ∧ other ∈ namesOfFree inner ∧ other ∉ o.binders ∨
        o.isFree = true ∧ o.name = other ∧ other ≠ name := by
  rw [Occurrence.replaced]
  split
  · rename_i h
    obtain ⟨hfree, hname⟩ := Bool.and_eq_true_iff.1 h
    rw [namesOfFree_inside, List.mem_filter]
    grind
  · rename_i h
    simp only [Bool.and_eq_true, beq_iff_eq, not_and] at h
    by_cases hfree : o.isFree = true
    · simp [namesOfFree, hfree, h hfree]
      grind
    · simp [namesOfFree, hfree]

/-- A name is free in the new expression if it was free before and is not replaced, or if it comes in with
the replacement at a place where no lambda binds it. -/
theorem mem_freeNames_substitute {name other : String} {replacement e : Expression} :
    other ∈ freeNames (substitute name replacement e) ↔
      other ∈ freeNames e ∧ other ≠ name ∨
        other ∈ freeNames replacement ∧
          ∃ o ∈ occurrences e, o.isFree = true ∧ o.name = name ∧ other ∉ o.binders := by
  have hflat : namesOfFree ((occurrences e).flatMap (Occurrence.replaced name (occurrences replacement)))
      = (occurrences e).flatMap fun o => namesOfFree (o.replaced name (occurrences replacement)) := by
    simp only [namesOfFree, List.filter_flatMap, List.map_flatMap]
  rw [freeNames_eq (substitute name replacement e), occurrences_substitute, hflat, List.mem_flatMap,
    mem_freeNames (e := e), freeNames_eq replacement]
  simp only [mem_namesOfFree_replaced]
  grind

/-- Whether a lambda around some free occurrence of a parameter has a parameter of the other name. -/
def Captures (e : Expression) (name other : String) : Prop :=
  ∃ o ∈ occurrences e, o.isFree = true ∧ o.isCaptured name other = true

/-- If nothing that is free in the replacement is captured, the free names are those of the expression
without the replaced one, together with those of the replacement. -/
theorem mem_freeNames_substitute_of_not_captures {name : String} {replacement e : Expression}
    (h : ∀ other ∈ freeNames replacement, ¬ e.Captures name other) (other : String) :
    other ∈ freeNames (substitute name replacement e) ↔
      other ∈ freeNames e ∧ other ≠ name ∨ name ∈ freeNames e ∧ other ∈ freeNames replacement := by
  rw [mem_freeNames_substitute, @mem_freeNames name e]
  refine or_congr_right ⟨?_, ?_⟩
  · rintro ⟨hother, o, ho, hfree, hname, -⟩
    exact ⟨⟨o, ho, hfree, hname⟩, hother⟩
  · rintro ⟨⟨o, ho, hfree, hname⟩, hother⟩
    exact ⟨hother, o, ho, hfree, hname,
      fun hmem => h other hother ⟨o, ho, hfree, by simp [Occurrence.isCaptured, hname, hmem]⟩⟩

/-! ## Renaming -/

/-- The other name for the old one. -/
def renamedTo (old new name : String) : String :=
  if name = old then new else name

/-- Renaming a parameter renames its free occurrences and keeps the others. -/
theorem occurrences_rename (old new : String) (e : Expression) :
    occurrences (substitute old (.parameter new) e) = (occurrences e).map (Occurrence.renamed old new) := by
  rw [occurrences_substitute, List.map_eq_flatMap]
  refine congrArg (List.flatMap · _) (funext fun o => ?_)
  rw [Occurrence.replaced, Occurrence.renamed]
  split <;> rfl

/-- A renamed occurrence stays free, unless a lambda around it has a parameter of the new name. -/
theorem isFree_renamed {old new : String} {o : Occurrence} (hfree : o.isFree = true) :
    (o.renamed old new).isFree = !o.isCaptured old new := by
  rw [Occurrence.renamed, hfree, Occurrence.isCaptured]
  by_cases hname : o.name = old
  · simp [hname, Occurrence.isFree]
  · simp [hname, hfree]

theorem name_renamed {old new : String} {o : Occurrence} (hfree : o.isFree = true) :
    (o.renamed old new).name = renamedTo old new o.name := by
  rw [Occurrence.renamed, hfree, renamedTo]
  by_cases hname : o.name = old <;> simp [hname]

/-- What is bound stays bound under its own name. -/
theorem isFree_of_isFree_renamed {old new : String} {o : Occurrence}
    (h : (o.renamed old new).isFree = true) : o.isFree = true := by
  rw [Occurrence.renamed] at h
  split at h
  · rename_i hfree
    exact (Bool.and_eq_true_iff.1 hfree).1
  · exact h

/-- Of the renamed free occurrences, those are free that are not captured. -/
theorem namesOfFree_renamed (old new : String) (all : List Occurrence) :
    namesOfFree (all.map (Occurrence.renamed old new))
      = (((all.filter Occurrence.isFree).filter (!Occurrence.isCaptured old new ·)).map
          Occurrence.name).map (renamedTo old new) := by
  induction all with
  | nil => rfl
  | cons o all ih =>
    rw [List.map_cons, ← List.singleton_append, namesOfFree_append, ih]
    by_cases hfree : o.isFree = true
    · by_cases hcaptured : o.isCaptured old new = true
      · simp [namesOfFree, isFree_renamed hfree, hfree, hcaptured]
      · simp [namesOfFree, isFree_renamed hfree, name_renamed hfree, hfree, hcaptured]
    · have hbound : ¬(o.renamed old new).isFree = true := fun h => hfree (isFree_of_isFree_renamed h)
      simp [namesOfFree, hfree, hbound]

/-- Renaming a parameter renames what is free if and only if it captures nothing: what is captured is no
longer among the free names. -/
theorem freeNames_rename_iff {old new : String} {e : Expression} :
    freeNames (substitute old (.parameter new) e) = (freeNames e).map (renamedTo old new) ↔
      ¬ e.Captures old new := by
  have hfree : (∀ o ∈ (occurrences e).filter Occurrence.isFree,
      (!Occurrence.isCaptured old new o) = true) ↔ ¬ e.Captures old new := by
    simp only [List.mem_filter, Captures]
    grind
  rw [freeNames_eq, freeNames_eq, occurrences_rename, namesOfFree_renamed, ← hfree, namesOfFree]
  constructor
  · intro h
    have hlength := congrArg List.length h
    simp only [List.length_map] at hlength
    exact List.length_filter_eq_length_iff.1 hlength
  · intro h
    rw [List.filter_eq_self.2 h]

/-! ## What is captured -/

/-- The `freeNames` after a substitution are the others of the expression and those of the replacement that no
lambda around a replaced occurrence binds, so all of them where nothing `Captures`. A `conjunction` of lambdas
renames the free occurrences of the second parameter, and keeps all of them free if and only if the first
parameter is not captured. -/
theorem freeNames_substitute (name : String) (replacement e : Expression) :
    (∀ other, other ∈ freeNames (substitute name replacement e) ↔
      other ∈ freeNames e ∧ other ≠ name ∨
        other ∈ freeNames replacement ∧
          ∃ o ∈ occurrences e, o.isFree = true ∧ o.name = name ∧ other ∉ o.binders) ∧
    ((∀ other ∈ freeNames replacement, ¬ e.Captures name other) → ∀ other,
      (other ∈ freeNames (substitute name replacement e) ↔
        other ∈ freeNames e ∧ other ≠ name ∨ name ∈ freeNames e ∧ other ∈ freeNames replacement)) ∧
    ∀ first test, ∃ rebound,
      (Lambda.mk [first] test).conjunction ⟨[name], e⟩
        = .ok ⟨[first], .binary (.connective .and) test rebound⟩ ∧
      occurrences rebound = (occurrences e).map (Occurrence.renamed name first) ∧
      (freeNames rebound = (freeNames e).map (renamedTo name first) ↔ ¬ e.Captures name first) :=
  ⟨fun _ => mem_freeNames_substitute, mem_freeNames_substitute_of_not_captures,
    fun first _ => ⟨substitute name (.parameter first) e, rfl, occurrences_rename name first e,
      freeNames_rename_iff⟩⟩

/-- The parameter stands beside a lambda with the parameter `z`, and inside of it. -/
theorem freeNames_substitute_beside :
    let e : Expression := .binary (.comparison .eq) (.parameter "x")
      (.invoke (.lambda ["z"] (.binary (.arithmetic .add) (.parameter "x") (.parameter "z"))) [.constant .null])
    (∀ other ∈ freeNames (.member (.parameter "y") "Id"), ¬ e.Captures "x" other) ∧
    "y" ∈ freeNames (substitute "x" (.member (.parameter "y") "Id") e) ∧
    "z" ∈ freeNames (substitute "x" (.parameter "z") e) ∧
    ∀ test, ∃ rebound, (Lambda.mk ["z"] test).conjunction ⟨["x"], e⟩
        = .ok ⟨["z"], .binary (.connective .and) test rebound⟩ ∧
      freeNames rebound ≠ (freeNames e).map (renamedTo "x" "z") := by
  intro e
  have hkept : ∀ other ∈ freeNames (.member (.parameter "y") "Id"), ¬ e.Captures "x" other := by
    simp [e, freeNames, Captures, occurrences, occurrencesOf, Occurrence.isCaptured, Occurrence.inside]
  have hcaptures : e.Captures "x" "z" := by
    simp [e, Captures, occurrences, occurrencesOf, Occurrence.isCaptured, Occurrence.inside,
      Occurrence.isFree]
  refine ⟨hkept, ?_, ?_, fun test => ?_⟩
  · refine ((freeNames_substitute "x" (.member (.parameter "y") "Id") e).2.1 hkept "y").2 (.inr ?_)
    simp [e, freeNames]
  · refine ((freeNames_substitute "x" (.parameter "z") e).1 "z").2 (.inr ⟨by simp [freeNames], ?_⟩)
    exact ⟨⟨"x", []⟩, by simp [e, occurrences], rfl, rfl, by simp⟩
  · obtain ⟨rebound, hmerged, -, hiff⟩ := (freeNames_substitute "x" (.parameter "z") e).2.2 "z" test
    exact ⟨rebound, hmerged, fun heq => hiff.1 heq hcaptures⟩

/-- A lambda captures what comes in under the name of its parameter, and so does one that is inside of a
merged lambda. -/
theorem freeNames_substitute_captured :
    ¬ ("y" ∈ freeNames (substitute "x" (.parameter "y") (.lambda ["y"] (.parameter "x"))) ↔
      "y" ∈ freeNames (.lambda ["y"] (.parameter "x")) ∧ "y" ≠ "x" ∨
        "x" ∈ freeNames (.lambda ["y"] (.parameter "x")) ∧ "y" ∈ freeNames (.parameter "y")) ∧
    (Lambda.mk ["x"] (.member (.parameter "x") "Flag")).conjunction ⟨["y"], .invoke
        (.lambda ["x"] (.binary (.comparison .eq) (.parameter "x") (.parameter "y"))) [.constant .null]⟩
      = .ok ⟨["x"], .binary (.connective .and) (.member (.parameter "x") "Flag") (.invoke
        (.lambda ["x"] (.binary (.comparison .eq) (.parameter "x") (.parameter "x"))) [.constant .null])⟩ := by
  refine ⟨?_, rfl⟩
  simp [substitute, freeNames]

end Expression
end RecordFilter
