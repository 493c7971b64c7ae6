import Mathlib.Data.List.Forall2
import Mathlib.Data.Option.Basic
import RecordFilter.Filter.Parser
import RecordFilter.Proofs.Outcomes

/-!
# Related parses

Two parses of a text are compared that read the texts in it in related ways, and that draw guids of their
own. The parser puts predicates together by their types alone, so it keeps every relation between
predicates that respects types and the ways to build predicates (`Predicate.IsCongruence`): both parses end
in the same error, or in related predicates. Equality is such a relation, and so is having the same type.

The texts that are read inside of a text are its parts (`Part`).

Main statement: `RelatedOn.parseTrimmed`.
-/

namespace RecordFilter

open Except (Related)

/-! ## Relations that are kept -/

namespace Predicate

/-- A relation between predicates of the same type that is kept when predicates are put together. -/
structure IsCongruence (R : Predicate → Predicate → Prop) : Prop where
  refl : ∀ q, R q q
  type_eq : ∀ {q q'}, R q q' → q.type = q'.type
  not : ∀ {q q'}, R q q' → R (.not q) (.not q')
  binary : ∀ {op left left' right right' type}, R left left' → R right right' →
    R (.binary op left right type) (.binary op left' right' type)
  call : ∀ {function arguments arguments' type}, List.Forall₂ R arguments arguments' →
    R (.call function arguments type) (.call function arguments' type)
  construct : ∀ {constructor arguments arguments' type}, List.Forall₂ R arguments arguments' →
    R (.construct constructor arguments type) (.construct constructor arguments' type)

/-- Equality is the finest congruence. -/
theorem isCongruence_eq : IsCongruence Eq where
  refl _ := rfl
  type_eq h := by rw [h]
  not h := by rw [h]
  binary hleft hright := by rw [hleft, hright]
  call h := by
    rw [List.forall₂_eq_eq_eq] at h
    rw [h]
  construct h := by
    rw [List.forall₂_eq_eq_eq] at h
    rw [h]

/-- Having the same type is a congruence: `combine`, `negate` and `apply` see the types only. -/
theorem isCongruence_type : IsCongruence fun q q' => q.type = q'.type where
  refl _ := rfl
  type_eq h := h
  not _ := rfl
  binary _ _ := rfl
  call _ := rfl
  construct _ := rfl

namespace IsCongruence

variable {R : Predicate → Predicate → Prop} {left left' right right' q q' : Predicate}

/-- `Predicate.combine` asks for the types of its operands. -/
theorem combine (hR : IsCongruence R) (op : BinaryOperator) (hleft : R left left') (hright : R right right') :
    Related R (combine op left right) (combine op left' right') := by
  rw [Predicate.combine, Predicate.combine, hR.type_eq hleft, hR.type_eq hright]
  exact (Related.refl (fun _ => rfl) _).map fun _ _ htype => htype ▸ hR.binary hleft hright

/-- `Predicate.negate` asks for the type of its operand. -/
theorem negate (hR : IsCongruence R) (h : R q q') : Related R (negate q) (negate q') := by
  rw [Predicate.negate, Predicate.negate, hR.type_eq h]
  split
  · exact .ok (hR.not h)
  · exact .error _

/-- Related arguments have the same types. -/
theorem map_type (hR : IsCongruence R) {arguments arguments' : List Predicate}
    (h : List.Forall₂ R arguments arguments') : arguments.map type = arguments'.map type := by
  induction h with
  | nil => rfl
  | cons h _ ih => rw [List.map_cons, List.map_cons, hR.type_eq h, ih]

/-- `Predicate.apply` asks for the types of its arguments. -/
theorem apply (hR : IsCongruence R) (function : Function) {arguments arguments' : List Predicate}
    (h : List.Forall₂ R arguments arguments') :
    Related R (apply function arguments) (apply function arguments') := by
  rw [Predicate.apply, Predicate.apply, hR.map_type h]
  exact (Related.refl (fun _ => rfl) _).map fun _ _ htype => htype ▸ hR.call h

end IsCongruence
end Predicate

namespace Filter.Literal

variable {R : Predicate → Predicate → Prop} {culture : Culture} {newGuid newGuid' : Guid}
  {expected : Option ValueType} {t : Text}

/-- A drawn guid is the constant that the word `newguid()` stands for, and nothing else depends on it. -/
theorem related_known? (hR : Predicate.IsCongruence R)
    (hdrawn : Text.eqIgnoreCase t "newguid()".toList = true → ∀ type,
      R (.constant (.guid newGuid) type) (.constant (.guid newGuid') type))
    (other : Except SyntaxProblem Predicate) :
    Related R ((known? culture newGuid expected t).getD other)
      ((known? culture newGuid' expected t).getD other) := by
  by_cases hword : Text.eqIgnoreCase t "newguid()".toList = true
  · unfold known?
    split
    · exact .ok (hR.refl _)
    split
    · exact .refl hR.refl _
    · exact .refl hR.refl _
    · rename_i type _ _
      by_cases hguid : type.underlying = .guid
      · rw [hguid]
        simp only [ofType?, guidWord?, if_pos hword]
        exact .ok (hdrawn hword _)
      · have hsame :
            ofType? culture newGuid type.underlying t = ofType? culture newGuid' type.underlying t := by
          unfold ofType?
          split
          · exact absurd ‹_› hguid
          · rfl
          · rfl
        rw [hsame]
        exact .refl hR.refl _
    · exact .refl hR.refl _
  · have hsame : known? culture newGuid expected t = known? culture newGuid' expected t := by
      simp only [known?, ofType?, guidWord?, if_neg hword]
    rw [hsame]
    exact .refl hR.refl _

end Filter.Literal

namespace FilterParser

open RecordFilter.Filter

/-! ## Parts of a text -/

/-- The texts inside of a trimmed text that the parser takes out of it. A missing second argument counts as an
empty text. -/
inductive Part (t : Text) : Text → Prop
  | left {set : TokenSet} (h : set ∈ tokenize t) : Part t set.left
  | right {set : TokenSet} (h : set ∈ tokenize t) : Part t set.right
  | inside {inside : Text} (h : stripEnclosing? t = some inside) : Part t inside
  | first {name arguments : Text} (h : Filter.functionCall? t = some (name, arguments)) :
    Part t (splitLastArgument arguments).1
  | second {name arguments : Text} (h : Filter.functionCall? t = some (name, arguments)) :
    Part t ((splitLastArgument arguments).2.getD [])
  | argument {name arguments argument : Text} (h : Filter.construction? t = some (name, arguments))
    (hargument : argument ∈ splitArguments arguments) : Part t argument

/-! ## Readers of parts -/

/-- Whether two parsers read some texts with the same error, or as related predicates. -/
def RelatedOn (R : Predicate → Predicate → Prop) {n : Nat} (P : Text → Prop) (parse parse' : Operand n) :
    Prop :=
  ∀ u h expected, P u → Related (Option.Rel R) (parse u h expected) (parse' u h expected)

/-- What two parses have combined so far. -/
def RelatedSofar (R : Predicate → Predicate → Prop) (sofar sofar' : Accumulator) : Prop :=
  Option.Rel R sofar.1 sofar'.1 ∧ sofar.2 = sofar'.2

variable {R : Predicate → Predicate → Prop} {n : Nat} {P : Text → Prop} {parse parse' : Operand n}
  {schema other : RecordType}

/-- `extend` combines what there is so far with one predicate more. -/
theorem related_extend (hR : Predicate.IsCongruence R) (text : Text) {sofar sofar' : Accumulator}
    (hsofar : RelatedSofar R sofar sofar') {q q' : Predicate} (hq : R q q') :
    Related R (extend text sofar q) (extend text sofar' q') := by
  obtain ⟨existing, op⟩ := sofar
  obtain ⟨existing', op'⟩ := sofar'
  obtain ⟨hexisting, rfl⟩ := hsofar
  cases hexisting with
  | none => exact .ok hq
  | some hexisting =>
    cases op with
    | none => exact .ok hq
    | some op => exact (hR.combine op hexisting hq).mapError _

/-- `operate` combines the two sides of a set. -/
theorem related_operate (hR : Predicate.IsCongruence R) (set : TokenSet) {left left' right right' : Predicate}
    (hleft : R left left') (hright : R right right') :
    Related R (operate set left right) (operate set left' right') := by
  unfold operate
  cases BinaryOperator.ofKeyword? set.operation with
  | none => exact .error _
  | some op => exact (hR.combine op hleft hright).mapError _

/-- `applied` counts the arguments and asks for their types. -/
theorem related_applied (hR : Predicate.IsCongruence R) (text : Text) (function : Function)
    {arguments arguments' : List Predicate} (h : List.Forall₂ R arguments arguments') :
    Related R (applied text function arguments) (applied text function arguments') := by
  unfold applied
  rw [h.length_eq]
  split
  · exact .error _
  · exact (hR.apply function h).mapError _

/-- The scope of a set only depends on the properties that are found in its sides. -/
theorem scopeType?_eq {P : Text → Prop}
    (hproperty : ∀ u, P u → firstProperty? schema u = firstProperty? other u)
    {set : TokenSet} (hset : P set.left ∧ P set.right) : scopeType? schema set = scopeType? other set := by
  unfold scopeType?
  rw [hproperty _ hset.1, hproperty _ hset.2]

/-- The first results of related functions on a list are related. -/
theorem rel_findSome? {α β : Type} {R : β → β → Prop} {f g : α → Option β} (h : ∀ a, Option.Rel R (f a) (g a)) :
    ∀ l : List α, Option.Rel R (l.findSome? f) (l.findSome? g)
  | [] => .none
  | a :: l => by
    have hfirst := h a
    rw [List.findSome?_cons, List.findSome?_cons]
    generalize f a = x, g a = y at hfirst
    cases hfirst with
    | none => exact rel_findSome? h l
    | some hab => exact .some hab

namespace RelatedOn

/-- `required` rejects an empty text in both parses. -/
theorem required (h : RelatedOn R P parse parse') {t : Text} (ht : P t) (hlt : t.length < n)
    (expected : Option ValueType) :
    Related R (required parse t hlt expected) (required parse' t hlt expected) := by
  have hread := h t hlt expected ht
  unfold FilterParser.required
  generalize parse t hlt expected = x, parse' t hlt expected = y at hread
  cases hread with
  | error e => exact .error e
  | ok hread =>
    cases hread with
    | none => exact .error _
    | some hq => exact .ok hq

/-- `operand` reads the right side with the type of the left one, which is the same in both parses. -/
theorem operand (hR : Predicate.IsCongruence R) (h : RelatedOn R P parse parse') {set : TokenSet}
    (hset : P set.left ∧ P set.right) (hleft : set.left.length < n) (hright : set.right.length < n)
    (expected : Option ValueType) :
    Related R (operand parse set expected hleft hright) (operand parse' set expected hleft hright) := by
  have hfirst := h.required hset.1 hleft expected
  unfold FilterParser.operand
  generalize FilterParser.required parse set.left hleft expected = x,
    FilterParser.required parse' set.left hleft expected = y at hfirst
  cases hfirst with
  | error e => exact .error e
  | @ok left left' hq =>
    have hsecond := h set.right hright (some left.type) hset.2
    simp only [← hR.type_eq hq]
    generalize parse set.right hright (some left.type) = x, parse' set.right hright (some left.type) = y
      at hsecond
    cases hsecond with
    | error e => exact .error e
    | ok hsecond =>
      cases hsecond with
      | none => exact .ok hq
      | some hright => exact related_operate hR set hq hright

/-- `negation` adds the negated right side to what there is so far. -/
theorem negation (hR : Predicate.IsCongruence R) (h : RelatedOn R P parse parse') {set : TokenSet}
    {expected : Option ValueType} (hset : P set.right) (text : Text) {sofar sofar' : Accumulator}
    (hsofar : RelatedSofar R sofar sofar') (hright : set.right.length < n) :
    Related (Option.Rel R) (negation parse text sofar set expected hright)
      (negation parse' text sofar' set expected hright) := by
  have hread := h set.right hright expected hset
  unfold FilterParser.negation
  generalize parse set.right hright expected = x, parse' set.right hright expected = y at hread
  cases hread with
  | error e => exact .error e
  | ok hread =>
    cases hread with
    | none => exact .ok hsofar.1
    | @some inner inner' hq =>
      have hnegated : Related R (blame set.right (Predicate.negate inner))
        (blame set.right (Predicate.negate inner')) :=
        (hR.negate hq).mapError _
      dsimp only
      generalize blame set.right (Predicate.negate inner) = x, blame set.right (Predicate.negate inner') = y
        at hnegated
      cases hnegated with
      | error e => exact .error e
      | ok hq => exact (related_extend hR text hsofar hq).map fun _ _ => .some

/-- By induction on the sets: both parses have combined related predicates `RelatedSofar`. -/
theorem foldSets (hR : Predicate.IsCongruence R) (h : RelatedOn R P parse parse')
    (hproperty : ∀ u, P u → firstProperty? schema u = firstProperty? other u) (text : Text)
    {expected : Option ValueType} {sets : List TokenSet} (hsets : ∀ set ∈ sets, P set.left ∧ P set.right) :
    ∀ {sofar sofar' : Accumulator} (hlt : ∀ set ∈ sets, set.left.length < n ∧ set.right.length < n),
      RelatedSofar R sofar sofar' →
      Related (Option.Rel R) (foldSets schema parse text expected sofar sets hlt)
        (foldSets other parse' text expected sofar' sets hlt) := by
  induction sets with
  | nil => exact fun _ hsofar => .ok hsofar.1
  | cons set sets ih =>
    intro sofar sofar' hlt hsofar
    have hset := hsets set List.mem_cons_self
    have hrest := @ih fun other hother => hsets other (List.mem_cons_of_mem set hother)
    simp only [FilterParser.foldSets, scopeType?_eq hproperty hset]
    split
    · split
      · exact h.negation hR hset.2 text hsofar _
      · split
        · exact .error _
        · exact hrest _ ⟨hsofar.1, rfl⟩
    · have hoperand := h.operand hR hset (hlt set List.mem_cons_self).1 (hlt set List.mem_cons_self).2
        ((scopeType? other set).or expected)
      generalize FilterParser.operand parse set _ _ _ = x, FilterParser.operand parse' set _ _ _ = y at hoperand
      cases hoperand with
      | error e => exact .error e
      | @ok current current' hcurrent =>
        have hcombined := related_extend hR text hsofar hcurrent
        dsimp only
        generalize extend text sofar current = x, extend text sofar' current' = y at hcombined
        cases hcombined with
        | error e => exact .error e
        | ok hcombined => exact hrest _ ⟨.some hcombined, rfl⟩

/-- The type that is expected of a second argument is the same in both parses. -/
theorem otherArguments (hR : Predicate.IsCongruence R) (h : RelatedOn R P parse parse') (function : Function)
    {a a' : Predicate} (ha : R a a') {second? : Option Text}
    (hsecond : ∀ second, second? = some second → P second)
    (hlt : ∀ second, second? = some second → second.length < n) :
    Related (List.Forall₂ R) (otherArguments parse function a second? hlt)
      (otherArguments parse' function a' second? hlt) := by
  cases second? with
  | none => exact .ok .nil
  | some second =>
    simp only [FilterParser.otherArguments, hR.type_eq ha]
    exact (h.required (hsecond second rfl) _ _).map fun _ _ hb => .cons hb .nil

/-- By induction on the texts: the same arguments are compatible with their parameters. -/
theorem constructorArguments (hR : Predicate.IsCongruence R) (h : RelatedOn R P parse parse')
    {tokens : List Text} (htokens : ∀ token ∈ tokens, P token) :
    ∀ (hlt : ∀ token ∈ tokens, token.length < n) (parameters : List ValueType),
      Related (List.Forall₂ R) (constructorArguments parse tokens hlt parameters)
        (constructorArguments parse' tokens hlt parameters) := by
  induction tokens with
  | nil => exact fun _ _ => .ok .nil
  | cons token tokens ih =>
    intro hlt parameters
    cases parameters with
    | nil => exact .ok .nil
    | cons parameter parameters =>
      have hrest := ih (fun other hother => htokens other (List.mem_cons_of_mem token hother))
        (fun other hother => hlt other (List.mem_cons_of_mem token hother)) parameters
      have hfirst := h.required (htokens token List.mem_cons_self) (hlt token List.mem_cons_self)
        (some parameter)
      simp only [FilterParser.constructorArguments]
      generalize FilterParser.required parse token _ _ = x, FilterParser.required parse' token _ _ = y at hfirst
      cases hfirst with
      | error e => exact .error e
      | ok hfirst =>
        dsimp only
        rw [hR.type_eq hfirst]
        split
        · exact hrest.map fun _ _ => .cons hfirst
        · exact .error _

/-- Both parses find the first constructor whose arguments can be parsed. -/
theorem firstConstruction? (hR : Predicate.IsCongruence R) (h : RelatedOn R P parse parse') {tokens : List Text}
    (htokens : ∀ token ∈ tokens, P token) (hlt : ∀ token ∈ tokens, token.length < n) (type : ValueType)
    (constructors : List Constructor) :
    Option.Rel R (firstConstruction? parse tokens hlt type constructors)
      (firstConstruction? parse' tokens hlt type constructors) := by
  refine rel_findSome? (fun constructor => ?_) constructors
  split
  · exact .none
  · have harguments := h.constructorArguments hR htokens hlt constructor.parameters
    generalize FilterParser.constructorArguments parse tokens hlt _ = x,
      FilterParser.constructorArguments parse' tokens hlt _ = y at harguments
    cases harguments with
    | error e => exact .none
    | ok harguments => exact .some (hR.construct harguments)

variable {t : Text} {read read' : Operand t.length}

/-- The arguments of a construction are parts of its text. -/
theorem construction? (hR : Predicate.IsCongruence R) (h : RelatedOn R (Part t) read read')
    (registry : TypeRegistry) (expected : Option ValueType) :
    Option.Rel R (construction? registry t read expected) (construction? registry t read' expected) := by
  unfold FilterParser.construction?
  split
  · exact .none
  · rename_i name arguments hcall
    have harguments : ∀ argument ∈ splitArguments arguments, Part t argument :=
      fun _ hargument => .argument hcall hargument
    dsimp only
    split
    · split
      · exact h.firstConstruction? hR harguments _ _ _
      · exact .none
    · exact .none

/-- The arguments of a call are parts of its text. -/
theorem functionCall? (hR : Predicate.IsCongruence R) (h : RelatedOn R (Part t) read read')
    (hproperty : ∀ u, Part t u → firstProperty? schema u = firstProperty? other u)
    (expected : Option ValueType) :
    Option.Rel (Related R) (functionCall? schema t read expected) (functionCall? other t read' expected) := by
  unfold FilterParser.functionCall?
  split
  · exact .none
  · rename_i name arguments hcall
    have hfirst := Part.first hcall
    have hsecond := Part.second hcall
    have hscope := @scopeType?_eq schema other (Part t) hproperty
      ⟨(splitLastArgument arguments).1, name, (splitLastArgument arguments).2.getD []⟩ ⟨hfirst, hsecond⟩
    refine .some ?_
    simp only [hscope]
    split
    · exact .error _
    rename_i function _
    have hread := h.required hfirst
      (Nat.lt_of_le_of_lt (length_splitLastArgument_le arguments).1 (length_functionCall? hcall))
      ((scopeType? other
        ⟨(splitLastArgument arguments).1, name, (splitLastArgument arguments).2.getD []⟩).or expected)
    generalize FilterParser.required read _ _ _ = x, FilterParser.required read' _ _ _ = y at hread
    cases hread with
    | error e => exact .error e
    | @ok a a' ha =>
      have hothers := h.otherArguments hR function ha (fun second hlast => by
        rw [hlast] at hsecond
        exact hsecond) (fun second hlast =>
          Nat.lt_of_le_of_lt ((length_splitLastArgument_le arguments).2 second hlast)
            (length_functionCall? hcall))
      dsimp only
      generalize FilterParser.otherArguments read function a _ _ = x,
        FilterParser.otherArguments read' function a' _ _ = y at hothers
      cases hothers with
      | error e => exact .error e
      | ok hothers => exact related_applied hR t function (.cons ha hothers)

/-- The text itself may be a property, so the search in it counts, too. -/
theorem atom (hR : Predicate.IsCongruence R) (h : RelatedOn R (Part t) read read') {p : FilterParser}
    {newGuid newGuid' : Guid} {expected : Option ValueType}
    (hproperty : ∀ u, Part t u → firstProperty? p.schema u = firstProperty? other u)
    (hself : firstProperty? p.schema t = firstProperty? other t)
    (hdrawn : Text.eqIgnoreCase t "newguid()".toList = true → ∀ type,
      R (.constant (.guid newGuid) type) (.constant (.guid newGuid') type)) :
    Related R (atom p newGuid t read expected) (atom { p with schema := other } newGuid' t read' expected) := by
  have hconstruction := h.construction? hR p.registry expected
  have hcall := h.functionCall? hR hproperty expected
  unfold FilterParser.atom
  split
  · exact .refl hR.refl _
  dsimp only
  generalize FilterParser.construction? p.registry t read expected = x,
    FilterParser.construction? p.registry t read' expected = y at hconstruction
  cases hconstruction with
  | some hq => exact .ok hq
  | none =>
    generalize FilterParser.functionCall? p.schema t read expected = x,
      FilterParser.functionCall? other t read' expected = y at hcall
    cases hcall with
    | some hq => exact hq
    | none =>
      dsimp only
      rw [hself]
      split
      · exact .ok (hR.refl _)
      · exact (Filter.Literal.related_known? hR hdrawn _).mapError _

/-- Both parses of a text end in the same error or in related predicates, if those of its parts do. -/
theorem parseTrimmed (hR : Predicate.IsCongruence R) (h : RelatedOn R (Part t) read read') {p : FilterParser}
    {newGuid newGuid' : Guid} {expected : Option ValueType}
    (hproperty : ∀ u, Part t u → firstProperty? p.schema u = firstProperty? other u)
    (hself : firstProperty? p.schema t = firstProperty? other t)
    (hdrawn : Text.eqIgnoreCase t "newguid()".toList = true → ∀ type,
      R (.constant (.guid newGuid) type) (.constant (.guid newGuid') type)) :
    Related (Option.Rel R) (parseTrimmed p newGuid t read expected)
      (parseTrimmed { p with schema := other } newGuid' t read' expected) := by
  have hsets : ∀ set ∈ tokenize t, Part t set.left ∧ Part t set.right :=
    fun _ hset => ⟨.left hset, .right hset⟩
  unfold FilterParser.parseTrimmed
  split
  · exact .ok .none
  split
  · split
    · rename_i inside hinside
      exact h inside _ expected (.inside hinside)
    · exact (h.atom hR hproperty hself hdrawn).map fun _ _ => .some
  · exact h.foldSets hR hproperty t hsets _ ⟨.none, rfl⟩

end RelatedOn
end FilterParser
end RecordFilter
