import Mathlib.Data.List.Forall2
import RecordFilter.Proofs.ParserTyping
import RecordFilter.Proofs.TokenSets

/-!
# Steps of the parser

When each function of the parser has a result, stated for the results of the functions it calls. The
text that errors blame is left out: two outcomes count as the same if they have the same results
(`SameResult`).

Main statements: `parseExpression_of_set` for a text with a single token set, and
`sameResult_foldSets`, which says that only the token sets of a text matter.
-/

namespace RecordFilter

namespace TokenSet

/-- The set without blanks around its sides. -/
def trim (set : TokenSet) : TokenSet :=
  ⟨Text.trim set.left, set.operation, Text.trim set.right⟩

@[simp] theorem trim_mk (left operation right : Text) :
    (TokenSet.mk left operation right).trim = ⟨Text.trim left, operation, Text.trim right⟩ := rfl

@[simp] theorem trim_marker (word : Text) : (marker word).trim = marker word := rfl

theorem operation_congr {set other : TokenSet} (h : set.trim = other.trim) :
    set.operation = other.operation := by
  have hoperation := congrArg operation h
  exact hoperation

theorem isBlank_congr {set other : TokenSet} (h : set.trim = other.trim) :
    Text.isBlank set.left = Text.isBlank other.left ∧
      Text.isBlank set.right = Text.isBlank other.right :=
  ⟨Text.isBlank_congr (congrArg left h), Text.isBlank_congr (congrArg right h)⟩

end TokenSet

namespace FilterParser

open RecordFilter.Filter

/-- Two outcomes that have the same results and may blame different texts for an error. -/
def SameResult (x y : Outcome) : Prop :=
  ∀ q, x = .ok q ↔ y = .ok q

theorem SameResult.refl (x : Outcome) : SameResult x x :=
  fun _ => Iff.rfl

theorem SameResult.symm {x y : Outcome} (h : SameResult x y) : SameResult y x :=
  fun q => (h q).symm

theorem SameResult.trans {x y z : Outcome} (hxy : SameResult x y) (hyz : SameResult y z) :
    SameResult x z :=
  fun q => (hxy q).trans (hyz q)

/-- The parser for texts of fewer than `n` characters. -/
def inner (p : FilterParser) (newGuid : Guid) (n : Nat) : Operand n :=
  fun t _ expected => p.parseExpression newGuid t expected

/-! ## Blanks -/

/-- The parser reads a trimmed text with its own reading of every shorter text. -/
theorem parseExpression_eq (p : FilterParser) (newGuid : Guid) (t : Text) (expected : Option ValueType) :
    p.parseExpression newGuid t expected =
      parseTrimmed p newGuid (Text.trim t) (p.inner newGuid (Text.trim t).length) expected := by
  rw [parseExpression]
  rfl

/-- Blanks around a text make no difference. -/
@[simp] theorem parseExpression_trim (p : FilterParser) (newGuid : Guid) (t : Text)
    (expected : Option ValueType) :
    p.parseExpression newGuid (Text.trim t) expected = p.parseExpression newGuid t expected := by
  rw [parseExpression_eq p newGuid (Text.trim t), parseExpression_eq p newGuid t, Text.trim_trim]

/-- Blanks around a text make no difference to its reading. -/
theorem parseExpression_congr {p : FilterParser} {newGuid : Guid} {t u : Text} (h : Text.trim t = Text.trim u)
    (expected : Option ValueType) :
    p.parseExpression newGuid t expected = p.parseExpression newGuid u expected := by
  rw [← parseExpression_trim p newGuid t, ← parseExpression_trim p newGuid u, h]

theorem firstProperty?_congr (schema : RecordType) {t u : Text} (h : Text.trim t = Text.trim u) :
    firstProperty? schema t = firstProperty? schema u := by
  rw [firstProperty?, firstProperty?, h]

theorem scopeType?_eq_of_firstProperty? {schema : RecordType} {set other : TokenSet}
    (hoperation : isCombinator set.operation = isCombinator other.operation)
    (hleft : firstProperty? schema set.left = firstProperty? schema other.left)
    (hright : firstProperty? schema set.right = firstProperty? schema other.right) :
    scopeType? schema set = scopeType? schema other := by
  unfold scopeType?
  rw [hoperation, hleft, hright]

/-- Blanks around the sides of a token set make no difference to its scope. -/
theorem scopeType?_congr (schema : RecordType) {set other : TokenSet} (h : set.trim = other.trim) :
    scopeType? schema set = scopeType? schema other :=
  scopeType?_eq_of_firstProperty? (by rw [TokenSet.operation_congr h])
    (firstProperty?_congr schema (congrArg TokenSet.left h))
    (firstProperty?_congr schema (congrArg TokenSet.right h))

section TokenSets

variable {n : Nat} {schema : RecordType} {parse : Operand n} {text : Text}
  {expected : Option ValueType}

/-! ## One token set -/

/-- Without an operator before it, an operand stands for itself. -/
@[simp] theorem extend_none (text : Text) (op : Option BinaryOperator) (operand : Predicate) :
    extend text (none, op) operand = .ok operand := by
  cases op <;> rfl

@[simp] theorem extend_some (text : Text) (existing operand : Predicate) :
    extend text (some existing, none) operand = .ok operand := rfl

/-- An operand behind an operator is combined with what is held. -/
theorem extend_eq_ok_iff {existing operand combined : Predicate} {op : BinaryOperator} :
    extend text (some existing, some op) operand = .ok combined ↔
      Predicate.combine op existing operand = .ok combined :=
  blame_eq_ok_iff

theorem extend_text (text other : Text) {sofar : Accumulator} {operand combined : Predicate} :
    extend text sofar operand = .ok combined ↔ extend other sofar operand = .ok combined := by
  obtain ⟨existing, op⟩ := sofar
  cases existing with
  | none => simp
  | some existing =>
    cases op with
    | none => simp
    | some op => rw [extend_eq_ok_iff, extend_eq_ok_iff]

/-- `operate` combines two sides under the operator its keyword names. -/
theorem operate_eq_ok_iff {set : TokenSet} {left right q : Predicate} :
    operate set left right = .ok q ↔
      ∃ op, BinaryOperator.ofKeyword? set.operation = some op ∧
        Predicate.combine op left right = .ok q := by
  unfold operate
  simp only
  split
  · rename_i hnone
    simp [hnone]
  · rename_i op hop
    simp [hop, blame_eq_ok_iff]

/-- Behind a known keyword the sides are combined. -/
theorem operate_of_keyword {set : TokenSet} {op : BinaryOperator} {left right q : Predicate}
    (h : BinaryOperator.ofKeyword? set.operation = some op) :
    operate set left right = .ok q ↔ Predicate.combine op left right = .ok q := by
  rw [operate_eq_ok_iff, h]
  simp

/-- A set has a result if its left side has one, and the right side has one that fits, or nothing. -/
theorem operand_eq_ok_iff {set : TokenSet} {scope : Option ValueType} {hleft : set.left.length < n}
    {hright : set.right.length < n} {q : Predicate} :
    operand parse set scope hleft hright = .ok q ↔
      ∃ left, parse set.left hleft scope = .ok (some left) ∧
        ((parse set.right hright (some left.type) = .ok none ∧ left = q) ∨
          ∃ right, parse set.right hright (some left.type) = .ok (some right) ∧
            operate set left right = .ok q) := by
  unfold operand
  cases hl : required parse set.left hleft scope with
  | error error =>
    refine ⟨fun h => (by cases h), ?_⟩
    rintro ⟨left, hl', -⟩
    rw [required_eq_ok_iff.2 hl'] at hl
    cases hl
  | ok left =>
    have hl' := required_eq_ok_iff.1 hl
    simp only [hl', Except.ok.injEq, Option.some.injEq, exists_eq_left']
    cases hr : parse set.right hright (some left.type) with
    | error error => simp
    | ok found => cases found <;> simp

/-- `negation` keeps what is held where there is nothing to negate, and joins the negated operand otherwise. -/
theorem negation_eq_ok_iff {sofar : Accumulator} {set : TokenSet} {scope : Option ValueType}
    {hright : set.right.length < n} {q : Option Predicate} :
    negation parse text sofar set scope hright = .ok q ↔
      (parse set.right hright scope = .ok none ∧ sofar.1 = q) ∨
        ∃ operand negated combined, parse set.right hright scope = .ok (some operand) ∧
          Predicate.negate operand = .ok negated ∧ extend text sofar negated = .ok combined ∧
          some combined = q := by
  unfold negation
  cases hr : parse set.right hright scope with
  | error error => simp
  | ok found =>
    cases found with
    | none => simp
    | some operand =>
      simp only [Except.ok.injEq, reduceCtorEq, false_and, false_or, Option.some.injEq]
      constructor
      · intro h
        split at h
        · cases h
        · rename_i negated hnegated
          obtain ⟨combined, hcombined, heq⟩ := Except.map_eq_ok_iff.1 h
          exact ⟨operand, negated, combined, rfl, blame_eq_ok_iff.1 hnegated, hcombined, heq⟩
      · rintro ⟨_, negated, combined, rfl, hnegated, hcombined, rfl⟩
        rw [blame_eq_ok_iff.2 hnegated]
        exact Except.map_eq_ok_iff.2 ⟨combined, hcombined, rfl⟩

/-! ## Several token sets -/

theorem foldSets_nil {sofar : Accumulator} {h : ∀ set ∈ [], _} :
    foldSets schema parse text expected sofar [] h = .ok sofar.1 := rfl

/-- A set with a left side is combined with what there is so far. -/
theorem foldSets_operand {sofar : Accumulator} {set : TokenSet} {sets : List TokenSet}
    {h : ∀ other ∈ set :: sets, other.left.length < n ∧ other.right.length < n}
    (hleft : Text.isBlank set.left = false) {q : Option Predicate} :
    foldSets schema parse text expected sofar (set :: sets) h = .ok q ↔
      ∃ current combined,
        operand parse set ((scopeType? schema set).or expected) (h set List.mem_cons_self).1
          (h set List.mem_cons_self).2 = .ok current ∧
        extend text sofar current = .ok combined ∧
        foldSets schema parse text expected (some combined, none) sets
          (fun other hother => h other (List.mem_cons_of_mem set hother)) = .ok q := by
  rw [foldSets]
  simp only [hleft, Bool.false_eq_true, if_false]
  split
  · rename_i herror
    simp [herror]
  · rename_i current hcurrent
    split
    · rename_i herror
      simp [hcurrent, herror]
    · rename_i combined hcombined
      simp [hcurrent, hcombined]

/-- A negation ends the sets. -/
theorem foldSets_not {sofar : Accumulator} {set : TokenSet} {sets : List TokenSet}
    {h : ∀ other ∈ set :: sets, other.left.length < n ∧ other.right.length < n}
    (hleft : Text.isBlank set.left = true)
    (hnot : Text.eqIgnoreCase set.operation "not".toList = true) :
    foldSets schema parse text expected sofar (set :: sets) h =
      negation parse text sofar set ((scopeType? schema set).or expected)
        (h set List.mem_cons_self).2 := by
  rw [foldSets]
  simp only [hleft, hnot, if_true]

/-- A marker sets the operator for the next operand. -/
theorem foldSets_marker {sofar : Accumulator} {set : TokenSet} {sets : List TokenSet}
    {h : ∀ other ∈ set :: sets, other.left.length < n ∧ other.right.length < n}
    (hleft : Text.isBlank set.left = true)
    (hnot : Text.eqIgnoreCase set.operation "not".toList = false)
    (hright : Text.isBlank set.right = true) :
    foldSets schema parse text expected sofar (set :: sets) h =
      foldSets schema parse text expected (sofar.1, BinaryOperator.ofKeyword? set.operation) sets
        (fun other hother => h other (List.mem_cons_of_mem set hother)) := by
  rw [foldSets]
  simp only [hleft, hnot, hright, if_true, Bool.false_eq_true, if_false, Bool.not_true]

/-- A token set with a right side and no left one, other than a negation, is an error. -/
theorem foldSets_missingLeft {sofar : Accumulator} {set : TokenSet} {sets : List TokenSet}
    {h : ∀ other ∈ set :: sets, other.left.length < n ∧ other.right.length < n}
    (hleft : Text.isBlank set.left = true)
    (hnot : Text.eqIgnoreCase set.operation "not".toList = false)
    (hright : Text.isBlank set.right = false) {q : Option Predicate} :
    foldSets schema parse text expected sofar (set :: sets) h ≠ .ok q := by
  rw [foldSets]
  simp only [hleft, hnot, hright, if_true, Bool.false_eq_true, if_false, Bool.not_false]
  intro hq
  cases hq

/-- What has been done with the first set when there is a result: it is combined with what there is so
far, it is a negation, which ends the sets, or it is a marker. -/
theorem foldSets_cases {sofar : Accumulator} {set : TokenSet} {sets : List TokenSet}
    {h : ∀ other ∈ set :: sets, other.left.length < n ∧ other.right.length < n}
    {q : Option Predicate} (hq : foldSets schema parse text expected sofar (set :: sets) h = .ok q) :
    (Text.isBlank set.left = false ∧ ∃ current combined,
        operand parse set ((scopeType? schema set).or expected) (h set List.mem_cons_self).1
          (h set List.mem_cons_self).2 = .ok current ∧
        extend text sofar current = .ok combined ∧
        foldSets schema parse text expected (some combined, none) sets
          (fun other hother => h other (List.mem_cons_of_mem set hother)) = .ok q) ∨
      (Text.isBlank set.left = true ∧ Text.eqIgnoreCase set.operation "not".toList = true ∧
        negation parse text sofar set ((scopeType? schema set).or expected)
          (h set List.mem_cons_self).2 = .ok q) ∨
      (Text.isBlank set.left = true ∧ Text.eqIgnoreCase set.operation "not".toList = false ∧
        Text.isBlank set.right = true ∧
        foldSets schema parse text expected (sofar.1, BinaryOperator.ofKeyword? set.operation) sets
          (fun other hother => h other (List.mem_cons_of_mem set hother)) = .ok q) := by
  cases hleft : Text.isBlank set.left with
  | false => exact .inl ⟨rfl, (foldSets_operand hleft).1 hq⟩
  | true =>
    cases hnot : Text.eqIgnoreCase set.operation "not".toList with
    | true =>
      rw [foldSets_not hleft hnot] at hq
      exact .inr (.inl ⟨rfl, rfl, hq⟩)
    | false =>
      cases hright : Text.isBlank set.right with
      | true =>
        rw [foldSets_marker hleft hnot hright] at hq
        exact .inr (.inr ⟨rfl, rfl, rfl, hq⟩)
      | false => exact absurd hq (foldSets_missingLeft hleft hnot hright)

section Alike

variable {p : FilterParser} {newGuid : Guid} {m : Nat} {other : Text} {set set' : TokenSet}
    {scope : Option ValueType}

/-- Two token sets of the same operator, in any case, whose sides are read alike. -/
structure ReadAlike (p : FilterParser) (newGuid : Guid) (set set' : TokenSet) : Prop where
  operation : Text.lowerAscii set.operation = Text.lowerAscii set'.operation
  isBlankLeft : Text.isBlank set.left = Text.isBlank set'.left
  isBlankRight : Text.isBlank set.right = Text.isBlank set'.right
  scope : scopeType? p.schema set = scopeType? p.schema set'
  left : ∀ expected,
    SameResult (p.parseExpression newGuid set.left expected) (p.parseExpression newGuid set'.left expected)
  right : ∀ expected,
    SameResult (p.parseExpression newGuid set.right expected) (p.parseExpression newGuid set'.right expected)

theorem eqIgnoreCase_congr {word word' : Text} (h : Text.lowerAscii word = Text.lowerAscii word')
    (keyword : Text) : Text.eqIgnoreCase word keyword = Text.eqIgnoreCase word' keyword := by
  unfold Text.eqIgnoreCase
  rw [h]

/-- Operators are looked up without regard to the case of ASCII letters. -/
theorem ofKeyword?_congr {word word' : Text} (h : Text.lowerAscii word = Text.lowerAscii word') :
    BinaryOperator.ofKeyword? word = BinaryOperator.ofKeyword? word' := by
  unfold BinaryOperator.ofKeyword? Text.eqIgnoreCase
  rw [h]

/-- The word of a comparison, in any case, is an operator that does not connect. -/
theorem isOperation_of_ofKeyword? {word : Text} {op : Comparison}
    (h : BinaryOperator.ofKeyword? word = some (.comparison op)) :
    isOperation word = true ∧ isCombinator word = false := by
  unfold BinaryOperator.ofKeyword? at h
  have heq := List.find?_some h
  simp only [BinaryOperator.keyword] at heq
  unfold isOperation isCombinator
  rw [← isOneOf_congr _ heq, ← isOneOf_congr _ heq]
  cases op <;> decide

/-- Token sets that are equal up to blanks are read alike. -/
theorem ReadAlike.of_trim (p : FilterParser) (newGuid : Guid) (h : set.trim = set'.trim) :
    ReadAlike p newGuid set set' := by
  obtain ⟨hleft, hright⟩ := TokenSet.isBlank_congr h
  refine ⟨congrArg Text.lowerAscii (TokenSet.operation_congr h), hleft, hright,
    scopeType?_congr p.schema h, fun expected => ?_, fun expected => ?_⟩
  · rw [parseExpression_congr (congrArg TokenSet.left h) expected]
    exact SameResult.refl _
  · rw [parseExpression_congr (congrArg TokenSet.right h) expected]
    exact SameResult.refl _

/-- `operand` gives the same for token sets that are read alike, at any bounds. -/
theorem operand_congr (h : ReadAlike p newGuid set set') {hleft hright hleft' hright'} {q : Predicate} :
    operand (p.inner newGuid n) set scope hleft hright = .ok q ↔
      operand (p.inner newGuid m) set' scope hleft' hright' = .ok q := by
  simp only [operand_eq_ok_iff, operate_eq_ok_iff, inner, h.left _ _, h.right _ _,
    ofKeyword?_congr h.operation]

/-- `negation` gives the same for token sets that are read alike, at any bounds. -/
theorem negation_congr (h : ReadAlike p newGuid set set') {sofar : Accumulator} {hright hright'}
    {q : Option Predicate} :
    negation (p.inner newGuid n) text sofar set scope hright = .ok q ↔
      negation (p.inner newGuid m) other sofar set' scope hright' = .ok q := by
  simp only [negation_eq_ok_iff, extend_text text other, inner, h.right _ _]

/-- Only what the token sets are read as matters for the result, and not the text that they come from. -/
theorem sameResult_foldSets_of_alike {sets sets' : List TokenSet}
    (hsame : List.Forall₂ (ReadAlike p newGuid) sets sets') : ∀ {sofar : Accumulator} {h h'},
    SameResult (foldSets p.schema (p.inner newGuid n) text expected sofar sets h)
      (foldSets p.schema (p.inner newGuid m) other expected sofar sets' h') := by
  induction hsame with
  | nil => exact SameResult.refl _
  | @cons set set' sets sets' hset _ ih =>
    intro sofar h h' q
    cases hleft : Text.isBlank set.left with
    | false =>
      rw [foldSets_operand hleft, foldSets_operand (hset.isBlankLeft.symm.trans hleft), hset.scope]
      exact exists_congr fun current => exists_congr fun combined =>
        and_congr (operand_congr hset) (and_congr (extend_text text other) (ih q))
    | true =>
      have hleft' := hset.isBlankLeft.symm.trans hleft
      have hkeyword := eqIgnoreCase_congr hset.operation "not".toList
      cases hnot : Text.eqIgnoreCase set.operation "not".toList with
      | true =>
        rw [foldSets_not hleft hnot, foldSets_not hleft' (hkeyword.symm.trans hnot), hset.scope]
        exact negation_congr hset
      | false =>
        have hnot' := hkeyword.symm.trans hnot
        cases hright : Text.isBlank set.right with
        | true =>
          rw [foldSets_marker hleft hnot hright,
            foldSets_marker hleft' hnot' (hset.isBlankRight.symm.trans hright),
            ofKeyword?_congr hset.operation]
          exact ih q
        | false =>
          have hright' := hset.isBlankRight.symm.trans hright
          exact iff_of_false (foldSets_missingLeft hleft hnot hright)
            (foldSets_missingLeft hleft' hnot' hright')

/-- The blanks around the sides of token sets do not matter. -/
theorem sameResult_foldSets_of_trim {sets sets' : List TokenSet} {sofar : Accumulator} {h h'}
    (hsame : sets.map TokenSet.trim = sets'.map TokenSet.trim) :
    SameResult (foldSets p.schema (p.inner newGuid n) text expected sofar sets h)
      (foldSets p.schema (p.inner newGuid m) other expected sofar sets' h') := by
  refine sameResult_foldSets_of_alike ?_
  have heq : List.Forall₂ (· = ·) (sets.map TokenSet.trim) (sets'.map TokenSet.trim) := by
    rw [hsame]
    exact List.forall₂_refl _
  rw [List.forall₂_map_left_iff, List.forall₂_map_right_iff] at heq
  exact heq.imp fun _ _ => .of_trim p newGuid

end Alike

/-- The fold over token sets does not depend on the bound or on the text it reports. -/
theorem sameResult_foldSets {p : FilterParser} {newGuid : Guid} {n m : Nat} {text other : Text}
    {expected : Option ValueType} {sets : List TokenSet} {sofar : Accumulator} {h h'} :
    SameResult (foldSets p.schema (p.inner newGuid n) text expected sofar sets h)
      (foldSets p.schema (p.inner newGuid m) other expected sofar sets h') :=
  sameResult_foldSets_of_trim rfl

end TokenSets

/-! ## Texts -/

section Texts

variable {p : FilterParser} {newGuid : Guid} {t : Text} {expected : Option ValueType}

/-- A blank text is the absent filter. -/
theorem parseExpression_of_blank (h : Text.trim t = []) :
    p.parseExpression newGuid t expected = .ok none := by
  rw [parseExpression_eq, parseTrimmed, if_pos (by simp [h])]

/-- A text without operators whose outer parentheses can be removed. -/
theorem parseExpression_of_strip {inside : Text} (hsets : tokenize (Text.trim t) = [])
    (hstrip : stripEnclosing? (Text.trim t) = some inside) :
    p.parseExpression newGuid t expected = p.parseExpression newGuid inside expected := by
  have hne : (Text.trim t).isEmpty = false := by
    have := length_stripEnclosing?_lt hstrip
    cases h : Text.trim t with
    | nil => simp [h] at this
    | cons => rfl
  rw [parseExpression_eq, parseTrimmed]
  simp only [hne, Bool.false_eq_true, if_false, hsets, List.isEmpty_nil, if_true]
  split
  · rename_i other hother
    rw [hstrip] at hother
    cases hother
    rfl
  · rename_i hnone
    rw [hstrip] at hnone
    cases hnone

/-- A text without operators and outer parentheses. -/
theorem parseExpression_of_atom (expected : Option ValueType) (hne : Text.trim t ≠ [])
    (hsets : tokenize (Text.trim t) = [])
    (hstrip : stripEnclosing? (Text.trim t) = none) :
    p.parseExpression newGuid t expected =
      (atom p newGuid (Text.trim t) (p.inner newGuid (Text.trim t).length) expected).map some := by
  rw [parseExpression_eq, parseTrimmed, if_neg (by simpa using hne), if_pos (by simp [hsets])]
  split
  · rename_i inside hinside
    rw [hstrip] at hinside
    cases hinside
  · rfl

/-- Every side of a token set is shorter than the text. -/
theorem sides_lt_of_tokenize {sets : List TokenSet} (hsets : tokenize (Text.trim t) = sets) :
    ∀ set ∈ sets,
      set.left.length < (Text.trim t).length ∧ set.right.length < (Text.trim t).length := by
  intro set hset
  rw [← hsets] at hset
  have h := tokenize_sides_lt hset
  rwa [Text.trim_trim] at h

/-- A text with operators. -/
theorem parseExpression_of_sets {sets : List TokenSet} (hsets : tokenize (Text.trim t) = sets)
    (hne : sets ≠ []) :
    p.parseExpression newGuid t expected =
      foldSets p.schema (p.inner newGuid (Text.trim t).length) (Text.trim t) expected (none, none) sets
        (sides_lt_of_tokenize hsets) := by
  subst hsets
  have htrim : Text.trim t ≠ [] := by
    intro hnil
    rw [hnil] at hne
    exact hne (by decide)
  rw [parseExpression_eq, parseTrimmed, if_neg (by simpa using htrim), if_neg (by simpa using hne)]

/-- The ways to read a text, one for each branch of the parser, with what the outcome is there. -/
inductive IsRead (p : FilterParser) (newGuid : Guid) (t : Text) (expected : Option ValueType)
    (outcome : Outcome) :
    Prop where
  | blank (hblank : Text.trim t = []) (h : .ok none = outcome)
  | enclosed {inside : Text} (hsets : tokenize (Text.trim t) = [])
      (hstrip : stripEnclosing? (Text.trim t) = some inside)
      (h : p.parseExpression newGuid inside expected = outcome)
  | atom (hne : Text.trim t ≠ []) (hsets : tokenize (Text.trim t) = [])
      (hstrip : stripEnclosing? (Text.trim t) = none)
      (h : (atom p newGuid (Text.trim t) (p.inner newGuid (Text.trim t).length) expected).map some = outcome)
  | sets {set : TokenSet} {sets : List TokenSet} (hsets : tokenize (Text.trim t) = set :: sets)
      (h : foldSets p.schema (p.inner newGuid (Text.trim t).length) (Text.trim t) expected (none, none)
        (set :: sets) (sides_lt_of_tokenize hsets) = outcome)

/-- Whatever the parser makes of a text is one of the cases of `IsRead`. -/
theorem isRead_of_parseExpression {outcome : Outcome}
    (h : p.parseExpression newGuid t expected = outcome) : IsRead p newGuid t expected outcome := by
  by_cases hblank : Text.trim t = []
  · rw [parseExpression_of_blank hblank] at h
    exact .blank hblank h
  · cases hsets : tokenize (Text.trim t) with
    | nil =>
      cases hstrip : stripEnclosing? (Text.trim t) with
      | none =>
        rw [parseExpression_of_atom _ hblank hsets hstrip] at h
        exact .atom hblank hsets hstrip h
      | some inside =>
        rw [parseExpression_of_strip hsets hstrip] at h
        exact .enclosed hsets hstrip h
    | cons set sets =>
      rw [parseExpression_of_sets hsets (List.cons_ne_nil set sets)] at h
      exact .sets hsets h

/-- The sets of a text can be replaced by sets that differ in the blanks around their sides. -/
theorem parseExpression_of_trimmed_sets (p : FilterParser) (newGuid : Guid) (expected : Option ValueType)
    (text : Text) {sets : List TokenSet} {n : Nat}
    (hsets : (tokenize t).map TokenSet.trim = sets.map TokenSet.trim) (hne : sets ≠ [])
    (h : ∀ set ∈ sets, set.left.length < n ∧ set.right.length < n) :
    SameResult (p.parseExpression newGuid t expected)
      (foldSets p.schema (p.inner newGuid n) text expected (none, none) sets h) := by
  rw [← tokenize_trim] at hsets
  have hfound : tokenize (Text.trim t) ≠ [] := by
    intro hnil
    rw [hnil, List.map_nil, eq_comm, List.map_eq_nil_iff] at hsets
    exact hne hsets
  rw [parseExpression_of_sets rfl hfound]
  exact sameResult_foldSets_of_trim hsets

/-- Texts with the same token sets have the same results. -/
theorem sameResult_of_sets {other : Text} {sets : List TokenSet}
    (hsets : tokenize (Text.trim t) = sets) (hother : tokenize (Text.trim other) = sets)
    (hne : sets ≠ []) :
    SameResult (p.parseExpression newGuid t expected) (p.parseExpression newGuid other expected) := by
  rw [parseExpression_of_sets hsets hne, parseExpression_of_sets hother hne]
  exact sameResult_foldSets

/-- A text with a single operator, which is not `not`. -/
theorem parseExpression_of_set {set : TokenSet} (hsets : tokenize (Text.trim t) = [set])
    (hleft : Text.isBlank set.left = false) {q : Predicate} :
    p.parseExpression newGuid t expected = .ok (some q) ↔
      ∃ left,
        p.parseExpression newGuid set.left ((scopeType? p.schema set).or expected) = .ok (some left) ∧
        ((p.parseExpression newGuid set.right (some left.type) = .ok none ∧ left = q) ∨
          ∃ right, p.parseExpression newGuid set.right (some left.type) = .ok (some right) ∧
            operate set left right = .ok q) := by
  rw [parseExpression_of_sets hsets (by simp), foldSets_operand hleft]
  simp only [extend_none, foldSets_nil, operand_eq_ok_iff, Except.ok.injEq, Option.some.injEq]
  constructor
  · rintro ⟨current, _, h, rfl, rfl⟩
    exact h
  · intro h
    exact ⟨q, q, h, rfl, rfl⟩

/-- A text that is a negation. -/
theorem parseExpression_of_not {set : TokenSet} (hsets : tokenize (Text.trim t) = [set])
    (hleft : Text.isBlank set.left = true)
    (hnot : Text.eqIgnoreCase set.operation "not".toList = true) {q : Predicate} :
    p.parseExpression newGuid t expected = .ok (some q) ↔
      ∃ operand, p.parseExpression newGuid set.right ((scopeType? p.schema set).or expected)
          = .ok (some operand) ∧ Predicate.negate operand = .ok q := by
  rw [parseExpression_of_sets hsets (by simp), foldSets_not hleft hnot, negation_eq_ok_iff]
  simp only [extend_none, Except.ok.injEq, reduceCtorEq, and_false, false_or, Option.some.injEq]
  constructor
  · rintro ⟨operand, negated, _, hoperand, hnegated, rfl, rfl⟩
    exact ⟨operand, hoperand, hnegated⟩
  · rintro ⟨operand, hoperand, hnegated⟩
    exact ⟨operand, q, q, hoperand, hnegated, rfl, rfl⟩

end Texts

end FilterParser
end RecordFilter
