import RecordFilter.Proofs.Parsing

/-!
# Filters in parentheses

Queries join filters by putting them in parentheses with a connective in between, and predicates are
written in the same form. This module says what the parser makes of that. Parentheses around a text
change nothing by themselves; but inside of a connective a text is read where a boolean is expected,
and with its runs of spaces squeezed, so that a literal in it may be read in another way than in the
text alone.

Main statements: `parseExpression_parenthesized_iff` for redundant parentheses, and `parse_grouped_iff`,
when two filters and their conjunction are read alike.
-/

namespace RecordFilter
namespace Filter

/-! ## Nested texts -/

/-- A text without quotes in which every parenthesis is closed after it has been opened. -/
structure IsNested (t : Text) : Prop where
  quoteFree : ∀ c ∈ t, Nesting.isQuote c = false
  balanced : depthAfter? 0 t = some 0

/-- A quote-free balanced text is well nested for the scanner. -/
theorem IsNested.wellNested {t : Text} (h : IsNested t) : WellNested t :=
  .of_depthAfter? h.quoteFree h.balanced

/-- No parenthesis of a balanced text lacks its partner. -/
theorem hasOrphan_of_balanced {t : Text} (h : depthAfter? 0 t = some 0) : hasOrphan t = false := by
  rw [hasOrphan_eq, h]
  simp

theorem isNested_squeeze {t : Text} (h : IsNested t) : IsNested (Text.squeeze t) := by
  refine ⟨fun c hc => h.quoteFree c (Text.mem_squeeze hc), ?_⟩
  rw [← depthAfter?_filter, Text.filter_squeeze rfl, depthAfter?_filter]
  exact h.balanced

/-- The text inside of parentheses that can be removed. -/
theorem isNested_of_stripEnclosing? {t inside : Text} (h : IsNested t)
    (hstrip : stripEnclosing? t = some inside) :
    ∃ inner, t = '(' :: inner ++ [')'] ∧ IsNested inner := by
  obtain ⟨inner, rfl, -, horphan, -⟩ := stripEnclosing?_eq_some_iff.1 hstrip
  refine ⟨inner, rfl, fun c hc => h.quoteFree c (by simp [hc]), ?_⟩
  -- the parentheses inside are as many on both sides, and none of them is an orphan
  have hcount := depthAfter?_count h.balanced
  simp at hcount
  have hnone : (depthAfter? 0 inner).isNone = false := by
    have heq : (inner.count '(' == inner.count ')') = true := by
      rw [beq_iff_eq]
      omega
    rw [hasOrphan_eq, heq, Bool.true_and] at horphan
    exact horphan
  obtain ⟨depth, hdepth⟩ : ∃ depth, depthAfter? 0 inner = some depth :=
    Option.isSome_iff_exists.1 (by simpa using hnone)
  have hzero := depthAfter?_count hdepth
  rw [hdepth]
  congr 1
  omega

theorem isNested_trim {t : Text} (h : IsNested t) : IsNested (Text.trim t) := by
  refine ⟨fun c hc => h.quoteFree c (Text.mem_of_mem_trim hc), ?_⟩
  rw [depthAfter?_trim, h.balanced]

/-! ## Parentheses around a text -/

/-- A text that can be put in parentheses. It must not be in parentheses itself, unless there is no
operator outside of those. -/
structure Enclosable (t : Text) : Prop where
  ne_nil : t ≠ []
  nested : WellNested t
  inner : ∀ inside, stripEnclosing? (Text.trim (Text.squeeze t)) = some inside →
    HasNoOperator (Text.trim (Text.squeeze t))

/-- Parentheses that can be removed hide all operators of the text. -/
theorem IsNested.hasNoOperator_of_strip {t inside : Text} (h : IsNested t)
    (hstrip : stripEnclosing? t = some inside) : HasNoOperator t := by
  obtain ⟨inner, rfl, hinner⟩ := isNested_of_stripEnclosing? h hstrip
  exact hinner.wellNested.closes.hasNoOperator_enclosed

/-- A nested text that is not empty can be put in parentheses and read back. -/
theorem IsNested.enclosable {t : Text} (h : IsNested t) (hne : t ≠ []) : Enclosable t :=
  ⟨hne, h.wellNested, fun _ => (isNested_trim (isNested_squeeze h)).hasNoOperator_of_strip⟩

/-- The text in so many pairs of parentheses. -/
def parenthesized (t : Text) : (pairs : Nat) → Text
  | 0 => t
  | pairs + 1 => '(' :: parenthesized t pairs ++ [')']

theorem IsNested.enclosed {t : Text} (h : IsNested t) : IsNested ('(' :: t ++ [')']) := by
  refine ⟨fun c hc => ?_, depthAfter?_enclosed h.balanced⟩
  simp only [List.cons_append, List.mem_cons, List.mem_append, List.not_mem_nil, or_false] at hc
  rcases hc with rfl | hc | rfl
  · rfl
  · exact h.quoteFree c hc
  · rfl

/-- Any number of pairs of parentheses around a nested text leaves it nested. -/
theorem IsNested.parenthesized {t : Text} (h : IsNested t) (pairs : Nat) :
    IsNested (parenthesized t pairs) := by
  induction pairs with
  | zero => exact h
  | succ pairs ih => exact ih.enclosed

theorem parenthesized_ne_nil {t : Text} (hne : t ≠ []) (pairs : Nat) : parenthesized t pairs ≠ [] := by
  cases pairs with
  | zero => exact hne
  | succ pairs => exact List.cons_ne_nil _ _

theorem trim_enclosed (t : Text) : Text.trim ('(' :: t ++ [')']) = '(' :: t ++ [')'] := by
  refine Text.trim_eq_self (fun c hc => ?_) (fun c hc => ?_)
  · cases hc
    rfl
  · rw [List.getLast?_append] at hc
    cases hc
    rfl

theorem isImpliedBoolean_enclosed {t : Text} (hne : t ≠ []) :
    isImpliedBoolean ('(' :: t ++ [')']) = false := by
  have henclosed : isEnclosed ('(' :: t ++ [')']) = true := by
    unfold isEnclosed
    rw [enclosedInner?_eq_some_iff.2 ⟨rfl, hne⟩]
    rfl
  rw [isImpliedBoolean_eq, trim_enclosed, henclosed]
  simp

theorem squeeze_enclosed (t : Text) :
    Text.squeeze ('(' :: t ++ [')']) = '(' :: Text.squeeze t ++ [')'] := by
  rw [Text.squeeze_append (by simp), Text.squeeze_cons_of_ne (by decide)]
  rfl

/-- A text in parentheses has the token sets of what they enclose. -/
theorem tokenize_enclosed {t : Text} (hne : t ≠ []) (horphan : hasOrphan t = false) :
    tokenize ('(' :: t ++ [')']) =
      if isImpliedBoolean (Text.trim t) then []
      else scan (.fresh false) (Text.words (Text.trim t)) := by
  unfold tokenize
  simp only [trim_enclosed, stripEnclosing?_enclosed hne, horphan]
  rfl

/-- Parentheses around a text without parentheses of its own are not seen by the scanner. -/
theorem tokenize_enclosed_of_bare {t : Text} (horphan : hasOrphan t = false)
    (hbare : stripEnclosing? (Text.trim t) = none) (hblank : Text.trim t ≠ []) :
    tokenize ('(' :: t ++ [')']) = tokenize t := by
  have hne : t ≠ [] := by
    rintro rfl
    exact hblank rfl
  have hempty : (Text.trim t).isEmpty = false := by simpa using hblank
  rw [tokenize_enclosed hne horphan]
  unfold tokenize
  simp only [hbare, Option.getD_none, hempty, Bool.false_or]
  rfl

end Filter

namespace FilterParser

open RecordFilter.Filter

variable {p : FilterParser} {newGuid : Guid}

/-- Parentheses around a text change nothing if they can be removed, and the text is not in parentheses
itself that hide its operators. -/
theorem sameResult_parentheses (p : FilterParser) (newGuid : Guid) (expected : Option ValueType) {t : Text}
    (hne : t ≠ []) (horphan : hasOrphan t = false)
    (hinner : ∀ inside, stripEnclosing? (Text.trim t) = some inside → HasNoOperator (Text.trim t)) :
    SameResult (p.parseExpression newGuid ('(' :: t ++ [')']) expected)
      (p.parseExpression newGuid t expected) := by
  have hsets := tokenize_enclosed hne horphan
  have hstrip : stripEnclosing? (Text.trim ('(' :: t ++ [')'])) = some (Text.trim t) := by
    rw [trim_enclosed, stripEnclosing?_enclosed hne, horphan]
    rfl
  rw [← trim_enclosed t] at hsets
  -- without token sets the parentheses are removed in the next step
  have hnone : tokenize (Text.trim ('(' :: t ++ [')'])) = [] →
      SameResult (p.parseExpression newGuid ('(' :: t ++ [')']) expected)
        (p.parseExpression newGuid t expected) := by
    intro hnil
    rw [parseExpression_of_strip hnil hstrip, parseExpression_trim]
    exact SameResult.refl _
  cases hagain : stripEnclosing? (Text.trim t) with
  | some inside =>
    -- the text has parentheses of its own, which hide its operators
    apply hnone
    rw [hsets, scan_operand (hinner inside hagain).operatorFree]
    split <;> rfl
  | none =>
    by_cases hempty : Text.trim t = []
    · apply hnone
      rw [hsets, hempty]
      rfl
    · -- scanning removes the parentheses, so the token sets are the same
      have hsame : tokenize (Text.trim t) = tokenize (Text.trim ('(' :: t ++ [')'])) := by
        rw [trim_enclosed, tokenize_enclosed_of_bare horphan hagain hempty, tokenize_trim]
      by_cases hnil : tokenize (Text.trim ('(' :: t ++ [')'])) = []
      · exact hnone hnil
      · exact sameResult_of_sets rfl hsame hnil

/-- Parentheses around a text change nothing but its runs of spaces. -/
theorem sameResult_enclosed (p : FilterParser) (newGuid : Guid) (expected : Option ValueType) {t : Text}
    (h : Enclosable t) :
    SameResult (p.parseExpression newGuid ('(' :: Text.squeeze t ++ [')']) expected)
      (p.parseExpression newGuid (Text.squeeze t) expected) := by
  obtain ⟨hne, hnested, hinner⟩ := h
  refine sameResult_parentheses p newGuid expected (fun hnil => hne (Text.squeeze_eq_nil_iff.1 hnil)) ?_ hinner
  rw [hasOrphan_squeeze, hasOrphan_of_balanced hnested.balanced]

/-- One pair of parentheses more around a nested text makes no difference. -/
theorem sameResult_enclosed_of_isNested (p : FilterParser) (newGuid : Guid) (expected : Option ValueType)
    {t : Text} (h : IsNested t) (hne : t ≠ []) :
    SameResult (p.parseExpression newGuid ('(' :: t ++ [')']) expected)
      (p.parseExpression newGuid t expected) :=
  sameResult_parentheses p newGuid expected hne (hasOrphan_of_balanced h.balanced) fun _ =>
    (isNested_trim h).hasNoOperator_of_strip

/-- Redundant parentheses are transparent. A text without quotes whose parentheses are properly nested is
read in any number of pairs of parentheses as it is read without them, whatever type is expected. -/
theorem parseExpression_parenthesized_iff (p : FilterParser) (newGuid : Guid) {t : Text} (h : IsNested t)
    (hne : t ≠ []) (expected : Option ValueType) (pairs : Nat) (q : Option Predicate) :
    p.parseExpression newGuid (parenthesized t pairs) expected = .ok q ↔
      p.parseExpression newGuid t expected = .ok q := by
  induction pairs with
  | zero => exact Iff.rfl
  | succ pairs ih =>
    -- the text with one pair less is nested, too, and not empty
    have hstep := sameResult_enclosed_of_isNested p newGuid expected (h.parenthesized pairs)
      (parenthesized_ne_nil hne pairs)
    exact (hstep q).trans ih

/-- Two groups with a connective in between, one of them in parentheses already. -/
theorem parseExpression_parenthesized_groups :
    IsNested "((Id eq 1)) or (Flag)".toList ∧ "((Id eq 1)) or (Flag)".toList ≠ [] ∧
    ∃ q, items.parseExpression .nil "((Id eq 1)) or (Flag)".toList none = .ok (some q) ∧
      items.parseExpression .nil "(((((Id eq 1)) or (Flag))))".toList none = .ok (some q) := by
  have hnested : IsNested "((Id eq 1)) or (Flag)".toList := ⟨by decide, by decide⟩
  have hne : "((Id eq 1)) or (Flag)".toList ≠ [] := by decide
  obtain ⟨q, hq⟩ : ∃ q, items.parseExpression .nil "((Id eq 1)) or (Flag)".toList none = .ok (some q) :=
    Except.exists_of_isSome_join (by decide +kernel)
  exact ⟨hnested, hne, q, hq, (parseExpression_parenthesized_iff items .nil hnested hne none 3 (some q)).2 hq⟩

/-! ## Nothing -/

/-- Once there is an operand there is a predicate. -/
theorem foldSets_some_ne_ok_none {n : Nat} {schema : RecordType} {parse : Operand n} {text : Text}
    {expected : Option ValueType} : ∀ {sets : List TokenSet} {q : Predicate} {op h},
      foldSets schema parse text expected (some q, op) sets h ≠ .ok none := by
  intro sets
  induction sets with
  | nil =>
    intro q op h hnil
    rw [foldSets_nil] at hnil
    cases hnil
  | cons set sets ih =>
    intro q op h hcons
    rcases foldSets_cases hcons with ⟨-, _, _, -, -, hrest⟩ | ⟨-, -, hnegation⟩ | ⟨-, -, -, hrest⟩
    · exact ih hrest
    · rw [negation_eq_ok_iff] at hnegation
      rcases hnegation with ⟨-, hq⟩ | ⟨_, _, _, -, -, -, hq⟩ <;> cases hq
    · exact ih hrest

/-- A token set with a left side gives a filter or an error. -/
theorem foldSets_ne_ok_none {n : Nat} {schema : RecordType} {parse : Operand n} {text : Text}
    {expected : Option ValueType} {sofar : Accumulator} {set : TokenSet} {sets : List TokenSet} {h}
    (hleft : Text.isBlank set.left = false) :
    foldSets schema parse text expected sofar (set :: sets) h ≠ .ok none := by
  intro hnone
  obtain ⟨_, _, -, -, hnone⟩ := (foldSets_operand hleft).1 hnone
  exact foldSets_some_ne_ok_none hnone

/-- That there is no predicate in a text does not depend on the type that is expected, or on runs of
spaces. The induction on the token sets carries along that nothing has been combined yet. -/
theorem foldSets_eq_ok_none {n m : Nat} {schema : RecordType} {parse : Operand n}
    {other : Operand m} {text text' : Text} {expected expected' : Option ValueType} :
    ∀ {sets : List TokenSet} {sofar sofar' : Accumulator} {h h'},
      (∀ set ∈ sets, ∀ hn hm e e', parse set.right hn e = .ok none →
        other set.right hm e' = .ok none) →
      sofar'.1 = none → foldSets schema parse text expected sofar sets h = .ok none →
      foldSets schema other text' expected' sofar' sets h' = .ok none := by
  intro sets
  induction sets with
  | nil =>
    intro sofar sofar' h h' _ hsofar' hnone
    rw [foldSets_nil, hsofar']
  | cons set sets ih =>
    intro sofar sofar' h h' hparse hsofar' hnone
    have hrest := fun other hother => hparse other (List.mem_cons_of_mem set hother)
    rcases foldSets_cases hnone with ⟨hleft, -⟩ | ⟨hleft, hnot, hnegation⟩ |
      ⟨hleft, hnot, hright, hnone⟩
    · exact absurd hnone (foldSets_ne_ok_none hleft)
    · rw [negation_eq_ok_iff] at hnegation
      rw [foldSets_not hleft hnot, negation_eq_ok_iff]
      rcases hnegation with ⟨hblank, -⟩ | ⟨_, _, _, -, -, -, hq⟩
      · exact .inl ⟨hparse set List.mem_cons_self _ _ _ _ hblank, hsofar'⟩
      · cases hq
    · rw [foldSets_marker hleft hnot hright]
      exact ih hrest hsofar' hnone

/-- Whether a text is the absent filter depends on its words only. -/
theorem parseExpression_eq_ok_none {t t' : Text} {expected expected' : Option ValueType}
    (hsame : Text.squeeze t = Text.squeeze t') (h : p.parseExpression newGuid t expected = .ok none) :
    p.parseExpression newGuid t' expected' = .ok none := by
  have htrim : Text.squeeze (Text.trim t) = Text.squeeze (Text.trim t') := by
    rw [← Text.trim_squeeze, hsame, Text.trim_squeeze]
  -- the scanner does not see runs of spaces
  have hsets : tokenize (Text.trim t') = tokenize (Text.trim t) := by
    rw [← tokenize_squeeze (Text.trim t'), ← htrim, tokenize_squeeze]
  cases isRead_of_parseExpression h with
  | blank hblank =>
    refine parseExpression_of_blank (Text.squeeze_eq_nil_iff.1 ?_)
    rw [← htrim, hblank]
    rfl
  | @enclosed inside htokens hstrip h =>
    rw [htokens] at hsets
    have hstrips : (stripEnclosing? (Text.trim t)).map Text.squeeze
        = (stripEnclosing? (Text.trim t')).map Text.squeeze := by
      rw [← stripEnclosing?_squeeze, htrim, stripEnclosing?_squeeze]
    rw [hstrip, Option.map_some, eq_comm, Option.map_eq_some_iff] at hstrips
    obtain ⟨inside', hstrip', hinside⟩ := hstrips
    rw [parseExpression_of_strip hsets hstrip']
    exact parseExpression_eq_ok_none hinside.symm h
  | atom _ _ _ h =>
    obtain ⟨_, -, hsome⟩ := Except.map_eq_ok_iff.1 h
    cases hsome
  | sets htokens h =>
    rw [htokens] at hsets
    rw [parseExpression_of_sets hsets (by simp)]
    refine foldSets_eq_ok_none (fun other hother hn hm e e' hnone => ?_) rfl h
    exact parseExpression_eq_ok_none rfl hnone
termination_by (Text.trim t).length
decreasing_by
  · have := length_stripEnclosing?_lt hstrip
    have := Text.length_trim_le inside
    omega
  · have := Text.length_trim_le other.right
    omega

/-! ## Connectives and negation -/

end FilterParser

namespace Filter

/-- Two filters in parentheses with a connective in between. -/
def grouped (op : Connective) (f g : Text) : Text :=
  '(' :: f ++ ") ".toList ++ op.keyword.toList ++ " (".toList ++ g ++ [')']

/-- The negation of a filter in parentheses. -/
def negated (f : Text) : Text :=
  'n' :: 'o' :: 't' :: ' ' :: '(' :: f ++ [')']

theorem isCombinator_keyword (op : Connective) : isCombinator op.keyword.toList = true := by
  cases op <;> decide

theorem grouped_eq (op : Connective) (f g : Text) :
    grouped op f g =
      ('(' :: f ++ [')']) ++ ' ' :: (op.keyword.toList ++ ' ' :: ('(' :: g ++ [')'])) := by
  simp [grouped]

/-- The parentheses around two texts that close their own parentheses do not belong together: one in front
of the first text is closed before the second one begins. -/
theorem stripEnclosing?_append {a b : Text} (hane : a ≠ []) (hbne : b ≠ [])
    (ha : depthAfter? 0 a = some 0) (hb : depthAfter? 0 b = some 0) :
    stripEnclosing? (a ++ b) = none := by
  refine Option.eq_none_iff_forall_ne_some.2 fun inside hinside => ?_
  obtain ⟨inner, htext, -, horphan, -⟩ := stripEnclosing?_eq_some_iff.1 hinside
  obtain ⟨c, a, rfl⟩ := List.exists_cons_of_ne_nil hane
  obtain ⟨b, d, rfl⟩ := (List.eq_nil_or_concat b).resolve_left hbne
  rw [List.concat_eq_append] at htext hb
  rw [← List.append_assoc] at htext
  obtain ⟨hcons, hlast⟩ := List.append_inj' htext rfl
  obtain ⟨rfl, rfl⟩ : c = '(' ∧ a ++ b = inner := by simpa using hcons
  cases hlast
  have hdepth : depthAfter? 0 (a ++ b) = none := by
    rw [depthAfter?_append, depthAfter?_zero_eq_none ha]
    rfl
  have hacount := depthAfter?_count ha
  have hbcount := depthAfter?_count hb
  rw [hasOrphan_eq, hdepth] at horphan
  simp [List.count_append] at horphan hacount hbcount
  omega

/-- The parentheses around the two sides of a connective are no enclosing pair. -/
theorem stripEnclosing?_grouped (op : Connective) {f g : Text} (hf : depthAfter? 0 f = some 0)
    (hg : depthAfter? 0 g = some 0) : stripEnclosing? (grouped op f g) = none := by
  have hplain : ∀ c ∈ ' ' :: op.keyword.toList ++ [' '], c ≠ '(' ∧ c ≠ ')' := by
    cases op <;> decide
  have hgrouped : grouped op f g
      = ('(' :: f ++ [')']) ++ ((' ' :: op.keyword.toList ++ [' ']) ++ ('(' :: g ++ [')'])) := by
    simp [grouped]
  rw [hgrouped]
  exact stripEnclosing?_append (by simp) (by simp) (depthAfter?_enclosed hf)
    (depthAfter?_plain_append hplain (depthAfter?_enclosed hg))

theorem grouped_eq_enclosed (op : Connective) (f g : Text) :
    grouped op f g = '(' :: (f ++ (')' :: ' ' :: op.keyword.toList ++ " (".toList ++ g)) ++ [')'] := by
  simp [grouped]

theorem trim_grouped (op : Connective) (f g : Text) :
    Text.trim (grouped op f g) = grouped op f g := by
  rw [grouped_eq_enclosed, trim_enclosed]

theorem unwords_words_enclosed (f : Text) :
    Text.unwords (Text.words ('(' :: f ++ [')'])) = '(' :: Text.squeeze f ++ [')'] := by
  rw [Text.unwords_words (by simp) (by rw [List.getLast?_append]; simp),
    Text.squeeze_append (by simp), Text.squeeze_cons_of_ne (by decide)]
  rfl

/-- Two texts in parentheses with a connective in between are a single token set, if the outer parentheses
are not taken for a pair. -/
theorem tokenize_grouped_of_bare (op : Connective) {f g : Text}
    (hstrip : stripEnclosing? (grouped op f g) = none) (hf : Closes f) :
    tokenize (grouped op f g) =
      [⟨'(' :: Text.squeeze f ++ [')'], op.keyword.toList, '(' :: Text.squeeze g ++ [')']⟩] := by
  have hne : grouped op f g ≠ [] := by simp [grouped]
  have himplied : isImpliedBoolean (grouped op f g) = false := by
    rw [grouped_eq_enclosed]
    exact isImpliedBoolean_enclosed (by simp)
  have hword : Text.words op.keyword.toList = [op.keyword.toList] := by
    cases op <;> rfl
  rw [tokenize_eq_scan (trim_grouped op f g) hne hstrip himplied, grouped_eq, Text.words_append_space,
    Text.words_append_space, hword, List.singleton_append,
    scan_combinator hf.hasNoOperator_enclosed (isCombinator_keyword op), unwords_words_enclosed,
    unwords_words_enclosed]

/-- Two nested filters with a connective in between are a single token set. -/
theorem tokenize_grouped (op : Connective) {f g : Text} (hf : WellNested f)
    (hg : depthAfter? 0 g = some 0) :
    tokenize (grouped op f g) =
      [⟨'(' :: Text.squeeze f ++ [')'], op.keyword.toList, '(' :: Text.squeeze g ++ [')']⟩] :=
  tokenize_grouped_of_bare op (stripEnclosing?_grouped op hf.balanced hg) hf.closes

theorem trim_negated (f : Text) : Text.trim (negated f) = negated f := by
  refine Text.trim_eq_self (fun c hc => ?_) (fun c hc => ?_)
  · cases hc
    rfl
  · rw [negated, List.getLast?_append] at hc
    cases hc
    rfl

/-- The negation of a filter is a single token set without a left side. -/
theorem tokenize_negated {f : Text} :
    tokenize (negated f) = [⟨[], "not".toList, '(' :: Text.squeeze f ++ [')']⟩] := by
  have hnegated : negated f = "not".toList ++ ' ' :: ('(' :: f ++ [')']) := rfl
  have hwords : Text.words (negated f) = "not".toList :: Text.words ('(' :: f ++ [')']) := by
    rw [hnegated, Text.words_append_space]
    rfl
  have himplied : isImpliedBoolean (negated f) = false :=
    isImpliedBoolean_eq_false [] (by rw [trim_negated, hwords]; rfl) rfl (by decide) (by decide)
  rw [tokenize_eq_scan (trim_negated f) (by simp [negated])
    (stripEnclosing?_eq_none_of_head (by simp [negated])) himplied, hwords,
    scan_operation rfl (by decide), if_pos (by rfl), if_pos (by decide), unwords_words_enclosed]
  rfl

end Filter

namespace FilterParser

open RecordFilter.Filter

variable {p : FilterParser} {newGuid : Guid}

/-- Beside a connective, literals without a property are read as booleans. -/
theorem scopeType?_connective (op : Connective) (left right : Text) :
    scopeType? p.schema ⟨left, op.keyword.toList, right⟩ = some .boolean := by
  unfold scopeType?
  rw [if_pos (isCombinator_keyword op)]

/-- So they are behind `not`. -/
theorem scopeType?_not (left right : Text) :
    scopeType? p.schema ⟨left, "not".toList, right⟩ = some .boolean := by
  unfold scopeType?
  rw [if_pos (by rfl)]

theorem ofKeyword?_connective (op : Connective) :
    BinaryOperator.ofKeyword? op.keyword.toList = some (.connective op) := by
  cases op <;> decide

/-- Two booleans can be combined. -/
theorem combine_connective_eq_ok_iff {op : Connective} {left right q : Predicate} :
    Predicate.combine (.connective op) left right = .ok q ↔
      left.type.isBoolean = true ∧ right.type.isBoolean = true ∧
        .binary (.connective op) left right .boolean = q := by
  unfold Predicate.combine Predicate.operatorType
  simp only
  split
  · rename_i h
    simp only [Bool.and_eq_true] at h
    simp [Except.map, h.1, h.2]
  · rename_i h
    simp only [Bool.and_eq_true, not_and] at h
    simp only [Except.map, reduceCtorEq, false_iff, not_and]
    exact fun hleft hright => absurd hright (h hleft)

/-- A connective needs boolean sides and combines them as they are. -/
theorem operate_connective_iff {op : Connective} {l r : Text} {left right q : Predicate} :
    operate ⟨l, op.keyword.toList, r⟩ left right = .ok q ↔
      left.type.isBoolean = true ∧ right.type.isBoolean = true ∧
        .binary (.connective op) left right .boolean = q :=
  (operate_of_keyword (ofKeyword?_connective op)).trans combine_connective_eq_ok_iff

/-- A boolean can be negated. -/
theorem negate_eq_ok_iff {operand q : Predicate} :
    Predicate.negate operand = .ok q ↔ operand.type.isBoolean = true ∧ .not operand = q := by
  unfold Predicate.negate
  split
  · rename_i h
    simp [h]
  · rename_i h
    simp [h]

/-- An empty text is no filter. -/
theorem ne_nil_of_parse {f : Text} {expected : Option ValueType} {q : Predicate}
    (h : p.parseExpression newGuid f expected = .ok (some q)) : f ≠ [] := by
  rintro rfl
  rw [parseExpression_of_blank rfl] at h
  cases h

/-- What two filters in parentheses with a connective in between are read as: the second one is read
where the type of the first one is expected. -/
theorem parseExpression_grouped_iff {op : Connective} {f g : Text} {expected : Option ValueType}
    (hf : Enclosable f) (hg : Enclosable g) {e : Option ValueType} {found : Predicate}
    (hsome : p.parseExpression newGuid g e = .ok (some found)) {q : Predicate} :
    p.parseExpression newGuid (grouped op f g) expected = .ok (some q) ↔
      ∃ left right, p.parseExpression newGuid (Text.squeeze f) (some .boolean) = .ok (some left) ∧
        p.parseExpression newGuid (Text.squeeze g) (some left.type) = .ok (some right) ∧
        left.type.isBoolean = true ∧ right.type.isBoolean = true ∧
        .binary (.connective op) left right .boolean = q := by
  have hsets : tokenize (Text.trim (grouped op f g)) =
      [⟨'(' :: Text.squeeze f ++ [')'], op.keyword.toList, '(' :: Text.squeeze g ++ [')']⟩] := by
    rw [trim_grouped, tokenize_grouped op hf.nested hg.nested.balanced]
  have hblank : Text.isBlank ('(' :: Text.squeeze f ++ [')']) = false := rfl
  have hleft := sameResult_enclosed p newGuid (some .boolean) hf
  have hright := fun expected => sameResult_enclosed p newGuid expected hg
  rw [parseExpression_of_set hsets hblank, scopeType?_connective, Option.some_or]
  constructor
  · rintro ⟨left, hl, ⟨hnone, -⟩ | ⟨right, hr, hoperate⟩⟩
    · -- the second filter is not blank
      have hblank : p.parseExpression newGuid g e = .ok none :=
        parseExpression_eq_ok_none (Text.squeeze_squeeze g) ((hright (some left.type) none).1 hnone)
      rw [hsome] at hblank
      cases hblank
    · obtain ⟨hlb, hrb, hq⟩ := operate_connective_iff.1 hoperate
      exact ⟨left, right, (hleft _).1 hl, (hright _ _).1 hr, hlb, hrb, hq⟩
  · rintro ⟨left, right, hl, hr, hlb, hrb, hq⟩
    exact ⟨left, (hleft _).2 hl, .inr ⟨right, (hright _ _).2 hr,
      operate_connective_iff.2 ⟨hlb, hrb, hq⟩⟩⟩

/-- What the negation of a filter in parentheses is read as. -/
theorem parseExpression_negated_iff {f : Text} {expected : Option ValueType} (hf : Enclosable f)
    {q : Predicate} :
    p.parseExpression newGuid (negated f) expected = .ok (some q) ↔
      ∃ operand, p.parseExpression newGuid (Text.squeeze f) (some .boolean) = .ok (some operand) ∧
        operand.type.isBoolean = true ∧ .not operand = q := by
  have hsets : tokenize (Text.trim (negated f)) =
      [⟨[], "not".toList, '(' :: Text.squeeze f ++ [')']⟩] := by
    rw [trim_negated, tokenize_negated]
  have hinner := sameResult_enclosed p newGuid (some .boolean) hf
  rw [parseExpression_of_not hsets (by rfl) (by rfl), scopeType?_not, Option.some_or]
  refine exists_congr fun operand => ?_
  rw [hinner, negate_eq_ok_iff]

/-- Two filters without quotes, each accepted alone, are accepted as their connective, and the first
one as its negation, exactly if they are read in the same way where a boolean is expected, with runs of
spaces squeezed. -/
theorem parse_grouped_iff (p : FilterParser) (newGuid : Guid) {f g : Text} {left right : Predicate}
    (hf : IsNested f) (hg : IsNested g) (hleft : p.parse newGuid f = .ok (some left))
    (hright : p.parse newGuid g = .ok (some right)) :
    (∀ op, p.parse newGuid (grouped op f g)
        = .ok (some (.binary (.connective op) left right .boolean)) ↔
      p.parseExpression newGuid (Text.squeeze f) (some .boolean) = .ok (some left) ∧
        p.parseExpression newGuid (Text.squeeze g) (some left.type) = .ok (some right)) ∧
    (p.parse newGuid (negated f) = .ok (some (.not left)) ↔
      p.parseExpression newGuid (Text.squeeze f) (some .boolean) = .ok (some left)) := by
  obtain ⟨hleft, hlb⟩ := parse_eq_ok_some_iff.1 hleft
  obtain ⟨hright, hrb⟩ := parse_eq_ok_some_iff.1 hright
  have hf := hf.enclosable (ne_nil_of_parse hleft)
  have hg := hg.enclosable (ne_nil_of_parse hright)
  refine ⟨fun op => ?_, ?_⟩
  · rw [parse_eq_ok_some_iff, parseExpression_grouped_iff hf hg hright]
    constructor
    · rintro ⟨⟨left', right', hl, hr, -, -, hq⟩, -⟩
      cases hq
      exact ⟨hl, hr⟩
    · rintro ⟨hl, hr⟩
      exact ⟨⟨left, right, hl, hr, hlb, hrb, rfl⟩, rfl⟩
  · rw [parse_eq_ok_some_iff, parseExpression_negated_iff hf]
    constructor
    · rintro ⟨⟨operand, hl, -, hq⟩, -⟩
      cases hq
      exact hl
    · intro hl
      exact ⟨⟨left, hl, hlb, rfl⟩, rfl⟩

/-- A comparison with a property and a flag are read in the same way in parentheses. -/
theorem parse_grouped_property :
    ∃ left right, items.parse .nil "Id eq 1".toList = .ok (some left) ∧
      items.parse .nil "Flag".toList = .ok (some right) ∧
      (∀ op, items.parse .nil (grouped op "Id eq 1".toList "Flag".toList)
          = .ok (some (.binary (.connective op) left right .boolean)) ↔
        items.parseExpression .nil (Text.squeeze "Id eq 1".toList) (some .boolean) = .ok (some left) ∧
          items.parseExpression .nil (Text.squeeze "Flag".toList) (some left.type) = .ok (some right)) ∧
      (items.parse .nil (negated "Id eq 1".toList) = .ok (some (.not left)) ↔
        items.parseExpression .nil (Text.squeeze "Id eq 1".toList) (some .boolean)
          = .ok (some left)) := by
  obtain ⟨left, hleft⟩ : ∃ left, items.parse .nil "Id eq 1".toList = .ok (some left) :=
    Except.exists_of_isSome_join (by decide +kernel)
  obtain ⟨right, hright⟩ : ∃ right, items.parse .nil "Flag".toList = .ok (some right) :=
    Except.exists_of_isSome_join (by decide +kernel)
  exact ⟨left, right, hleft, hright, parse_grouped_iff items .nil ⟨by decide, by decide⟩
    ⟨by decide, by decide⟩ hleft hright⟩

/-- A literal on the left of a function call is a number in a filter of its own, but no boolean in
parentheses beside a connective. -/
theorem parse_grouped_literal :
    ∃ left right, items.parse .nil "3 eq length(Name)".toList = .ok (some left) ∧
      items.parse .nil "Flag".toList = .ok (some right) ∧
      IsNested "3 eq length(Name)".toList ∧ IsNested "Flag".toList ∧
      (∀ q, items.parse .nil "(3 eq length(Name)) and (Flag)".toList ≠ .ok (some q)) ∧
      (∀ q, items.parse .nil "(3 eq length(Name)) or (Flag)".toList ≠ .ok (some q)) ∧
      ∀ q, items.parse .nil "not (3 eq length(Name))".toList ≠ .ok (some q) := by
  obtain ⟨left, hleft⟩ : ∃ left, items.parse .nil "3 eq length(Name)".toList = .ok (some left) :=
    Except.exists_of_isSome_join (by decide +kernel)
  obtain ⟨right, hright⟩ : ∃ right, items.parse .nil "Flag".toList = .ok (some right) :=
    Except.exists_of_isSome_join (by decide +kernel)
  refine ⟨left, right, hleft, hright, ⟨by decide, by decide⟩, ⟨by decide, by decide⟩, ?_, ?_, ?_⟩
  · exact Except.ne_ok_some_of_isSome_join (by decide +kernel)
  · exact Except.ne_ok_some_of_isSome_join (by decide +kernel)
  · exact Except.ne_ok_some_of_isSome_join (by decide +kernel)

end FilterParser
end RecordFilter
