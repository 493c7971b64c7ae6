import RecordFilter.Proofs.Printing

/-!
# Chains of comparisons

The scanner divides a chain of comparisons at its connectives: every comparison is a token set, and a
connective between two of them is a marker. The parser combines the sets from left to right, so `and`
takes no precedence over `or`. A `not` at the end takes all of the text after it, and that text loses its
runs of spaces, even those in quotes.

Main statement: `parse_comparisonChain`.
-/

namespace RecordFilter
namespace Filter

/-! ## Sides of comparisons -/

/-- A side of a comparison. It closes the parentheses and the quotes that it opens, and no word outside
of them is an operator. There may be blanks around it. -/
structure IsSide (t : Text) : Prop where
  notBlank : Text.isBlank t = false
  balanced : depthAfter? 0 t = some 0
  closed : Nesting.start.advance t = .start
  operatorFree : OperatorFree .start (Text.words (Text.trim t))

namespace IsSide

variable {t u : Text}

/-- Being a side does not depend on the blanks around it. -/
theorem congr (h : IsSide t) (htrim : Text.trim t = Text.trim u) : IsSide u := by
  refine ⟨?_, ?_, ?_, ?_⟩
  · rw [← Text.isBlank_congr htrim, h.notBlank]
  · rw [← depthAfter?_trim, ← htrim, depthAfter?_trim, h.balanced]
  · rw [← Nesting.isValid_start.advance_trim, ← htrim, Nesting.isValid_start.advance_trim, h.closed]
  · rw [← htrim]
    exact h.operatorFree

theorem hasNoOperator (h : IsSide t) : HasNoOperator t :=
  ⟨h.closed, operatorFree_of_trim h.operatorFree⟩

theorem ne_nil (h : IsSide t) : t ≠ [] := by
  rintro rfl
  cases h.notBlank

theorem isBlank_unwords (h : IsSide t) : Text.isBlank (Text.unwords (Text.words t)) = false := by
  rw [← h.notBlank, Bool.eq_iff_iff, Text.isBlank_iff_trim, Text.isBlank_iff_trim,
    Text.trim_unwords_words, Text.squeeze_eq_nil_iff]

theorem append_notBlank (h : IsSide t) (u : Text) : Text.isBlank (t ++ u) = false := by
  rw [Text.isBlank_append, h.notBlank, Bool.false_and]

end IsSide

/-! ## Scanning -/

/-- A connective behind a finished comparison is a marker, and scanning begins anew. -/
theorem scan_side_combinator {left operation b word : Text} {rest : List Text}
    (hleft : Text.isBlank left = false) (hb : HasNoOperator b) (hword : isCombinator word = true) :
    scan ⟨left, operation, [], true, .start⟩ (Text.words b ++ word :: rest) =
      ⟨left, operation, Text.unwords (Text.words b)⟩ :: TokenSet.marker word
        :: scan (.fresh true) rest := by
  rw [scan_append (s := ⟨left, operation, [], true, .start⟩) _ hb.operatorFree,
    scan_operation hb.foldl_words (isOperation_of_isCombinator hword)]
  simp [hleft, hword]

/-- What the scanner makes of the text behind the second side of a comparison: that side ends there, and
these sets follow. -/
structure Continues (tail : Text) (sets : List TokenSet) : Prop where
  balanced : depthAfter? 0 tail = some 0
  scanned : ∀ {left b : Text} (operation : Text), Text.isBlank left = false → IsSide b →
    (scan ⟨left, operation, [], true, .start⟩ (Text.words (Text.trimEnd (b ++ tail)))).map TokenSet.trim
      = ⟨Text.trim left, operation, Text.squeeze (Text.trim b)⟩ :: sets

/-! ## Words between texts -/

/-- Two texts with a word in between. -/
def betweenText (left word right : Text) : Text :=
  left ++ ' ' :: (word ++ ' ' :: right)

/-- The words of a text with an operator in the middle are those of its sides, with the operator between
them. -/
theorem words_betweenText {word : Text} (hword : Text.IsWord word) (left right : Text) :
    Text.words (betweenText left word right) = Text.words left ++ word :: Text.words right := by
  rw [betweenText, Text.words_append_space, Text.words_append_space,
    Text.words_eq_singleton hword.1 hword.2]
  rfl

theorem betweenText_append (left word right tail : Text) :
    betweenText left word right ++ tail = betweenText left word (right ++ tail) := by
  simp [betweenText]

theorem isBlank_betweenText {right : Text} (left word : Text) (h : Text.isBlank right = false) :
    Text.isBlank (betweenText left word right) = false := by
  have htext : betweenText left word right = (left ++ ' ' :: (word ++ [' '])) ++ right := by
    simp [betweenText]
  rw [htext, Text.isBlank_append, h, Bool.and_false]

theorem trimEnd_betweenText {right : Text} (left word : Text) (h : Text.isBlank right = false) :
    Text.trimEnd (betweenText left word right) = betweenText left word (Text.trimEnd right) := by
  have htext : ∀ u, betweenText left word u = (left ++ ' ' :: (word ++ [' '])) ++ u := by
    intro u
    simp [betweenText]
  rw [htext, Text.trimEnd_append h, ← htext]

/-- Trimming a text with an operator in the middle trims its outer ends. -/
theorem trim_betweenText {left right : Text} (word : Text) (hleft : Text.isBlank left = false)
    (hright : Text.isBlank right = false) :
    Text.trim (betweenText left word right)
      = betweenText (Text.trimStart left) word (Text.trimEnd right) := by
  have hstart : Text.trimStart (betweenText left word right)
      = betweenText (Text.trimStart left) word right := Text.trimStart_append hleft _
  rw [Text.trim, hstart, trimEnd_betweenText _ _ hright]

/-- Balanced sides around an operator are balanced. -/
theorem depthAfter?_betweenText {left word right : Text} (hword : isOperation word = true)
    (hleft : depthAfter? 0 left = some 0) (hright : depthAfter? 0 right = some 0) :
    depthAfter? 0 (betweenText left word right) = some 0 := by
  have hplain : ∀ c ∈ ' ' :: word ++ [' '], c ≠ '(' ∧ c ≠ ')' := by
    intro c hc
    simp only [List.cons_append, List.mem_cons, List.mem_append, List.not_mem_nil, or_false] at hc
    rcases hc with rfl | hc | rfl
    · decide
    · exact (plain_of_isOperation hword c hc).2
    · decide
  have htext : betweenText left word right = left ++ (' ' :: word ++ [' '] ++ right) := by
    simp [betweenText]
  rw [htext, depthAfter?_append, hleft, Option.bind_some]
  exact depthAfter?_plain_append hplain hright

/-- A connective and what it connects a comparison with. -/
def connectiveText (k : Connective) (t : Text) : Text :=
  ' ' :: (k.keyword.toList ++ ' ' :: t)

theorem append_connectiveText (b : Text) (k : Connective) (t : Text) :
    b ++ connectiveText k t = betweenText b k.keyword.toList t := rfl

theorem isOperation_keyword (k : Connective) : isOperation k.keyword.toList = true :=
  isOperation_of_isCombinator (isCombinator_keyword k)

theorem depthAfter?_connectiveText {k : Connective} {t : Text} (h : depthAfter? 0 t = some 0) :
    depthAfter? 0 (connectiveText k t) = some 0 :=
  depthAfter?_betweenText (isOperation_keyword k) (depthAfter?_nil 0) h

theorem trimEnd_connectiveText {k : Connective} {b t : Text} (h : Text.isBlank t = false) :
    Text.trimEnd (b ++ connectiveText k t) = b ++ connectiveText k (Text.trimEnd t) :=
  trimEnd_betweenText b k.keyword.toList h

/-- The words of a chain with one more operand are those before, the keyword, and those of the operand. -/
theorem words_connectiveText (k : Connective) (b t : Text) :
    Text.words (b ++ connectiveText k t)
      = Text.words b ++ k.keyword.toList :: Text.words t :=
  words_betweenText (isWord_of_isOperation (isOperation_keyword k)) b t

/-- The token set of a word between two sides, without runs of spaces and blanks around them. -/
def betweenSet (left word right : Text) : TokenSet :=
  ⟨Text.squeeze (Text.trim left), word, Text.squeeze (Text.trim right)⟩

theorem trim_betweenSet (left word right : Text) :
    (betweenSet left word right).trim = betweenSet left word right := by
  simp [betweenSet, Text.trim_squeeze]

/-- The token set of a comparison, without runs of spaces and blanks around its sides. -/
def comparisonSet (op : Comparison) (left right : Text) : TokenSet :=
  ⟨Text.squeeze (Text.trim left), op.keyword.toList, Text.squeeze (Text.trim right)⟩

theorem trim_comparisonSet (op : Comparison) (left right : Text) :
    (comparisonSet op left right).trim = comparisonSet op left right :=
  trim_betweenSet left op.keyword.toList right

namespace Continues

variable {tail : Text} {sets : List TokenSet}

/-- At the end of the text the comparison is finished. -/
theorem nil : Continues [] [] := by
  refine ⟨rfl, fun {left b} operation hleft hb => ?_⟩
  have hside := hb.congr (Text.trim_trimEnd b).symm
  have hscan := scan_append (s := ⟨left, operation, [], true, .start⟩) []
    hside.hasNoOperator.operatorFree
  rw [List.append_nil] at hscan ⊢
  rw [hscan, scan]
  simp [hleft, Text.trim_unwords_words]

/-- A negation takes all of the rest. -/
theorem negation (k : Connective) {w : Text} (hblank : Text.isBlank w = false)
    (hw : depthAfter? 0 w = some 0) :
    Continues (connectiveText k ("not ".toList ++ w))
      [TokenSet.marker k.keyword.toList, ⟨[], "not".toList, Text.squeeze (Text.trim w)⟩] := by
  have hbalanced : depthAfter? 0 ("not ".toList ++ w) = some 0 := hw
  refine ⟨depthAfter?_connectiveText hbalanced, fun {left b} operation hleft hb => ?_⟩
  have hnot : Text.isBlank ("not ".toList ++ w) = false := by
    rw [Text.isBlank_append, hblank, Bool.and_false]
  have hwords : Text.words (Text.trimEnd ("not ".toList ++ w))
      = "not".toList :: Text.words (Text.trimEnd w) := by
    rw [Text.trimEnd_append hblank]
    exact Text.words_append_space "not".toList (Text.trimEnd w)
  have hrest : scan (.fresh true) ("not".toList :: Text.words (Text.trimEnd w))
      = [⟨[], "not".toList, Text.unwords (Text.words (Text.trimEnd w))⟩] := by
    rw [scan_operation rfl (by decide), if_pos (by rfl), if_pos (by decide)]
    rfl
  rw [trimEnd_connectiveText hnot, words_connectiveText, hwords,
    scan_side_combinator hleft hb.hasNoOperator (isCombinator_keyword k), hrest]
  simp [Text.trim_unwords_words]

/-- After a connective the next comparison is scanned like the first one. -/
theorem link (k : Connective) {left word right : Text} (hop : isOperation word = true)
    (hword : isCombinator word = false) (hleft : IsSide left) (hright : IsSide right)
    (h : Continues tail sets) :
    Continues (connectiveText k (betweenText left word right ++ tail))
      (TokenSet.marker k.keyword.toList :: betweenSet left word right :: sets) := by
  refine ⟨depthAfter?_connectiveText ?_, fun {other b} operation hother hb => ?_⟩
  · rw [depthAfter?_append, depthAfter?_betweenText hop hleft.balanced hright.balanced,
      Option.bind_some, h.balanced]
  · have hblank := isBlank_betweenText left word (hright.append_notBlank tail)
    have hset := h.scanned word hleft.isBlank_unwords hright
    rw [betweenText_append, trimEnd_connectiveText hblank, words_connectiveText,
      trimEnd_betweenText _ _ (hright.append_notBlank tail), words_betweenText (isWord_of_isOperation hop),
      scan_side_combinator hother hb.hasNoOperator (isCombinator_keyword k),
      scan_left hleft.hasNoOperator hop hword, List.map_cons, List.map_cons, hset]
    simp [Text.trim_unwords_words, betweenSet]

end Continues

/-- There are no outer parentheses around a word between two sides and what follows them. -/
theorem stripEnclosing?_betweenText {left word right tail : Text} (hop : isOperation word = true)
    (hleft : IsSide left) (hright : IsSide right) (htail : depthAfter? 0 tail = some 0) :
    stripEnclosing? (Text.trim (betweenText left word right ++ tail)) = none := by
  have hstart := hleft.congr (Text.trim_trimStart left).symm
  have hbalanced : depthAfter? 0 (Text.trim (betweenText left word right ++ tail)) = some 0 := by
    rw [depthAfter?_trim, depthAfter?_append, depthAfter?_betweenText hop hleft.balanced hright.balanced,
      Option.bind_some, htail]
  rw [betweenText_append, trim_betweenText word hleft.notBlank (hright.append_notBlank tail), betweenText]
    at hbalanced ⊢
  rw [depthAfter?_append, hstart.balanced, Option.bind_some] at hbalanced
  exact stripEnclosing?_append hstart.ne_nil (by simp) hstart.balanced hbalanced

/-- The token sets of a word between two sides and what follows them, if all of that is no string match. -/
theorem tokenize_continued {left word right tail : Text} {sets : List TokenSet}
    (hop : isOperation word = true) (hword : isCombinator word = false) (hleft : IsSide left)
    (hright : IsSide right)
    (himplied : isImpliedBoolean (Text.trim (betweenText left word right ++ tail)) = false)
    (h : Continues tail sets) :
    (tokenize (betweenText left word right ++ tail)).map TokenSet.trim
      = betweenSet left word right :: sets := by
  have hstart := hleft.congr (Text.trim_trimStart left).symm
  have htrim : Text.trim (betweenText left word right ++ tail)
      = betweenText (Text.trimStart left) word (Text.trimEnd (right ++ tail)) := by
    rw [betweenText_append, trim_betweenText word hleft.notBlank (hright.append_notBlank tail)]
  have hwords := words_betweenText (isWord_of_isOperation hop) (Text.trimStart left)
    (Text.trimEnd (right ++ tail))
  have htrimmed := Text.trim_trim (betweenText left word right ++ tail)
  have hstrip := stripEnclosing?_betweenText hop hleft hright h.balanced
  have hne : Text.trim (betweenText left word right ++ tail) ≠ [] := by
    rw [htrim, betweenText]
    simp
  have hset := h.scanned word hstart.isBlank_unwords hright
  rw [← tokenize_trim, tokenize_eq_scan htrimmed hne hstrip himplied, htrim, hwords,
    scan_left hstart.hasNoOperator hop hword, hset, Text.trim_unwords_words, Text.trim_trimStart]
  rfl

/-- A comparison in lower case is no string match, and neither is what it begins. -/
theorem tokenize_comparisonText_continued (op : Comparison) {left right tail : Text} {sets : List TokenSet}
    (hleft : IsSide left) (hright : IsSide right) (h : Continues tail sets) :
    (tokenize (comparisonText op left right ++ tail)).map TokenSet.trim
      = comparisonSet op left right :: sets := by
  obtain ⟨hop, hcombinator, hlower, -⟩ := isOperation_comparison op
  have hstart := hleft.congr (Text.trim_trimStart left).symm
  rw [comparisonText_eq]
  refine tokenize_continued hop hcombinator hleft hright ?_ h
  have hwords : Text.words (Text.trim (Text.trim (betweenText left op.keyword.toList right ++ tail)))
      = Text.words (Text.trimStart left) ++ op.keyword.toList :: Text.words (Text.trimEnd (right ++ tail)) := by
    rw [Text.trim_trim, betweenText_append,
      trim_betweenText _ hleft.notBlank (hright.append_notBlank tail),
      words_betweenText (isWord_of_isOperation hop)]
  exact isImpliedBoolean_eq_false _ hwords hstart.hasNoOperator.foldl_words hlower hop

end Filter

namespace FilterParser

open RecordFilter.Filter

/-! ## Chains -/

/-- A comparison of two sides that is a filter by itself. -/
structure AcceptedComparison (p : FilterParser) (newGuid : Guid) where
  op : Comparison
  left : Text
  right : Text
  isSideLeft : IsSide left
  isSideRight : IsSide right
  predicate : Predicate
  accepted : p.parse newGuid (comparisonText op left right) = .ok (some predicate)

namespace AcceptedComparison

variable {p : FilterParser} {newGuid : Guid}

def text (c : AcceptedComparison p newGuid) : Text :=
  comparisonText c.op c.left c.right

def set (c : AcceptedComparison p newGuid) : TokenSet :=
  comparisonSet c.op c.left c.right

theorem isBoolean (c : AcceptedComparison p newGuid) : c.predicate.type.isBoolean = true :=
  (parse_eq_ok_some_iff.1 c.accepted).2

theorem isBlank_set_left (c : AcceptedComparison p newGuid) : Text.isBlank c.set.left = false := by
  simp [set, comparisonSet, c.isSideLeft.notBlank]

@[simp] theorem trim_set (c : AcceptedComparison p newGuid) : c.set.trim = c.set :=
  trim_comparisonSet _ _ _

/-- In a chain the comparison is read as it is by itself, because its token set is the same. -/
theorem operand_eq_ok_iff (c : AcceptedComparison p newGuid) {n : Nat} {hleft : c.set.left.length < n}
    {hright : c.set.right.length < n} {q : Predicate} :
    operand (p.inner newGuid n) c.set ((scopeType? p.schema c.set).or none) hleft hright = .ok q ↔
      q = c.predicate := by
  have hsets := tokenize_comparisonText_continued c.op c.isSideLeft c.isSideRight .nil
  rw [List.append_nil] at hsets
  have hsides : ∀ set ∈ [c.set], set.left.length < n ∧ set.right.length < n := by
    simp [hleft, hright]
  have hsame := p.parseExpression_of_trimmed_sets newGuid none []
    (by rw [hsets, List.map_singleton, c.trim_set]; rfl) (by simp) hsides
  have hread := (hsame _).1 (parse_eq_ok_some_iff.1 c.accepted).1
  obtain ⟨current, combined, hcurrent, hcombined, hq⟩ := (foldSets_operand c.isBlank_set_left).1 hread
  rw [extend_none] at hcombined
  cases hcombined
  cases hq
  constructor
  · intro h
    rw [h] at hcurrent
    cases hcurrent
    rfl
  · rintro rfl
    exact hcurrent

end AcceptedComparison

section Chains

variable {p : FilterParser} {newGuid : Guid}

/-- Connectives with the comparisons that follow them, and what follows the last one. -/
def linksText : List (Connective × AcceptedComparison p newGuid) → Text → Text
  | [], tail => tail
  | (k, c) :: links, tail => connectiveText k (c.text ++ linksText links tail)

/-- The token sets of connectives and the comparisons that follow them. -/
def linkSets : List (Connective × AcceptedComparison p newGuid) → List TokenSet
  | [] => []
  | (k, c) :: links => TokenSet.marker k.keyword.toList :: c.set :: linkSets links

/-- One more comparison connected with what there is so far. -/
def joined (sofar : Predicate) (link : Connective × AcceptedComparison p newGuid) : Predicate :=
  .binary (.connective link.1) sofar link.2.predicate .boolean

/-- A negation connected with what there is so far. -/
def joinedNot (k : Connective) (sofar operand : Predicate) : Predicate :=
  .binary (.connective k) sofar (.not operand) .boolean

/-- Joining comparisons to a boolean gives a boolean. -/
theorem isBoolean_foldl_joined {first : Predicate} (hfirst : first.type.isBoolean = true)
    (links : List (Connective × AcceptedComparison p newGuid)) :
    (links.foldl joined first).type.isBoolean = true := by
  induction links generalizing first with
  | nil => exact hfirst
  | cons link links ih => exact ih rfl

/-- By induction on the links: each of them is scanned like the one before it. -/
theorem continues_links (links : List (Connective × AcceptedComparison p newGuid)) {tail : Text}
    {sets : List TokenSet} (h : Continues tail sets) :
    Continues (linksText links tail) (linkSets links ++ sets) := by
  induction links with
  | nil => exact h
  | cons link links ih =>
    obtain ⟨hop, hcombinator, -, -⟩ := isOperation_comparison link.2.op
    have hlink := ih.link link.1 hop hcombinator link.2.isSideLeft link.2.isSideRight
    rw [betweenText, ← comparisonText_eq] at hlink
    exact hlink

/-- What comes after a first comparison. -/
theorem tokenize_links (first : AcceptedComparison p newGuid)
    (links : List (Connective × AcceptedComparison p newGuid))
    {tail : Text} {sets : List TokenSet} (h : Continues tail sets) :
    (tokenize (first.text ++ linksText links tail)).map TokenSet.trim
      = first.set :: (linkSets links ++ sets) :=
  tokenize_comparisonText_continued first.op first.isSideLeft first.isSideRight (continues_links links h)

theorem map_trim_linkSets (links : List (Connective × AcceptedComparison p newGuid)) :
    (linkSets links).map TokenSet.trim = linkSets links := by
  induction links with
  | nil => rfl
  | cons link links ih => simp [linkSets, ih]

/-- A connective marks that the next set is connected with what there is so far. -/
theorem foldSets_connective {n : Nat} {text : Text} {expected : Option ValueType} {sofar : Accumulator}
    {k : Connective} {sets : List TokenSet} {h} :
    foldSets p.schema (p.inner newGuid n) text expected sofar (TokenSet.marker k.keyword.toList :: sets) h =
      foldSets p.schema (p.inner newGuid n) text expected (sofar.1, some (.connective k)) sets
        (fun set hset => h set (List.mem_cons_of_mem _ hset)) := by
  have hnot : Text.eqIgnoreCase (TokenSet.marker k.keyword.toList).operation "not".toList = false := by
    cases k <;> decide
  have hop : BinaryOperator.ofKeyword? (TokenSet.marker k.keyword.toList).operation
      = some (.connective k) := by
    cases k <;> decide
  rw [foldSets_marker rfl hnot rfl, hop]

/-- By induction on the links: each of them is joined with what there is so far. -/
theorem sameResult_linkSets {n : Nat} {text : Text} {sets : List TokenSet} :
    ∀ (links : List (Connective × AcceptedComparison p newGuid)) {sofar : Predicate} {h h'},
      sofar.type.isBoolean = true →
      SameResult (foldSets p.schema (p.inner newGuid n) text none (some sofar, none) (linkSets links ++ sets) h)
        (foldSets p.schema (p.inner newGuid n) text none (some (links.foldl joined sofar), none) sets h') := by
  intro links
  induction links with
  | nil => exact fun _ => SameResult.refl _
  | cons link links ih =>
    obtain ⟨k, c⟩ := link
    intro sofar h h' hsofar q
    simp only [linkSets, List.cons_append, foldSets_connective, foldSets_operand c.isBlank_set_left,
      c.operand_eq_ok_iff, exists_and_left, exists_eq_left, extend_eq_ok_iff,
      combine_connective_eq_ok_iff, hsofar, c.isBoolean, true_and, exists_eq_left']
    exact ih rfl q

/-- Some number bounds the sides of all token sets of a list. -/
theorem exists_bound (sets : List TokenSet) :
    ∃ n, ∀ set ∈ sets, set.left.length < n ∧ set.right.length < n := by
  induction sets with
  | nil => exact ⟨0, by simp⟩
  | cons set sets ih =>
    obtain ⟨n, hn⟩ := ih
    refine ⟨n + set.left.length + set.right.length + 1, fun other hother => ?_⟩
    rcases List.mem_cons.1 hother with rfl | hother
    · omega
    · have := hn other hother
      omega

/-- The sets of a chain are joined from the left, and then combined with what follows them. -/
theorem exists_sameResult_chain (first : AcceptedComparison p newGuid)
    (links : List (Connective × AcceptedComparison p newGuid)) {tail : Text} {sets : List TokenSet}
    (htail : Continues tail sets) (htrim : sets.map TokenSet.trim = sets) :
    ∃ n h, SameResult (p.parseExpression newGuid (first.text ++ linksText links tail) none)
      (foldSets p.schema (p.inner newGuid n) [] none (some (links.foldl joined first.predicate), none)
        sets h) := by
  obtain ⟨n, hn⟩ := exists_bound (first.set :: (linkSets links ++ sets))
  have hlinks := fun set hset => hn set (List.mem_cons_of_mem first.set hset)
  have hsets := fun set hset => hlinks set (List.mem_append_right (linkSets links) hset)
  have htokens : (tokenize (first.text ++ linksText links tail)).map TokenSet.trim
      = (first.set :: (linkSets links ++ sets)).map TokenSet.trim := by
    simp [tokenize_links first links htail, map_trim_linkSets, htrim]
  have hwhole := p.parseExpression_of_trimmed_sets newGuid none [] htokens (by simp) hn
  have hfirst : SameResult
      (foldSets p.schema (p.inner newGuid n) [] none (none, none) (first.set :: (linkSets links ++ sets)) hn)
      (foldSets p.schema (p.inner newGuid n) [] none (some first.predicate, none) (linkSets links ++ sets)
        hlinks) := by
    intro q
    simp only [foldSets_operand first.isBlank_set_left, first.operand_eq_ok_iff, exists_and_left,
      exists_eq_left, extend_none, Except.ok.injEq, exists_eq_left']
  exact ⟨n, hsets, (hwhole.trans hfirst).trans (sameResult_linkSets links first.isBoolean)⟩

/-- A chain of comparisons is read as their predicates joined from the left. -/
theorem parse_links (first : AcceptedComparison p newGuid)
    (links : List (Connective × AcceptedComparison p newGuid)) :
    p.parse newGuid (first.text ++ linksText links []) = .ok (some (links.foldl joined first.predicate)) := by
  obtain ⟨n, h, hsame⟩ := exists_sameResult_chain first links .nil rfl
  exact parse_eq_ok_some_iff.2 ⟨(hsame _).2 rfl, isBoolean_foldl_joined first.isBoolean links⟩

/-- What a chain with a negation at the end is read as. The text behind `not` is squeezed. -/
theorem parse_links_not_iff (first : AcceptedComparison p newGuid)
    (links : List (Connective × AcceptedComparison p newGuid)) (k : Connective) {w : Text}
    (hblank : Text.isBlank w = false) (hw : depthAfter? 0 w = some 0) {r : Predicate}
    (hr : r.type.isBoolean = true) :
    p.parse newGuid (first.text ++ linksText links (connectiveText k ("not ".toList ++ w)))
        = .ok (some (joinedNot k (links.foldl joined first.predicate) r)) ↔
      p.parseExpression newGuid (Text.squeeze w) (some .boolean) = .ok (some r) := by
  obtain ⟨n, h, hsame⟩ := exists_sameResult_chain first links (Continues.negation k hblank hw)
    (by simp [Text.trim_squeeze])
  have hfirst := isBoolean_foldl_joined first.isBoolean links
  have hread : p.parseExpression newGuid (Text.squeeze (Text.trim w)) (some .boolean)
      = p.parseExpression newGuid (Text.squeeze w) (some .boolean) :=
    parseExpression_congr (by rw [Text.trim_squeeze, Text.trim_squeeze, Text.trim_trim]) _
  rw [parse_eq_ok_some_iff, hsame, foldSets_connective, foldSets_not (by rfl) (by rfl), negation_eq_ok_iff,
    scopeType?_not]
  simp only [inner, Option.some_or, hread, extend_eq_ok_iff, combine_connective_eq_ok_iff,
    negate_eq_ok_iff, Option.some.injEq]
  constructor
  · rintro ⟨⟨-, hq⟩ | ⟨operand, _, _, hoperand, ⟨-, rfl⟩, ⟨-, -, rfl⟩, hq⟩, -⟩
    · -- without an operand there would be no negation, so the predicate would have to contain itself
      exact absurd (congrArg sizeOf hq) (by simp [joinedNot]; omega)
    · cases hq
      exact hoperand
  · intro hoperand
    exact ⟨.inr ⟨r, .not r, _, hoperand, ⟨hr, rfl⟩, ⟨hfirst, rfl, rfl⟩, rfl⟩, rfl⟩

/-- A chain of accepted comparisons has their token sets with markers in between, and is read as their
predicates `joined` from the left. A negated text behind it is `joinedNot` to them if and only if
`Text.squeeze` does not change how it is read. -/
theorem parse_comparisonChain (p : FilterParser) (newGuid : Guid) (first : AcceptedComparison p newGuid)
    (links : List (Connective × AcceptedComparison p newGuid)) :
    (tokenize (first.text ++ linksText links [])).map TokenSet.trim = first.set :: linkSets links ∧
    p.parse newGuid (first.text ++ linksText links []) = .ok (some (links.foldl joined first.predicate)) ∧
    ∀ k w r, depthAfter? 0 w = some 0 → r.type.isBoolean = true →
      p.parseExpression newGuid w (some .boolean) = .ok (some r) →
      (p.parse newGuid (first.text ++ linksText links (connectiveText k ("not ".toList ++ w)))
          = .ok (some (joinedNot k (links.foldl joined first.predicate) r)) ↔
        p.parseExpression newGuid (Text.squeeze w) (some .boolean) = .ok (some r)) := by
  refine ⟨?_, parse_links first links, fun k w r hw hr hread => ?_⟩
  · rw [tokenize_links first links .nil, List.append_nil]
  · refine parse_links_not_iff first links k ?_ hw hr
    cases hblank : Text.isBlank w with
    | false => rfl
    | true =>
      rw [parseExpression_of_blank (Text.isBlank_iff_trim.1 hblank)] at hread
      cases hread

end Chains

/-! ### Two chains of items -/

/-- A comparison of two sides that parses is an `AcceptedComparison`. -/
theorem exists_acceptedComparison {p : FilterParser} {newGuid : Guid} (op : Comparison) (left right : Text)
    (hleft : IsSide left) (hright : IsSide right)
    (h : (p.parse newGuid (comparisonText op left right)).toOption.join.isSome = true) :
    ∃ c : AcceptedComparison p newGuid, c.text = comparisonText op left right := by
  obtain ⟨predicate, haccepted⟩ := Except.exists_of_isSome_join h
  exact ⟨⟨op, left, right, hleft, hright, predicate, haccepted⟩, rfl⟩

theorem exists_idEquation : ∃ c : AcceptedComparison items .nil, c.text = "Id eq 1".toList :=
  exists_acceptedComparison .eq "Id".toList "1".toList
    ⟨by decide, by decide, by decide, by decide⟩ ⟨by decide, by decide, by decide, by decide⟩
    (by decide +kernel)

/-- A chain with an operator in a literal, a tab before an operand, and a negation. -/
theorem parse_comparisonChain_items :
    ∃ (first second : AcceptedComparison items .nil) (r : Predicate),
      first.text ++ linksText [(.or, second)] (connectiveText .and "not startswith(Name, 'a')".toList)
        = "Id eq 1 or \tName eq 'x and y' and not startswith(Name, 'a')".toList ∧
      depthAfter? 0 "startswith(Name, 'a')".toList = some 0 ∧ r.type.isBoolean = true ∧
      items.parseExpression .nil "startswith(Name, 'a')".toList (some .boolean) = .ok (some r) ∧
      items.parse .nil "Id eq 1 or \tName eq 'x and y' and not startswith(Name, 'a')".toList
        = .ok (some (joinedNot .and (joined first.predicate (.or, second)) r)) := by
  obtain ⟨first, hfirst⟩ := exists_idEquation
  obtain ⟨second, hsecond⟩ : ∃ c : AcceptedComparison items .nil, c.text = "\tName eq 'x and y'".toList :=
    exists_acceptedComparison .eq "\tName".toList "'x and y'".toList
      ⟨by decide, by decide, by decide, by decide⟩ ⟨by decide, by decide, by decide, by decide⟩
      (by decide +kernel)
  obtain ⟨r, hread, hboolean⟩ : ∃ r,
      items.parseExpression .nil "startswith(Name, 'a')".toList (some .boolean) = .ok (some r) ∧
        r.type.isBoolean = true := Except.exists_of_map_join (by decide +kernel)
  have htext : first.text
      ++ linksText [(.or, second)] (connectiveText .and "not startswith(Name, 'a')".toList)
        = "Id eq 1 or \tName eq 'x and y' and not startswith(Name, 'a')".toList := by
    rw [linksText, hfirst, hsecond]
    rfl
  have hnested : depthAfter? 0 "startswith(Name, 'a')".toList = some 0 := by decide
  obtain ⟨-, -, hnot⟩ := parse_comparisonChain items .nil first [(.or, second)]
  refine ⟨first, second, r, htext, hnested, hboolean, hread, ?_⟩
  rw [← htext]
  exact (hnot .and "startswith(Name, 'a')".toList r hnested hboolean hread).2 hread

/-- A literal with two spaces in a row is kept in a text by itself, but not behind `not`. -/
theorem parse_not_squeezes :
    ∃ (first : AcceptedComparison items .nil) (r q : Predicate), first.text = "Id eq 1".toList ∧
      depthAfter? 0 "startswith(Name, 'a  b')".toList = some 0 ∧
      Nesting.start.advance "startswith(Name, 'a  b')".toList = .start ∧
      items.parseExpression .nil "startswith(Name, 'a  b')".toList (some .boolean) = .ok (some r) ∧
      r.type.isBoolean = true ∧
      items.parse .nil "Id eq 1 and not startswith(Name, 'a  b')".toList = .ok (some q) ∧
      q ≠ joinedNot .and first.predicate r := by
  obtain ⟨first, hfirst⟩ := exists_idEquation
  obtain ⟨r, hread, hr⟩ : ∃ r,
      items.parseExpression .nil "startswith(Name, 'a  b')".toList (some .boolean) = .ok (some r) ∧
        (r.type.isBoolean, (Dialect.odata.render r).toOption)
          = (true, some "startswith(Name, 'a  b') eq true".toList) :=
    Except.exists_of_map_join (by decide +kernel)
  obtain ⟨hboolean, hprinted⟩ := Prod.mk.inj hr
  obtain ⟨q, hq⟩ : ∃ q, items.parse .nil "Id eq 1 and not startswith(Name, 'a  b')".toList = .ok (some q) :=
    Except.exists_of_isSome_join (by decide +kernel)
  obtain ⟨squeezed, hsqueezed, hshort⟩ : ∃ squeezed,
      items.parseExpression .nil (Text.squeeze "startswith(Name, 'a  b')".toList) (some .boolean)
          = .ok (some squeezed) ∧
        (Dialect.odata.render squeezed).toOption = some "startswith(Name, 'a b') eq true".toList :=
    Except.exists_of_map_join (by decide +kernel)
  have htext : first.text
      ++ linksText ([] : List (Connective × AcceptedComparison items .nil))
          (connectiveText .and ("not ".toList ++ "startswith(Name, 'a  b')".toList))
        = "Id eq 1 and not startswith(Name, 'a  b')".toList := by
    rw [hfirst]
    rfl
  refine ⟨first, r, q, hfirst, by decide, by decide, hread, hboolean, hq, ?_⟩
  rintro rfl
  -- then the squeezed text would have to be read as the whole literal
  have hsame := (parse_links_not_iff first [] .and (by decide) (by decide) hboolean).1 (htext ▸ hq)
  rw [hsqueezed] at hsame
  cases hsame
  rw [hprinted] at hshort
  exact absurd hshort (by decide)

end FilterParser
end RecordFilter
