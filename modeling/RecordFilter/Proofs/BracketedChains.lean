import RecordFilter.Proofs.Chains
import RecordFilter.Proofs.LeftFold
import RecordFilter.Proofs.VacantFilters

/-!
# Chains with comparisons in parentheses

A comparison has its two sides already when the connective behind it comes, so the connective only marks
that something follows. A comparison in parentheses is an operand without operators, and the connective
behind it takes all of the rest: `a or b and c` is read as `(a or b) and c`, but `(a) or b and c` as
`a or (b and c)`. Only the last comparison of a chain, which has no connective behind it, can be put in
parentheses without a difference, if it is not taken for a string match.

What a chain is read as is described by the token sets that its connectives lead to (`FoldsTo`). The
predicate grows with each of them, so a chain that is cut short by a pair of parentheses is another one.

Main statement: `parse_shownText_iff`.
-/

namespace RecordFilter
namespace Filter

/-! ## Comparisons -/

/-- A comparison as it stands in a chain: two sides, each of which closes the parentheses and the quotes that
it opens, with the word of the comparison in between, in any case. It may be in parentheses. -/
structure ChainComparison where
  op : Comparison
  word : Text
  left : Text
  right : Text
  bracketed : Bool
  keyword : BinaryOperator.ofKeyword? word = some (.comparison op)
  isSideLeft : IsSide left
  isSideRight : IsSide right
  nestedLeft : WellNested left
  nestedRight : WellNested right
  isPresent : ¬IsVacant right

/-- A text in parentheses, without its runs of spaces. -/
def enclosedText (t : Text) : Text :=
  '(' :: Text.squeeze t ++ [')']

namespace ChainComparison

variable (c : ChainComparison)

/-- The comparison without parentheses around it. -/
def text : Text :=
  betweenText c.left c.word c.right

/-- The comparison as it is shown. -/
def shown : Text :=
  if c.bracketed then '(' :: c.text ++ [')'] else c.text

def set : TokenSet :=
  betweenSet c.left c.word c.right

theorem isOperation : Filter.isOperation c.word = true :=
  (FilterParser.isOperation_of_ofKeyword? c.keyword).1

theorem isCombinator : Filter.isCombinator c.word = false :=
  (FilterParser.isOperation_of_ofKeyword? c.keyword).2

theorem shown_bracketed (h : c.bracketed = true) : c.shown = '(' :: c.text ++ [')'] := by
  rw [shown, if_pos h]

theorem shown_bare (h : c.bracketed = false) : c.shown = c.text := by
  rw [shown, if_neg (by simp [h])]

theorem isBlank_text : Text.isBlank c.text = false :=
  isBlank_betweenText c.left c.word c.isSideRight.notBlank

theorem isBlank_shown : Text.isBlank c.shown = false := by
  cases h : c.bracketed with
  | true =>
    rw [c.shown_bracketed h]
    rfl
  | false =>
    rw [c.shown_bare h]
    exact c.isBlank_text

theorem wellNested_text : WellNested c.text := by
  have hword : WellNested (' ' :: c.word ++ [' ']) := by
    refine .of_plain fun d hd => ?_
    simp only [List.cons_append, List.mem_cons, List.mem_append, List.not_mem_nil, or_false] at hd
    rcases hd with rfl | hd | rfl
    · decide
    · exact plain_of_isOperation c.isOperation d hd
    · decide
  have htext : c.text = c.left ++ (' ' :: c.word ++ [' ']) ++ c.right := by
    simp [text, betweenText]
  rw [htext]
  exact (c.nestedLeft.append hword).append c.nestedRight

theorem wellNested_shown : WellNested c.shown := by
  cases h : c.bracketed with
  | true =>
    rw [c.shown_bracketed h]
    exact c.wellNested_text.enclosed
  | false =>
    rw [c.shown_bare h]
    exact c.wellNested_text

theorem isBlank_set_left : Text.isBlank c.set.left = false := by
  simp [set, betweenSet, c.isSideLeft.notBlank]

end ChainComparison

/-! ## Token sets of chains -/

/-- Connectives with the token sets that follow them. -/
def connectedSets : List (Connective × TokenSet) → List TokenSet
  | [] => []
  | (k, set) :: links => TokenSet.marker k.keyword.toList :: set :: connectedSets links

theorem trim_enclosedText (t : Text) : Text.trim (enclosedText t) = enclosedText t :=
  trim_enclosed (Text.squeeze t)

theorem isEnclosed_enclosedText {t : Text} (hne : t ≠ []) : isEnclosed (enclosedText t) = true := by
  have hinner : enclosedInner? (enclosedText t) = some (Text.squeeze t) :=
    enclosedInner?_eq_some_iff.2 ⟨rfl, fun hnil => hne (Text.squeeze_eq_nil_iff.1 hnil)⟩
  rw [isEnclosed, hinner]
  rfl

theorem trimEnd_enclosed (t : Text) : Text.trimEnd ('(' :: t ++ [')']) = '(' :: t ++ [')'] := by
  refine Text.trimEnd_eq_self fun c hc => ?_
  rw [List.getLast?_concat] at hc
  cases hc
  rfl

/-- A text in parentheses at the end is a set of its own. -/
theorem Continues.enclosed (k : Connective) {t : Text} (hne : t ≠ []) (h : WellNested t) :
    Continues (connectiveText k ('(' :: t ++ [')'])) (connectedSets [(k, ⟨enclosedText t, [], []⟩)]) := by
  refine ⟨depthAfter?_connectiveText h.enclosed.balanced, fun {left b} operation hleft hb => ?_⟩
  have hlast : scan (.fresh true) (Text.words ('(' :: t ++ [')'])) = [⟨enclosedText t, [], []⟩] := by
    have henclosed := isEnclosed_enclosedText hne
    rw [scan_operand h.closes.hasNoOperator_enclosed.operatorFree, unwords_words_enclosed,
      ← enclosedText, henclosed]
    rfl
  rw [trimEnd_connectiveText (by rfl), trimEnd_enclosed, words_connectiveText,
    scan_side_combinator hleft hb.hasNoOperator (isCombinator_keyword k), hlast]
  simp [connectedSets, Text.trim_unwords_words, trim_enclosedText]

/-- With a connective behind it, it takes all of the rest. -/
theorem Continues.enclosed_connective (k next : Connective) {t rest : Text} (h : WellNested t)
    (hblank : Text.isBlank rest = false) (hrest : depthAfter? 0 rest = some 0) :
    Continues (connectiveText k ('(' :: t ++ [')'] ++ connectiveText next rest))
      (connectedSets [(k, ⟨enclosedText t, next.keyword.toList, Text.squeeze (Text.trim rest)⟩)]) := by
  have hbalanced : depthAfter? 0 ('(' :: t ++ [')'] ++ connectiveText next rest) = some 0 := by
    rw [depthAfter?_append, h.enclosed.balanced, Option.bind_some, depthAfter?_connectiveText hrest]
  refine ⟨depthAfter?_connectiveText hbalanced, fun {left b} operation hleft hb => ?_⟩
  rw [trimEnd_connectiveText (by rfl), trimEnd_connectiveText hblank, words_connectiveText,
    words_connectiveText, scan_side_combinator hleft hb.hasNoOperator (isCombinator_keyword k),
    scan_combinator h.closes.hasNoOperator_enclosed (isCombinator_keyword next), unwords_words_enclosed,
    ← enclosedText]
  simp [connectedSets, Text.trim_unwords_words, trim_enclosedText]

/-- A connective in lower case behind a closed text makes more of it than a string match. -/
theorem isImpliedBoolean_connected {t rest : Text} (k : Connective) (hblank : Text.isBlank t = false)
    (hclosed : Nesting.start.advance t = .start) (hrest : Text.isBlank rest = false) :
    isImpliedBoolean (t ++ connectiveText k rest) = false := by
  have hwords : Text.words (Text.trim (t ++ connectiveText k rest))
      = Text.words (Text.trimStart t) ++ k.keyword.toList :: Text.words (Text.trimEnd rest) := by
    rw [append_connectiveText, trim_betweenText _ hblank hrest,
      words_betweenText (isWord_of_isOperation (isOperation_keyword k))]
  have hstart : (Text.words (Text.trimStart t)).foldl Nesting.advance .start = .start := by
    rw [Nesting.isValid_start.advance_words, ← Nesting.isValid_start.advance_trim, Text.trim_trimStart,
      Nesting.isValid_start.advance_trim, hclosed]
  have hlower : isLowerOperation k.keyword.toList = true := by
    cases k <;> decide
  exact isImpliedBoolean_eq_false _ hwords hstart hlower (isOperation_keyword k)

theorem isImpliedBoolean_trim (t : Text) : isImpliedBoolean (Text.trim t) = isImpliedBoolean t := by
  rw [isImpliedBoolean_eq, isImpliedBoolean_eq, Text.trim_trim]

/-- A text in parentheses at the beginning takes all of the rest with the connective behind it. -/
theorem tokenize_enclosed_connective (next : Connective) {t rest : Text} (h : WellNested t)
    (hblank : Text.isBlank rest = false) (hrest : depthAfter? 0 rest = some 0) :
    (tokenize ('(' :: t ++ [')'] ++ connectiveText next rest)).map TokenSet.trim
      = [⟨enclosedText t, next.keyword.toList, Text.squeeze (Text.trim rest)⟩] := by
  have htrim : Text.trim ('(' :: t ++ [')'] ++ connectiveText next rest)
      = '(' :: t ++ [')'] ++ connectiveText next (Text.trimEnd rest) := by
    rw [append_connectiveText, trim_betweenText _ (by rfl) hblank, ← append_connectiveText]
    rfl
  have hstrip : stripEnclosing? (Text.trim ('(' :: t ++ [')'] ++ connectiveText next rest)) = none := by
    have hend : depthAfter? 0 (Text.trimEnd rest) = some 0 := by
      rw [← depthAfter?_trim, Text.trim_trimEnd, depthAfter?_trim, hrest]
    rw [htrim]
    exact stripEnclosing?_append (by simp) (by simp [connectiveText]) h.enclosed.balanced
      (depthAfter?_connectiveText hend)
  have himplied : isImpliedBoolean (Text.trim ('(' :: t ++ [')'] ++ connectiveText next rest)) = false := by
    rw [isImpliedBoolean_trim]
    exact isImpliedBoolean_connected next (by rfl) h.enclosed.closed hblank
  rw [← tokenize_trim, tokenize_eq_scan (Text.trim_trim _) (by rw [htrim]; simp) hstrip himplied, htrim,
    words_connectiveText, scan_combinator h.closes.hasNoOperator_enclosed (isCombinator_keyword next),
    unwords_words_enclosed, ← enclosedText]
  simp [Text.trim_unwords_words, trim_enclosedText]

/-! ## Texts of chains -/

/-- A comparison behind a connective. -/
abbrev Link := Connective × ChainComparison

/-- Connectives and the comparisons that follow them, without parentheses around those, and what follows the
last one. -/
def bareLinks : List Link → Text → Text
  | [], tail => tail
  | (k, c) :: links, tail => connectiveText k (c.text ++ bareLinks links tail)

/-- Connectives and the comparisons that follow them, as they are shown. -/
def shownLinks : List Link → Text
  | [] => []
  | (k, c) :: links => connectiveText k (c.shown ++ shownLinks links)

/-- A chain without parentheses around its comparisons. -/
def bareText (first : ChainComparison) (links : List Link) : Text :=
  first.text ++ bareLinks links []

/-- A chain with the comparisons as they are shown. -/
def shownText (first : ChainComparison) (links : List Link) : Text :=
  first.shown ++ shownLinks links

/-- The token sets that the connectives of a bare chain lead to. -/
def bareSets (links : List Link) : List (Connective × TokenSet) :=
  links.map fun link => (link.1, link.2.set)

theorem depthAfter?_shownLinks (links : List Link) : depthAfter? 0 (shownLinks links) = some 0 := by
  induction links with
  | nil => rfl
  | cons link links ih =>
    refine depthAfter?_connectiveText ?_
    rw [depthAfter?_append, link.2.wellNested_shown.balanced, Option.bind_some, ih]

/-- Links begin with a connective. -/
theorem exists_shownLinks {links : List Link} (hne : links ≠ []) : ∃ k rest,
    shownLinks links = connectiveText k rest ∧ Text.isBlank rest = false ∧ depthAfter? 0 rest = some 0 := by
  obtain ⟨⟨k, c⟩, links, rfl⟩ := List.exists_cons_of_ne_nil hne
  refine ⟨k, c.shown ++ shownLinks links, rfl, ?_, ?_⟩
  · rw [Text.isBlank_append, c.isBlank_shown, Bool.false_and]
  · rw [depthAfter?_append, c.wellNested_shown.balanced, Option.bind_some, depthAfter?_shownLinks]

/-- Where the first comparisons of a chain are bare, they are shown as they are. -/
theorem shownLinks_append {links : List Link} (h : ∀ link ∈ links, link.2.bracketed = false)
    (others : List Link) : shownLinks (links ++ others) = bareLinks links (shownLinks others) := by
  induction links with
  | nil => rfl
  | cons link links ih =>
    obtain ⟨k, c⟩ := link
    rw [List.cons_append, shownLinks, bareLinks, c.shown_bare (h _ List.mem_cons_self),
      ih fun other hother => h other (List.mem_cons_of_mem _ hother)]

theorem bareLinks_append (links others : List Link) (tail : Text) :
    bareLinks (links ++ others) tail = bareLinks links (bareLinks others tail) := by
  induction links with
  | nil => rfl
  | cons link links ih =>
    obtain ⟨k, c⟩ := link
    rw [List.cons_append, bareLinks, bareLinks, ih]

/-- By induction on the links: each bare comparison is scanned like the one before it. -/
theorem continues_bareLinks (links : List Link) {tail : Text} {sets : List (Connective × TokenSet)}
    (h : Continues tail (connectedSets sets)) :
    Continues (bareLinks links tail) (connectedSets (bareSets links ++ sets)) := by
  induction links with
  | nil => exact h
  | cons link links ih =>
    exact ih.link link.1 link.2.isOperation link.2.isCombinator link.2.isSideLeft link.2.isSideRight

/-- A bare comparison and what follows it behind a connective. -/
theorem tokenize_continued_text (c : ChainComparison) (k : Connective) {rest : Text}
    (hblank : Text.isBlank rest = false) {sets : List TokenSet}
    (h : Continues (connectiveText k rest) sets) :
    (tokenize (c.text ++ connectiveText k rest)).map TokenSet.trim = c.set :: sets := by
  refine tokenize_continued c.isOperation c.isCombinator c.isSideLeft c.isSideRight ?_ h
  rw [isImpliedBoolean_trim]
  exact isImpliedBoolean_connected k c.isBlank_text c.wellNested_text.closed hblank

end Filter

namespace FilterParser

open RecordFilter.Filter

variable {p : FilterParser} {newGuid : Guid}

/-! ## Folds -/

/-- What a token set is read as. Without a right side the left one stands alone. -/
def ReadsSet (p : FilterParser) (newGuid : Guid) (expected : Option ValueType) (set : TokenSet)
    (q : Predicate) : Prop :=
  ∃ left, p.parseExpression newGuid set.left ((scopeType? p.schema set).or expected) = .ok (some left) ∧
    ((p.parseExpression newGuid set.right (some left.type) = .ok none ∧ left = q) ∨
      ∃ right, p.parseExpression newGuid set.right (some left.type) = .ok (some right) ∧
        operate set left right = .ok q)

theorem operand_eq_ok_iff_readsSet {n : Nat} {expected : Option ValueType} {set : TokenSet}
    {hleft : set.left.length < n} {hright : set.right.length < n} {q : Predicate} :
    operand (p.inner newGuid n) set ((scopeType? p.schema set).or expected) hleft hright = .ok q ↔
      p.ReadsSet newGuid expected set q :=
  operand_eq_ok_iff

theorem ReadsSet.unique {expected : Option ValueType} {set : TokenSet} {q q' : Predicate}
    (h : p.ReadsSet newGuid expected set q) (h' : p.ReadsSet newGuid expected set q') : q = q' := by
  have hoperand : ∀ r, p.ReadsSet newGuid expected set r ↔ operand (p.inner newGuid _) set
      ((scopeType? p.schema set).or expected) (Nat.lt_succ_of_le (Nat.le_max_left _ _))
      (Nat.lt_succ_of_le (Nat.le_max_right _ _)) = .ok r := fun r => operand_eq_ok_iff_readsSet.symm
  have heq := ((hoperand q).1 h).symm.trans ((hoperand q').1 h')
  cases heq
  rfl

/-- What there is so far, connected from the left with what the token sets are read as. -/
def FoldsTo (p : FilterParser) (newGuid : Guid) (expected : Option ValueType) :
    Predicate → List (Connective × TokenSet) → Predicate → Prop
  | sofar, [], q => sofar = q
  | sofar, (k, set) :: links, q => ∃ current, p.ReadsSet newGuid expected set current ∧
      sofar.type.isBoolean = true ∧ current.type.isBoolean = true ∧
      FoldsTo p newGuid expected (.binary (.connective k) sofar current .boolean) links q

theorem foldsTo_append {expected : Option ValueType} {links others : List (Connective × TokenSet)} :
    ∀ {sofar q : Predicate}, p.FoldsTo newGuid expected sofar (links ++ others) q ↔
      ∃ between, p.FoldsTo newGuid expected sofar links between ∧
        p.FoldsTo newGuid expected between others q := by
  induction links with
  | nil =>
    intro sofar q
    simp [FoldsTo]
  | cons link links ih =>
    intro sofar q
    simp only [List.cons_append, FoldsTo, ih]
    constructor
    · rintro ⟨current, hread, hsofar, hcurrent, between, hlinks, hothers⟩
      exact ⟨between, ⟨current, hread, hsofar, hcurrent, hlinks⟩, hothers⟩
    · rintro ⟨between, ⟨current, hread, hsofar, hcurrent, hlinks⟩, hothers⟩
      exact ⟨current, hread, hsofar, hcurrent, between, hlinks, hothers⟩

theorem FoldsTo.unique {expected : Option ValueType} {links : List (Connective × TokenSet)} :
    ∀ {sofar q q' : Predicate}, p.FoldsTo newGuid expected sofar links q →
      p.FoldsTo newGuid expected sofar links q' →
      q = q' := by
  induction links with
  | nil =>
    rintro sofar q q' rfl rfl
    rfl
  | cons link links ih =>
    rintro sofar q q' ⟨current, hread, -, -, hlinks⟩ ⟨current', hread', -, -, hlinks'⟩
    rw [hread.unique hread'] at hlinks
    exact ih hlinks hlinks'

/-- By induction on the links: a predicate grows when it is connected. -/
theorem FoldsTo.sizeOf_le {expected : Option ValueType} {links : List (Connective × TokenSet)} :
    ∀ {sofar q : Predicate}, p.FoldsTo newGuid expected sofar links q →
      sizeOf sofar + links.length ≤ sizeOf q := by
  induction links with
  | nil =>
    rintro sofar q rfl
    exact Nat.le_refl _
  | cons link links ih =>
    rintro sofar q ⟨current, -, -, -, hlinks⟩
    have hle := ih hlinks
    simp only [Predicate.binary.sizeOf_spec, List.length_cons] at hle ⊢
    omega

/-- The last connective is at the top. -/
theorem foldsTo_concat {expected : Option ValueType} {links : List (Connective × TokenSet)} {k : Connective}
    {set : TokenSet} {sofar q : Predicate} :
    p.FoldsTo newGuid expected sofar (links ++ [(k, set)]) q ↔
      ∃ between current, p.FoldsTo newGuid expected sofar links between ∧
        p.ReadsSet newGuid expected set current ∧
        between.type.isBoolean = true ∧ current.type.isBoolean = true ∧
        .binary (.connective k) between current .boolean = q := by
  simp only [foldsTo_append, FoldsTo, exists_and_left]

/-- By induction on the links: the token sets of a chain are folded. -/
theorem foldSets_connectedSets {n : Nat} {text : Text} {expected : Option ValueType} :
    ∀ {links : List (Connective × TokenSet)} {sofar q : Predicate} {h},
      (∀ link ∈ links, Text.isBlank link.2.left = false) →
      (foldSets p.schema (p.inner newGuid n) text expected (some sofar, none) (connectedSets links) h
          = .ok (some q) ↔
        p.FoldsTo newGuid expected sofar links q) := by
  intro links
  induction links with
  | nil =>
    intro sofar q h _
    simp [connectedSets, foldSets_nil, FoldsTo]
  | cons link links ih =>
    obtain ⟨k, set⟩ := link
    intro sofar q h hblank
    have hrest := fun other hother => hblank other (List.mem_cons_of_mem _ hother)
    simp only [connectedSets, foldSets_connective, foldSets_operand (hblank _ List.mem_cons_self),
      operand_eq_ok_iff_readsSet, extend_eq_ok_iff, combine_connective_eq_ok_iff, FoldsTo, ih hrest]
    constructor
    · rintro ⟨current, _, hread, ⟨hsofar, hcurrent, rfl⟩, hlinks⟩
      exact ⟨current, hread, hsofar, hcurrent, hlinks⟩
    · rintro ⟨current, hread, hsofar, hcurrent, hlinks⟩
      exact ⟨current, _, hread, ⟨hsofar, hcurrent, rfl⟩, hlinks⟩

/-- A text whose token sets are those of a chain. -/
theorem parseExpression_of_connectedSets {t : Text} {set : TokenSet} {links : List (Connective × TokenSet)}
    {expected : Option ValueType}
    (hsets : (tokenize t).map TokenSet.trim = (set :: connectedSets links).map TokenSet.trim)
    (hblank : Text.isBlank set.left = false) (hlinks : ∀ link ∈ links, Text.isBlank link.2.left = false)
    {q : Predicate} :
    p.parseExpression newGuid t expected = .ok (some q) ↔
      ∃ first, p.ReadsSet newGuid expected set first ∧ p.FoldsTo newGuid expected first links q := by
  obtain ⟨n, hn⟩ := exists_bound (set :: connectedSets links)
  rw [p.parseExpression_of_trimmed_sets newGuid expected [] hsets (by simp) hn, foldSets_operand hblank]
  simp only [operand_eq_ok_iff_readsSet, extend_none, Except.ok.injEq, foldSets_connectedSets hlinks]
  constructor
  · rintro ⟨first, _, hread, rfl, hfold⟩
    exact ⟨first, hread, hfold⟩
  · rintro ⟨first, hread, hfold⟩
    exact ⟨first, first, hread, rfl, hfold⟩

/-- A chain of bare comparisons, and what follows it behind one more connective. -/
theorem parseExpression_bareLinks (first : ChainComparison) (links : List Link) (k : Connective)
    {rest : Text} (hblank : Text.isBlank rest = false) {sets : List (Connective × TokenSet)}
    (hrest : Continues (connectiveText k rest) (connectedSets sets))
    (hsets : ∀ link ∈ sets, Text.isBlank link.2.left = false) {q : Predicate} :
    p.parseExpression newGuid (first.text ++ bareLinks links (connectiveText k rest)) none = .ok (some q) ↔
      ∃ l, p.ReadsSet newGuid none first.set l ∧ p.FoldsTo newGuid none l (bareSets links ++ sets) q := by
  have hfound : (tokenize (first.text ++ bareLinks links (connectiveText k rest))).map TokenSet.trim
      = first.set :: connectedSets (bareSets links ++ sets) := by
    cases links with
    | nil => exact tokenize_continued_text first k hblank hrest
    | cons link links =>
      refine tokenize_continued_text first link.1 ?_ (continues_bareLinks (link :: links) hrest)
      rw [Text.isBlank_append, link.2.isBlank_text, Bool.false_and]
  have htrim := congrArg (List.map TokenSet.trim) hfound
  rw [List.map_map, show TokenSet.trim ∘ TokenSet.trim = TokenSet.trim from
    funext fun set => by simp [TokenSet.trim, Text.trim_trim]] at htrim
  refine parseExpression_of_connectedSets htrim first.isBlank_set_left fun link hlink => ?_
  rcases List.mem_append.1 hlink with hlink | hlink
  · obtain ⟨bare, -, rfl⟩ := List.mem_map.1 hlink
    exact bare.2.isBlank_set_left
  · exact hsets link hlink

/-! ## Comparisons in parentheses -/

/-- A comparison is read as one: there is something on its right. -/
theorem ReadsSet.exists_comparison {c : ChainComparison} {expected : Option ValueType} {q : Predicate}
    (h : p.ReadsSet newGuid expected c.set q) : ∃ a b, q = .binary (.comparison c.op) a b .boolean := by
  obtain ⟨a, -, ⟨hnone, -⟩ | ⟨b, -, hoperate⟩⟩ := h
  · have hright : p.parseExpression newGuid c.right none = .ok none := by
      rw [← parseExpression_trim]
      exact parseExpression_eq_ok_none (Text.squeeze_squeeze _) hnone
    exact absurd (parseExpression_eq_ok_none_iff.1 hright) c.isPresent
  · exact ⟨a, b, combine_comparison ((operate_of_keyword c.keyword).1 hoperate)⟩

section Enclosed

variable {c : ChainComparison} {expected : Option ValueType} {q : Predicate}

theorem trim_squeeze_text_ne_nil (c : ChainComparison) : Text.trim (Text.squeeze c.text) ≠ [] := by
  intro hnil
  have hblank := c.isBlank_text
  rw [← Text.isBlank_squeeze, Text.isBlank_iff_trim.2 hnil] at hblank
  cases hblank

theorem squeeze_text_ne_nil (c : ChainComparison) : Text.squeeze c.text ≠ [] := by
  intro hnil
  apply trim_squeeze_text_ne_nil c
  rw [hnil]
  rfl

theorem hasOrphan_squeeze_text (c : ChainComparison) : hasOrphan (Text.squeeze c.text) = false := by
  rw [hasOrphan_squeeze, hasOrphan_of_balanced c.wellNested_text.balanced]

theorem stripEnclosing?_squeeze_text (c : ChainComparison) :
    stripEnclosing? (Text.trim (Text.squeeze c.text)) = none := by
  have hstrip := stripEnclosing?_betweenText c.isOperation c.isSideLeft c.isSideRight (depthAfter?_nil 0)
  rw [List.append_nil] at hstrip
  rw [Text.trim_squeeze, stripEnclosing?_squeeze, ChainComparison.text, hstrip]
  rfl

/-- The parentheses around a comparison can be removed. -/
theorem sameResult_enclosed_comparison (c : ChainComparison) (expected : Option ValueType) :
    SameResult (p.parseExpression newGuid (enclosedText c.text) expected)
      (p.parseExpression newGuid (Text.squeeze c.text) expected) := by
  refine sameResult_parentheses p newGuid expected (squeeze_text_ne_nil c) (hasOrphan_squeeze_text c)
    fun inside hinside => ?_
  rw [stripEnclosing?_squeeze_text] at hinside
  cases hinside

theorem tokenize_squeeze_text (h : isImpliedBoolean c.text = false) :
    (tokenize (Text.squeeze c.text)).map TokenSet.trim = [c.set] := by
  have hsets := tokenize_continued c.isOperation c.isCombinator c.isSideLeft c.isSideRight
    (by rw [isImpliedBoolean_trim, List.append_nil]; exact h) .nil
  rw [List.append_nil] at hsets
  rw [tokenize_squeeze]
  exact hsets

/-- A comparison in parentheses is read like the comparison, if it is not taken for a string match. -/
theorem parseExpression_enclosedText_iff (h : isImpliedBoolean c.text = false) :
    p.parseExpression newGuid (enclosedText c.text) expected = .ok (some q) ↔
      p.ReadsSet newGuid expected c.set q := by
  have hsets : (tokenize (Text.squeeze c.text)).map TokenSet.trim
      = (c.set :: connectedSets []).map TokenSet.trim := by
    rw [tokenize_squeeze_text h]
    exact (congrArg (fun set => [set]) (trim_betweenSet c.left c.word c.right)).symm
  rw [sameResult_enclosed_comparison, parseExpression_of_connectedSets hsets c.isBlank_set_left (by simp)]
  simp [FoldsTo]

/-- Else it is read as something without operators. -/
theorem isSimple_of_enclosedText (h : isImpliedBoolean c.text = true)
    (hq : p.parseExpression newGuid (enclosedText c.text) expected = .ok (some q)) : q.IsSimple := by
  have hstrip := stripEnclosing?_squeeze_text c
  have hsets : tokenize (Text.trim (Text.squeeze c.text)) = [] := by
    have himplied : isImpliedBoolean (Text.trim (Text.squeeze c.text)) = true := by
      rw [isImpliedBoolean_trim, isImpliedBoolean_squeeze, h]
    unfold tokenize
    simp only [Text.trim_trim, hstrip, Option.getD_none, himplied, Bool.or_true, if_true]
  rw [sameResult_enclosed_comparison,
    parseExpression_of_atom expected (trim_squeeze_text_ne_nil c) hsets hstrip] at hq
  obtain ⟨_, hatom, heq⟩ := Except.map_eq_ok_iff.1 hq
  cases heq
  exact isSimple_of_atom hatom

/-- A comparison in parentheses is never read as a connection. -/
theorem ne_connective_of_enclosedText
    (hq : p.parseExpression newGuid (enclosedText c.text) expected = .ok (some q)) (k : Connective)
    (left right : Predicate) (type : ValueType) : q ≠ .binary (.connective k) left right type := by
  rintro rfl
  cases himplied : isImpliedBoolean c.text with
  | true => exact isSimple_of_enclosedText himplied hq
  | false =>
    obtain ⟨_, _, heq⟩ := ((parseExpression_enclosedText_iff himplied).1 hq).exists_comparison
    cases heq

/-- In parentheses a comparison has the scope that it has without them. -/
theorem scopeType?_enclosedText (schema : RecordType) (h : isImpliedBoolean c.text = false) :
    scopeType? schema ⟨enclosedText c.text, [], []⟩ = scopeType? schema c.set := by
  have hsets : (tokenize (enclosedText c.text)).map TokenSet.trim = [c.set] := by
    rw [enclosedText, tokenize_enclosed_of_bare (hasOrphan_squeeze_text c)
      (stripEnclosing?_squeeze_text c) (trim_squeeze_text_ne_nil c), tokenize_squeeze_text h]
  obtain ⟨set, hset, htrim⟩ := List.map_eq_singleton_iff.1 hsets
  have hfirst : firstProperty? schema (enclosedText c.text)
      = (firstProperty? schema c.set.left).or (firstProperty? schema c.set.right) := by
    have htrimmed : Text.IsTrimmed (enclosedText c.text) :=
      ⟨⟨'(', rfl, by decide⟩, ')', List.getLast?_concat, by decide⟩
    have himplied : isImpliedBoolean (enclosedText c.text) = false :=
      isImpliedBoolean_enclosed (squeeze_text_ne_nil c)
    rw [firstProperty?_of_cons schema htrimmed himplied hset, ← htrim]
    congr 1
    · exact firstProperty?_congr schema (Text.trim_trim _).symm
    · exact firstProperty?_congr schema (Text.trim_trim _).symm
  have hset : isCombinator c.set.operation = false := c.isCombinator
  have hnil : isCombinator [] = false := by decide
  unfold scopeType?
  simp only [hset, hnil, Bool.false_eq_true, if_false, hfirst, firstProperty?_nil, Option.or_none]

/-- The token set of a comparison in parentheses at the end of a chain has no right side. -/
theorem readsSet_single {t : Text} : p.ReadsSet newGuid expected ⟨t, [], []⟩ q ↔
    p.parseExpression newGuid t ((scopeType? p.schema ⟨t, [], []⟩).or expected) = .ok (some q) := by
  have hnone : ∀ e, p.parseExpression newGuid [] e = .ok none := fun e => parseExpression_of_blank rfl
  simp [ReadsSet, hnone]

/-- So it is read like the comparison. -/
theorem readsSet_enclosedText_iff (h : isImpliedBoolean c.text = false) :
    p.ReadsSet newGuid none ⟨enclosedText c.text, [], []⟩ q ↔ p.ReadsSet newGuid none c.set q := by
  rw [readsSet_single, scopeType?_enclosedText p.schema h, parseExpression_enclosedText_iff h]
  simp [ReadsSet]

end Enclosed

/-! ## Chains with comparisons in parentheses -/

variable {first last : ChainComparison} {middle : List Link} {k : Connective} {q : Predicate}

/-- A chain of bare comparisons connects what its first comparisons are read as with the last one. -/
theorem parseExpression_bareText_iff :
    p.parseExpression newGuid (bareText first (middle ++ [(k, last)])) none = .ok (some q) ↔
      ∃ l between current, p.ReadsSet newGuid none first.set l ∧
        p.FoldsTo newGuid none l (bareSets middle) between ∧
        p.ReadsSet newGuid none last.set current ∧
        between.type.isBoolean = true ∧ current.type.isBoolean = true ∧
        .binary (.connective k) between current .boolean = q := by
  have hlast : Continues (bareLinks [(k, last)] []) (connectedSets (bareSets [(k, last)] ++ [])) :=
    continues_bareLinks _ .nil
  have htext : bareLinks [(k, last)] [] = connectiveText k last.text := by
    simp [bareLinks]
  rw [htext, List.append_nil] at hlast
  rw [bareText, bareLinks_append, htext, parseExpression_bareLinks first middle k last.isBlank_text hlast
    (by simp [bareSets, last.isBlank_set_left])]
  simp only [bareSets, List.map_cons, List.map_nil, foldsTo_concat, exists_and_left]

/-- The last comparison can be put in parentheses, if it is not taken for a string match then. -/
theorem parseExpression_last_enclosed (hlast : last.bracketed = true) (hfirst : first.bracketed = false)
    (hmiddle : ∀ link ∈ middle, link.2.bracketed = false) :
    p.parseExpression newGuid (shownText first (middle ++ [(k, last)])) none = .ok (some q) ↔
      ∃ l between current, p.ReadsSet newGuid none first.set l ∧
        p.FoldsTo newGuid none l (bareSets middle) between ∧
        p.ReadsSet newGuid none ⟨enclosedText last.text, [], []⟩ current ∧ between.type.isBoolean = true ∧
        current.type.isBoolean = true ∧ .binary (.connective k) between current .boolean = q := by
  have hne : last.text ≠ [] := fun hnil => squeeze_text_ne_nil last (by rw [hnil]; rfl)
  have htext : shownLinks [(k, last)] = connectiveText k ('(' :: last.text ++ [')']) := by
    simp [shownLinks, last.shown_bracketed hlast]
  rw [shownText, first.shown_bare hfirst, shownLinks_append hmiddle, htext,
    parseExpression_bareLinks first middle k (by rfl) (Continues.enclosed k hne last.wellNested_text)
      (by rintro link hlink; cases List.mem_singleton.1 hlink; rfl)]
  simp only [foldsTo_concat, exists_and_left]

/-- A comparison in parentheses in the middle of a chain cuts it short: what stands behind it is on a
lower level, so that the predicate is connected fewer times. -/
theorem not_bracketed_of_parse (hfirst : first.bracketed = false)
    (hbare : p.parseExpression newGuid (bareText first (middle ++ [(k, last)])) none = .ok (some q))
    (hshown : p.parseExpression newGuid (shownText first (middle ++ [(k, last)])) none = .ok (some q)) :
    ∀ link ∈ middle, link.2.bracketed = false := by
  by_contra hnot
  -- the first comparison in parentheses
  obtain ⟨⟨k', c⟩, hfind⟩ : ∃ link, middle.find? (fun link => link.2.bracketed) = some link := by
    rw [← Option.isSome_iff_exists, List.find?_isSome]
    simpa using hnot
  obtain ⟨hbracketed, pre, post, rfl, hpre⟩ := List.find?_eq_some_iff_append.1 hfind
  obtain ⟨next, rest, hrest, hblank, hbalanced⟩ :=
    exists_shownLinks (List.concat_ne_nil (k, last) post)
  have hpre' : ∀ link ∈ pre, link.2.bracketed = false := by simpa using hpre
  have htext : shownText first (pre ++ (k', c) :: post ++ [(k, last)])
      = first.text ++ bareLinks pre
          (connectiveText k' ('(' :: c.text ++ [')'] ++ connectiveText next rest)) := by
    rw [shownText, first.shown_bare hfirst, List.append_assoc, shownLinks_append hpre', List.cons_append,
      shownLinks, c.shown_bracketed hbracketed, hrest]
  rw [htext, parseExpression_bareLinks first pre k' (by rfl)
    (Continues.enclosed_connective k' next c.wellNested_text hblank hbalanced)
    (by rintro link hlink; cases List.mem_singleton.1 hlink; rfl)] at hshown
  obtain ⟨l, hl, hfold⟩ := hshown
  obtain ⟨between, current, hpreFold, -, -, -, rfl⟩ := foldsTo_concat.1 hfold
  -- the bare chain has the same predicate in front of the last connective
  obtain ⟨l', between', current', hl', hfold', -, -, -, heq⟩ := parseExpression_bareText_iff.1 hbare
  cases heq
  rw [hl'.unique hl, bareSets, List.map_append, foldsTo_append] at hfold'
  obtain ⟨between', hpreFold', hpost⟩ := hfold'
  rw [hpreFold'.unique hpreFold] at hpost
  have hle := hpost.sizeOf_le
  simp only [List.map_cons, List.length_cons] at hle
  omega

/-- A comparison in parentheses in front of a chain takes all of the rest for the right side of its
connective, so that there is no connection on the left. -/
theorem first_not_bracketed_of_parse (hmiddle : middle ≠ [])
    (hbare : p.parseExpression newGuid (bareText first (middle ++ [(k, last)])) none = .ok (some q))
    (hshown : p.parseExpression newGuid (shownText first (middle ++ [(k, last)])) none = .ok (some q)) :
    first.bracketed = false := by
  refine Bool.eq_false_iff.2 fun hbracketed => ?_
  -- the bare chain is a connection of a connection
  obtain ⟨l, between, current, -, hfold, -, -, -, rfl⟩ := parseExpression_bareText_iff.1 hbare
  obtain ⟨k', left, right, rfl⟩ : ∃ k' left right,
      between = .binary (.connective k') left right .boolean := by
    rw [← List.dropLast_concat_getLast hmiddle, bareSets, List.map_append, List.map_singleton,
      foldsTo_concat] at hfold
    obtain ⟨left, right, -, -, -, -, heq⟩ := hfold
    exact ⟨_, left, right, heq.symm⟩
  obtain ⟨next, rest, hrest, hblank, hbalanced⟩ :=
    exists_shownLinks (List.concat_ne_nil (k, last) middle)
  have hsets : (tokenize (shownText first (middle ++ [(k, last)]))).map TokenSet.trim
      = (⟨enclosedText first.text, next.keyword.toList, Text.squeeze (Text.trim rest)⟩
          :: connectedSets []).map TokenSet.trim := by
    rw [shownText, first.shown_bracketed hbracketed, hrest,
      tokenize_enclosed_connective next first.wellNested_text hblank hbalanced]
    simp [connectedSets, trim_enclosedText, Text.trim_squeeze]
  rw [parseExpression_of_connectedSets hsets (by rfl) (by simp)] at hshown
  obtain ⟨_, ⟨a, ha, hset⟩, rfl⟩ := hshown
  rcases hset with ⟨-, rfl⟩ | ⟨b, -, hoperate⟩
  · exact ne_connective_of_enclosedText ha _ _ _ _ rfl
  · obtain ⟨-, -, heq⟩ := operate_connective_iff.1 hoperate
    cases heq
    exact ne_connective_of_enclosedText ha _ _ _ _ rfl

theorem isSide_of_isPlainOperand {t : Text} (h : IsPlainOperand t) : IsSide t :=
  ⟨h.trimmed.isBlank_eq, h.isOperand.nested.balanced, h.isOperand.nested.closed,
    by rw [h.trimmed.trim_eq]; exact h.operators⟩

/-- A comparison of texts without parentheses and quotes. -/
def plainComparison (op : Comparison) {left right : Text} (hleft : IsPlainOperand left)
    (hright : IsPlainOperand right) (bracketed : Bool) : ChainComparison where
  op := op
  word := op.keyword.toList
  left := left
  right := right
  bracketed := bracketed
  keyword := ofKeyword?_comparison op
  isSideLeft := isSide_of_isPlainOperand hleft
  isSideRight := isSide_of_isPlainOperand hright
  nestedLeft := hleft.isOperand.nested
  nestedRight := hright.isOperand.nested
  isPresent h :=
    have hnone : items.parseExpression .nil right none = .ok none := parseExpression_of_isVacant h
    parseExpression_atom_ne_none hright.toIsAtom hnone

/-- A chain of three or more comparisons, accepted without parentheses around them, is read in the same way
with parentheses around some of them exactly if only the last one is put in parentheses, and is not taken
for a string match in these. -/
theorem parse_shownText_iff (p : FilterParser) (newGuid : Guid) {first last : ChainComparison}
    {middle : List Link} {k : Connective} {q : Predicate} (hmiddle : middle ≠ [])
    (hbare : p.parse newGuid (bareText first (middle ++ [(k, last)])) = .ok (some q)) :
    p.parse newGuid (shownText first (middle ++ [(k, last)])) = .ok (some q) ↔
      first.bracketed = false ∧ (∀ link ∈ middle, link.2.bracketed = false) ∧
        (last.bracketed = true → isImpliedBoolean last.text = false) := by
  obtain ⟨hbare, hboolean⟩ := parse_eq_ok_some_iff.1 hbare
  obtain ⟨l, between, current, hl, hfold, hcurrent, hbetween, htype, hq⟩ :=
    parseExpression_bareText_iff.1 hbare
  rw [parse_eq_ok_some_iff, and_iff_left hboolean]
  constructor
  · intro hshown
    have hfirst := first_not_bracketed_of_parse hmiddle hbare hshown
    have hrest := not_bracketed_of_parse hfirst hbare hshown
    refine ⟨hfirst, hrest, fun hlast => ?_⟩
    rw [parseExpression_last_enclosed hlast hfirst hrest] at hshown
    obtain ⟨_, _, _, -, -, hother, -, -, heq⟩ := hshown
    subst hq
    cases heq
    -- the bare comparison is no string match, and nothing else without operators
    refine Bool.eq_false_iff.2 fun himplied => ?_
    obtain ⟨_, _, rfl⟩ := hcurrent.exists_comparison
    exact isSimple_of_enclosedText himplied (readsSet_single.1 hother)
  · rintro ⟨hfirst, hrest, hlast⟩
    cases hbracketed : last.bracketed with
    | false =>
      have hlinks : ∀ link ∈ middle ++ [(k, last)], link.2.bracketed = false := by
        simpa [or_imp, forall_and, hbracketed] using hrest
      have htext := shownLinks_append hlinks []
      rw [List.append_nil] at htext
      rw [shownText, first.shown_bare hfirst, htext]
      exact hbare
    | true =>
      rw [parseExpression_last_enclosed hbracketed hfirst hrest]
      exact ⟨l, between, current, hl, hfold, (readsSet_enclosedText_iff (hlast hbracketed)).2 hcurrent,
        hbetween, htype, hq⟩

/-- With parentheses around the last comparison a chain is the same one. -/
theorem parse_shownText_items : ∃ q,
    items.parse .nil "Id eq 1 or Id eq 2 and Id eq 3".toList = .ok (some q) ∧
      items.parse .nil "Id eq 1 or Id eq 2 and (Id eq 3)".toList = .ok (some q) := by
  have hid : IsPlainOperand "Id".toList := .of_word (by decide) (by decide) (by decide) (by decide)
  have hone : IsPlainOperand "1".toList := .of_word (by decide) (by decide) (by decide) (by decide)
  have htwo : IsPlainOperand "2".toList := .of_word (by decide) (by decide) (by decide) (by decide)
  have hthree : IsPlainOperand "3".toList := .of_word (by decide) (by decide) (by decide) (by decide)
  obtain ⟨q, hq⟩ : ∃ q, items.parse .nil "Id eq 1 or Id eq 2 and Id eq 3".toList = .ok (some q) :=
    Except.exists_of_isSome_join (by decide +kernel)
  exact ⟨q, hq, (@parse_shownText_iff items .nil (plainComparison .eq hid hone false)
    (plainComparison .eq hid hthree true) [(.or, plainComparison .eq hid htwo false)] .and q (by simp) hq).2
    ⟨rfl, by simp [plainComparison], fun _ => (by decide : isImpliedBoolean "Id eq 3".toList = false)⟩⟩

/-- With parentheses around the first one it is another one. -/
theorem parse_shownText_first : ∃ q q',
    items.parse .nil "Id eq 1 or Id eq 2 and Id eq 3".toList = .ok (some q) ∧
      (Dialect.odata.render q).toOption = some "((Id eq 1) or (Id eq 2)) and (Id eq 3)".toList ∧
      items.parse .nil "(Id eq 1) or Id eq 2 and Id eq 3".toList = .ok (some q') ∧
      (Dialect.odata.render q').toOption = some "(Id eq 1) or ((Id eq 2) and (Id eq 3))".toList ∧
      q ≠ q' := by
  obtain ⟨q, hq, hprinted⟩ : ∃ q, items.parse .nil "Id eq 1 or Id eq 2 and Id eq 3".toList = .ok (some q) ∧
      (Dialect.odata.render q).toOption = some "((Id eq 1) or (Id eq 2)) and (Id eq 3)".toList :=
    Except.exists_of_map_join (by decide +kernel)
  obtain ⟨q', hq', hprinted'⟩ : ∃ q',
      items.parse .nil "(Id eq 1) or Id eq 2 and Id eq 3".toList = .ok (some q') ∧
      (Dialect.odata.render q').toOption = some "(Id eq 1) or ((Id eq 2) and (Id eq 3))".toList :=
    Except.exists_of_map_join (by decide +kernel)
  refine ⟨q, q', hq, hprinted, hq', hprinted', ?_⟩
  rintro rfl
  rw [hprinted] at hprinted'
  exact absurd hprinted' (by decide)

end FilterParser
end RecordFilter
