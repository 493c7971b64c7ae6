import RecordFilter.Proofs.Grouping
import RecordFilter.Query.Result

/-!
# Filters that accept everything

A text without a predicate accepts every record. Blank texts are of this kind, but not only they: an
operator without a left side is dropped when another operator follows, `and` and `or` with nothing on
either side are markers between no operands, and `not` in front of nothing negates nothing. This module
says exactly which texts have no predicate (`IsVacant`). It does not depend on the record type or the
options.

Main statement: `compile_eq_vacant_iff`.
-/

namespace RecordFilter
namespace Filter

/-! ## Idle words -/

/-- Whether a word leaves a scanner without a left side: a blank, or an operator that waits for its right
side. -/
def isIdle (word : Text) : Bool :=
  Text.isBlank word || (isOperation word && !isCombinator word)

/-- A scanner that has come across idle words only. -/
structure Scan.IsIdle (s : Scan) : Prop where
  left : Text.isBlank s.left = true
  pending : Text.isBlank (Text.unwords s.pending) = true
  nesting : s.nesting = .start

theorem Scan.isIdle_fresh (started : Bool) : (Scan.fresh started).IsIdle :=
  ⟨rfl, rfl, rfl⟩

theorem isOperation_eq_false_of_isBlank {word : Text} (h : Text.isBlank word = true) :
    isOperation word = false := by
  cases word with
  | nil => decide
  | cons c word =>
    exact isOperation_eq_false_of_blank List.mem_cons_self
      (List.all_eq_true.1 h c List.mem_cons_self)

namespace Scan.IsIdle

variable {s : Scan} {word : Text} {rest : List Text}

/-- An idle word keeps the scanner idle. -/
theorem exists_step (h : s.IsIdle) (hword : isIdle word = true) :
    ∃ s' : Scan, s'.IsIdle ∧ ∀ rest, scan s (word :: rest) = scan s' rest := by
  cases hblank : Text.isBlank word with
  | true =>
    have hadvance : s.nesting.advance word = .start := by
      rw [h.nesting, Nesting.isValid_start.advance_blank (List.all_eq_true.1 hblank)]
    refine ⟨{ s with pending := s.pending ++ [word], nesting := .start }, ⟨h.left, ?_, rfl⟩,
      fun rest => ?_⟩
    · have hpending := h.pending
      rw [Text.isBlank_unwords] at hpending ⊢
      simp [hpending, hblank]
    · rw [scan, hadvance, isOperation_eq_false_of_isBlank hblank]
      simp
  | false =>
    obtain ⟨hop, hcombinator⟩ : isOperation word = true ∧ isCombinator word = false := by
      simpa [isIdle, hblank] using hword
    refine ⟨⟨Text.unwords s.pending, word, [], true, .start⟩, ⟨h.pending, rfl, rfl⟩, fun rest => ?_⟩
    rw [scan_operation h.nesting hop, if_pos h.left, hcombinator]
    rfl

theorem exists_run (h : s.IsIdle) {ops : List Text} (hops : ∀ word ∈ ops, isIdle word = true) :
    ∃ s' : Scan, s'.IsIdle ∧ ∀ rest, scan s (ops ++ rest) = scan s' rest := by
  induction ops generalizing s with
  | nil => exact ⟨s, h, fun _ => rfl⟩
  | cons word ops ih =>
    obtain ⟨next, hnext, hstep⟩ := h.exists_step (hops word List.mem_cons_self)
    obtain ⟨s', hs', hrun⟩ := ih hnext fun other hother => hops other (List.mem_cons_of_mem word hother)
    exact ⟨s', hs', fun rest => (hstep _).trans (hrun rest)⟩

/-- Idle words alone are no token sets. -/
theorem scan_nil (h : s.IsIdle) : scan s [] = [] := by
  have henclosed : isEnclosed (Text.unwords s.pending) = false := by
    cases hinner : enclosedInner? (Text.unwords s.pending) with
    | none => rw [isEnclosed, hinner]; rfl
    | some inner =>
      have hpending := h.pending
      rw [(enclosedInner?_eq_some_iff.1 hinner).1] at hpending
      cases hpending
  rw [scan]
  simp [h.left, henclosed]

/-- A combinator has nothing on its left and the rest of the text on its right. -/
theorem scan_combinator (h : s.IsIdle) (hword : isCombinator word = true) :
    scan s (word :: rest) = [⟨Text.unwords s.pending, word, Text.unwords rest⟩] := by
  rw [scan_operation h.nesting (isOperation_of_isCombinator hword), if_pos h.left, if_pos hword]

end Scan.IsIdle

/-- By induction on the words: once there is something to put on a left side, the first token set has
one. -/
theorem isBlank_left_of_busy {words : List Text} : ∀ {s : Scan} {set : TokenSet} {sets : List TokenSet},
    Text.isBlank s.left = false ∨ Text.isBlank (Text.unwords s.pending) = false →
    scan s words = set :: sets → Text.isBlank set.left = false := by
  induction words with
  | nil =>
    intro s set sets hbusy hscan
    rw [scan] at hscan
    cases hleft : Text.isBlank s.left with
    | false =>
      simp only [hleft, Bool.not_false, if_true, List.cons.injEq] at hscan
      rw [← hscan.1]
      exact hleft
    | true =>
      simp only [hleft, Bool.not_true, Bool.false_eq_true, if_false] at hscan
      split at hscan
      · rw [← (List.cons.inj hscan).1]
        simpa [hleft] using hbusy
      · cases hscan
  | cons word rest ih =>
    intro s set sets hbusy hscan
    rw [scan] at hscan
    simp only at hscan
    split at hscan
    · refine ih (s := { s with pending := s.pending ++ [word], nesting := s.nesting.advance word })
        (hbusy.imp_right fun hpending => ?_) hscan
      rw [Text.isBlank_unwords] at hpending ⊢
      simp only [List.all_append, hpending, Bool.false_and]
    · cases hleft : Text.isBlank s.left with
      | true =>
        have hpending : Text.isBlank (Text.unwords s.pending) = false := by simpa [hleft] using hbusy
        simp only [hleft, if_true] at hscan
        split at hscan
        · rw [← (List.cons.inj hscan).1]
          exact hpending
        · exact ih (.inl hpending) hscan
      | false =>
        simp only [hleft, Bool.false_eq_true, if_false] at hscan
        rw [← (List.cons.inj hscan).1]
        exact hleft

/-- The token sets of an idle scanner, if the first one has no left side: the first word that is not
idle is a combinator. -/
theorem exists_combinator_of_scan {words : List Text} {s : Scan} (h : s.IsIdle) {set : TokenSet}
    {sets : List TokenSet} (hscan : scan s words = set :: sets) (hleft : Text.isBlank set.left = true) :
    ∃ ops word rest, words = ops ++ word :: rest ∧ (∀ other ∈ ops, isIdle other = true) ∧
      isCombinator word = true ∧ set.operation = word ∧ set.right = Text.unwords rest ∧ sets = [] := by
  have hidle : ∀ other ∈ words.takeWhile isIdle, isIdle other = true :=
    fun other hother => List.all_eq_true.1 List.all_takeWhile other hother
  obtain ⟨s', hs', hrun⟩ := h.exists_run hidle
  have hsplit : words = words.takeWhile isIdle ++ words.dropWhile isIdle :=
    List.takeWhile_append_dropWhile.symm
  rw [hsplit, hrun] at hscan
  cases hrest : words.dropWhile isIdle with
  | nil =>
    rw [hrest, hs'.scan_nil] at hscan
    cases hscan
  | cons word rest =>
    have hbusy : isIdle word = false := by
      have := List.head?_dropWhile_not isIdle words
      simpa [hrest] using this
    rw [hrest] at hscan hsplit
    cases hcombinator : isCombinator word with
    | true =>
      rw [hs'.scan_combinator hcombinator] at hscan
      cases hscan
      exact ⟨_, word, rest, hsplit, fun other hother => List.all_eq_true.1 List.all_takeWhile other hother,
        hcombinator, rfl, rfl, rfl⟩
    | false =>
      -- the word is neither blank nor an operator, so there is a left side
      exfalso
      obtain ⟨hblank, hop⟩ : Text.isBlank word = false ∧ isOperation word = false := by
        simpa [isIdle, hcombinator] using hbusy
      have hnext : scan s' (word :: rest) = scan { s' with
          pending := s'.pending ++ [word], nesting := s'.nesting.advance word } rest := by
        rw [scan, hop]
        simp
      rw [hnext] at hscan
      have hpending : Text.isBlank (Text.unwords (s'.pending ++ [word])) = false := by
        simp [Text.isBlank_unwords, hblank]
      rw [isBlank_left_of_busy (.inr hpending) hscan] at hleft
      cases hleft

/-! ## Texts without a predicate -/

/-- The word `not`, in any case. -/
def isNegation (word : Text) : Bool :=
  Text.eqIgnoreCase word "not".toList

/-- The texts that have no predicate: blank ones, those that have nothing in parentheses, `and` or `or`
with nothing on either side, and `not` with nothing behind it. In front of these words other operators
may stand. -/
inductive IsVacant : Text → Prop
  | blank {t : Text} (h : Text.isBlank t = true) : IsVacant t
  | enclosed {t inner : Text} (htext : Text.trim t = '(' :: inner ++ [')']) (hne : inner ≠ [])
      (h : IsVacant inner) : IsVacant t
  | connective {t : Text} {ops : List Text} {word : Text} {rest : List Text}
      (hwords : Text.words (Text.trim t) = ops ++ word :: rest) (hops : ∀ op ∈ ops, isIdle op = true)
      (hword : isCombinator word = true) (hnot : isNegation word = false)
      (h : Text.isBlank (Text.unwords rest) = true) : IsVacant t
  | negation {t : Text} {ops : List Text} {word : Text} {rest : List Text}
      (hwords : Text.words (Text.trim t) = ops ++ word :: rest) (hops : ∀ op ∈ ops, isIdle op = true)
      (hnot : isNegation word = true) (h : IsVacant (Text.unwords rest)) : IsVacant t

theorem isCombinator_of_isNegation {word : Text} (h : isNegation word = true) :
    isCombinator word = true := by
  rw [isCombinator, isOneOf_congr _ h]
  decide

theorem IsVacant.of_trim {t : Text} (h : IsVacant (Text.trim t)) : IsVacant t := by
  cases h with
  | blank h => exact .blank (by rwa [Text.isBlank_trim] at h)
  | enclosed htext hne h => exact .enclosed (by rwa [Text.trim_trim] at htext) hne h
  | connective hwords hops hword hnot h =>
    exact .connective (by rwa [Text.trim_trim] at hwords) hops hword hnot h
  | negation hwords hops hnot h => exact .negation (by rwa [Text.trim_trim] at hwords) hops hnot h

/-- Quotes and parentheses. -/
def isMark (c : Char) : Bool :=
  Nesting.isQuote c || c == '(' || c == ')'

/-- Only quotes and parentheses matter for what is nested in a text. -/
theorem IsNested.congr {t u : Text} (h : IsNested t) (hmarks : u.filter isMark = t.filter isMark) :
    IsNested u := by
  have hparens : u.filter isParenthesis = t.filter isParenthesis := by
    have hfilter := congrArg (List.filter isParenthesis) hmarks
    simp only [List.filter_filter, isMark] at hfilter
    have hboth : (fun c => isParenthesis c && (Nesting.isQuote c || c == '(' || c == ')'))
        = isParenthesis := by
      funext c
      cases hopen : c == '(' <;> cases hclose : c == ')' <;> simp [isParenthesis, hopen, hclose]
    rwa [hboth] at hfilter
  refine ⟨fun c hc => ?_, ?_⟩
  · cases hquote : Nesting.isQuote c with
    | false => rfl
    | true =>
      have hmem : c ∈ t.filter isMark := by
        rw [← hmarks]
        exact List.mem_filter.2 ⟨hc, by simp [isMark, hquote]⟩
      rw [← hquote, h.quoteFree c (List.mem_filter.1 hmem).1]
  · rw [← depthAfter?_filter, hparens, depthAfter?_filter, h.balanced]

theorem filter_isMark_eq_nil {t : Text} (h : ∀ c ∈ t, Nesting.isQuote c = false ∧ c ≠ '(' ∧ c ≠ ')') :
    t.filter isMark = [] := by
  rw [List.filter_eq_nil_iff]
  intro c hc
  simp [isMark, h c hc]

theorem filter_isMark_trim (t : Text) : (Text.trim t).filter isMark = t.filter isMark := by
  obtain ⟨a, b, ht, ha, hb⟩ := Text.exists_trim t
  have hmarks : t.filter isMark = (a ++ Text.trim t ++ b).filter isMark := by
    rw [← ht]
  rw [hmarks, List.filter_append, List.filter_append,
    filter_isMark_eq_nil fun c hc => plain_of_blank (ha c hc),
    filter_isMark_eq_nil fun c hc => plain_of_blank (hb c hc), List.nil_append, List.append_nil]

/-- The marks of a text are those of its words. -/
theorem filter_isMark_words (t : Text) :
    (Text.unwords (Text.words t)).filter isMark = t.filter isMark := by
  rw [← filter_isMark_trim, Text.trim_unwords_words, Text.filter_squeeze (by decide),
    filter_isMark_trim]

theorem filter_isMark_unwords_append (ops rest : List Text)
    (hops : ∀ op ∈ ops, ∀ c ∈ op, Nesting.isQuote c = false ∧ c ≠ '(' ∧ c ≠ ')') :
    (Text.unwords (ops ++ rest)).filter isMark = (Text.unwords rest).filter isMark := by
  induction ops with
  | nil => rfl
  | cons op ops ih =>
    have hop := filter_isMark_eq_nil (hops op List.mem_cons_self)
    have hmark : isMark ' ' = false := by decide
    have hrest := ih fun other hother => hops other (List.mem_cons_of_mem op hother)
    by_cases hne : ops ++ rest = []
    · rw [← hrest, List.cons_append, hne, Text.unwords_singleton, hop]
      rfl
    · rw [List.cons_append, Text.unwords_cons hne, List.filter_append, hop, List.nil_append,
        List.filter_cons_of_neg (by simp [hmark]), hrest]

theorem plain_of_isIdle {word : Text} (h : isIdle word = true) :
    ∀ c ∈ word, Nesting.isQuote c = false ∧ c ≠ '(' ∧ c ≠ ')' := by
  simp only [isIdle, Bool.or_eq_true, Bool.and_eq_true] at h
  rcases h with hblank | ⟨hop, -⟩
  · exact fun c hc => plain_of_blank (List.all_eq_true.1 hblank c hc)
  · exact plain_of_isOperation hop

/-- The words up to a combinator have no quotes and no parentheses. -/
theorem isNested_of_words {t word : Text} {ops rest : List Text}
    (hwords : Text.words (Text.trim t) = ops ++ word :: rest) (hops : ∀ op ∈ ops, isIdle op = true)
    (hword : isCombinator word = true) (h : IsNested (Text.unwords rest)) : IsNested t := by
  refine h.congr ?_
  have hplain : ∀ op ∈ ops ++ [word], ∀ c ∈ op, Nesting.isQuote c = false ∧ c ≠ '(' ∧ c ≠ ')' := by
    intro op hop
    rcases List.mem_append.1 hop with hop | hop
    · exact plain_of_isIdle (hops op hop)
    · rw [List.mem_singleton.1 hop]
      exact plain_of_isOperation (isOperation_of_isCombinator hword)
  rw [← filter_isMark_trim, ← filter_isMark_words, hwords, ← filter_isMark_unwords_append _ rest hplain,
    List.append_assoc]
  rfl

theorem isNested_of_isBlank {t : Text} (h : Text.isBlank t = true) : IsNested t := by
  have hblank := List.all_eq_true.1 h
  exact ⟨fun c hc => (plain_of_blank (hblank c hc)).1, depthAfter?_of_blank hblank 0⟩

theorem IsVacant.isNested {t : Text} (h : IsVacant t) : IsNested t := by
  induction h with
  | blank h => exact isNested_of_isBlank h
  | @enclosed t inner htext hne h ih =>
    have henclosed : IsNested ('(' :: inner ++ [')']) := by
      refine ⟨fun c hc => ?_, ih.wellNested.enclosed.balanced⟩
      simp only [List.cons_append, List.mem_cons, List.mem_append, List.not_mem_nil, or_false] at hc
      rcases hc with rfl | hc | rfl
      · rfl
      · exact ih.quoteFree c hc
      · rfl
    rw [← htext] at henclosed
    exact henclosed.congr (filter_isMark_trim t).symm
  | connective hwords hops hword hnot h => exact isNested_of_words hwords hops hword (isNested_of_isBlank h)
  | negation hwords hops hnot h ih =>
    exact isNested_of_words hwords hops (isCombinator_of_isNegation hnot) ih

/-! ## Token sets of vacant texts -/

/-- Operators are no beginnings of the names of string matches. -/
theorem startsWith_of_isOperation {word : Text} (h : isOperation word = true) :
    (matchFunctionNames.any fun name => Text.startsWith (Text.lowerAscii word) name.toList) = false := by
  obtain ⟨candidate, hmem, heq⟩ := List.any_eq_true.1 h
  have hlower : Text.lowerAscii candidate.toList = Text.lowerAscii word := by
    simpa [Text.eqIgnoreCase] using heq
  have hall : ∀ candidate ∈ operationWords, (matchFunctionNames.any fun name =>
      Text.startsWith (Text.lowerAscii candidate.toList) name.toList) = false := by decide
  rw [← hlower]
  exact hall candidate hmem

/-- A text of idle words up to a combinator is one token set, without a left side. -/
theorem exists_tokenize_of_words {t word : Text} {ops rest : List Text}
    (hwords : Text.words (Text.trim t) = ops ++ word :: rest) (hops : ∀ op ∈ ops, isIdle op = true)
    (hword : isCombinator word = true) :
    ∃ left, Text.isBlank left = true ∧
      tokenize (Text.trim t) = [⟨left, word, Text.unwords rest⟩] := by
  have hne : Text.trim t ≠ [] := by
    intro hnil
    rw [hnil, Text.words_nil] at hwords
    exact absurd hwords.symm (by simp)
  obtain ⟨c, u, hu⟩ := List.exists_cons_of_ne_nil hne
  have hc : Text.isBlankChar c = false := Text.head?_trim (t := t) (by rw [hu]; rfl)
  -- the first word is no blank, so it is an operator
  obtain ⟨first, others, hfirst⟩ := List.exists_cons_of_ne_nil
    (show Text.words (Text.trim t) ≠ [] by rw [hwords]; simp)
  have hhead : first.head? = some c := by
    rw [← Text.head?_of_words hfirst (fun h => by cases Text.head?_trim h), hu]
    rfl
  have hop : isOperation first = true := by
    cases ops with
    | nil =>
      rw [hwords] at hfirst
      cases hfirst
      exact isOperation_of_isCombinator hword
    | cons op ops =>
      rw [hwords] at hfirst
      cases hfirst
      have hidle := hops first List.mem_cons_self
      have hblank : Text.isBlank first = false := by
        cases hblank : Text.isBlank first with
        | false => rfl
        | true => exact (List.all_eq_true.1 hblank c (List.mem_of_mem_head? hhead)).symm.trans hc
      simp only [isIdle, hblank, Bool.false_or, Bool.and_eq_true] at hidle
      exact hidle.1
  have hstrip : stripEnclosing? (Text.trim t) = none := by
    refine stripEnclosing?_eq_none_of_head fun hopen => ?_
    rw [hu] at hopen
    cases hopen
    exact (plain_of_isOperation hop '(' (List.mem_of_mem_head? hhead)).2.1 rfl
  have himplied : isImpliedBoolean (Text.trim t) = false := by
    rw [isImpliedBoolean_eq, Text.trim_trim, hfirst, List.headD_cons, startsWith_of_isOperation hop,
      Bool.and_false]
  obtain ⟨s', hs', hrun⟩ := (Scan.isIdle_fresh false).exists_run hops
  refine ⟨Text.unwords s'.pending, hs'.pending, ?_⟩
  rw [tokenize_eq_scan (Text.trim_trim t) hne hstrip himplied, hwords, hrun, hs'.scan_combinator hword]

end Filter

namespace FilterParser

open RecordFilter.Filter

variable {p : FilterParser} {newGuid : Guid} {t : Text} {expected : Option ValueType}

/-! ## Reading -/

/-- A token set without a left side has no predicate if it is a negation of nothing, or a marker. -/
theorem foldSets_singleton_eq_ok_none {set : TokenSet} {n : Nat} {text : Text} {h}
    (hleft : Text.isBlank set.left = true) :
    foldSets p.schema (p.inner newGuid n) text expected (none, none) [set] h = .ok none ↔
      if isNegation set.operation = true then
        p.parseExpression newGuid set.right ((scopeType? p.schema set).or expected) = .ok none
      else Text.isBlank set.right = true := by
  unfold isNegation
  cases hnot : Text.eqIgnoreCase set.operation "not".toList with
  | true =>
    rw [foldSets_not hleft hnot, negation_eq_ok_iff, if_pos rfl]
    simp [inner]
  | false =>
    rw [if_neg (by simp)]
    cases hright : Text.isBlank set.right with
    | true => simp [foldSets_marker hleft hnot hright, foldSets_nil]
    | false => simp [foldSets_missingLeft hleft hnot hright]

/-- Vacant texts have no predicate. By induction on how they are vacant. -/
theorem parseExpression_of_isVacant (h : IsVacant t) : p.parseExpression newGuid t expected = .ok none := by
  induction h generalizing expected with
  | blank h => exact parseExpression_of_blank (Text.isBlank_iff_trim.1 h)
  | @enclosed t inner htext hne h ih =>
    have hsame := sameResult_enclosed p newGuid expected (h.isNested.enclosable hne)
    have hinner : p.parseExpression newGuid inner expected = .ok none := ih
    have hsqueezed : p.parseExpression newGuid (Text.squeeze inner) expected = .ok none :=
      parseExpression_eq_ok_none (Text.squeeze_squeeze inner).symm hinner
    have hread := (hsame none).2 hsqueezed
    rw [← parseExpression_trim, htext]
    refine parseExpression_eq_ok_none ?_ hread
    rw [squeeze_enclosed, squeeze_enclosed, Text.squeeze_squeeze]
  | connective hwords hops hword hnot h =>
    obtain ⟨left, hleft, htokens⟩ := exists_tokenize_of_words hwords hops hword
    rw [parseExpression_of_sets htokens (by simp), foldSets_singleton_eq_ok_none hleft,
      if_neg (by simp [hnot])]
    exact h
  | negation hwords hops hnot h ih =>
    obtain ⟨left, hleft, htokens⟩ := exists_tokenize_of_words hwords hops
      (isCombinator_of_isNegation hnot)
    rw [parseExpression_of_sets htokens (by simp), foldSets_singleton_eq_ok_none hleft, if_pos hnot]
    exact ih

/-- A first token set without a left side is the only one. The text is vacant if there is nothing on the
right side. -/
theorem isVacant_of_scan {set : TokenSet} {sets : List TokenSet}
    (hscan : scan (.fresh false) (Text.words (Text.trim t)) = set :: sets)
    (hleft : Text.isBlank set.left = true) :
    sets = [] ∧ ((if isNegation set.operation = true then IsVacant set.right
      else Text.isBlank set.right = true) → IsVacant t) := by
  obtain ⟨ops, word, rest, hwords, hops, hword, rfl, hright, hsets⟩ :=
    exists_combinator_of_scan (Scan.isIdle_fresh false) hscan hleft
  refine ⟨hsets, fun h => ?_⟩
  rw [hright] at h
  split at h
  · rename_i hnot
    exact .negation hwords hops hnot h
  · rename_i hnot
    exact .connective hwords hops hword ((Bool.not_eq_true _).mp hnot) h

/-- The same for the text in outer parentheses. -/
theorem isVacant_of_tokenize {set : TokenSet} {sets : List TokenSet}
    (htokens : tokenize (Text.trim t) = set :: sets) (hleft : Text.isBlank set.left = true) :
    sets = [] ∧ ((if isNegation set.operation = true then IsVacant set.right
      else Text.isBlank set.right = true) → IsVacant t) := by
  have hscan := scan_of_tokenize htokens
  rw [Text.trim_trim] at hscan
  cases hstrip : stripEnclosing? (Text.trim t) with
  | none =>
    rw [hstrip] at hscan
    exact isVacant_of_scan hscan hleft
  | some inside =>
    rw [hstrip] at hscan
    obtain ⟨inner, htext, hne, -, rfl⟩ := stripEnclosing?_eq_some_iff.1 hstrip
    obtain ⟨hsets, hinner⟩ := isVacant_of_scan hscan hleft
    exact ⟨hsets, fun h => .enclosed htext hne (hinner h)⟩

/-- Nothing else has no predicate. By induction on the length: what is in parentheses or behind `not` has
no predicate, either. -/
theorem isVacant_of_parseExpression {t : Text} {expected : Option ValueType}
    (h : p.parseExpression newGuid t expected = .ok none) : IsVacant t := by
  cases isRead_of_parseExpression h with
  | blank hblank => exact .blank (Text.isBlank_iff_trim.2 hblank)
  | enclosed _ hstrip h =>
    obtain ⟨inner, htext, hne, -, rfl⟩ := stripEnclosing?_eq_some_iff.1 hstrip
    exact .enclosed htext hne (isVacant_of_parseExpression h).of_trim
  | atom _ _ _ h =>
    obtain ⟨_, -, hsome⟩ := Except.map_eq_ok_iff.1 h
    cases hsome
  | @sets set sets htokens h =>
    have hleft : Text.isBlank set.left = true := by
      cases hleft : Text.isBlank set.left with
      | true => rfl
      | false => exact absurd h (foldSets_ne_ok_none hleft)
    obtain ⟨rfl, hvacant⟩ := isVacant_of_tokenize htokens hleft
    rw [foldSets_singleton_eq_ok_none hleft] at h
    have hlt := (sides_lt_of_tokenize htokens set List.mem_cons_self).2
    refine hvacant ?_
    split at h
    · rename_i hnot
      rw [if_pos hnot]
      exact isVacant_of_parseExpression h
    · rename_i hnot
      rw [if_neg hnot]
      exact h
termination_by (Text.trim t).length
decreasing_by
  · have := length_stripEnclosing?_lt hstrip
    have := Text.length_trim_le (Text.trim inner)
    omega
  · have := Text.length_trim_le set.right
    omega

theorem parseExpression_eq_ok_none_iff :
    p.parseExpression newGuid t expected = .ok none ↔ IsVacant t :=
  ⟨isVacant_of_parseExpression, parseExpression_of_isVacant⟩

theorem parse_eq_ok_none_iff : p.parse newGuid t = .ok none ↔ IsVacant t := by
  rw [parse_eq_ok_iff, parseExpression_eq_ok_none_iff, and_iff_left_iff_imp]
  rintro - found ⟨⟩

/-- Whatever the record type and the options are, the texts that are parsed to no predicate, and
compiled to a filter that accepts every record, are the vacant ones. -/
theorem compile_eq_vacant_iff (p : FilterParser) (newGuid : Guid) (t : Text) :
    (p.parse newGuid t = .ok none ↔ IsVacant t) ∧
      (p.compile newGuid t = .ok ⟨none, p.options.flagsMatch⟩ ↔ IsVacant t) := by
  refine ⟨parse_eq_ok_none_iff, ?_⟩
  rw [compile, Except.map_eq_ok_iff, ← parse_eq_ok_none_iff (p := p)]
  constructor
  · rintro ⟨found, hfound, heq⟩
    cases heq
    exact hfound
  · intro hnone
    exact ⟨none, hnone, rfl⟩

theorem tryMatches_of_parse {filter : Text} (h : p.parse newGuid filter = .ok none) :
    ∃ compiled, p.compile newGuid filter = .ok compiled ∧ ∀ record, compiled.tryMatches record = .ok true :=
  ⟨_, Except.map_eq_ok_iff.2 ⟨none, h, rfl⟩, fun _ => rfl⟩

/-- Connectives and negations of nothing are parsed to no predicate, although they have letters, and
accept every record. -/
theorem compile_vacant_operators :
    (∃ c ∈ "and".toList, Text.isBlankChar c = false ∧ c ≠ '(' ∧ c ≠ ')') ∧
      items.parse .nil "and".toList = .ok none ∧ items.parse .nil "OR".toList = .ok none ∧
      items.parse .nil "not".toList = .ok none ∧ items.parse .nil "eq not (and)".toList = .ok none ∧
      ∃ compiled, items.compile .nil "and".toList = .ok compiled ∧
        ∀ record, compiled.tryMatches record = .ok true := by
  have hwords : ∀ word : String, Text.words (Text.trim word.toList) = [word.toList] →
      Text.words (Text.trim word.toList) = [] ++ word.toList :: [] := fun _ h => h
  have hbehindWords : Text.words (Text.trim "eq not (and)".toList)
      = ["eq".toList] ++ "not".toList :: ["(and)".toList] := rfl
  have hand : IsVacant "and".toList := .connective (hwords "and" rfl) (by simp) rfl rfl rfl
  have hor : IsVacant "OR".toList := .connective (hwords "OR" rfl) (by simp) rfl rfl rfl
  have hnot : IsVacant "not".toList := .negation (hwords "not" rfl) (by simp) rfl (.blank rfl)
  have henclosed : IsVacant "(and)".toList := .enclosed rfl (List.cons_ne_nil _ _) hand
  have hbehind : IsVacant "eq not (and)".toList := .negation hbehindWords (by decide) rfl henclosed
  have hnone : items.parse .nil "and".toList = .ok none := parse_eq_ok_none_iff.2 hand
  exact ⟨⟨'a', by decide⟩, hnone, parse_eq_ok_none_iff.2 hor, parse_eq_ok_none_iff.2 hnot,
    parse_eq_ok_none_iff.2 hbehind, tryMatches_of_parse hnone⟩

end FilterParser
end RecordFilter
