import RecordFilter.Proofs.Nesting

/-!
# Token sets of filters

What the scanner makes of the forms that filters have: an operand, a comparison, two sides with a
connective in between, and the same in parentheses. An operand is a text in which no word outside of
parentheses and quotes is an operator (`HasNoOperator`); the scanner goes over its words and keeps
them for the next side.

Main statements: one equation for the token sets of each form, and `tokenize_squeeze`.
-/

namespace RecordFilter
namespace Filter

/-! ## Operator words -/

/-- The letters of operators are letters from a to z in any case. -/
theorem letters_of_isOperation {word : Text} (h : isOperation word = true) :
    ∀ c ∈ word, 'a' ≤ c.toLower ∧ c.toLower ≤ 'z' := by
  intro c hc
  unfold isOperation isOneOf at h
  obtain ⟨candidate, hmem, heq⟩ := List.any_eq_true.1 h
  have hlower : Text.lowerAscii candidate.toList = Text.lowerAscii word := by
    simpa [Text.eqIgnoreCase] using heq
  have hcmem : c.toLower ∈ Text.lowerAscii candidate.toList := by
    rw [hlower]
    exact List.mem_map_of_mem hc
  have hall : ∀ candidate ∈ operationWords, ∀ d ∈ Text.lowerAscii candidate.toList,
      'a' ≤ d ∧ d ≤ 'z' := by decide
  exact hall candidate hmem _ hcmem

/-- A text with a character that is no letter is no operator. -/
theorem isOperation_eq_false {word : Text} {c : Char} (hc : c ∈ word)
    (hletter : ¬('a' ≤ c.toLower ∧ c.toLower ≤ 'z')) : isOperation word = false := by
  cases h : isOperation word with
  | false => rfl
  | true => exact absurd (letters_of_isOperation h c hc) hletter

/-- What stands before the letters is in no operator. -/
theorem isOperation_eq_false_of_lt {word : Text} {c : Char} (hc : c ∈ word) (h : c.toNat < 65) :
    isOperation word = false := by
  refine isOperation_eq_false hc fun hletter => ?_
  rw [Text.toLower_eq_self h] at hletter
  have hval : c.toNat = c.val.toNat := rfl
  simp only [Char.le_def, UInt32.le_iff_toNat_le] at hletter
  simp at hletter
  omega

/-- Blanks are in no operator. -/
theorem isOperation_eq_false_of_blank {word : Text} {c : Char} (hc : c ∈ word)
    (hblank : Text.isBlankChar c = true) : isOperation word = false := by
  by_cases hlow : c.toNat < 65
  · exact isOperation_eq_false_of_lt hc hlow
  · have hhigh : 122 < c.toNat := by
      simp only [Text.isBlankChar, Bool.or_eq_true, Bool.and_eq_true, beq_iff_eq,
        decide_eq_true_eq] at hblank
      omega
    refine isOperation_eq_false hc fun hletter => ?_
    rw [Text.toLower_eq_self_of_outside (.inr (by omega))] at hletter
    have hval : c.toNat = c.val.toNat := rfl
    simp only [Char.le_def, UInt32.le_iff_toNat_le] at hletter
    simp at hletter
    omega

/-- Operators are words without quotes, parentheses and blanks. -/
theorem plain_of_isOperation {word : Text} (h : isOperation word = true) :
    ∀ c ∈ word, Nesting.isQuote c = false ∧ c ≠ '(' ∧ c ≠ ')' := by
  intro c hc
  have hletter := letters_of_isOperation h c hc
  refine ⟨?_, ?_, ?_⟩
  · cases hquote : Nesting.isQuote c with
    | false => rfl
    | true =>
      simp only [Nesting.isQuote, Bool.or_eq_true, beq_iff_eq] at hquote
      rcases hquote with rfl | rfl
      · exact absurd hletter (by decide)
      · exact absurd hletter (by decide)
  · rintro rfl
    exact absurd hletter (by decide)
  · rintro rfl
    exact absurd hletter (by decide)

theorem isWord_of_isOperation {word : Text} (h : isOperation word = true) : Text.IsWord word := by
  refine ⟨fun hnil => ?_, fun hspace => ?_⟩
  · have := length_pos_of_isOperation h
    simp [hnil] at this
  · exact absurd (letters_of_isOperation h ' ' hspace) (by decide)

theorem isOneOf_congr (candidates : List String) {word other : Text}
    (h : Text.eqIgnoreCase word other = true) : isOneOf candidates word = isOneOf candidates other := by
  have hlower : Text.lowerAscii word = Text.lowerAscii other := by simpa [Text.eqIgnoreCase] using h
  simp only [isOneOf, Text.eqIgnoreCase, hlower]

theorem isOperation_of_isCombinator {word : Text} (h : isCombinator word = true) :
    isOperation word = true := by
  unfold isCombinator isOneOf at h
  obtain ⟨candidate, hmem, heq⟩ := List.any_eq_true.1 h
  have hsub : ∀ candidate ∈ combinatorWords, candidate ∈ operationWords := by decide
  exact List.any_eq_true.2 ⟨candidate, hsub candidate hmem, heq⟩

/-! ## Operands -/

/-- No word that ends outside of parentheses and quotes is an operator. -/
def OperatorFree (n : Nesting) : List Text → Prop
  | [] => True
  | word :: rest =>
    ((n.advance word).isTop = true → isOperation word = false) ∧ OperatorFree (n.advance word) rest

instance decidableOperatorFree : ∀ n ws, Decidable (OperatorFree n ws)
  | _, [] => isTrue trivial
  | n, word :: rest =>
    have := decidableOperatorFree (n.advance word) rest
    inferInstanceAs (Decidable (_ ∧ _))

theorem operatorFree_append {n : Nesting} {us ws : List Text} : OperatorFree n (us ++ ws) ↔
    OperatorFree n us ∧ OperatorFree (us.foldl Nesting.advance n) ws := by
  induction us generalizing n with
  | nil => simp [OperatorFree]
  | cons u us ih => simp [OperatorFree, ih, and_assoc]

/-- A text that closes what it opens and has no operator outside of that. -/
structure HasNoOperator (t : Text) : Prop where
  closed : Nesting.start.advance t = .start
  operatorFree : OperatorFree .start (Text.words t)

theorem HasNoOperator.foldl_words {t : Text} (h : HasNoOperator t) :
    (Text.words t).foldl Nesting.advance .start = .start := by
  rw [Nesting.isValid_start.advance_words, h.closed]

/-- A word that is no operator. -/
theorem hasNoOperator_word {w : Text} (hword : Text.IsWord w)
    (hclosed : Nesting.start.advance w = .start) (hop : isOperation w = false) :
    HasNoOperator w := by
  refine ⟨hclosed, ?_⟩
  rw [Text.words_eq_singleton hword.1 hword.2]
  exact ⟨fun _ => hop, trivial⟩

/-- A character that is in no operator may stand in front of a text: it makes no word an operator. -/
theorem operatorFree_cons {n : Nesting} (hn : n.IsValid) {t : Text} {c : Char}
    (hc : ∀ word, c ∈ word → isOperation word = false)
    (h : OperatorFree (n.step c) (Text.words t)) : OperatorFree n (Text.words (c :: t)) := by
  by_cases hspace : c = ' '
  · rw [hspace, hn.step_space] at h
    rw [hspace, Text.words_space_cons]
    exact h
  · have hword : ∀ w, ' ' ∉ w → ' ' ∉ c :: w := by
      intro w hw
      simpa using ⟨fun heq => hspace heq.symm, hw⟩
    rcases Text.exists_first_space t with ht | ⟨a, b, rfl, ha⟩
    · rw [Text.words_eq_singleton (by simp) (hword t ht)]
      exact ⟨fun _ => hc _ List.mem_cons_self, trivial⟩
    · rw [← List.cons_append, Text.words_first (hword a ha), if_neg (by simp)]
      refine ⟨fun _ => hc _ List.mem_cons_self, ?_⟩
      rw [Nesting.advance_cons]
      rw [Text.words_first ha] at h
      split at h
      · rename_i hnil
        rw [hnil]
        exact h
      · exact h.2

theorem operatorFree_concat {n : Nesting} {t : Text} {c : Char}
    (hc : ∀ word, c ∈ word → isOperation word = false) (h : OperatorFree n (Text.words t)) :
    OperatorFree n (Text.words (t ++ [c])) := by
  by_cases hspace : c = ' '
  · rw [hspace, Text.words_append_space t [], Text.words_nil, List.append_nil]
    exact h
  · rcases Text.exists_first_space t with ht | ⟨a, b, rfl, ha⟩
    · have hword : ' ' ∉ t ++ [c] := by simpa using ⟨ht, fun heq => hspace heq.symm⟩
      rw [Text.words_eq_singleton (by simp) hword]
      have hlast : c ∈ t ++ [c] := List.mem_append_right t (List.mem_singleton_self c)
      exact ⟨fun _ => hc _ hlast, trivial⟩
    · rw [List.append_assoc, List.cons_append, Text.words_first ha]
      rw [Text.words_first ha] at h
      split at h
      · rename_i hnil
        rw [if_pos hnil]
        exact operatorFree_concat hc h
      · rename_i hne
        rw [if_neg hne]
        exact ⟨h.1, operatorFree_concat hc h.2⟩
termination_by t.length

/-- Blanks around a text make no word an operator. -/
theorem operatorFree_of_trim {t : Text} (h : OperatorFree .start (Text.words (Text.trim t))) :
    OperatorFree .start (Text.words t) := by
  obtain ⟨a, b, ht, ha, hb⟩ := Text.exists_trim t
  rw [ht]
  generalize Text.trim t = u at h
  have hfront : OperatorFree .start (Text.words (a ++ u)) := by
    clear ht
    induction a with
    | nil => exact h
    | cons c a ih =>
      have hblank := ha c List.mem_cons_self
      refine operatorFree_cons Nesting.isValid_start
        (fun _ hmem => isOperation_eq_false_of_blank hmem hblank) ?_
      rw [Nesting.isValid_start.step_blank hblank]
      exact ih fun d hd => ha d (List.mem_cons_of_mem c hd)
  clear ht
  generalize a ++ u = front at hfront
  induction b generalizing front with
  | nil => simpa using hfront
  | cons c b ih =>
    have hnext := ih (fun d hd => hb d (List.mem_cons_of_mem c hd)) (front ++ [c])
      (operatorFree_concat
        (fun _ hmem => isOperation_eq_false_of_blank hmem (hb c List.mem_cons_self)) hfront)
    simpa using hnext

/-- Whatever is found at the end of each word of a text, is found for all of its words. -/
theorem operatorFree_of_cut {t : Text} (h : ∀ u v w, t = u ++ v → w <:+ u → Text.IsWord w →
    (v = [] ∨ v.head? = some ' ') → (Nesting.start.advance u).isTop = true →
    isOperation w = false) : OperatorFree .start (Text.words t) := by
  have hall : ∀ us ws, Text.words t = us ++ ws →
      OperatorFree (us.foldl Nesting.advance .start) ws := by
    intro us ws
    induction ws generalizing us with
    | nil => exact fun _ => trivial
    | cons w ws ih =>
      intro hws
      obtain ⟨u, v, ht, hu, hw, -, hv⟩ := Text.exists_cut_of_words hws
      have hnest : (us.foldl Nesting.advance .start).advance w = Nesting.start.advance u := by
        rw [← Nesting.isValid_start.advance_words u, hu, List.foldl_append]
        rfl
      have hword : Text.IsWord w := Text.isWord_of_mem_words (t := t) (by rw [hws]; simp)
      have hrest := ih (us ++ [w]) (by simpa using hws)
      rw [List.foldl_append] at hrest
      exact ⟨fun htop => h u v w ht hw hword hv (hnest ▸ htop), hrest⟩
  exact hall [] _ rfl

/-- A text that is inside of parentheses or quotes behind a beginning without spaces, and ends with a
character that is no letter. -/
theorem hasNoOperator_fenced {a b : Text} {last : Char} (ha : ' ' ∉ a) (hb : b.head? ≠ some ' ')
    (hclosed : Nesting.start.advance (a ++ (b ++ [last])) = .start)
    (hletter : ¬('a' ≤ last.toLower ∧ last.toLower ≤ 'z'))
    (hfence : ∀ u v, b = u ++ v → u ≠ [] → (Nesting.start.advance (a ++ u)).isTop = false)
    (hne : b ≠ []) : HasNoOperator (a ++ (b ++ [last])) := by
  refine ⟨hclosed, operatorFree_of_cut fun u v w ht hw hword hv htop => ?_⟩
  -- the word ends behind the beginning, since there is no space before that
  rcases List.append_eq_append_iff.1 ht with ⟨rest, hu, hrest⟩ | ⟨rest, ha', hrest⟩
  · rcases Text.prefix_concat hrest with ⟨rfl, -⟩ | ⟨tail, hb', -⟩
    · -- the last word ends with a character that no operator has
      obtain ⟨before, hbefore⟩ := hw
      have hlast : w.getLast? = some last := by
        have h := congrArg List.getLast? (hbefore.trans hu)
        rw [List.getLast?_append, ← List.append_assoc, List.getLast?_append] at h
        obtain ⟨c, hc⟩ : ∃ c, w.getLast? = some c := ⟨_, List.getLast?_eq_some_getLast hword.1⟩
        simpa [hc] using h
      exact isOperation_eq_false (List.mem_of_getLast? hlast) hletter
    · by_cases hnil : rest = []
      · exfalso
        subst hnil
        rw [List.nil_append] at hrest
        rcases hv with rfl | hv
        · simp at hrest
        · rw [← hrest] at hv
          obtain ⟨c, b, rfl⟩ := List.exists_cons_of_ne_nil hne
          exact hb (by simpa using hv)
      · rw [hu, hfence rest tail hb' hnil] at htop
        cases htop
  · exfalso
    rcases hv with rfl | hv
    · have := congrArg List.length hrest
      simp at this
    · cases rest with
      | nil =>
        rw [hrest, List.nil_append] at hv
        obtain ⟨c, b, rfl⟩ := List.exists_cons_of_ne_nil hne
        exact hb (by simpa using hv)
      | cons c rest =>
        rw [hrest] at hv
        have hc : c = ' ' := by simpa using hv
        exact ha (by rw [ha', hc]; simp)

/-- A name with a text in parentheses behind it is an operand. -/
theorem hasNoOperator_call (name : Text) {t : Text} (hspace : ' ' ∉ name)
    (hplain : ∀ c ∈ name, Nesting.isQuote c = false ∧ c ≠ '(' ∧ c ≠ ')') (h : Closes t) :
    HasNoOperator (name ++ ('(' :: t ++ [')'])) := by
  have hopen : Nesting.start.step '(' = Nesting.start.deeper := rfl
  have hname : Nesting.start.advance name = .start := Nesting.isValid_start.advance_of_plain hplain
  refine hasNoOperator_fenced (b := '(' :: t) hspace (by simp)
    ((Closes.of_plain hplain).append h.enclosed).closed (by decide) (fun u v huv hne => ?_) (by simp)
  obtain ⟨c, u, rfl⟩ := List.exists_cons_of_ne_nil hne
  simp only [List.cons_append, List.cons.injEq] at huv
  obtain ⟨rfl, ht⟩ := huv
  have hdepth := h.covered u v ht
  rw [Nesting.advance_append, hname, Nesting.advance_cons, hopen, Nesting.advance_deeper]
  simp only [Nesting.isTop, Nesting.deeper_depth, Bool.and_eq_false_iff, beq_eq_false_iff_ne]
  exact .inl (by omega)

/-- A text in parentheses is an operand. -/
theorem Closes.hasNoOperator_enclosed {t : Text} (h : Closes t) : HasNoOperator ('(' :: t ++ [')']) :=
  hasNoOperator_call [] (by simp) (by simp) h

/-! ## Scanning -/

/-- Words without operators are kept for the next side. -/
theorem scan_append {s : Scan} {ws : List Text} (rest : List Text) (h : OperatorFree s.nesting ws) :
    scan s (ws ++ rest) = scan { s with
      pending := s.pending ++ ws, nesting := ws.foldl Nesting.advance s.nesting } rest := by
  induction ws generalizing s with
  | nil => simp
  | cons w ws ih =>
    obtain ⟨hw, hws⟩ := h
    rw [List.cons_append, scan]
    have hskip : (!(s.nesting.advance w).isTop || !isOperation w) = true := by
      cases htop : (s.nesting.advance w).isTop with
      | false => rfl
      | true => simp [hw htop]
    simp only [hskip, if_true]
    rw [ih hws]
    simp

/-- Where the scanner starts with the next operand. -/
def Scan.fresh (started : Bool) : Scan :=
  ⟨[], [], [], started, .start⟩

variable {started : Bool}

/-- An operand after which there is nothing. -/
theorem scan_operand {t : Text} (h : OperatorFree .start (Text.words t)) :
    scan (.fresh started) (Text.words t) =
      if started && isEnclosed (Text.unwords (Text.words t)) then
        [⟨Text.unwords (Text.words t), [], []⟩] else [] := by
  have hscan := scan_append (s := .fresh started) [] h
  rw [List.append_nil] at hscan
  rw [hscan]
  rfl

theorem advance_of_isOperation {word : Text} (h : isOperation word = true) :
    Nesting.start.advance word = .start :=
  Nesting.isValid_start.advance_of_plain (plain_of_isOperation h)

/-- An operator outside of parentheses and quotes ends a side. -/
theorem scan_operation {s : Scan} {word : Text} {rest : List Text} (hnesting : s.nesting = .start)
    (hop : isOperation word = true) :
    scan s (word :: rest) =
      if Text.isBlank s.left then
        if isCombinator word then [⟨Text.unwords s.pending, word, Text.unwords rest⟩]
        else scan ⟨Text.unwords s.pending, word, [], true, .start⟩ rest
      else ⟨s.left, s.operation, Text.unwords s.pending⟩
        :: if isCombinator word then TokenSet.marker word :: scan (.fresh true) rest
          else scan (.fresh true) rest := by
  rw [scan]
  have htop : (!Nesting.start.isTop || !isOperation word) = false := by
    rw [hop]
    rfl
  simp only [hnesting, htop, advance_of_isOperation hop, Bool.false_eq_true, if_false, Scan.fresh]

/-- An operand before a combinator is its left side, and all of the rest is its right side. -/
theorem scan_combinator {t word : Text} {rest : List Text} (h : HasNoOperator t)
    (hword : isCombinator word = true) :
    scan (.fresh started) (Text.words t ++ word :: rest) =
      [⟨Text.unwords (Text.words t), word, Text.unwords rest⟩] := by
  rw [scan_append (s := .fresh started) _ h.operatorFree,
    scan_operation h.foldl_words (isOperation_of_isCombinator hword), if_pos (by rfl), if_pos hword]
  rfl

/-- A left side that is no combinator's waits for its right side. -/
theorem scan_left {t word : Text} {rest : List Text} (h : HasNoOperator t)
    (hop : isOperation word = true) (hword : isCombinator word = false) :
    scan (.fresh started) (Text.words t ++ word :: rest) =
      scan ⟨Text.unwords (Text.words t), word, [], true, .start⟩ rest := by
  rw [scan_append (s := .fresh started) _ h.operatorFree, scan_operation h.foldl_words hop,
    if_pos (by rfl), hword]
  rfl

/-- A comparison after which there is nothing. -/
theorem scan_comparison {left right word : Text} (hleft : HasNoOperator left)
    (hright : OperatorFree .start (Text.words right)) (hop : isOperation word = true)
    (hword : isCombinator word = false)
    (hblank : Text.isBlank (Text.unwords (Text.words left)) = false) :
    scan (.fresh started) (Text.words left ++ word :: Text.words right) =
      [⟨Text.unwords (Text.words left), word, Text.unwords (Text.words right)⟩] := by
  have hscan := scan_append (s := ⟨Text.unwords (Text.words left), word, [], true, .start⟩)
    [] hright
  rw [List.append_nil] at hscan
  rw [scan_left hleft hop hword, hscan, scan]
  simp [hblank]

/-- A comparison before a combinator, which becomes a marker. -/
theorem scan_comparison_combinator {left right word combinator : Text} {rest : List Text}
    (hleft : HasNoOperator left) (hright : HasNoOperator right) (hop : isOperation word = true)
    (hword : isCombinator word = false)
    (hblank : Text.isBlank (Text.unwords (Text.words left)) = false)
    (hcombinator : isCombinator combinator = true) :
    scan (.fresh started) (Text.words left ++ word :: (Text.words right ++ combinator :: rest)) =
      ⟨Text.unwords (Text.words left), word, Text.unwords (Text.words right)⟩
        :: TokenSet.marker combinator :: scan (.fresh true) rest := by
  rw [scan_left hleft hop hword, scan_append (s := ⟨_, word, [], true, .start⟩)
    _ hright.operatorFree, scan_operation hright.foldl_words (isOperation_of_isCombinator hcombinator)]
  simp [hblank, hcombinator]

/-! ## Outer parentheses -/

theorem dropFinish?_append (t finish : Text) :
    Text.dropFinish? finish (t ++ finish) = some t := by
  have hstart : ∀ start rest : Text, Text.dropStart? start (start ++ rest) = some rest := by
    intro start
    induction start with
    | nil => exact fun _ => rfl
    | cons c start ih => exact fun rest => by simp [Text.dropStart?, ih]
  simp [Text.dropFinish?, hstart]

theorem enclosedInner?_eq_some_iff {t inner : Text} :
    enclosedInner? t = some inner ↔ t = '(' :: inner ++ [')'] ∧ inner ≠ [] := by
  simp only [enclosedInner?, Option.filter_eq_some_iff, Option.bind_eq_some_iff]
  constructor
  · rintro ⟨⟨rest, hrest, hinner⟩, hne⟩
    rw [Text.dropStart?_eq_some hrest, Text.dropFinish?_eq_some hinner]
    exact ⟨by simp, by simpa using hne⟩
  · rintro ⟨rfl, hne⟩
    refine ⟨⟨inner ++ [')'], by simp [Text.dropStart?], dropFinish?_append _ _⟩, ?_⟩
    simpa using hne

/-- Outer parentheses are removed if that makes no orphans. -/
theorem stripEnclosing?_enclosed {inner : Text} (hne : inner ≠ []) :
    stripEnclosing? ('(' :: inner ++ [')']) =
      if hasOrphan inner then none else some (Text.trim inner) := by
  have h : enclosedInner? ('(' :: inner ++ [')']) = some inner :=
    enclosedInner?_eq_some_iff.2 ⟨rfl, hne⟩
  unfold stripEnclosing?
  rw [h]
  cases horphan : hasOrphan inner <;> simp [Option.filter, horphan]

theorem stripEnclosing?_eq_some_iff {t inside : Text} :
    stripEnclosing? t = some inside ↔
      ∃ inner, t = '(' :: inner ++ [')'] ∧ inner ≠ [] ∧ hasOrphan inner = false ∧
        Text.trim inner = inside := by
  simp only [stripEnclosing?, Option.map_eq_some_iff, Option.filter_eq_some_iff,
    enclosedInner?_eq_some_iff, Bool.not_eq_true', and_assoc]

theorem enclosedInner?_eq_none_of_head {t : Text} (h : t.head? ≠ some '(') :
    enclosedInner? t = none := by
  cases hinner : enclosedInner? t with
  | none => rfl
  | some inner =>
    rw [(enclosedInner?_eq_some_iff.1 hinner).1] at h
    simp at h

/-- A text that begins with something else is not in parentheses. -/
theorem stripEnclosing?_eq_none_of_head {t : Text} (h : t.head? ≠ some '(') :
    stripEnclosing? t = none := by
  unfold stripEnclosing?
  rw [enclosedInner?_eq_none_of_head h]
  rfl

theorem enclosedInner?_squeeze (t : Text) :
    enclosedInner? (Text.squeeze t) = (enclosedInner? t).map Text.squeeze := by
  have henclosed : ∀ inner, Text.squeeze ('(' :: inner ++ [')']) =
      '(' :: Text.squeeze inner ++ [')'] := by
    intro inner
    rw [Text.squeeze_append (by simp), Text.squeeze_cons_of_ne (by decide)]
    rfl
  cases h : enclosedInner? t with
  | some inner =>
    obtain ⟨rfl, hne⟩ := enclosedInner?_eq_some_iff.1 h
    rw [henclosed]
    exact enclosedInner?_eq_some_iff.2 ⟨rfl, fun hnil => hne (Text.squeeze_eq_nil_iff.1 hnil)⟩
  | none =>
    cases hs : enclosedInner? (Text.squeeze t) with
    | none => rfl
    | some inner =>
      -- the first and the last character stay the same
      exfalso
      obtain ⟨hsqueezed, hne⟩ := enclosedInner?_eq_some_iff.1 hs
      have hhead := Text.head?_squeeze t
      have hlast := Text.getLast?_squeeze t
      rw [hsqueezed] at hhead hlast
      obtain ⟨rest, rfl⟩ := List.head?_eq_some_iff.1 (hhead.symm.trans rfl)
      rw [Text.squeeze_cons_of_ne (by decide)] at hsqueezed
      simp only [List.cons_append, List.cons.injEq, true_and] at hsqueezed
      have hrest : rest ≠ [] := by
        rintro rfl
        simp at hsqueezed
      have hclose : rest.getLast? = some ')' := by
        rw [← Text.getLast?_squeeze, hsqueezed]
        simp
      obtain ⟨middle, rfl⟩ := List.getLast?_eq_some_iff.1 hclose
      rw [Text.squeeze_append (by simp)] at hsqueezed
      have hmiddle : Text.squeeze middle = inner := List.append_cancel_right hsqueezed
      refine absurd (enclosedInner?_eq_some_iff.2 ⟨rfl, ?_⟩ : enclosedInner? _ = some middle)
        (by rw [List.cons_append, h]; simp)
      rintro rfl
      exact hne hmiddle.symm

theorem stripEnclosing?_squeeze (t : Text) :
    stripEnclosing? (Text.squeeze t) = (stripEnclosing? t).map Text.squeeze := by
  unfold stripEnclosing?
  rw [enclosedInner?_squeeze]
  cases enclosedInner? t with
  | none => rfl
  | some inner =>
    have horphan := hasOrphan_squeeze inner
    cases h : hasOrphan inner with
    | true => simp [horphan, h, Option.filter]
    | false => simp [horphan, h, Option.filter, Text.trim_squeeze]

/-! ## String matches -/

/-- Whether a word is an operator in lower case. -/
def isLowerOperation (word : Text) : Bool :=
  operationWords.contains (String.ofList word)

/-- Pieces without characters change nothing. -/
theorem anyBareWord_filter {p : Text → Bool} (hp : p [] = false) (n : Nesting)
    (pieces : List Text) :
    anyBareWord p n (pieces.filter fun piece => !piece.isEmpty) = anyBareWord p n pieces := by
  induction pieces generalizing n with
  | nil => rfl
  | cons piece pieces ih =>
    cases piece with
    | nil =>
      rw [List.filter_cons_of_neg (by simp), ih]
      simp [anyBareWord, hp]
    | cons c piece =>
      rw [List.filter_cons_of_pos (by simp)]
      simp only [anyBareWord, ih]

/-- A trimmed text begins with its first word. -/
theorem headD_split {t : Text} (h : t.head? ≠ some ' ') :
    (Text.split ' ' t).headD [] = (Text.words t).headD [] := by
  cases t with
  | nil => rfl
  | cons c t =>
    have hc : (c == ' ') = false := by simpa using h
    unfold Text.words Text.split
    simp only [Text.splitWhere, hc, Bool.false_eq_true, if_false]
    cases Text.splitWhere (fun x => x == ' ') t <;> simp

/-- Only the words of a text decide if it is a string match, and the parentheses in it. -/
theorem isImpliedBoolean_eq (t : Text) :
    isImpliedBoolean t =
      (!(Text.trim t).isEmpty && !isEnclosed (Text.trim t) && (Text.trim t).contains '('
        && (Text.trim t).contains ')'
        && !anyBareWord isLowerOperation .start (Text.words (Text.trim t))
        && matchFunctionNames.any fun name =>
          Text.startsWith (Text.lowerAscii ((Text.words (Text.trim t)).headD [])) name.toList) := by
  have hhead : (Text.trim t).head? ≠ some ' ' := fun h => by cases Text.head?_trim h
  have hbare := anyBareWord_filter (p := isLowerOperation) (by decide) .start
    (Text.split ' ' (Text.trim t))
  unfold isImpliedBoolean
  simp only
  rw [headD_split hhead, ← show isLowerOperation
    = fun word => operationWords.contains (String.ofList word) from rfl, ← hbare]
  rfl

theorem isImpliedBoolean_squeeze (t : Text) :
    isImpliedBoolean (Text.squeeze t) = isImpliedBoolean t := by
  have hempty : (Text.squeeze (Text.trim t)).isEmpty = (Text.trim t).isEmpty := by
    rw [Bool.eq_iff_iff, List.isEmpty_iff, List.isEmpty_iff, Text.squeeze_eq_nil_iff]
  have henclosed : isEnclosed (Text.squeeze (Text.trim t)) = isEnclosed (Text.trim t) := by
    unfold isEnclosed
    rw [enclosedInner?_squeeze, Option.isSome_map]
  have hcontains : ∀ c : Char, c ≠ ' ' →
      (Text.squeeze (Text.trim t)).contains c = (Text.trim t).contains c := by
    intro c hc
    have h := congrArg (List.contains · c)
      (Text.filter_squeeze (p := (· == c)) (by simpa using fun h => hc h.symm) (Text.trim t))
    simpa using h
  rw [isImpliedBoolean_eq, isImpliedBoolean_eq, Text.trim_squeeze, hempty, henclosed,
    hcontains '(' (by decide), hcontains ')' (by decide), Text.words_squeeze]

/-- An operator in lower case outside of quotes makes a text more than a string match. -/
theorem isImpliedBoolean_eq_false {t : Text} (us : List Text) {vs : List Text} {word : Text}
    (hwords : Text.words (Text.trim t) = us ++ word :: vs)
    (hclosed : us.foldl Nesting.advance .start = .start) (hword : isLowerOperation word = true)
    (hop : isOperation word = true) : isImpliedBoolean t = false := by
  have hbare : ∀ (n : Nesting) (us : List Text), us.foldl Nesting.advance n = .start →
      anyBareWord isLowerOperation n (us ++ word :: vs) = true := by
    intro n us
    induction us generalizing n with
    | nil =>
      rintro rfl
      have hquote : Nesting.start.quote = none := rfl
      simp [anyBareWord, advance_of_isOperation hop, hword, hquote]
    | cons u us ih =>
      intro h
      simp [anyBareWord, ih _ h]
  rw [isImpliedBoolean_eq, hwords, hbare _ _ hclosed]
  simp

/-! ## Token sets -/

/-- The token sets of a text of which nothing is stripped, and that is no string match. -/
theorem tokenize_eq_scan {t : Text} (htrim : Text.trim t = t) (hne : t ≠ [])
    (hstrip : stripEnclosing? t = none) (himplied : isImpliedBoolean t = false) :
    tokenize t = scan (.fresh false) (Text.words t) := by
  unfold tokenize
  simp only [htrim, hstrip, Option.getD_none, himplied]
  cases t with
  | nil => exact absurd rfl hne
  | cons c t => rfl

/-- Token sets are found behind the outer parentheses. -/
theorem scan_of_tokenize {t : Text} {set : TokenSet} {sets : List TokenSet}
    (h : tokenize t = set :: sets) :
    scan (.fresh false) (Text.words ((stripEnclosing? (Text.trim t)).getD (Text.trim t)))
      = set :: sets := by
  unfold tokenize at h
  simp only at h
  split at h
  · cases h
  · exact h

/-- Blanks around a text make no difference to token sets. -/
theorem tokenize_trim (t : Text) : tokenize (Text.trim t) = tokenize t := by
  unfold tokenize
  rw [Text.trim_trim]

/-- Runs of spaces make no difference to token sets. -/
theorem tokenize_squeeze (t : Text) : tokenize (Text.squeeze t) = tokenize t := by
  have hempty : (Text.squeeze (Text.trim t)).isEmpty = (Text.trim t).isEmpty := by
    rw [Bool.eq_iff_iff, List.isEmpty_iff, List.isEmpty_iff, Text.squeeze_eq_nil_iff]
  have hfilter : (stripEnclosing? (Text.squeeze (Text.trim t))).getD (Text.squeeze (Text.trim t))
      = Text.squeeze ((stripEnclosing? (Text.trim t)).getD (Text.trim t)) := by
    rw [stripEnclosing?_squeeze]
    cases stripEnclosing? (Text.trim t) <;> rfl
  unfold tokenize
  simp only [Text.trim_squeeze, hempty, hfilter, isImpliedBoolean_squeeze, Text.words_squeeze]

end Filter
end RecordFilter
