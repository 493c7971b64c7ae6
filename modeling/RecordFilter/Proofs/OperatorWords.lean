import RecordFilter.Proofs.TokenSets

/-!
# Operator words in lower case

Two texts that differ in the case of their operator words are the same when these words are in lower case
(`lowerOperators`). Words end at blanks, parentheses, commas and quote marks, and what is in quotes is left
alone. The functions that take texts apart cut them at such characters, so each of them makes the same of a
text in lower case, part by part.

Main statement: `divide_lowerOperators`, for the token sets.
-/

namespace RecordFilter
namespace Filter

/-! ## Characters at which words end -/

/-- Blanks, quote marks, parentheses and commas. -/
def isBoundary (c : Char) : Bool :=
  Text.isBlankChar c || Nesting.isQuote c || c == '(' || c == ')' || c == ','

/-- No letter is among them. -/
theorem toNat_of_isBoundary {c : Char} (h : isBoundary c = true) : c.toNat < 65 ∨ 122 < c.toNat := by
  simp only [isBoundary, Text.isBlankChar, Nesting.isQuote, Bool.or_eq_true, Bool.and_eq_true,
    beq_iff_eq, decide_eq_true_eq] at h
  rcases h with (((h | rfl | rfl) | rfl) | rfl) | rfl
  · omega
  all_goals decide

theorem toLower_of_isBoundary {c : Char} (h : isBoundary c = true) : c.toLower = c := by
  have := toNat_of_isBoundary h
  exact Text.toLower_eq_self_of_outside (by omega)

theorem eq_of_toLower_isBoundary {c d : Char} (h : c.toLower = d) (hd : isBoundary d = true) : c = d := by
  have := toNat_of_isBoundary hd
  exact Text.eq_of_toLower_eq h (by omega)

/-- Lowering a letter makes no boundary and unmakes none. -/
theorem isBoundary_toLower (c : Char) : isBoundary c.toLower = isBoundary c := by
  cases h : isBoundary c.toLower with
  | true => rw [eq_of_toLower_isBoundary rfl h, h]
  | false =>
    refine (Bool.eq_false_iff.2 fun hc => ?_).symm
    rw [toLower_of_isBoundary hc, hc] at h
    cases h

/-- An operator word has no quote mark, parenthesis, comma or blank in it. -/
theorem not_isBoundary_of_isOperation {word : Text} (h : isOperation word = true) :
    ∀ c ∈ word, isBoundary c = false := by
  intro c hc
  refine Bool.eq_false_iff.2 fun hboundary => ?_
  have hcase := toLower_of_isBoundary hboundary
  have hletter := letters_of_isOperation h c hc
  rw [hcase] at hletter
  have hnat := toNat_of_isBoundary hboundary
  have hval : c.toNat = c.val.toNat := rfl
  simp only [Char.le_def, UInt32.le_iff_toNat_le] at hletter
  simp at hletter
  omega

theorem plain_of_not_isBoundary {c : Char} (h : isBoundary c = false) :
    Nesting.isQuote c = false ∧ c ≠ '(' ∧ c ≠ ')' := by
  simp only [isBoundary, Bool.or_eq_false_iff, beq_eq_false_iff_ne] at h
  exact ⟨h.1.1.1.2, h.1.1.2, h.1.2⟩

namespace Nesting

theorem IsValid.step_of_not_isBoundary {n : Nesting} (h : n.IsValid) {c : Char} (hc : isBoundary c = false) :
    n.step c = n :=
  h.step_of_plain (plain_of_not_isBoundary hc)

/-- A word without boundaries does not move the scanner. -/
theorem IsValid.advance_of_not_isBoundary {n : Nesting} (h : n.IsValid) {w : Text}
    (hw : ∀ c ∈ w, isBoundary c = false) : n.advance w = n :=
  h.advance_of_plain fun c hc => plain_of_not_isBoundary (hw c hc)

/-- The case of letters does not matter for it. -/
theorem IsValid.advance_congr {n : Nesting} (h : n.IsValid) :
    ∀ {t u : Text}, Text.lowerAscii t = Text.lowerAscii u → n.advance t = n.advance u := by
  intro t
  induction t generalizing n with
  | nil =>
    intro u hu
    rw [List.map_eq_nil_iff.1 hu.symm]
  | cons c t ih =>
    intro u hu
    cases u with
    | nil => cases hu
    | cons d u =>
      simp only [Text.lowerAscii, List.map_cons, List.cons.injEq] at hu
      have hstep : n.step c = n.step d := by
        cases hc : isBoundary c with
        | true =>
          rw [eq_of_toLower_isBoundary (hu.1.symm.trans (toLower_of_isBoundary hc)) hc]
        | false =>
          have hd : isBoundary d = false := by
            rw [← isBoundary_toLower, ← hu.1, isBoundary_toLower, hc]
          rw [h.step_of_not_isBoundary hc, h.step_of_not_isBoundary hd]
      rw [advance_cons, advance_cons, hstep]
      exact ih (h.step d) hu.2

/-- Which quote is open does not depend on the parentheses around it. -/
theorem quote_step_congr {n m : Nesting} (h : n.quote = m.quote) (c : Char) :
    (n.step c).quote = (m.step c).quote := by
  unfold Nesting.step
  rw [h]
  split
  · split <;> simp_all
  · split
    · rfl
    · split
      · rfl
      · split <;> simp_all

end Nesting

/-! ## Texts with operator words in lower case -/

/-- A word in lower case, if it is an operator and not in quotes. -/
def lowerWord (n : Nesting) (word : Text) : Text :=
  if n.quote.isNone && isOperation word then Text.lowerAscii word else word

/-- The rest of a text, given how deep it is nested and the beginning of the word that it begins with. -/
def lowerFrom (n : Nesting) (word : Text) : Text → Text
  | [] => lowerWord n word
  | c :: t =>
    if isBoundary c then lowerWord n word ++ c :: lowerFrom (n.step c) [] t
    else lowerFrom n (word ++ [c]) t

/-- A text with its operator words in lower case. -/
def lowerOperators (t : Text) : Text :=
  lowerFrom .start [] t

/-- `lowerWord` changes nothing but the case of ASCII letters. -/
theorem lowerAscii_lowerWord (n : Nesting) (word : Text) :
    Text.lowerAscii (lowerWord n word) = Text.lowerAscii word := by
  unfold lowerWord
  split
  · exact Text.lowerAscii_lowerAscii word
  · rfl

@[simp] theorem lowerWord_nil (n : Nesting) : lowerWord n [] = [] := by
  unfold lowerWord
  split <;> rfl

/-- `lowerFrom` changes nothing but the case of ASCII letters. -/
theorem lowerAscii_lowerFrom (t : Text) : ∀ (n : Nesting) (word : Text),
    Text.lowerAscii (lowerFrom n word t) = Text.lowerAscii (word ++ t) := by
  induction t with
  | nil =>
    intro n word
    rw [lowerFrom, lowerAscii_lowerWord, List.append_nil]
  | cons c t ih =>
    intro n word
    rw [lowerFrom]
    split
    · rw [Text.lowerAscii_append, lowerAscii_lowerWord, Text.lowerAscii_append]
      congr 1
      exact congrArg (c.toLower :: ·) (ih (n.step c) [])
    · rw [ih, List.append_assoc]
      rfl

/-- It is the same text up to the case of letters. -/
theorem lowerAscii_lowerOperators (t : Text) :
    Text.lowerAscii (lowerOperators t) = Text.lowerAscii t :=
  lowerAscii_lowerFrom t .start []

/-- `lowerFrom` reads the quote of a state and not its depth. -/
theorem lowerFrom_congr (t : Text) : ∀ {n m : Nesting} (word : Text), n.quote = m.quote →
    lowerFrom n word t = lowerFrom m word t := by
  induction t with
  | nil =>
    intro n m word h
    rw [lowerFrom, lowerFrom, lowerWord, lowerWord, h]
  | cons c t ih =>
    intro n m word h
    rw [lowerFrom, lowerFrom, lowerWord, lowerWord, h, ih [] (Nesting.quote_step_congr h c), ih _ h]

/-- A text is cut where a word ends. By induction on what stands in front. -/
theorem lowerFrom_append {c : Char} (hc : isBoundary c = true) (a b : Text) :
    ∀ {n : Nesting} (word : Text), n.IsValid → lowerFrom n word (a ++ c :: b)
      = lowerFrom n word a ++ c :: lowerFrom ((n.advance a).step c) [] b := by
  induction a with
  | nil =>
    intro n word _
    rw [List.nil_append, lowerFrom, lowerFrom, if_pos hc]
    rfl
  | cons d a ih =>
    intro n word hn
    rw [List.cons_append, lowerFrom, lowerFrom, Nesting.advance_cons]
    split
    · rw [ih [] (hn.step d)]
      simp
    · rename_i hd
      rw [ih _ hn, hn.step_of_not_isBoundary (by simpa using hd)]

/-- At a boundary a new word begins. -/
theorem lowerFrom_cons {c : Char} (hc : isBoundary c = true) (n : Nesting) (t : Text) :
    lowerFrom n [] (c :: t) = c :: lowerFrom (n.step c) [] t := by
  rw [lowerFrom, if_pos hc, lowerWord_nil]
  rfl

/-- A single word. -/
theorem lowerFrom_word {w : Text} (hw : ∀ c ∈ w, isBoundary c = false) (n : Nesting) :
    ∀ word, lowerFrom n word w = lowerWord n (word ++ w) := by
  induction w with
  | nil =>
    intro word
    rw [lowerFrom, List.append_nil]
  | cons c w ih =>
    intro word
    rw [lowerFrom, if_neg (by simp [hw c List.mem_cons_self]),
      ih fun d hd => hw d (List.mem_cons_of_mem c hd)]
    simp

/-- Where no quote is open, a text begins anew. -/
theorem lowerFrom_eq_lowerOperators {n : Nesting} (h : n.quote = none) (t : Text) :
    lowerFrom n [] t = lowerOperators t :=
  lowerFrom_congr t [] h

@[simp] theorem length_lowerOperators (t : Text) : (lowerOperators t).length = t.length := by
  have h := congrArg List.length (lowerAscii_lowerOperators t)
  simpa [Text.lowerAscii] using h

/-! ## Texts up to the case of letters -/

section Case

variable {p : Char → Bool} {t u : Text}

/-- What is said about boundaries only does not depend on the case of letters. -/
theorem comp_toLower (hp : ∀ c, p c = true → isBoundary c = true) : p ∘ Char.toLower = p := by
  funext c
  show p c.toLower = p c
  cases hc : isBoundary c with
  | true => rw [toLower_of_isBoundary hc]
  | false =>
    have hnot : ∀ d, isBoundary d = false → p d = false :=
      fun d hd => Bool.eq_false_iff.2 fun hpd => by rw [hp d hpd] at hd; cases hd
    rw [hnot c hc, hnot _ ((isBoundary_toLower c).trans hc)]

/-- Texts that agree up to ASCII case agree about every kind of boundary in them. -/
theorem filter_congr_of_lowerAscii (hp : ∀ c, p c = true → isBoundary c = true)
    (h : Text.lowerAscii t = Text.lowerAscii u) : t.filter p = u.filter p := by
  have hlower : ∀ t : Text, (Text.lowerAscii t).filter p = t.filter p := by
    intro t
    rw [Text.lowerAscii, List.filter_map, comp_toLower hp]
    have hid : (t.filter p).map Char.toLower = (t.filter p).map id :=
      List.map_congr_left fun c hc => toLower_of_isBoundary (hp c (List.mem_filter.1 hc).2)
    rw [hid, List.map_id]
  rw [← hlower t, h, hlower u]

theorem isBoundary_of_isBlankChar {c : Char} (h : Text.isBlankChar c = true) : isBoundary c = true := by
  simp [isBoundary, h]

theorem isBlank_congr_of_lowerAscii (h : Text.lowerAscii t = Text.lowerAscii u) :
    Text.isBlank t = Text.isBlank u := by
  have hlower : ∀ t : Text, Text.isBlank (Text.lowerAscii t) = Text.isBlank t := by
    intro t
    rw [Text.isBlank, Text.lowerAscii, List.all_map, comp_toLower fun _ => isBoundary_of_isBlankChar]
    rfl
  rw [← hlower t, h, hlower u]

/-- Trimming commutes with lowering. -/
theorem trim_lowerAscii (t : Text) : Text.trim (Text.lowerAscii t) = Text.lowerAscii (Text.trim t) := by
  have hdrop : ∀ t : Text, (Text.lowerAscii t).dropWhile Text.isBlankChar
      = Text.lowerAscii (t.dropWhile Text.isBlankChar) := by
    intro t
    rw [Text.lowerAscii, List.dropWhile_map, comp_toLower fun _ => isBoundary_of_isBlankChar]
    rfl
  have hreverse : ∀ t : Text, (Text.lowerAscii t).reverse = Text.lowerAscii t.reverse :=
    fun t => List.map_reverse.symm
  unfold Text.trim Text.trimEnd Text.trimStart
  rw [hdrop, hreverse, hdrop, hreverse]

/-- Parentheses without a partner do not depend on the case of letters. -/
theorem hasOrphan_congr (h : Text.lowerAscii t = Text.lowerAscii u) : hasOrphan t = hasOrphan u := by
  refine hasOrphan_of_filter (filter_congr_of_lowerAscii (fun c hc => ?_) h)
  simp only [isParenthesis, Bool.or_eq_true] at hc
  rcases hc with hc | hc <;> simp [isBoundary, hc]

/-- Where nothing can be trimmed of a text, nothing can be trimmed in other case. -/
theorem trim_eq_self_of_lowerAscii (h : Text.lowerAscii t = Text.lowerAscii u) (ht : Text.trim t = t) :
    Text.trim u = u := by
  have hlower : Text.lowerAscii (Text.trim u) = Text.lowerAscii u := by
    rw [← trim_lowerAscii, ← h, trim_lowerAscii, ht]
  have hlength : (Text.trim u).length = u.length := by
    simpa [Text.lowerAscii] using congrArg List.length hlower
  obtain ⟨a, b, hu, -, -⟩ := Text.exists_trim u
  have hsum := congrArg List.length hu
  simp only [List.length_append] at hsum
  have ha : a = [] := List.length_eq_zero_iff.1 (by omega)
  have hb : b = [] := List.length_eq_zero_iff.1 (by omega)
  rw [ha, hb, List.append_nil, List.nil_append] at hu
  exact hu.symm

/-- A boundary stands in the same place. -/
theorem exists_of_lowerAscii_append {c : Char} (hc : isBoundary c = true) {a b : Text}
    (h : Text.lowerAscii t = Text.lowerAscii (a ++ c :: b)) :
    ∃ a' b', t = a' ++ c :: b' ∧ Text.lowerAscii a' = Text.lowerAscii a ∧
      Text.lowerAscii b' = Text.lowerAscii b := by
  rw [Text.lowerAscii_append] at h
  obtain ⟨a', rest, rfl, ha, hrest⟩ := List.map_eq_append_iff.1 h
  obtain ⟨d, b', rfl, hd, hb⟩ := List.map_eq_cons_iff.1 hrest
  rw [toLower_of_isBoundary hc] at hd
  exact ⟨a', b', by rw [eq_of_toLower_isBoundary hd hc], ha, hb⟩

theorem mem_of_lowerAscii {c : Char} (hc : isBoundary c = true)
    (h : Text.lowerAscii t = Text.lowerAscii u) (hu : c ∈ u) : c ∈ t := by
  obtain ⟨a, b, rfl⟩ := List.append_of_mem hu
  obtain ⟨a', b', rfl, -, -⟩ := exists_of_lowerAscii_append hc h
  simp

/-- So do parentheses around a text. -/
theorem exists_of_lowerAscii_enclosed {inner : Text}
    (h : Text.lowerAscii t = Text.lowerAscii ('(' :: inner ++ [')'])) :
    ∃ inner', t = '(' :: inner' ++ [')'] ∧ Text.lowerAscii inner' = Text.lowerAscii inner := by
  obtain ⟨a, b, rfl, ha, hb⟩ := exists_of_lowerAscii_append (a := []) rfl h
  rw [List.map_eq_nil_iff.1 ha] at h ⊢
  obtain ⟨inner', rest, rfl, hinner, hrest⟩ := exists_of_lowerAscii_append (b := []) rfl hb
  rw [List.map_eq_nil_iff.1 hrest]
  exact ⟨inner', rfl, hinner⟩

/-- Enclosing parentheses do not depend on the case of letters. -/
theorem isEnclosed_congr (h : Text.lowerAscii t = Text.lowerAscii u) : isEnclosed t = isEnclosed u := by
  have hone : ∀ {t u : Text}, Text.lowerAscii t = Text.lowerAscii u → isEnclosed t = true →
      isEnclosed u = true := by
    intro t u h ht
    obtain ⟨inner, hinner⟩ := Option.isSome_iff_exists.1 ht
    obtain ⟨rfl, hne⟩ := enclosedInner?_eq_some_iff.1 hinner
    obtain ⟨inner', rfl, hlower⟩ := exists_of_lowerAscii_enclosed h.symm
    refine Option.isSome_iff_exists.2 ⟨inner', enclosedInner?_eq_some_iff.2 ⟨rfl, ?_⟩⟩
    rintro rfl
    exact hne (List.map_eq_nil_iff.1 hlower.symm)
  exact Bool.eq_iff_iff.2 ⟨hone h, hone h.symm⟩

theorem isOneOf_congr_of_lowerAscii (candidates : List String) (h : Text.lowerAscii t = Text.lowerAscii u) :
    isOneOf candidates t = isOneOf candidates u :=
  isOneOf_congr candidates (by simpa [Text.eqIgnoreCase] using h)

end Case

/-! ## Parentheses and blanks around a text -/

/-- Blanks in front of a text stay as they are. -/
theorem lowerFrom_blanks {a : Text} (ha : ∀ c ∈ a, Text.isBlankChar c = true) {n : Nesting}
    (hn : n.IsValid) (t : Text) : lowerFrom n [] (a ++ t) = a ++ lowerFrom n [] t := by
  induction a with
  | nil => rfl
  | cons c a ih =>
    have hc := ha c List.mem_cons_self
    rw [List.cons_append, lowerFrom_cons (isBoundary_of_isBlankChar hc), hn.step_blank hc,
      ih fun d hd => ha d (List.mem_cons_of_mem c hd)]
    rfl

/-- Blanks behind a text stay as they are. -/
theorem lowerFrom_append_blanks {b : Text} (hb : ∀ c ∈ b, Text.isBlankChar c = true) {n : Nesting}
    (hn : n.IsValid) (t : Text) : lowerFrom n [] (t ++ b) = lowerFrom n [] t ++ b := by
  cases b with
  | nil => simp
  | cons c b =>
    have hrest := lowerFrom_blanks (fun d hd => hb d (List.mem_cons_of_mem c hd))
      ((hn.advance t).step c) []
    rw [List.append_nil] at hrest
    rw [lowerFrom_append (isBoundary_of_isBlankChar (hb c List.mem_cons_self)) _ _ _ hn, hrest]
    simp [lowerFrom]

/-- Trimming leaves the same text. -/
theorem trim_lowerOperators (t : Text) : Text.trim (lowerOperators t) = lowerOperators (Text.trim t) := by
  obtain ⟨a, b, ht, ha, hb⟩ := Text.exists_trim t
  have hlower : lowerOperators (a ++ Text.trim t ++ b) = a ++ lowerOperators (Text.trim t) ++ b := by
    rw [lowerOperators, lowerFrom_append_blanks hb Nesting.isValid_start,
      lowerFrom_blanks ha Nesting.isValid_start, lowerOperators]
  rw [← ht] at hlower
  rw [hlower, Text.trim_of_blanks ha hb]
  exact trim_eq_self_of_lowerAscii (lowerAscii_lowerOperators _).symm (Text.trim_trim t)

theorem isBlank_lowerOperators (t : Text) : Text.isBlank (lowerOperators t) = Text.isBlank t :=
  isBlank_congr_of_lowerAscii (lowerAscii_lowerOperators t)

/-- Between parentheses the words are lowered as outside of them. -/
theorem lowerOperators_enclosed (t : Text) :
    lowerOperators ('(' :: t ++ [')']) = '(' :: lowerOperators t ++ [')'] := by
  rw [lowerOperators, List.cons_append, lowerFrom_cons rfl,
    lowerFrom_append rfl _ _ _ (Nesting.isValid_start.step _), lowerFrom_eq_lowerOperators rfl]
  simp [lowerFrom]

/-- Outer parentheses can be removed as before. -/
theorem stripEnclosing?_lowerOperators (t : Text) :
    stripEnclosing? (lowerOperators t) = (stripEnclosing? t).map lowerOperators := by
  cases h : stripEnclosing? t with
  | some inside =>
    obtain ⟨inner, rfl, hne, horphan, rfl⟩ := stripEnclosing?_eq_some_iff.1 h
    refine stripEnclosing?_eq_some_iff.2
      ⟨lowerOperators inner, lowerOperators_enclosed inner, fun hnil => hne ?_, ?_, trim_lowerOperators inner⟩
    · simpa using congrArg List.length hnil
    · rw [hasOrphan_congr (lowerAscii_lowerOperators inner), horphan]
  | none =>
    refine Option.eq_none_iff_forall_ne_some.2 fun inside hinside => ?_
    obtain ⟨inner, htext, hne, horphan, -⟩ := stripEnclosing?_eq_some_iff.1 hinside
    have hlower := lowerAscii_lowerOperators t
    rw [htext] at hlower
    obtain ⟨inner', rfl, hinner⟩ := exists_of_lowerAscii_enclosed hlower.symm
    have hsome : stripEnclosing? ('(' :: inner' ++ [')']) = some (Text.trim inner') := by
      refine stripEnclosing?_eq_some_iff.2 ⟨inner', rfl, ?_, ?_, rfl⟩
      · rintro rfl
        exact hne (List.map_eq_nil_iff.1 hinner.symm)
      · rw [hasOrphan_congr hinner, horphan]
    rw [h] at hsome
    cases hsome

/-! ## Token sets -/

/-- The words of a text, given how deep it is nested. -/
def lowerWords (n : Nesting) : List Text → List Text
  | [] => []
  | word :: rest => lowerFrom n [] word :: lowerWords (n.advance word) rest

/-- The words behind others are lowered from the state those leave behind. -/
theorem lowerWords_append (n : Nesting) (us ws : List Text) :
    lowerWords n (us ++ ws) = lowerWords n us ++ lowerWords (us.foldl Nesting.advance n) ws := by
  induction us generalizing n with
  | nil => rfl
  | cons u us ih => simp [lowerWords, ih]

/-- The words of the lowered text are the lowered words, each in the state before it. -/
theorem words_lowerFrom {n : Nesting} (hn : n.IsValid) (t : Text) :
    Text.words (lowerFrom n [] t) = lowerWords n (Text.words t) := by
  have hempty : ∀ {n : Nesting} {t : Text}, lowerFrom n [] t = [] ↔ t = [] := by
    intro n t
    have hlength := congrArg List.length (lowerAscii_lowerFrom t n [])
    simp only [Text.lowerAscii, List.length_map, List.nil_append] at hlength
    rw [← List.length_eq_zero_iff, ← List.length_eq_zero_iff, hlength]
  have hspace : ∀ {n : Nesting} {t : Text}, ' ' ∉ t → ' ' ∉ lowerFrom n [] t := by
    intro n t ht hmem
    exact ht (mem_of_lowerAscii rfl (lowerAscii_lowerFrom t n []).symm hmem)
  rcases Text.exists_first_space t with ht | ⟨a, b, rfl, ha⟩
  · by_cases hne : t = []
    · subst hne
      simp [lowerFrom, lowerWords]
    · rw [Text.words_eq_singleton hne ht,
        Text.words_eq_singleton (fun hnil => hne (hempty.1 hnil)) (hspace ht)]
      rfl
  · have hvalid := hn.advance a
    rw [lowerFrom_append rfl _ _ _ hn, hvalid.step_space, Text.words_first (hspace ha), Text.words_first ha,
      words_lowerFrom hvalid b]
    by_cases hnil : a = []
    · rw [if_pos hnil, if_pos (hempty.2 hnil), hnil]
      rfl
    · rw [if_neg hnil, if_neg fun h => hnil (hempty.1 h)]
      rfl
termination_by t.length

/-- Words that are put together. -/
theorem lowerFrom_unwords (ws : List Text) : ∀ {n : Nesting}, n.IsValid →
    lowerFrom n [] (Text.unwords ws) = Text.unwords (lowerWords n ws) := by
  induction ws with
  | nil =>
    intro n _
    simp [lowerFrom, lowerWords]
  | cons w ws ih =>
    intro n hn
    by_cases hne : ws = []
    · subst hne
      rfl
    · have hvalid := hn.advance w
      have hlower : lowerWords (n.advance w) ws ≠ [] := by
        obtain ⟨v, vs, rfl⟩ := List.exists_cons_of_ne_nil hne
        simp [lowerWords]
      rw [Text.unwords_cons hne, lowerFrom_append rfl _ _ _ hn, hvalid.step_space, ih hvalid, lowerWords,
        Text.unwords_cons hlower]

/-- `words_lowerFrom` for a text given by its words. -/
theorem lowerOperators_unwords (ws : List Text) :
    lowerOperators (Text.unwords ws) = Text.unwords (lowerWords .start ws) :=
  lowerFrom_unwords ws Nesting.isValid_start

/-- A token set with operator words in lower case. -/
def lowerSet (set : TokenSet) : TokenSet :=
  ⟨lowerOperators set.left, Text.lowerAscii set.operation, lowerOperators set.right⟩

/-- An operator that stands outside of parentheses and quotes. -/
theorem lowerFrom_operation {word : Text} (h : isOperation word = true) :
    lowerFrom .start [] word = Text.lowerAscii word := by
  rw [lowerFrom_word (not_isBoundary_of_isOperation h), List.nil_append, lowerWord, h]
  rfl

/-- By induction on the words: the scanner finds the same token sets. -/
theorem scan_lowerWords (ws : List Text) : ∀ (left operation : Text) (pending : List Text) (started : Bool),
    scan ⟨lowerOperators left, Text.lowerAscii operation, lowerWords .start pending, started,
        pending.foldl Nesting.advance .start⟩ (lowerWords (pending.foldl Nesting.advance .start) ws)
      = (scan ⟨left, operation, pending, started, pending.foldl Nesting.advance .start⟩ ws).map lowerSet := by
  induction ws with
  | nil =>
    intro left operation pending started
    simp only [lowerWords, scan, isBlank_lowerOperators, ← lowerOperators_unwords,
      isEnclosed_congr (lowerAscii_lowerOperators (Text.unwords pending))]
    split
    · rfl
    · split <;> rfl
  | cons word rest ih =>
    intro left operation pending started
    generalize hn : pending.foldl Nesting.advance .start = n
    have hvalid : n.IsValid := hn ▸ Nesting.isValid_start.foldl_advance pending
    have hlower := lowerAscii_lowerFrom word n []
    rw [List.nil_append] at hlower
    have hadvance := hvalid.advance_congr hlower
    have hoperation : isOperation (lowerFrom n [] word) = isOperation word :=
      isOneOf_congr_of_lowerAscii _ hlower
    have hcombinator : isCombinator (lowerFrom n [] word) = isCombinator word :=
      isOneOf_congr_of_lowerAscii _ hlower
    rw [lowerWords, scan, scan]
    simp only [hadvance, hoperation, hcombinator, isBlank_lowerOperators]
    split
    · -- one more word of the side
      have hnext := ih left operation (pending ++ [word]) started
      rw [lowerWords_append, hn] at hnext
      simp only [List.foldl_append, List.foldl_cons, List.foldl_nil, hn] at hnext
      exact hnext
    · rename_i htop
      simp only [Bool.or_eq_true, Bool.not_eq_true', not_or, Bool.not_eq_false] at htop
      obtain ⟨htop, hop⟩ := htop
      have hstay := hvalid.advance_of_not_isBoundary (not_isBoundary_of_isOperation hop)
      rw [hstay] at htop
      obtain rfl := Nesting.eq_start_of_isTop htop
      rw [hstay, lowerFrom_operation hop, ← lowerOperators_unwords, ← lowerOperators_unwords]
      have hleft := ih (Text.unwords pending) word [] true
      have hfresh := ih [] [] [] true
      split
      · split
        · rfl
        · exact hleft
      · split
        · exact congrArg (fun sets => lowerSet ⟨left, operation, Text.unwords pending⟩
            :: lowerSet (TokenSet.marker word) :: sets) hfresh
        · exact congrArg (lowerSet ⟨left, operation, Text.unwords pending⟩ :: ·) hfresh

/-- The text in which operators are looked for. -/
def core (t : Text) : Text :=
  (stripEnclosing? (Text.trim t)).getD (Text.trim t)

/-- The token sets of a text, if it is not taken for a string match. -/
def divide (t : Text) : List TokenSet :=
  scan (.fresh false) (Text.words (core t))

/-- The enclosing parentheses of a text come off before or after `lowerOperators`, with the same result. -/
theorem core_lowerOperators (t : Text) : core (lowerOperators t) = lowerOperators (core t) := by
  unfold core
  rw [trim_lowerOperators, stripEnclosing?_lowerOperators]
  cases stripEnclosing? (Text.trim t) <;> rfl

/-- The token sets are the same up to the case of operators. -/
theorem divide_lowerOperators (t : Text) : divide (lowerOperators t) = (divide t).map lowerSet := by
  unfold divide
  rw [core_lowerOperators, lowerOperators, words_lowerFrom Nesting.isValid_start]
  exact scan_lowerWords (Text.words (core t)) [] [] [] false

theorem trim_core (t : Text) : Text.trim (core t) = core t := by
  unfold core
  cases h : stripEnclosing? (Text.trim t) with
  | none => exact Text.trim_trim t
  | some inside =>
    obtain ⟨inner, -, -, -, rfl⟩ := stripEnclosing?_eq_some_iff.1 h
    exact Text.trim_trim inner

/-- `tokenize` divides a text, unless its `core` is a bare call. -/
theorem tokenize_eq_divide (t : Text) :
    tokenize t = if isImpliedBoolean (core t) then [] else divide t := by
  have htokenize : tokenize t = if (Text.trim t).isEmpty || isImpliedBoolean (core t) then [] else divide t :=
    rfl
  rw [htokenize]
  cases himplied : isImpliedBoolean (core t) with
  | true => simp
  | false =>
    cases hempty : (Text.trim t).isEmpty with
    | false => simp
    | true =>
      have hcore : core t = [] := by
        rw [core, List.isEmpty_iff.1 hempty]
        rfl
      have hdivide : divide t = [] := by
        rw [divide, hcore]
        rfl
      simp [hdivide]

/-- Words that are not `OperatorFree` have an operator among them, outside of quotes and parentheses. -/
theorem exists_operation_of_not_operatorFree {words : List Text} : ∀ {n : Nesting},
    ¬OperatorFree n words → ∃ us word vs, words = us ++ word :: vs ∧
      ((us.foldl Nesting.advance n).advance word).isTop = true ∧ isOperation word = true := by
  induction words with
  | nil => exact fun h => absurd trivial h
  | cons word words ih =>
    intro n h
    by_cases hword : (n.advance word).isTop = true ∧ isOperation word = true
    · exact ⟨[], word, words, rfl, hword⟩
    · have hrest : ¬OperatorFree (n.advance word) words :=
        fun hfree => h ⟨fun htop => Bool.eq_false_iff.2 fun hop => hword ⟨htop, hop⟩, hfree⟩
      obtain ⟨us, other, vs, rfl, htop, hop⟩ := ih hrest
      exact ⟨word :: us, other, vs, rfl, htop, hop⟩

/-- Where there are token sets there is an operator outside of parentheses and quotes. -/
theorem exists_operation_of_divide {t : Text} (h : divide t ≠ []) : ∃ us word vs,
    Text.words (core t) = us ++ word :: vs ∧ us.foldl Nesting.advance .start = .start ∧
      isOperation word = true := by
  have hnot : ¬OperatorFree .start (Text.words (core t)) := fun hfree => h (scan_operand hfree)
  obtain ⟨us, word, vs, hwords, htop, hop⟩ := exists_operation_of_not_operatorFree hnot
  have hvalid := Nesting.isValid_start.foldl_advance us
  rw [hvalid.advance_of_not_isBoundary (not_isBoundary_of_isOperation hop)] at htop
  exact ⟨us, word, vs, hwords, Nesting.eq_start_of_isTop htop, hop⟩

/-- An operator word, lowered, is one of the spellings the parser compares with. -/
theorem isLowerOperation_lowerAscii {word : Text} (h : isOperation word = true) :
    isLowerOperation (Text.lowerAscii word) = true := by
  unfold isOperation isOneOf at h
  obtain ⟨candidate, hmem, heq⟩ := List.any_eq_true.1 h
  have hlower : Text.lowerAscii candidate.toList = Text.lowerAscii word := by
    simpa [Text.eqIgnoreCase] using heq
  have hcandidates : ∀ candidate ∈ operationWords, Text.lowerAscii candidate.toList = candidate.toList := by
    decide
  rw [isLowerOperation, ← hlower, hcandidates candidate hmem, String.ofList_toList]
  simpa using hmem

/-- Lowered words leave the scanner in the state the words leave it in. -/
theorem foldl_advance_lowerWords (ws : List Text) : ∀ {n : Nesting}, n.IsValid →
    (lowerWords n ws).foldl Nesting.advance n = ws.foldl Nesting.advance n := by
  induction ws with
  | nil => exact fun _ => rfl
  | cons w ws ih =>
    intro n hn
    rw [lowerWords, List.foldl_cons, List.foldl_cons, hn.advance_congr (lowerAscii_lowerFrom w n []),
      List.nil_append, ih (hn.advance w)]

/-- A text with an operator in lower case is not taken for a string match. -/
theorem isImpliedBoolean_lowerOperators {t : Text} (h : divide t ≠ []) :
    isImpliedBoolean (core (lowerOperators t)) = false := by
  obtain ⟨us, word, vs, hwords, hclosed, hop⟩ := exists_operation_of_divide h
  have hvalid := Nesting.isValid_start
  have hlower : Text.words (Text.trim (core (lowerOperators t)))
      = lowerWords .start us ++ Text.lowerAscii word :: lowerWords .start vs := by
    have hadvance := hvalid.advance_of_not_isBoundary (not_isBoundary_of_isOperation hop)
    rw [trim_core, core_lowerOperators, lowerOperators, words_lowerFrom hvalid, hwords, lowerWords_append,
      hclosed, lowerWords, lowerFrom_operation hop, hadvance]
  refine isImpliedBoolean_eq_false _ hlower ?_ (isLowerOperation_lowerAscii hop) ?_
  · rw [foldl_advance_lowerWords us hvalid, hclosed]
  · rw [isOperation, isOneOf_congr_of_lowerAscii _ (Text.lowerAscii_lowerAscii word)]
    exact hop

end Filter
end RecordFilter
