import RecordFilter.Proofs.Trimming

/-!
# Words

The scanner takes a text apart at its spaces and puts words together again with single spaces. Pieces that are
joined are found again when the text is cut where they were joined (`split_join`), and a text can be cut behind
each of its words (`exists_cut_of_words`). A word that is seen in rejoined words is in one of them
(`IsWord.exists_of_unwords`), so rejoining makes up no words.
-/

namespace RecordFilter
namespace Text

/-! ## Pieces -/

/-- There is always a piece, and be it empty. -/
theorem splitWhere_ne_nil (cut : Char → Bool) (t : Text) : splitWhere cut t ≠ [] := by
  intro h
  have := wordsWidth_splitWhere cut t
  simp [h] at this

/-- A cut divides the pieces, too. -/
theorem splitWhere_append {cut : Char → Bool} {c : Char} (hc : cut c = true) (a b : Text) :
    splitWhere cut (a ++ c :: b) = splitWhere cut a ++ splitWhere cut b := by
  induction a with
  | nil => simp [splitWhere, hc]
  | cons d a ih =>
    simp only [List.cons_append, splitWhere, ih]
    split
    · rfl
    · obtain ⟨piece, pieces, hpieces⟩ := List.exists_cons_of_ne_nil (splitWhere_ne_nil cut a)
      simp [hpieces]

/-- What is not a place to cut is in one of the pieces. -/
theorem exists_piece_of_mem (cut : Char → Bool) {t : Text} {c : Char} (hc : c ∈ t)
    (hcut : cut c = false) : ∃ piece ∈ splitWhere cut t, c ∈ piece := by
  induction t with
  | nil => cases hc
  | cons d t ih =>
    rw [splitWhere]
    split
    · rename_i hd
      rcases List.mem_cons.1 hc with rfl | hc
      · rw [hcut] at hd
        cases hd
      · obtain ⟨piece, hpiece, hmem⟩ := ih hc
        exact ⟨piece, List.mem_cons_of_mem _ hpiece, hmem⟩
    · split
      · rename_i hnil
        rcases List.mem_cons.1 hc with rfl | hc
        · exact ⟨_, List.mem_cons_self, List.mem_cons_self⟩
        · obtain ⟨piece, hpiece, -⟩ := ih hc
          rw [hnil] at hpiece
          cases hpiece
      · rename_i first pieces hcons
        rcases List.mem_cons.1 hc with rfl | hc
        · exact ⟨_, List.mem_cons_self, List.mem_cons_self⟩
        · obtain ⟨piece, hpiece, hmem⟩ := ih hc
          rw [hcons] at hpiece
          rcases List.mem_cons.1 hpiece with rfl | hpiece
          · exact ⟨_, List.mem_cons_self, List.mem_cons_of_mem d hmem⟩
          · exact ⟨piece, List.mem_cons_of_mem _ hpiece, hmem⟩

/-- Pieces without a cut inside. -/
theorem splitWhere_eq_singleton {cut : Char → Bool} {t : Text} (h : ∀ c ∈ t, cut c = false) :
    splitWhere cut t = [t] := by
  induction t with
  | nil => rfl
  | cons c t ih =>
    have hc := h c List.mem_cons_self
    have ht := ih fun d hd => h d (List.mem_cons_of_mem c hd)
    simp [splitWhere, hc, ht]

/-- What follows behind a text without a place to cut goes to its last piece. -/
theorem exists_splitWhere_append (cut : Char → Bool) {b : Text} (hb : ∀ c ∈ b, cut c = false)
    (t : Text) : ∃ pieces last, splitWhere cut t = pieces ++ [last] ∧
      splitWhere cut (t ++ b) = pieces ++ [last ++ b] := by
  induction t with
  | nil => exact ⟨[], [], rfl, splitWhere_eq_singleton hb⟩
  | cons c t ih =>
    obtain ⟨pieces, last, ht, htb⟩ := ih
    rw [List.cons_append, splitWhere, splitWhere, ht, htb]
    split
    · exact ⟨[] :: pieces, last, rfl, rfl⟩
    · cases pieces with
      | nil => exact ⟨[], c :: last, rfl, rfl⟩
      | cons first others => exact ⟨(c :: first) :: others, last, rfl, rfl⟩

/-- Blanks around a text are blanks around its outer pieces. -/
theorem map_trim_splitWhere_trim {cut : Char → Bool} (hcut : ∀ c, isBlankChar c = true → cut c = false)
    (t : Text) : (splitWhere cut (trim t)).map trim = (splitWhere cut t).map trim := by
  have hfront : ∀ a : Text, (∀ c ∈ a, isBlankChar c = true) → ∀ t,
      (splitWhere cut (a ++ t)).map trim = (splitWhere cut t).map trim := by
    intro a ha t
    induction a with
    | nil => rfl
    | cons c a ih =>
      obtain ⟨hc, ha⟩ := List.forall_mem_cons.1 ha
      obtain ⟨piece, pieces, hpieces⟩ := List.exists_cons_of_ne_nil (splitWhere_ne_nil cut (a ++ t))
      have hpiece : trim (c :: piece) = trim piece := by
        have := trim_of_blanks (a := [c]) (b := []) (by simpa using hc) (by simp) piece
        rwa [List.append_nil, List.singleton_append] at this
      rw [← ih ha, List.cons_append, splitWhere, if_neg (by simp [hcut c hc]), hpieces, List.map_cons,
        List.map_cons, hpiece]
  have hback : ∀ b : Text, (∀ c ∈ b, isBlankChar c = true) → ∀ t,
      (splitWhere cut (t ++ b)).map trim = (splitWhere cut t).map trim := by
    intro b hb t
    obtain ⟨pieces, last, ht, htb⟩ := exists_splitWhere_append cut (fun c hc => hcut c (hb c hc)) t
    have hlast : trim (last ++ b) = trim last := by
      have := trim_of_blanks (a := []) (b := b) (by simp) hb last
      rwa [List.nil_append] at this
    rw [ht, htb, List.map_append, List.map_append, List.map_singleton, List.map_singleton, hlast]
  obtain ⟨a, b, ht, ha, hb⟩ := exists_trim t
  have hall := (hback b hb (a ++ trim t)).trans (hfront a ha (trim t))
  rw [← ht] at hall
  exact hall.symm

theorem join_eq_intercalate (separator : Text) (pieces : List Text) :
    join separator pieces = separator.intercalate pieces := by
  induction pieces with
  | nil => rfl
  | cons piece pieces ih =>
    cases pieces with
    | nil => simp [join]
    | cons next pieces => rw [join, ih, List.intercalate_cons_cons]

/-- A character of joined pieces is in one of them or in the separator. -/
theorem mem_join {separator : Text} {pieces : List Text} {c : Char} (h : c ∈ join separator pieces) :
    c ∈ separator ∨ ∃ piece ∈ pieces, c ∈ piece := by
  induction pieces with
  | nil => cases h
  | cons piece pieces ih =>
    cases pieces with
    | nil => exact .inr ⟨piece, List.mem_cons_self, h⟩
    | cons next pieces =>
      simp only [join, List.mem_append] at h
      rcases h with (h | h) | h
      · exact .inr ⟨piece, List.mem_cons_self, h⟩
      · exact .inl h
      · rcases ih h with h | ⟨other, hother, hmem⟩
        · exact .inl h
        · exact .inr ⟨other, List.mem_cons_of_mem piece hother, hmem⟩

/-- Trimmed pieces make a trimmed text. -/
theorem isTrimmed_join (separator : Text) {pieces : List Text} (hne : pieces ≠ [])
    (h : ∀ piece ∈ pieces, IsTrimmed piece) : IsTrimmed (join separator pieces) := by
  induction pieces with
  | nil => exact absurd rfl hne
  | cons piece pieces ih =>
    cases pieces with
    | nil => exact h piece List.mem_cons_self
    | cons next pieces =>
      have hrest := ih (by simp) fun other hother => h other (List.mem_cons_of_mem piece hother)
      exact (h piece List.mem_cons_self).append separator hrest

/-- Joined pieces are cut apart where they were joined. What the separator has behind the cut stays in
front of the pieces. -/
theorem splitWhere_join (cut : Char → Bool) (c : Char) (gap : Text) {piece : Text}
    {pieces : List Text} (hc : cut c = true) (hgap : ∀ d ∈ gap, cut d = false)
    (h : ∀ other ∈ piece :: pieces, ∀ d ∈ other, cut d = false) :
    splitWhere cut (join (c :: gap) (piece :: pieces)) = piece :: pieces.map (gap ++ ·) := by
  have hfirst := splitWhere_eq_singleton (h piece List.mem_cons_self)
  induction pieces generalizing piece with
  | nil => exact hfirst
  | cons next pieces ih =>
    -- the gap counts as the beginning of the next piece
    have hnext : gap ++ join (c :: gap) (next :: pieces)
        = join (c :: gap) ((gap ++ next) :: pieces) := by
      simp only [join_eq_intercalate]
      cases pieces <;> simp
    have hpieces : ∀ other ∈ (gap ++ next) :: pieces, ∀ d ∈ other, cut d = false := by
      intro other hother d hd
      rcases List.mem_cons.1 hother with rfl | hother
      · rcases List.mem_append.1 hd with hd | hd
        · exact hgap d hd
        · exact h next (by simp) d hd
      · exact h other (by simp [hother]) d hd
    rw [join, List.append_assoc, List.cons_append, splitWhere_append hc, hfirst, hnext,
      ih hpieces (splitWhere_eq_singleton (hpieces _ List.mem_cons_self))]
    rfl

/-- Pieces without the separator are the pieces of the text that joins them. -/
theorem split_join {separator : Char} {piece : Text} {pieces : List Text}
    (h : ∀ other ∈ piece :: pieces, separator ∉ other) :
    split separator (join [separator] (piece :: pieces)) = piece :: pieces := by
  have hcut := splitWhere_join (· == separator) separator [] (by simp)
    (by simp) fun other hother d hd => by simpa using fun heq : d = separator => h other hother (heq ▸ hd)
  simpa [split] using hcut

/-- A prefix of a text with one more character is the whole, or a prefix of the text. -/
theorem prefix_concat {t u v : Text} {c : Char} (h : t ++ [c] = u ++ v) :
    (u = t ++ [c] ∧ v = []) ∨ ∃ w, t = u ++ w ∧ v = w ++ [c] := by
  rcases List.append_eq_append_iff.1 h with ⟨w, hu, hw⟩ | ⟨w, ht, hv⟩
  · rcases List.append_eq_singleton_iff.1 hw.symm with ⟨rfl, rfl⟩ | ⟨rfl, rfl⟩
    · exact .inr ⟨[], by simpa using hu.symm, rfl⟩
    · exact .inl ⟨hu, rfl⟩
  · exact .inr ⟨w, ht, hv⟩

/-- Pieces that are joined first are in front. -/
theorem isPrefix_join_append (separator : Text) (before after : List Text) :
    join separator before <+: join separator (before ++ after) := by
  induction before with
  | nil => exact List.nil_prefix
  | cons first before ih =>
    cases before with
    | nil =>
      cases after with
      | nil => exact List.prefix_refl _
      | cons next others =>
        rw [List.singleton_append, join, join, List.append_assoc]
        exact List.prefix_append _ _
    | cons next others => exact (List.prefix_append_right_inj _).2 ih

/-- Every joined piece is in the text. -/
theorem isInfix_join {separator piece : Text} {pieces : List Text} (h : piece ∈ pieces) :
    piece <:+: join separator pieces := by
  induction pieces with
  | nil => cases h
  | cons first pieces ih =>
    cases pieces with
    | nil =>
      rw [List.mem_singleton.1 h]
      exact List.infix_refl first
    | cons next others =>
      rw [join, List.append_assoc]
      rcases List.mem_cons.1 h with rfl | h
      · exact List.infix_append_left
      · exact (ih h).trans ((List.infix_append_right).trans List.infix_append_right)

/-! ## Words -/

@[simp] theorem words_nil : words [] = [] := rfl

/-- The words of two texts with a space in between. -/
theorem words_append_space (a b : Text) : words (a ++ ' ' :: b) = words a ++ words b := by
  unfold words split
  rw [splitWhere_append (by rfl), List.filter_append]

@[simp] theorem words_space_cons (t : Text) : words (' ' :: t) = words t :=
  words_append_space [] t

/-- A text without spaces is a word. -/
theorem words_eq_singleton {w : Text} (hne : w ≠ []) (h : ' ' ∉ w) : words w = [w] := by
  have hcut : ∀ c ∈ w, (c == ' ') = false := by
    intro c hc
    simpa using fun heq : c = ' ' => h (heq ▸ hc)
  unfold words split
  rw [splitWhere_eq_singleton hcut]
  simp [hne]

/-- Every text is one without spaces, or has a first space. -/
theorem exists_first_space (t : Text) :
    ' ' ∉ t ∨ ∃ a b, t = a ++ ' ' :: b ∧ ' ' ∉ a := by
  induction t with
  | nil => exact .inl (by simp)
  | cons c t ih =>
    by_cases hc : c = ' '
    · exact .inr ⟨[], t, by rw [hc]; rfl, by simp⟩
    · have hc' : ¬(' ' = c) := fun h => hc h.symm
      rcases ih with ih | ⟨a, b, rfl, ha⟩
      · exact .inl (by simp [hc', ih])
      · exact .inr ⟨c :: a, b, rfl, by simp [hc', ha]⟩

/-- Text that can be a word. -/
def IsWord (w : Text) : Prop :=
  w ≠ [] ∧ ' ' ∉ w

/-- The words of the text before the first space, and then the words of the rest. -/
theorem words_first {a : Text} (ha : ' ' ∉ a) (b : Text) :
    words (a ++ ' ' :: b) = if a = [] then words b else a :: words b := by
  rw [words_append_space]
  split
  · rename_i h
    rw [h]
    rfl
  · rename_i h
    rw [words_eq_singleton h ha]
    rfl

/-- A text that does not begin with a space begins like its first word. -/
theorem head?_of_words {t first : Text} {others : List Text} (h : words t = first :: others)
    (hhead : t.head? ≠ some ' ') : t.head? = first.head? := by
  rcases exists_first_space t with ht | ⟨a, b, rfl, ha⟩
  · by_cases hne : t = []
    · subst hne
      cases h
    · rw [words_eq_singleton hne ht] at h
      cases h
      rfl
  · cases a with
    | nil => exact absurd rfl hhead
    | cons c a =>
      rw [words_first ha, if_neg (by simp)] at h
      cases h
      rfl

/-- `words` gives words. -/
theorem isWord_of_mem_words {t w : Text} (h : w ∈ words t) : IsWord w := by
  rcases exists_first_space t with ht | ⟨a, b, rfl, ha⟩
  · by_cases hne : t = []
    · subst hne
      cases h
    · rw [words_eq_singleton hne ht, List.mem_singleton] at h
      rw [h]
      exact ⟨hne, ht⟩
  · rw [words_first ha] at h
    split at h
    · exact isWord_of_mem_words h
    · rcases List.mem_cons.1 h with rfl | h
      · exact ⟨‹_›, ha⟩
      · exact isWord_of_mem_words h
termination_by t.length

@[simp] theorem unwords_nil : unwords [] = [] := rfl

@[simp] theorem unwords_singleton (w : Text) : unwords [w] = w := rfl

theorem unwords_cons {w : Text} {ws : List Text} (h : ws ≠ []) :
    unwords (w :: ws) = w ++ ' ' :: unwords ws := by
  obtain ⟨v, vs, rfl⟩ := List.exists_cons_of_ne_nil h
  simp [unwords, join]

/-- Single spaces are blank, so only the words count. -/
theorem isBlank_unwords (ws : List Text) : isBlank (unwords ws) = ws.all isBlank := by
  induction ws with
  | nil => rfl
  | cons w ws ih =>
    by_cases hne : ws = []
    · simp [hne]
    · have hspace : isBlank (' ' :: unwords ws) = isBlank (unwords ws) := rfl
      rw [unwords_cons hne, isBlank_append, hspace, ih, List.all_cons]

/-- A text can be cut behind each of its words. -/
theorem exists_cut_of_words {t : Text} {us vs : List Text} {w : Text} (h : words t = us ++ w :: vs) :
    ∃ u v, t = u ++ v ∧ words u = us ++ [w] ∧ w <:+ u ∧ words v = vs ∧
      (v = [] ∨ v.head? = some ' ') := by
  rcases exists_first_space t with ht | ⟨a, b, rfl, ha⟩
  · -- without spaces there is only one word
    by_cases hne : t = []
    · subst hne
      simp at h
    · rw [words_eq_singleton hne ht] at h
      have hlen := congrArg List.length h
      simp only [List.length_append, List.length_cons, List.length_nil] at hlen
      have hus : us = [] := List.length_eq_zero_iff.1 (by omega)
      have hvs : vs = [] := List.length_eq_zero_iff.1 (by omega)
      subst hus hvs
      simp only [List.nil_append, List.cons.injEq, and_true] at h
      subst h
      exact ⟨t, [], by simp, words_eq_singleton hne ht, List.suffix_rfl, rfl, .inl rfl⟩
  · rw [words_first ha] at h
    split at h
    · -- a space in front separates nothing
      rename_i hnil
      obtain ⟨u, v, rfl, hu, hw, hv, hspace⟩ := exists_cut_of_words h
      refine ⟨a ++ ' ' :: u, v, by simp, ?_, ?_, hv, hspace⟩
      · rw [words_first ha, if_pos hnil, hu]
      · exact hw.trans ((List.suffix_cons _ _).trans (List.suffix_append _ _))
    · rename_i hne
      cases us with
      | nil =>
        simp only [List.nil_append, List.cons.injEq] at h
        obtain ⟨rfl, rfl⟩ := h
        exact ⟨a, ' ' :: b, rfl, words_eq_singleton hne ha, List.suffix_rfl, by simp, .inr rfl⟩
      | cons first us =>
        simp only [List.cons_append, List.cons.injEq] at h
        obtain ⟨rfl, h⟩ := h
        obtain ⟨u, v, rfl, hu, hw, hv, hspace⟩ := exists_cut_of_words h
        refine ⟨a ++ ' ' :: u, v, by simp, ?_, ?_, hv, hspace⟩
        · rw [words_first ha, if_neg hne, hu]
          rfl
        · exact hw.trans ((List.suffix_cons _ _).trans (List.suffix_append _ _))
termination_by t.length

/-- What is no space is in one of the words. -/
theorem exists_word_of_mem {t : Text} {c : Char} (hc : c ∈ t) (hspace : c ≠ ' ') :
    ∃ w ∈ words t, c ∈ w := by
  obtain ⟨piece, hpiece, hmem⟩ := exists_piece_of_mem (· == ' ') hc (by simpa using hspace)
  exact ⟨piece, List.mem_filter.2 ⟨hpiece, by simpa using List.ne_nil_of_mem hmem⟩, hmem⟩

/-- Every word is in the text as it stands. -/
theorem isInfix_of_mem_words {t piece : Text} (h : piece ∈ words t) : piece <:+: t := by
  obtain ⟨us, vs, hwords⟩ := List.append_of_mem h
  obtain ⟨u, v, rfl, -, hsuffix, -⟩ := exists_cut_of_words hwords
  exact hsuffix.isInfix.trans List.infix_append_left

theorem mem_of_mem_words {t w : Text} {c : Char} (hw : w ∈ words t) (hc : c ∈ w) : c ∈ t :=
  (isInfix_of_mem_words hw).subset hc

/-! ## Words inside of words -/

/-- A word is on one side of a space. -/
theorem IsWord.isInfix_of_space {w a b : Text} (hw : IsWord w) (h : w <:+: a ++ ' ' :: b) :
    w <:+: a ∨ w <:+: b := by
  have hstart : ∀ {c : Text}, c <+: ' ' :: b → c <:+: w → c = [] := by
    intro c hc hcw
    cases c with
    | nil => rfl
    | cons d c =>
      obtain ⟨rfl, -⟩ := List.cons_prefix_cons.1 hc
      exact absurd (hcw.subset List.mem_cons_self) hw.2
  rcases List.infix_append_iff.1 h with h | h | ⟨first, last, rfl, hfirst, hlast⟩
  · exact .inl h
  · rcases List.infix_cons_iff.1 h with h | h
    · exact absurd (hstart h (List.infix_refl w)) hw.1
    · exact .inr h
  · rw [hstart hlast (List.infix_append_right), List.append_nil]
    exact .inl hfirst.isInfix

/-- A word of rejoined words is in one of them. -/
theorem IsWord.exists_of_unwords {w : Text} (hw : IsWord w) {pieces : List Text} (h : w <:+: unwords pieces) :
    ∃ piece ∈ pieces, w <:+: piece := by
  induction pieces with
  | nil => exact absurd (List.infix_nil.1 h) hw.1
  | cons piece pieces ih =>
    by_cases hnil : pieces = []
    · subst hnil
      exact ⟨piece, List.mem_singleton_self piece, h⟩
    · rw [unwords_cons hnil] at h
      rcases hw.isInfix_of_space h with h | h
      · exact ⟨piece, List.mem_cons_self, h⟩
      · obtain ⟨other, hother, h⟩ := ih h
        exact ⟨other, List.mem_cons_of_mem piece hother, h⟩

end Text
end RecordFilter
