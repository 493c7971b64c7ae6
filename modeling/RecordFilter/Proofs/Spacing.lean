import RecordFilter.Proofs.Words

/-!
# Runs of spaces

Taking a text apart at its spaces and putting the words together again with single spaces does two things: it
trims the text, and it makes one space of every run of spaces (`Text.squeeze`). Nothing else changes inside of a
text (`trim_unwords_words`). Only texts with a run of spaces are changed by squeezing (`squeeze_eq_self_iff`).
-/

namespace RecordFilter
namespace Text

/-! ## Squeezing -/

/-- The text with a single space for every run of spaces. -/
def squeeze : Text → Text
  | [] => []
  | c :: t => if c = ' ' ∧ t.head? = some ' ' then squeeze t else c :: squeeze t

@[simp] theorem squeeze_nil : squeeze [] = [] := rfl

theorem squeeze_cons (c : Char) (t : Text) :
    squeeze (c :: t) = if c = ' ' ∧ t.head? = some ' ' then squeeze t else c :: squeeze t :=
  rfl

@[simp] theorem head?_squeeze (t : Text) : (squeeze t).head? = t.head? := by
  induction t with
  | nil => rfl
  | cons c t ih =>
    rw [squeeze]
    split
    · rename_i h
      rw [ih, h.2, h.1]
      rfl
    · rfl

/-- Squeezing leaves a character of each run. -/
theorem squeeze_eq_nil_iff {t : Text} : squeeze t = [] ↔ t = [] := by
  rw [← List.head?_eq_none_iff, head?_squeeze, List.head?_eq_none_iff]

theorem squeeze_cons_of_ne {c : Char} (h : c ≠ ' ') (t : Text) :
    squeeze (c :: t) = c :: squeeze t := by
  rw [squeeze, if_neg (by simp [h])]

/-- Two texts are squeezed one by one unless a run of spaces goes over from one to the other. -/
theorem squeeze_append {a b : Text} (h : ¬(a.getLast? = some ' ' ∧ b.head? = some ' ')) :
    squeeze (a ++ b) = squeeze a ++ squeeze b := by
  induction a with
  | nil => rfl
  | cons c a ih =>
    cases a with
    | nil =>
      have hb : ¬(c = ' ' ∧ b.head? = some ' ') := by simpa using h
      simp [squeeze, hb]
    | cons d a =>
      have ih' := ih (by simpa using h)
      rw [List.cons_append, squeeze_cons c (d :: a ++ b), squeeze_cons c (d :: a), ih']
      by_cases hspaces : c = ' ' ∧ d = ' '
      · rw [if_pos (by simp [hspaces]), if_pos (by simp [hspaces])]
      · rw [if_neg (by simpa using hspaces), if_neg (by simpa using hspaces)]
        rfl

/-- Neither text reaches the space between them. -/
theorem squeeze_append_space_cons {a b : Text} (ha : a.getLast? ≠ some ' ') (hb : b.head? ≠ some ' ') :
    squeeze (a ++ ' ' :: b) = squeeze a ++ ' ' :: squeeze b := by
  rw [squeeze_append (by simp [ha]), squeeze_cons, if_neg (by simp [hb])]

theorem squeeze_append_space {t : Text} (h : t.getLast? = some ' ') :
    squeeze (t ++ [' ']) = squeeze t := by
  induction t with
  | nil => simp at h
  | cons c t ih =>
    cases t with
    | nil =>
      have hc : c = ' ' := by simpa using h
      subst hc
      rfl
    | cons d t =>
      have ih' := ih (by simpa using h)
      rw [List.cons_append, squeeze_cons c (d :: t ++ [' ']), squeeze_cons c (d :: t), ih']
      rfl

/-- Squeezing does not depend on the direction. -/
theorem squeeze_reverse (t : Text) : squeeze t.reverse = (squeeze t).reverse := by
  induction t with
  | nil => rfl
  | cons c t ih =>
    rw [List.reverse_cons, squeeze]
    split
    · rename_i h
      rw [h.1, squeeze_append_space (by rw [List.getLast?_reverse, h.2]), ih]
    · rename_i h
      rw [squeeze_append (by simpa [and_comm] using h), ih]
      simp [squeeze]

@[simp] theorem getLast?_squeeze (t : Text) : (squeeze t).getLast? = t.getLast? := by
  have h := head?_squeeze t.reverse
  rw [squeeze_reverse] at h
  simpa using h

/-- The characters stay. -/
theorem mem_squeeze_iff {t : Text} {c : Char} : c ∈ squeeze t ↔ c ∈ t := by
  induction t with
  | nil => rfl
  | cons d t ih =>
    rw [squeeze_cons]
    split
    · rename_i h
      rw [ih, List.mem_cons]
      refine ⟨.inr, fun hc => hc.elim (fun hc => ?_) id⟩
      rw [hc, h.1]
      exact List.mem_of_head? h.2
    · rw [List.mem_cons, List.mem_cons, ih]

theorem mem_squeeze {t : Text} {c : Char} (h : c ∈ squeeze t) : c ∈ t :=
  mem_squeeze_iff.1 h

theorem squeeze_eq_self {t : Text} (h : ' ' ∉ t) : squeeze t = t := by
  induction t with
  | nil => rfl
  | cons c t ih =>
    simp only [List.mem_cons, not_or] at h
    rw [squeeze_cons_of_ne (fun hc => h.1 hc.symm), ih h.2]

/-- A text without adjacent spaces has nothing to squeeze. -/
theorem squeeze_eq_self_of_no_run {t : Text} (h : ¬[' ', ' '] <:+: t) : squeeze t = t := by
  induction t with
  | nil => rfl
  | cons c t ih =>
    rw [squeeze_cons, if_neg, ih fun hrun => h (hrun.trans (List.suffix_cons c t).isInfix)]
    rintro ⟨rfl, hhead⟩
    obtain ⟨rest, rfl⟩ := List.head?_eq_some_iff.1 hhead
    exact h (List.prefix_append [' ', ' '] rest).isInfix

/-- There is no run of spaces left. -/
theorem no_run_squeeze (t : Text) : ¬[' ', ' '] <:+: squeeze t := by
  induction t with
  | nil => simp
  | cons c t ih =>
    rw [squeeze]
    split
    · exact ih
    · rename_i h
      rw [List.infix_cons_iff]
      rintro (hstart | hinfix)
      · obtain ⟨rest, hrest⟩ := hstart
        simp only [List.cons_append, List.nil_append, List.cons.injEq] at hrest
        refine h ⟨hrest.1.symm, ?_⟩
        rw [← head?_squeeze, ← hrest.2]
        rfl
      · exact ih hinfix

theorem squeeze_eq_self_iff {t : Text} : squeeze t = t ↔ ¬[' ', ' '] <:+: t :=
  ⟨fun h => h ▸ no_run_squeeze t, squeeze_eq_self_of_no_run⟩

/-- Squeezed pieces in a list stay as they are. -/
theorem squeeze_join {c : Char} (hc : c ≠ ' ') {pieces : List Text}
    (h : ∀ piece ∈ pieces, IsTrimmed piece ∧ squeeze piece = piece) :
    squeeze (join [c, ' '] pieces) = join [c, ' '] pieces := by
  induction pieces with
  | nil => rfl
  | cons piece pieces ih =>
    have hpiece := (h piece List.mem_cons_self).2
    cases pieces with
    | nil => exact hpiece
    | cons next pieces =>
      have hpieces := fun other hother => h other (List.mem_cons_of_mem piece hother)
      have htrimmed := isTrimmed_join [c, ' '] (List.cons_ne_nil next pieces) fun other hother =>
        (hpieces other hother).1
      have hmark : squeeze (piece ++ [c]) = piece ++ [c] := by
        rw [squeeze_append (by simp [hc]), hpiece, squeeze_cons_of_ne hc, squeeze_nil]
      have hjoin : join [c, ' '] (piece :: next :: pieces)
          = (piece ++ [c]) ++ ' ' :: join [c, ' '] (next :: pieces) := by
        simp [join]
      rw [hjoin, squeeze_append_space_cons (by simp [hc]) htrimmed.head?_ne, hmark, ih hpieces]

@[simp] theorem squeeze_squeeze (t : Text) : squeeze (squeeze t) = squeeze t := by
  induction t with
  | nil => rfl
  | cons c t ih =>
    rw [squeeze]
    split
    · exact ih
    · rename_i h
      rw [squeeze, head?_squeeze, if_neg h, ih]

/-- Characters other than spaces stay, in the same order. -/
theorem filter_squeeze {p : Char → Bool} (hp : p ' ' = false) (t : Text) :
    (squeeze t).filter p = t.filter p := by
  induction t with
  | nil => rfl
  | cons c t ih =>
    rw [squeeze]
    split
    · rename_i h
      rw [h.1, ih]
      simp [hp]
    · simp [List.filter_cons, ih]

/-- Blanks in front are trimmed before or after squeezing. -/
theorem trimStart_squeeze (t : Text) : trimStart (squeeze t) = squeeze (trimStart t) := by
  unfold trimStart
  induction t with
  | nil => rfl
  | cons c t ih =>
    by_cases hc : isBlankChar c = true
    · rw [List.dropWhile_cons_of_pos hc, squeeze]
      split
      · exact ih
      · rw [List.dropWhile_cons_of_pos hc, ih]
    · have hspace : c ≠ ' ' := by
        rintro rfl
        exact hc (by decide)
      rw [List.dropWhile_cons_of_neg hc, squeeze_cons_of_ne hspace, List.dropWhile_cons_of_neg hc]

/-- Blanks behind are trimmed before or after squeezing. -/
theorem trimEnd_squeeze (t : Text) : trimEnd (squeeze t) = squeeze (trimEnd t) := by
  have h := trimStart_squeeze t.reverse
  unfold trimStart at h
  unfold trimEnd
  rw [squeeze_reverse] at h
  rw [h, squeeze_reverse]

/-- It does not matter if a text is trimmed or squeezed first. -/
theorem trim_squeeze (t : Text) : trim (squeeze t) = squeeze (trim t) := by
  rw [trim, trimStart_squeeze, trimEnd_squeeze, trim]

@[simp] theorem isBlank_squeeze (t : Text) : isBlank (squeeze t) = isBlank t := by
  rw [Bool.eq_iff_iff, isBlank_iff_trim, isBlank_iff_trim, trim_squeeze, squeeze_eq_nil_iff]

@[simp] theorem isBlank_trim (t : Text) : isBlank (trim t) = isBlank t :=
  isBlank_congr (trim_trim t)

theorem squeeze_first {a b : Text} (ha : ' ' ∉ a) :
    squeeze (a ++ ' ' :: b) = a ++ squeeze (' ' :: b) := by
  have hlast : a.getLast? ≠ some ' ' := fun h => ha (List.mem_of_getLast? h)
  rw [squeeze_append (fun h => hlast h.1), squeeze_eq_self ha]

/-- Squeezing does not change the words. -/
theorem words_squeeze (t : Text) : words (squeeze t) = words t := by
  rcases exists_first_space t with ht | ⟨a, b, rfl, ha⟩
  · rw [squeeze_eq_self ht]
  · by_cases hne : a = []
    · subst hne
      have ih := words_squeeze b
      rw [List.nil_append, words_space_cons, ← ih, squeeze]
      split
      · rfl
      · exact words_space_cons _
    · have ih := words_squeeze b
      have hb : words (squeeze (' ' :: b)) = words b := by
        rw [squeeze]
        split
        · exact ih
        · rw [words_space_cons, ih]
      rw [squeeze_first ha, words_first ha, if_neg hne]
      obtain ⟨s, hs⟩ : ∃ s, squeeze (' ' :: b) = ' ' :: s := by
        have hhead := head?_squeeze (' ' :: b)
        exact List.head?_eq_some_iff.1 hhead
      rw [hs, words_space_cons] at hb
      rw [hs, words_first ha, if_neg hne, hb]
termination_by t.length

/-- Only a text of spaces has no words. -/
theorem eq_space_of_words_eq_nil {t : Text} (h : words t = []) : ∀ c ∈ t, c = ' ' := by
  rcases exists_first_space t with ht | ⟨a, b, rfl, ha⟩
  · by_cases hne : t = []
    · simp [hne]
    · rw [words_eq_singleton hne ht] at h
      cases h
  · rw [words_first ha] at h
    split at h
    · rename_i hnil
      intro c hc
      rw [hnil, List.nil_append] at hc
      rcases List.mem_cons.1 hc with rfl | hc
      · rfl
      · exact eq_space_of_words_eq_nil h c hc
    · cases h
termination_by t.length

theorem words_ne_nil {t : Text} (hne : t ≠ []) (hlast : t.getLast? ≠ some ' ') : words t ≠ [] := by
  intro h
  obtain ⟨c, hc⟩ := (⟨_, List.getLast?_eq_some_getLast hne⟩ : ∃ c, t.getLast? = some c)
  rw [eq_space_of_words_eq_nil h c (List.mem_of_getLast? hc)] at hc
  exact hlast hc

/-- What follows a run of spaces keeps one of them. -/
theorem squeeze_space_cons {b : Text} (hne : b ≠ []) (hlast : b.getLast? ≠ some ' ') :
    squeeze (' ' :: b) = ' ' :: unwords (words b) := by
  rcases exists_first_space b with hb | ⟨a, b', rfl, ha⟩
  · rw [words_eq_singleton hne hb, unwords_singleton, squeeze_cons, squeeze_eq_self hb, if_neg]
    rintro ⟨-, hhead⟩
    exact hb (List.mem_of_head? hhead)
  · have hlast' : b'.getLast? ≠ some ' ' ∧ b' ≠ [] := by
      cases b' with
      | nil => simp at hlast
      | cons c b' => simpa using hlast
    have ih := squeeze_space_cons hlast'.2 hlast'.1
    rw [words_first ha]
    split
    · rename_i hnil
      subst hnil
      rw [List.nil_append, squeeze_cons, if_pos ⟨rfl, rfl⟩, ih]
    · rename_i ha'
      have hhead : ¬(a ++ ' ' :: b').head? = some ' ' := by
        obtain ⟨c, a, rfl⟩ := List.exists_cons_of_ne_nil ha'
        simpa using fun hc : c = ' ' => ha (by simp [hc])
      rw [squeeze_cons, if_neg (fun h => hhead h.2), squeeze_first ha, ih,
        unwords_cons (words_ne_nil hlast'.2 hlast'.1)]
termination_by b.length

/-- The words of a text that neither begins nor ends with a space, put together again, are the
squeezed text. -/
theorem unwords_words {t : Text} (hhead : t.head? ≠ some ' ') (hlast : t.getLast? ≠ some ' ') :
    unwords (words t) = squeeze t := by
  by_cases hne : t = []
  · subst hne
    rfl
  · have h := squeeze_space_cons hne hlast
    rw [squeeze_cons, if_neg fun h => hhead h.2] at h
    simpa using h.symm

/-- The words of a text, put together again, are the squeezed text with fewer blanks around it. -/
theorem trim_unwords_words (t : Text) : trim (unwords (words t)) = squeeze (trim t) := by
  by_cases hhead : t.head? = some ' '
  · obtain ⟨u, rfl⟩ := List.head?_eq_some_iff.1 hhead
    rw [words_space_cons, trim_space_cons]
    exact trim_unwords_words u
  · by_cases hlast : t.getLast? = some ' '
    · obtain ⟨u, rfl⟩ := List.getLast?_eq_some_iff.1 hlast
      have htrim : trim (u ++ [' ']) = trim u := trim_of_blanks (a := []) (by simp) (by decide) u
      rw [words_append_space u [], words_nil, List.append_nil, htrim]
      exact trim_unwords_words u
    · rw [unwords_words hhead hlast, trim_squeeze]
termination_by t.length
decreasing_by
  · simp_all
  · simp_all

end Text
end RecordFilter
