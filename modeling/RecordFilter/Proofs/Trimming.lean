import RecordFilter.Text.Basic

/-!
# Blanks and case

Trimming takes away the blanks around a text and nothing else (`exists_trim`). A text that begins and ends with
something other than a blank, as operands and arguments do, is its own trimmed form, whatever stands inside of it
(`IsTrimmed`). The case of the letters A to Z does not matter for words of the language.
-/

namespace RecordFilter
namespace Text

/-! ## Statements about characters -/

/-- A statement about all characters of a text is decided on the text, and not on all characters that
there are. -/
instance (priority := high) decidableForallMem (t : Text) (p : Char → Prop) [DecidablePred p] :
    Decidable (∀ c ∈ t, p c) :=
  List.decidableBAll p t

instance (priority := high) decidableForallSome (o : Option Char) (p : Char → Prop) [DecidablePred p] :
    Decidable (∀ c, o = some c → p c) :=
  match o with
  | none => isTrue nofun
  | some c => decidable_of_iff (p c) ⟨fun h _ heq => Option.some.inj heq ▸ h, fun h => h c rfl⟩

theorem isBlankChar_of_visible {c : Char} (h : 33 ≤ c.toNat ∧ c.toNat < 127) : isBlankChar c = false := by
  refine Bool.eq_false_iff.2 fun hblank => ?_
  simp [isBlankChar] at hblank
  omega

/-! ## Trimming -/

/-- A text that starts with no blank has nothing to trim at its start. -/
theorem trimStart_eq_self {t : Text} (h : ∀ c, t.head? = some c → isBlankChar c = false) :
    trimStart t = t := by
  cases t with
  | nil => rfl
  | cons c t => simp [trimStart, h c rfl]

/-- A text that ends with no blank has nothing to trim at its end. -/
theorem trimEnd_eq_self {t : Text} (h : ∀ c, t.getLast? = some c → isBlankChar c = false) :
    trimEnd t = t := by
  have := trimStart_eq_self (t := t.reverse) (by simpa using h)
  unfold trimStart at this
  unfold trimEnd
  rw [this, List.reverse_reverse]

/-- A text that neither begins nor ends with a blank is trimmed. -/
theorem trim_eq_self {t : Text} (hhead : ∀ c, t.head? = some c → isBlankChar c = false)
    (hlast : ∀ c, t.getLast? = some c → isBlankChar c = false) : trim t = t := by
  rw [trim, trimStart_eq_self hhead, trimEnd_eq_self hlast]

/-- A text without blanks has none on either side. -/
theorem trim_eq_self_of_visible {t : Text} (h : ∀ c ∈ t, isBlankChar c = false) : trim t = t :=
  trim_eq_self (fun c hc => h c (List.mem_of_mem_head? hc)) fun c hc => h c (List.mem_of_getLast? hc)

theorem head?_trimStart {t : Text} {c : Char} (h : (trimStart t).head? = some c) :
    isBlankChar c = false := by
  have := List.head?_dropWhile_not isBlankChar t
  unfold trimStart at h
  rw [h] at this
  simpa using this

theorem getLast?_trimEnd {t : Text} {c : Char} (h : (trimEnd t).getLast? = some c) :
    isBlankChar c = false := by
  have := List.head?_dropWhile_not isBlankChar t.reverse
  rw [trimEnd, List.getLast?_reverse] at h
  rw [h] at this
  simpa using this

theorem trimEnd_prefix (t : Text) : trimEnd t <+: t := by
  have h := List.dropWhile_suffix (l := t.reverse) isBlankChar
  unfold trimEnd
  rw [← List.reverse_suffix, List.reverse_reverse]
  exact h

/-- A trimmed text starts with no blank. -/
theorem head?_trim {t : Text} {c : Char} (h : (trim t).head? = some c) : isBlankChar c = false := by
  obtain ⟨rest, hrest⟩ := trimEnd_prefix (trimStart t)
  apply head?_trimStart (t := t)
  rw [← hrest]
  cases hu : trimEnd (trimStart t) with
  | nil => simp [trim, hu] at h
  | cons d u => simpa [trim, hu] using h

@[simp] theorem trim_nil : trim [] = [] := rfl

theorem trim_space_cons (t : Text) : trim (' ' :: t) = trim t := rfl

/-- Trimming twice does no more than trimming once. -/
@[simp] theorem trim_trim (t : Text) : trim (trim t) = trim t :=
  trim_eq_self (fun _ => head?_trim) (fun _ => getLast?_trimEnd)

/-- A text is its trimmed form with blanks around it. -/
theorem exists_trim (t : Text) : ∃ a b, t = a ++ trim t ++ b ∧
    (∀ c ∈ a, isBlankChar c = true) ∧ ∀ c ∈ b, isBlankChar c = true := by
  have hstart : ∀ t : Text, t = t.takeWhile isBlankChar ++ trimStart t :=
    fun t => List.takeWhile_append_dropWhile.symm
  refine ⟨t.takeWhile isBlankChar,
    ((trimStart t).reverse.takeWhile isBlankChar).reverse, ?_, ?_, ?_⟩
  · have h : trimStart t = trim t
        ++ ((trimStart t).reverse.takeWhile isBlankChar).reverse := by
      have hend := congrArg List.reverse (hstart (trimStart t).reverse)
      rwa [List.reverse_append, List.reverse_reverse] at hend
    rw [List.append_assoc, ← h]
    exact hstart t
  · exact fun c hc => List.all_eq_true.1 List.all_takeWhile c hc
  · exact fun c hc => List.all_eq_true.1 List.all_takeWhile c (List.mem_reverse.1 hc)

/-- The trimmed form stands in the text. -/
theorem trim_isInfix (t : Text) : trim t <:+: t := by
  obtain ⟨a, b, ht, -⟩ := exists_trim t
  exact ⟨a, b, ht.symm⟩

/-- Trimming keeps what is no blank. -/
theorem mem_trim {t : Text} {c : Char} (hc : c ∈ t) (hblank : isBlankChar c = false) : c ∈ trim t := by
  obtain ⟨a, b, ht, ha, hb⟩ := exists_trim t
  rw [ht] at hc
  simp only [List.mem_append] at hc
  rcases hc with (hc | hc) | hc
  · rw [ha c hc] at hblank
    cases hblank
  · exact hc
  · rw [hb c hc] at hblank
    cases hblank

theorem mem_of_mem_trim {t : Text} {c : Char} (h : c ∈ trim t) : c ∈ t :=
  (trim_isInfix t).subset h

/-- Blank texts are those of which trimming leaves nothing. -/
theorem isBlank_iff_trim {t : Text} : isBlank t = true ↔ trim t = [] := by
  constructor
  · intro h
    cases ht : trim t with
    | nil => rfl
    | cons c u =>
      have hmem : c ∈ trim t := by
        rw [ht]
        exact List.mem_cons_self
      have hblank := List.all_eq_true.1 h c (mem_of_mem_trim hmem)
      rw [head?_trim (t := t) (by rw [ht]; rfl)] at hblank
      cases hblank
  · intro h
    obtain ⟨a, b, ht, ha, hb⟩ := exists_trim t
    rw [ht, h, List.append_nil]
    exact List.all_eq_true.2 fun c hc => (List.mem_append.1 hc).elim (ha c) (hb c)

/-- `isBlank` only sees the trimmed form. -/
theorem isBlank_congr {t u : Text} (h : trim t = trim u) : isBlank t = isBlank u := by
  rw [Bool.eq_iff_iff, isBlank_iff_trim, isBlank_iff_trim, h]

/-- Two texts together are blank if and only if both are. -/
theorem isBlank_append (t u : Text) : isBlank (t ++ u) = (isBlank t && isBlank u) :=
  List.all_append

/-- Blanks in front are trimmed away. -/
theorem trimStart_append_of_blank {a : Text} (ha : ∀ c ∈ a, isBlankChar c = true) (t : Text) :
    trimStart (a ++ t) = trimStart t :=
  List.dropWhile_append_of_pos ha

/-- Blanks behind a text are trimmed away. -/
theorem trimEnd_append_of_blank {b : Text} (hb : ∀ c ∈ b, isBlankChar c = true) (t : Text) :
    trimEnd (t ++ b) = trimEnd t := by
  unfold trimEnd
  rw [List.reverse_append, List.dropWhile_append_of_pos fun c hc => hb c (List.mem_reverse.1 hc)]

/-- Trimming at the beginning does not reach what follows a text that is not blank. -/
theorem trimStart_append {t : Text} (h : isBlank t = false) (u : Text) :
    trimStart (t ++ u) = trimStart t ++ u := by
  induction t with
  | nil => cases h
  | cons c t ih =>
    unfold trimStart at ih ⊢
    rw [List.cons_append]
    by_cases hc : isBlankChar c = true
    · rw [List.dropWhile_cons_of_pos hc, List.dropWhile_cons_of_pos hc]
      refine ih ?_
      simpa [isBlank, hc] using h
    · rw [List.dropWhile_cons_of_neg hc, List.dropWhile_cons_of_neg hc, List.cons_append]

/-- Trimming at the end does not reach what precedes a text that is not blank. -/
theorem trimEnd_append {u : Text} (h : isBlank u = false) (t : Text) :
    trimEnd (t ++ u) = t ++ trimEnd u := by
  have hreverse : isBlank u.reverse = false := by
    rw [← h]
    exact List.all_reverse
  have hstart := trimStart_append hreverse t.reverse
  unfold trimStart at hstart
  unfold trimEnd
  rw [List.reverse_append, hstart, List.reverse_append, List.reverse_reverse]

/-- Blanks in front of a text and behind it make no difference to its trimmed form. -/
theorem trim_of_blanks {a b : Text} (ha : ∀ c ∈ a, isBlankChar c = true)
    (hb : ∀ c ∈ b, isBlankChar c = true) (t : Text) : trim (a ++ t ++ b) = trim t := by
  rw [List.append_assoc, trim, trimStart_append_of_blank ha]
  cases ht : isBlank t with
  | false => rw [trimStart_append ht, trimEnd_append_of_blank hb, trim]
  | true =>
    have hboth : isBlank (t ++ b) = true := by
      rw [isBlank_append, ht]
      exact List.all_eq_true.2 hb
    exact (isBlank_iff_trim.1 hboth).trans (isBlank_iff_trim.1 ht).symm

@[simp] theorem trim_trimStart (t : Text) : trim (trimStart t) = trim t := by
  have h := trim_of_blanks (fun c hc => List.all_eq_true.1 List.all_takeWhile c hc)
    (b := []) (by simp) (trimStart t) (a := t.takeWhile isBlankChar)
  rw [List.append_nil, trimStart, List.takeWhile_append_dropWhile] at h
  exact h.symm

@[simp] theorem trim_trimEnd (t : Text) : trim (trimEnd t) = trim t := by
  have hback := congrArg List.reverse (List.takeWhile_append_dropWhile (p := isBlankChar)
    (l := t.reverse))
  rw [List.reverse_append, List.reverse_reverse] at hback
  have h := trim_of_blanks (a := []) (by simp) (fun c hc =>
    List.all_eq_true.1 List.all_takeWhile c (List.mem_reverse.1 hc)) (trimEnd t)
    (b := (t.reverse.takeWhile isBlankChar).reverse)
  rw [List.nil_append, trimEnd, hback] at h
  exact h.symm

/-- A text is spanned up to the first character that does not satisfy the predicate. -/
theorem spanWhile_append_of_all {p : Char → Bool} {a b : Text} (ha : ∀ c ∈ a, p c = true)
    (hb : ∀ c, b.head? = some c → p c = false) : spanWhile p (a ++ b) = (a, b) := by
  have htake : b.takeWhile p = [] := by
    cases b with
    | nil => rfl
    | cons c b => simp [hb c rfl]
  have hdrop : b.dropWhile p = b := by
    cases b with
    | nil => rfl
    | cons c b => simp [hb c rfl]
  rw [spanWhile, List.takeWhile_append_of_pos ha, List.dropWhile_append_of_pos ha, htake, hdrop,
    List.append_nil]

/-! ## Texts without blanks around them -/

/-- A text that begins and ends with something other than a blank. -/
structure IsTrimmed (t : Text) : Prop where
  first : ∃ c, t.head? = some c ∧ isBlankChar c = false
  last : ∃ c, t.getLast? = some c ∧ isBlankChar c = false

namespace IsTrimmed

variable {a b t : Text}

/-- A text without blanks is trimmed. -/
theorem of_word (hne : t ≠ []) (h : ∀ c ∈ t, isBlankChar c = false) : IsTrimmed t := by
  refine ⟨⟨t.head hne, List.head?_eq_some_head hne, h _ (List.head_mem hne)⟩, ?_⟩
  exact ⟨t.getLast hne, List.getLast?_eq_some_getLast hne, h _ (List.getLast_mem hne)⟩

theorem ne_nil (h : IsTrimmed t) : t ≠ [] := by
  obtain ⟨c, hc, -⟩ := h.first
  rintro rfl
  cases hc

theorem trimStart_eq (h : IsTrimmed t) : trimStart t = t := by
  obtain ⟨c, hc, hfirst⟩ := h.first
  refine trimStart_eq_self fun c' hc' => ?_
  cases hc.symm.trans hc'
  exact hfirst

theorem trimEnd_eq (h : IsTrimmed t) : trimEnd t = t := by
  obtain ⟨c, hc, hlast⟩ := h.last
  refine trimEnd_eq_self fun c' hc' => ?_
  cases hc.symm.trans hc'
  exact hlast

/-- Trimming a trimmed text changes nothing. -/
theorem trim_eq (h : IsTrimmed t) : trim t = t := by
  rw [trim, h.trimStart_eq, h.trimEnd_eq]

theorem isBlank_eq (h : IsTrimmed t) : isBlank t = false := by
  obtain ⟨c, hc, hfirst⟩ := h.first
  have hmem : c ∈ t := List.mem_of_mem_head? hc
  refine Bool.eq_false_iff.2 fun hblank => ?_
  have := List.all_eq_true.1 hblank c hmem
  rw [hfirst] at this
  cases this

/-- What trimming leaves is trimmed. -/
theorem of_trim (h : trim t ≠ []) : IsTrimmed (trim t) := by
  have hhead := List.head?_eq_some_head h
  have hlast := List.getLast?_eq_some_getLast h
  exact ⟨⟨_, hhead, head?_trim hhead⟩, _, hlast, getLast?_trimEnd hlast⟩

theorem head?_ne (h : IsTrimmed t) : t.head? ≠ some ' ' := by
  obtain ⟨c, hc, hfirst⟩ := h.first
  intro hspace
  cases hc.symm.trans hspace
  cases hfirst

theorem getLast?_ne (h : IsTrimmed t) : t.getLast? ≠ some ' ' := by
  obtain ⟨c, hc, hlast⟩ := h.last
  intro hspace
  cases hc.symm.trans hspace
  cases hlast

/-- Trimming does not reach a trimmed text in front of another text. -/
theorem exists_trim_append (h : IsTrimmed t) (u : Text) : ∃ v, trim (t ++ u) = t ++ v := by
  rw [trim, trimStart_append h.isBlank_eq, h.trimStart_eq]
  cases hu : isBlank u with
  | false => exact ⟨_, trimEnd_append hu t⟩
  | true =>
    refine ⟨[], ?_⟩
    rw [trimEnd_append_of_blank (List.all_eq_true.1 hu), List.append_nil, h.trimEnd_eq]

/-- Whatever stands between two trimmed texts, the whole is trimmed. -/
theorem append (ha : IsTrimmed a) (between : Text) (hb : IsTrimmed b) :
    IsTrimmed (a ++ between ++ b) := by
  obtain ⟨c, hc, hfirst⟩ := ha.first
  obtain ⟨d, hd, hlast⟩ := hb.last
  exact ⟨⟨c, by simp [List.head?_append, hc], hfirst⟩, ⟨d, by rw [List.getLast?_append, hd]; rfl, hlast⟩⟩

end IsTrimmed

/-! ## Case -/

/-- Every letter of a word is the lower case of a character in the texts that equal it. -/
theorem exists_of_eqIgnoreCase {t word : Text} (h : eqIgnoreCase t word = true) {d : Char}
    (hd : d ∈ lowerAscii word) : ∃ c ∈ t, c.toLower = d := by
  rw [← beq_iff_eq.1 h] at hd
  exact List.mem_map.1 hd

/-- Only letters have a lower case other than themselves. -/
theorem eq_of_toLower_eq {c d : Char} (h : c.toLower = d) (hd : d.toNat < 97 ∨ 122 < d.toNat) : c = d := by
  unfold Char.toLower at h
  split at h
  · rename_i hupper
    exfalso
    have hval := congrArg (fun e : Char => e.val.toNat) h
    have hnat : d.toNat = d.val.toNat := rfl
    simp only [ge_iff_le, UInt32.le_iff_toNat_le] at hupper
    simp [UInt32.toNat_add] at hval hupper
    omega
  · exact h

/-- What stands before the letters or behind the capital ones is its own lower case. -/
theorem toLower_eq_self_of_outside {c : Char} (h : c.toNat < 65 ∨ 90 < c.toNat) : c.toLower = c := by
  refine dif_neg fun hupper => ?_
  have hval : c.toNat = c.val.toNat := rfl
  simp only [ge_iff_le, UInt32.le_iff_toNat_le] at hupper
  simp at hupper
  omega

theorem toLower_eq_self {c : Char} (h : c.toNat < 65) : c.toLower = c :=
  toLower_eq_self_of_outside (.inl h)

theorem toLower_toLower (c : Char) : c.toLower.toLower = c.toLower := by
  by_cases h : c.toLower.toNat < 97
  · exact (congrArg Char.toLower (eq_of_toLower_eq rfl (.inl h))).symm
  · exact toLower_eq_self_of_outside (.inr (by omega))

/-- Lower case is lower case already. -/
theorem lowerAscii_lowerAscii (t : Text) : lowerAscii (lowerAscii t) = lowerAscii t := by
  rw [lowerAscii, lowerAscii, List.map_map]
  exact List.map_congr_left fun c _ => toLower_toLower c

/-- Texts are lowered one after the other. -/
theorem lowerAscii_append (t u : Text) : lowerAscii (t ++ u) = lowerAscii t ++ lowerAscii u :=
  List.map_append

end Text
end RecordFilter
