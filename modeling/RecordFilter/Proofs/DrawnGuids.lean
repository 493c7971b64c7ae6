import RecordFilter.Proofs.ParsingSteps
import RecordFilter.Query.Result

/-!
# Drawn guids

Every parse of a filter draws a guid, which the word `newguid()` stands for. What is drawn is only held by
constants, so two parses of a filter fail alike (`related_compile`). A filter that does not mention the word
is settled: it is read as the same predicate, whatever is drawn (`isSettled_of_not_mentions`).

The word is one word, so rejoining the words of a text does not make it up: what is mentioned in a part of a
text is mentioned in the text (`Part.isInfix`).
-/

namespace RecordFilter

namespace Filter

variable {t u w : Text}

/-- What is between outer parentheses stands in the text. -/
theorem isInfix_stripEnclosing? {inside : Text} (h : stripEnclosing? t = some inside) : inside <:+: t := by
  simp only [stripEnclosing?, enclosedInner?, Option.map_eq_some_iff, Option.filter_eq_some_iff,
    Option.bind_eq_some_iff] at h
  obtain ⟨inner, ⟨⟨⟨rest, hrest, hinner⟩, -⟩, -⟩, rfl⟩ := h
  rw [Text.dropStart?_eq_some hrest, Text.dropFinish?_eq_some hinner]
  exact (Text.trim_isInfix inner).trans (List.infix_append_left.trans List.infix_append_right)

/-- What is between the parentheses of a call stands in the text. -/
theorem isInfix_call? {name arguments : Text} (h : call? t = some (name, arguments)) : arguments <:+: t := by
  rw [call?_eq_some h, List.append_cons]
  exact List.infix_append_left.trans List.infix_append_right

theorem isInfix_functionCall? {name arguments : Text} (h : functionCall? t = some (name, arguments)) :
    arguments <:+: t := by
  simp only [functionCall?, Option.map_eq_some_iff, Option.filter_eq_some_iff] at h
  obtain ⟨⟨_, _⟩, ⟨hcall, -⟩, heq⟩ := h
  cases heq
  exact isInfix_call? hcall

theorem isInfix_construction? {name arguments : Text} (h : construction? t = some (name, arguments)) :
    arguments <:+: t := by
  simp only [construction?, afterWord?, Option.map_eq_some_iff, Option.bind_eq_some_iff] at h
  obtain ⟨⟨_, _⟩, ⟨rest, hrest, hcall⟩, heq⟩ := h
  cases heq
  split at hrest
  · cases hrest
    exact (isInfix_call? hcall).trans (List.drop_suffix _ t).isInfix
  · cases hrest

/-- Each of the arguments that `splitArguments` finds stands in their text. -/
theorem isInfix_splitArguments {argument : Text} (h : argument ∈ splitArguments t) : argument <:+: t := by
  unfold splitArguments at h
  split at h
  · cases h
  · obtain ⟨piece, hpiece, rfl⟩ := List.mem_map.1 h
    have hjoin : piece <:+: Text.join [','] (splitTop .start t) := Text.isInfix_join hpiece
    rw [join_splitTop] at hjoin
    exact (Text.trim_isInfix piece).trans hjoin

/-- The two arguments that `splitLastArgument` finds stand in their text. -/
theorem isInfix_splitLastArgument (t : Text) :
    (splitLastArgument t).1 <:+: t ∧ ∀ last ∈ (splitLastArgument t).2, last <:+: t := by
  unfold splitLastArgument
  split
  · rename_i last before others hreverse
    have hpieces : splitTop .start t = (before :: others).reverse ++ [last] := by
      rw [← List.reverse_reverse (splitTop .start t), hreverse, List.reverse_cons]
    have hjoin := join_splitTop .start t
    rw [hpieces] at hjoin
    have hbefore := (Text.isPrefix_join_append [','] (before :: others).reverse [last]).isInfix
    have hlast : last <:+: Text.join [','] ((before :: others).reverse ++ [last]) :=
      Text.isInfix_join (List.mem_append_right _ (List.mem_singleton_self last))
    rw [hjoin] at hbefore hlast
    refine ⟨(Text.trim_isInfix _).trans hbefore, fun text htext => ?_⟩
    cases htext
    exact (Text.trim_isInfix last).trans hlast
  · exact ⟨Text.trim_isInfix t, nofun⟩

/-- A word in a side of a set is in what is left of the scanned words. -/
theorem exists_of_scan (hw : Text.IsWord w) {words : List Text} : ∀ {s : Scan}, ∀ set ∈ scan s words,
    w <:+: set.left ∨ w <:+: set.right → w <:+: s.left ∨ ∃ piece ∈ s.pending ++ words, w <:+: piece := by
  have hpending : ∀ {pieces more : List Text}, w <:+: Text.unwords pieces →
      ∃ piece ∈ pieces ++ more, w <:+: piece := by
    intro pieces more h
    obtain ⟨piece, hpiece, h⟩ := hw.exists_of_unwords h
    exact ⟨piece, List.mem_append_left more hpiece, h⟩
  have hnil : ¬ w <:+: [] := fun h => hw.1 (List.infix_nil.1 h)
  induction words with
  | nil =>
    intro s set hset hside
    simp only [scan] at hset
    split at hset
    · cases List.mem_singleton.1 hset
      exact hside.imp_right hpending
    · split at hset
      · cases List.mem_singleton.1 hset
        exact .inr (hpending (hside.resolve_right hnil))
      · cases hset
  | cons word rest ih =>
    intro s set hset hside
    -- behind the word nothing is pending
    have hrest : ∀ {left operation nesting}, set ∈ scan ⟨left, operation, [], true, nesting⟩ rest →
        w <:+: left ∨ ∃ piece ∈ s.pending ++ word :: rest, w <:+: piece := by
      intro left operation nesting hset
      rcases ih set hset hside with h | ⟨piece, hpiece, h⟩
      · exact .inl h
      · exact .inr ⟨piece, List.mem_append_right _ (List.mem_cons_of_mem word hpiece), h⟩
    simp only [scan] at hset
    split at hset
    · rw [List.append_cons]
      exact ih set hset hside
    · split at hset
      · split at hset
        · cases List.mem_singleton.1 hset
          refine .inr (hside.elim hpending fun h => ?_)
          obtain ⟨piece, hpiece, h⟩ := hw.exists_of_unwords h
          exact ⟨piece, List.mem_append_right _ (List.mem_cons_of_mem word hpiece), h⟩
        · exact .inr ((hrest hset).elim hpending id)
      · rcases List.mem_cons.1 hset with rfl | hset
        · exact hside.imp_right hpending
        · split at hset
          · rcases List.mem_cons.1 hset with rfl | hset
            · exact absurd hside (not_or.2 ⟨hnil, hnil⟩)
            · exact .inr ((hrest hset).resolve_left hnil)
          · exact .inr ((hrest hset).resolve_left hnil)

/-- Words are rejoined by `scan`, but none is made up: a word in a side of a set is in the text. -/
theorem isInfix_of_tokenize (hw : Text.IsWord w) {set : TokenSet} (hset : set ∈ tokenize t)
    (hside : w <:+: set.left ∨ w <:+: set.right) : w <:+: t := by
  simp only [tokenize] at hset
  split at hset
  · cases hset
  · have hfilter : (stripEnclosing? (Text.trim t)).getD (Text.trim t) <:+: t := by
      refine List.IsInfix.trans ?_ (Text.trim_isInfix t)
      cases hstrip : stripEnclosing? (Text.trim t) with
      | none => exact List.infix_refl _
      | some inside => exact isInfix_stripEnclosing? hstrip
    obtain ⟨piece, hpiece, h⟩ :=
      (exists_of_scan hw set hset hside).resolve_left fun h => hw.1 (List.infix_nil.1 h)
    exact h.trans ((Text.isInfix_of_mem_words hpiece).trans hfilter)

/-! ## The word for a new guid -/

/-- Whether a text mentions `newguid()`, in any case and be it in quotes. -/
def MentionsNewGuid (t : Text) : Prop :=
  "newguid()".toList <:+: Text.lowerAscii t

instance : Decidable (MentionsNewGuid t) :=
  inferInstanceAs (Decidable ("newguid()".toList <:+: Text.lowerAscii t))

/-- A mention of `newguid()` is a word that equals it up to case. -/
theorem mentionsNewGuid_iff :
    MentionsNewGuid t ↔ ∃ word, word <:+: t ∧ Text.eqIgnoreCase word "newguid()".toList = true := by
  have hlower : Text.lowerAscii "newguid()".toList = "newguid()".toList := by decide
  simp only [MentionsNewGuid, Text.lowerAscii, List.infix_map_iff, Text.eqIgnoreCase, beq_iff_eq] at hlower ⊢
  rw [hlower]
  exact exists_congr fun word => and_congr_right fun _ => eq_comm

/-- Whatever its case, `newguid()` is one word. -/
theorem isWord_of_eqIgnoreCase (h : Text.eqIgnoreCase w "newguid()".toList = true) : Text.IsWord w := by
  constructor
  · rintro rfl
    exact absurd h (by decide)
  · intro hspace
    have hlower : ' ' ∈ Text.lowerAscii w := List.mem_map.2 ⟨' ', hspace, rfl⟩
    rw [beq_iff_eq.1 h] at hlower
    exact absurd hlower (by decide)

end Filter

namespace FilterParser

open RecordFilter.Filter
open Except (Related)

variable {t u w : Text}

/-- A word in a part of a text is in the text. -/
theorem Part.isInfix (h : Part t u) (hw : Text.IsWord w) (hword : w <:+: u) : w <:+: t := by
  cases h with
  | left h => exact isInfix_of_tokenize hw h (.inl hword)
  | right h => exact isInfix_of_tokenize hw h (.inr hword)
  | inside h => exact hword.trans (isInfix_stripEnclosing? h)
  | first h => exact hword.trans ((isInfix_splitLastArgument _).1.trans (isInfix_functionCall? h))
  | @second _ arguments h =>
    cases hlast : (splitLastArgument arguments).2 with
    | none =>
      rw [hlast] at hword
      exact absurd (List.infix_nil.1 hword) hw.1
    | some second =>
      rw [hlast] at hword
      exact hword.trans (((isInfix_splitLastArgument arguments).2 second hlast).trans (isInfix_functionCall? h))
  | argument h hargument =>
    exact hword.trans ((isInfix_splitArguments hargument).trans (isInfix_construction? h))

/-- A text mentions what its parts mention. -/
theorem Part.mentionsNewGuid (h : Part t u) (hu : MentionsNewGuid u) : MentionsNewGuid t := by
  obtain ⟨word, hword, heq⟩ := mentionsNewGuid_iff.1 hu
  exact mentionsNewGuid_iff.2 ⟨word, h.isInfix (isWord_of_eqIgnoreCase heq) hword, heq⟩

/-! ## Two parses of a text -/

variable {R : Predicate → Predicate → Prop} {p : FilterParser} {newGuid newGuid' : Guid}

/-- Two parses of a text end in the same error or in related predicates. A drawn guid only matters where the
text mentions one. By induction on the text, since its parts are shorter. -/
theorem related_parseExpression (hR : Predicate.IsCongruence R) (t : Text)
    (hdrawn : MentionsNewGuid t → ∀ type, R (.constant (.guid newGuid) type) (.constant (.guid newGuid') type))
    (expected : Option ValueType) :
    Related (Option.Rel R) (p.parseExpression newGuid t expected) (p.parseExpression newGuid' t expected) := by
  have hmentions : ∀ {u}, MentionsNewGuid u → u <:+: t → MentionsNewGuid t :=
    fun hu hut => List.IsInfix.trans hu (hut.map Char.toLower)
  rw [parseExpression_eq, parseExpression_eq]
  refine RelatedOn.parseTrimmed hR (fun u hlt expected hu => ?_) (fun _ _ => rfl) rfl fun hword => ?_
  · have := hu.length_lt
    exact related_parseExpression hR u
      (fun h => hdrawn (hmentions (hu.mentionsNewGuid h) (Text.trim_isInfix t))) expected
  · exact hdrawn (mentionsNewGuid_iff.2 ⟨_, Text.trim_isInfix t, hword⟩)
termination_by (Text.trim t).length
decreasing_by exact Nat.lt_of_le_of_lt (Text.length_trim_le u) hu.length_lt

/-- Whether a parsed expression is a filter is asked of its type, which is the same in both parses. -/
theorem related_parse (hR : Predicate.IsCongruence R) (t : Text)
    (hdrawn : MentionsNewGuid t → ∀ type,
      R (.constant (.guid newGuid) type) (.constant (.guid newGuid') type)) :
    Related (Option.Rel R) (p.parse newGuid t) (p.parse newGuid' t) := by
  have hread := related_parseExpression (p := p) hR t hdrawn none
  unfold parse
  generalize p.parseExpression newGuid t none = x, p.parseExpression newGuid' t none = y at hread
  cases hread with
  | error e => exact .error e
  | ok hread =>
    cases hread with
    | none => exact .ok .none
    | some hq =>
      dsimp only
      rw [hR.type_eq hq]
      split
      · exact .ok (.some hq)
      · exact .error _

/-- Whether a filter is accepted does not depend on what is drawn for it, and neither does the error. -/
theorem related_compile (p : FilterParser) (newGuid newGuid' : Guid) (t : Text) :
    Related (fun _ _ => True) (p.compile newGuid t) (p.compile newGuid' t) := by
  have hparsed : Related _ (p.parse newGuid t) (p.parse newGuid' t) :=
    related_parse Predicate.isCongruence_type t fun _ _ => rfl
  exact hparsed.map fun _ _ _ => trivial

/-- Whether a filter is read alike, whatever guid is drawn for it. -/
def IsSettled (p : FilterParser) (filter : Text) : Prop :=
  ∀ newGuid newGuid', p.compile newGuid filter = p.compile newGuid' filter

/-- A filter without `newguid()` is settled. -/
theorem isSettled_of_not_mentions {filter : Text} (h : ¬ MentionsNewGuid filter) : p.IsSettled filter := by
  intro newGuid newGuid'
  have hread : Related (Option.Rel Eq) (p.parse newGuid filter) (p.parse newGuid' filter) :=
    related_parse Predicate.isCongruence_eq filter fun hmentions => absurd hmentions h
  rw [compile, compile, (hread.mono fun _ _ => Option.Rel.eq).eq]

end FilterParser
end RecordFilter
