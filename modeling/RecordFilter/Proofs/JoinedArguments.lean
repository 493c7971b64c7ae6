import RecordFilter.Filter.Literal
import RecordFilter.Proofs.Nesting

/-!
# Joined arguments

Arguments are joined with a comma and a space between them. The commas that take them apart again are the ones
outside of parentheses and quotes, so an argument may have commas of its own inside of these. What decides is
the nesting in front of each comma: an argument that closes its quotes and has as many parentheses of both kinds
outside of them leaves it as it was, and the comma behind it is seen.

Main statement: `splitArguments_join`.
-/

namespace RecordFilter
namespace Filter

/-! ## Outside of quotes -/

/-- The characters outside of quoted literals, in a text before which the given quote is open. -/
def outsideQuotes : Option Char → Text → Text
  | _, [] => []
  | some opened, c :: t => if c = opened then outsideQuotes none t else outsideQuotes (some opened) t
  | none, c :: t => if Nesting.isQuote c then outsideQuotes (some c) t else c :: outsideQuotes none t

/-- The depth counts the parentheses outside of quotes. -/
theorem depth_advance (t : Text) : ∀ n : Nesting, (n.advance t).depth =
    n.depth + (outsideQuotes n.quote t).count '(' - (outsideQuotes n.quote t).count ')' := by
  induction t with
  | nil =>
    intro n
    simp [outsideQuotes]
  | cons c t ih =>
    rintro ⟨depth, quote⟩
    rw [Nesting.advance_cons, ih]
    cases quote with
    | some opened =>
      simp only [Nesting.step, outsideQuotes]
      split <;> rfl
    | none =>
      simp only [Nesting.step, outsideQuotes]
      split
      · rfl
      · by_cases hopen : c = '('
        · subst hopen
          simp
          omega
        · by_cases hclose : c = ')'
          · subst hclose
            simp
            omega
          · simp [hopen, hclose]

/-! ## Arguments -/

/-- Whether all commas of a text are inside of parentheses or quotes. -/
def CommaFree (n : Nesting) (t : Text) : Prop :=
  ∀ u v, t = u ++ ',' :: v → (n.advance u).isTop = false

theorem commaFree_of_not_mem {n : Nesting} {t : Text} (h : ',' ∉ t) : CommaFree n t :=
  fun _ _ ht => absurd (by rw [ht]; simp) h

theorem commaFree_cons_iff {n : Nesting} {c : Char} {t : Text} :
    CommaFree n (c :: t) ↔ (n.isTop && c == ',') = false ∧ CommaFree (n.step c) t := by
  constructor
  · refine fun h => ⟨Bool.eq_false_iff.2 fun hcut => ?_, fun u v ht => h (c :: u) v (by rw [ht]; rfl)⟩
    simp only [Bool.and_eq_true, beq_iff_eq] at hcut
    obtain ⟨htop, rfl⟩ := hcut
    have hnot := h [] t rfl
    rw [Nesting.advance_nil, htop] at hnot
    cases hnot
  · rintro ⟨hcut, hrest⟩ u v ht
    cases u with
    | nil =>
      obtain ⟨rfl, -⟩ := List.cons.inj ht
      rwa [beq_self_eq_true, Bool.and_true] at hcut
    | cons d u =>
      obtain ⟨rfl, rfl⟩ := List.cons.inj ht
      exact hrest u v rfl

instance decidableCommaFree : (n : Nesting) → (t : Text) → Decidable (CommaFree n t)
  | _, [] => isTrue (commaFree_of_not_mem List.not_mem_nil)
  | n, c :: t =>
    have := decidableCommaFree (n.step c) t
    decidable_of_iff _ commaFree_cons_iff.symm

/-- A text that can stand among other arguments. -/
structure IsArgument (t : Text) : Prop where
  visible : Text.isBlank t = false
  closed : (Nesting.start.advance t).quote = none
  balanced : (outsideQuotes none t).count '(' = (outsideQuotes none t).count ')'
  commas : CommaFree .start t

instance (t : Text) : Decidable (IsArgument t) :=
  decidable_of_iff (Text.isBlank t = false ∧ (Nesting.start.advance t).quote = none ∧
      (outsideQuotes none t).count '(' = (outsideQuotes none t).count ')' ∧ CommaFree .start t)
    ⟨fun ⟨visible, closed, balanced, commas⟩ => ⟨visible, closed, balanced, commas⟩,
      fun h => ⟨h.visible, h.closed, h.balanced, h.commas⟩⟩

/-- Behind an argument the nesting is as it was in front of it. -/
theorem IsArgument.advance_eq {t : Text} (h : IsArgument t) : Nesting.start.advance t = .start := by
  have hdepth : (Nesting.start.advance t).depth = 0 := by
    rw [depth_advance]
    simp only [Nesting.start, h.balanced]
    omega
  refine Nesting.eq_start_of_isTop ?_
  simp only [Nesting.isTop, hdepth, h.closed, Option.isNone_none, beq_self_eq_true, Bool.and_self]

/-! ## Pieces -/

theorem splitTop_cons {n : Nesting} {c : Char} {t piece : Text} {pieces : List Text}
    (hcut : (n.isTop && c == ',') = false) (h : splitTop (n.step c) t = piece :: pieces) :
    splitTop n (c :: t) = (c :: piece) :: pieces := by
  rw [splitTop, hcut, h]
  rfl

/-- A text in front, with all commas inside of parentheses or quotes, goes to the first piece. -/
theorem splitTop_append {n : Nesting} {t u piece : Text} {pieces : List Text} (ht : CommaFree n t)
    (h : splitTop (n.advance t) u = piece :: pieces) : splitTop n (t ++ u) = (t ++ piece) :: pieces := by
  induction t generalizing n with
  | nil => exact h
  | cons c t ih =>
    obtain ⟨hcut, hrest⟩ := commaFree_cons_iff.1 ht
    exact splitTop_cons hcut (ih hrest h)

/-- A comma outside of parentheses and quotes ends an argument. -/
theorem splitTop_append_comma {n : Nesting} {t u : Text} (ht : CommaFree n t)
    (htop : (n.advance t).isTop = true) :
    splitTop n (t ++ ',' :: u) = t :: splitTop (n.advance t) u := by
  have hcomma : splitTop (n.advance t) (',' :: u) = [] :: splitTop (n.advance t) u := by
    rw [splitTop, htop]
    rfl
  rw [splitTop_append ht hcomma, List.append_nil]

/-- A text without commas outside is a single argument. -/
theorem splitTop_of_commaFree {n : Nesting} {t : Text} (h : CommaFree n t) : splitTop n t = [t] := by
  have hsplit : splitTop n (t ++ []) = [t ++ []] := splitTop_append h rfl
  rwa [List.append_nil] at hsplit

/-- By induction on the arguments: an argument goes up to the comma behind it, and the space after that comma
goes to the next one. -/
theorem splitTop_join {argument : Text} {arguments : List Text}
    (h : ∀ other ∈ argument :: arguments, IsArgument other) :
    splitTop .start (Text.join ", ".toList (argument :: arguments))
      = argument :: arguments.map (' ' :: ·) := by
  induction arguments generalizing argument with
  | nil => exact splitTop_of_commaFree (h argument List.mem_cons_self).commas
  | cons next arguments ih =>
    obtain ⟨hfirst, hrest⟩ := List.forall_mem_cons.1 h
    have hjoin : Text.join ", ".toList (argument :: next :: arguments)
        = argument ++ ',' :: ' ' :: Text.join ", ".toList (next :: arguments) := by
      simp [Text.join]
    have hspace : splitTop .start (' ' :: Text.join ", ".toList (next :: arguments))
        = (' ' :: next) :: arguments.map (' ' :: ·) := splitTop_cons rfl (ih hrest)
    rw [hjoin, splitTop_append_comma hfirst.commas (by rw [hfirst.advance_eq]; rfl), hfirst.advance_eq, hspace]
    rfl

/-- The spaces behind the commas may be counted to the arguments. -/
theorem join_comma_spaces (argument : Text) (arguments : List Text) :
    Text.join [','] (argument :: arguments.map (' ' :: ·)) = Text.join ", ".toList (argument :: arguments) := by
  induction arguments generalizing argument with
  | nil => rfl
  | cons next arguments ih =>
    have hspace : Text.join [','] ((' ' :: next) :: arguments.map (' ' :: ·))
        = ' ' :: Text.join [','] (next :: arguments.map (' ' :: ·)) := by
      cases arguments <;> rfl
    rw [List.map_cons, Text.join, hspace, ih]
    simp [Text.join]

theorem map_trim_spaces (argument : Text) (arguments : List Text) :
    (argument :: arguments.map (' ' :: ·)).map Text.trim = (argument :: arguments).map Text.trim := by
  simp [Function.comp_def, Text.trim_space_cons]

theorem splitLastArgument_eq {t last : Text} {before : List Text} (hne : before ≠ [])
    (h : splitTop .start t = before ++ [last]) :
    splitLastArgument t = (Text.trim (Text.join [','] before), some (Text.trim last)) := by
  obtain ⟨first, others, hreverse⟩ := List.exists_cons_of_ne_nil (List.reverse_ne_nil_iff.2 hne)
  have hbefore : before = (first :: others).reverse := by rw [← hreverse, List.reverse_reverse]
  unfold splitLastArgument
  rw [h, List.reverse_append, hreverse, hbefore]
  rfl

/-- Arguments that are joined with a comma and a space are taken apart into the same arguments, up to blanks
around them. If there are two or more, all but the last one can be taken apart from it. -/
theorem splitArguments_join {arguments : List Text} (hne : arguments ≠ [])
    (h : ∀ argument ∈ arguments, IsArgument argument) :
    splitArguments (Text.join ", ".toList arguments) = arguments.map Text.trim ∧
      ∀ before last, before ≠ [] → arguments = before ++ [last] →
        splitLastArgument (Text.join ", ".toList arguments)
          = (Text.trim (Text.join ", ".toList before), some (Text.trim last)) := by
  constructor
  · obtain ⟨argument, others, rfl⟩ := List.exists_cons_of_ne_nil hne
    have hvisible : Text.isBlank (Text.join ", ".toList (argument :: others)) = false := by
      have hfirst := (h argument List.mem_cons_self).visible
      cases others with
      | nil => exact hfirst
      | cons next others =>
        rw [Text.join, List.append_assoc, Text.isBlank_append, hfirst, Bool.false_and]
    rw [splitArguments, hvisible, if_neg Bool.false_ne_true, splitTop_join h, map_trim_spaces]
  · rintro before last hbefore rfl
    obtain ⟨argument, others, rfl⟩ := List.exists_cons_of_ne_nil hbefore
    rw [List.cons_append] at h ⊢
    have hsplit : splitTop .start (Text.join ", ".toList (argument :: (others ++ [last])))
        = (argument :: others.map (' ' :: ·)) ++ [' ' :: last] := by
      rw [splitTop_join h, List.map_append]
      rfl
    rw [splitLastArgument_eq (List.cons_ne_nil _ _) hsplit, join_comma_spaces,
      Text.trim_space_cons]

/-- Commas and parentheses in calls and in quotes of both kinds. -/
theorem splitArguments_join_nested :
    let arguments := ["substring(Name, 1)".toList, " 'ä), (\"'".toList, "\"it's, \" ".toList]
    (∀ argument ∈ arguments, IsArgument argument) ∧
      splitArguments (Text.join ", ".toList arguments)
        = ["substring(Name, 1)".toList, "'ä), (\"'".toList, "\"it's, \"".toList] ∧
      splitLastArgument (Text.join ", ".toList arguments)
        = ("substring(Name, 1),  'ä), (\"'".toList, some "\"it's, \"".toList) := by
  intro arguments
  have harguments : ∀ argument ∈ arguments, IsArgument argument := by decide
  obtain ⟨hall, hlast⟩ := splitArguments_join (List.cons_ne_nil _ _) harguments
  exact ⟨harguments, hall, hlast [_, _] _ (List.cons_ne_nil _ _) rfl⟩

end Filter
end RecordFilter
