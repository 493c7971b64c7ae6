import RecordFilter.Proofs.ChainedFilters
import RecordFilter.Proofs.OperatorTyping

/-!
# String matches as relations of texts

`startswith`, `endswith` and `substringof` ask whether a text is a prefix, a suffix or an infix of another
one. The first two compare the texts in lower case. A match of the texts as they are is also a match in
lower case, unless there is a capital sigma in the needle, which is put in lower case according to what
surrounds it.

Main statements: `Evaluation.value_matchCall` and `Function.Relates.folded`.
-/

namespace RecordFilter

/-! ## Pieces of text -/

namespace Text

theorem dropStart?_append (start rest : Text) : dropStart? start (start ++ rest) = some rest := by
  induction start with
  | nil => rfl
  | cons a start ih => rw [List.cons_append, dropStart?, if_pos rfl, ih]

/-- `startsWith` is the prefix relation. -/
theorem startsWith_iff {t start : Text} : startsWith t start = true ↔ start <+: t := by
  rw [startsWith, Option.isSome_iff_exists]
  constructor
  · rintro ⟨rest, hrest⟩
    exact ⟨rest, (dropStart?_eq_some hrest).symm⟩
  · rintro ⟨rest, rfl⟩
    exact ⟨rest, dropStart?_append start rest⟩

/-- `endsWith` is the suffix relation. -/
theorem endsWith_iff {t finish : Text} : endsWith t finish = true ↔ finish <:+ t := by
  rw [endsWith, dropFinish?, Option.isSome_map, ← startsWith, startsWith_iff, List.reverse_prefix]

/-- `occursIn` is the infix relation. -/
theorem occursIn_iff {needle t : Text} : occursIn needle t = true ↔ needle <:+: t := by
  rw [occursIn]
  induction t with
  | nil =>
    rw [indexOf?, List.infix_nil]
    cases needle <;> simp
  | cons c t ih =>
    rw [indexOf?, List.infix_cons_iff, ← startsWith_iff, ← ih]
    split
    · rename_i hstart
      simp [hstart]
    · rename_i hstart
      simp [hstart]

/-! ## Lower case of pieces -/

/-- Other characters than the capital sigma are put in lower case one by one. -/
theorem lowerAfter_append {a : Text} (h : 'Σ' ∉ a) (before b : Text) :
    lowerAfter before (a ++ b) = a.flatMap lowerChar ++ lowerAfter (a.reverse ++ before) b := by
  induction a generalizing before with
  | nil => rfl
  | cons c a ih =>
    rw [List.mem_cons, not_or] at h
    obtain ⟨hc, ha⟩ := h
    rw [List.cons_append, lowerAfter, if_neg fun hsigma => hc hsigma.symm, ih ha, List.flatMap_cons,
      List.reverse_cons, List.append_assoc, List.append_assoc]
    rfl

/-- Without a capital sigma a text is lowered character by character. -/
theorem lower_eq_flatMap {a : Text} (h : 'Σ' ∉ a) : lower a = a.flatMap lowerChar := by
  have happend := lowerAfter_append h [] []
  rw [List.append_nil, lowerAfter, List.append_nil] at happend
  exact happend

/-- What comes last is put in lower case as what it follows says. -/
theorem exists_lowerAfter_append (before a b : Text) :
    ∃ small, lowerAfter before (a ++ b) = small ++ lowerAfter (a.reverse ++ before) b := by
  induction a generalizing before with
  | nil => exact ⟨[], rfl⟩
  | cons c a ih =>
    obtain ⟨small, hsmall⟩ := ih (c :: before)
    rw [List.cons_append, lowerAfter, hsmall, List.reverse_cons, List.append_assoc, ← List.append_assoc]
    exact ⟨_, rfl⟩

/-- A lowered beginning is a beginning of the lowered text, where no sigma is in it. -/
theorem isPrefix_lower {a t : Text} (h : 'Σ' ∉ a) (hstart : a <+: t) : lower a <+: lower t := by
  obtain ⟨rest, rfl⟩ := hstart
  rw [lower_eq_flatMap h, lower, lowerAfter_append h]
  exact List.prefix_append ..

/-- A lowered ending is an ending of the lowered text, where no sigma is in it. -/
theorem isSuffix_lower {a t : Text} (h : 'Σ' ∉ a) (hfinish : a <:+ t) : lower a <:+ lower t := by
  obtain ⟨first, rfl⟩ := hfinish
  obtain ⟨small, hsmall⟩ := exists_lowerAfter_append [] first a
  have hlast := lowerAfter_append h first.reverse []
  rw [List.append_nil, lowerAfter, List.append_nil] at hlast
  rw [lower_eq_flatMap h, lower, hsmall, List.append_nil, hlast]
  exact List.suffix_append ..

end Text

/-! ## Relations of string matches -/

namespace Function

/-- How a string match wants the needle to stand in a text. -/
def Relates : Function → (needle t : Text) → Prop
  | .substringOf, needle, t => needle <:+: t
  | .endsWith, needle, t => needle <:+ t
  | .startsWith, needle, t => needle <+: t
  | _, _, _ => False

instance decidableRelates : (f : Function) → DecidableRel f.Relates
  | .substringOf, needle, t => decidable_of_iff (Text.occursIn needle t = true) Text.occursIn_iff
  | .endsWith, needle, t => inferInstanceAs (Decidable (needle <:+ t))
  | .startsWith, needle, t => inferInstanceAs (Decidable (needle <+: t))
  | .length, _, _ | .indexOf, _, _ | .substring, _, _ | .toLower, _, _ | .toUpper, _, _ | .trim, _, _
  | .hour, _, _ | .minute, _, _ | .second, _, _ | .day, _, _ | .month, _, _ | .year, _, _
  | .round, _, _ | .floor, _, _ | .ceiling, _, _ => isFalse id

/-- A text in the form in which a string match compares it. -/
def folded : Function → Text → Text
  | .substringOf, t => t
  | _, t => Text.lower t

/-- Texts that match as they are match in the form that is compared. -/
theorem Relates.folded {f : Function} {needle t : Text} (h : f.Relates needle t) (hsigma : 'Σ' ∉ needle) :
    f.Relates (f.folded needle) (f.folded t) := by
  cases f with
  | substringOf => exact h
  | endsWith => exact Text.isSuffix_lower hsigma h
  | startsWith => exact Text.isPrefix_lower hsigma h
  | _ => cases h

end Function

namespace Predicate

/-- The call of a string match. The needle comes first in `substringof` only. -/
def matchCall (f : Function) (haystack needle : Predicate) : Predicate :=
  .call f (if f = .substringOf then [needle, haystack] else [haystack, needle]) .boolean

/-- The ways to ask whether a predicate is true, or whether it is false: by itself, or in a comparison with
a boolean literal. -/
inductive Asks (p : Predicate) : (wanted : Bool) → Predicate → Prop
  | bare : Asks p true p
  | eqRight (b : Bool) :
      Asks p b (.binary (.comparison .eq) p (.constant (.boolean b) .boolean) .boolean)
  | eqLeft (b : Bool) :
      Asks p b (.binary (.comparison .eq) (.constant (.boolean b) .boolean) p .boolean)
  | neRight (b : Bool) :
      Asks p (!b) (.binary (.comparison .ne) p (.constant (.boolean b) .boolean) .boolean)
  | neLeft (b : Bool) :
      Asks p (!b) (.binary (.comparison .ne) (.constant (.boolean b) .boolean) p .boolean)

end Predicate

namespace Evaluation

variable {flagsMatch : FlagsMatch} {record : FieldReader}

/-- A string match of two texts is true or false, as the texts relate in the form that is compared. -/
theorem value_matchCall {f : Function} (hf : f.isStringMatch = true) {haystack needle : Predicate}
    {s n : String} (hs : value flagsMatch record haystack = .ok (.string s))
    (hn : value flagsMatch record needle = .ok (.string n)) :
    ∃ b, value flagsMatch record (.matchCall f haystack needle) = .ok (.boolean b) ∧
      (b = true ↔ f.Relates (f.folded n.toList) (f.folded s.toList)) := by
  cases f with
  | substringOf =>
    refine ⟨Text.occursIn n.toList s.toList, ?_, Text.occursIn_iff⟩
    simp only [Predicate.matchCall, if_true, value, values, hs, hn, call_builtin]
    rfl
  | endsWith =>
    refine ⟨Text.endsWith (Text.lower s.toList) (Text.lower n.toList), ?_, Text.endsWith_iff⟩
    simp only [Predicate.matchCall, reduceCtorEq, if_false, value, values, hs, hn, call_builtin]
    rfl
  | startsWith =>
    refine ⟨Text.startsWith (Text.lower s.toList) (Text.lower n.toList), ?_, Text.startsWith_iff⟩
    simp only [Predicate.matchCall, reduceCtorEq, if_false, value, values, hs, hn, call_builtin]
    rfl
  | _ => cases hf

theorem comparison_booleans (a b : Bool) :
    comparison flagsMatch false .eq (.boolean a) (.boolean b) = .ok (a == b) ∧
      comparison flagsMatch false .ne (.boolean a) (.boolean b) = .ok (a != b) := by
  cases a <;> cases b <;> exact ⟨rfl, rfl⟩

/-- What is asked for is true if the predicate is as wanted. -/
theorem value_asks {p q : Predicate} {wanted b : Bool} (h : p.Asks wanted q)
    (hflags : hasFlagsType p = false) (hp : value flagsMatch record p = .ok (.boolean b)) :
    value flagsMatch record q = .ok (.boolean (b == wanted)) := by
  have hliteral : ∀ c, hasFlagsType (.constant (.boolean c) .boolean) = false := fun _ => rfl
  cases h with
  | bare => rw [hp, beq_true]
  | eqRight =>
    rw [value, hp, value_constant]
    simp only [hflags, (comparison_booleans b wanted).1]
    rfl
  | eqLeft =>
    rw [value, hp, value_constant]
    simp only [hliteral, (comparison_booleans wanted b).1]
    rw [Bool.beq_comm]
    rfl
  | neRight c =>
    rw [value, hp, value_constant]
    simp only [hflags, (comparison_booleans b c).2]
    cases b <;> cases c <;> rfl
  | neLeft c =>
    rw [value, hp, value_constant]
    simp only [hliteral, (comparison_booleans c b).2]
    cases b <;> cases c <;> rfl

/-- A question for a string match of a field is accepted where the texts relate as wanted. -/
theorem accepts_asks_matchCall {f : Function} (hf : f.isStringMatch = true) {haystack needle q : Predicate}
    {wanted : Bool} (h : (Predicate.matchCall f haystack needle).Asks wanted q) {s n : String}
    (hs : value flagsMatch record haystack = .ok (.string s))
    (hn : value flagsMatch record needle = .ok (.string n)) :
    (CompiledFilter.mk (some q) flagsMatch).accepts record = true ↔
      (f.Relates (f.folded n.toList) (f.folded s.toList) ↔ wanted = true) := by
  obtain ⟨b, hb, hrelates⟩ := value_matchCall hf hs hn
  rw [CompiledFilter.accepts_some_iff, value_asks h rfl hb, ← hrelates]
  cases b <;> cases wanted <;> simp

end Evaluation
end RecordFilter
