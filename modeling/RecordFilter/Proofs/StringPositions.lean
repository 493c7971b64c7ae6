import RecordFilter.Proofs.StringMatches

/-!
# Pieces and positions of strings

`startswith`, `endswith` and `indexof` compare texts in lower case, `substringof` compares them as they are,
and `substring` takes a position of the text as it is. They agree with each other as far as lower case lets
them. A capital sigma is put in lower case according to what surrounds it, so that a piece of a text may have
another lower case by itself than it has in the text. And the capital I with a dot has two characters in lower
case, so that positions behind it are not those of the text.

Main statement: `Evaluation.stringFunctions_agree`.
-/

namespace RecordFilter

namespace Text

/-! ## Lower case in a context -/

/-- Whether a capital sigma between two texts ends a word. The text before it is given backwards. -/
def endsWord (before after : Text) : Bool :=
  meetsCased before && !meetsCased after

/-- The lower case of a character between two texts. -/
def lowerCharBetween (before : Text) (c : Char) (after : Text) : Text :=
  if c = 'Σ' then (if endsWord before after then ['ς'] else ['σ']) else lowerChar c

/-- The lower case of a text between two others, the first of which is given backwards. -/
def lowerBetween (before : Text) : Text → (after : Text) → Text
  | [], _ => []
  | c :: t, after => lowerCharBetween before c (t ++ after) ++ lowerBetween (c :: before) t after

/-- A text is lowered in two parts, if each knows what stands around it. -/
theorem lowerAfter_append_between (before t after : Text) :
    lowerAfter before (t ++ after)
      = lowerBetween before t after ++ lowerAfter (t.reverse ++ before) after := by
  induction t generalizing before with
  | nil => rfl
  | cons c t ih =>
    rw [List.cons_append, lowerAfter, ih, lowerBetween, List.reverse_cons, List.append_assoc,
      List.append_assoc]
    rfl

theorem lowerAfter_eq_between (before t : Text) : lowerAfter before t = lowerBetween before t [] := by
  have h := lowerAfter_append_between before t []
  rwa [List.append_nil, lowerAfter, List.append_nil] at h

/-- A text with two others around it, in lower case. -/
theorem lower_append (before t after : Text) :
    lower (before ++ t ++ after) = lowerBetween [] before (t ++ after)
      ++ lowerBetween before.reverse t after ++ lowerBetween (t.reverse ++ before.reverse) after [] := by
  rw [lower, List.append_assoc, lowerAfter_append_between, lowerAfter_append_between, List.append_nil,
    lowerAfter_eq_between, List.append_assoc]

theorem lower_eq_between (t : Text) : lower t = lowerBetween [] t [] :=
  lowerAfter_eq_between [] t

/-! ## Lengths -/

theorem length_lowerChar_sigma : (lowerChar 'Σ').length = 1 := by
  decide

/-- What stands around a character does not change how many characters it becomes. -/
theorem length_lowerCharBetween (before : Text) (c : Char) (after : Text) :
    (lowerCharBetween before c after).length = (lowerChar c).length := by
  rw [lowerCharBetween]
  split
  · rename_i hsigma
    rw [hsigma, length_lowerChar_sigma]
    split <;> rfl
  · rfl

/-- The length of a text in lower case does not depend on what surrounds it. -/
theorem length_lowerBetween (before t after : Text) :
    (lowerBetween before t after).length = (t.flatMap lowerChar).length := by
  induction t generalizing before with
  | nil => rfl
  | cons c t ih =>
    rw [lowerBetween, List.length_append, ih, length_lowerCharBetween, List.flatMap_cons, List.length_append]

/-- A text has the length it has when lowered character by character. -/
theorem length_lower (t : Text) : (lower t).length = (t.flatMap lowerChar).length := by
  rw [lower_eq_between, length_lowerBetween]

theorem length_lower_eq_between (before t after : Text) :
    (lower t).length = (lowerBetween before t after).length := by
  rw [length_lower, length_lowerBetween]

/-- Only the capital I with a dot has more than one character in lower case. -/
theorem length_lowerChar {c : Char} (h : c ≠ 'İ') : (lowerChar c).length = 1 := by
  have hcode : c.toNat ≠ 0x130 := fun hcode => h (Char.toNat_inj.1 hcode)
  rw [lowerChar, if_neg hcode]
  split <;> rfl

theorem length_flatMap_lowerChar {t : Text} (h : 'İ' ∉ t) : (t.flatMap lowerChar).length = t.length := by
  induction t with
  | nil => rfl
  | cons c t ih =>
    rw [List.mem_cons, not_or] at h
    rw [List.flatMap_cons, List.length_append, ih h.2, length_lowerChar (Ne.symm h.1), List.length_cons,
      Nat.add_comm]

/-! ## Capital sigmas -/

theorem take_append_eq_iff {s s' r r' : Text} (h : s.length = s'.length) (n : Nat) :
    (s ++ r).take n = (s' ++ r').take n ↔
      s.take n = s'.take n ∧ r.take (n - s.length) = r'.take (n - s.length) := by
  rw [List.take_append, List.take_append, ← h]
  constructor
  · exact fun heq => List.append_inj heq (by rw [List.length_take, List.length_take, h])
  · rintro ⟨hfirst, hlast⟩
    rw [hfirst, hlast]

/-- A character has the same lower case in two contexts unless it is a capital sigma. -/
theorem take_lowerCharBetween_eq_iff (before before' : Text) (c : Char) (after after' : Text) (n : Nat) :
    (lowerCharBetween before c after).take n = (lowerCharBetween before' c after').take n ↔
      (c = 'Σ' → 0 < n → endsWord before after = endsWord before' after') := by
  by_cases hc : c = 'Σ'
  · subst hc
    cases n with
    | zero => simp
    | succ n =>
      rw [lowerCharBetween, lowerCharBetween, if_pos rfl, if_pos rfl]
      cases endsWord before after <;> cases endsWord before' after' <;> simp
  · simp [lowerCharBetween, hc]

/-- A place of a character in a text is the first place, or one behind it. -/
theorem forall_place_cons_iff {c d : Char} {t : Text} {P : Text → Text → Prop} :
    (∀ u v, c :: t = u ++ d :: v → P u v) ↔ (c = d → P [] t) ∧ ∀ u v, t = u ++ d :: v → P (c :: u) v := by
  constructor
  · exact fun h => ⟨fun hc => h [] t (by rw [hc, List.nil_append]),
      fun u v ht => h (c :: u) v (by rw [ht]; rfl)⟩
  · rintro ⟨hfirst, hrest⟩ u v heq
    rcases List.cons_eq_append_iff.1 heq with ⟨rfl, hv⟩ | ⟨u, rfl, ht⟩
    · obtain ⟨rfl, rfl⟩ := List.cons.inj hv
      exact hfirst rfl
    · exact hrest u v ht

/-- The first `n` characters in lower case are the same in two contexts if and only if every capital sigma
whose lower case is among them ends a word in both contexts or in neither. -/
theorem take_lowerBetween_eq_iff (before before' t after after' : Text) (n : Nat) :
    (lowerBetween before t after).take n = (lowerBetween before' t after').take n ↔
      ∀ u v, t = u ++ 'Σ' :: v → (u.flatMap lowerChar).length < n →
        endsWord (u.reverse ++ before) (v ++ after) = endsWord (u.reverse ++ before') (v ++ after') := by
  induction t generalizing before before' n with
  | nil => simp [lowerBetween]
  | cons c t ih =>
    have hlength : (lowerCharBetween before c (t ++ after)).length
        = (lowerCharBetween before' c (t ++ after')).length := by
      rw [length_lowerCharBetween, length_lowerCharBetween]
    rw [lowerBetween, lowerBetween, take_append_eq_iff hlength, take_lowerCharBetween_eq_iff, ih,
      forall_place_cons_iff, length_lowerCharBetween]
    refine and_congr Iff.rfl (forall₂_congr fun u v => imp_congr Iff.rfl ?_)
    rw [List.flatMap_cons, List.length_append, List.reverse_cons, List.append_assoc, List.append_assoc]
    refine imp_congr ?_ Iff.rfl
    omega

/-- The capital sigmas of a text whose lower case is among its first `n` characters end a word between two
other texts if and only if they do so by themselves. -/
def KeepsSigmas (n : Nat) (before t after : Text) : Prop :=
  ∀ u v, t = u ++ 'Σ' :: v → (lower u).length < n →
    endsWord (u.reverse ++ before.reverse) (v ++ after) = endsWord u.reverse v

/-- A text without a capital sigma keeps its sigmas anywhere. -/
theorem keepsSigmas_of_not_mem {t : Text} (h : 'Σ' ∉ t) {n : Nat} {before after : Text} :
    KeepsSigmas n before t after := by
  rintro u v rfl -
  exact absurd (List.mem_append_right u List.mem_cons_self) h

/-- A text is lowered as it is alone, up to a position, if and only if it `KeepsSigmas` up to there. -/
theorem take_lowerBetween_eq_lower_iff (before t after : Text) (n : Nat) :
    (lowerBetween before.reverse t after).take n = (lower t).take n ↔ KeepsSigmas n before t after := by
  rw [lower_eq_between, take_lowerBetween_eq_iff]
  simp only [KeepsSigmas, length_lower, List.append_nil]

/-- A text has the same lower case between two others as by itself if it keeps its sigmas there. -/
theorem lowerBetween_eq_lower_iff (before t after : Text) :
    lowerBetween before.reverse t after = lower t ↔ KeepsSigmas (lower t).length before t after := by
  rw [← take_lowerBetween_eq_lower_iff, List.take_length,
    List.take_of_length_le (Nat.le_of_eq (length_lower_eq_between ..).symm)]

theorem isPrefix_append_iff {a b rest : Text} (h : a.length = b.length) : a <+: b ++ rest ↔ b = a := by
  rw [List.prefix_iff_eq_take, h, List.take_left, eq_comm]

theorem isSuffix_append_iff {a b first : Text} (h : a.length = b.length) : a <:+ first ++ b ↔ b = a := by
  rw [List.suffix_iff_eq_drop, List.length_append, h, Nat.add_sub_cancel, List.drop_left, eq_comm]

/-- A lowered text is a beginning of the lowered whole if and only if it `KeepsSigmas` there. -/
theorem isPrefix_lower_append_iff (t rest : Text) :
    lower t <+: lower (t ++ rest) ↔ KeepsSigmas (lower t).length [] t rest := by
  rw [← lowerBetween_eq_lower_iff, lower, lower, lowerAfter_append_between, ← lower]
  exact isPrefix_append_iff (length_lower_eq_between ..)

/-- A lowered text is an ending of the lowered whole if and only if it `KeepsSigmas` there. -/
theorem isSuffix_lower_append_iff (first t : Text) :
    lower t <:+ lower (first ++ t) ↔ KeepsSigmas (lower t).length first t [] := by
  rw [← lowerBetween_eq_lower_iff, lower, lower, lowerAfter_append_between, ← lower, List.append_nil,
    lowerAfter_eq_between]
  exact isSuffix_append_iff (length_lower_eq_between ..)

/-! ## Positions -/

theorem indexOf?_of_isPrefix {needle t : Text} (h : needle <+: t) : indexOf? needle t = some 0 := by
  cases t with
  | nil =>
    rw [List.prefix_nil.1 h]
    rfl
  | cons c t => rw [indexOf?, if_pos (startsWith_iff.2 h)]

/-- What occurs in a text is found there, or earlier. -/
theorem exists_indexOf? (first needle rest : Text) :
    ∃ n ≤ first.length, indexOf? needle (first ++ (needle ++ rest)) = some n := by
  induction first with
  | nil => exact ⟨0, Nat.le_refl 0, indexOf?_of_isPrefix (List.prefix_append ..)⟩
  | cons c first ih =>
    obtain ⟨n, hn, hfound⟩ := ih
    rw [List.cons_append, indexOf?]
    split
    · exact ⟨0, Nat.zero_le _, rfl⟩
    · exact ⟨n + 1, Nat.succ_le_succ hn, by rw [hfound, Option.map_some]⟩

/-- At the position that is found, the rest of the text begins with what was looked for. -/
theorem isPrefix_of_indexOf? {needle t : Text} {n : Nat} (h : indexOf? needle t = some n) :
    n ≤ t.length ∧ needle <+: t.drop n := by
  induction t generalizing n with
  | nil =>
    rw [indexOf?] at h
    split at h
    · rename_i hempty
      cases h
      rw [List.isEmpty_iff.1 hempty]
      exact ⟨Nat.le_refl 0, List.nil_prefix⟩
    · cases h
  | cons c t ih =>
    rw [indexOf?] at h
    split at h
    · rename_i hstart
      cases h
      exact ⟨Nat.zero_le _, startsWith_iff.1 hstart⟩
    · obtain ⟨m, hm, rfl⟩ := Option.map_eq_some_iff.1 h
      obtain ⟨hle, hbegins⟩ := ih hm
      exact ⟨Nat.succ_le_succ hle, hbegins⟩

/-- Where the text before a position has no capital I with a dot, the lower case of the text is divided there
as the text is. -/
theorem drop_lower {t : Text} {n : Nat} (hn : n ≤ (lower t).length) (h : 'İ' ∉ t.take n) :
    n ≤ t.length ∧ (lower t).drop n = lowerBetween (t.take n).reverse (t.drop n) [] := by
  have hle : n ≤ t.length := by
    by_contra hlt
    rw [List.take_of_length_le (by omega)] at h
    rw [length_lower, length_flatMap_lowerChar h] at hn
    exact hlt hn
  have hfirst : (lowerBetween [] (t.take n) (t.drop n)).length = n := by
    rw [length_lowerBetween, length_flatMap_lowerChar h, List.length_take_of_le hle]
  have hlower : lower t = lowerBetween [] (t.take n) (t.drop n)
      ++ lowerBetween (t.take n).reverse (t.drop n) [] := by
    conv_lhs => rw [← List.take_append_drop n t]
    rw [lower, lowerAfter_append_between, lowerAfter_eq_between, List.append_nil]
  refine ⟨hle, ?_⟩
  rw [hlower, List.drop_left' hfirst]

/-- A piece of a text that keeps its sigmas is found in the lower case of the text. -/
theorem exists_indexOf?_lower {first t rest : Text} (h : KeepsSigmas (lower t).length first t rest) :
    ∃ n ≤ (lower first).length, indexOf? (lower t) (lower (first ++ t ++ rest)) = some n := by
  rw [lower_append, (lowerBetween_eq_lower_iff ..).2 h, List.append_assoc,
    length_lower_eq_between [] first (t ++ rest)]
  exact exists_indexOf? ..

end Text

namespace Evaluation

open Text (lower KeepsSigmas)

/-! ## Calls -/

/-- A position is a 32-bit integer, or an error where it is too long for one. -/
theorem count_cases (n : Nat) :
    (∃ i : Int32, count n = .ok (.int32 i) ∧ 0 ≤ i.toInt) ∨ 2 ^ (31 : Nat) ≤ n ∧ count n = .error .tooLong := by
  rw [count]
  split
  · rename_i h
    exact .inl ⟨_, rfl, by rw [Int32.toInt_ofNat_of_lt h]; exact Int.natCast_nonneg n⟩
  · exact .inr ⟨by omega, rfl⟩

/-- `indexof` gives the position of the lowered piece in the lowered text, or -1. -/
theorem applyFunction_indexOf (s x : String) : applyFunction .indexOf [.string s, .string x]
    = (Text.indexOf? (lower x.toList) (lower s.toList)).elim (.ok (.int32 (-1))) count := by
  show indexOf s.toList x.toList = _
  rw [indexOf]
  cases Text.indexOf? (lower x.toList) (lower s.toList) <;> rfl

/-- A position that `indexof` gives is one in the lower case of the text. -/
theorem indexOf?_of_indexOf {s x : String} {i : Int32}
    (h : applyFunction .indexOf [.string s, .string x] = .ok (.int32 i)) (hi : 0 ≤ i.toInt) :
    Text.indexOf? (lower x.toList) (lower s.toList) = some i.toInt.toNat := by
  rw [applyFunction_indexOf] at h
  cases hfound : Text.indexOf? (lower x.toList) (lower s.toList) with
  | none =>
    rw [hfound] at h
    cases h
    exact absurd hi (by decide)
  | some n =>
    rw [hfound, Option.elim_some, count] at h
    split at h
    · rename_i hlt
      cases h
      rw [Int32.toInt_ofNat_of_lt hlt, Int.toNat_natCast]
    · cases h

/-- `substring` drops as many characters as it is told, up to all of them. -/
theorem substring_of_le {s : String} {i : Int32} (hi : 0 ≤ i.toInt)
    (hle : i.toInt.toNat ≤ s.toList.length) : substring (.string s) (.int32 i)
      = .ok (.string (String.ofList (s.toList.drop i.toInt.toNat))) := by
  have hrange : 0 ≤ i.toInt64.toInt ∧ i.toInt64.toInt ≤ s.toList.length := by
    rw [Int32.toInt_toInt64]
    omega
  show (if 0 ≤ i.toInt64.toInt ∧ i.toInt64.toInt ≤ s.toList.length then _ else _) = _
  rw [if_pos hrange, Int32.toInt_toInt64]
  rfl

/-- `startswith` and `endswith` find a piece that stands there if and only if it `KeepsSigmas`, `indexof` finds
one that does, and `substringof` finds every one. Behind a position of `indexof` with no `İ` before it,
`substring` gives a rest that starts with the piece for `startswith` under the same condition. -/
theorem stringFunctions_agree (s x : String) :
    (∀ rest, s.toList = x.toList ++ rest →
      ∃ b, applyFunction .startsWith [.string s, .string x] = .ok (.boolean b) ∧
        (b = true ↔ KeepsSigmas (lower x.toList).length [] x.toList rest)) ∧
    (∀ first, s.toList = first ++ x.toList →
      ∃ b, applyFunction .endsWith [.string s, .string x] = .ok (.boolean b) ∧
        (b = true ↔ KeepsSigmas (lower x.toList).length first x.toList [])) ∧
    (∃ b, applyFunction .substringOf [.string x, .string s] = .ok (.boolean b) ∧
      (b = true ↔ ∃ first rest, s.toList = first ++ x.toList ++ rest)) ∧
    (∀ first rest, s.toList = first ++ x.toList ++ rest →
      KeepsSigmas (lower x.toList).length first x.toList rest →
      (∃ i, applyFunction .indexOf [.string s, .string x] = .ok (.int32 i) ∧ 0 ≤ i.toInt) ∨
        2 ^ (31 : Nat) ≤ (lower first).length ∧
          applyFunction .indexOf [.string s, .string x] = .error .tooLong) ∧
    ∀ i, applyFunction .indexOf [.string s, .string x] = .ok (.int32 i) → 0 ≤ i.toInt →
      'İ' ∉ s.toList.take i.toInt.toNat →
      ∃ rest, applyFunction .substring [.string s, .int32 i] = .ok (.string rest) ∧
        s.toList = s.toList.take i.toInt.toNat ++ rest.toList ∧
        ∃ b, applyFunction .startsWith [.string rest, .string x] = .ok (.boolean b) ∧
          (b = true ↔
            KeepsSigmas (lower x.toList).length (s.toList.take i.toInt.toNat) rest.toList []) := by
  refine ⟨fun rest hs => ⟨_, rfl, ?_⟩, fun first hs => ⟨_, rfl, ?_⟩, ⟨_, rfl, ?_⟩,
    fun first rest hs hkeeps => ?_, fun i hi hpositive hdotted => ?_⟩
  · rw [Text.startsWith_iff, hs, Text.isPrefix_lower_append_iff]
  · rw [Text.endsWith_iff, hs, Text.isSuffix_lower_append_iff]
  · rw [Text.occursIn_iff]
    exact exists₂_congr fun _ _ => eq_comm
  · obtain ⟨n, hn, hfound⟩ := Text.exists_indexOf?_lower hkeeps
    rw [applyFunction_indexOf, hs, hfound, Option.elim_some]
    rcases count_cases n with hcount | ⟨hlong, herror⟩
    · exact .inl hcount
    · exact .inr ⟨Nat.le_trans hlong hn, herror⟩
  · obtain ⟨hposition, hbegins⟩ := Text.isPrefix_of_indexOf? (indexOf?_of_indexOf hi hpositive)
    obtain ⟨hle, hdrop⟩ := Text.drop_lower hposition hdotted
    refine ⟨_, substring_of_le hpositive hle, ?_, _, rfl, ?_⟩
    · rw [String.toList_ofList, List.take_append_drop]
    · rw [Text.startsWith_iff, String.toList_ofList, ← Text.take_lowerBetween_eq_lower_iff, ← hdrop,
        ← List.prefix_iff_eq_take.1 hbegins, List.prefix_iff_eq_take]

/-- A letter in the other case, behind one that needs two bytes. -/
theorem stringFunctions_agree_accented :
    ∃ i rest, applyFunction .indexOf [.string "hélLo", .string "L"] = .ok (.int32 i) ∧
      applyFunction .substring [.string "hélLo", .int32 i] = .ok (.string rest) ∧
      applyFunction .startsWith [.string rest, .string "L"] = .ok (.boolean true) := by
  obtain ⟨-, -, -, hfound, hrest⟩ := stringFunctions_agree "hélLo" "L"
  have hsigma : 'Σ' ∉ "hélLo".toList := by decide
  have hdotted : 'İ' ∉ "hélLo".toList := by decide
  rcases hfound "hél".toList "o".toList rfl (Text.keepsSigmas_of_not_mem (by decide)) with
    ⟨i, hi, hpositive⟩ | ⟨hlong, -⟩
  · obtain ⟨rest, hsubstring, hs, b, hstart, hb⟩ :=
      hrest i hi hpositive fun hmem => hdotted (List.mem_of_mem_take hmem)
    have hkeeps : 'Σ' ∉ rest.toList := fun hmem =>
      hsigma (hs ▸ List.mem_append_right _ hmem)
    rw [hb.2 (Text.keepsSigmas_of_not_mem hkeeps)] at hstart
    exact ⟨i, rest, hi, hsubstring, hstart⟩
  · exact absurd hlong (by decide)

/-- A piece that ends in a sigma is not found where the word goes on, nor a sigma by itself where it ends a
word. Behind an `İ` the positions of `indexof` are not those of `substring`. -/
theorem stringFunctions_disagree :
    (applyFunction .startsWith [.string "ΑΣΑ", .string "ΑΣ"] = .ok (.boolean false) ∧
      applyFunction .endsWith [.string "ΑΣ", .string "Σ"] = .ok (.boolean false)) ∧
    (applyFunction .substringOf [.string "ΑΣ", .string "ΑΣΑ"] = .ok (.boolean true) ∧
      applyFunction .indexOf [.string "ΑΣΑ", .string "ΑΣ"] = .ok (.int32 (-1))) ∧
    (applyFunction .indexOf [.string "İİa", .string "a"] = .ok (.int32 4) ∧
      applyFunction .substring [.string "İİa", .int32 4] = .error (.startOutside 4 3)) ∧
    (applyFunction .indexOf [.string "İab", .string "a"] = .ok (.int32 2) ∧
      applyFunction .substring [.string "İab", .int32 2] = .ok (.string "b") ∧
      applyFunction .startsWith [.string "b", .string "a"] = .ok (.boolean false)) ∧
    applyFunction .indexOf [.string "ΑΣ", .string "ς"] = .ok (.int32 1) ∧
      applyFunction .substring [.string "ΑΣ", .int32 1] = .ok (.string "Σ") ∧
      applyFunction .startsWith [.string "Σ", .string "ς"] = .ok (.boolean false) := by
  have hword : Text.indexOf? (lower "ΑΣ".toList) (lower "ΑΣΑ".toList) = none := by decide +kernel
  have houtside : Text.indexOf? (lower "a".toList) (lower "İİa".toList) = some 4 := by decide +kernel
  have hbehind : Text.indexOf? (lower "a".toList) (lower "İab".toList) = some 2 := by decide +kernel
  have hfinal : Text.indexOf? (lower "ς".toList) (lower "ΑΣ".toList) = some 1 := by decide +kernel
  simp only [applyFunction_indexOf, hword, houtside, hbehind, hfinal]
  refine ⟨⟨?_, ?_⟩, ⟨?_, rfl⟩, ⟨rfl, rfl⟩, ⟨rfl, rfl, ?_⟩, rfl, rfl, ?_⟩
  all_goals exact congrArg (fun b => Except.ok (Value.boolean b)) (by decide +kernel)

end Evaluation
end RecordFilter
