import RecordFilter.Filter.Literal
import RecordFilter.Proofs.Spacing

/-!
# Texts of literals

Integers, guids and enumeration values are read from the text that shows them. The digits of a number
are read one by one in any base (`read_toDigits`); a guid is its hexadecimal digits in groups; an
enumeration value is a member name, a list of member names or a number, and these cannot be confused
with each other as long as no name looks like a number or a list.

Main statements: `int32?_ofInt`, `int64?_ofInt`, `Guid.read?_render` and `EnumType.read?_describe`.
-/

namespace RecordFilter

/-! ## Digits -/

/-- A reader that goes over digits and multiplies what there is so far by the base reads a number from
its digits. -/
theorem read_toDigits {b : Nat} (read : Nat → Text → Option Nat) (hb : 1 < b)
    (hstep : ∀ acc d t, d < b → read acc (Nat.digitChar d :: t) = read (acc * b + d) t)
    (n : Nat) (t : Text) : read 0 (Nat.toDigits b n ++ t) = read n t := by
  induction n using Nat.base_induction b hb generalizing t with
  | single m hm => rw [Nat.toDigits_of_lt_base hm, List.singleton_append, hstep 0 m t hm, Nat.zero_mul,
      Nat.zero_add]
  | digit m k hk hm ih =>
    rw [← Nat.toDigits_append_toDigits hb hm hk, List.append_assoc, ih, Nat.toDigits_of_lt_base hk,
      List.singleton_append, hstep m k t hk, Nat.mul_comm]

theorem mem_toDigits {b n : Nat} (hb : 1 < b) {c : Char} (h : c ∈ Nat.toDigits b n) :
    ∃ d < b, c = Nat.digitChar d := by
  induction n using Nat.base_induction b hb with
  | single m hm =>
    rw [Nat.toDigits_of_lt_base hm, List.mem_singleton] at h
    exact ⟨m, hm, h⟩
  | digit m k hk hm ih =>
    rw [← Nat.toDigits_append_toDigits hb hm hk, Nat.toDigits_of_lt_base hk] at h
    rcases List.mem_append.1 h with h | h
    · exact ih h
    · exact ⟨k, hk, List.mem_singleton.1 h⟩

/-! ## Integers -/

namespace Numeral

theorem digit?_digitChar {d : Nat} (hd : d < 10) : digit? (Nat.digitChar d) = some d := by
  have hall : ∀ d : Fin 10, digit? (Nat.digitChar d) = some d.val := by decide
  exact hall ⟨d, hd⟩

theorem isDigit_of_mem_ofNat {n : Nat} {c : Char} (h : c ∈ ofNat n) : isDigit c = true := by
  obtain ⟨d, hd, rfl⟩ := mem_toDigits (by decide) h
  rw [isDigit, digit?_digitChar hd]
  rfl

/-- A natural number is read back from its digits. -/
theorem nat?_ofNat (n : Nat) : nat? (ofNat n) = some n := by
  have hread := read_toDigits (b := 10) foldDigits? (by decide)
    (fun acc d t hd => by rw [foldDigits?, digit?_digitChar hd, Option.bind_some]) n []
  rw [List.append_nil] at hread
  unfold nat? ofNat
  rw [if_neg (by simp [Nat.toDigits_ne_nil]), hread]
  rfl

/-- An integer between the bounds is read from its text. -/
theorem signed?_ofInt {low high n : Int} (hlow : low ≤ n) (hhigh : n ≤ high) :
    signed? low high (ofInt n) = some n := by
  have hbounds : (low ≤ n ∧ n ≤ high) := ⟨hlow, hhigh⟩
  unfold signed? ofInt
  by_cases hneg : n < 0
  · simp only [if_pos hneg, nat?_ofNat]
    have habs : -(n.natAbs : Int) = n := by omega
    show Option.filter _ (some (-(n.natAbs : Int))) = some n
    rw [habs, Option.filter_some, if_pos (decide_eq_true hbounds)]
  · have habs : (n.natAbs : Int) = n := by omega
    -- the digits do not begin with a sign
    have hdigits : ∀ c t, ofNat n.natAbs = c :: t → c ≠ '-' ∧ c ≠ '+' := by
      intro c t h
      have hc := isDigit_of_mem_ofNat (n := n.natAbs) (c := c) (by rw [h]; exact List.mem_cons_self)
      refine ⟨?_, ?_⟩ <;> rintro rfl <;> cases hc
    simp only [if_neg hneg]
    split
    · rename_i h
      exact absurd rfl (hdigits _ _ h).1
    · rename_i h
      exact absurd rfl (hdigits _ _ h).2
    · simp [nat?_ofNat, Option.filter, habs, hbounds]

/-- An integer of 32 bits is read back from its digits. -/
theorem int32?_ofInt (n : Int32) : int32? (ofInt n.toInt) = some n := by
  have hlow := n.le_toInt
  have hhigh := n.toInt_lt
  rw [int32?, signed?_ofInt (by omega) (by omega), Option.map_some, Int32.ofInt_toInt]

/-- An integer of 64 bits is read back from its digits. -/
theorem int64?_ofInt (n : Int64) : int64? (ofInt n.toInt) = some n := by
  have hlow := n.le_toInt
  have hhigh := n.toInt_lt
  rw [int64?, signed?_ofInt (by omega) (by omega), Option.map_some, Int64.ofInt_toInt]

/-- The text of an integer has digits, perhaps behind a minus sign. -/
theorem mem_ofInt {n : Int} {c : Char} (h : c ∈ ofInt n) : c = '-' ∨ isDigit c = true := by
  unfold ofInt at h
  split at h
  · rcases List.mem_cons.1 h with rfl | h
    · exact .inl rfl
    · exact .inr (isDigit_of_mem_ofNat h)
  · exact .inr (isDigit_of_mem_ofNat h)

/-- Only digits can be read as digits. -/
theorem foldDigits?_eq_none {c : Char} {t : Text} (hc : c ∈ t) (hdigit : isDigit c = false) (n : Nat) :
    foldDigits? n t = none := by
  induction t generalizing n with
  | nil => cases hc
  | cons d t ih =>
    rw [foldDigits?]
    cases hd : digit? d with
    | none => rfl
    | some k =>
      rcases List.mem_cons.1 hc with rfl | hc
      · rw [isDigit, hd] at hdigit
        cases hdigit
      · exact ih hc _

/-- A text is no integer if it has a character that is neither a digit nor a sign. -/
theorem int64?_eq_none {c : Char} {t : Text} (hc : c ∈ t) (hdigit : isDigit c = false) (hminus : c ≠ '-')
    (hplus : c ≠ '+') : int64? t = none := by
  have hnat : ∀ {u : Text}, c ∈ u → nat? u = none := by
    intro u hu
    rw [nat?]
    split
    · rfl
    · exact foldDigits?_eq_none hu hdigit 0
  unfold int64? signed?
  split
  · rw [hnat ((List.mem_cons.1 hc).resolve_left hminus)]
    rfl
  · rw [hnat ((List.mem_cons.1 hc).resolve_left hplus)]
    rfl
  · rw [hnat hc]
    rfl

theorem toNat_of_isDigit {c : Char} (h : isDigit c = true) : 48 ≤ c.toNat ∧ c.toNat ≤ 57 := by
  unfold isDigit digit? at h
  split at h
  · rename_i hdigit
    simp only [Char.le_def, UInt32.le_iff_toNat_le] at hdigit
    have hval : c.toNat = c.val.toNat := rfl
    simp at hdigit
    omega
  · cases h

theorem isBlankChar_of_isDigit {c : Char} (h : isDigit c = true) : Text.isBlankChar c = false := by
  obtain ⟨hlow, hhigh⟩ := toNat_of_isDigit h
  exact Text.isBlankChar_of_visible (by omega)

theorem ofInt_ne_nil (n : Int) : ofInt n ≠ [] := by
  unfold ofInt ofNat
  split
  · simp
  · exact Nat.toDigits_ne_nil

theorem isTrimmed_ofInt (n : Int) : Text.IsTrimmed (ofInt n) := by
  refine .of_word (ofInt_ne_nil n) fun c hc => ?_
  rcases mem_ofInt hc with rfl | hdigit
  · rfl
  · exact isBlankChar_of_isDigit hdigit

/-- The texts of numbers: digits, with a minus sign in front, a point in between and the mark of decimals
at the end where there are such. -/
structure IsNumeral (t : Text) : Prop where
  first : ∃ c rest, t = c :: rest ∧ (c = '-' ∨ isDigit c = true)
  chars : ∀ c ∈ t, c = '-' ∨ isDigit c = true ∨ c = '.' ∨ c = 'M'

/-- The text of an integer is a numeral. -/
theorem isNumeral_ofInt (n : Int) : IsNumeral (ofInt n) := by
  obtain ⟨c, rest, hcons⟩ := List.exists_cons_of_ne_nil (ofInt_ne_nil n)
  refine ⟨⟨c, rest, hcons, mem_ofInt (by rw [hcons]; exact List.mem_cons_self)⟩, fun c hc => ?_⟩
  rcases mem_ofInt hc with hc | hc
  · exact .inl hc
  · exact .inr (.inl hc)

namespace IsNumeral

variable {t : Text}

theorem ne_nil (h : IsNumeral t) : t ≠ [] := by
  obtain ⟨c, rest, rfl, -⟩ := h.first
  simp

/-- A numeral has digits, signs, points and the mark `M` in it, and nothing else. -/
theorem toNat_of_mem (h : IsNumeral t) {c : Char} (hc : c ∈ t) :
    45 ≤ c.toNat ∧ c.toNat ≤ 57 ∧ c.toNat ≠ 47 ∨ c.toNat = 77 := by
  rcases h.chars c hc with rfl | hdigit | rfl | rfl
  · exact .inl (by decide)
  · have := toNat_of_isDigit hdigit
    omega
  · exact .inl (by decide)
  · exact .inr rfl

theorem not_mem (h : IsNumeral t) {c : Char}
    (hc : c.toNat < 45 ∨ c.toNat = 47 ∨ 57 < c.toNat ∧ c.toNat ≠ 77) : c ∉ t := by
  intro hmem
  have := h.toNat_of_mem hmem
  omega

theorem isBlankChar_of_mem (h : IsNumeral t) {c : Char} (hc : c ∈ t) : Text.isBlankChar c = false := by
  rcases h.chars c hc with rfl | hdigit | rfl | rfl
  · rfl
  · exact isBlankChar_of_isDigit hdigit
  · rfl
  · rfl

theorem isTrimmed (h : IsNumeral t) : Text.IsTrimmed t :=
  .of_word h.ne_nil fun _ => h.isBlankChar_of_mem

end IsNumeral

end Numeral

/-! ## Guids -/

namespace Guid

theorem hexDigit?_digitChar {d : Nat} (hd : d < 16) : hexDigit? (Nat.digitChar d) = some d := by
  have hall : ∀ d : Fin 16, hexDigit? (Nat.digitChar d) = some d.val := by decide
  exact hall ⟨d, hd⟩

theorem foldHex?_digitChar {acc d : Nat} {t : Text} (hd : d < 16) :
    foldHex? acc (Nat.digitChar d :: t) = foldHex? (acc * 16 + d) t := by
  rw [foldHex?, hexDigit?_digitChar hd, Option.bind_some]

/-- Zeros in front make no difference. -/
theorem foldHex?_hexText (n width : Nat) : foldHex? 0 (hexText n width) = some n := by
  have hzeros : ∀ k t, foldHex? 0 (List.replicate k '0' ++ t) = foldHex? 0 t := by
    intro k t
    induction k with
    | zero => rfl
    | succ k ih =>
      rw [List.replicate_succ, List.cons_append]
      exact (foldHex?_digitChar (d := 0) (by decide)).trans ih
  have hread := read_toDigits (b := 16) foldHex? (by decide)
    (fun acc d t hd => foldHex?_digitChar hd) n []
  rw [List.append_nil] at hread
  rw [hexText, Numeral.padStart, hzeros, hread]
  rfl

theorem length_hexText (g : Guid) : (hexText g.value 32).length = 32 := by
  have hlength := (Nat.length_toDigits_le_iff (n := g.value) (b := 16) (k := 32) (by decide)
    (by decide)).2 (Nat.lt_of_lt_of_le g.value_lt (by decide))
  rw [hexText, Numeral.padStart, List.length_append, List.length_replicate]
  omega

/-- A lower-case hexadecimal digit. -/
def IsHex (c : Char) : Prop :=
  ∃ d < 16, c = Nat.digitChar d

/-- A number in base sixteen is written with hexadecimal digits. -/
theorem isHex_of_mem_hexText {n width : Nat} {c : Char} (h : c ∈ hexText n width) : IsHex c := by
  rw [hexText, Numeral.padStart] at h
  rcases List.mem_append.1 h with h | h
  · exact ⟨0, by decide, (List.mem_replicate.1 h).2⟩
  · exact mem_toDigits (by decide) h

/-- What holds of the sixteen digits holds of every hexadecimal digit. -/
theorem IsHex.all {c : Char} (h : IsHex c) {P : Char → Prop}
    (hall : ∀ d : Fin 16, P (Nat.digitChar d)) : P c := by
  obtain ⟨d, hd, rfl⟩ := h
  exact hall ⟨d, hd⟩

/-- The text of a guid has digits and hyphens. -/
theorem mem_render {g : Guid} {c : Char} (h : c ∈ g.render) : c = '-' ∨ IsHex c := by
  have hgroup : ∀ start size, c ∈ ((hexText g.value 32).drop start).take size → IsHex c :=
    fun start size h => isHex_of_mem_hexText (List.mem_of_mem_drop (List.mem_of_mem_take h))
  simp only [render, Text.join, List.mem_append, List.mem_singleton] at h
  rcases h with (h | h) | (h | h) | (h | h) | (h | h) | h
  all_goals first | exact .inl h | exact .inr (hgroup _ _ h)

/-- The digits of a guid in groups. -/
def groups (digits : Text) : List Text :=
  let group (start size : Nat) := (digits.drop start).take size
  [group 0 8, group 8 4, group 12 4, group 16 4, group 20 12]

/-- The groups of a guid are its digits. -/
theorem flatten_groups {digits : Text} (h : digits.length = 32) : (groups digits).flatten = digits := by
  have hnext : ∀ start size, (digits.drop start).take size ++ digits.drop (start + size)
      = digits.drop start := by
    intro start size
    rw [← List.drop_drop, List.take_append_drop]
  have hlast : (digits.drop 20).take 12 = digits.drop 20 :=
    List.take_of_length_le (by simp [h])
  simp only [groups, List.flatten_cons, List.flatten_nil, List.append_nil, hlast]
  rw [hnext 16 4, hnext 12 4, hnext 8 4, hnext 0 8, List.drop_zero]

/-- Grouped digits are read as the number of the digits. -/
theorem readGroups?_join {digits : Text} (hlength : digits.length = 32)
    (hhex : ∀ c ∈ digits, IsHex c) :
    readGroups? (Text.join ['-'] (groups digits)) = readDigits? digits := by
  have hhyphen : ¬IsHex '-' := by
    rintro ⟨d, hd, heq⟩
    have hall : ∀ d : Fin 16, '-' ≠ Nat.digitChar d := by decide
    exact hall ⟨d, hd⟩ heq
  have hgroups : ∀ group ∈ groups digits, '-' ∉ group := by
    intro group hgroup hmem
    refine hhyphen (hhex _ ?_)
    rw [← flatten_groups hlength]
    exact List.mem_flatten.2 ⟨group, hgroup, hmem⟩
  have hsplit : Text.split '-' (Text.join ['-'] (groups digits)) = groups digits :=
    Text.split_join hgroups
  unfold readGroups?
  simp only [hsplit, flatten_groups hlength]
  rw [if_pos (by simp [groups, hlength])]

/-- A guid is read back from its number. -/
theorem ofNat_value (g : Guid) : ofNat g.value = g := by
  obtain ⟨value, hlt⟩ := g
  simp only [ofNat, mk.injEq]
  exact Nat.mod_eq_of_lt hlt

/-- A guid is read from its text. -/
theorem read?_render (g : Guid) : read? g.render = some g := by
  have hlength := length_hexText g
  have hhex : ∀ c ∈ hexText g.value 32, IsHex c := fun c => isHex_of_mem_hexText
  have hfold := foldHex?_hexText g.value 32
  have hrender : g.render = Text.join ['-'] (groups (hexText g.value 32)) := rfl
  have hread := readGroups?_join hlength hhex
  rw [← hrender] at hread
  have hlength' : g.render.length = 36 := by
    simp [hrender, groups, Text.join, hlength]
  -- the first digit tells the text from the other two forms
  obtain ⟨c, rest, hdigits⟩ : ∃ c rest, hexText g.value 32 = c :: rest :=
    List.exists_cons_of_length_pos (by rw [hlength]; decide)
  obtain ⟨tail, htail⟩ : ∃ tail, g.render = c :: tail := by
    rw [hrender, hdigits]
    exact ⟨_, rfl⟩
  have hc : IsHex c := hhex c (by rw [hdigits]; exact List.mem_cons_self)
  have hbrace : '\x7b' ≠ c := hc.all (by decide)
  have hurn : 'u' ≠ c := hc.all (by decide)
  have hbraced : braced? g.render = none := by
    rw [htail, braced?, Text.dropStart?, if_neg hbrace]
    rfl
  have hprefix : Text.dropStart? "urn:uuid:".toList g.render = none := by
    rw [htail]
    exact if_neg hurn
  unfold read?
  rw [if_neg (by rw [hlength']; decide), hbraced, hprefix]
  simp only
  rw [hread, readDigits?, if_pos hlength, hfold, Option.map_some, ofNat_value]

end Guid

/-! ## Identifiers -/

/-- Whether a character is an ASCII letter, a digit or an underscore. -/
def isIdentifierChar (c : Char) : Bool :=
  c.isAlphanum || c == '_'

/-- Whether a text is an ASCII letter or an underscore, and after that letters, digits and
underscores. -/
def isIdentifier : Text → Bool
  | [] => false
  | c :: t => (c.isAlpha || c == '_') && t.all isIdentifierChar

/-- The codes of letters. -/
theorem toNat_of_isAlpha {c : Char} (h : c.isAlpha = true) :
    65 ≤ c.toNat ∧ c.toNat ≤ 90 ∨ 97 ≤ c.toNat ∧ c.toNat ≤ 122 := by
  have hletter : (decide (65 ≤ c.val ∧ c.val ≤ 90) || (97 ≤ c.val && c.val ≤ 122)) = true := h
  simpa [UInt32.le_iff_toNat_le] using hletter

/-- The characters of identifiers lie between `0` and `z`. -/
theorem toNat_of_isIdentifierChar {c : Char} (h : isIdentifierChar c = true) :
    48 ≤ c.toNat ∧ c.toNat ≤ 122 := by
  rw [isIdentifierChar, Char.isAlphanum, Bool.or_eq_true, Bool.or_eq_true, beq_iff_eq] at h
  rcases h with (hletter | hdigit) | rfl
  · have := toNat_of_isAlpha hletter
    omega
  · have hrange : (48 ≤ c.val && c.val ≤ 57) = true := hdigit
    have hval : c.toNat = c.val.toNat := rfl
    simp [UInt32.le_iff_toNat_le] at hrange
    omega
  · decide

/-- What stands before `0` is in no identifier. -/
theorem ne_of_isIdentifierChar {c d : Char} (h : isIdentifierChar c = true) (hd : d.toNat < 48) :
    c ≠ d := by
  rintro rfl
  have := (toNat_of_isIdentifierChar h).1
  omega

theorem isBlankChar_of_isIdentifierChar {c : Char} (h : isIdentifierChar c = true) :
    Text.isBlankChar c = false := by
  obtain ⟨hlow, hhigh⟩ := toNat_of_isIdentifierChar h
  exact Text.isBlankChar_of_visible (by omega)

section Identifiers

variable {t : Text}

theorem isIdentifierChar_of_mem (h : isIdentifier t = true) {c : Char} (hc : c ∈ t) :
    isIdentifierChar c = true := by
  cases t with
  | nil => cases hc
  | cons d t =>
    simp only [isIdentifier, Bool.and_eq_true, Bool.or_eq_true, List.all_eq_true] at h
    rcases List.mem_cons.1 hc with rfl | hc
    · unfold isIdentifierChar Char.isAlphanum
      rcases h.1 with h | h <;> simp [h]
    · exact h.2 c hc

theorem ne_nil_of_isIdentifier (h : isIdentifier t = true) : t ≠ [] := by
  rintro rfl
  cases h

theorem isTrimmed_of_isIdentifier (h : isIdentifier t = true) : Text.IsTrimmed t :=
  .of_word (ne_nil_of_isIdentifier h) fun _ hc =>
    isBlankChar_of_isIdentifierChar (isIdentifierChar_of_mem h hc)

/-- No number begins like an identifier. -/
theorem int64?_of_isIdentifier (h : isIdentifier t = true) (rest : Text) :
    Numeral.int64? (t ++ rest) = none := by
  cases t with
  | nil => cases h
  | cons c t =>
    have hmem := isIdentifierChar_of_mem h (c := c) List.mem_cons_self
    have hminus : c ≠ '-' := ne_of_isIdentifierChar hmem (by decide)
    have hplus : c ≠ '+' := ne_of_isIdentifierChar hmem (by decide)
    have hdigit : Numeral.digit? c = none := by
      simp only [isIdentifier, Bool.and_eq_true, Bool.or_eq_true, beq_iff_eq] at h
      unfold Numeral.digit?
      rw [if_neg]
      rintro ⟨-, hnine⟩
      rcases h.1 with hletter | rfl
      · have hrange := toNat_of_isAlpha hletter
        have hbound : c.toNat ≤ 57 := hnine
        omega
      · exact absurd hnine (by decide)
    exact Numeral.int64?_eq_none List.mem_cons_self (by rw [Numeral.isDigit, hdigit]; rfl) hminus hplus

end Identifiers

/-! ## Enumerations -/

/-- The first element with a key that no other element has is the element itself. -/
theorem find?_eq_of_nodup {α β : Type} [BEq β] [LawfulBEq β] (key : α → β) {l : List α}
    (h : (l.map key).Nodup) {a : α} (ha : a ∈ l) : l.find? (fun b => key b == key a) = some a := by
  induction l with
  | nil => cases ha
  | cons b l ih =>
    rw [List.map_cons, List.nodup_cons] at h
    rcases List.mem_cons.1 ha with rfl | ha
    · exact List.find?_cons_of_pos (by simp)
    · rw [List.find?_cons_of_neg, ih h.2 ha]
      intro heq
      exact h.1 (List.mem_map.2 ⟨a, ha, (beq_iff_eq.1 heq).symm⟩)

namespace EnumType

/-- Whether the member names are identifiers and differ in more than case. -/
def isWellNamed (e : EnumType) : Bool :=
  e.members.all (fun member => isIdentifier member.1.toList)
    && decide (e.members.map fun member => Text.lowerAscii member.1.toList).Nodup

variable {e : EnumType}

theorem isIdentifier_of_mem (h : e.isWellNamed = true) {member : String × Int64}
    (hmem : member ∈ e.members) : isIdentifier member.1.toList = true := by
  simp only [isWellNamed, Bool.and_eq_true, List.all_eq_true] at h
  exact h.1 member hmem

/-- Whether a text can only be read as a member name: it is no number and no list, and has no blanks on
either side. -/
def isMemberName (t : Text) : Bool :=
  (Numeral.int64? t).isNone && !t.any isListMark && Text.trim t == t

/-- Whether every member is read from its name: the names are no numbers and no lists, and differ in more
than case. -/
def isUnambiguous (e : EnumType) : Bool :=
  e.members.all (fun member => isMemberName member.1.toList)
    && decide (e.members.map fun member => Text.lowerAscii member.1.toList).Nodup

theorem isListMark_of_isIdentifierChar {c : Char} (h : isIdentifierChar c = true) :
    isListMark c = false := by
  refine Bool.eq_false_iff.2 fun hmark => ?_
  simp only [isListMark, Bool.or_eq_true, beq_iff_eq] at hmark
  rcases hmark with rfl | rfl <;> exact absurd h (by decide)

/-- An identifier can name a member of an enum. -/
theorem isMemberName_of_isIdentifier {t : Text} (h : isIdentifier t = true) : isMemberName t = true := by
  have hnumber := int64?_of_isIdentifier h []
  have hmark : t.any isListMark = false := List.any_eq_false.2 fun c hc => by
    simpa using isListMark_of_isIdentifierChar (isIdentifierChar_of_mem h hc)
  rw [List.append_nil] at hnumber
  simp [isMemberName, hnumber, hmark, (isTrimmed_of_isIdentifier h).trim_eq]

/-- An enum whose members are named by different identifiers is unambiguous. -/
theorem isUnambiguous_of_isWellNamed (h : e.isWellNamed = true) : e.isUnambiguous = true := by
  simp only [isWellNamed, isUnambiguous, Bool.and_eq_true, List.all_eq_true] at h ⊢
  exact ⟨fun member hmember => isMemberName_of_isIdentifier (h.1 member hmember), h.2⟩

theorem isMemberName_of_mem (h : e.isUnambiguous = true) {member : String × Int64}
    (hmem : member ∈ e.members) : isMemberName member.1.toList = true := by
  simp only [isUnambiguous, Bool.and_eq_true, List.all_eq_true] at h
  exact h.1 member hmem

/-- In an unambiguous enum a member is found by its name. -/
theorem memberValue?_of_mem (h : e.isUnambiguous = true) {member : String × Int64}
    (hmem : member ∈ e.members) : e.memberValue? member.1.toList = some member.2 := by
  simp only [isUnambiguous, Bool.and_eq_true, decide_eq_true_eq] at h
  have hfind := find?_eq_of_nodup (fun member : String × Int64 => Text.lowerAscii member.1.toList)
    h.2 hmem
  unfold memberValue? Text.eqIgnoreCase
  rw [hfind]
  rfl

/-- Members of value zero add nothing to a combination of flags. -/
theorem foldl_or_nonzero (members : List (String × Int64)) (value : Int64) :
    ((members.filter fun member => member.2 != 0).map Prod.snd).foldl (· ||| ·) value
      = (members.map Prod.snd).foldl (· ||| ·) value := by
  induction members generalizing value with
  | nil => rfl
  | cons member members ih =>
    by_cases hzero : member.2 = 0
    · simp [hzero, ih]
    · simp [hzero, ih]

/-- The text of a value: a member name, a list of at least two member names, or a number. -/
theorem describe_cases (e : EnumType) (value : Int64) :
    (∃ member ∈ e.members, member.2 = value ∧ (e.describe value).toList = member.1.toList) ∨
    (∃ members : List (String × Int64), (∀ member ∈ members, member ∈ e.members) ∧
      e.flags = true ∧ 2 ≤ members.length ∧ (members.map Prod.snd).foldl (· ||| ·) 0 = value ∧
      (e.describe value).toList = Text.join [',', ' '] (members.map fun member => member.1.toList)) ∨
    (e.describe value).toList = Numeral.ofInt value.toInt := by
  unfold describe
  cases hname : e.memberName? value with
  | some name =>
    left
    obtain ⟨member, hfind, rfl⟩ := Option.map_eq_some_iff.1 hname
    have hvalue := List.find?_some hfind
    exact ⟨member, List.mem_of_find?_eq_some hfind, by simpa using hvalue, rfl⟩
  | none =>
    right
    simp only
    split
    · rename_i hflags
      left
      simp only [Bool.and_eq_true, beq_iff_eq, Bool.not_eq_true', List.isEmpty_eq_false_iff] at hflags
      obtain ⟨⟨⟨hflags, -⟩, hnames⟩, hfold⟩ := hflags
      have hmem : ∀ member ∈ (e.covered value).filter (fun member => member.2 != 0),
          member ∈ e.members :=
        fun member hmember => (List.mem_filter.1 (List.mem_filter.1 hmember).1).1
      rw [← foldl_or_nonzero] at hfold
      generalize (e.covered value).filter (fun member => member.2 != 0) = members at *
      refine ⟨members, hmem, hflags, ?_, hfold, ?_⟩
      · -- a single member has the value itself, which is no member's
        match members, hmem, hnames, hfold with
        | [], _, hnames, _ => exact absurd rfl hnames
        | [member], hmem, _, hfold =>
          simp only [memberName?, Option.map_eq_none_iff, List.find?_eq_none, beq_iff_eq] at hname
          exact absurd (by simpa using hfold) (hname member (hmem member List.mem_cons_self))
        | _ :: _ :: _, _, _, _ => simp
      · rw [String.toList_intercalate, Text.join_eq_intercalate, List.map_map]
        rfl
    · exact .inr String.toList_ofList

/-- The names of members are looked up one by one. -/
theorem mapM_memberValue? (h : e.isUnambiguous = true) {members : List (String × Int64)}
    (hmem : ∀ member ∈ members, member ∈ e.members) :
    (members.map fun member => member.1.toList).mapM e.memberValue? = some (members.map Prod.snd) := by
  induction members with
  | nil => rfl
  | cons member members ih =>
    obtain ⟨hmember, hothers⟩ := List.forall_mem_cons.1 hmem
    rw [List.map_cons, List.mapM_cons, memberValue?_of_mem h hmember, ih hothers]
    rfl

/-- A list of member names is taken apart into the names. Where a name is empty, its comma is what the text
begins or ends with. -/
theorem map_trim_splitWhere_join {names : List Text} (hne : names ≠ [])
    (h : ∀ name ∈ names, isMemberName name = true) :
    (Text.splitWhere isListMark (Text.trim (Text.join [',', ' '] names))).map Text.trim = names := by
  have hplain : ∀ name ∈ names, ∀ c ∈ name, isListMark c = false := by
    intro name hname c hc
    have hmark := h name hname
    simp only [isMemberName, Bool.and_eq_true, Bool.not_eq_true'] at hmark
    simpa using List.any_eq_false.1 hmark.1.2 c hc
  have htrim : ∀ name ∈ names, Text.trim name = name := by
    intro name hname
    have hmember := h name hname
    simp only [isMemberName, Bool.and_eq_true, beq_iff_eq] at hmember
    exact hmember.2
  have hblank : ∀ c, Text.isBlankChar c = true → isListMark c = false := by
    intro c hc
    refine Bool.eq_false_iff.2 fun hmark => ?_
    simp only [isListMark, Bool.or_eq_true, beq_iff_eq] at hmark
    rcases hmark with rfl | rfl <;> cases hc
  obtain ⟨first, others, rfl⟩ := List.exists_cons_of_ne_nil hne
  rw [Text.map_trim_splitWhere_trim hblank, Text.splitWhere_join isListMark ',' [' '] rfl (by decide) hplain,
    List.map_cons, List.map_map, htrim first List.mem_cons_self]
  -- the space after a comma goes to the next name
  refine congrArg (first :: ·) ((List.map_congr_left fun name hname => ?_).trans (List.map_id _))
  exact (Text.trim_space_cons name).trans (htrim name (List.mem_cons_of_mem first hname))

/-- The names of members, in a list, are read as the members together. -/
theorem read?_join (h : e.isUnambiguous = true) (hflags : e.flags = true)
    {members : List (String × Int64)} (hlength : 2 ≤ members.length)
    (hmem : ∀ member ∈ members, member ∈ e.members) :
    e.read? (Text.join [',', ' '] (members.map fun member => member.1.toList)) =
      some ((members.map Prod.snd).foldl (· ||| ·) 0) := by
  have hne : members.map (fun member => member.1.toList) ≠ [] := by
    rintro hnil
    simp [List.map_eq_nil_iff.1 hnil] at hlength
  have hpieces := map_trim_splitWhere_join hne
    (List.forall_mem_map.2 fun member hmember => isMemberName_of_mem h (hmem member hmember))
  have hcomma : ',' ∈ Text.trim (Text.join [',', ' '] (members.map fun member => member.1.toList)) := by
    match members, hlength with
    | first :: next :: rest, _ => exact Text.mem_trim (by simp [Text.join]) rfl
  have hnumber := Numeral.int64?_eq_none hcomma rfl (by decide) (by decide)
  unfold read?
  simp only [hnumber]
  rw [if_pos (by rw [hflags, List.any_eq_true.2 ⟨',', hcomma, rfl⟩]; rfl)]
  have hvalues := mapM_memberValue? h hmem
  rw [← hpieces, List.mapM_map] at hvalues
  exact congrArg (Option.map _) hvalues

/-- A value is read from its text. -/
theorem read?_describe (h : e.isUnambiguous = true) (value : Int64) :
    e.read? (e.describe value).toList = some value := by
  rcases describe_cases e value with ⟨member, hmem, rfl, htext⟩ |
    ⟨members, hmem, hflags, hlength, rfl, htext⟩ | htext
  · have hname := isMemberName_of_mem h hmem
    simp only [isMemberName, Bool.and_eq_true, Option.isNone_iff_eq_none, Bool.not_eq_true',
      beq_iff_eq] at hname
    obtain ⟨⟨hnumber, hmark⟩, htrim⟩ := hname
    unfold read?
    simp only [htext, htrim, hnumber, hmark, Bool.and_false]
    exact memberValue?_of_mem h hmem
  · rw [htext]
    exact read?_join h hflags hlength hmem
  · unfold read?
    rw [htext, (Numeral.isTrimmed_ofInt value.toInt).trim_eq]
    simp only [Numeral.int64?_ofInt]

/-- Names that differ in more than case are different in lower case. -/
theorem nodup_lowerAscii_of_pairwise {members : List (String × Int64)}
    (h : members.Pairwise fun a b => Text.eqIgnoreCase a.1.toList b.1.toList = false) :
    (members.map fun member => Text.lowerAscii member.1.toList).Nodup := by
  rw [List.Nodup, List.pairwise_map]
  exact h.imp fun hdiffers hsame => by simp [Text.eqIgnoreCase, hsame] at hdiffers

theorem isMemberName_of {t : Text} (hnumber : Numeral.int64? t = none)
    (hmark : ∀ c ∈ t, isListMark c = false) (htrim : Text.trim t = t) : isMemberName t = true := by
  have hany : t.any isListMark = false := List.any_eq_false.2 fun c hc => by simp [hmark c hc]
  simp [isMemberName, hnumber, hany, htrim]

/-- Every value is read from its text if the names of the members differ in more than case, and if no name is
a number, has a comma or a bar, or has blanks on either side. A name may be empty, members may share a value,
and their bits may overlap. -/
theorem read?_describe_of_distinct (e : EnumType)
    (hdistinct : e.members.Pairwise fun a b => Text.eqIgnoreCase a.1.toList b.1.toList = false)
    (hnumber : ∀ member ∈ e.members, Numeral.int64? member.1.toList = none)
    (hmark : ∀ member ∈ e.members, ',' ∉ member.1.toList ∧ '|' ∉ member.1.toList)
    (htrim : ∀ member ∈ e.members, Text.trim member.1.toList = member.1.toList) (value : Int64) :
    e.read? (e.describe value).toList = some value := by
  refine read?_describe ?_ value
  simp only [isUnambiguous, Bool.and_eq_true, List.all_eq_true, decide_eq_true_eq]
  refine ⟨fun member hmem => ?_, nodup_lowerAscii_of_pairwise hdistinct⟩
  refine isMemberName_of (hnumber member hmem) (fun c hc => ?_) (htrim member hmem)
  obtain ⟨hcomma, hbar⟩ := hmark member hmem
  have hc' : c ≠ ',' ∧ c ≠ '|' := ⟨fun h => hcomma (h ▸ hc), fun h => hbar (h ▸ hc)⟩
  simp [isListMark, hc'.1, hc'.2]

/-- Two members share a value, one covers the others, and one is zero. The value 3 is a list of three names,
and 8 is a number. -/
theorem read?_describe_of_distinct_access :
    let e : EnumType := ⟨"Access", true,
      [("All", -1), ("None", 0), ("Read", 1), ("Write", 2), ("Change", 2)]⟩
    (e.describe 3 = "Read, Write, Change" ∧ e.read? (e.describe 3).toList = some 3) ∧
      e.describe 8 = "8" ∧ e.read? (e.describe 8).toList = some 8 := by
  intro e
  have hread := read?_describe_of_distinct e (by decide) (by decide) (by decide) (by decide)
  exact ⟨⟨by decide +kernel, hread 3⟩, by decide +kernel, hread 8⟩

end EnumType
end RecordFilter
