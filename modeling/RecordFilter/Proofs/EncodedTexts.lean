import RecordFilter.Text.Percent

/-!
# Encoded texts

A text is read from its bytes, and its bytes from the percent encoding of it. The bytes of one character
are taken up one by one: the leading byte says how many follow, and each of these adds six bits
(`Utf8.exists_next`). A reader that first turns plus signs into spaces changes nothing, since an encoded
text has no plus sign.

Main statements: `Utf8.decode?_encode`, `Percent.bytes_plusToSpace_encode` and `Percent.mem_encode`.
-/

namespace RecordFilter

/-! ## Bytes of a text -/

namespace Utf8

/-- A byte that goes on with a character: the last six bits of a number. -/
def continuation (n : Nat) : UInt8 :=
  UInt8.ofNat (n % 64 + 128)

/-- The byte that `continuation` makes holds six bits behind its mark. -/
theorem toNat_continuation (n : Nat) : (continuation n).toNat = n % 64 + 128 := by
  rw [continuation, UInt8.toNat_ofNat']
  omega

/-- What `continuation` makes is recognised by `isContinuation`. -/
theorem isContinuation_continuation (n : Nat) : isContinuation (continuation n) = true := by
  have hall : ∀ m : Fin 64, isContinuation (UInt8.ofNat (m.val + 128)) = true := by decide
  exact hall ⟨n % 64, Nat.mod_lt _ (by decide)⟩

/-- `continue?` reads the six bits of a continuation and goes on. -/
theorem continue?_continuation (count bits n : Nat) (rest : List UInt8) :
    continue? (count + 1) bits (continuation n :: rest) = continue? count (bits * 64 + n % 64) rest := by
  rw [continue?, if_pos (isContinuation_continuation n), toNat_continuation]
  congr 1
  omega

/-- The second byte must rule out characters that need fewer bytes, halves of pairs, and what lies beyond
the last character. -/
theorem secondFits_continuation {first : UInt8} {n : Nat} (he0 : first.toNat = 0xE0 → 0x20 ≤ n % 64)
    (hed : first.toNat = 0xED → n % 64 < 0x20) (hf0 : first.toNat = 0xF0 → 0x10 ≤ n % 64)
    (hf4 : first.toNat = 0xF4 → n % 64 < 0x10) : secondFits first (continuation n) = true := by
  have hn := toNat_continuation n
  simp [secondFits, isContinuation_continuation, UInt8.lt_iff_toNat_lt, ← UInt8.toNat_inj, hn]
  omega

theorem toNat_leading {n : Nat} (h : n < 256) : (UInt8.ofNat n).toNat = n := by
  rw [UInt8.toNat_ofNat', Nat.mod_eq_of_lt h]

/-- The bytes after the first one are read one by one. -/
theorem next_leading {first : UInt8} {count bits n : Nat} (rest : List UInt8)
    (hfirst : count = 0 ∧ first.toNat = bits + 0xC0 ∧ 2 ≤ bits ∧ bits < 0x20 ∨
      count = 1 ∧ first.toNat = bits + 0xE0 ∧ bits < 0x10 ∨
      count = 2 ∧ first.toNat = bits + 0xF0 ∧ bits < 5)
    (hsecond : secondFits first (continuation n) = true) :
    next first (continuation n :: rest) = continue? count (bits * 64 + n % 64) rest := by
  have hleading : leadingByte? first = some (count + 1, bits) := by
    rcases hfirst with ⟨rfl, hfirst, hbits⟩ | ⟨rfl, hfirst, hbits⟩ | ⟨rfl, hfirst, hbits⟩
    all_goals grind [leadingByte?]
  rw [next, hleading]
  simp only [hsecond, if_true, continue?_continuation]

/-- The bytes of a character are read as the character. -/
theorem exists_next (c : Char) (rest : List UInt8) : ∃ first others,
    String.utf8EncodeChar c = first :: others ∧ next first (others ++ rest) = (some c, rest) := by
  have hvalid : c.toNat < 0xD800 ∨ 0xDFFF < c.toNat ∧ c.toNat < 0x110000 := c.valid
  have hval : c.val.toNat = c.toNat := rfl
  have hchar : ∀ {n : Nat}, n = c.toNat → Char.ofNat n = c := fun h => by rw [h, Char.ofNat_toNat]
  simp only [String.utf8EncodeChar, hval]
  by_cases hone : c.toNat ≤ 0x7F
  · refine ⟨_, _, if_pos hone, ?_⟩
    have hleading : leadingByte? (UInt8.ofNat c.toNat) = some (0, c.toNat) := by
      simp only [leadingByte?, toNat_leading (n := c.toNat) (by omega)]
      exact if_pos (by omega)
    rw [next, hleading]
    simp only [List.nil_append, Char.ofNat_toNat]
  rw [if_neg hone]
  by_cases htwo : c.toNat ≤ 0x7FF
  · have hfirst := toNat_leading (n := c.toNat / 64 % 32 + 0xC0) (by omega)
    refine ⟨_, _, if_pos htwo, ?_⟩
    refine (next_leading rest (.inl ⟨rfl, hfirst, by omega⟩)
      (secondFits_continuation ?_ ?_ ?_ ?_)).trans ?_
    any_goals omega
    rw [continue?, hchar (by omega)]
  rw [if_neg htwo]
  by_cases hthree : c.toNat ≤ 0xFFFF
  · have hfirst := toNat_leading (n := c.toNat / 4096 % 16 + 0xE0) (by omega)
    refine ⟨_, _, if_pos hthree, ?_⟩
    refine (next_leading (continuation c.toNat :: rest) (.inr (.inl ⟨rfl, hfirst, by omega⟩))
      (secondFits_continuation ?_ ?_ ?_ ?_)).trans ?_
    any_goals omega
    rw [continue?_continuation, continue?, hchar (by omega)]
  · have hfirst := toNat_leading (n := c.toNat / 262144 % 8 + 0xF0) (by omega)
    refine ⟨_, _, if_neg hthree, ?_⟩
    refine (next_leading (continuation (c.toNat / 64) :: continuation c.toNat :: rest)
      (.inr (.inr ⟨rfl, hfirst, by omega⟩)) (secondFits_continuation ?_ ?_ ?_ ?_)).trans ?_
    any_goals omega
    rw [continue?_continuation, continue?_continuation, continue?, hchar (by omega)]

/-- `Utf8.encode` goes character by character. -/
theorem encode_cons (c : Char) (t : Text) : encode (c :: t) = String.utf8EncodeChar c ++ encode t :=
  List.flatMap_cons

/-- `characters` reads one character from its bytes and leaves the rest. -/
theorem characters_encodeChar (c : Char) (rest : List UInt8) :
    characters (String.utf8EncodeChar c ++ rest) = some c :: characters rest := by
  obtain ⟨first, others, hbytes, hnext⟩ := exists_next c rest
  rw [hbytes, List.cons_append, characters, hnext]

/-- `characters` reads all of an encoded text. -/
theorem characters_encode (t : Text) : characters (encode t) = t.map some := by
  induction t with
  | nil => simp [encode, characters]
  | cons c t ih =>
    rw [encode_cons, characters_encodeChar, ih, List.map_cons]

/-- A text is read from its bytes. -/
theorem decode?_encode (t : Text) : decode? (encode t) = some t := by
  rw [decode?, characters_encode]
  induction t with
  | nil => rfl
  | cons c t ih => simp_all

/-- Nothing is lost where `decodeLossy` reads an encoded text. -/
theorem decodeLossy_encode (t : Text) : decodeLossy (encode t) = t := by
  rw [decodeLossy, characters_encode, List.map_map]
  exact List.map_id t

end Utf8

/-! ## Percent encoding -/

namespace Percent

variable {c : Char} {t : Text}

/-- `hexDigit?` reads the digit that `hexChar` writes. -/
theorem hexDigit?_hexChar {n : Nat} (h : n < 16) : hexDigit? (hexChar n) = some n := by
  have hall : ∀ n : Fin 16, hexDigit? (hexChar n.val) = some n.val := by decide
  exact hall ⟨n, h⟩

/-- Hexadecimal digits are unreserved. -/
theorem isUnreserved_hexChar {n : Nat} (h : n < 16) : isUnreserved (hexChar n) = true := by
  have hall : ∀ n : Fin 16, isUnreserved (hexChar n.val) = true := by decide
  exact hall ⟨n, h⟩

theorem encodeUnless_cons (keep : Char → Bool) (c : Char) (t : Text) : encodeUnless keep (c :: t) =
    (if keep c then [c] else (String.utf8EncodeChar c).flatMap escape) ++ encodeUnless keep t :=
  List.flatMap_cons

/-- `Percent.bytes` reads an escaped byte. -/
theorem bytes_escape (b : UInt8) (t : Text) : bytes (escape b ++ t) = b :: bytes t := by
  have hb : b.toNat < 256 := b.toNat_lt
  rw [escape, List.cons_append, List.cons_append, List.cons_append, List.nil_append, bytes,
    hexDigit?_hexChar (by omega), hexDigit?_hexChar (by omega)]
  simp only [Nat.div_add_mod, UInt8.ofNat_toNat]

/-- `Percent.bytes` reads any number of escaped bytes. -/
theorem bytes_escapes (bs : List UInt8) (t : Text) : bytes (bs.flatMap escape ++ t) = bs ++ bytes t := by
  induction bs with
  | nil => rfl
  | cons b bs ih => rw [List.flatMap_cons, List.append_assoc, bytes_escape, ih, List.cons_append]

/-- A character other than the percent sign stands for its own bytes. -/
theorem bytes_cons (h : c ≠ '%') (t : Text) : bytes (c :: t) = String.utf8EncodeChar c ++ bytes t := by
  rw [bytes]
  exact fun _ _ _ hc _ => h hc

theorem ne_of_isUnreserved (h : isUnreserved c = true) {d : Char} (hd : isUnreserved d = false) :
    c ≠ d := by
  rintro rfl
  simp [hd] at h

/-- `Percent.bytes` inverts `Percent.encode`, whatever follows. -/
theorem bytes_encode (t rest : Text) : bytes (encode t ++ rest) = Utf8.encode t ++ bytes rest := by
  induction t with
  | nil => rfl
  | cons c t ih =>
    rw [encode, encodeUnless_cons, ← encode, List.append_assoc, Utf8.encode_cons, List.append_assoc, ← ih]
    split
    · rename_i h
      exact bytes_cons (ne_of_isUnreserved h (by decide)) _
    · exact bytes_escapes _ _

/-- `Percent.encode` writes unreserved characters and percent signs only. -/
theorem mem_encode (h : c ∈ encode t) : isUnreserved c = true ∨ c = '%' := by
  obtain ⟨d, -, hc⟩ := List.mem_flatMap.1 h
  split at hc
  · rename_i hkeep
    rw [List.mem_singleton] at hc
    exact .inl (hc ▸ hkeep)
  · obtain ⟨b, -, hc⟩ := List.mem_flatMap.1 hc
    have hb : b.toNat < 256 := b.toNat_lt
    simp only [escape, List.mem_cons, List.not_mem_nil, or_false] at hc
    rcases hc with rfl | rfl | rfl
    · exact .inr rfl
    · exact .inl (isUnreserved_hexChar (by omega))
    · exact .inl (isUnreserved_hexChar (by omega))

/-- Without plus signs, `plusToSpace` changes nothing. -/
theorem plusToSpace_eq_self (h : '+' ∉ t) : plusToSpace t = t := by
  refine (List.map_congr_left fun c hc => ?_).trans (List.map_id t)
  exact if_neg fun hplus => h (by rwa [hplus] at hc)

/-- Encoded text has no plus signs, so `plusToSpace` does not matter for it. -/
theorem bytes_plusToSpace_encode (t : Text) : bytes (plusToSpace (encode t)) = Utf8.encode t := by
  have hplus : '+' ∉ encode t := fun h => by
    rcases mem_encode h with h | h
    · exact absurd h (by decide)
    · exact absurd h (by decide)
  have hbytes := bytes_encode t []
  rw [List.append_nil, bytes, List.append_nil] at hbytes
  rw [plusToSpace_eq_self hplus, hbytes]

/-- Text without plus and percent signs stands for its own bytes. -/
theorem bytes_plusToSpace_of_plain (hplus : '+' ∉ t) (hpercent : '%' ∉ t) :
    bytes (plusToSpace t) = Utf8.encode t := by
  rw [plusToSpace_eq_self hplus]
  clear hplus
  induction t with
  | nil => simp [bytes, Utf8.encode]
  | cons c t ih =>
    rw [List.mem_cons, not_or] at hpercent
    rw [bytes_cons (Ne.symm hpercent.1), ih hpercent.2, Utf8.encode_cons]

/-- Nothing is escaped in text that is kept. -/
theorem encodeUnless_eq_self {keep : Char → Bool} (h : ∀ c ∈ t, keep c = true) :
    encodeUnless keep t = t := by
  induction t with
  | nil => rfl
  | cons c t ih =>
    rw [List.forall_mem_cons] at h
    rw [encodeUnless_cons, if_pos h.1, ih h.2, List.singleton_append]

end Percent
end RecordFilter
