import RecordFilter.Number.DecimalText
import RecordFilter.Number.DoubleText
import RecordFilter.Proofs.LiteralTexts
import RecordFilter.Proofs.ShortestDigits

/-!
# Texts of doubles and decimals

A double is written with its shortest digits, filled up with zeros to the place of the point, and a
decimal with all of its digits, zeros at the end included. Both are read back from their texts. A reader
sees the digits before and after the point as one number, and the digits after it as an exponent.

Main statements: `Double.read?_render` and `Decimal.read?_render`.
-/

namespace RecordFilter

/-! ## Digits -/

namespace Numeral

/-- A text of digits. -/
def AreDigits (t : Text) : Prop :=
  ∀ c ∈ t, isDigit c = true

theorem AreDigits.append {t u : Text} (ht : AreDigits t) (hu : AreDigits u) : AreDigits (t ++ u) := by
  intro c hc
  rcases List.mem_append.1 hc with hc | hc
  · exact ht c hc
  · exact hu c hc

theorem areDigits_ofNat (n : Nat) : AreDigits (ofNat n) :=
  fun _ => isDigit_of_mem_ofNat

theorem areDigits_zeros (k : Nat) : AreDigits (List.replicate k '0') := by
  intro c hc
  rw [(List.mem_replicate.1 hc).2]
  rfl

theorem areDigits_padStart (width n : Nat) : AreDigits (padStart width '0' (ofNat n)) :=
  (areDigits_zeros _).append (areDigits_ofNat n)

theorem length_padStart (width : Nat) (t : Text) :
    (padStart width '0' t).length = max width t.length := by
  rw [padStart, List.length_append, List.length_replicate]
  omega

/-- A digit is neither a sign nor a point nor a mark. -/
theorem ne_of_isDigit {c d : Char} (h : isDigit c = true) (hd : d.toNat < 48 ∨ 57 < d.toNat) : c ≠ d := by
  have := toNat_of_isDigit h
  rintro rfl
  omega

theorem foldDigits?_append (acc : Nat) (t u : Text) :
    foldDigits? acc (t ++ u) = (foldDigits? acc t).bind fun n => foldDigits? n u := by
  induction t generalizing acc with
  | nil => rfl
  | cons c t ih =>
    rw [List.cons_append, foldDigits?, foldDigits?]
    cases digit? c with
    | none => rfl
    | some d => exact ih _

theorem foldDigits?_zeros (n k : Nat) : foldDigits? n (List.replicate k '0') = some (n * 10 ^ k) := by
  induction k generalizing n with
  | zero => rw [List.replicate_zero, foldDigits?, Nat.pow_zero, Nat.mul_one]
  | succ k ih =>
    show foldDigits? (n * 10 + 0) (List.replicate k '0') = _
    rw [ih, Nat.add_zero, Nat.pow_succ, Nat.mul_assoc, Nat.mul_comm 10]

theorem foldDigits?_ofNat (n : Nat) : foldDigits? 0 (ofNat n) = some n := by
  have h := nat?_ofNat n
  rwa [nat?, if_neg (by simp [ofNat, Nat.toDigits_ne_nil])] at h

/-- Zeros in front make no difference. -/
theorem foldDigits?_padStart (width n : Nat) : foldDigits? 0 (padStart width '0' (ofNat n)) = some n := by
  rw [padStart, foldDigits?_append, foldDigits?_zeros, Nat.zero_mul, Option.bind_some, foldDigits?_ofNat]

/-- One digit more makes a number larger. -/
theorem exists_of_foldDigits? {n total : Nat} {c : Char} {t : Text}
    (h : foldDigits? n (c :: t) = some total) :
    ∃ d, digit? c = some d ∧ foldDigits? (n * 10 + d) t = some total := by
  rw [foldDigits?] at h
  exact Option.bind_eq_some_iff.1 h

theorem le_of_foldDigits? {n total : Nat} {t : Text} (h : foldDigits? n t = some total) : n ≤ total := by
  induction t generalizing n with
  | nil =>
    cases h
    exact Nat.le_refl _
  | cons c t ih =>
    obtain ⟨d, -, hrest⟩ := exists_of_foldDigits? h
    have := ih hrest
    omega

/-- Digits and a point, with a sign in front, are a numeral that is not marked. -/
theorem isNumeral_signed (negative : Bool) {c : Char} {t : Text} (hc : isDigit c = true)
    (ht : ∀ d ∈ c :: t, isDigit d = true ∨ d = '.') :
    IsNumeral (if negative then '-' :: c :: t else c :: t) ∧
      'M' ∉ (if negative then '-' :: c :: t else c :: t) := by
  have hmark : 'M' ∉ c :: t := by
    intro hmem
    rcases ht 'M' hmem with hdigit | hpoint
    · cases hdigit
    · cases hpoint
  have hchars : ∀ d ∈ c :: t, d = '-' ∨ isDigit d = true ∨ d = '.' ∨ d = 'M' := by
    intro d hd
    rcases ht d hd with hdigit | hpoint
    · exact .inr (.inl hdigit)
    · exact .inr (.inr (.inl hpoint))
  cases negative with
  | false => exact ⟨⟨⟨c, t, rfl, .inr hc⟩, hchars⟩, hmark⟩
  | true =>
    refine ⟨⟨⟨'-', c :: t, rfl, .inl rfl⟩, fun d hd => ?_⟩, fun hmem => ?_⟩
    · rcases List.mem_cons.1 hd with rfl | hd
      · exact .inl rfl
      · exact hchars d hd
    · rcases List.mem_cons.1 hmem with hminus | hmem
      · cases hminus
      · exact hmark hmem

/-- Digits split by a point. -/
theorem mem_split {digits : Text} (h : AreDigits digits) {k : Nat} {c : Char}
    (hc : c ∈ digits.take k ++ '.' :: digits.drop k) : isDigit c = true ∨ c = '.' := by
  rcases List.mem_append.1 hc with hc | hc
  · exact .inl (h c (List.mem_of_mem_take hc))
  · rcases List.mem_cons.1 hc with rfl | hc
    · exact .inr rfl
    · exact .inl (h c (List.mem_of_mem_drop hc))

end Numeral

open Numeral

/-! ## Doubles -/

namespace Double

variable {negative : Bool}

/-- A number that begins with a digit is none of the words. -/
theorem lowerAscii_ne {whole : Text} (hwhole : AreDigits whole) (hne : whole ≠ []) (rest : Text)
    {d : Char} {word : Text} (hd : 57 < d.toNat) : Text.lowerAscii (whole ++ rest) ≠ d :: word := by
  obtain ⟨c, whole, rfl⟩ := List.exists_cons_of_ne_nil hne
  have hdigit := toNat_of_isDigit (hwhole c List.mem_cons_self)
  intro heq
  have hhead : c.toLower = d := (List.cons.inj heq).1
  rw [Text.toLower_eq_self (by omega)] at hhead
  rw [hhead] at hdigit
  omega

/-- Digits are read as a number, and the digits after a point as its exponent. -/
theorem readMagnitude?_eq {whole fraction rest : Text} (hwhole : AreDigits whole) (hne : whole ≠ [])
    (hrest : rest = [] ∧ fraction = [] ∨ rest = '.' :: fraction) (hfraction : AreDigits fraction)
    {n : Nat} (hn : foldDigits? 0 (whole ++ fraction) = some n) :
    readMagnitude? negative (whole ++ rest) = some (ofDecimal negative n (-fraction.length)) := by
  have hinf : Text.lowerAscii (whole ++ rest) ≠ "inf".toList :=
    lowerAscii_ne hwhole hne rest (d := 'i') (by decide)
  have hinfinity : Text.lowerAscii (whole ++ rest) ≠ "infinity".toList :=
    lowerAscii_ne hwhole hne rest (d := 'i') (by decide)
  have hnan : Text.lowerAscii (whole ++ rest) ≠ "nan".toList :=
    lowerAscii_ne hwhole hne rest (d := 'n') (by decide)
  have hspan : Text.spanWhile isDigit (whole ++ rest) = (whole, rest) := by
    refine Text.spanWhile_append_of_all hwhole fun c hc => ?_
    rcases hrest with ⟨rfl, -⟩ | rfl
    · cases hc
    · cases hc
      rfl
  have hspan' : Text.spanWhile isDigit fraction = (fraction, []) := by
    have h := Text.spanWhile_append_of_all (p := isDigit) (b := []) hfraction (by simp)
    rwa [List.append_nil] at h
  have hvalue : nat? (whole ++ fraction) = some n := by
    rw [nat?, if_neg (by simp [hne]), hn]
  unfold readMagnitude?
  simp only
  rw [if_neg (not_or.2 ⟨hinf, hinfinity⟩), if_neg hnan]
  simp only [spanDigits, hspan]
  rcases hrest with ⟨rfl, rfl⟩ | rfl
  · rw [List.append_nil] at hvalue
    simp [hvalue, readExponent?]
  · simp [hspan', hvalue, readExponent?]

/-- Positional digits are read as a number of the same size. -/
theorem readMagnitude?_positionalText (negative : Bool) (n : Nat) (e : Int) :
    ∃ (n' : Nat) (e' : Int), (n' * 10 ^ e' : ℚ) = n * 10 ^ e ∧
      readMagnitude? negative (positionalText [] n e) = some (ofDecimal negative n' e') := by
  unfold positionalText
  simp only
  split
  · rename_i he
    -- zeros at the end stand for the exponent, so that the number read has none
    have hdigits := (areDigits_ofNat n).append (areDigits_zeros e.toNat)
    have hvalue : foldDigits? 0 (ofNat n ++ List.replicate e.toNat '0' ++ [])
        = some (n * 10 ^ e.toNat) := by
      rw [List.append_nil, foldDigits?_append, foldDigits?_ofNat, Option.bind_some, foldDigits?_zeros]
    have hne : ofNat n ++ List.replicate e.toNat '0' ≠ [] := by simp [ofNat, Nat.toDigits_ne_nil]
    refine ⟨_, _, ?_, readMagnitude?_eq hdigits hne (.inl ⟨rfl, rfl⟩) (fun _ hc => by cases hc) hvalue⟩
    lift e to Nat using he
    simp
  · rename_i he
    -- the point stands before as many digits as the exponent says; zeros in front make room for it
    have hdigits := areDigits_padStart (e.natAbs + 1) n
    have hlength := length_padStart (e.natAbs + 1) (ofNat n)
    have hvalue := foldDigits?_padStart (e.natAbs + 1) n
    generalize padStart (e.natAbs + 1) '0' (ofNat n) = padded at hdigits hlength hvalue ⊢
    have hne : padded.take (padded.length - e.natAbs) ≠ [] := by
      intro hnil
      have := congrArg List.length hnil
      rw [List.length_take, List.length_nil] at this
      omega
    have hlength' : ((padded.drop (padded.length - e.natAbs)).length : Int) = -e := by
      rw [List.length_drop]
      omega
    refine ⟨n, e, rfl, ?_⟩
    rw [readMagnitude?_eq (n := n) (fun c hc => hdigits c (List.mem_of_mem_take hc)) hne (.inr rfl)
      (fun c hc => hdigits c (List.mem_of_mem_drop hc)) (by rw [List.take_append_drop]; exact hvalue),
      hlength', Int.neg_neg]

/-- The text of a double begins with a digit, after a minus sign for a negative one. -/
theorem exists_cons_positionalText (n : Nat) (e : Int) :
    ∃ c t, positionalText [] n e = c :: t ∧ isDigit c = true := by
  have hfirst : ∀ {digits u : Text}, AreDigits digits → digits ≠ [] →
      ∃ c t, digits ++ u = c :: t ∧ isDigit c = true := by
    intro digits u hdigits hne
    obtain ⟨c, t, rfl⟩ := List.exists_cons_of_ne_nil hne
    exact ⟨c, t ++ u, rfl, hdigits c List.mem_cons_self⟩
  have hne : ofNat n ≠ [] := Nat.toDigits_ne_nil
  unfold positionalText
  simp only
  split
  · rw [List.append_assoc]
    exact hfirst (areDigits_ofNat n) hne
  · have hlength := length_padStart (e.natAbs + 1) (ofNat n)
    refine hfirst (fun c hc => areDigits_padStart (e.natAbs + 1) n c (List.mem_of_mem_take hc)) ?_
    intro hnil
    have := congrArg List.length hnil
    rw [List.length_take, List.length_nil] at this
    omega

theorem mem_positionalText {n : Nat} {e : Int} {c : Char} (hc : c ∈ positionalText [] n e) :
    isDigit c = true ∨ c = '.' := by
  unfold positionalText at hc
  simp only at hc
  split at hc
  · rw [List.append_nil] at hc
    exact .inl ((areDigits_ofNat n).append (areDigits_zeros _) c hc)
  · exact mem_split (areDigits_padStart (e.natAbs + 1) n) hc

/-- A number with a sign in front is read as a number of that sign. -/
theorem read?_signed (negative : Bool) {c : Char} (hc : isDigit c = true) (t : Text) :
    read? (if negative then '-' :: c :: t else c :: t) = readMagnitude? negative (c :: t) := by
  have hminus : c ≠ '-' := ne_of_isDigit hc (by decide)
  have hplus : c ≠ '+' := ne_of_isDigit hc (by decide)
  cases negative <;> simp [read?, hminus, hplus]

/-- Whether a double is a number. -/
def isFinite (x : Float) : Bool :=
  match parts x with
  | .finite .. => true
  | _ => false

theorem exists_parts {x : Float} (h : isFinite x = true) :
    ∃ negative m q, parts x = .finite negative m q := by
  unfold isFinite at h
  split at h
  · exact ⟨_, _, _, ‹_›⟩
  · cases h

/-- The text of a finite double. -/
theorem render_plain {x : Float} {negative : Bool} {m : Nat} {q : Int}
    (h : parts x = .finite negative m q) : render plain x =
      (let (n, e) := if m = 0 then (0, 0) else Shortest.digits .up m q
       if negative then '-' :: positionalText [] n e else positionalText [] n e) := by
  unfold render
  rw [h]
  rfl

/-- A finite double is read back from its text. -/
theorem read?_render {x : Float} (h : isFinite x = true) : read? (render plain x) = some x := by
  obtain ⟨negative, m, q, hparts⟩ := exists_parts h
  rw [render_plain hparts]
  generalize hdigits : (if m = 0 then (0, 0) else Shortest.digits .up m q) = digits
  obtain ⟨n, e⟩ := digits
  obtain ⟨c, t, htext, hc⟩ := exists_cons_positionalText n e
  obtain ⟨n', e', hvalue, hread⟩ := readMagnitude?_positionalText negative n e
  simp only
  rw [htext] at hread ⊢
  rw [read?_signed negative hc, hread]
  -- zero has no shortest digits, and its sign is read from the text
  rcases Nat.eq_zero_or_pos m with rfl | hm
  · rw [if_pos rfl] at hdigits
    cases hdigits
    have hzero : n' = 0 := by
      have hpos : (0 : ℚ) < 10 ^ e' := by positivity
      rw [Nat.cast_zero, zero_mul, mul_eq_zero, or_iff_left hpos.ne'] at hvalue
      exact_mod_cast hvalue
    rw [hzero, ofDecimal_zero hparts]
  · rw [if_neg hm.ne'] at hdigits
    rw [ofDecimal_digits hparts hm .up]
    rw [hdigits, hvalue]

/-- The characters of the text of a finite double. -/
theorem isNumeral_render {x : Float} (h : isFinite x = true) :
    IsNumeral (render plain x) ∧ 'M' ∉ render plain x := by
  obtain ⟨negative, m, q, hparts⟩ := exists_parts h
  rw [render_plain hparts]
  generalize (if m = 0 then (0, 0) else Shortest.digits .up m q) = digits
  obtain ⟨n, e⟩ := digits
  obtain ⟨c, t, htext, hc⟩ := exists_cons_positionalText n e
  have hchars := fun d => mem_positionalText (n := n) (e := e) (c := d)
  simp only
  rw [htext] at hchars ⊢
  exact isNumeral_signed negative hc hchars

end Double

/-! ## Decimals -/

namespace Decimal

variable {negative point seen : Bool} {n total scale : Nat} {t rest : Text}

/-- A digit before the limit is appended to the coefficient. -/
theorem readFrom?_cons {c : Char} {d : Nat} (hc : digit? c = some d) (hlimit : n * 10 + d < limit)
    (hscale : point = true → scale < maxScale) :
    readFrom? negative point seen n scale (c :: t) =
      readFrom? negative point true (n * 10 + d) (if point then scale + 1 else 0) t := by
  have hdigit : isDigit c = true := by rw [isDigit, hc]; rfl
  have hpoint : c ≠ '.' := ne_of_isDigit hdigit (by decide)
  have hmark : c ≠ '_' := ne_of_isDigit hdigit (by decide)
  have hfull : (point && seen && decide (maxScale ≤ scale)) = false := by
    cases point with
    | false => rfl
    | true =>
      have := hscale rfl
      simp only [Bool.true_and, Bool.and_eq_false_imp, decide_eq_false_iff_not]
      omega
  rw [readFrom?]
  simp only [hfull, Bool.false_eq_true, if_false, hpoint, hmark, hc, Option.bind_some, hlimit, if_true]

/-- Digits before the point. -/
theorem readFrom?_whole (ht : foldDigits? n t = some total) (hlimit : total < limit) :
    readFrom? negative false seen n 0 (t ++ rest) =
      readFrom? negative false (seen || !t.isEmpty) total 0 rest := by
  induction t generalizing n seen with
  | nil =>
    cases ht
    simp
  | cons c t ih =>
    obtain ⟨d, hc, hrest⟩ := exists_of_foldDigits? ht
    -- the coefficient only grows, so that it is below the limit at every digit
    have hle := le_of_foldDigits? hrest
    rw [List.cons_append, readFrom?_cons hc (by omega) (by simp)]
    show readFrom? negative false true (n * 10 + d) 0 (t ++ rest) = _
    rw [ih hrest]
    simp

/-- Digits after the point. -/
theorem readFrom?_fraction (ht : foldDigits? n t = some total) (hlimit : total < limit)
    (hscale : scale + t.length ≤ maxScale) :
    readFrom? negative true true n scale t = ofParts? negative total (scale + t.length) := by
  induction t generalizing n scale with
  | nil =>
    cases ht
    rfl
  | cons c t ih =>
    obtain ⟨d, hc, hrest⟩ := exists_of_foldDigits? ht
    have hle := le_of_foldDigits? hrest
    rw [List.length_cons] at hscale
    rw [readFrom?_cons hc (by omega) (fun _ => by omega)]
    show readFrom? negative true true (n * 10 + d) (scale + 1) t = _
    rw [ih hrest (by omega), List.length_cons]
    congr 1
    omega

/-- The digits of a decimal without its sign. -/
def magnitudeText (d : Decimal) : Text :=
  let digits := Numeral.padded (d.scale + 1) d.coefficient
  if d.scale = 0 then digits
  else digits.take (digits.length - d.scale) ++ '.' :: digits.drop (digits.length - d.scale)

theorem render_eq (d : Decimal) :
    d.render = if d.negative then '-' :: d.magnitudeText else d.magnitudeText := rfl

theorem readFrom?_magnitudeText (d : Decimal) (negative : Bool) :
    readFrom? negative false false 0 0 d.magnitudeText = ofParts? negative d.coefficient d.scale := by
  have hvalue := foldDigits?_padStart (d.scale + 1) d.coefficient
  have hlength := length_padStart (d.scale + 1) (ofNat d.coefficient)
  have hlimit : d.coefficient < limit := d.coefficient_lt
  unfold magnitudeText Numeral.padded
  simp only
  generalize padStart (d.scale + 1) '0' (ofNat d.coefficient) = digits at hvalue hlength ⊢
  split
  · rename_i hscale
    have hne : digits.isEmpty = false := by
      cases digits with
      | nil =>
        rw [List.length_nil] at hlength
        omega
      | cons c t => rfl
    have hread : readFrom? negative false false 0 0 (digits ++ []) = _ := readFrom?_whole hvalue hlimit
    rw [List.append_nil] at hread
    rw [hread, hne, hscale]
    rfl
  · rename_i hscale
    have hwhole : (digits.take (digits.length - d.scale)).isEmpty = false := by
      refine Bool.eq_false_iff.2 fun hempty => ?_
      have hnil := congrArg List.length (List.isEmpty_iff.1 hempty)
      rw [List.length_take, List.length_nil] at hnil
      omega
    have hfraction : (digits.drop (digits.length - d.scale)).length = d.scale := by
      rw [List.length_drop]
      omega
    -- what stands before the point is at most the whole coefficient
    rw [← List.take_append_drop (digits.length - d.scale) digits, foldDigits?_append] at hvalue
    obtain ⟨k, hk, hrest⟩ := Option.bind_eq_some_iff.1 hvalue
    have hle := le_of_foldDigits? hrest
    rw [readFrom?_whole hk (by omega), hwhole]
    show readFrom? negative true true k 0 (digits.drop (digits.length - d.scale)) = _
    rw [readFrom?_fraction hrest hlimit (by have := d.scale_le; unfold maxScale; omega), hfraction,
      Nat.zero_add]

/-- The text of a decimal begins with a digit, after a minus sign for a negative one. -/
theorem exists_cons_magnitudeText (d : Decimal) :
    ∃ c t, d.magnitudeText = c :: t ∧ isDigit c = true := by
  have hdigits := areDigits_padStart (d.scale + 1) d.coefficient
  have hlength := length_padStart (d.scale + 1) (ofNat d.coefficient)
  unfold magnitudeText Numeral.padded
  simp only
  generalize padStart (d.scale + 1) '0' (ofNat d.coefficient) = digits at hdigits hlength ⊢
  obtain ⟨c, t, rfl⟩ := List.exists_cons_of_length_pos (l := digits) (by omega)
  refine ⟨c, ?_⟩
  split
  · exact ⟨t, rfl, hdigits c List.mem_cons_self⟩
  · obtain ⟨k, hk⟩ : ∃ k, (c :: t).length - d.scale = k + 1 := ⟨(c :: t).length - d.scale - 1, by omega⟩
    rw [hk]
    exact ⟨t.take k ++ '.' :: t.drop k, rfl, hdigits c List.mem_cons_self⟩

theorem mem_magnitudeText {d : Decimal} {c : Char} (hc : c ∈ d.magnitudeText) :
    isDigit c = true ∨ c = '.' := by
  have hdigits := areDigits_padStart (d.scale + 1) d.coefficient
  unfold magnitudeText Numeral.padded at hc
  simp only at hc
  split at hc
  · exact .inl (hdigits c hc)
  · exact mem_split hdigits hc

/-- A decimal zero without a sign, or a decimal other than zero. -/
def isCanonical (d : Decimal) : Bool :=
  !d.negative || d.coefficient != 0

theorem ofParts?_eq {d : Decimal} (h : d.isCanonical = true) :
    ofParts? d.negative d.coefficient d.scale = some d := by
  obtain ⟨negative, coefficient, scale, hlt, hle⟩ := d
  rw [ofParts?, dif_pos ⟨hlt, hle⟩]
  cases negative with
  | false => rfl
  | true =>
    have hne : (coefficient != 0) = true := h
    simp only [hne, Bool.and_self]

/-- A minus sign in front of the first digit is the sign of the number. -/
theorem readPlain?_signed (negative : Bool) {c : Char} {t : Text} (hc : isDigit c = true) :
    readPlain? (if negative then '-' :: c :: t else c :: t)
      = readFrom? negative false false 0 0 (c :: t) := by
  have hminus : c ≠ '-' := ne_of_isDigit hc (by decide)
  have hplus : c ≠ '+' := ne_of_isDigit hc (by decide)
  cases negative <;> simp [readPlain?, hminus, hplus]

/-- A decimal is read back from its text, scale included. -/
theorem read?_render {d : Decimal} (h : d.isCanonical = true) : read? d.render = some d := by
  have hplain : readPlain? d.render = some d := by
    have hread := readFrom?_magnitudeText d d.negative
    obtain ⟨c, t, htext, hc⟩ := exists_cons_magnitudeText d
    rw [htext, ofParts?_eq h] at hread
    rw [render_eq, htext, readPlain?_signed _ hc, hread]
  rw [read?, hplain]
  rfl

/-! ### Signs of zero

No reader gives a zero with a sign, so a decimal that is read can be written and read again. -/

/-- The results of a reader are zeros without a sign, or other numbers. -/
def AllCanonical (result : Option Decimal) : Prop :=
  ∀ d ∈ result, d.isCanonical = true

theorem allCanonical_none : AllCanonical none :=
  fun _ h => by cases h

theorem allCanonical_ofParts? (negative : Bool) (coefficient scale : Nat) :
    AllCanonical (ofParts? negative coefficient scale) := by
  intro d hd
  unfold ofParts? at hd
  split at hd
  · cases hd
    -- the sign is kept only where the coefficient is not zero
    cases negative with
    | false => rfl
    | true => cases hzero : coefficient != 0 <;> simp [isCanonical, hzero]
  · cases hd

theorem AllCanonical.bind {α : Type} {x : Option α} {f : α → Option Decimal}
    (h : ∀ a ∈ x, AllCanonical (f a)) : AllCanonical (x.bind f) := by
  intro d hd
  obtain ⟨a, ha, hf⟩ := Option.bind_eq_some_iff.1 hd
  exact h a ha d hf

theorem allCanonical_roundAt? (c : Char) : AllCanonical (roundAt? negative point n scale c) := by
  refine .bind fun digit _ => ?_
  split
  · exact allCanonical_ofParts? _ _ _
  · split
    · exact allCanonical_ofParts? _ _ _
    · split
      · exact allCanonical_none
      · exact allCanonical_ofParts? _ _ _

/-- By induction on the text: however the reader ends, it checks the sign. -/
theorem allCanonical_readFrom? (t : Text) : AllCanonical (readFrom? negative point seen n scale t) := by
  induction t generalizing point seen n scale with
  | nil =>
    rw [readFrom?]
    split
    · exact allCanonical_ofParts? _ _ _
    · exact allCanonical_none
  | cons c t ih =>
    rw [readFrom?]
    split
    · exact allCanonical_roundAt? c
    · split
      · split
        · exact allCanonical_none
        · exact ih
      · split
        · split
          · exact ih
          · exact allCanonical_none
        · refine .bind fun digit _ => ?_
          simp only
          split
          · exact ih
          · split
            · exact allCanonical_roundAt? c
            · exact allCanonical_none

theorem allCanonical_readPlain? (t : Text) : AllCanonical (readPlain? t) := by
  unfold readPlain?
  split <;> exact allCanonical_readFrom? _

theorem allCanonical_mul? (a b : Decimal) : AllCanonical (a.mul? b) := by
  have hzero : AllCanonical (some zero) := by
    rintro _ ⟨⟩
    rfl
  unfold mul?
  simp only
  split
  · exact hzero
  · split
    · exact hzero
    · unfold fit?
      simp only
      split
      · exact allCanonical_none
      · split
        · exact allCanonical_ofParts? _ _ _
        · split
          · exact allCanonical_none
          · exact allCanonical_ofParts? _ _ _

theorem allCanonical_shiftUp? (d : Decimal) (places : Nat) : AllCanonical (d.shiftUp? places) := by
  refine .bind fun power _ => .bind fun product hproduct => ?_
  split
  · rintro _ ⟨⟩
    exact allCanonical_mul? d power _ hproduct
  · exact .bind fun last _ => allCanonical_mul? product last

theorem isCanonical_normalize {d : Decimal} (h : d.isCanonical = true) : d.normalize.isCanonical = true := by
  unfold normalize
  simp only
  cases hparts : ofParts? d.negative (stripAllZeros d.coefficient d.scale).1
      (stripAllZeros d.coefficient d.scale).2 with
  | none => exact h
  | some other => exact allCanonical_ofParts? _ _ _ other hparts

theorem allCanonical_readScientific? (t : Text) : AllCanonical (readScientific? t) := by
  unfold readScientific?
  simp only
  refine .bind fun d hd => ?_
  have hcanonical := allCanonical_readPlain? _ d hd
  split
  · exact allCanonical_none
  · refine .bind fun places _ => ?_
    split
    · rintro _ ⟨⟩
      exact hcanonical
    · exact allCanonical_none
  · refine .bind fun places _ => ?_
    split
    · rintro _ ⟨⟩
      exact hcanonical
    · split
      · exact allCanonical_none
      · intro other hother
        obtain ⟨shifted, hshifted, rfl⟩ := Option.map_eq_some_iff.1 hother
        exact isCanonical_normalize (allCanonical_shiftUp? d _ shifted hshifted)

/-- A decimal that is read is no zero with a sign. -/
theorem isCanonical_of_read? {t : Text} {d : Decimal} (h : read? t = some d) : d.isCanonical = true := by
  rcases Option.or_eq_some_iff.1 h with hplain | ⟨-, hscientific⟩
  · exact allCanonical_readPlain? t d hplain
  · exact allCanonical_readScientific? t d hscientific

/-- The characters of the text of a decimal. -/
theorem isNumeral_render (d : Decimal) : IsNumeral d.render ∧ 'M' ∉ d.render := by
  obtain ⟨c, t, htext, hc⟩ := exists_cons_magnitudeText d
  have hchars := fun a => mem_magnitudeText (d := d) (c := a)
  rw [render_eq]
  rw [htext] at hchars ⊢
  exact isNumeral_signed d.negative hc hchars

end Decimal
end RecordFilter
