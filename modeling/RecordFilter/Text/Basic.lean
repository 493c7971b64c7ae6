import RecordFilter.Instances

/-!
# Text as a list of characters

Filter text is scanned character by character, so every reader of this library works on a list
of characters. This module holds the list operations the readers share: trimming blanks, cutting
at a separator, looking for a piece of text, and comparing keywords without regard to case.

Main statements: trimming never makes text longer, and the words of a text, joined again by single
spaces, are never longer than the text.
-/

namespace RecordFilter

/-- Text, one character at a time. -/
abbrev Text := List Char

namespace Text

/-! ## Blanks -/

/-- The characters with the Unicode property `White_Space`. -/
def isBlankChar (c : Char) : Bool :=
  let n := c.toNat
  (0x09 ≤ n && n ≤ 0x0D) || n == 0x20 || n == 0x85 || n == 0xA0 || n == 0x1680
    || (0x2000 ≤ n && n ≤ 0x200A) || n == 0x2028 || n == 0x2029 || n == 0x202F || n == 0x205F
    || n == 0x3000

/-- The text without its leading blanks. -/
def trimStart (t : Text) : Text :=
  t.dropWhile isBlankChar

/-- The text without its trailing blanks. -/
def trimEnd (t : Text) : Text :=
  (t.reverse.dropWhile isBlankChar).reverse

/-- The text without the blanks on either side. -/
def trim (t : Text) : Text :=
  trimEnd (trimStart t)

/-- Whether there is nothing but blanks. -/
def isBlank (t : Text) : Bool :=
  t.all isBlankChar

theorem length_trimStart_le (t : Text) : (trimStart t).length ≤ t.length :=
  (List.dropWhile_suffix isBlankChar).length_le

theorem length_trimEnd_le (t : Text) : (trimEnd t).length ≤ t.length := by
  have h := (List.dropWhile_suffix (l := t.reverse) isBlankChar).length_le
  simpa [trimEnd] using h

/-- Trimming never makes text longer. -/
theorem length_trim_le (t : Text) : (trim t).length ≤ t.length :=
  Nat.le_trans (length_trimEnd_le _) (length_trimStart_le _)

/-! ## Case of ASCII letters -/

/-- The text with the letters A to Z in lower case. -/
def lowerAscii (t : Text) : Text :=
  t.map Char.toLower

/-- Equality that ignores the case of the letters A to Z. -/
def eqIgnoreCase (a b : Text) : Bool :=
  lowerAscii a == lowerAscii b

/-! ## Pieces of text -/

/-- What follows `start`, if the text begins with it. -/
def dropStart? : (start t : Text) → Option Text
  | [], t => some t
  | _ :: _, [] => none
  | a :: start, b :: t => if a = b then dropStart? start t else none

/-- What precedes `finish`, if the text ends with it. -/
def dropFinish? (finish t : Text) : Option Text :=
  (dropStart? finish.reverse t.reverse).map List.reverse

/-- Whether the text begins with `start`. -/
def startsWith (t start : Text) : Bool :=
  (dropStart? start t).isSome

/-- Whether the text ends with `finish`. -/
def endsWith (t finish : Text) : Bool :=
  (dropFinish? finish t).isSome

/-- The position of the first occurrence of `needle`. -/
def indexOf? (needle : Text) : Text → Option Nat
  | [] => if needle.isEmpty then some 0 else none
  | c :: t => if startsWith (c :: t) needle then some 0 else (indexOf? needle t).map (· + 1)

/-- Whether `needle` occurs in the text. -/
def occursIn (needle t : Text) : Bool :=
  (indexOf? needle t).isSome

/-- The pieces between the characters that satisfy `cut`; text without one is a single piece. -/
def splitWhere (cut : Char → Bool) : Text → List Text
  | [] => [[]]
  | c :: t =>
    if cut c then [] :: splitWhere cut t
    else match splitWhere cut t with
      | [] => [[c]]
      | piece :: pieces => (c :: piece) :: pieces

/-- The pieces between the occurrences of `separator`. -/
def split (separator : Char) (t : Text) : List Text :=
  splitWhere (· == separator) t

/-- The text before and after the first `separator`, if there is one. -/
def cutAt? (separator : Char) : Text → Option (Text × Text)
  | [] => none
  | c :: t =>
    if c = separator then some ([], t)
    else (cutAt? separator t).map fun (left, right) => (c :: left, right)

/-- The longest beginning of the text whose characters satisfy `p`, and the rest. -/
def spanWhile (p : Char → Bool) (t : Text) : Text × Text :=
  (t.takeWhile p, t.dropWhile p)

/-- The pieces with `separator` between neighbours. -/
def join (separator : Text) : List Text → Text
  | [] => []
  | [piece] => piece
  | piece :: next :: pieces => piece ++ separator ++ join separator (next :: pieces)

/-- The non-empty pieces between spaces. Other blanks do not separate words. -/
def words (t : Text) : List Text :=
  (split ' ' t).filter fun word => !word.isEmpty

/-- The words with one space between neighbours. -/
def unwords (pieces : List Text) : Text :=
  join [' '] pieces

/-! ## Lengths -/

theorem spanWhile_append (p : Char → Bool) (t : Text) :
    (spanWhile p t).1 ++ (spanWhile p t).2 = t :=
  List.takeWhile_append_dropWhile

theorem dropStart?_eq_some {start t rest : Text} (h : dropStart? start t = some rest) :
    t = start ++ rest := by
  induction start generalizing t with
  | nil => simp_all [dropStart?]
  | cons a start ih =>
    cases t with
    | nil => simp [dropStart?] at h
    | cons b t =>
      simp only [dropStart?] at h
      split at h
      · rename_i hab
        rw [hab, ih h]
        rfl
      · simp at h

theorem dropFinish?_eq_some {finish t rest : Text} (h : dropFinish? finish t = some rest) :
    t = rest ++ finish := by
  simp only [dropFinish?, Option.map_eq_some_iff] at h
  obtain ⟨r, hr, rfl⟩ := h
  have := dropStart?_eq_some hr
  have h2 := congrArg List.reverse this
  simpa using h2

/-- The length of the words joined by single spaces, with one space more after the last. -/
def wordsWidth (pieces : List Text) : Nat :=
  (pieces.map fun piece => piece.length + 1).sum

@[simp] theorem wordsWidth_nil : wordsWidth [] = 0 := rfl

@[simp] theorem wordsWidth_cons (piece : Text) (pieces : List Text) :
    wordsWidth (piece :: pieces) = piece.length + 1 + wordsWidth pieces := by
  simp [wordsWidth]

@[simp] theorem wordsWidth_append (as bs : List Text) :
    wordsWidth (as ++ bs) = wordsWidth as + wordsWidth bs := by
  simp [wordsWidth]

/-- Joined words are as long as their width without the last space. -/
theorem length_unwords_le (pieces : List Text) : (unwords pieces).length + 1 ≤ wordsWidth pieces + 1
    ∧ (pieces ≠ [] → (unwords pieces).length + 1 = wordsWidth pieces) := by
  induction pieces with
  | nil => simp [unwords, join]
  | cons piece pieces ih =>
    cases pieces with
    | nil => simp [unwords, join]
    | cons next pieces =>
      have hw := ih.2 (by simp)
      have hj : unwords (piece :: next :: pieces)
          = piece ++ [' '] ++ unwords (next :: pieces) := rfl
      rw [hj]
      simp only [wordsWidth_cons, List.length_append, List.length_singleton] at hw ⊢
      omega

theorem length_unwords_lt {pieces : List Text} (h : pieces ≠ []) :
    (unwords pieces).length + 1 = wordsWidth pieces :=
  (length_unwords_le pieces).2 h

theorem length_unwords_le_wordsWidth (pieces : List Text) :
    (unwords pieces).length ≤ wordsWidth pieces := by
  have := (length_unwords_le pieces).1
  omega

/-- The pieces of a text hold its characters without the separators. -/
theorem wordsWidth_splitWhere (cut : Char → Bool) (t : Text) :
    wordsWidth (splitWhere cut t) = t.length + 1 := by
  induction t with
  | nil => simp [splitWhere]
  | cons c t ih =>
    simp only [splitWhere]
    split
    · simp [ih]; omega
    · split
      · rename_i h
        rw [h] at ih
        simp at ih
      · rename_i piece pieces h
        rw [h] at ih
        simp at ih ⊢
        omega

theorem wordsWidth_filter_le (p : Text → Bool) (pieces : List Text) :
    wordsWidth (pieces.filter p) ≤ wordsWidth pieces := by
  induction pieces with
  | nil => simp
  | cons piece pieces ih =>
    by_cases h : p piece
    · simp [h]; omega
    · simp [h]; omega

/-- The words of a text, joined again, are never longer than the text. -/
theorem wordsWidth_words_le (t : Text) : wordsWidth (words t) ≤ t.length + 1 := by
  unfold words
  exact Nat.le_trans (wordsWidth_filter_le _ _) (Nat.le_of_eq (wordsWidth_splitWhere _ t))

/-- A piece is no longer than the joined pieces. -/
theorem length_le_of_mem_join (separator : Text) {piece : Text} {pieces : List Text}
    (h : piece ∈ pieces) : piece.length ≤ (join separator pieces).length := by
  induction pieces with
  | nil => simp at h
  | cons first pieces ih =>
    cases pieces with
    | nil =>
      simp only [List.mem_singleton] at h
      simp [join, h]
    | cons next others =>
      simp only [join, List.length_append]
      rcases List.mem_cons.1 h with rfl | h
      · omega
      · have := ih h
        omega

/-- More pieces make no shorter text. -/
theorem length_join_le_of_append (separator : Text) (before after : List Text) :
    (join separator before).length ≤ (join separator (before ++ after)).length := by
  induction before with
  | nil => simp [join]
  | cons first before ih =>
    cases before with
    | nil =>
      cases after with
      | nil => simp
      | cons next others => simp [join]
    | cons next others =>
      simp only [join, List.cons_append, List.length_append] at ih ⊢
      omega

end Text

end RecordFilter
