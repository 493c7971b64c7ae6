import RecordFilter.Text.Basic

/-!
# Token sets of a filter

Filter text is split into words at spaces. The operators are words that stand outside of parentheses
and quoted literals; they divide the text into sets of a left side, an operator and a right side.
There is no precedence: `a and b or c` becomes three operands with two combinator markers between.

Main statement: every side of a token set is shorter than the trimmed text it comes from, so that
taking the sides apart again comes to an end.
-/

namespace RecordFilter

/-- A left side, an operator and a right side. A set with blank sides marks a combinator between its
neighbours. -/
structure TokenSet where
  left : Text
  operation : Text
  right : Text
deriving DecidableEq, Repr

namespace TokenSet

/-- The set that marks a combinator. -/
def marker (operation : Text) : TokenSet :=
  ⟨[], Text.lowerAscii operation, []⟩

/-- Whether the set only carries an operator. -/
def isMarker (set : TokenSet) : Bool :=
  Text.isBlank set.left && Text.isBlank set.right && !set.operation.isEmpty

end TokenSet

namespace Filter

/-! ## Words -/

/-- The operator words. -/
def operationWords : List String :=
  ["eq", "ne", "gt", "ge", "lt", "le", "and", "or", "not", "add", "sub", "mul", "div", "mod"]

/-- The operator words that take all of the text after them. -/
def combinatorWords : List String :=
  ["and", "or", "not"]

/-- The functions whose calls are filters by themselves. -/
def matchFunctionNames : List String :=
  ["substringof", "endswith", "startswith"]

/-- Whether a word is one of the given words, in any case. -/
def isOneOf (candidates : List String) (word : Text) : Bool :=
  candidates.any fun candidate => Text.eqIgnoreCase candidate.toList word

/-- Whether a word is an operator. -/
def isOperation (word : Text) : Bool :=
  isOneOf operationWords word

/-- Whether a word is `and`, `or` or `not`. -/
def isCombinator (word : Text) : Bool :=
  isOneOf combinatorWords word

theorem length_pos_of_isOperation {word : Text} (h : isOperation word = true) :
    0 < word.length := by
  cases word with
  | nil => exact absurd h (by decide)
  | cons _ _ => simp

/-! ## Parentheses and quotes -/

/-- How deep a position is inside of parentheses, and the quote that is open there. -/
structure Nesting where
  depth : Int
  quote : Option Char
deriving DecidableEq, Repr

namespace Nesting

/-- The beginning of a text. -/
def start : Nesting := ⟨0, none⟩

/-- Whether a character can begin a quoted literal. -/
def isQuote (c : Char) : Bool :=
  c == '\'' || c == '"'

/-- Moves over one character. Parentheses inside of quotes do not count. -/
def step (n : Nesting) (c : Char) : Nesting :=
  match n.quote with
  | some opened => if c = opened then ⟨n.depth, none⟩ else n
  | none =>
    if isQuote c then ⟨n.depth, some c⟩
    else if c = '(' then ⟨n.depth + 1, none⟩
    else if c = ')' then ⟨n.depth - 1, none⟩
    else n

/-- Moves over a text. -/
def advance (n : Nesting) (t : Text) : Nesting :=
  t.foldl step n

/-- Whether the position is outside of parentheses and quotes. -/
def isTop (n : Nesting) : Bool :=
  n.depth == 0 && n.quote.isNone

end Nesting

/-- The text between a parenthesis at the beginning and one at the end, if there is any. -/
def enclosedInner? (t : Text) : Option Text :=
  ((Text.dropStart? ['('] t).bind (Text.dropFinish? [')'])).filter fun inner => !inner.isEmpty

/-- Whether the text begins and ends with a parenthesis. -/
def isEnclosed (t : Text) : Bool :=
  (enclosedInner? t).isSome

/-- The positions of a character, counted from `start`. -/
def positionsFrom (c : Char) (start : Nat) : Text → List Nat
  | [] => []
  | d :: t =>
    if d = c then start :: positionsFrom c (start + 1) t else positionsFrom c (start + 1) t

/-- The positions of a character. -/
def positions (c : Char) (t : Text) : List Nat :=
  positionsFrom c 0 t

/-- Whether there are as many opening as closing parentheses, but one is closed before it is opened:
the outer parentheses of `(a) and (b)` do not belong together. -/
def hasOrphan (t : Text) : Bool :=
  let opens := positions '(' t
  let closes := positions ')' t
  opens.length == closes.length && (opens.zip closes).any fun (opened, closed) => closed < opened

/-- The trimmed text between outer parentheses, unless removing them would orphan inner ones. -/
def stripEnclosing? (t : Text) : Option Text :=
  ((enclosedInner? t).filter fun inner => !hasOrphan inner).map Text.trim

/-- Whether a word among the words of a text stands outside of quotes and satisfies `p`. -/
def anyBareWord (p : Text → Bool) (n : Nesting) : List Text → Bool
  | [] => false
  | word :: rest =>
    let after := n.advance word
    (n.quote.isNone && after.quote.isNone && p word) || anyBareWord p after rest

/-- Whether the text is nothing but a call of one of the string matching functions, which is a filter
by itself. -/
def isImpliedBoolean (t : Text) : Bool :=
  let t := Text.trim t
  let pieces := Text.split ' ' t
  let first := Text.lowerAscii (pieces.headD [])
  !t.isEmpty && !isEnclosed t && t.contains '(' && t.contains ')'
    && !anyBareWord (fun word => operationWords.contains (String.ofList word)) .start pieces
    && matchFunctionNames.any fun name => Text.startsWith first name.toList

/-! ## Scanning -/

/-- What is known in the middle of a text: the left side and the operator of the set that is not
finished, the words after that operator, and whether there was an operator at all. -/
structure Scan where
  left : Text
  operation : Text
  pending : List Text
  started : Bool
  nesting : Nesting

/-- The state before the first word. -/
def Scan.start : Scan := ⟨[], [], [], false, .start⟩

/-- The token sets of the words that are left. A combinator without a left side before it takes all
of the rest; after a finished comparison it becomes a marker. What follows the last operator is a
right side, or a set of its own when it is in parentheses. -/
def scan (s : Scan) : List Text → List TokenSet
  | [] =>
    let remaining := Text.unwords s.pending
    if !Text.isBlank s.left then [⟨s.left, s.operation, remaining⟩]
    else if s.started && isEnclosed remaining then [⟨remaining, [], []⟩]
    else []
  | word :: rest =>
    let nesting := s.nesting.advance word
    if !nesting.isTop || !isOperation word then
      scan { s with pending := s.pending ++ [word], nesting } rest
    else if Text.isBlank s.left then
      let left := Text.unwords s.pending
      if isCombinator word then [⟨left, word, Text.unwords rest⟩]
      else scan ⟨left, word, [], true, nesting⟩ rest
    else
      let next := scan ⟨[], [], [], true, nesting⟩ rest
      ⟨s.left, s.operation, Text.unwords s.pending⟩
        :: if isCombinator word then TokenSet.marker word :: next else next

/-- The token sets of a filter. Outer parentheses are removed first. Blank text has no sets, and
neither has a filter without operators. -/
def tokenize (t : Text) : List TokenSet :=
  let t := Text.trim t
  let filter := (stripEnclosing? t).getD t
  if t.isEmpty || isImpliedBoolean filter then []
  else scan .start (Text.words filter)

/-! ## Lengths -/

theorem length_enclosedInner? {t inner : Text} (h : enclosedInner? t = some inner) :
    inner.length + 2 = t.length := by
  simp only [enclosedInner?, Option.filter_eq_some_iff, Option.bind_eq_some_iff] at h
  obtain ⟨⟨rest, hrest, hinner⟩, -⟩ := h
  rw [Text.dropStart?_eq_some hrest, Text.dropFinish?_eq_some hinner]
  simp

/-- Removing outer parentheses makes text shorter. -/
theorem length_stripEnclosing?_lt {t inner : Text} (h : stripEnclosing? t = some inner) :
    inner.length < t.length := by
  simp only [stripEnclosing?, Option.map_eq_some_iff, Option.filter_eq_some_iff] at h
  obtain ⟨untrimmed, ⟨henclosed, -⟩, rfl⟩ := h
  have := length_enclosedInner? henclosed
  have := Text.length_trim_le untrimmed
  omega

theorem length_getD_stripEnclosing?_le (t : Text) :
    ((stripEnclosing? t).getD t).length ≤ t.length := by
  cases h : stripEnclosing? t with
  | none => simp
  | some inner => exact Nat.le_of_lt (length_stripEnclosing?_lt h)

theorem length_unwords_append_lt {pending rest : List Text} {word : Text} {n : Nat}
    (hword : 0 < word.length)
    (h : Text.wordsWidth pending + Text.wordsWidth (word :: rest) ≤ n + 1) :
    (Text.unwords pending).length < n ∧ (Text.unwords rest).length < n
      ∧ Text.wordsWidth rest < n := by
  have hp := Text.length_unwords_le_wordsWidth pending
  have hr := Text.length_unwords_le_wordsWidth rest
  simp only [Text.wordsWidth_cons] at h
  omega

/-- Whether the scan and the words that are left fit into a text of `n` characters. Behind an operator
there is less room. -/
structure Scan.Fits (s : Scan) (words : List Text) (n : Nat) : Prop where
  left_lt : s.left.length < n
  fresh : s.started = false → s.left = []
  width_le : Text.wordsWidth s.pending + Text.wordsWidth words ≤ n + 1
  width_lt : s.started = true → Text.wordsWidth s.pending + Text.wordsWidth words < n

theorem Scan.fits_of_started {s : Scan} {words : List Text} {n : Nat} (hstarted : s.started = true)
    (hleft : s.left.length < n)
    (hwidth : Text.wordsWidth s.pending + Text.wordsWidth words < n) : s.Fits words n :=
  ⟨hleft, by simp [hstarted], Nat.le_of_lt (Nat.lt_succ_of_lt hwidth), fun _ => hwidth⟩

/-- At the end of the words there is at most one set left. -/
theorem scan_nil_sides_lt {n : Nat} {s : Scan} (h : s.Fits [] n) :
    ∀ set ∈ scan s [], set.left.length < n ∧ set.right.length < n := by
  intro set hset
  have hpending := Text.length_unwords_le_wordsWidth s.pending
  have hleft := h.left_lt
  simp only [scan] at hset
  cases hstarted : s.started with
  | false =>
    rw [h.fresh hstarted, hstarted] at hset
    simp [Text.isBlank] at hset
  | true =>
    have hwidth := h.width_lt hstarted
    rw [Text.wordsWidth_nil] at hwidth
    split at hset
    · cases List.mem_singleton.1 hset
      exact ⟨hleft, by simp only; omega⟩
    · split at hset
      · cases List.mem_singleton.1 hset
        exact ⟨by simp only; omega, by simp only [List.length_nil]; omega⟩
      · cases hset

/-- Every side of a scanned set is shorter than the text whose words are scanned. -/
theorem scan_sides_lt {n : Nat} {words : List Text} {s : Scan} (h : s.Fits words n) :
    ∀ set ∈ scan s words, set.left.length < n ∧ set.right.length < n := by
  induction words generalizing s with
  | nil => exact scan_nil_sides_lt h
  | cons word rest ih =>
    intro set hset
    have npos : 0 < n := Nat.zero_lt_of_lt h.left_lt
    simp only [scan] at hset
    split at hset
    · have hwaits : Scan.Fits { s with
          pending := s.pending ++ [word], nesting := s.nesting.advance word } rest n := by
        refine ⟨h.left_lt, h.fresh, ?_, fun hstarted => ?_⟩
        · simpa [Nat.add_assoc] using h.width_le
        · simpa [Nat.add_assoc] using h.width_lt hstarted
      exact ih hwaits set hset
    · rename_i htop
      have hop : isOperation word = true := by
        simp only [Bool.or_eq_true, Bool.not_eq_true', not_or, Bool.not_eq_false] at htop
        exact htop.2
      obtain ⟨hpending, hrest, hwidthRest⟩ :=
        length_unwords_append_lt (length_pos_of_isOperation hop) h.width_le
      -- behind the operator the scan goes on without pending words
      have hnext : ∀ left operation nesting, left.length < n →
          ∀ set ∈ scan ⟨left, operation, [], true, nesting⟩ rest,
            set.left.length < n ∧ set.right.length < n := by
        intro left operation nesting hl
        exact ih (Scan.fits_of_started rfl hl (by simpa using hwidthRest))
      split at hset
      · split at hset
        · cases List.mem_singleton.1 hset
          exact ⟨hpending, hrest⟩
        · exact hnext _ _ _ hpending set hset
      · rcases List.mem_cons.1 hset with rfl | hset
        · exact ⟨h.left_lt, hpending⟩
        · split at hset
          · rcases List.mem_cons.1 hset with rfl | hset
            · exact ⟨npos, npos⟩
            · exact hnext [] [] _ npos set hset
          · exact hnext [] [] _ npos set hset

/-- Every side of a token set is shorter than the trimmed text. -/
theorem tokenize_sides_lt {t : Text} {set : TokenSet} (h : set ∈ tokenize t) :
    set.left.length < (Text.trim t).length ∧ set.right.length < (Text.trim t).length := by
  simp only [tokenize] at h
  split at h
  · simp at h
  · have hle := length_getD_stripEnclosing?_le (Text.trim t)
    have hwords := Text.wordsWidth_words_le ((stripEnclosing? (Text.trim t)).getD (Text.trim t))
    generalize (stripEnclosing? (Text.trim t)).getD (Text.trim t) = filter at *
    rcases Nat.eq_zero_or_pos filter.length with hzero | hpos
    · have : filter = [] := List.length_eq_zero_iff.1 hzero
      subst this
      have none : scan .start (Text.words []) = [] := by decide
      simp [none] at h
    · have hfits : Scan.start.Fits (Text.words filter) filter.length :=
        ⟨hpos, fun _ => rfl, by simpa [Scan.start] using hwords, nofun⟩
      have := scan_sides_lt hfits set h
      omega

end Filter
end RecordFilter
