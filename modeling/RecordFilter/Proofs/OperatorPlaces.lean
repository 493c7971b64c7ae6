import RecordFilter.Proofs.JoinedArguments
import RecordFilter.Proofs.Operands
import RecordFilter.Proofs.OperatorWords

/-!
# Where operator words stand

Calls and constructions are taken apart at parentheses and commas, at which words end: with the operator
words in lower case, a text has the same calls with the same arguments, these in lower case too.

Not every operator word is an operator. A literal without quotes can hold some, which are part of its value,
and a text that begins with a string match is looked through for operators in lower case only.
`ShowsOperators` says that no word of a text is hidden from the parser in these ways unless it is in lower
case anyway.

Main statements: `call?_lowerOperators` and `splitLastArgument_lowerOperators`.
-/

namespace RecordFilter
namespace Filter

/-! ## Calls -/

/-- A text without quote marks leaves the scanner outside of quotes. -/
theorem quote_advance_eq_none {t : Text} (ht : ∀ c ∈ t, Nesting.isQuote c = false) :
    ∀ {n : Nesting}, n.quote = none → (n.advance t).quote = none := by
  induction t with
  | nil => exact id
  | cons c t ih =>
    intro n hn
    refine ih (fun d hd => ht d (List.mem_cons_of_mem c hd)) ?_
    unfold Nesting.step
    simp only [hn, ht c List.mem_cons_self, Bool.false_eq_true, if_false]
    split
    · rfl
    · split
      · rfl
      · exact hn

/-- A name with a text in parentheses. -/
theorem lowerOperators_call {name : Text} (hname : ∀ c ∈ name, Nesting.isQuote c = false)
    (arguments : Text) : lowerOperators (name ++ '(' :: (arguments ++ [')']))
      = lowerOperators name ++ '(' :: (lowerOperators arguments ++ [')']) := by
  have hvalid := Nesting.isValid_start.advance name
  have hquote : ((Nesting.start.advance name).step '(').quote = none :=
    Nesting.quote_step_congr (m := .start) (quote_advance_eq_none hname rfl) '('
  rw [lowerOperators, lowerFrom_append rfl _ _ _ Nesting.isValid_start,
    lowerFrom_append rfl _ _ _ (hvalid.step _), lowerFrom_eq_lowerOperators hquote]
  simp [lowerFrom, lowerOperators]

/-- Texts that agree up to ASCII case agree about parentheses. -/
theorem noParentheses_of_lowerAscii {t u : Text} (h : Text.lowerAscii t = Text.lowerAscii u)
    (ht : ∀ c ∈ t, c ≠ '(' ∧ c ≠ ')') : ∀ c ∈ u, c ≠ '(' ∧ c ≠ ')' := by
  intro c hc
  constructor
  · rintro rfl
    exact (ht '(' (mem_of_lowerAscii rfl h hc)).1 rfl
  · rintro rfl
    exact (ht ')' (mem_of_lowerAscii rfl h hc)).2 rfl

/-- A call stays a call under `lowerOperators`, with its name and its arguments lowered apart. -/
theorem call?_lowerOperators {t name arguments : Text} (h : call? t = some (name, arguments))
    (hname : ∀ c ∈ name, Nesting.isQuote c = false) :
    call? (lowerOperators t) = some (lowerOperators name, lowerOperators arguments) := by
  obtain ⟨rfl, hne, hplain⟩ := call?_eq_some_iff.1 h
  refine call?_eq_some_iff.2 ⟨lowerOperators_call hname arguments, fun hnil => hne ?_,
    noParentheses_of_lowerAscii (lowerAscii_lowerOperators name).symm hplain⟩
  simpa using congrArg List.length hnil

/-- Whether a text is a call does not depend on the case of letters. -/
theorem call?_eq_none_of_lowerAscii {t u : Text} (h : Text.lowerAscii t = Text.lowerAscii u)
    (ht : call? t = none) : call? u = none := by
  refine Option.eq_none_iff_forall_ne_some.2 fun ⟨name, arguments⟩ hu => ?_
  obtain ⟨rfl, hne, hplain⟩ := call?_eq_some_iff.1 hu
  obtain ⟨name', rest, rfl, hname, hrest⟩ := exists_of_lowerAscii_append rfl h
  obtain ⟨arguments', last, rfl, -, hlast⟩ := exists_of_lowerAscii_append (b := []) rfl hrest
  obtain rfl := List.map_eq_nil_iff.1 hlast
  have hsome : call? (name' ++ '(' :: (arguments' ++ [')'])) = some (name', arguments') := by
    refine call?_eq_some_iff.2 ⟨rfl, ?_, noParentheses_of_lowerAscii hname.symm hplain⟩
    rintro rfl
    exact hne (List.map_eq_nil_iff.1 hname.symm)
  rw [ht] at hsome
  cases hsome

/-- The name of a call has a quote mark only if it has one without the blanks around it. -/
theorem noQuotes_of_trim {name : Text} (h : ∀ c ∈ Text.trim name, Nesting.isQuote c = false) :
    ∀ c ∈ name, Nesting.isQuote c = false := by
  intro c hc
  cases hblank : Text.isBlankChar c with
  | true => exact (plain_of_blank hblank).1
  | false => exact h c (Text.mem_trim hc hblank)

/-- `call?_lowerOperators` for the names that are functions. -/
theorem functionCall?_lowerOperators {t name arguments : Text}
    (h : functionCall? t = some (name, arguments)) (hname : ∀ c ∈ name, Nesting.isQuote c = false) :
    functionCall? (lowerOperators t) = some (lowerOperators name, lowerOperators arguments) := by
  obtain ⟨⟨head, inside⟩, hcall, heq⟩ := Option.map_eq_some_iff.1 h
  cases heq
  obtain ⟨hcall, hblank⟩ := Option.filter_eq_some_iff.1 hcall
  unfold functionCall?
  rw [call?_lowerOperators hcall (noQuotes_of_trim hname)]
  simp only [Option.filter, isBlank_lowerOperators, hblank, if_true, Option.map_some,
    trim_lowerOperators]

/-! ## Constructions -/

/-- What stands behind `new`, in any case of its letters. -/
theorem afterNew?_eq_some_iff {t rest : Text} : afterWord? "new " t = some rest ↔
    ∃ word, t = word ++ ' ' :: rest ∧ Text.lowerAscii word = "new".toList := by
  unfold afterWord?
  simp only [Text.eqIgnoreCase, beq_iff_eq, Option.ite_none_right_eq_some, Option.some.injEq]
  constructor
  · rintro ⟨htake, rfl⟩
    obtain ⟨word, blank, hword, hnew, hblank⟩ := List.map_eq_append_iff.1
      (htake.trans (by decide : Text.lowerAscii "new ".toList = "new".toList ++ [' ']))
    obtain ⟨c, last, rfl, hc, hlast⟩ := List.map_eq_cons_iff.1 hblank
    obtain rfl := List.map_eq_nil_iff.1 hlast
    obtain rfl := eq_of_toLower_isBoundary hc rfl
    refine ⟨word, ?_, hnew⟩
    have hsplit := (List.take_append_drop "new ".toList.length t).symm
    rw [hword] at hsplit
    simpa using hsplit
  · rintro ⟨word, rfl, hword⟩
    have hlength : word.length = 3 := by simpa [Text.lowerAscii] using congrArg List.length hword
    obtain ⟨a, b, c, rfl⟩ := List.length_eq_three.1 hlength
    refine ⟨?_, rfl⟩
    have htake : Text.lowerAscii [a, b, c, ' '] = Text.lowerAscii [a, b, c] ++ [' '] := rfl
    exact htake.trans (congrArg (· ++ [' ']) hword)

theorem letters_of_new {word : Text} (hword : Text.lowerAscii word = "new".toList) :
    ∀ c ∈ word, isBoundary c = false := by
  intro c hc
  have hmem : c.toLower ∈ "new".toList := hword ▸ List.mem_map_of_mem hc
  rw [← isBoundary_toLower]
  exact (by decide : ∀ d ∈ "new".toList, isBoundary d = false) _ hmem

theorem isTrimmed_of_new {word : Text} (hword : Text.lowerAscii word = "new".toList) :
    Text.IsTrimmed word := by
  refine .of_word (fun hnil => ?_) fun c hc => Bool.eq_false_iff.2 fun hblank => ?_
  · rw [hnil] at hword
    cases hword
  · have hletter := letters_of_new hword c hc
    rw [isBoundary_of_isBlankChar hblank] at hletter
    cases hletter

/-- A construction is a call of a name that begins with the word. -/
theorem exists_call_of_construction? {t name arguments : Text}
    (h : construction? t = some (name, arguments)) : ∃ word rest,
      Text.lowerAscii word = "new".toList ∧ call? t = some (word ++ ' ' :: rest, arguments) := by
  obtain ⟨⟨head, _⟩, hinside, heq⟩ := Option.map_eq_some_iff.1 h
  cases heq
  obtain ⟨rest, hrest, hcall⟩ := Option.bind_eq_some_iff.1 hinside
  obtain ⟨rfl, -, hplain⟩ := call?_eq_some_iff.1 hcall
  obtain ⟨word, rfl, hword⟩ := afterNew?_eq_some_iff.1 hrest
  refine ⟨word, head, hword, call?_eq_some_iff.2 ⟨by simp, by simp, fun c hc => ?_⟩⟩
  simp only [List.mem_append, List.mem_cons] at hc
  rcases hc with hc | rfl | hc
  · exact (plain_of_not_isBoundary (letters_of_new hword c hc)).2
  · decide
  · exact hplain c hc

/-- `lowerOperators` commutes with taking off the word `new`. -/
theorem afterNew?_lowerOperators (t : Text) :
    afterWord? "new " (lowerOperators t) = (afterWord? "new " t).map lowerOperators := by
  have hlower : ∀ {t rest : Text}, afterWord? "new " t = some rest →
      afterWord? "new " (lowerOperators t) = some (lowerOperators rest) := by
    intro t rest h
    obtain ⟨word, rfl, hword⟩ := afterNew?_eq_some_iff.1 h
    have hletters := letters_of_new hword
    have hvalid := Nesting.isValid_start
    have hoperation : isOperation word = false := by
      rw [isOperation, isOneOf_congr_of_lowerAscii (u := "new".toList) _ (hword.trans (by decide))]
      decide
    refine afterNew?_eq_some_iff.2 ⟨word, ?_, hword⟩
    rw [lowerOperators, lowerFrom_append rfl _ _ _ hvalid, hvalid.advance_of_not_isBoundary hletters,
      hvalid.step_space, lowerFrom_word hletters, List.nil_append, lowerWord, hoperation, Bool.and_false]
    rfl
  cases h : afterWord? "new " t with
  | some rest => exact hlower h
  | none =>
    refine Option.eq_none_iff_forall_ne_some.2 fun rest hrest => ?_
    obtain ⟨word, htext, hword⟩ := afterNew?_eq_some_iff.1 hrest
    have hcase := lowerAscii_lowerOperators t
    rw [htext] at hcase
    obtain ⟨word', rest', rfl, hword', -⟩ := exists_of_lowerAscii_append rfl hcase.symm
    rw [afterNew?_eq_some_iff.2 ⟨word', rfl, hword'.trans hword⟩] at h
    cases h

/-- A construction stays one under `lowerOperators`. -/
theorem construction?_lowerOperators {t name arguments : Text}
    (h : construction? t = some (name, arguments)) (hname : ∀ c ∈ name, Nesting.isQuote c = false) :
    construction? (lowerOperators t) = some (lowerOperators name, lowerOperators arguments) := by
  obtain ⟨⟨head, inside⟩, hcall, heq⟩ := Option.map_eq_some_iff.1 h
  cases heq
  obtain ⟨rest, hrest, hcall⟩ := Option.bind_eq_some_iff.1 hcall
  unfold construction?
  rw [afterNew?_lowerOperators, hrest, Option.map_some, Option.bind_some,
    call?_lowerOperators hcall (noQuotes_of_trim hname), Option.map_some, ← trim_lowerOperators]

/-- `lowerOperators` makes no construction of a text that is none. -/
theorem construction?_eq_none_lowerOperators {t : Text} (h : construction? t = none) :
    construction? (lowerOperators t) = none := by
  unfold construction? at h ⊢
  rw [Option.map_eq_none_iff] at h ⊢
  rw [afterNew?_lowerOperators]
  cases hrest : afterWord? "new " t with
  | none => rfl
  | some rest =>
    rw [hrest, Option.bind_some] at h
    exact call?_eq_none_of_lowerAscii (lowerAscii_lowerOperators rest).symm h

/-! ## Arguments -/

theorem ne_comma_of_not_isBoundary {c : Char} (h : isBoundary c = false) : (c == ',') = false := by
  simp only [isBoundary, Bool.or_eq_false_iff] at h
  exact h.2

/-- A word in front goes to the first argument. -/
theorem splitTop_append_word {n : Nesting} (hn : n.IsValid) {w : Text} (hw : ∀ c ∈ w, isBoundary c = false)
    {t piece : Text} {pieces : List Text} (h : splitTop n t = piece :: pieces) :
    splitTop n (w ++ t) = (w ++ piece) :: pieces := by
  have hcommas : CommaFree n w := commaFree_of_not_mem fun hcomma => by cases hw ',' hcomma
  exact splitTop_append hcommas (by rw [hn.advance_of_not_isBoundary hw, h])

theorem not_isBoundary_lowerWord {n : Nesting} {w : Text} (hw : ∀ c ∈ w, isBoundary c = false) :
    ∀ c ∈ lowerWord n w, isBoundary c = false := by
  intro c hc
  refine Bool.eq_false_iff.2 fun hboundary => ?_
  have hmem := mem_of_lowerAscii hboundary (lowerAscii_lowerWord n w).symm hc
  rw [hw c hmem] at hboundary
  cases hboundary

/-- By induction on the text, with the beginning of a word in front of it: the arguments end at the same
commas. -/
theorem splitTop_lowerFrom (t : Text) : ∀ {n : Nesting} (word : Text), n.IsValid →
    (∀ c ∈ word, isBoundary c = false) → ∃ piece pieces, splitTop n t = piece :: pieces ∧
      splitTop n (lowerFrom n word t) = lowerFrom n word piece :: pieces.map lowerOperators := by
  induction t with
  | nil =>
    intro n word hn hword
    have hsplit := splitTop_append_word hn (not_isBoundary_lowerWord (n := n) hword) (t := []) rfl
    rw [List.append_nil] at hsplit
    exact ⟨[], [], rfl, hsplit⟩
  | cons c t ih =>
    intro n word hn hword
    cases hc : isBoundary c with
    | false =>
      have hcut : (n.isTop && c == ',') = false := by rw [ne_comma_of_not_isBoundary hc, Bool.and_false]
      have hstep := hn.step_of_not_isBoundary hc
      obtain ⟨piece, pieces, ht, hlower⟩ := ih (word ++ [c]) hn fun d hd => by
        rcases List.mem_append.1 hd with hd | hd
        · exact hword d hd
        · rw [List.mem_singleton.1 hd, hc]
      refine ⟨c :: piece, pieces, splitTop_cons hcut (by rw [hstep, ht]), ?_⟩
      rw [lowerFrom, if_neg (by simp [hc]), lowerFrom, if_neg (by simp [hc]), hlower]
    | true =>
      obtain ⟨piece, pieces, ht, hlower⟩ := ih [] (hn.step c) (by simp)
      have hfront : ∀ {rest others}, splitTop n (c :: lowerFrom (n.step c) [] t) = rest :: others →
          splitTop n (lowerFrom n word (c :: t)) = (lowerWord n word ++ rest) :: others := by
        intro rest others h
        rw [lowerFrom, if_pos hc]
        exact splitTop_append_word hn (not_isBoundary_lowerWord hword) h
      cases hcut : n.isTop && c == ',' with
      | true =>
        -- a comma ends an argument, and the next one begins anew
        simp only [Bool.and_eq_true, beq_iff_eq] at hcut
        obtain ⟨htop, rfl⟩ := hcut
        obtain rfl := Nesting.eq_start_of_isTop htop
        refine ⟨[], piece :: pieces, by rw [← ht]; rfl, ?_⟩
        have hnext : splitTop .start (',' :: lowerFrom (Nesting.start.step ',') [] t)
            = [] :: (piece :: pieces).map lowerOperators := by
          rw [List.map_cons, lowerOperators]
          exact congrArg ([] :: ·) hlower
        rw [hfront hnext, List.append_nil]
        rfl
      | false =>
        refine ⟨c :: piece, pieces, splitTop_cons hcut ht, ?_⟩
        rw [hfront (splitTop_cons hcut hlower), lowerFrom, if_pos hc]

/-- The parts between the top commas of the lowered text are the lowered parts. -/
theorem splitTop_lowerOperators (t : Text) :
    splitTop .start (lowerOperators t) = (splitTop .start t).map lowerOperators := by
  obtain ⟨piece, pieces, ht, hlower⟩ := splitTop_lowerFrom t [] Nesting.isValid_start (by simp)
  rw [ht]
  exact hlower

/-- `splitTop_lowerOperators` for the trimmed arguments. -/
theorem splitArguments_lowerOperators (t : Text) :
    splitArguments (lowerOperators t) = (splitArguments t).map lowerOperators := by
  unfold splitArguments
  rw [isBlank_lowerOperators, splitTop_lowerOperators]
  split
  · rfl
  · simp [trim_lowerOperators]

/-- Pieces of which all but the last one end outside of parentheses and quotes. -/
def EndOutside (n : Nesting) : List Text → Prop
  | [] | [_] => True
  | piece :: next :: pieces => n.advance piece = .start ∧ EndOutside .start (next :: pieces)

/-- Every part between two top commas ends outside of quotes and parentheses. -/
theorem endOutside_splitTop (t : Text) : ∀ n : Nesting, EndOutside n (splitTop n t) := by
  induction t with
  | nil => exact fun _ => trivial
  | cons c t ih =>
    intro n
    cases hcut : n.isTop && c == ',' with
    | true =>
      obtain ⟨piece, pieces, ht⟩ := List.exists_cons_of_ne_nil (splitTop_ne_nil n t)
      have hrest := ih n
      simp only [Bool.and_eq_true] at hcut
      obtain rfl := Nesting.eq_start_of_isTop hcut.1
      rw [splitTop, hcut.2, if_pos (by rfl), ht]
      rw [ht] at hrest
      exact ⟨rfl, hrest⟩
    | false =>
      obtain ⟨piece, pieces, ht⟩ := List.exists_cons_of_ne_nil (splitTop_ne_nil (n.step c) t)
      have hrest := ih (n.step c)
      rw [splitTop_cons hcut ht]
      rw [ht] at hrest
      cases pieces with
      | nil => trivial
      | cons next pieces => exact hrest

theorem EndOutside.of_append {ps qs : List Text} : ∀ {n : Nesting}, EndOutside n (ps ++ qs) →
    EndOutside n ps := by
  induction ps with
  | nil => exact fun _ => trivial
  | cons piece ps ih =>
    intro n h
    cases ps with
    | nil => trivial
    | cons next ps => exact ⟨h.1, ih h.2⟩

/-- Parts that end outside can be lowered one at a time. -/
theorem lowerOperators_join {pieces : List Text} (h : EndOutside .start pieces) :
    lowerOperators (Text.join [','] pieces) = Text.join [','] (pieces.map lowerOperators) := by
  induction pieces with
  | nil => rfl
  | cons piece pieces ih =>
    cases pieces with
    | nil => rfl
    | cons next pieces =>
      have hjoin : Text.join [','] (piece :: next :: pieces)
          = piece ++ ',' :: Text.join [','] (next :: pieces) := by
        simp [Text.join]
      have hrest := ih h.2
      rw [lowerOperators] at hrest ⊢
      rw [hjoin, lowerFrom_append rfl _ _ _ Nesting.isValid_start, h.1]
      simp only [List.map_cons, Text.join] at hrest ⊢
      rw [List.append_assoc, List.singleton_append, ← hrest]
      rfl

/-- The arguments before the last comma and the one behind it are the same ones. -/
theorem splitLastArgument_lowerOperators (t : Text) :
    splitLastArgument (lowerOperators t)
      = (lowerOperators (splitLastArgument t).1, (splitLastArgument t).2.map lowerOperators) := by
  have hpieces := endOutside_splitTop t .start
  unfold splitLastArgument
  rw [splitTop_lowerOperators, ← List.map_reverse]
  rcases hreverse : (splitTop .start t).reverse with _ | ⟨last, _ | ⟨before, others⟩⟩
  · simp [trim_lowerOperators]
  · simp [trim_lowerOperators]
  · have hsplit : splitTop .start t = (before :: others).reverse ++ [last] := by
      simpa using congrArg List.reverse hreverse
    rw [hsplit] at hpieces
    simp only [List.map_cons, ← trim_lowerOperators, lowerOperators_join hpieces.of_append,
      List.map_reverse, Option.map_some]

/-! ## Texts that show their operators -/

/-- Each operator word of the text that is not in lower case stands where the parser looks for operators. It
finds none in literals and names, and only those in lower case in a text that begins with a string match. -/
inductive ShowsOperators : Text → Prop
  | lower {t : Text} (h : lowerOperators t = t) : ShowsOperators t
  | sets {t : Text} (hne : divide t ≠ []) (himplied : isImpliedBoolean (core t) = false)
      (hleft : ∀ set ∈ divide t, ShowsOperators set.left)
      (hright : ∀ set ∈ divide t, ShowsOperators set.right) : ShowsOperators t
  | enclosed {t inside : Text} (hnil : divide t = []) (hstrip : stripEnclosing? (Text.trim t) = some inside)
      (h : ShowsOperators inside) : ShowsOperators t
  | call {t name arguments : Text} (hnil : divide t = [])
      (hcall : functionCall? (Text.trim t) = some (name, arguments))
      (hname : ∀ c ∈ name, Nesting.isQuote c = false) (hnew : construction? (Text.trim t) = none)
      (hfirst : ShowsOperators (splitLastArgument arguments).1)
      (hsecond : ∀ second, (splitLastArgument arguments).2 = some second → ShowsOperators second) :
      ShowsOperators t
  | construction {t name arguments : Text} (hnil : divide t = [])
      (hcall : construction? (Text.trim t) = some (name, arguments))
      (hname : ∀ c ∈ name, Nesting.isQuote c = false) (hlower : lowerOperators name = name)
      (hblank : Text.isBlank arguments = false)
      (harguments : ∀ argument ∈ splitArguments arguments, ShowsOperators argument) : ShowsOperators t

/-- An operator in any case, between two sides in which all of them are in lower case. -/
theorem ShowsOperators.of_lower_sides {t : Text} (hne : divide t ≠ [])
    (himplied : isImpliedBoolean (core t) = false)
    (h : ∀ set ∈ divide t, lowerOperators set.left = set.left ∧ lowerOperators set.right = set.right) :
    ShowsOperators t :=
  .sets hne himplied (fun set hset => .lower (h set hset).1) fun set hset => .lower (h set hset).2

/-- What begins with a name is not in parentheses, but has some. -/
theorem parentheses_of_call? {t name arguments : Text} (h : call? t = some (name, arguments)) :
    t.head? ≠ some '(' ∧ '(' ∈ t := by
  obtain ⟨rfl, hne, hplain⟩ := call?_eq_some_iff.1 h
  obtain ⟨c, rest, rfl⟩ := List.exists_cons_of_ne_nil hne
  refine ⟨fun hhead => (hplain c List.mem_cons_self).1 ?_, by simp⟩
  simpa using hhead

/-- A function call has a parenthesis, and does not start with one. -/
theorem parentheses_of_functionCall? {t name arguments : Text}
    (h : functionCall? t = some (name, arguments)) : t.head? ≠ some '(' ∧ '(' ∈ t := by
  obtain ⟨_, hcall, -⟩ := Option.map_eq_some_iff.1 h
  exact parentheses_of_call? (Option.filter_eq_some_iff.1 hcall).1

/-- A construction has a parenthesis, and does not start with one. -/
theorem parentheses_of_construction? {t name arguments : Text}
    (h : construction? t = some (name, arguments)) : t.head? ≠ some '(' ∧ '(' ∈ t := by
  obtain ⟨_, _, -, hcall⟩ := exists_call_of_construction? h
  exact parentheses_of_call? hcall

/-- A call of a name without quote marks is not in quotes. -/
theorem quoted?_eq_none_of_call {t name arguments : Text} (h : call? t = some (name, arguments))
    (hname : ∀ c ∈ name, Nesting.isQuote c = false) : quoted? t = none := by
  obtain ⟨rfl, hne, -⟩ := call?_eq_some_iff.1 h
  refine quoted?_eq_none_of_head fun c hc => hname c ?_
  rw [List.head?_append_of_ne_nil _ hne] at hc
  exact List.mem_of_mem_head? hc

theorem quoted?_eq_none_of_functionCall? {t name arguments : Text}
    (h : functionCall? t = some (name, arguments)) (hname : ∀ c ∈ name, Nesting.isQuote c = false) :
    quoted? t = none := by
  obtain ⟨_, hcall, heq⟩ := Option.map_eq_some_iff.1 h
  cases heq
  exact quoted?_eq_none_of_call (Option.filter_eq_some_iff.1 hcall).1 (noQuotes_of_trim hname)

theorem quoted?_eq_none_of_construction? {t name arguments : Text}
    (h : construction? t = some (name, arguments)) : quoted? t = none := by
  obtain ⟨word, rest, hword, hcall⟩ := exists_call_of_construction? h
  obtain ⟨rfl, -, -⟩ := call?_eq_some_iff.1 hcall
  refine quoted?_eq_none_of_head fun c hc => ?_
  cases word with
  | nil => cases hword
  | cons d word =>
    cases hc
    have hletter := letters_of_new hword _ List.mem_cons_self
    exact (plain_of_not_isBoundary hletter).1

theorem noQuotes_lowerOperators {name : Text} (h : ∀ c ∈ name, Nesting.isQuote c = false) :
    ∀ c ∈ lowerOperators name, Nesting.isQuote c = false := by
  intro c hc
  refine Bool.eq_false_iff.2 fun hquote => ?_
  have hboundary : isBoundary c = true := by simp [isBoundary, hquote]
  have hmem := h c (mem_of_lowerAscii hboundary (lowerAscii_lowerOperators name).symm hc)
  rw [hquote] at hmem
  cases hmem

/-- The `core` of a text that starts with no parenthesis is the text, trimmed. -/
theorem core_of_head {t : Text} (h : (Text.trim t).head? ≠ some '(') : core t = Text.trim t := by
  rw [core, stripEnclosing?_eq_none_of_head h]
  rfl

/-- The `core` of a text in parentheses is what they enclose. -/
theorem core_of_strip {t inside : Text} (h : stripEnclosing? (Text.trim t) = some inside) :
    core t = inside := by
  rw [core, h]
  rfl

/-- Where operators are shown although there are no token sets, they are in parentheses. -/
theorem ShowsOperators.mem_core {t : Text} (h : ShowsOperators t) (hnil : divide t = []) :
    lowerOperators (core t) = core t ∨ '(' ∈ core t := by
  cases h with
  | lower h =>
    left
    rw [← core_lowerOperators, h]
  | sets hne => exact absurd hnil hne
  | call _ hcall =>
    obtain ⟨hhead, hmem⟩ := parentheses_of_functionCall? hcall
    rw [core_of_head hhead]
    exact .inr hmem
  | construction _ hcall =>
    obtain ⟨hhead, hmem⟩ := parentheses_of_construction? hcall
    rw [core_of_head hhead]
    exact .inr hmem
  | @enclosed _ inside _ hstrip hinside =>
    have htrim : Text.trim inside = inside := core_of_strip hstrip ▸ trim_core t
    rw [divide, core_of_strip hstrip] at hnil
    rw [core_of_strip hstrip]
    -- there are more parentheses inside, or else there would be token sets
    cases hinside with
    | lower h => exact .inl h
    | sets hne =>
      cases hagain : stripEnclosing? inside with
      | some => 
        obtain ⟨inner, rfl, -⟩ := stripEnclosing?_eq_some_iff.1 hagain
        exact .inr List.mem_cons_self
      | none =>
        refine absurd ?_ hne
        rw [divide, core, htrim, hagain]
        exact hnil
    | enclosed _ hagain =>
      rw [htrim] at hagain
      obtain ⟨inner, rfl, -⟩ := stripEnclosing?_eq_some_iff.1 hagain
      exact .inr List.mem_cons_self
    | call _ hcall => exact .inr (htrim ▸ (parentheses_of_functionCall? hcall).2)
    | construction _ hcall => exact .inr (htrim ▸ (parentheses_of_construction? hcall).2)

end Filter
end RecordFilter
