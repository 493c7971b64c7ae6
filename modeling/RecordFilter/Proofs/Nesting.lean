import RecordFilter.Filter.Token
import RecordFilter.Proofs.Spacing

/-!
# Nested parentheses

Two parts of the scanner look at parentheses: the removal of outer parentheses, which asks if that
would orphan inner ones and takes no notice of quotes, and the search for operators, which leaves out
what is inside of parentheses or quotes. This module says what both see in a text with properly
nested parentheses.

Main statements: `hasOrphan_eq`, which parentheses are orphans, and the closure properties of
`WellNested`.
-/

namespace RecordFilter
namespace Filter

/-! ## Depth -/

/-- How many parentheses are open after a text, when so many are open before it. Nothing says that a
parenthesis is closed that was not opened. Quotes do not count. -/
def depthAfter? (depth : Nat) : Text → Option Nat
  | [] => some depth
  | c :: t =>
    if c = '(' then depthAfter? (depth + 1) t
    else if c = ')' then
      match depth with
      | 0 => none
      | outer + 1 => depthAfter? outer t
    else depthAfter? depth t

@[simp] theorem depthAfter?_nil (depth : Nat) : depthAfter? depth [] = some depth := rfl

@[simp] theorem depthAfter?_open (depth : Nat) (t : Text) :
    depthAfter? depth ('(' :: t) = depthAfter? (depth + 1) t := rfl

@[simp] theorem depthAfter?_close_zero (t : Text) : depthAfter? 0 (')' :: t) = none := rfl

@[simp] theorem depthAfter?_close (depth : Nat) (t : Text) :
    depthAfter? (depth + 1) (')' :: t) = depthAfter? depth t := rfl

theorem depthAfter?_other {c : Char} (hopen : c ≠ '(') (hclose : c ≠ ')') (depth : Nat) (t : Text) :
    depthAfter? depth (c :: t) = depthAfter? depth t := by
  simp [depthAfter?, hopen, hclose]

/-- Induction over a text and the depth before it. The next character opens a parenthesis, closes one that
is not open, closes one that is, or is no parenthesis. -/
@[elab_as_elim]
theorem depth_induction {motive : Nat → Text → Prop} (nil : ∀ depth, motive depth [])
    (opening : ∀ depth t, motive (depth + 1) t → motive depth ('(' :: t))
    (orphan : ∀ t, motive 0 (')' :: t))
    (closing : ∀ depth t, motive depth t → motive (depth + 1) (')' :: t))
    (other : ∀ depth c t, c ≠ '(' → c ≠ ')' → motive depth t → motive depth (c :: t))
    (depth : Nat) (t : Text) : motive depth t := by
  induction t generalizing depth with
  | nil => exact nil depth
  | cons c t ih =>
    by_cases hopen : c = '('
    · subst hopen
      exact opening depth t (ih (depth + 1))
    · by_cases hclose : c = ')'
      · subst hclose
        cases depth with
        | zero => exact orphan t
        | succ depth => exact closing depth t (ih depth)
      · exact other depth c t hopen hclose (ih depth)

theorem depthAfter?_append (depth : Nat) (a b : Text) :
    depthAfter? depth (a ++ b) = (depthAfter? depth a).bind fun inner => depthAfter? inner b := by
  induction depth, a using depth_induction with
  | nil => rfl
  | opening depth t ih => exact ih
  | orphan => rfl
  | closing depth t ih => exact ih
  | other depth c t hopen hclose ih =>
    rw [List.cons_append, depthAfter?_other hopen hclose, depthAfter?_other hopen hclose, ih]

/-- A text that closes what it opens does so inside of more parentheses, too. -/
theorem depthAfter?_add {depth inner : Nat} {t : Text} (h : depthAfter? depth t = some inner)
    (more : Nat) : depthAfter? (depth + more) t = some (inner + more) := by
  induction depth, t using depth_induction with
  | nil =>
    cases h
    rfl
  | opening depth t ih =>
    rw [depthAfter?_open] at h ⊢
    rw [← ih h, Nat.add_right_comm]
  | orphan => cases h
  | closing depth t ih =>
    rw [depthAfter?_close] at h
    rw [Nat.add_right_comm, depthAfter?_close, ih h]
  | other depth c t hopen hclose ih =>
    rw [depthAfter?_other hopen hclose] at h ⊢
    exact ih h

/-- The depth counts the parentheses. -/
theorem depthAfter?_count {depth inner : Nat} {t : Text} (h : depthAfter? depth t = some inner) :
    depth + t.count '(' = inner + t.count ')' := by
  induction depth, t using depth_induction with
  | nil =>
    cases h
    rfl
  | opening depth t ih =>
    have := ih h
    simp
    omega
  | orphan => cases h
  | closing depth t ih =>
    have := ih h
    simp
    omega
  | other depth c t hopen hclose ih =>
    rw [depthAfter?_other hopen hclose] at h
    simpa [List.count_cons, hopen, hclose] using ih h

/-- Parentheses around a text that closes what it opens. -/
theorem depthAfter?_enclosed {t : Text} (h : depthAfter? 0 t = some 0) :
    depthAfter? 0 ('(' :: t ++ [')']) = some 0 := by
  rw [List.cons_append, depthAfter?_open, depthAfter?_append, depthAfter?_add h]
  rfl

/-- A text without parentheses has the depth it begins with. -/
theorem depthAfter?_of_plain {t : Text} (h : ∀ c ∈ t, c ≠ '(' ∧ c ≠ ')') (depth : Nat) :
    depthAfter? depth t = some depth := by
  induction t with
  | nil => rfl
  | cons c t ih =>
    obtain ⟨hopen, hclose⟩ := h c List.mem_cons_self
    rw [depthAfter?_other hopen hclose]
    exact ih fun d hd => h d (List.mem_cons_of_mem c hd)

theorem depthAfter?_plain_append {a b : Text} (ha : ∀ c ∈ a, c ≠ '(' ∧ c ≠ ')')
    (hb : depthAfter? 0 b = some 0) : depthAfter? 0 (a ++ b) = some 0 := by
  rw [depthAfter?_append, depthAfter?_of_plain ha, Option.bind_some, hb]

/-- A parenthesis that is closed and was opened before a text is an orphan in it. -/
theorem depthAfter?_zero_eq_none {t : Text} (h : depthAfter? 1 t = some 0) : depthAfter? 0 t = none := by
  cases hdepth : depthAfter? 0 t with
  | none => rfl
  | some inner =>
    have hmore := depthAfter?_add hdepth 1
    rw [h] at hmore
    cases hmore

/-- Whether a character is a parenthesis. -/
def isParenthesis (c : Char) : Bool :=
  c == '(' || c == ')'

/-- Only the parentheses of a text matter. -/
theorem depthAfter?_filter (depth : Nat) (t : Text) :
    depthAfter? depth (t.filter isParenthesis) = depthAfter? depth t := by
  induction depth, t using depth_induction with
  | nil => rfl
  | opening depth t ih => simp [isParenthesis, ih]
  | orphan => simp [isParenthesis]
  | closing depth t ih => simp [isParenthesis, ih]
  | other depth c t hopen hclose ih =>
    have hother : isParenthesis c = false := by simp [isParenthesis, hopen, hclose]
    rw [depthAfter?_other hopen hclose, ← ih, List.filter_cons_of_neg (by simp [hother])]

/-- Blanks are no quotes and no parentheses. -/
theorem plain_of_blank {c : Char} (hc : Text.isBlankChar c = true) :
    Nesting.isQuote c = false ∧ c ≠ '(' ∧ c ≠ ')' := by
  refine ⟨?_, ?_, ?_⟩
  · cases hmark : Nesting.isQuote c with
    | false => rfl
    | true =>
      simp only [Nesting.isQuote, Bool.or_eq_true, beq_iff_eq] at hmark
      rcases hmark with rfl | rfl <;> cases hc
  · rintro rfl
    cases hc
  · rintro rfl
    cases hc

theorem depthAfter?_of_blank {t : Text} (h : ∀ c ∈ t, Text.isBlankChar c = true) (depth : Nat) :
    depthAfter? depth t = some depth :=
  depthAfter?_of_plain (fun c hc => (plain_of_blank (h c hc)).2) depth

theorem depthAfter?_trim (depth : Nat) (t : Text) :
    depthAfter? depth (Text.trim t) = depthAfter? depth t := by
  obtain ⟨a, b, ht, ha, hb⟩ := Text.exists_trim t
  have hwhole : depthAfter? depth t = depthAfter? depth (a ++ (Text.trim t ++ b)) := by
    rw [← List.append_assoc, ← ht]
  rw [hwhole, depthAfter?_append, depthAfter?_of_blank ha, Option.bind_some, depthAfter?_append]
  cases depthAfter? depth (Text.trim t) with
  | none => rfl
  | some inner => exact (depthAfter?_of_blank hb inner).symm

/-! ## Orphans -/

theorem le_of_mem_positionsFrom {c : Char} {t : Text} {start p : Nat}
    (h : p ∈ positionsFrom c start t) : start ≤ p := by
  induction t generalizing start with
  | nil => cases h
  | cons d t ih =>
    simp only [positionsFrom] at h
    split at h
    · rcases List.mem_cons.1 h with rfl | h
      · exact Nat.le_refl _
      · exact Nat.le_of_succ_le (ih h)
    · exact Nat.le_of_succ_le (ih h)

theorem length_positionsFrom (c : Char) (t : Text) (start : Nat) :
    (positionsFrom c start t).length = t.count c := by
  induction t generalizing start with
  | nil => rfl
  | cons d t ih =>
    simp only [positionsFrom, List.count_cons, beq_iff_eq]
    split
    · rw [List.length_cons, ih]
    · rw [ih, Nat.add_zero]

/-- Whether a closing parenthesis of the pairs stands before its opening one. -/
def anyOrphan (opens closes : List Nat) : Bool :=
  (opens.zip closes).any fun (opened, closed) => closed < opened

/-- A parenthesis that is closed and has not been opened yet is an orphan, if one is opened later. -/
theorem anyOrphan_of_early {closes : List Nat} {t : Text} {start first : Nat} (hfirst : first < start)
    (hopen : 0 < t.count '(') :
    anyOrphan (positionsFrom '(' start t) (first :: closes) = true := by
  rw [← length_positionsFrom '(' t start] at hopen
  obtain ⟨opened, opens, hopens⟩ := List.exists_cons_of_length_pos hopen
  have hle : start ≤ opened := le_of_mem_positionsFrom (by rw [hopens]; exact List.mem_cons_self)
  have hlt : first < opened := Nat.lt_of_lt_of_le hfirst hle
  rw [hopens]
  simp [anyOrphan, hlt]

/-- By induction on the text: `opens` are the parentheses that are open where it starts. As long as no
parenthesis is closed that is not open, each pair is in order. -/
theorem anyOrphan_eq {t : Text} : ∀ {start : Nat} {opens : List Nat}, (∀ p ∈ opens, p < start) →
    opens.length + t.count '(' = t.count ')' →
    anyOrphan (opens ++ positionsFrom '(' start t) (positionsFrom ')' start t)
      = (depthAfter? opens.length t).isNone := by
  induction t with
  | nil =>
    intro start opens _ _
    simp [anyOrphan, positionsFrom]
  | cons c t ih =>
    intro start opens hopens hcount
    by_cases hopen : c = '('
    · -- one more is open
      subst hopen
      have hlt : ∀ p ∈ opens ++ [start], p < start + 1 := by
        intro p hp
        rcases List.mem_append.1 hp with hp | hp
        · exact Nat.lt_succ_of_lt (hopens p hp)
        · rw [List.mem_singleton.1 hp]
          exact Nat.lt_succ_self start
      have hrest := ih hlt (by simp at hcount ⊢; omega)
      simpa [positionsFrom] using hrest
    · by_cases hclose : c = ')'
      · subst hclose
        cases opens with
        | nil =>
          -- it is closed too early, and opened later on
          have hlater : 0 < t.count '(' := by
            simp at hcount
            omega
          simpa [positionsFrom] using anyOrphan_of_early (Nat.lt_succ_self start) hlater
        | cons first opens =>
          -- pairs are made from the left, so it is compared with the first one that is open
          have hfirst : ¬start < first := Nat.not_lt_of_lt (hopens first List.mem_cons_self)
          have hrest := @ih (start + 1) opens
            (fun p hp => Nat.lt_succ_of_lt (hopens p (List.mem_cons_of_mem first hp)))
            (by simp at hcount ⊢; omega)
          simp only [anyOrphan] at hrest
          simp [positionsFrom, anyOrphan, hfirst, hrest]
      · have hrest := @ih (start + 1) opens
          (fun p hp => Nat.lt_succ_of_lt (hopens p hp))
          (by simpa [List.count_cons, hopen, hclose] using hcount)
        simpa [positionsFrom, hopen, hclose, depthAfter?_other hopen hclose] using hrest

/-- A text has orphans when it closes as many parentheses as it opens, but one of them too early. -/
theorem hasOrphan_eq (t : Text) :
    hasOrphan t = (t.count '(' == t.count ')' && (depthAfter? 0 t).isNone) := by
  unfold hasOrphan positions
  simp only [length_positionsFrom]
  cases hcount : t.count '(' == t.count ')' with
  | false => rfl
  | true =>
    have h := @anyOrphan_eq t 0 [] (by simp)
      (by simpa using hcount)
    simpa [anyOrphan] using h

/-- Only the parentheses of a text matter for that. -/
theorem hasOrphan_of_filter {t u : Text} (h : t.filter isParenthesis = u.filter isParenthesis) :
    hasOrphan t = hasOrphan u := by
  have hcount : ∀ c, isParenthesis c = true → t.count c = u.count c := by
    intro c hc
    rw [← List.count_filter hc, h, List.count_filter hc]
  rw [hasOrphan_eq, hasOrphan_eq, hcount '(' rfl, hcount ')' rfl, ← depthAfter?_filter, h,
    depthAfter?_filter]

/-- Squeezing keeps the parentheses, so it makes no orphans. -/
theorem hasOrphan_squeeze (t : Text) : hasOrphan (Text.squeeze t) = hasOrphan t :=
  hasOrphan_of_filter (Text.filter_squeeze rfl t)

/-! ## Quotes -/

namespace Nesting

@[simp] theorem advance_nil (n : Nesting) : n.advance [] = n := rfl

@[simp] theorem advance_cons (n : Nesting) (c : Char) (t : Text) :
    n.advance (c :: t) = (n.step c).advance t := rfl

theorem advance_append (n : Nesting) (a b : Text) :
    n.advance (a ++ b) = (n.advance a).advance b :=
  List.foldl_append

theorem eq_start_of_isTop {n : Nesting} (h : n.isTop = true) : n = .start := by
  obtain ⟨depth, quote⟩ := n
  simp only [isTop, Bool.and_eq_true, beq_iff_eq, Option.isNone_iff_eq_none] at h
  obtain ⟨rfl, rfl⟩ := h
  rfl

/-- Only quote marks open quotes. -/
def IsValid (n : Nesting) : Prop :=
  ∀ c, n.quote = some c → isQuote c = true

theorem isValid_start : start.IsValid := by
  intro c h
  cases h

theorem IsValid.step {n : Nesting} (h : n.IsValid) (c : Char) : (n.step c).IsValid := by
  intro d hd
  unfold Nesting.step at hd
  split at hd
  · split at hd
    · cases hd
    · exact h d hd
  · split at hd
    · rename_i hquote
      cases hd
      exact hquote
    · split at hd
      · cases hd
      · split at hd
        · cases hd
        · exact h d hd

theorem IsValid.advance {n : Nesting} (h : n.IsValid) (t : Text) : (n.advance t).IsValid := by
  induction t generalizing n with
  | nil => exact h
  | cons c t ih => exact ih (h.step c)

theorem IsValid.foldl_advance {n : Nesting} (h : n.IsValid) (words : List Text) :
    (words.foldl Nesting.advance n).IsValid := by
  induction words generalizing n with
  | nil => exact h
  | cons word words ih => exact ih (h.advance word)

/-- Only quote marks and parentheses change where a position is. -/
theorem IsValid.step_of_plain {n : Nesting} (h : n.IsValid) {c : Char}
    (hc : isQuote c = false ∧ c ≠ '(' ∧ c ≠ ')') : n.step c = n := by
  unfold Nesting.step
  split
  · rename_i opened hquote
    rw [if_neg]
    rintro rfl
    rw [h c hquote] at hc
    cases hc.1
  · simp [hc]

theorem IsValid.step_blank {n : Nesting} (h : n.IsValid) {c : Char}
    (hc : Text.isBlankChar c = true) : n.step c = n :=
  h.step_of_plain (plain_of_blank hc)

theorem IsValid.step_space {n : Nesting} (h : n.IsValid) : n.step ' ' = n :=
  h.step_blank rfl

theorem IsValid.advance_of_plain {n : Nesting} (h : n.IsValid) {t : Text}
    (ht : ∀ c ∈ t, isQuote c = false ∧ c ≠ '(' ∧ c ≠ ')') : n.advance t = n := by
  induction t with
  | nil => rfl
  | cons c t ih =>
    rw [advance_cons, h.step_of_plain (ht c List.mem_cons_self)]
    exact ih fun d hd => ht d (List.mem_cons_of_mem c hd)

theorem IsValid.advance_blank {n : Nesting} (h : n.IsValid) {t : Text}
    (ht : ∀ c ∈ t, Text.isBlankChar c = true) : n.advance t = n :=
  h.advance_of_plain fun c hc => plain_of_blank (ht c hc)

theorem IsValid.advance_trim {n : Nesting} (h : n.IsValid) (t : Text) :
    n.advance (Text.trim t) = n.advance t := by
  obtain ⟨a, b, ht, ha, hb⟩ := Text.exists_trim t
  have hwhole : n.advance t = n.advance (a ++ Text.trim t ++ b) := by
    rw [← ht]
  rw [hwhole, advance_append, advance_append, h.advance_blank ha, (h.advance _).advance_blank hb]

/-- It does not matter if the words of a text are gone over or all of it. -/
theorem IsValid.advance_words {n : Nesting} (h : n.IsValid) (t : Text) :
    (Text.words t).foldl Nesting.advance n = n.advance t := by
  rcases Text.exists_first_space t with ht | ⟨a, b, rfl, ha⟩
  · by_cases hne : t = []
    · subst hne
      rfl
    · rw [Text.words_eq_singleton hne ht]
      rfl
  · have ha' := h.advance a
    rw [advance_append, advance_cons, ha'.step_space, ← ha'.advance_words b, Text.words_first ha]
    split
    · rename_i hnil
      rw [hnil]
      rfl
    · rfl
termination_by t.length

/-- The same position inside of more parentheses. -/
def deeper (n : Nesting) : Nesting :=
  ⟨n.depth + 1, n.quote⟩

@[simp] theorem deeper_depth (n : Nesting) : n.deeper.depth = n.depth + 1 := rfl

@[simp] theorem deeper_quote (n : Nesting) : n.deeper.quote = n.quote := rfl

theorem step_deeper (n : Nesting) (c : Char) : n.deeper.step c = (n.step c).deeper := by
  obtain ⟨depth, quote⟩ := n
  cases quote with
  | some opened =>
    simp only [step, deeper]
    split <;> rfl
  | none =>
    simp only [step, deeper]
    split
    · rfl
    · split
      · rfl
      · split
        · rw [Int.add_sub_cancel, Int.sub_add_cancel]
        · rfl

theorem advance_deeper (n : Nesting) (t : Text) : n.deeper.advance t = (n.advance t).deeper := by
  induction t generalizing n with
  | nil => rfl
  | cons c t ih => rw [advance_cons, advance_cons, step_deeper, ih]

/-- Inside of a quote nothing changes until the quote is closed. -/
theorem advance_quoted {t : Text} {opened : Char} (h : opened ∉ t) (depth : Int) :
    advance ⟨depth, some opened⟩ t = ⟨depth, some opened⟩ := by
  induction t with
  | nil => rfl
  | cons c t ih =>
    simp only [List.mem_cons, not_or] at h
    rw [advance_cons]
    have hc : c ≠ opened := fun hc => h.1 hc.symm
    have hstep : step ⟨depth, some opened⟩ c = ⟨depth, some opened⟩ := by
      simp [step, hc]
    rw [hstep]
    exact ih h.2

/-- Without quotes the depth is the one that counts parentheses. -/
theorem advance_of_depthAfter? {t : Text} (hquotes : ∀ c ∈ t, isQuote c = false) {depth inner : Nat}
    (h : depthAfter? depth t = some inner) : advance ⟨depth, none⟩ t = ⟨inner, none⟩ := by
  induction depth, t using depth_induction with
  | nil =>
    cases h
    rfl
  | opening depth t ih => exact ih (fun d hd => hquotes d (List.mem_cons_of_mem _ hd)) h
  | orphan => cases h
  | closing depth t ih =>
    have hstep : step ⟨(depth + 1 : Nat), none⟩ ')' = ⟨depth, none⟩ := by
      simp [step, isQuote]
    rw [advance_cons, hstep]
    exact ih (fun d hd => hquotes d (List.mem_cons_of_mem _ hd)) h
  | other depth c t hopen hclose ih =>
    have hstep : step ⟨depth, none⟩ c = ⟨depth, none⟩ := by
      simp [step, hquotes c List.mem_cons_self, hopen, hclose]
    rw [depthAfter?_other hopen hclose] at h
    rw [advance_cons, hstep]
    exact ih (fun d hd => hquotes d (List.mem_cons_of_mem _ hd)) h

end Nesting

/-! ## Well-nested texts -/

/-- A text that closes the parentheses and the quotes that it opens. Parentheses in quotes do not
count. -/
structure Closes (t : Text) : Prop where
  closed : Nesting.start.advance t = .start
  covered : ∀ u v, t = u ++ v → 0 ≤ (Nesting.start.advance u).depth

namespace Closes

/-- Prefixes of two texts one after the other. -/
theorem append {a b : Text} (ha : Closes a) (hb : Closes b) : Closes (a ++ b) := by
  refine ⟨?_, fun u v h => ?_⟩
  · rw [Nesting.advance_append, ha.closed, hb.closed]
  · rcases List.append_eq_append_iff.1 h with ⟨rest, hu, hb'⟩ | ⟨rest, ha', -⟩
    · rw [hu, Nesting.advance_append, ha.closed]
      exact hb.covered rest v hb'
    · exact ha.covered u rest ha'

/-- A text without quotes and parentheses. -/
theorem of_plain {t : Text} (h : ∀ c ∈ t, Nesting.isQuote c = false ∧ c ≠ '(' ∧ c ≠ ')') : Closes t := by
  refine ⟨Nesting.isValid_start.advance_of_plain h, fun u v huv => ?_⟩
  have hu := Nesting.isValid_start.advance_of_plain
    fun c hc => h c (by rw [huv]; exact List.mem_append_left v hc)
  have hdepth : (Nesting.start.advance u).depth = 0 := congrArg Nesting.depth hu
  exact Int.le_of_eq hdepth.symm

/-- A text between a character that opens and one that closes it again. Inside of them the nesting is
where the first one leads. -/
theorem between {first last : Char} {t : Text} {inside : Nesting}
    (hopen : Nesting.start.step first = inside) (hinside : inside.advance t = inside)
    (hclose : inside.step last = .start)
    (hcovered : ∀ u v, t = u ++ v → 0 ≤ (inside.advance u).depth) : Closes (first :: t ++ [last]) := by
  have hwhole : inside.advance (t ++ [last]) = .start := by
    rw [Nesting.advance_append, hinside, Nesting.advance_cons, hclose]
    rfl
  refine ⟨?_, fun u v huv => ?_⟩
  · rw [List.cons_append, Nesting.advance_cons, hopen, hwhole]
  · cases u with
    | nil => exact Int.le_refl 0
    | cons c u =>
      simp only [List.cons_append, List.cons.injEq] at huv
      obtain ⟨rfl, huv⟩ := huv
      rw [Nesting.advance_cons, hopen]
      rcases Text.prefix_concat huv with ⟨rfl, -⟩ | ⟨rest, ht, -⟩
      · rw [hwhole]
        exact Int.le_refl 0
      · exact hcovered u rest ht

/-- A text in quotes, whatever parentheses are in it: inside of quotes the depth stays 0. -/
theorem quoted {mark : Char} {content : Text} (hmark : Nesting.isQuote mark = true)
    (hmem : mark ∉ content) : Closes (mark :: content ++ [mark]) := by
  refine between ?_ (Nesting.advance_quoted hmem 0) ?_ fun u v huv => ?_
  · simp [Nesting.start, Nesting.step, hmark]
  · simp [Nesting.start, Nesting.step]
  · have hu : mark ∉ u := fun h => hmem (by rw [huv]; exact List.mem_append_left _ h)
    exact Int.le_of_eq (congrArg Nesting.depth (Nesting.advance_quoted hu 0)).symm

/-- A text in parentheses. -/
theorem enclosed {t : Text} (h : Closes t) : Closes ('(' :: t ++ [')']) := by
  have hinside : Nesting.start.deeper.advance t = Nesting.start.deeper := by
    rw [Nesting.advance_deeper, h.closed]
  refine between rfl hinside rfl fun u v huv => ?_
  have hdepth := h.covered u v huv
  show 0 ≤ (Nesting.start.deeper.advance u).depth
  rw [Nesting.advance_deeper, Nesting.deeper_depth]
  omega

/-- A text without quotes in which all parentheses are closed. -/
theorem of_depthAfter? {t : Text} (hquotes : ∀ c ∈ t, Nesting.isQuote c = false)
    (hbalanced : depthAfter? 0 t = some 0) : Closes t := by
  refine ⟨Nesting.advance_of_depthAfter? hquotes hbalanced, fun u v huv => ?_⟩
  rw [huv, depthAfter?_append, Option.bind_eq_some_iff] at hbalanced
  obtain ⟨inner, hinner, -⟩ := hbalanced
  have hu := Nesting.advance_of_depthAfter?
    (fun c hc => hquotes c (by rw [huv]; exact List.mem_append_left v hc)) hinner
  have hdepth := congrArg Nesting.depth hu
  simp only [Int.natCast_zero] at hdepth
  rw [Nesting.start, hdepth]
  exact Int.natCast_nonneg inner

end Closes

/-- A text in which every parenthesis is closed after it has been opened, whether quotes count or
not, and every quote is closed, too. -/
structure WellNested (t : Text) : Prop where
  balanced : depthAfter? 0 t = some 0
  closed : Nesting.start.advance t = .start
  covered : ∀ u v, t = u ++ v → 0 ≤ (Nesting.start.advance u).depth

namespace WellNested

theorem closes {t : Text} (h : WellNested t) : Closes t :=
  ⟨h.closed, h.covered⟩

theorem of_closes {t : Text} (hbalanced : depthAfter? 0 t = some 0) (h : Closes t) : WellNested t :=
  ⟨hbalanced, h.closed, h.covered⟩

theorem append {a b : Text} (ha : WellNested a) (hb : WellNested b) : WellNested (a ++ b) := by
  refine of_closes ?_ (ha.closes.append hb.closes)
  rw [depthAfter?_append, ha.balanced]
  exact hb.balanced

/-- A text without quotes and parentheses. -/
theorem of_plain {t : Text} (h : ∀ c ∈ t, Nesting.isQuote c = false ∧ c ≠ '(' ∧ c ≠ ')') :
    WellNested t :=
  of_closes (depthAfter?_of_plain (fun c hc => (h c hc).2) 0) (.of_plain h)

/-- A text in quotes, in which there are no quotes and no parentheses. -/
theorem quoted {content : Text} (hquotes : ∀ c ∈ content, Nesting.isQuote c = false)
    (hparens : ∀ c ∈ content, c ≠ '(' ∧ c ≠ ')') :
    WellNested ('\'' :: content ++ ['\'']) := by
  refine of_closes (depthAfter?_of_plain (fun c hc => ?_) 0) (.quoted rfl fun h => by cases hquotes _ h)
  simp only [List.cons_append, List.mem_cons, List.mem_append, List.not_mem_nil, or_false] at hc
  rcases hc with rfl | hc | rfl
  · decide
  · exact hparens c hc
  · decide

/-- A well-nested text in parentheses. -/
theorem enclosed {t : Text} (h : WellNested t) : WellNested ('(' :: t ++ [')']) :=
  of_closes (depthAfter?_enclosed h.balanced) h.closes.enclosed

/-- A text without quotes in which all parentheses are closed. -/
theorem of_depthAfter? {t : Text} (hquotes : ∀ c ∈ t, Nesting.isQuote c = false)
    (hbalanced : depthAfter? 0 t = some 0) : WellNested t :=
  of_closes hbalanced (.of_depthAfter? hquotes hbalanced)

end WellNested
end Filter
end RecordFilter
