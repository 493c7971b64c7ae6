import RecordFilter.Proofs.Expectations

/-!
# Chains of connectives

A chain is a row of operands with `and` or `or` between neighbours. The scanner divides it in two ways.
After an operand without operators a connective takes the rest of the text as its right side. After a
comparison, which has its two sides already, a connective only marks that something follows, and scanning
begins anew. What remains at the end without an operator is dropped then: a chain that ends in a
comparison and an operand without operators is read without its last operand.

Main statement: `leaves_parse_chain`.
-/

namespace RecordFilter

namespace Predicate

/-- The operands of the connectives at the top of a predicate, from left to right. -/
def leaves : Predicate → List Predicate
  | .binary (.connective _) left right _ => left.leaves ++ right.leaves
  | p => [p]

/-- The `leaves` of a conjunction or disjunction are those of its left side, then those of its right side. -/
theorem leaves_connective (op : Connective) (left right : Predicate) (type : ValueType) :
    (Predicate.binary (.connective op) left right type).leaves = left.leaves ++ right.leaves := by
  rw [leaves]

theorem leaves_comparison (op : Comparison) (left right : Predicate) (type : ValueType) :
    (Predicate.binary (.comparison op) left right type).leaves
      = [.binary (.comparison op) left right type] := by
  rw [leaves]
  nofun

/-- A predicate `Alike` to a leaf is a leaf. -/
theorem Alike.leaves_eq {p q : Predicate} (h : Alike p q) (hp : p.leaves = [p]) : q.leaves = [q] := by
  cases h with
  | refl => exact hp
  | null => rw [leaves]; nofun
  | comparison => exact leaves_comparison _ _ _ _

end Predicate

namespace Filter

/-! ## Operands of chains -/

theorem IsAtom.squeeze {t : Text} (h : IsAtom t) : IsAtom (Text.squeeze t) := by
  refine ⟨⟨?_, ?_⟩, by rw [Text.words_squeeze]; exact h.operators, ?_⟩
  · rw [Text.head?_squeeze]
    exact h.trimmed.first
  · rw [Text.getLast?_squeeze]
    exact h.trimmed.last
  · rw [Text.head?_squeeze]
    exact h.head

/-- The scanner's words of an atom, joined again, are the squeezed atom. -/
theorem IsAtom.unwords_words {t : Text} (h : IsAtom t) :
    Text.unwords (Text.words t) = Text.squeeze t :=
  Text.unwords_words h.trimmed.head?_ne h.trimmed.getLast?_ne

/-- A comparison of two texts without operators and parentheses. No quote is open before the word that
compares. -/
structure IsComparison (t left word right : Text) : Prop where
  trimmed : Text.IsTrimmed t
  words : Text.words t = Text.words left ++ word :: Text.words right
  operator : ∃ op, BinaryOperator.ofKeyword? word = some (.comparison op)
  atomLeft : IsAtom left
  closedLeft : Nesting.start.advance left = .start
  atomRight : IsAtom right
  plainLeft : '(' ∉ left
  plainRight : '(' ∉ right

namespace IsComparison

variable {t left word right : Text}

/-- The operator of an `IsComparison` text is a comparison or arithmetic word, and no combinator. -/
theorem isOperation (h : IsComparison t left word right) :
    Filter.isOperation word = true ∧ isCombinator word = false := by
  obtain ⟨_, hop⟩ := h.operator
  exact FilterParser.isOperation_of_ofKeyword? hop

theorem not_mem (h : IsComparison t left word right) : '(' ∉ t := by
  intro hmem
  obtain ⟨piece, hpiece, hmem⟩ := Text.exists_word_of_mem hmem (by decide)
  rw [h.words, List.mem_append, List.mem_cons] at hpiece
  rcases hpiece with hpiece | rfl | hpiece
  · exact h.plainLeft (Text.mem_of_mem_words hpiece hmem)
  · exact (plain_of_isOperation h.isOperation.1 _ hmem).2.1 rfl
  · exact h.plainRight (Text.mem_of_mem_words hpiece hmem)

theorem hasNoOperator_left (h : IsComparison t left word right) : HasNoOperator left :=
  ⟨h.closedLeft, h.atomLeft.operators⟩

/-- Where no quote is open after a comparison, none is open after its right side. -/
theorem hasNoOperator_right (h : IsComparison t left word right)
    (hclosed : Nesting.start.advance t = .start) : HasNoOperator right := by
  rw [← Nesting.isValid_start.advance_words, h.words, List.foldl_append, List.foldl_cons,
    h.hasNoOperator_left.foldl_words, advance_of_isOperation h.isOperation.1,
    Nesting.isValid_start.advance_words] at hclosed
  exact ⟨hclosed, h.atomRight.operators⟩

theorem isBlank_left (h : IsComparison t left word right) : Text.isBlank (Text.squeeze left) = false :=
  h.atomLeft.squeeze.trimmed.isBlank_eq

/-- The scanner finds one token set in an `IsComparison` text, with its two squeezed sides. -/
theorem scan_eq (h : IsComparison t left word right) {started : Bool} :
    scan (.fresh started) (Text.words t) = [⟨Text.squeeze left, word, Text.squeeze right⟩] := by
  have hblank : Text.isBlank (Text.unwords (Text.words left)) = false := by
    rw [h.atomLeft.unwords_words]
    exact h.isBlank_left
  obtain ⟨hoperation, hcombinator⟩ := h.isOperation
  rw [h.words, scan_comparison h.hasNoOperator_left h.atomRight.operators hoperation hcombinator hblank,
    h.atomLeft.unwords_words, h.atomRight.unwords_words]

theorem tokenize_eq (h : IsComparison t left word right) :
    tokenize t = [⟨Text.squeeze left, word, Text.squeeze right⟩] := by
  have hbare : t.head? ≠ some '(' := fun hhead => h.not_mem (List.mem_of_mem_head? hhead)
  have himplied : isImpliedBoolean t = false := by
    have hparen : t.contains '(' = false := by simpa using h.not_mem
    rw [isImpliedBoolean_eq, h.trimmed.trim_eq, hparen]
    simp
  have hstrip : stripEnclosing? t = none := stripEnclosing?_eq_none_of_head hbare
  rw [tokenize_eq_scan h.trimmed.trim_eq h.trimmed.ne_nil hstrip himplied, h.scan_eq]

end IsComparison

end Filter

namespace FilterParser

open RecordFilter.Filter

variable {p : FilterParser} {newGuid : Guid} {t : Text} {expected : Option ValueType} {type : ValueType}
  {q q' : Predicate}

/-! ## Reading operands -/

/-- A text without operators is not read as a connective. -/
theorem leaves_of_atom {parse : Operand t.length} (h : atom p newGuid t parse expected = .ok q) :
    q.leaves = [q] := by
  have hsimple := isSimple_of_atom h
  cases q with
  | binary => cases hsimple
  | _ => rfl

/-- What `combine` makes of a comparison is the node itself, of type boolean. -/
theorem combine_comparison {op : Comparison} {left right : Predicate}
    (h : Predicate.combine (.comparison op) left right = .ok q) :
    q = .binary (.comparison op) left right .boolean := by
  obtain ⟨type, htype, rfl⟩ := Except.map_eq_ok_iff.1 h
  unfold Predicate.operatorType at htype
  simp only at htype
  split at htype <;> cases htype
  rfl

section Comparison

variable {left word right : Text}

/-- `tokenize_eq` for the text as the parser hands it over, squeezed and trimmed. -/
theorem tokenize_isComparison (h : IsComparison t left word right) :
    tokenize (Text.trim (Text.squeeze t)) = [⟨Text.squeeze left, word, Text.squeeze right⟩] := by
  rw [Text.trim_squeeze, h.trimmed.trim_eq, Filter.tokenize_squeeze, h.tokenize_eq]

/-- A comparison is read side by side. -/
theorem parseExpression_isComparison (h : IsComparison t left word right) :
    p.parseExpression newGuid (Text.squeeze t) expected = .ok (some q) ↔
      ∃ a b op, p.parseExpression newGuid (Text.squeeze left)
          ((scopeType? p.schema ⟨Text.squeeze left, word, Text.squeeze right⟩).or expected)
          = .ok (some a) ∧
        p.parseExpression newGuid (Text.squeeze right) (some a.type) = .ok (some b) ∧
        BinaryOperator.ofKeyword? word = some (.comparison op) ∧
        Predicate.combine (.comparison op) a b = .ok q := by
  rw [parseExpression_of_set (tokenize_isComparison h) h.isBlank_left]
  obtain ⟨op, hop⟩ := h.operator
  constructor
  · rintro ⟨a, ha, ⟨hnone, -⟩ | ⟨b, hb, hoperate⟩⟩
    · exact absurd hnone (parseExpression_atom_ne_none h.atomRight.squeeze)
    · exact ⟨a, b, op, ha, hb, hop, (operate_of_keyword hop).1 hoperate⟩
  · rintro ⟨a, b, op', ha, hb, hop', hcombine⟩
    exact ⟨a, ha, .inr ⟨b, hb, (operate_of_keyword hop').2 hcombine⟩⟩

/-- A comparison is read alike where nothing is expected and where a boolean is. -/
theorem alike_of_isComparison (h : IsComparison t left word right) (htype : type.isBoolean = true)
    (hq : p.parseExpression newGuid (Text.squeeze t) none = .ok (some q))
    (hq' : p.parseExpression newGuid (Text.squeeze t) (some type) = .ok (some q')) : q.Alike q' := by
  have hleft : '(' ∉ Text.squeeze left := fun hmem => h.plainLeft (Text.mem_squeeze hmem)
  have hright : '(' ∉ Text.squeeze right := fun hmem => h.plainRight (Text.mem_squeeze hmem)
  rw [parseExpression_isComparison h] at hq hq'
  obtain ⟨a, b, op, ha, hb, hop, hcombine⟩ := hq
  obtain ⟨a', b', op', ha', hb', hop', hcombine'⟩ := hq'
  rw [hop] at hop'
  cases hop'
  have halike : a.Alike a' := by
    rcases eq_or_of_scope (p.parseExpression newGuid (Text.squeeze left)) ha ha' with rfl | ⟨ha, ha'⟩
    · exact .refl a
    · exact alike_of_plain h.atomLeft.squeeze hleft (by simp) htype ha ha'
  have hsecond : b.Alike b' := by
    have hsame : a.type = a'.type → b = b' := by
      intro heq
      rw [heq, hb'] at hb
      cases hb
      rfl
    cases halike with
    | refl => rw [hsame rfl]; exact .refl _
    | null hnull =>
      -- beside a null, the right side has no type to take
      exact alike_of_plain h.atomRight.squeeze hright (by simp [Predicate.type]) hnull hb hb'
    | comparison => rw [hsame rfl]; exact .refl _
  rw [combine_comparison hcombine, combine_comparison hcombine']
  exact .comparison halike hsecond

end Comparison

/-! ## Chains -/

/-- How an operand of a chain is written: as a comparison, or without operators, as paths and calls are.
A construction is no operand by itself, because its type is not known. -/
inductive OperandForm : (isComparison : Bool) → Text → Prop
  | comparison {t left word right : Text} (h : IsComparison t left word right) : OperandForm true t
  | single {t : Text} (h : IsAtom t) (hnew : Filter.construction? (Text.squeeze t) = none) :
      OperandForm false t

namespace OperandForm

variable {isComparison : Bool}

theorem trimmed (h : OperandForm isComparison t) : Text.IsTrimmed t := by
  cases h with
  | comparison h => exact h.trimmed
  | single h => exact h.trimmed

theorem head (h : OperandForm isComparison t) : t.head? ≠ some '(' := by
  cases h with
  | comparison h => exact fun hhead => h.not_mem (List.mem_of_mem_head? hhead)
  | single h => exact h.head

/-- An operand read with a boolean expectation and without one gives `Alike` predicates. -/
theorem alike (h : OperandForm isComparison t) (htype : type.isBoolean = true)
    (hq : p.parseExpression newGuid (Text.squeeze t) none = .ok (some q))
    (hq' : p.parseExpression newGuid (Text.squeeze t) (some type) = .ok (some q')) : q.Alike q' := by
  cases h with
  | comparison h => exact alike_of_isComparison h htype hq hq'
  | single h hnew => exact alike_of_isAtom h.squeeze hnew htype hq hq'

/-- What an operand reads as is a single leaf. -/
theorem leaves_eq (h : OperandForm isComparison t)
    (hq : p.parseExpression newGuid (Text.squeeze t) expected = .ok (some q)) : q.leaves = [q] := by
  cases h with
  | comparison h =>
    obtain ⟨_, _, _, -, -, -, hcombine⟩ := (parseExpression_isComparison h).1 hq
    rw [combine_comparison hcombine]
    exact Predicate.leaves_comparison _ _ _ _
  | single h =>
    rw [parseExpression_atom h.squeeze, Except.map_eq_ok_iff] at hq
    obtain ⟨_, hatom, heq⟩ := hq
    cases heq
    exact leaves_of_atom hatom

end OperandForm

/-- An operand of a chain, which is a filter by itself. Runs of spaces in it count as one space. -/
structure ChainOperand (p : FilterParser) (newGuid : Guid) where
  text : Text
  isComparison : Bool
  form : OperandForm isComparison text
  alone : Predicate
  accepted : p.parse newGuid (Text.squeeze text) = .ok (some alone)

namespace ChainOperand

variable {o : ChainOperand p newGuid}

theorem read (o : ChainOperand p newGuid) :
    p.parseExpression newGuid (Text.squeeze o.text) none = .ok (some o.alone) :=
  (parse_eq_ok_some_iff.1 o.accepted).1

/-- A `ChainOperand` is a comparison or an atom, as its flag says. -/
theorem form_cases (o : ChainOperand p newGuid) :
    (o.isComparison = true ∧ ∃ left word right, IsComparison o.text left word right) ∨
      (o.isComparison = false ∧ IsAtom o.text) := by
  obtain ⟨text, isComparison, form, -, -⟩ := o
  cases form with
  | comparison h => exact .inl ⟨rfl, _, _, _, h⟩
  | single h => exact .inr ⟨rfl, h⟩

/-- Whether no quote is open at the end of the operand, so that a connective can follow. -/
def IsClosed (o : ChainOperand p newGuid) : Prop :=
  Nesting.start.advance o.text = .start

/-- Whether a predicate is the one of the operand by itself, up to the type of null. -/
def Reads (o : ChainOperand p newGuid) (found : Predicate) : Prop :=
  o.alone.Alike found

/-- Where nothing or a boolean is expected, the operand is read as it is by itself. -/
theorem reads (hexpected : ∀ type ∈ expected, type.isBoolean = true)
    (h : p.parseExpression newGuid (Text.squeeze o.text) expected = .ok (some q)) : o.Reads q := by
  have hread := o.read
  cases expected with
  | none =>
    rw [h] at hread
    cases hread
    exact .refl _
  | some type => exact o.form.alike (hexpected type rfl) hread h

theorem Reads.leaves_eq (h : o.Reads q) : q.leaves = [q] :=
  Predicate.Alike.leaves_eq h (o.form.leaves_eq o.read)

end ChainOperand

/-- The text of a chain: operands with the connectives that follow them, and a last operand. -/
def chainText : List (ChainOperand p newGuid × Connective) → ChainOperand p newGuid → Text
  | [], last => last.text
  | (o, op) :: links, last => o.text ++ ' ' :: (op.keyword.toList ++ ' ' :: chainText links last)

section Chains

variable {o last : ChainOperand p newGuid} {op : Connective}
    {links : List (ChainOperand p newGuid × Connective)}

theorem isTrimmed_chainText (last : ChainOperand p newGuid) :
    ∀ links : List (ChainOperand p newGuid × Connective), Text.IsTrimmed (chainText links last)
  | [] => last.form.trimmed
  | (o, op) :: links => by
    have h := o.form.trimmed.append (' ' :: (op.keyword.toList ++ [' ']))
      (isTrimmed_chainText last links)
    simpa [chainText] using h

/-- The words of a chain are those of its first operand, the keyword, and those of the rest. -/
theorem words_chainText :
    Text.words (chainText ((o, op) :: links) last)
      = Text.words o.text ++ op.keyword.toList :: Text.words (chainText links last) := by
  have hword : Text.words op.keyword.toList = [op.keyword.toList] := by
    cases op <;> rfl
  rw [chainText, Text.words_append_space, Text.words_append_space, hword]
  rfl

theorem unwords_chainText (links : List (ChainOperand p newGuid × Connective)) :
    Text.unwords (Text.words (chainText links last)) = Text.squeeze (chainText links last) := by
  have htrimmed := isTrimmed_chainText last links
  exact Text.unwords_words htrimmed.head?_ne htrimmed.getLast?_ne

/-- The bare connective in a chain keeps it from being a single call. -/
theorem tokenize_chainText (hclosed : o.IsClosed) :
    tokenize (chainText ((o, op) :: links) last)
      = scan (.fresh false) (Text.words (chainText ((o, op) :: links) last)) := by
  have htrimmed := isTrimmed_chainText last ((o, op) :: links)
  have hhead : (chainText ((o, op) :: links) last).head? ≠ some '(' := by
    obtain ⟨c, hc, -⟩ := o.form.trimmed.first
    have hne : c ≠ '(' := fun heq => o.form.head (by rw [hc, heq])
    simpa [chainText, hc] using hne
  have hwords : Text.words (Text.trim (chainText ((o, op) :: links) last))
      = Text.words o.text ++ op.keyword.toList :: Text.words (chainText links last) := by
    rw [htrimmed.trim_eq, words_chainText]
  have hfold : (Text.words o.text).foldl Nesting.advance .start = .start := by
    rw [Nesting.isValid_start.advance_words, hclosed]
  have himplied := isImpliedBoolean_eq_false (Text.words o.text) hwords hfold
    (by cases op <;> decide) (by cases op <;> decide)
  have hstrip : stripEnclosing? (chainText ((o, op) :: links) last) = none :=
    stripEnclosing?_eq_none_of_head hhead
  exact tokenize_eq_scan htrimmed.trim_eq htrimmed.ne_nil hstrip himplied

/-! ### Scanning -/

variable {started : Bool}

/-- After an operand without operators, the connective takes the rest of the chain. -/
theorem scan_single (hclosed : o.IsClosed) (h : IsAtom o.text) :
    scan (.fresh started) (Text.words (chainText ((o, op) :: links) last))
      = [⟨Text.squeeze o.text, op.keyword.toList, Text.squeeze (chainText links last)⟩] := by
  have hleft : HasNoOperator o.text := ⟨hclosed, h.operators⟩
  rw [words_chainText, scan_combinator hleft (isCombinator_keyword op), h.unwords_words,
    unwords_chainText]

/-- After a comparison, the connective becomes a marker. -/
theorem scan_marked (hclosed : o.IsClosed) {left word right : Text}
    (h : IsComparison o.text left word right) :
    scan (.fresh started) (Text.words (chainText ((o, op) :: links) last))
      = ⟨Text.squeeze left, word, Text.squeeze right⟩ :: TokenSet.marker op.keyword.toList
        :: scan (.fresh true) (Text.words (chainText links last)) := by
  have hblank : Text.isBlank (Text.unwords (Text.words left)) = false := by
    rw [h.atomLeft.unwords_words]
    exact h.isBlank_left
  obtain ⟨hoperation, hcombinator⟩ := h.isOperation
  rw [words_chainText, h.words, List.append_assoc, List.cons_append,
    scan_comparison_combinator h.hasNoOperator_left (h.hasNoOperator_right hclosed) hoperation
      hcombinator hblank (isCombinator_keyword op),
    h.atomLeft.unwords_words, h.atomRight.unwords_words]

/-- What remains after a marker is dropped if it has no operators. -/
theorem scan_dropped {t : Text} (h : IsAtom t) : scan (.fresh true) (Text.words t) = [] := by
  have hopen : isEnclosed (Text.squeeze t) = false := by
    rw [isEnclosed, enclosedInner?_eq_none_of_head h.squeeze.head]
    rfl
  rw [scan_operand h.operators, h.unwords_words, hopen]
  rfl

/-- Whether something was read before makes no difference to a chain that starts with a closed operand. -/
theorem scan_fresh (hclosed : o.IsClosed) :
    scan (.fresh false) (Text.words (chainText ((o, op) :: links) last))
      = scan (.fresh true) (Text.words (chainText ((o, op) :: links) last)) := by
  rcases o.form_cases with ⟨-, left, word, right, h⟩ | ⟨-, h⟩
  · rw [scan_marked hclosed h, scan_marked hclosed h]
  · rw [scan_single hclosed h, scan_single hclosed h]

/-- A chain of two operands or more has a token set. -/
theorem scan_ne_nil (hclosed : o.IsClosed) :
    scan (.fresh true) (Text.words (chainText ((o, op) :: links) last)) ≠ [] := by
  rcases o.form_cases with ⟨-, left, word, right, h⟩ | ⟨-, h⟩
  · rw [scan_marked hclosed h]
    simp
  · rw [scan_single hclosed h]
    simp

/-- The token sets of a chain are what the scanner finds after its first operand has started. -/
theorem tokenize_squeeze_chainText (hclosed : o.IsClosed) (op : Connective)
    (links : List (ChainOperand p newGuid × Connective)) (last : ChainOperand p newGuid) :
    tokenize (Text.trim (Text.squeeze (chainText ((o, op) :: links) last)))
      = scan (.fresh true) (Text.words (chainText ((o, op) :: links) last)) := by
  rw [Text.trim_squeeze, (isTrimmed_chainText _ _).trim_eq, Filter.tokenize_squeeze,
    tokenize_chainText hclosed, scan_fresh hclosed]

/-! ### Reading -/

/-- A chain of closed operands is never read as the absent filter. -/
theorem parseExpression_chainText_ne_ok_none (hclosed : ∀ link ∈ links, link.1.IsClosed) :
    p.parseExpression newGuid (Text.squeeze (chainText links last)) expected ≠ .ok none := by
  intro hnone
  cases links with
  | nil =>
    have hread : p.parseExpression newGuid (Text.squeeze last.text) none = .ok none :=
      parseExpression_eq_ok_none rfl hnone
    rw [last.read] at hread
    cases hread
  | cons link links =>
    obtain ⟨o, op⟩ := link
    have hfirst : o.IsClosed := hclosed _ List.mem_cons_self
    have htokens := tokenize_squeeze_chainText hfirst op links last
    rcases o.form_cases with ⟨-, left, word, right, h⟩ | ⟨-, h⟩
    · rw [scan_marked hfirst h] at htokens
      rw [parseExpression_of_sets htokens (by simp)] at hnone
      exact foldSets_ne_ok_none h.isBlank_left hnone
    · rw [scan_single hfirst h] at htokens
      rw [parseExpression_of_sets htokens (by simp)] at hnone
      exact foldSets_ne_ok_none h.squeeze.trimmed.isBlank_eq hnone

/-- The accumulator in the middle of a chain, with the operands that have been read: there is either
nothing yet, or a predicate and the connective that comes next. -/
inductive Holds : Accumulator → List Predicate → Prop
  | nothing : Holds (none, none) []
  | existing (q : Predicate) (op : Connective) : Holds (some q, some (.connective op)) q.leaves

/-- `extend` appends the leaves of the next operand to those held so far. -/
theorem Holds.leaves_extend {sofar : Accumulator} {front : List Predicate} {text : Text}
    {current combined : Predicate} (h : Holds sofar front)
    (hextend : extend text sofar current = .ok combined) :
    combined.leaves = front ++ current.leaves := by
  cases h with
  | nothing =>
    rw [extend_none] at hextend
    cases hextend
    rfl
  | existing existing op =>
    rw [extend_eq_ok_iff, combine_connective_eq_ok_iff] at hextend
    obtain ⟨-, -, rfl⟩ := hextend
    exact Predicate.leaves_connective _ _ _ _

/-- The operands that are read, in order. The last one is not, if it has no operators and comes after a
comparison. -/
def kept (afterComparison : Bool) :
    List (ChainOperand p newGuid × Connective) → ChainOperand p newGuid → List (ChainOperand p newGuid)
  | [], last => if afterComparison && !last.isComparison then [] else [last]
  | (o, _) :: links, last => o :: kept o.isComparison links last

/-- What follows in a chain after a marker, or at its beginning, adds the operands that are kept. -/
def ReadsFrom (afterComparison : Bool) (links : List (ChainOperand p newGuid × Connective))
    (last : ChainOperand p newGuid) : Prop :=
  ∀ {sofar : Accumulator} {front : List Predicate} {n : Nat} {text : Text} {expected : Option ValueType}
    {h} {q : Predicate}, Holds sofar front → (∀ type ∈ expected, type.isBoolean = true) →
    foldSets p.schema (p.inner newGuid n) text expected sofar
      (scan (.fresh true) (Text.words (chainText links last))) h = .ok (some q) →
    ∃ found, List.Forall₂ ChainOperand.Reads (kept afterComparison links last) found ∧
      q.leaves = front ++ found

/-- The two sides of a comparison are read as the operand that it is. -/
theorem reads_of_operand {left word right : Text} (h : IsComparison o.text left word right)
    (hexpected : ∀ type ∈ expected, type.isBoolean = true) {n : Nat} {hleft hright} {current : Predicate}
    (hcurrent : operand (p.inner newGuid n) ⟨Text.squeeze left, word, Text.squeeze right⟩
      ((scopeType? p.schema ⟨Text.squeeze left, word, Text.squeeze right⟩).or expected) hleft hright
        = .ok current) : o.Reads current := by
  apply ChainOperand.reads hexpected
  rw [parseExpression_of_set (tokenize_isComparison h) h.isBlank_left]
  exact operand_eq_ok_iff.1 hcurrent

/-- A last operand after a comparison is read if it is a comparison, and dropped otherwise. -/
theorem readsFrom_nil (last : ChainOperand p newGuid) : ReadsFrom true [] last := by
  intro sofar front n text expected
  rcases last.form_cases with ⟨hkind, left, word, right, h⟩ | ⟨hkind, h⟩
  · rw [chainText, h.scan_eq]
    intro _ q hsofar hexpected hq
    obtain ⟨current, combined, hcurrent, hcombined, hq⟩ := (foldSets_operand h.isBlank_left).1 hq
    cases hq
    have hread : last.Reads current := reads_of_operand h hexpected hcurrent
    refine ⟨[current], ?_, ?_⟩
    · simp [kept, hkind, hread]
    · rw [hsofar.leaves_extend hcombined, hread.leaves_eq]
  · rw [chainText, scan_dropped h]
    intro _ q hsofar _ hq
    -- nothing is left to read, and the connective before it is dropped, too
    rw [foldSets_nil] at hq
    cases hsofar with
    | nothing => cases hq
    | existing =>
      cases hq
      exact ⟨[], by simp [kept, hkind], by simp⟩

/-- The operand and the rest of the chain are the two sides of the connective. -/
theorem exists_of_operand_single (hclosed : ∀ link ∈ links, link.1.IsClosed) {n : Nat} {hleft hright}
    {current : Predicate}
    (h : operand (p.inner newGuid n)
      ⟨Text.squeeze o.text, op.keyword.toList, Text.squeeze (chainText links last)⟩
      ((scopeType? p.schema ⟨Text.squeeze o.text, op.keyword.toList,
        Text.squeeze (chainText links last)⟩).or expected) hleft hright = .ok current) :
    ∃ left right, o.Reads left ∧ left.type.isBoolean = true ∧
      p.parseExpression newGuid (Text.squeeze (chainText links last)) (some left.type) = .ok (some right) ∧
      current = .binary (.connective op) left right .boolean := by
  rw [scopeType?_connective, Option.some_or, operand_eq_ok_iff] at h
  obtain ⟨left, hl, ⟨hnone, -⟩ | ⟨right, hr, hoperate⟩⟩ := h
  · exact absurd hnone (parseExpression_chainText_ne_ok_none hclosed)
  · obtain ⟨hboolean, -, rfl⟩ := operate_connective_iff.1 hoperate
    have hread : o.Reads left := ChainOperand.reads (by simp) hl
    exact ⟨left, right, hread, hboolean, hr, rfl⟩

/-- Whether the operands that are kept are read from a chain. -/
def ReadsWhole (links : List (ChainOperand p newGuid × Connective)) (last : ChainOperand p newGuid) : Prop :=
  ∀ {expected : Option ValueType} {q : Predicate}, (∀ type ∈ expected, type.isBoolean = true) →
    p.parseExpression newGuid (Text.squeeze (chainText links last)) expected = .ok (some q) →
    List.Forall₂ ChainOperand.Reads (kept false links last) q.leaves

/-- A bare operand in front of a chain takes the whole rest as its right side. -/
theorem readsFrom_single (op : Connective) (hclosed : ∀ link ∈ (o, op) :: links, link.1.IsClosed)
    (h : IsAtom o.text) (hkind : o.isComparison = false) (hrest : ReadsWhole links last) :
    ReadsFrom true ((o, op) :: links) last := by
  intro sofar front n text expected
  rw [scan_single (hclosed _ List.mem_cons_self) h]
  intro _ q hsofar _ hq
  rw [foldSets_operand h.squeeze.trimmed.isBlank_eq] at hq
  obtain ⟨current, combined, hcurrent, hcombined, hq⟩ := hq
  cases hq
  -- the whole rest of the chain is on the right, and its operands are read from there
  obtain ⟨left, right, hleft, hboolean, hright, rfl⟩ := exists_of_operand_single
    (fun link hlink => hclosed link (List.mem_cons_of_mem _ hlink)) hcurrent
  have hfound := hrest (by simpa using hboolean) hright
  refine ⟨left :: right.leaves, ?_, ?_⟩
  · rw [kept, hkind]
    exact .cons hleft hfound
  · rw [hsofar.leaves_extend hcombined, Predicate.leaves_connective, hleft.leaves_eq]
    rfl

/-- A comparison in front of a chain is one token set, and the scanner goes on behind it. -/
theorem readsFrom_comparison (op : Connective) (hclosed : o.IsClosed) {left word right : Text}
    (h : IsComparison o.text left word right) (hkind : o.isComparison = true)
    (hrest : ReadsFrom true links last) : ReadsFrom true ((o, op) :: links) last := by
  intro sofar front n text expected
  rw [scan_marked hclosed h]
  intro _ q hsofar hexpected hq
  obtain ⟨current, combined, hcurrent, hcombined, hq⟩ := (foldSets_operand h.isBlank_left).1 hq
  have hread : o.Reads current := reads_of_operand h hexpected hcurrent
  have hnot : Text.eqIgnoreCase (TokenSet.marker op.keyword.toList).operation "not".toList = false := by
    cases op <;> decide
  have hop : BinaryOperator.ofKeyword? (TokenSet.marker op.keyword.toList).operation
      = some (.connective op) := by
    cases op <;> decide
  rw [foldSets_marker rfl hnot rfl, hop] at hq
  obtain ⟨found, hfound, hleaves⟩ := hrest (.existing combined op) hexpected hq
  refine ⟨current :: found, ?_, ?_⟩
  · rw [kept, hkind]
    exact .cons hread hfound
  · rw [hleaves, hsofar.leaves_extend hcombined, hread.leaves_eq, List.append_assoc]
    rfl

/-- A chain reads as a whole as it reads from its first operand on. -/
theorem readsWhole_of_readsFrom (hclosed : o.IsClosed) (h : ReadsFrom true ((o, op) :: links) last) :
    ReadsWhole ((o, op) :: links) last := by
  intro expected q hexpected hq
  have htokens := tokenize_squeeze_chainText hclosed op links last
  rw [parseExpression_of_sets htokens (scan_ne_nil hclosed)] at hq
  obtain ⟨found, hfound, hleaves⟩ := h .nothing hexpected hq
  rw [hleaves]
  exact hfound

/-- By induction on the chain: the rest is read anew after a comparison, and as a text of its own after
an operand without operators. -/
theorem reads_chain (last : ChainOperand p newGuid) (hclosed : ∀ link ∈ links, link.1.IsClosed) :
    ReadsFrom true links last ∧ ReadsWhole links last := by
  induction links with
  | nil =>
    refine ⟨readsFrom_nil last, ?_⟩
    intro expected q hexpected hq
    have hread : last.Reads q := ChainOperand.reads hexpected hq
    rw [hread.leaves_eq]
    exact .cons hread .nil
  | cons link links ih =>
    obtain ⟨o, op⟩ := link
    have hfirst : o.IsClosed := hclosed _ List.mem_cons_self
    obtain ⟨ihfrom, ihwhole⟩ := ih fun other hother => hclosed other (List.mem_cons_of_mem _ hother)
    have hfrom : ReadsFrom true ((o, op) :: links) last := by
      rcases o.form_cases with ⟨hkind, left, word, right, h⟩ | ⟨hkind, h⟩
      · exact readsFrom_comparison op hfirst h hkind ihfrom
      · exact readsFrom_single op hclosed h hkind ihwhole
    exact ⟨hfrom, readsWhole_of_readsFrom hfirst hfrom⟩

/-! ### Operands that are lost -/

/-- Whether the last operand of a chain has no operators and comes right after a comparison. -/
def losesLast (links : List (ChainOperand p newGuid × Connective)) (last : ChainOperand p newGuid) : Bool :=
  (links.getLast?.any fun link => link.1.isComparison) && !last.isComparison

/-- `kept` is every operand, less the last one where `losesLast` holds. -/
theorem kept_eq (afterComparison : Bool) (hne : links ≠ []) :
    kept afterComparison links last
      = links.map Prod.fst ++ if losesLast links last then [] else [last] := by
  induction links generalizing afterComparison with
  | nil => exact absurd rfl hne
  | cons link links ih =>
    obtain ⟨o, op⟩ := link
    cases links with
    | nil => rfl
    | cons next links =>
      rw [kept, ih _ (by simp)]
      simp [losesLast, List.getLast?_cons_cons]

/-- A chain that is accepted is read as the predicates of all its operands, in order, exactly if its last
operand is a comparison or does not come right after one. Otherwise the last operand is lost, and only
that one. -/
theorem leaves_parse_chain (p : FilterParser) (newGuid : Guid)
    {links : List (ChainOperand p newGuid × Connective)}
    (hne : links ≠ []) (hclosed : ∀ link ∈ links, link.1.IsClosed) {last : ChainOperand p newGuid}
    {q : Predicate} (h : p.parse newGuid (chainText links last) = .ok (some q)) :
    (List.Forall₂ ChainOperand.Reads (links.map Prod.fst ++ [last]) q.leaves ↔
        losesLast links last = false) ∧
      (losesLast links last = true → List.Forall₂ ChainOperand.Reads (links.map Prod.fst) q.leaves) := by
  obtain ⟨⟨o, op⟩, others, rfl⟩ := List.exists_cons_of_ne_nil hne
  have hfirst : o.IsClosed := hclosed _ List.mem_cons_self
  have htokens : tokenize (Text.trim (chainText ((o, op) :: others) last))
      = scan (.fresh true) (Text.words (chainText ((o, op) :: others) last)) := by
    rw [(isTrimmed_chainText _ _).trim_eq, tokenize_chainText hfirst, scan_fresh hfirst]
  -- runs of spaces do not matter, because the token sets are the same without them
  have hread := (sameResult_of_sets htokens (tokenize_squeeze_chainText hfirst op others last)
    (scan_ne_nil hfirst) (some q)).1
    (parse_eq_ok_some_iff.1 h).1
  have hkept := (reads_chain last hclosed).2 (by simp) hread
  rw [kept_eq false hne] at hkept
  cases hlost : losesLast ((o, op) :: others) last with
  | false =>
    rw [hlost] at hkept
    exact ⟨⟨fun _ => rfl, fun _ => hkept⟩, nofun⟩
  | true =>
    rw [hlost, if_pos rfl, List.append_nil] at hkept
    -- one operand too few is read to be all of them
    refine ⟨⟨fun hall => ?_, nofun⟩, fun _ => hkept⟩
    have hlength := hall.length_eq
    rw [← hkept.length_eq] at hlength
    simp at hlength

end Chains

/-! ### Two chains of items -/

/-- A text of the form of an operand that parses by itself is a `ChainOperand`. -/
theorem exists_chainOperand {isComparison : Bool} (hform : OperandForm isComparison t)
    (h : (p.parse newGuid (Text.squeeze t)).toOption.join.isSome = true) :
    ∃ o : ChainOperand p newGuid, o.text = t ∧ o.isComparison = isComparison := by
  obtain ⟨alone, haccepted⟩ := Except.exists_of_isSome_join h
  exact ⟨⟨t, isComparison, hform, alone, haccepted⟩, rfl, rfl⟩

/-- A word that is no operator is a form of operand. -/
theorem form_of_word (hblank : ∀ c ∈ t, Text.isBlankChar c = false) (hne : t ≠ [])
    (hnested : WellNested t) (hop : isOperation t = false) (hhead : t.head? ≠ some '(') :
    OperandForm false t := by
  have h := IsOperand.of_word hne hblank hnested hop hhead
  have hspace : ' ' ∉ t := fun hmem => by cases hblank _ hmem
  refine .single h.toIsAtom ?_
  rw [h.squeezed]
  exact construction?_eq_none_of_word hspace

theorem exists_flag : ∃ o : ChainOperand items .nil, o.text = "Flag".toList ∧ o.isComparison = false :=
  have hform : OperandForm false "Flag".toList :=
    form_of_word (by decide) (by decide) (.of_plain (by decide)) (by decide) (by decide)
  exists_chainOperand hform (by decide +kernel)

theorem exists_equation : ∃ o : ChainOperand items .nil, o.text = "Id eq 1".toList ∧
    o.isComparison = true := by
  have hatom : ∀ t ∈ ["Id".toList, "1".toList], IsAtom t := by
    intro t ht
    refine (IsOperand.of_word ?_ ?_ (.of_plain ?_) ?_ ?_).toIsAtom <;>
      revert t <;> decide
  have hcomparison : IsComparison "Id eq 1".toList "Id".toList "eq".toList "1".toList :=
    ⟨⟨⟨'I', rfl, rfl⟩, ⟨'1', rfl, rfl⟩⟩, by decide, ⟨.eq, by decide⟩, hatom _ (by decide),
      rfl, hatom _ (by decide), by decide, by decide⟩
  exact exists_chainOperand (.comparison hcomparison) (by decide +kernel)

theorem exists_match : ∃ o : ChainOperand items .nil, o.text = "startswith(Name, 'a')".toList ∧
    o.isComparison = false := by
  have hname : IsOperand "Name".toList :=
    .of_word (by decide) (by decide) (.of_plain (by decide)) (by decide) (by decide)
  have hquote : IsOperand (quote ['a']) := isOperand_quote ⟨by decide, by decide, rfl⟩
  have hcall : IsOperand (callText "startswith".toList "Name".toList (quote ['a'])) :=
    isOperand_call (by decide) hname hquote
  exact exists_chainOperand (.single hcall.toIsAtom (by decide)) (by decide +kernel)

/-- A path, a comparison and a string match: the string match is lost. -/
theorem leaves_parse_chain_items :
    ∃ (flag equation last : ChainOperand items .nil) (q : Predicate),
      chainText [(flag, .and), (equation, .or)] last
        = "Flag and Id eq 1 or startswith(Name, 'a')".toList ∧
      (∀ link ∈ [(flag, Connective.and), (equation, .or)], link.1.IsClosed) ∧
      items.parse .nil (chainText [(flag, .and), (equation, .or)] last) = .ok (some q) ∧
      losesLast [(flag, .and), (equation, .or)] last = true ∧
      ¬List.Forall₂ ChainOperand.Reads [flag, equation, last] q.leaves ∧
      List.Forall₂ ChainOperand.Reads [flag, equation] q.leaves := by
  obtain ⟨flag, hflag, hkind⟩ := exists_flag
  obtain ⟨equation, hequation, hkind'⟩ := exists_equation
  obtain ⟨last, hlast, hkind''⟩ := exists_match
  have htext : chainText [(flag, .and), (equation, .or)] last
      = "Flag and Id eq 1 or startswith(Name, 'a')".toList := by
    simp only [chainText, hflag, hequation, hlast]
    rfl
  have hclosed : ∀ link ∈ [(flag, Connective.and), (equation, .or)], link.1.IsClosed := by
    simp only [List.forall_mem_cons, ChainOperand.IsClosed, hflag, hequation]
    exact ⟨by decide, by decide, by simp⟩
  have hlost : losesLast [(flag, .and), (equation, .or)] last = true := by
    simp [losesLast, hkind', hkind'']
  obtain ⟨q, hq⟩ : ∃ q, items.parse .nil (chainText [(flag, .and), (equation, .or)] last) = .ok (some q) := by
    rw [htext]
    exact Except.exists_of_isSome_join (by decide +kernel)
  obtain ⟨hall, hothers⟩ := leaves_parse_chain items .nil (by simp) hclosed hq
  refine ⟨flag, equation, last, q, htext, hclosed, hq, hlost, fun h => ?_, hothers hlost⟩
  rw [hall.1 h] at hlost
  cases hlost

/-- Each of two operands is a filter by itself, but a chain of them is read without the second one: it
comes after a comparison, or a quote that is open hides the connective. -/
theorem parse_chain_drops :
    (∃ (equation flag : ChainOperand items .nil) (q : Predicate),
      equation.text = "Id eq 1".toList ∧ flag.text = "Flag".toList ∧
      items.parse .nil "Id eq 1 and Flag".toList = .ok (some q) ∧ q.leaves.length = 1 ∧
      ¬List.Forall₂ ChainOperand.Reads [equation, flag] q.leaves) ∧
    ∃ left right q, items.parse .nil "Name eq it's".toList = .ok (some left) ∧
      items.parse .nil "Flag".toList = .ok (some right) ∧
      items.parse .nil "Name eq it's and Flag".toList = .ok (some q) ∧ q.leaves.length = 1 := by
  constructor
  · obtain ⟨flag, hflag, -⟩ := exists_flag
    obtain ⟨equation, hequation, -⟩ := exists_equation
    obtain ⟨q, hq, hlength⟩ : ∃ q, items.parse .nil "Id eq 1 and Flag".toList = .ok (some q) ∧
        q.leaves.length = 1 := Except.exists_of_map_join (by decide +kernel)
    refine ⟨equation, flag, q, hequation, hflag, hq, hlength, fun hall => ?_⟩
    have hboth := hall.length_eq
    rw [hlength] at hboth
    cases hboth
  · obtain ⟨left, hleft⟩ : ∃ left, items.parse .nil "Name eq it's".toList = .ok (some left) :=
      Except.exists_of_isSome_join (by decide +kernel)
    obtain ⟨right, hright⟩ : ∃ right, items.parse .nil "Flag".toList = .ok (some right) :=
      Except.exists_of_isSome_join (by decide +kernel)
    obtain ⟨q, hq, hlength⟩ : ∃ q, items.parse .nil "Name eq it's and Flag".toList = .ok (some q) ∧
        q.leaves.length = 1 := Except.exists_of_map_join (by decide +kernel)
    exact ⟨left, right, q, hleft, hright, hq, hlength⟩

end FilterParser
end RecordFilter
