import RecordFilter.Dialect.Sql92
import RecordFilter.Proofs.Expectations
import RecordFilter.Proofs.RoundTrip

/-!
# String constants in dialects

Both dialects write a string constant between two single quotes and leave its characters as they are.
This module says for which strings the constant stays a single literal when a comparison of a property
with it is written: in OData those without quote marks of either kind and without adjacent spaces, in
SQL-92 those without single quotes.

Main statement: `parse_render_string_iff`.
-/

namespace RecordFilter

/-! ## Literals of SQL-92 -/

namespace Dialect

/-- What is left of a string literal behind the opening quote, up to the closing one. A quote inside of
the literal is written twice. -/
def sqlStringRest? : Text → Option Text
  | '\'' :: '\'' :: t => (sqlStringRest? t).map ('\'' :: ·)
  | ['\''] => some []
  | c :: t => if c = '\'' then none else (sqlStringRest? t).map (c :: ·)
  | [] => none

/-- The string that a text denotes if it is a single string literal of SQL-92. -/
def sqlString? : Text → Option Text
  | '\'' :: t => sqlStringRest? t
  | _ => none

/-- The characters of a string literal between the outer quotes. -/
def sqlEscape : Text → Text
  | [] => []
  | c :: t => if c = '\'' then '\'' :: '\'' :: sqlEscape t else c :: sqlEscape t

theorem eq_of_sqlStringRest? {t s : Text} (h : sqlStringRest? t = some s) :
    t = sqlEscape s ++ ['\''] := by
  fun_induction sqlStringRest? t generalizing s with
  | case1 t ih =>
    obtain ⟨u, hu, rfl⟩ := Option.map_eq_some_iff.1 h
    simp [sqlEscape, ih hu]
  | case2 =>
    cases h
    rfl
  | case3 => cases h
  | case4 c t _ _ hc ih =>
    obtain ⟨u, hu, rfl⟩ := Option.map_eq_some_iff.1 h
    simp [sqlEscape, hc, ih hu]
  | case5 => cases h

theorem sqlStringRest?_escape (s : Text) : sqlStringRest? (sqlEscape s ++ ['\'']) = some s := by
  induction s with
  | nil => rfl
  | cons c s ih =>
    by_cases hc : c = '\''
    · simp [sqlEscape, hc, sqlStringRest?, ih]
    · simp [sqlEscape, hc, sqlStringRest?, ih]

theorem sqlString?_eq_some_iff {t s : Text} :
    sqlString? ('\'' :: t) = some s ↔ t = sqlEscape s ++ ['\''] :=
  ⟨eq_of_sqlStringRest?, fun h => h ▸ sqlStringRest?_escape s⟩

theorem length_sqlEscape (s : Text) : (sqlEscape s).length = s.length + s.count '\'' := by
  induction s with
  | nil => rfl
  | cons c s ih =>
    by_cases hc : c = '\''
    · simp [sqlEscape, hc, ih]
      omega
    · simp [sqlEscape, hc, ih]
      omega

theorem sqlEscape_eq_self {s : Text} (h : '\'' ∉ s) : sqlEscape s = s := by
  induction s with
  | nil => rfl
  | cons c s ih =>
    simp only [List.mem_cons, not_or] at h
    rw [sqlEscape, if_neg fun hc => h.1 hc.symm, ih h.2]

/-- A string in quotes denotes itself if there is no quote in it. -/
theorem sqlString?_quote_iff (s : Text) : sqlString? (Filter.quote s) = some s ↔ '\'' ∉ s := by
  rw [Filter.quote, List.cons_append, sqlString?_eq_some_iff, List.append_cancel_right_eq]
  constructor
  · intro h
    have hlength := length_sqlEscape s
    rw [← h] at hlength
    exact List.count_eq_zero.1 (by omega)
  · exact fun h => (sqlEscape_eq_self h).symm

end Dialect

/-! ## Literals of filters -/

namespace Filter

theorem length_quoted? {t content : Text} (h : quoted? t = some content) :
    content.length ≤ t.length := by
  unfold quoted? at h
  split at h
  · cases h
  · rename_i opening rest
    split at h
    · split at h
      · rename_i hspan
        cases h
        have happ := congrArg List.length (Text.spanWhile_append (fun c => !Nesting.isQuote c) rest)
        rw [hspan] at happ
        simp at happ ⊢
        omega
      · cases h
    · cases h

namespace Literal

/-- A literal that stands for a string is the string. -/
theorem StandsFor.eq_string {culture : Culture} {expected : Option ValueType} {t : Text} {v : String}
    {type : ValueType} (h : StandsFor culture expected t (.constant (.string v) type)) :
    v = String.ofList t := by
  cases h with
  | string => rfl
  | marked _ h => cases h
  | expected _ h => cases h
  | inferred _ h => cases h

end Literal
end Filter

/-! ## Where strings come from -/

namespace Predicate

/-- The string constant that stands last in a predicate of operators. -/
def lastString? : Predicate → Option String
  | .constant (.string v) _ => some v
  | .binary _ _ right _ => right.lastString?
  | _ => none

/-- Whether the last string of a predicate is no longer than a text can be. -/
def EndsWithin (n : Nat) (q : Predicate) : Prop :=
  ∀ v ∈ q.lastString?, v.toList.length ≤ n

theorem EndsWithin.mono {n m : Nat} {q : Predicate} (h : q.EndsWithin n) (hle : n ≤ m) :
    q.EndsWithin m :=
  fun v hv => Nat.le_trans (h v hv) hle

theorem EndsWithin.of_combine {n : Nat} {op : BinaryOperator} {left right q : Predicate}
    (h : right.EndsWithin n) (hcombine : combine op left right = .ok q) : q.EndsWithin n := by
  obtain ⟨_, -, rfl⟩ := Except.map_eq_ok_iff.1 hcombine
  exact h

theorem IsTypedConstant.eq_string {q : Predicate} {v : String} (h : q.IsTypedConstant)
    (hv : q.lastString? = some v) : ∃ type, q = .constant (.string v) type := by
  obtain ⟨value, type, rfl, -⟩ := h
  cases value with
  | string text =>
    cases hv
    exact ⟨type, rfl⟩
  | _ => cases hv

end Predicate

namespace FilterParser

open RecordFilter.Filter

variable {p : FilterParser} {newGuid : Guid} {t : Text} {expected : Option ValueType}

/-- A string constant is the content of a text in quotes, or the text itself. -/
theorem string_of_atom {parse : Operand t.length} {q : Predicate} {v : String}
    (h : atom p newGuid t parse expected = .ok q) (hv : q.lastString? = some v) :
    quoted? t = some v.toList ∨ v.toList = t := by
  have hliteral : ∀ {t : Text}, Literal.StandsFor p.options.culture expected t q → v.toList = t := by
    intro t hread
    obtain ⟨type, rfl⟩ := hread.isTypedConstant.eq_string hv
    rw [hread.eq_string, String.toList_ofList]
  cases isAtomRead_of_atom h with
  | quoted hquoted hread =>
    rw [hquoted, hliteral (Literal.standsFor_of_ofQuoted hread)]
    exact .inl rfl
  | construction _ hread =>
    obtain ⟨_, _, _, -, rfl⟩ := exists_of_construction hread
    cases hv
  | call _ _ hread =>
    obtain ⟨_, _, _, rfl⟩ := eq_call_of_functionCall hread
    cases hv
  | property => cases hv
  | known _ _ _ _ hread => exact .inr (hliteral (Literal.standsFor_of_known hread))
  | fallback _ _ _ _ _ hread => exact .inr (hliteral (Literal.standsFor_of_fallback hread))

/-- What the parser reads from texts of up to `n` characters ends with a string of no more. -/
def ReadsWithin (p : FilterParser) (newGuid : Guid) (n : Nat) : Prop :=
  ∀ {t : Text} {expected : Option ValueType} {q : Predicate}, t.length ≤ n →
    p.parseExpression newGuid t expected = .ok (some q) → q.EndsWithin n

theorem endsWithin_of_atom {parse : Operand t.length} {q : Predicate}
    (h : atom p newGuid t parse expected = .ok q) : q.EndsWithin t.length := by
  intro v hv
  rcases string_of_atom h hv with hquoted | htext
  · exact length_quoted? hquoted
  · exact Nat.le_of_eq (congrArg List.length htext)

theorem endsWithin_of_operand {n m : Nat} {set : TokenSet} {scope : Option ValueType}
    {hleft : set.left.length < n} {hright : set.right.length < n} {q : Predicate}
    (hread : p.ReadsWithin newGuid m) (hl : set.left.length ≤ m) (hr : set.right.length ≤ m)
    (h : operand (p.inner newGuid n) set scope hleft hright = .ok q) : q.EndsWithin m := by
  obtain ⟨left, hparse, ⟨-, rfl⟩ | ⟨right, hparse', hoperate⟩⟩ := operand_eq_ok_iff.1 h
  · exact hread hl hparse
  · obtain ⟨op, -, hcombine⟩ := operate_eq_ok_iff.1 hoperate
    exact (hread hr hparse').of_combine hcombine

theorem endsWithin_of_extend {n : Nat} {text : Text} {sofar : Accumulator} {current q : Predicate}
    (h : current.EndsWithin n) (hextend : extend text sofar current = .ok q) : q.EndsWithin n := by
  obtain ⟨existing, op⟩ := sofar
  cases existing with
  | none =>
    rw [extend_none] at hextend
    cases hextend
    exact h
  | some existing =>
    cases op with
    | none =>
      rw [extend_some] at hextend
      cases hextend
      exact h
    | some op => exact h.of_combine (extend_eq_ok_iff.1 hextend)

/-- By induction on the token sets: the last string is in the last operand, or in what there was
before. -/
theorem endsWithin_of_foldSets {n m : Nat} {text : Text} (hread : p.ReadsWithin newGuid m) :
    ∀ {sets : List TokenSet} {sofar : Accumulator} {h} {q : Predicate},
      (∀ existing ∈ sofar.1, existing.EndsWithin m) →
      (∀ set ∈ sets, set.left.length ≤ m ∧ set.right.length ≤ m) →
      foldSets p.schema (p.inner newGuid n) text expected sofar sets h = .ok (some q) → q.EndsWithin m := by
  intro sets
  induction sets with
  | nil =>
    intro sofar h q hsofar _ hq
    rw [foldSets_nil, Except.ok.injEq] at hq
    exact hsofar q hq
  | cons set sets ih =>
    intro sofar h q hsofar hsides hq
    have hrest := fun other hother => hsides other (List.mem_cons_of_mem set hother)
    obtain ⟨hl, hr⟩ := hsides set List.mem_cons_self
    rcases foldSets_cases hq with ⟨-, current, combined, hcurrent, hcombined, hq⟩ |
      ⟨-, -, hnegation⟩ | ⟨-, -, -, hq⟩
    · have hends := endsWithin_of_extend (endsWithin_of_operand hread hl hr hcurrent) hcombined
      exact ih (by simpa using hends) hrest hq
    · rcases negation_eq_ok_iff.1 hnegation with ⟨-, hsame⟩ | ⟨_, _, _, -, hnegated, hextend, hsome⟩
      · exact hsofar q hsame
      · cases hsome
        refine endsWithin_of_extend ?_ hextend
        obtain ⟨-, rfl⟩ := negate_eq_ok_iff.1 hnegated
        exact nofun
    · have hmarked : ∀ existing ∈ (sofar.1, BinaryOperator.ofKeyword? set.operation).1,
          existing.EndsWithin m := hsofar
      exact ih hmarked hrest hq

/-- By induction on the length of the text. -/
theorem endsWithin_of_parseExpression {t : Text} {expected : Option ValueType} {q : Predicate}
    (h : p.parseExpression newGuid t expected = .ok (some q)) : q.EndsWithin (Text.trim t).length := by
  cases isRead_of_parseExpression h with
  | blank _ h => cases h
  | @enclosed inside _ hstrip h =>
    have hlt := length_stripEnclosing?_lt hstrip
    have hle := Text.length_trim_le inside
    exact (endsWithin_of_parseExpression h).mono (by omega)
  | atom _ _ _ h =>
    obtain ⟨_, hatom, hsome⟩ := Except.map_eq_ok_iff.1 h
    cases hsome
    exact endsWithin_of_atom hatom
  | @sets set _ htokens h =>
    have hsides := sides_lt_of_tokenize htokens
    have hpos := Nat.zero_lt_of_lt (hsides set List.mem_cons_self).1
    have hread : p.ReadsWithin newGuid ((Text.trim t).length - 1) := by
      intro u expected q hu hq
      have hle := Text.length_trim_le u
      exact (endsWithin_of_parseExpression hq).mono (by omega)
    have hends : q.EndsWithin ((Text.trim t).length - 1) :=
      endsWithin_of_foldSets hread (by simp) (fun other hother => by
        have := hsides other hother
        omega) h
    exact hends.mono (by omega)
termination_by (Text.trim t).length

theorem readsWithin (p : FilterParser) (newGuid : Guid) (n : Nat) : p.ReadsWithin newGuid n := by
  intro t expected q hle hq
  have htrim := Text.length_trim_le t
  exact (endsWithin_of_parseExpression hq).mono (by omega)

end FilterParser

namespace Filter

/-! ## Texts of equations -/

section EquationTexts

variable {name : Text}

theorem isTrimmed_equationText {right : Text} (hname : IsPlainOperand name)
    (hright : Text.IsTrimmed right) : Text.IsTrimmed (comparisonText .eq name right) := by
  have h := hname.trimmed.append (' ' :: Comparison.eq.keyword.toList ++ [' ']) hright
  simpa [comparisonText] using h

theorem stripEnclosing?_equationText (hname : IsPlainOperand name) (right : Text) :
    stripEnclosing? (comparisonText .eq name right) = none := by
  obtain ⟨c, hc, -⟩ := hname.trimmed.first
  refine stripEnclosing?_eq_none_of_head ?_
  rw [comparisonText_eq, List.head?_append, hc, Option.some_or, ← hc]
  exact hname.head

/-- An equation is no string match, because its operator is in lower case. -/
theorem isImpliedBoolean_equationText {right : Text} (hname : IsPlainOperand name)
    (htrim : Text.trim (comparisonText .eq name right) = comparisonText .eq name right) :
    isImpliedBoolean (comparisonText .eq name right) = false := by
  obtain ⟨hop, -, hlower, -⟩ := isOperation_comparison .eq
  exact isImpliedBoolean_eq_false (Text.words name) (by rw [htrim, words_comparisonText])
    hname.isOperand.isPiece.hasNoOperator.foldl_words hlower hop

/-- The text of an equation is scanned word by word. -/
theorem scan_equationText (hname : IsPlainOperand name) (right : Text) :
    scan (.fresh false) (Text.words (comparisonText .eq name right))
      = scan ⟨name, "eq".toList, [], true, .start⟩ (Text.words right) := by
  obtain ⟨hop, hcombinator, -, -⟩ := isOperation_comparison .eq
  rw [words_comparisonText, scan_left hname.isOperand.isPiece.hasNoOperator hop hcombinator,
    hname.isOperand.isPiece.unwords_words]
  rfl

end EquationTexts

/-! ## Operators in a constant -/

/-- The words of a text have no operators outside of parentheses and quotes, or a first one. -/
theorem operatorFree_or_split (n : Nesting) (words : List Text) :
    OperatorFree n words ∨ ∃ us word rest, words = us ++ word :: rest ∧ OperatorFree n us ∧
      ((us.foldl Nesting.advance n).advance word).isTop = true ∧ isOperation word = true := by
  induction words generalizing n with
  | nil => exact .inl trivial
  | cons word words ih =>
    by_cases hword : (n.advance word).isTop = true ∧ isOperation word = true
    · exact .inr ⟨[], word, words, rfl, trivial, hword⟩
    · rcases ih (n.advance word) with hfree | ⟨us, other, rest, rfl, hus, hother⟩
      · refine .inl ⟨fun htop => ?_, hfree⟩
        simpa [htop] using hword
      · refine .inr ⟨word :: us, other, rest, rfl, ⟨fun htop => ?_, hus⟩, hother⟩
        simpa [htop] using hword

theorem two_le_length_of_isOperation {word : Text} (h : isOperation word = true) :
    2 ≤ word.length := by
  obtain ⟨candidate, hmem, heq⟩ := List.any_eq_true.1 h
  have hlower := congrArg List.length (beq_iff_eq.1 heq)
  simp only [Text.lowerAscii, List.length_map] at hlower
  have hall : ∀ candidate ∈ operationWords, 2 ≤ candidate.toList.length := by decide
  rw [← hlower]
  exact hall candidate hmem

end Filter

namespace FilterParser

open RecordFilter.Filter Dialect

variable {p : FilterParser} {newGuid : Guid}

/-! ## Comparisons with a string -/

/-- The equation of a property with a string. -/
def equationOf (path : PropertyPath) (type : ValueType) (s : String) : Predicate :=
  .binary (.comparison .eq) (.property path type) (.constant (.string s) .string) .boolean

/-- The equation of a field of the record itself with a string. -/
def equation (name : String) (type : ValueType) (s : String) : Predicate :=
  .binary (.comparison .eq) (.property ⟨[name]⟩ type) (.constant (.string s) .string) .boolean

/-- A name that can stand in a filter as it is: without operators, runs of spaces, quotes, parentheses
and slashes, and without blanks around it. -/
structure IsPlainName (name : Text) : Prop extends IsPlainOperand name where
  slash : '/' ∉ name

section Equations

variable {name : String} {path : PropertyPath} {type : ValueType} {expected : Option ValueType}

theorem resolvePath?_plainName (hname : IsPlainName name.toList)
    (hfield : p.schema.field? name = some type) :
    p.schema.resolvePath? name.toList = some (⟨[name]⟩, type) := by
  rw [RecordType.resolvePath?_name p.schema hname.trimmed.trim_eq hname.slash, hfield]
  rfl

/-- There are no outer parentheses around an equation. -/
theorem tokenize_equation {name right : Text} (hname : IsPlainOperand name)
    (hright : Text.IsTrimmed right) :
    tokenize (Text.trim (comparisonText .eq name right))
      = scan ⟨name, "eq".toList, [], true, .start⟩ (Text.words right) := by
  have htrimmed := isTrimmed_equationText hname hright
  rw [htrimmed.trim_eq, tokenize_eq_scan htrimmed.trim_eq htrimmed.ne_nil
    (stripEnclosing?_equationText hname right) (isImpliedBoolean_equationText hname htrimmed.trim_eq),
    scan_equationText hname]

theorem scopeType?_equation {name : Text} (hname : IsPlainOperand name)
    (hresolve : p.schema.resolvePath? name = some (path, type)) (right : Text) :
    scopeType? p.schema ⟨name, "eq".toList, right⟩ = some type := by
  unfold scopeType?
  rw [if_neg (show ¬isCombinator "eq".toList = true by decide), firstProperty?_atom _ hname.toIsAtom,
    hresolve]
  rfl

/-- A constant in which the scanner sees no operator is the right side of the equation. -/
theorem scan_constant {name right : Text} (hname : Text.isBlank name = false)
    (hright : Text.IsTrimmed right) (hfree : OperatorFree .start (Text.words right)) :
    scan ⟨name, "eq".toList, [], true, .start⟩ (Text.words right)
      = [⟨name, "eq".toList, Text.squeeze right⟩] := by
  have hunwords := Text.unwords_words hright.head?_ne hright.getLast?_ne
  have hscan := scan_append (s := ⟨name, "eq".toList, [], true, .start⟩) [] hfree
  rw [List.append_nil] at hscan
  rw [hscan, scan]
  simp [hname, hunwords]

/-- The right side of the equation is read as the string if it has no quotes and nothing to squeeze. -/
theorem parseExpression_constant_iff {mark : Char} {s : String} (hmark : Nesting.isQuote mark = true)
    (htype : type.isString = true)
    (hfree : OperatorFree .start (Text.words (quoteWith mark s.toList))) :
    p.parseExpression newGuid (quoteWith mark (Text.squeeze s.toList)) (some type)
        = .ok (some (.constant (.string s) .string)) ↔
      (∀ c ∈ s.toList, Nesting.isQuote c = false) ∧ ¬[' ', ' '] <:+: s.toList := by
  rw [← Text.squeeze_eq_self_iff]
  have hatom : IsAtom (quoteWith mark (Text.squeeze s.toList)) := by
    refine ⟨isTrimmed_quoteWith hmark _, ?_, by simpa [quoteWith] using (other_of_isQuote hmark).2.1⟩
    rw [← squeeze_quoteWith hmark, Text.words_squeeze]
    exact hfree
  constructor
  · intro h
    rw [parseExpression_atom hatom] at h
    obtain ⟨_, hread, hsome⟩ := Except.map_eq_ok_iff.1 h
    cases hsome
    rcases string_of_atom hread rfl with hquoted | htext
    · obtain ⟨hplain, hsame⟩ := (quoted?_quoteWith_iff hmark).1 hquoted
      rw [hsame] at hplain
      exact ⟨hplain, hsame⟩
    · -- the quotes would be part of the string, and the squeezed string longer than itself
      have hsqueezed := congrArg Text.squeeze htext
      rw [squeeze_quoteWith hmark, Text.squeeze_squeeze] at hsqueezed
      have hlength := congrArg List.length hsqueezed
      rw [quoteWith, List.length_append, List.length_cons, List.length_singleton] at hlength
      omega
  · rintro ⟨hplain, hsame⟩
    rw [hsame] at hatom ⊢
    rw [parseExpression_quoted ((quoted?_quoteWith_iff hmark).2 ⟨hplain, rfl⟩) hatom, ofQuoted_string htype,
      String.ofList_toList]

theorem combine_equation (path : PropertyPath) (s : String) (htype : type.isString = true) :
    Predicate.combine (.comparison .eq) (.property path type) (.constant (.string s) .string)
      = .ok (equationOf path type s) := by
  have hsame : type.underlying = ValueType.string.underlying := by
    rw [ValueType.isString, decide_eq_true_eq] at htype
    exact htype
  have hfits : Predicate.operatorType (.comparison .eq) type .string = .ok .boolean :=
    operatorType_comparison hsame (.inl rfl)
  rw [Predicate.combine, Predicate.type, Predicate.type, hfits]
  rfl

/-- A property compared with a text in which the scanner sees no operator is the equation with the string
that the text is read as. -/
theorem parseExpression_equation_iff {name right : Text} {s : String} (hname : IsPlainOperand name)
    (hresolve : p.schema.resolvePath? name = some (path, type)) (htype : type.isString = true)
    (hright : Text.IsTrimmed right) (hfree : OperatorFree .start (Text.words right)) :
    p.parseExpression newGuid (comparisonText .eq name right) expected
        = .ok (some (equationOf path type s)) ↔
      p.parseExpression newGuid (Text.squeeze right) (some type)
        = .ok (some (.constant (.string s) .string)) := by
  have hblank := hname.trimmed.isBlank_eq
  have htokens := tokenize_equation hname hright
  rw [scan_constant hblank hright hfree] at htokens
  rw [parseExpression_of_set htokens hblank, scopeType?_equation hname hresolve]
  simp only [Option.some_or, parseExpression_property hname hresolve, Except.ok.injEq,
    Option.some.injEq, exists_eq_left', Predicate.type]
  constructor
  · rintro (⟨-, hq⟩ | ⟨right, hright, hoperate⟩)
    · cases hq
    · obtain ⟨op, -, hcombine⟩ := operate_eq_ok_iff.1 hoperate
      obtain ⟨_, -, heq⟩ := Except.map_eq_ok_iff.1 hcombine
      cases heq
      exact hright
  · intro hright
    refine .inr ⟨_, hright, operate_eq_ok_iff.2
      ⟨.comparison .eq, ofKeyword?_comparison .eq, combine_equation path s htype⟩⟩

/-- An operator in a constant has words before it, so what is before it and behind it is shorter than
the string. -/
theorem sides_of_split {content : Text} {us rest : List Text} {word : Text}
    (hwords : Text.words (quote content) = us ++ word :: rest) (hop : isOperation word = true) :
    (Text.unwords us).length < content.length ∧ Text.wordsWidth rest < content.length := by
  have hwidth := Text.wordsWidth_words_le (quote content)
  have hword := two_le_length_of_isOperation hop
  cases us with
  | nil =>
    -- the first word opens the quotes
    have hhead := Text.head?_of_words hwords (isTrimmed_quote content).head?_ne
    have hmem : '\'' ∈ word := List.mem_of_head? hhead.symm
    cases (plain_of_isOperation hop _ hmem).1
  | cons first others =>
    have hfirst : first ≠ [] :=
      (Text.isWord_of_mem_words (by rw [hwords]; exact List.mem_cons_self)).1
    have hpos := List.length_pos_iff.2 hfirst
    have hbefore := Text.length_unwords_lt (List.cons_ne_nil first others)
    rw [hwords] at hwidth
    simp only [Text.wordsWidth_append, Text.wordsWidth_cons, quote, List.length_append,
      List.length_cons, List.length_nil] at hwidth hbefore
    omega

/-- At the first operator in a constant the right side of the equation ends. -/
theorem scan_split {name : Text} (hname : Text.isBlank name = false) {us rest : List Text} {word : Text}
    {n : Nat} (hus : OperatorFree .start us)
    (htop : ((us.foldl Nesting.advance .start).advance word).isTop = true)
    (hop : isOperation word = true) (hrest : Text.wordsWidth rest < n) :
    ∃ sets, scan ⟨name, "eq".toList, [], true, .start⟩ (us ++ word :: rest)
        = ⟨name, "eq".toList, Text.unwords us⟩ :: sets ∧
      ∀ set ∈ sets, set.left.length < n ∧ set.right.length < n := by
  have hvalid : (us.foldl Nesting.advance .start).IsValid := Nesting.isValid_start.foldl_advance us
  have hfits : (Scan.fresh true).Fits rest n :=
    Scan.fits_of_started rfl (Nat.zero_lt_of_lt hrest) (by simpa [Scan.fresh] using hrest)
  have hsides := scan_sides_lt hfits
  rw [hvalid.advance_of_plain (plain_of_isOperation hop)] at htop
  rw [scan_append (s := ⟨name, "eq".toList, [], true, .start⟩) _ hus,
    scan_operation (Nesting.eq_start_of_isTop htop) hop, if_neg (by simp [hname])]
  refine ⟨_, rfl, fun set hset => ?_⟩
  split at hset
  · rcases List.mem_cons.1 hset with rfl | hset
    · have hpos := Nat.zero_lt_of_lt hrest
      exact ⟨hpos, hpos⟩
    · exact hsides set hset
  · exact hsides set hset

/-- An operator that the scanner sees in a constant leaves less than the whole string for any operand. -/
theorem parseExpression_ne_equation {s : String} (hname : IsPlainName name.toList)
    (hfield : p.schema.field? name = some type) {us rest : List Text} {word : Text}
    (hwords : Text.words (quote s.toList) = us ++ word :: rest) (hus : OperatorFree .start us)
    (htop : ((us.foldl Nesting.advance .start).advance word).isTop = true)
    (hop : isOperation word = true) :
    p.parseExpression newGuid (comparisonText .eq name.toList (quote s.toList)) none
      ≠ .ok (some (equation name type s)) := by
  intro h
  have hblank := hname.trimmed.isBlank_eq
  obtain ⟨hright, hrest⟩ := sides_of_split hwords hop
  obtain ⟨sets, hscan, hsides⟩ := scan_split hblank hus htop hop hrest
  have htokens := tokenize_equation hname.toIsPlainOperand (isTrimmed_quote s.toList)
  rw [hwords, hscan] at htokens
  rw [parseExpression_of_sets htokens (by simp)] at h
  obtain ⟨current, combined, hcurrent, hcombined, hq⟩ := (foldSets_operand hblank).1 h
  rw [extend_none, Except.ok.injEq] at hcombined
  have hread : p.ReadsWithin newGuid (s.toList.length - 1) := p.readsWithin newGuid _
  have hends : current.EndsWithin (s.toList.length - 1) := by
    obtain ⟨left, hleft, ⟨-, rfl⟩ | ⟨right, hparse, hoperate⟩⟩ := operand_eq_ok_iff.1 hcurrent
    · have hproperty := (parseExpression_property hname.toIsPlainOperand
        (resolvePath?_plainName hname hfield)).symm.trans hleft
      cases hproperty
      exact nofun
    · obtain ⟨op, -, hcombine⟩ := operate_eq_ok_iff.1 hoperate
      exact (hread (Nat.le_sub_one_of_lt hright) hparse).of_combine hcombine
  have hwhole : (equation name type s).EndsWithin (s.toList.length - 1) :=
    endsWithin_of_foldSets hread (by simpa [← hcombined] using hends)
      (fun set hset => ⟨Nat.le_sub_one_of_lt (hsides set hset).1,
        Nat.le_sub_one_of_lt (hsides set hset).2⟩) hq
  have hle := hwhole s rfl
  omega

/-- For every string at once: where the scanner finds no operator, the constant is the right side, and
where it finds one, the string is not free of quotes. -/
theorem parse_equation_iff {s : String} (hname : IsPlainName name.toList)
    (hfield : p.schema.field? name = some type) (htype : type.isString = true) :
    p.parse newGuid (comparisonText .eq name.toList (quote s.toList)) = .ok (some (equation name type s)) ↔
      (∀ c ∈ s.toList, Nesting.isQuote c = false) ∧ ¬[' ', ' '] <:+: s.toList := by
  have hwhole : p.parse newGuid (comparisonText .eq name.toList (quote s.toList))
        = .ok (some (equation name type s)) ↔
      p.parseExpression newGuid (comparisonText .eq name.toList (quote s.toList)) none
        = .ok (some (equation name type s)) :=
    parse_eq_ok_some_iff.trans (and_iff_left rfl)
  rw [hwhole]
  rcases operatorFree_or_split .start (Text.words (quote s.toList)) with hfree |
    ⟨us, word, rest, hwords, hus, htop, hop⟩
  · refine (parseExpression_equation_iff hname.toIsPlainOperand (resolvePath?_plainName hname hfield) htype
      (isTrimmed_quote s.toList) hfree).trans ?_
    rw [squeeze_quote]
    exact parseExpression_constant_iff rfl htype hfree
  · refine ⟨fun h => absurd h (parseExpression_ne_equation hname hfield hwords hus htop hop), ?_⟩
    rintro ⟨hplain, -⟩
    have hfree := (hasNoOperator_quote fun hmem => nomatch hplain _ hmem).operatorFree
    rw [hwords, operatorFree_append] at hfree
    have hnot := hfree.2.1 htop
    rw [hop] at hnot
    cases hnot

/-- Both dialects write the string between quotes as it is. -/
theorem render_equation (name : String) (type : ValueType) (s : String) :
    odata.render (equation name type s) = .ok (comparisonText .eq name.toList (quote s.toList)) ∧
      sql92.render (equation name type s) = .ok (name.toList ++ " = ".toList ++ quote s.toList) := by
  have hrender : (PropertyPath.mk [name]).render.toList = name.toList := PropertyPath.toList_render _
  constructor
  · rw [render_odata, ← hrender]
    exact visit_comparison rfl rfl false false
  · change sql92.visit false false (.binary _ _ _ _) = _
    rw [visit]
    simp [visit, sql92, sqlProperty, sqlComparison, plainLiteral, compared, wrap, quote, stringMatchOf?,
      Except.bind, Except.map]

/-- An equation of a field with a string is read back from its text in OData if and only if the string has
no quote marks and no two adjacent spaces. Its text in SQL-92 has one string literal that denotes the
string if and only if there is no single quote in it. -/
theorem parse_render_string_iff (p : FilterParser) (newGuid : Guid) {name : String} {type : ValueType}
    (hname : IsPlainName name.toList) (hfield : p.schema.field? name = some type)
    (htype : type.isString = true) (s : String) :
    (∃ text, odata.render (equation name type s) = .ok text ∧
      (p.parse newGuid text = .ok (some (equation name type s)) ↔
        (∀ c ∈ s.toList, Nesting.isQuote c = false) ∧ ¬[' ', ' '] <:+: s.toList)) ∧
    ∃ literal, sql92.render (equation name type s) = .ok (name.toList ++ " = ".toList ++ literal) ∧
      (sqlString? literal = some s.toList ↔ '\'' ∉ s.toList) := by
  obtain ⟨hodata, hsql⟩ := render_equation name type s
  exact ⟨⟨_, hodata, parse_equation_iff hname hfield htype⟩, _, hsql, sqlString?_quote_iff s.toList⟩

/-- A string of operators and parentheses stays in its constant. -/
theorem parse_render_string_items :
    items.schema.field? "Name" = some .string ∧
    (∃ text, odata.render (equation "Name" .string "or (x and not") = .ok text ∧
      items.parse .nil text = .ok (some (equation "Name" .string "or (x and not"))) ∧
    ∃ literal, sql92.render (equation "Name" .string "or (x and not")
        = .ok ("Name".toList ++ " = ".toList ++ literal) ∧
      sqlString? literal = some "or (x and not".toList := by
  have hname : IsPlainName "Name".toList :=
    ⟨⟨⟨.of_word (by decide) (by decide), by decide, by decide⟩, by decide, by decide⟩, by decide⟩
  have hspaces := Text.squeeze_eq_self_iff.1 (show Text.squeeze "or (x and not".toList = _ by decide)
  have hfield : items.schema.field? "Name" = some .string := by decide
  obtain ⟨⟨text, hodata, hparse⟩, literal, hsql, hliteral⟩ :=
    parse_render_string_iff items .nil hname hfield (by decide) "or (x and not"
  exact ⟨hfield, ⟨text, hodata, hparse.2 ⟨by decide, hspaces⟩⟩, literal, hsql,
    hliteral.2 (by decide)⟩

/-- A quote mark ends the constant: what is behind it becomes a part of the filter in OData, and in SQL-92
the text has no single literal any more. -/
theorem parse_render_string_injects :
    (∃ text q, odata.render (equation "Name" .string "x' or Name ne 'x") = .ok text ∧
      items.parse .nil text = .ok (some q) ∧
      (odata.render q).toOption = some "(Name eq 'x') or (Name ne 'x')".toList ∧
      q ≠ equation "Name" .string "x' or Name ne 'x") ∧
    sql92.render (equation "Name" .string "it's") = .ok "Name = 'it's'".toList ∧
    sqlString? "'it's'".toList = none := by
  obtain ⟨hodata, -⟩ := render_equation "Name" .string "x' or Name ne 'x"
  obtain ⟨-, hsql⟩ := render_equation "Name" .string "it's"
  refine ⟨?_, hsql.trans (by decide), by decide⟩
  obtain ⟨q, hq, hprinted⟩ : ∃ q,
      items.parse .nil (comparisonText .eq "Name".toList (quote "x' or Name ne 'x".toList)) = .ok (some q) ∧
        (odata.render q).toOption = some "(Name eq 'x') or (Name ne 'x')".toList :=
    Except.exists_of_map_join (by decide +kernel)
  refine ⟨_, q, hodata, hq, hprinted, ?_⟩
  rintro rfl
  rw [hodata] at hprinted
  exact absurd hprinted (by decide)

end Equations

end FilterParser
end RecordFilter
