import RecordFilter.Proofs.FieldNames
import RecordFilter.Proofs.Parsing

/-!
# Texts of operands

The operands of a printed filter are paths, literals and calls. Each of them is a text that the scanner
leaves whole (`IsOperand`), so the parser looks for the property, the constant or the call that it shows.

Main statements: `parseExpression_atom`, and `parseExpression_path` for paths.
-/

namespace RecordFilter
namespace Filter

/-! ## Texts that are left whole -/

/-- A text without operators, without blanks around it and not in parentheses. -/
structure IsAtom (t : Text) : Prop where
  trimmed : Text.IsTrimmed t
  operators : OperatorFree .start (Text.words t)
  head : t.head? ≠ some '('

namespace IsAtom

variable {t : Text}

theorem stripEnclosing?_eq (h : IsAtom t) : stripEnclosing? t = none :=
  stripEnclosing?_eq_none_of_head h.head

/-- An atom has no token set. -/
theorem tokenize_eq (h : IsAtom t) : tokenize t = [] := by
  cases himplied : isImpliedBoolean t with
  | true =>
    unfold tokenize
    simp [h.trimmed.trim_eq, h.stripEnclosing?_eq, himplied]
  | false =>
    rw [tokenize_eq_scan h.trimmed.trim_eq h.trimmed.ne_nil h.stripEnclosing?_eq himplied,
      scan_operand h.operators]
    rfl

end IsAtom

/-- A text without operators that is not changed by scanning, and in which parentheses belong together. -/
structure IsOperand (t : Text) : Prop extends IsAtom t where
  squeezed : Text.squeeze t = t
  nested : WellNested t

namespace IsOperand

variable {t : Text}

/-- A word that is no operator. -/
theorem of_word (hne : t ≠ []) (hblank : ∀ c ∈ t, Text.isBlankChar c = false) (hnested : WellNested t)
    (hop : isOperation t = false) (hhead : t.head? ≠ some '(') : IsOperand t := by
  have hspace : ' ' ∉ t := fun h => by cases hblank _ h
  have hoperators := hasNoOperator_word ⟨hne, hspace⟩ hnested.closed hop
  exact ⟨⟨.of_word hne hblank, hoperators.operatorFree, hhead⟩, Text.squeeze_eq_self hspace, hnested⟩

end IsOperand

/-- An operand, or a text in parentheses. -/
structure IsPiece (t : Text) : Prop where
  trimmed : Text.IsTrimmed t
  squeezed : Text.squeeze t = t
  nested : WellNested t
  operators : OperatorFree .start (Text.words t)

namespace IsPiece

variable {t : Text}

theorem hasNoOperator (h : IsPiece t) : HasNoOperator t :=
  ⟨h.nested.closed, h.operators⟩

theorem unwords_words (h : IsPiece t) : Text.unwords (Text.words t) = t := by
  rw [Text.unwords_words h.trimmed.head?_ne h.trimmed.getLast?_ne, h.squeezed]

end IsPiece

/-- Every operand is a piece: what is read as a whole between two operators. -/
theorem IsOperand.isPiece {t : Text} (h : IsOperand t) : IsPiece t :=
  ⟨h.trimmed, h.squeezed, h.nested, h.operators⟩

/-- An operand without quotes and parentheses. -/
structure IsPlainOperand (t : Text) : Prop extends IsAtom t where
  squeezed : Text.squeeze t = t
  plain : ∀ c ∈ t, Nesting.isQuote c = false ∧ c ≠ '(' ∧ c ≠ ')'

/-- A word without blanks, quotes and parentheses that is no operator is a plain operand. -/
theorem IsPlainOperand.of_word {t : Text} (hne : t ≠ []) (hblank : ∀ c ∈ t, Text.isBlankChar c = false)
    (hplain : ∀ c ∈ t, Nesting.isQuote c = false ∧ c ≠ '(' ∧ c ≠ ')') (hop : isOperation t = false) :
    IsPlainOperand t := by
  have hoperand : IsOperand t := .of_word hne hblank (.of_plain hplain) hop fun hhead =>
    (hplain _ (List.mem_of_mem_head? hhead)).2.1 rfl
  exact ⟨hoperand.toIsAtom, hoperand.squeezed, hplain⟩

/-- A plain operand is an operand. -/
theorem IsPlainOperand.isOperand {t : Text} (h : IsPlainOperand t) : IsOperand t :=
  ⟨h.toIsAtom, h.squeezed, .of_plain h.plain⟩

/-- A text that can stand in single quotes: no quotes, no parentheses and no runs of spaces. -/
structure IsQuotable (content : Text) : Prop where
  quotes : ∀ c ∈ content, Nesting.isQuote c = false
  parens : ∀ c ∈ content, c ≠ '(' ∧ c ≠ ')'
  squeezed : Text.squeeze content = content

/-- The text between two quote marks. -/
def quoteWith (mark : Char) (content : Text) : Text :=
  mark :: content ++ [mark]

/-- The text in single quotes. -/
def quote (content : Text) : Text :=
  '\'' :: content ++ ['\'']

section Quotes

variable {mark : Char} {content : Text}

/-- Quote marks are no blanks, no parentheses and no letters. -/
theorem other_of_isQuote (hmark : Nesting.isQuote mark = true) :
    Text.isBlankChar mark = false ∧ mark ≠ '(' ∧ mark ≠ ')' ∧
      ¬('a' ≤ mark.toLower ∧ mark.toLower ≤ 'z') := by
  simp only [Nesting.isQuote, Bool.or_eq_true, beq_iff_eq] at hmark
  rcases hmark with rfl | rfl <;> decide

theorem ne_space_of_isQuote (hmark : Nesting.isQuote mark = true) : mark ≠ ' ' := by
  rintro rfl
  cases hmark

theorem step_start_of_isQuote (hmark : Nesting.isQuote mark = true) :
    Nesting.start.step mark = ⟨0, some mark⟩ := by
  simp [Nesting.start, Nesting.step, hmark]

/-- What is in quotes is hidden from the scanner. -/
theorem hasNoOperator_quoteWith (hmark : Nesting.isQuote mark = true) (h : mark ∉ content) :
    HasNoOperator (quoteWith mark content) := by
  have hopen := step_start_of_isQuote hmark
  have hclosed : Nesting.start.advance (quoteWith mark content) = .start := by
    rw [quoteWith, List.cons_append, Nesting.advance_cons, hopen, Nesting.advance_append,
      Nesting.advance_quoted h]
    simp [Nesting.step, Nesting.start]
  refine hasNoOperator_fenced (a := []) (b := mark :: content) (by simp)
    (by simpa using ne_space_of_isQuote hmark) hclosed (other_of_isQuote hmark).2.2.2
    (fun u v huv hne => ?_) (by simp)
  obtain ⟨c, u, rfl⟩ := List.exists_cons_of_ne_nil hne
  simp only [List.cons_append, List.cons.injEq] at huv
  obtain ⟨rfl, hcontent⟩ := huv
  have hu : mark ∉ u := fun hu => h (by rw [hcontent]; exact List.mem_append_left _ hu)
  rw [List.nil_append, Nesting.advance_cons, hopen, Nesting.advance_quoted hu]
  rfl

/-- No operator is found inside a quoted text. -/
theorem hasNoOperator_quote (h : '\'' ∉ content) : HasNoOperator (quote content) :=
  hasNoOperator_quoteWith rfl h

theorem isTrimmed_quoteWith (hmark : Nesting.isQuote mark = true) (content : Text) :
    Text.IsTrimmed (quoteWith mark content) :=
  have hblank := (other_of_isQuote hmark).1
  ⟨⟨mark, rfl, hblank⟩, ⟨mark, List.getLast?_concat, hblank⟩⟩

theorem isTrimmed_quote (content : Text) : Text.IsTrimmed (quote content) :=
  isTrimmed_quoteWith rfl content

/-- Squeezing a quoted text squeezes what it quotes. -/
theorem squeeze_quoteWith (hmark : Nesting.isQuote mark = true) (content : Text) :
    Text.squeeze (quoteWith mark content) = quoteWith mark (Text.squeeze content) := by
  have hspace := ne_space_of_isQuote hmark
  rw [quoteWith, Text.squeeze_append (by simpa using fun _ => hspace),
    Text.squeeze_cons_of_ne hspace, Text.squeeze_cons_of_ne hspace]
  rfl

theorem squeeze_quote (content : Text) : Text.squeeze (quote content) = quote (Text.squeeze content) :=
  squeeze_quoteWith rfl content

/-- The content of a text in quotes is found if and only if it has no quote marks, of either kind. -/
theorem quoted?_quoteWith_iff (hmark : Nesting.isQuote mark = true) {found : Text} :
    quoted? (quoteWith mark content) = some found ↔
      (∀ c ∈ content, Nesting.isQuote c = false) ∧ content = found := by
  constructor
  · intro h
    simp only [quoteWith, List.cons_append, quoted?, hmark, if_true] at h
    split at h
    · rename_i hspan
      cases h
      have happ := Text.spanWhile_append (fun c => !Nesting.isQuote c) (content ++ [mark])
      rw [hspan] at happ
      have hsame : found = content := (List.append_inj' happ rfl).1
      refine ⟨fun c hc => ?_, hsame.symm⟩
      have htake : found = (content ++ [mark]).takeWhile fun c => !Nesting.isQuote c :=
        (congrArg Prod.fst hspan).symm
      rw [← hsame, htake] at hc
      simpa using List.all_eq_true.1 List.all_takeWhile c hc
    · cases h
  · rintro ⟨hplain, rfl⟩
    have hspan := Text.spanWhile_append_of_all (p := fun c => !Nesting.isQuote c) (a := content)
      (b := [mark]) (fun c hc => by simpa using hplain c hc) (by simp [hmark])
    simp [quoteWith, quoted?, hmark, hspan]

/-- A text without quote marks is read back from its quotes. -/
theorem quoted?_quote (h : ∀ c ∈ content, Nesting.isQuote c = false) :
    quoted? (quote content) = some content :=
  (quoted?_quoteWith_iff rfl).2 ⟨h, rfl⟩

end Quotes

/-- An `IsQuotable` text in quotes is an operand. -/
theorem isOperand_quote {content : Text} (h : IsQuotable content) : IsOperand (quote content) := by
  have hmem : '\'' ∉ content := fun hmem => by cases h.quotes _ hmem
  refine ⟨⟨isTrimmed_quote content, (hasNoOperator_quote hmem).operatorFree, by simp [quote]⟩, ?_,
    .quoted h.quotes h.parens⟩
  rw [squeeze_quote, h.squeezed]

/-- A call is left whole, whatever is between its parentheses. -/
theorem isOperand_callOf {name inside : Text} (hname : isIdentifier name = true)
    (hnested : WellNested inside) (hsqueezed : Text.squeeze inside = inside) :
    IsOperand (name ++ '(' :: inside ++ [')']) := by
  have hchars : ∀ c ∈ name, Nesting.isQuote c = false ∧ c ≠ '(' ∧ c ≠ ')' :=
    fun c hc => plain_of_isIdentifierChar (isIdentifierChar_of_mem hname hc)
  have hspace : ' ' ∉ name := fun hmem => by cases isIdentifierChar_of_mem hname hmem
  have heq : name ++ '(' :: inside ++ [')'] = name ++ ('(' :: inside ++ [')']) := by simp
  obtain ⟨c, rest, rfl⟩ := List.exists_cons_of_ne_nil (ne_nil_of_isIdentifier hname)
  have hc := isIdentifierChar_of_mem hname (c := c) List.mem_cons_self
  refine ⟨⟨⟨⟨c, rfl, isBlankChar_of_isIdentifierChar hc⟩, ⟨')', List.getLast?_concat, rfl⟩⟩, ?_, ?_⟩,
    ?_, ?_⟩
  · rw [heq]
    exact (hasNoOperator_call _ hspace hchars hnested.closes).operatorFree
  · simpa using ne_of_isIdentifierChar hc (d := '(') (by decide)
  · rw [Text.squeeze_append (by simp), Text.squeeze_append (by simp), Text.squeeze_eq_self hspace,
      Text.squeeze_cons_of_ne (by decide), hsqueezed]
    rfl
  · rw [heq]
    exact (WellNested.of_plain hchars).append hnested.enclosed

/-- The text of a call with two arguments. -/
def callText (name first second : Text) : Text :=
  name ++ '(' :: Text.join [',', ' '] [first, second] ++ [')']

/-- A call of two operands is an operand. -/
theorem isOperand_call {name first second : Text} (hname : isIdentifier name = true)
    (hfirst : IsOperand first) (hsecond : IsOperand second) :
    IsOperand (callText name first second) := by
  have hjoin : Text.join [',', ' '] [first, second] = first ++ ([',', ' '] ++ second) := by
    simp [Text.join]
  refine isOperand_callOf hname ?_ (Text.squeeze_join (by decide) fun piece hpiece => ?_)
  · rw [hjoin]
    exact hfirst.nested.append ((WellNested.of_plain (t := [',', ' ']) (by decide)).append hsecond.nested)
  · simp only [List.mem_cons, List.not_mem_nil, or_false] at hpiece
    rcases hpiece with rfl | rfl
    · exact ⟨hfirst.trimmed, hfirst.squeezed⟩
    · exact ⟨hsecond.trimmed, hsecond.squeezed⟩

/-! ## Calls -/

/-- A call is a name and what is between the first parenthesis and one at the end. -/
theorem call?_eq_some_iff {t name arguments : Text} : call? t = some (name, arguments) ↔
    t = name ++ '(' :: (arguments ++ [')']) ∧ name ≠ [] ∧ ∀ c ∈ name, c ≠ '(' ∧ c ≠ ')' := by
  constructor
  · intro h
    refine ⟨call?_eq_some h, ?_⟩
    unfold call? Text.spanWhile at h
    split at h
    · rename_i hspan
      split at h
      · cases h
      · rename_i hne
        obtain ⟨_, -, heq⟩ := Option.map_eq_some_iff.1 h
        cases heq
        obtain ⟨rfl, -⟩ := Prod.mk.inj hspan
        refine ⟨by simpa using hne, fun c hc => ?_⟩
        simpa using List.all_eq_true.1 List.all_takeWhile c hc
    · cases h
  · rintro ⟨rfl, hne, hplain⟩
    have hspan := Text.spanWhile_append_of_all (p := fun c => c != '(' && c != ')') (a := name)
      (b := '(' :: (arguments ++ [')'])) (by simpa using hplain) (by simp)
    rw [call?, hspan]
    simp [hne, dropFinish?_append]

/-- A text that begins with something else is not in quotes. -/
theorem quoted?_eq_none_of_head {t : Text} (h : ∀ c, t.head? = some c → Nesting.isQuote c = false) :
    quoted? t = none := by
  cases t with
  | nil => rfl
  | cons c t => simp [quoted?, h c rfl]

end Filter

namespace FilterParser

open RecordFilter.Filter

variable {p : FilterParser} {newGuid : Guid} {t : Text} {expected : Option ValueType}

/-! ## Operands by themselves -/

theorem firstProperty?_nil (schema : RecordType) : firstProperty? schema [] = none := by
  rw [firstProperty?]
  rfl

/-- Without token sets the first property is what the text resolves to. -/
theorem firstProperty?_of_nil (schema : RecordType) (htrimmed : Text.IsTrimmed t)
    (hsets : tokenize t = []) :
    firstProperty? schema t = schema.resolvePath? ((stripEnclosing? t).getD t) := by
  have hne : t.isEmpty = false := by simpa using htrimmed.ne_nil
  rw [firstProperty?]
  simp only [htrimmed.trim_eq, hne, Bool.false_eq_true, if_false]
  split
  · rfl
  · split
    · rfl
    · rename_i hcons
      rw [htrimmed.trim_eq, hsets] at hcons
      cases hcons

/-- Else it is in the first token set. -/
theorem firstProperty?_of_cons (schema : RecordType) (htrimmed : Text.IsTrimmed t)
    (himplied : isImpliedBoolean t = false) {set : TokenSet} {sets : List TokenSet}
    (hsets : tokenize t = set :: sets) :
    firstProperty? schema t
      = (firstProperty? schema set.left).or (firstProperty? schema set.right) := by
  have hne : t.isEmpty = false := by simpa using htrimmed.ne_nil
  rw [firstProperty?]
  simp only [htrimmed.trim_eq, hne, himplied, Bool.false_eq_true, if_false]
  split
  · rename_i hnil
    rw [htrimmed.trim_eq, hsets] at hnil
    cases hnil
  · rename_i hcons
    rw [htrimmed.trim_eq, hsets] at hcons
    cases hcons
    rfl

/-- The first property of an atom is the atom, where it resolves. -/
theorem firstProperty?_atom (schema : RecordType) (h : IsAtom t) :
    firstProperty? schema t = schema.resolvePath? t := by
  rw [firstProperty?_of_nil schema h.trimmed h.tokenize_eq, h.stripEnclosing?_eq]
  rfl

/-- An atom is read as the parser's `atom`, at any expectation. -/
theorem parseExpression_atom (h : IsAtom t) :
    p.parseExpression newGuid t expected = (atom p newGuid t (p.inner newGuid t.length) expected).map some := by
  have hatom : p.parseExpression newGuid t expected = _ := parseExpression_of_atom expected
    (by rw [h.trimmed.trim_eq]; exact h.trimmed.ne_nil) (by rw [h.trimmed.trim_eq]; exact h.tokenize_eq)
    (by rw [h.trimmed.trim_eq]; exact h.stripEnclosing?_eq)
  rw [h.trimmed.trim_eq] at hatom
  exact hatom

/-- An atom is never read as the absent filter. -/
theorem parseExpression_atom_ne_none (h : IsAtom t) : p.parseExpression newGuid t expected ≠ .ok none := by
  intro hnone
  rw [parseExpression_atom h] at hnone
  obtain ⟨_, -, hsome⟩ := Except.map_eq_ok_iff.1 hnone
  cases hsome

/-- Without a space there is no construction. -/
theorem construction?_eq_none {registry : TypeRegistry} {parse : Operand t.length}
    (h : Filter.construction? t = none) : construction? registry t parse expected = none := by
  unfold construction?
  split
  · rfl
  · rename_i hsome
    rw [h] at hsome
    cases hsome

/-- The parser tries a function if and only if the text is a call of one. -/
theorem functionCall?_eq_none_iff {schema : RecordType} {parse : Operand t.length} :
    functionCall? schema t parse expected = none ↔ Filter.functionCall? t = none := by
  unfold functionCall?
  split <;> simp_all

/-- A constant for quoted text. -/
theorem parseExpression_quoted {content : Text} (h : quoted? t = some content) (hatom : IsAtom t)
    {q : Predicate} :
    p.parseExpression newGuid t expected = .ok (some q) ↔
      Literal.ofQuoted p.options.culture expected content = .ok q := by
  rw [parseExpression_atom hatom, Except.map_eq_ok_iff]
  unfold atom
  simp only [h, Except.mapError_eq_ok_iff, Option.some.injEq, exists_eq_right]

/-- A quoted text is read as the literal `ofQuoted` gives. -/
theorem parseExpression_quote {content : Text} (h : IsQuotable content) {q : Predicate} :
    p.parseExpression newGuid (quote content) expected = .ok (some q) ↔
      Literal.ofQuoted p.options.culture expected content = .ok q :=
  parseExpression_quoted (quoted?_quote h.quotes) (isOperand_quote h).toIsAtom

theorem construction?_eq_none_of_word (h : ' ' ∉ t) : Filter.construction? t = none := by
  have hnew : Filter.afterWord? "new " t = none := by
    refine if_neg fun heq => h ?_
    obtain ⟨c, hc, hlower⟩ := Text.exists_of_eqIgnoreCase heq (d := ' ') (by decide)
    rw [← Text.eq_of_toLower_eq hlower (by decide)]
    exact List.mem_of_mem_take hc
  rw [Filter.construction?, hnew]
  rfl

theorem call?_eq_none (h : '(' ∉ t) : Filter.call? t = none := by
  refine Option.eq_none_iff_forall_ne_some.2 fun ⟨name, arguments⟩ hcall => h ?_
  rw [call?_eq_some hcall]
  simp

theorem functionCall?_eq_none_of_plain (h : '(' ∉ t) : Filter.functionCall? t = none := by
  rw [Filter.functionCall?, call?_eq_none h]
  rfl

theorem construction?_eq_none_of_plain (h : '(' ∉ t) : Filter.construction? t = none := by
  have hcall : (Filter.afterWord? "new " t).bind Filter.call? = none := by
    refine Option.bind_eq_none_iff.2 fun rest hrest => call?_eq_none fun hmem => h ?_
    unfold Filter.afterWord? at hrest
    simp only at hrest
    split at hrest
    · cases hrest
      exact List.mem_of_mem_drop hmem
    · cases hrest
  rw [Filter.construction?, hcall]
  rfl

/-- A text without quotes in front, spaces and parentheses is a path or a constant. -/
theorem atom_plain {parse : Operand t.length}
    (hquote : ∀ c, t.head? = some c → Nesting.isQuote c = false)
    (hspace : ' ' ∉ t) (hparen : '(' ∉ t) :
    atom p newGuid t parse expected =
      match firstProperty? p.schema t with
      | some (path, type) => .ok (.property path type)
      | none =>
        ((Literal.known? p.options.culture newGuid expected t).getD
          (Literal.fallback p.options.culture expected t)).mapError fun problem => ⟨t, problem⟩ := by
  have hquoted := quoted?_eq_none_of_head hquote
  unfold atom
  cases firstProperty? p.schema t <;>
    simp only [hquoted, construction?_eq_none (construction?_eq_none_of_word hspace),
      functionCall?_eq_none_iff.2 (functionCall?_eq_none_of_plain hparen)]

/-! ## Paths -/

/-- An operand without quotes and parentheses that resolves is read as the property that it shows,
whatever type is expected. -/
theorem parseExpression_property {path : PropertyPath} {type : ValueType} (h : IsPlainOperand t)
    (hresolve : p.schema.resolvePath? t = some (path, type)) :
    p.parseExpression newGuid t expected = .ok (some (.property path type)) := by
  have hparen : '(' ∉ t := fun hmem => (h.plain _ hmem).2.1 rfl
  have hquoted : quoted? t = none :=
    quoted?_eq_none_of_head fun c hc => (h.plain c (List.mem_of_mem_head? hc)).1
  rw [parseExpression_atom h.toIsAtom]
  unfold atom
  simp only [hquoted, construction?_eq_none (construction?_eq_none_of_plain hparen),
    functionCall?_eq_none_iff.2 (functionCall?_eq_none_of_plain hparen),
    firstProperty?_atom _ h.toIsAtom, hresolve]
  rfl

section Paths

variable {path : PropertyPath} {type : ValueType}

/-- The text of a resolved path in a well-named schema is a plain operand. -/
theorem isPlainOperand_path (h : p.schema.isWellNamed = true)
    (hresolve : p.schema.resolveSegments? path.segments = some (path, type)) :
    IsPlainOperand path.render.toList := by
  obtain ⟨hne, -, -, hnames⟩ := RecordType.wellNamed_of_resolveSegments? h hresolve
  have hchars : ∀ c ∈ path.render.toList,
      Text.isBlankChar c = false ∧ Nesting.isQuote c = false ∧ c ≠ '(' ∧ c ≠ ')' := by
    intro c hc
    rcases PropertyPath.mem_render hnames hc with rfl | hchar
    · decide
    · exact ⟨isBlankChar_of_isIdentifierChar hchar, plain_of_isIdentifierChar hchar⟩
  have hplain := fun c hc => (hchars c hc).2
  have hoperand : IsOperand path.render.toList := by
    refine .of_word ?_ (fun c hc => (hchars c hc).1) (.of_plain hplain)
      (PropertyPath.isOperation_render hnames) fun hhead => ?_
    · rw [PropertyPath.toList_render]
      obtain ⟨name, rest, hsegments⟩ := List.exists_cons_of_ne_nil hne
      have hname := ne_nil_of_isIdentifier
        (isIdentifier_of_isFieldName (hnames name (by rw [hsegments]; exact List.mem_cons_self)))
      rw [hsegments]
      cases rest with
      | nil => exact hname
      | cons next rest => simp [Text.join]
    · exact (hchars _ (List.mem_of_mem_head? hhead)).2.2.1 rfl
  exact ⟨hoperand.toIsAtom, hoperand.squeezed, hplain⟩

/-- The text of a resolved path in a well-named schema is an operand. -/
theorem isOperand_path (h : p.schema.isWellNamed = true)
    (hresolve : p.schema.resolveSegments? path.segments = some (path, type)) :
    IsOperand path.render.toList :=
  (isPlainOperand_path h hresolve).isOperand

/-- A path is read as the property that it shows, whatever type is expected. -/
theorem parseExpression_path (h : p.schema.isWellNamed = true)
    (hresolve : p.schema.resolveSegments? path.segments = some (path, type)) :
    p.parseExpression newGuid path.render.toList expected = .ok (some (.property path type)) :=
  parseExpression_property (isPlainOperand_path h hresolve) (RecordType.resolvePath?_render h hresolve)

end Paths

end FilterParser
end RecordFilter
