import RecordFilter.Proofs.StringConstants

/-!
# Parentheses in quotes

The scanner takes no notice of parentheses in quotes when it looks for operators. The removal of outer
parentheses counts all of them. For two equations in parentheses with a connective in between, the outer
parentheses are taken for a pair unless the parentheses of the strings, read as if there were no quotes,
give away that they are none. Where they are taken for a pair, what is left is one equation with a string
that goes from the first literal into the second equation.

Main statement: `parse_grouped_equations_iff`.
-/

namespace RecordFilter
namespace Filter

/-! ## Orphans between two texts -/

/-- A pair of parentheses that is closed and opened again between two texts shows as an orphan, and neither
text has one by itself: either both texts close what they open, or the first one does not have as many
parentheses of both kinds, and there is an orphan anyway. -/
theorem hasOrphan_between_iff (a b : Text) :
    (hasOrphan (a ++ ')' :: '(' :: b) = true ∧ hasOrphan a = false ∧ hasOrphan b = false) ↔
      (depthAfter? 0 a = some 0 ∧ depthAfter? 0 b = some 0) ∨
        (a.count '(' ≠ a.count ')' ∧ hasOrphan (a ++ b) = true) := by
  simp only [hasOrphan_eq, depthAfter?_append, List.count_append, List.count_cons, beq_iff_eq,
    Char.reduceEq, if_true, if_false, Bool.and_eq_true, Bool.and_eq_false_iff, beq_eq_false_iff_ne,
    Option.isNone_iff_eq_none, Nat.add_zero]
  cases ha : depthAfter? 0 a with
  | none =>
    simp
    omega
  | some depth =>
    have hcount := depthAfter?_count ha
    cases depth with
    | zero =>
      cases hb : depthAfter? 0 b with
      | none => simp; omega
      | some inner =>
        have hcount' := depthAfter?_count hb
        simp
        omega
    | succ depth =>
      -- the pair between the texts is closed and opened inside of what the first one leaves open
      by_cases hb : depthAfter? (depth + 1) b = none
      · simp [hb]
        omega
      · simp [hb]

/-! ## Texts of equations -/

section EquationTexts

variable {name content other : Text}

theorem filter_equationText (hname : IsPlainOperand name) (content : Text) :
    (comparisonText .eq name (quote content)).filter isParenthesis = content.filter isParenthesis := by
  have hplain : name.filter isParenthesis = [] := by
    refine List.filter_eq_nil_iff.2 fun c hc => ?_
    obtain ⟨-, hopen, hclose⟩ := hname.plain c hc
    simp [isParenthesis, hopen, hclose]
  have hbetween : (' ' :: Comparison.eq.keyword.toList ++ [' ', '\'']).filter isParenthesis = [] := by decide
  have hclosing : ['\''].filter isParenthesis = [] := by decide
  have htext : comparisonText .eq name (quote content)
      = name ++ (' ' :: Comparison.eq.keyword.toList ++ [' ', '\'']) ++ content ++ ['\''] := by
    simp [comparisonText, quote]
  rw [htext, List.filter_append, List.filter_append, List.filter_append, hplain, hbetween, hclosing]
  simp

theorem closes_equationText (hname : IsPlainOperand name) (hcontent : '\'' ∉ content) :
    Closes (comparisonText .eq name (quote content)) := by
  have hbetween : Closes (' ' :: Comparison.eq.keyword.toList ++ [' ']) := .of_plain (by decide)
  have htext : comparisonText .eq name (quote content)
      = name ++ (' ' :: Comparison.eq.keyword.toList ++ [' ']) ++ ('\'' :: content ++ ['\'']) := by
    simp [comparisonText, quote]
  rw [htext]
  exact ((Closes.of_plain hname.plain).append hbetween).append (.quoted rfl hcontent)

theorem squeeze_equationText (hname : IsPlainOperand name) (hcontent : ¬[' ', ' '] <:+: content) :
    Text.squeeze (comparisonText .eq name (quote content)) = comparisonText .eq name (quote content) := by
  rw [comparisonText_eq, Text.squeeze_append_space_cons hname.trimmed.getLast?_ne
    (by simp [Comparison.keyword]),
    Text.squeeze_append_space_cons (by decide) (by simp [quote]), hname.squeezed, squeeze_quote,
    Text.squeeze_eq_self_iff.2 hcontent, Text.squeeze_eq_self (by decide)]

end EquationTexts

/-- What stands between the operators of two equations in parentheses: the first literal, a parenthesis
closed and another one opened around the connective, and the name again. -/
def unpairedText (op : Connective) (name content : Text) : Text :=
  quote content ++ ')' :: ' ' :: (op.keyword.toList ++ ' ' :: '(' :: name)

/-- Without the outer parentheses the connective stands below all of them, where it is no operator. -/
theorem hasNoOperator_unpairedText (op : Connective) {name content : Text} (hname : IsPlainOperand name)
    (hcontent : '\'' ∉ content) : HasNoOperator (unpairedText op name content) := by
  have hquoted := hasNoOperator_quote hcontent
  have hoperand := hname.isOperand.isPiece.hasNoOperator
  have hkeyword : Nesting.advance ⟨-1, none⟩ op.keyword.toList = ⟨-1, none⟩ := by
    cases op <;> rfl
  have hopening : Nesting.step ⟨-1, none⟩ '(' = .start := rfl
  have hword : Text.words op.keyword.toList = [op.keyword.toList] := by
    cases op <;> rfl
  have hclosing : Nesting.start.advance (quote content ++ [')']) = ⟨-1, none⟩ := by
    rw [Nesting.advance_append, hquoted.closed]
    rfl
  have hvalid : (⟨-1, none⟩ : Nesting).IsValid := fun _ => nofun
  have htext : unpairedText op name content
      = (quote content ++ [')']) ++ ' ' :: (op.keyword.toList ++ ' ' :: '(' :: name) := by
    simp [unpairedText]
  rw [htext]
  refine ⟨?_, ?_⟩
  · rw [Nesting.advance_append, hclosing, Nesting.advance_cons, hvalid.step_space, Nesting.advance_append,
      hkeyword, Nesting.advance_cons, hvalid.step_space, Nesting.advance_cons, hopening, hoperand.closed]
  · have hfront : OperatorFree .start (Text.words (quote content ++ [')'])) :=
      operatorFree_concat (fun _ hmem => isOperation_eq_false_of_lt hmem (by decide)) hquoted.operatorFree
    have hback : OperatorFree ⟨-1, none⟩ (Text.words ('(' :: name)) := by
      refine operatorFree_cons hvalid (fun _ hmem => isOperation_eq_false_of_lt hmem (by decide)) ?_
      rw [hopening]
      exact hoperand.operatorFree
    rw [Text.words_append_space, Text.words_append_space, hword, operatorFree_append,
      Nesting.isValid_start.advance_words, hclosing]
    refine ⟨hfront, fun htop => ?_, ?_⟩
    · rw [hkeyword] at htop
      cases htop
    · rw [hkeyword]
      exact hback

theorem grouped_equationTexts (op : Connective) (name left right : Text) :
    grouped op (comparisonText .eq name (quote left)) (comparisonText .eq name (quote right)) =
      '(' :: comparisonText .eq name (comparisonText .eq (unpairedText op name left) (quote right))
        ++ [')'] := by
  simp [grouped, comparisonText, unpairedText]

/-- The connective is not seen, so there is one equation. -/
theorem scan_unpaired (op : Connective) {name left right : Text} (hname : IsPlainOperand name)
    (hleft : '\'' ∉ left) (hright : '\'' ∉ right) :
    scan (.fresh false) (Text.words
        (comparisonText .eq name (comparisonText .eq (unpairedText op name left) (quote right))))
      = [⟨name, "eq".toList, Text.unwords (Text.words (unpairedText op name left))⟩] := by
  have hbetween := hasNoOperator_unpairedText op hname hleft
  obtain ⟨hop, hcombinator, -, -⟩ := isOperation_comparison .eq
  have hrest : scan (.fresh true) (Text.words (quote right)) = [] := by
    have hbare : isEnclosed (quote (Text.squeeze right)) = false := by
      rw [isEnclosed, enclosedInner?_eq_none_of_head (by simp [quote])]
      rfl
    rw [scan_operand (hasNoOperator_quote hright).operatorFree, Text.unwords_words
      (isTrimmed_quote right).head?_ne (isTrimmed_quote right).getLast?_ne, squeeze_quote, hbare]
    rfl
  rw [scan_equationText hname, words_comparisonText,
    scan_append (s := ⟨name, "eq".toList, [], true, .start⟩) _ hbetween.operatorFree,
    scan_operation hbetween.foldl_words hop, hrest]
  simp [hname.trimmed.isBlank_eq, hcombinator]

theorem hasOrphan_grouped_equations (op : Connective) {name : Text} (hname : IsPlainOperand name)
    (left right : Text) :
    hasOrphan (comparisonText .eq name (comparisonText .eq (unpairedText op name left) (quote right)))
      = hasOrphan (left ++ ')' :: '(' :: right) := by
  refine hasOrphan_of_filter ?_
  have hbetween : (')' :: ' ' :: op.keyword.toList ++ " (".toList).filter isParenthesis = [')', '('] := by
    cases op <;> rfl
  have htext : comparisonText .eq name (comparisonText .eq (unpairedText op name left) (quote right))
      = comparisonText .eq name (quote left)
        ++ ((')' :: ' ' :: op.keyword.toList ++ " (".toList) ++ comparisonText .eq name (quote right)) := by
    simp [comparisonText, unpairedText]
  rw [htext, List.filter_append, List.filter_append, hbetween, filter_equationText hname,
    filter_equationText hname, List.filter_append]
  rfl

end Filter

namespace FilterParser

open RecordFilter.Filter

variable {p : FilterParser} {newGuid : Guid} {name : Text} {path : PropertyPath} {type : ValueType}
    {s t : String}

/-! ## Reading -/

/-- A string that is read from its literal as it is. -/
structure IsVerbatim (s : String) : Prop where
  quotes : ∀ c ∈ s.toList, Nesting.isQuote c = false
  spaces : ¬[' ', ' '] <:+: s.toList

theorem IsVerbatim.not_mem (h : IsVerbatim s) : '\'' ∉ s.toList :=
  fun hmem => nomatch h.quotes _ hmem

theorem parseExpression_equationText (newGuid : Guid) (hname : IsPlainOperand name)
    (hresolve : p.schema.resolvePath? name = some (path, type)) (htype : type.isString = true)
    (hs : IsVerbatim s) (expected : Option ValueType) :
    p.parseExpression newGuid (comparisonText .eq name (quote s.toList)) expected
      = .ok (some (equationOf path type s)) := by
  have hfree := (hasNoOperator_quote hs.not_mem).operatorFree
  refine (parseExpression_equation_iff hname hresolve htype (isTrimmed_quote s.toList) hfree).2 ?_
  rw [squeeze_quote]
  exact (parseExpression_constant_iff rfl htype hfree).2 ⟨hs.quotes, hs.spaces⟩

/-- In parentheses an equation is read like without them, unless its string has orphans. Then the
parentheses are not removed, and what is in them is no equation. -/
theorem parseExpression_enclosed_equationText (newGuid : Guid) (hname : IsPlainOperand name)
    (hresolve : p.schema.resolvePath? name = some (path, type)) (htype : type.isString = true)
    (hs : IsVerbatim s) (expected : Option ValueType) :
    (hasOrphan s.toList = false ∧
      p.parseExpression newGuid ('(' :: comparisonText .eq name (quote s.toList) ++ [')']) expected
        = .ok (some (equationOf path type s))) ∨
    (hasOrphan s.toList = true ∧
      ∀ q, p.parseExpression newGuid ('(' :: comparisonText .eq name (quote s.toList) ++ [')']) expected
          = .ok q →
        ∃ r, q = some r ∧ r.IsSimple) := by
  have htrimmed := isTrimmed_equationText hname (isTrimmed_quote s.toList)
  have hbare := stripEnclosing?_equationText hname (quote s.toList)
  have horphan : hasOrphan (comparisonText .eq name (quote s.toList)) = hasOrphan s.toList :=
    hasOrphan_of_filter (filter_equationText hname s.toList)
  have hequation := parseExpression_equationText newGuid hname hresolve htype hs expected
  have hcloses := closes_equationText hname hs.not_mem
  generalize comparisonText .eq name (quote s.toList) = e at *
  rw [← horphan]
  cases h : hasOrphan e with
  | false =>
    have hsame := sameResult_parentheses p newGuid expected htrimmed.ne_nil h fun inside hinside => by
      rw [htrimmed.trim_eq, hbare] at hinside
      cases hinside
    exact .inl ⟨rfl, (hsame _).2 hequation⟩
  | true =>
    have hstrip : stripEnclosing? ('(' :: e ++ [')']) = none := by
      rw [stripEnclosing?_enclosed htrimmed.ne_nil, h]
      rfl
    have hsets : tokenize ('(' :: e ++ [')']) = [] := by
      rw [tokenize_eq_scan (trim_enclosed e) (by simp) hstrip (isImpliedBoolean_enclosed htrimmed.ne_nil),
        scan_operand hcloses.hasNoOperator_enclosed.operatorFree]
      rfl
    refine .inr ⟨rfl, fun q hq => ?_⟩
    rw [← trim_enclosed e] at hsets hstrip
    rw [parseExpression_of_atom expected (by rw [trim_enclosed]; simp) hsets hstrip] at hq
    obtain ⟨r, hatom, rfl⟩ := Except.map_eq_ok_iff.1 hq
    exact ⟨r, rfl, isSimple_of_atom hatom⟩

theorem parseExpression_enclosed_iff (hname : IsPlainOperand name)
    (hresolve : p.schema.resolvePath? name = some (path, type)) (htype : type.isString = true)
    (hs : IsVerbatim s) {expected : Option ValueType} :
    p.parseExpression newGuid ('(' :: comparisonText .eq name (quote s.toList) ++ [')']) expected
        = .ok (some (equationOf path type s)) ↔ hasOrphan s.toList = false := by
  rcases parseExpression_enclosed_equationText newGuid hname hresolve htype hs expected with
    ⟨horphan, hread⟩ | ⟨horphan, hread⟩
  · exact iff_of_true hread horphan
  · refine iff_of_false (fun hq => ?_) (by simp [horphan])
    obtain ⟨_, hsome, hsimple⟩ := hread _ hq
    cases hsome
    cases hsimple

theorem parseExpression_enclosed_ne_none (hname : IsPlainOperand name)
    (hresolve : p.schema.resolvePath? name = some (path, type)) (htype : type.isString = true)
    (hs : IsVerbatim s) {expected : Option ValueType} :
    p.parseExpression newGuid ('(' :: comparisonText .eq name (quote s.toList) ++ [')']) expected
      ≠ .ok none := by
  intro hnone
  rcases parseExpression_enclosed_equationText newGuid hname hresolve htype hs expected with
    ⟨-, hread⟩ | ⟨-, hread⟩
  · rw [hread] at hnone
    cases hnone
  · obtain ⟨_, hsome, -⟩ := hread _ hnone
    cases hsome

/-- With the outer parentheses removed, two equations are no connective. -/
theorem parseExpression_unpaired_ne (op : Connective) (hname : IsPlainOperand name)
    (hresolve : p.schema.resolvePath? name = some (path, type)) (hs : IsVerbatim s) (ht : IsVerbatim t)
    (horphan : hasOrphan (s.toList ++ ')' :: '(' :: t.toList) = false) {left right : Predicate} :
    p.parseExpression newGuid (grouped op (comparisonText .eq name (quote s.toList))
        (comparisonText .eq name (quote t.toList))) none
      ≠ .ok (some (.binary (.connective op) left right .boolean)) := by
  have hright : Text.IsTrimmed (comparisonText .eq (unpairedText op name s.toList) (quote t.toList)) := by
    have h := (isTrimmed_quote s.toList).append
      (')' :: ' ' :: op.keyword.toList ++ ' ' :: '(' :: name ++ ' ' :: Comparison.eq.keyword.toList ++ [' '])
      (isTrimmed_quote t.toList)
    simpa [comparisonText, unpairedText] using h
  have htrimmed := isTrimmed_equationText hname hright
  have hsets := tokenize_enclosed htrimmed.ne_nil
    ((hasOrphan_grouped_equations op hname s.toList t.toList).trans horphan)
  rw [htrimmed.trim_eq, isImpliedBoolean_equationText hname htrimmed.trim_eq, if_neg Bool.false_ne_true,
    scan_unpaired op hname hs.not_mem ht.not_mem, ← trim_enclosed] at hsets
  rw [grouped_equationTexts, Ne, parseExpression_of_set hsets hname.trimmed.isBlank_eq]
  rintro ⟨a, ha, ⟨-, rfl⟩ | ⟨b, -, hoperate⟩⟩
  · rw [parseExpression_property hname hresolve] at ha
    cases ha
  · obtain ⟨_, -, hq⟩ := Except.map_eq_ok_iff.1 ((operate_of_keyword (ofKeyword?_comparison .eq)).1 hoperate)
    cases hq

/-- With the outer parentheses kept, two equations are their connective if neither string has orphans. -/
theorem parseExpression_paired_iff (op : Connective) (hname : IsPlainOperand name)
    (hresolve : p.schema.resolvePath? name = some (path, type)) (htype : type.isString = true)
    (hs : IsVerbatim s) (ht : IsVerbatim t)
    (horphan : hasOrphan (s.toList ++ ')' :: '(' :: t.toList) = true) :
    p.parseExpression newGuid (grouped op (comparisonText .eq name (quote s.toList))
        (comparisonText .eq name (quote t.toList))) none
      = .ok (some (.binary (.connective op) (equationOf path type s) (equationOf path type t) .boolean)) ↔
      hasOrphan s.toList = false ∧ hasOrphan t.toList = false := by
  have hstrip : stripEnclosing? (grouped op (comparisonText .eq name (quote s.toList))
      (comparisonText .eq name (quote t.toList))) = none := by
    rw [grouped_equationTexts, stripEnclosing?_enclosed
      (by rw [comparisonText_eq]; simp), hasOrphan_grouped_equations op hname, horphan]
    rfl
  have hsets := tokenize_grouped_of_bare op hstrip (closes_equationText hname hs.not_mem)
  rw [squeeze_equationText hname hs.spaces, squeeze_equationText hname ht.spaces, ← trim_grouped] at hsets
  rw [parseExpression_of_set hsets (by rfl), scopeType?_connective, Option.some_or]
  constructor
  · rintro ⟨a, ha, ⟨hnone, -⟩ | ⟨b, hb, hoperate⟩⟩
    · exact absurd hnone (parseExpression_enclosed_ne_none hname hresolve htype ht)
    · obtain ⟨-, -, hq⟩ := operate_connective_iff.1 hoperate
      cases hq
      exact ⟨(parseExpression_enclosed_iff hname hresolve htype hs).1 ha,
        (parseExpression_enclosed_iff hname hresolve htype ht).1 hb⟩
  · rintro ⟨hleft, hright⟩
    exact ⟨_, (parseExpression_enclosed_iff hname hresolve htype hs).2 hleft, .inr
      ⟨_, (parseExpression_enclosed_iff hname hresolve htype ht).2 hright,
        operate_connective_iff.2 ⟨rfl, rfl, rfl⟩⟩⟩

/-- Two equations with a string in parentheses and a connective in between are read as such if and only if
either both strings close the parentheses that they open, or the first one does not have as many of both
kinds, both have so together, and one is closed too early. -/
theorem parse_grouped_equations_iff (p : FilterParser) (newGuid : Guid) (op : Connective)
    (hname : IsPlainOperand name)
    (hresolve : p.schema.resolvePath? name = some (path, type)) (htype : type.isString = true)
    (hs : IsVerbatim s) (ht : IsVerbatim t) :
    p.parse newGuid (grouped op (comparisonText .eq name (quote s.toList))
        (comparisonText .eq name (quote t.toList)))
      = .ok (some (.binary (.connective op) (equationOf path type s) (equationOf path type t) .boolean)) ↔
      (depthAfter? 0 s.toList = some 0 ∧ depthAfter? 0 t.toList = some 0) ∨
        (s.toList.count '(' ≠ s.toList.count ')' ∧ hasOrphan (s.toList ++ t.toList) = true) := by
  rw [← hasOrphan_between_iff]
  refine (parse_eq_ok_some_iff.trans (and_iff_left rfl)).trans ?_
  cases horphan : hasOrphan (s.toList ++ ')' :: '(' :: t.toList) with
  | true =>
    rw [and_iff_right rfl]
    exact parseExpression_paired_iff op hname hresolve htype hs ht horphan
  | false =>
    exact iff_of_false (parseExpression_unpaired_ne op hname hresolve hs ht horphan) nofun

/-- Strings that close what they open, and two with a parenthesis each, the first one closed too early. -/
theorem parse_grouped_equations_items :
    items.schema.resolvePath? "Name".toList = some (⟨["Name"]⟩, .string) ∧
    IsVerbatim "f(x)" ∧ IsVerbatim "b" ∧ IsVerbatim ":-)" ∧ IsVerbatim "(-:" ∧
    items.parse .nil "(Name eq 'f(x)') and (Name eq 'b')".toList
      = .ok (some (.binary (.connective .and) (equationOf ⟨["Name"]⟩ .string "f(x)")
          (equationOf ⟨["Name"]⟩ .string "b") .boolean)) ∧
    items.parse .nil "(Name eq ':-)') or (Name eq '(-:')".toList
      = .ok (some (.binary (.connective .or) (equationOf ⟨["Name"]⟩ .string ":-)")
          (equationOf ⟨["Name"]⟩ .string "(-:") .boolean)) := by
  have hname : IsPlainOperand "Name".toList := .of_word (by decide) (by decide) (by decide) (by decide)
  have hresolve : items.schema.resolvePath? "Name".toList = some (⟨["Name"]⟩, .string) := by decide
  have hverbatim : ∀ s : String, (∀ c ∈ s.toList, Nesting.isQuote c = false) →
      Text.squeeze s.toList = s.toList → IsVerbatim s :=
    fun s hs hsqueezed => ⟨hs, Text.squeeze_eq_self_iff.1 hsqueezed⟩
  have hcall := hverbatim "f(x)" (by decide) (by decide)
  have hletter := hverbatim "b" (by decide) (by decide)
  have hsmile := hverbatim ":-)" (by decide) (by decide)
  have hback := hverbatim "(-:" (by decide) (by decide)
  exact ⟨hresolve, hcall, hletter, hsmile, hback,
    (parse_grouped_equations_iff items .nil .and hname hresolve (by decide) hcall hletter).2 (by decide),
    (parse_grouped_equations_iff items .nil .or hname hresolve (by decide) hsmile hback).2 (by decide)⟩

/-- A parenthesis that is opened in the first string makes one equation of two, with a string that begins in
the first literal. One that is closed and opened again makes no filter of them. -/
theorem parse_grouped_equations_pairs :
    (∃ q, items.parse .nil "(Name eq '(') or (Name eq 'b')".toList = .ok (some q) ∧
      (Dialect.odata.render q).toOption = some "Name eq ''(') or (Name'".toList ∧
      q ≠ .binary (.connective .or) (equationOf ⟨["Name"]⟩ .string "(")
        (equationOf ⟨["Name"]⟩ .string "b") .boolean) ∧
    ∀ q, items.parse .nil "(Name eq ')(') or (Name eq 'b')".toList ≠ .ok (some q) := by
  refine ⟨?_, Except.ne_ok_some_of_isSome_join (by decide +kernel)⟩
  obtain ⟨q, hq, hprinted⟩ : ∃ q, items.parse .nil "(Name eq '(') or (Name eq 'b')".toList = .ok (some q) ∧
      (Dialect.odata.render q).toOption = some "Name eq ''(') or (Name'".toList :=
    Except.exists_of_map_join (by decide +kernel)
  refine ⟨q, hq, hprinted, ?_⟩
  rintro rfl
  exact absurd hprinted (by decide)

end FilterParser
end RecordFilter
