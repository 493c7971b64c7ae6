import RecordFilter.Proofs.StringConstants

/-!
# Quoted literals

A literal stands between two quote marks of the same kind, and the scanner closes it at the second one.
The reader of quoted text is stricter: it knows a literal by its marks only if there is no mark of either
kind in it. A literal with the other mark inside is plain text to it, and plain text stands for itself
where a string is expected, with its marks. Before that the words of the literal have been joined by
single spaces. This module says which string a property is compared with.

Main statement: `parse_quotedLiteral`.
-/

namespace RecordFilter
namespace Filter

section Marks

variable {mark : Char} {content : Text}

/-- A quote mark begins no word. -/
theorem eqIgnoreCase_mark (hmark : Nesting.isQuote mark = true) {d : Char}
    (hd : 'a' ≤ d.toLower ∧ d.toLower ≤ 'z') (t rest : Text) :
    Text.eqIgnoreCase (mark :: t) (d :: rest) = false := by
  refine Bool.eq_false_iff.2 fun h => (other_of_isQuote hmark).2.2.2 ?_
  simp only [Text.eqIgnoreCase, Text.lowerAscii, List.map_cons, beq_iff_eq, List.cons.injEq] at h
  rw [h.1]
  exact hd

theorem afterWord?_mark (hmark : Nesting.isQuote mark = true) {word : String} {d : Char} {rest : Text}
    (hword : word.toList = d :: rest) (hd : 'a' ≤ d.toLower ∧ d.toLower ≤ 'z') (t : Text) :
    afterWord? word (mark :: t) = none := by
  unfold afterWord?
  simp only [hword, List.length_cons, List.take_succ_cons, eqIgnoreCase_mark hmark hd]
  rfl

/-- Neither a call nor a construction ends with a quote mark. -/
theorem call?_quoteWith (hmark : Nesting.isQuote mark = true) : call? (quoteWith mark content) = none := by
  refine Option.eq_none_iff_forall_ne_some.2 fun ⟨name, arguments⟩ h => ?_
  have hlast := congrArg List.getLast? (call?_eq_some h)
  rw [← List.cons_append, ← List.append_assoc, List.getLast?_concat, quoteWith,
    List.getLast?_concat] at hlast
  exact (other_of_isQuote hmark).2.2.1 (Option.some.inj hlast)

theorem functionCall?_quoteWith (hmark : Nesting.isQuote mark = true) :
    functionCall? (quoteWith mark content) = none := by
  rw [functionCall?, call?_quoteWith hmark]
  rfl

theorem construction?_quoteWith (hmark : Nesting.isQuote mark = true) :
    construction? (quoteWith mark content) = none := by
  rw [construction?, quoteWith, List.cons_append, afterWord?_mark hmark (d := 'n') rfl (by decide)]
  rfl

/-- Where a string is expected, text in quotes stands for no other constant. -/
theorem known?_quoteWith (hmark : Nesting.isQuote mark = true) {culture : Culture} {newGuid : Guid}
    {type : ValueType} (htype : type.isString = true) :
    Literal.known? culture newGuid (some type) (quoteWith mark content) = none := by
  have hunderlying := ValueType.underlying_of_isString htype
  have hnull : Text.eqIgnoreCase (quoteWith mark content) "null".toList = false :=
    eqIgnoreCase_mark hmark (by decide) _ _
  have hguid : marked? "guid" (quoteWith mark content) = none := by
    rw [marked?, quoteWith, List.cons_append, afterWord?_mark hmark (d := 'g') rfl (by decide)]
    rfl
  have hdate : marked? "datetime" (quoteWith mark content) = none := by
    rw [marked?, quoteWith, List.cons_append, afterWord?_mark hmark (d := 'd') rfl (by decide)]
    rfl
  unfold Literal.known?
  simp only [hnull, hguid, hdate, hunderlying, Bool.false_eq_true, if_false]
  rfl

end Marks
end Filter

namespace FilterParser

open RecordFilter.Filter

variable {p : FilterParser} {newGuid : Guid} {path : PropertyPath} {type : ValueType} {mark : Char}

/-- The string that a literal is read as where a string is expected. -/
def readLiteral (mark : Char) (content : Text) : Text :=
  if content.any Nesting.isQuote then quoteWith mark (Text.squeeze content) else Text.squeeze content

/-- Text between marks with another mark inside is read with its marks, unless a field has that name. -/
theorem atom_quoteWith {content : Text} (hmark : Nesting.isQuote mark = true)
    (htype : type.isString = true) (hatom : IsAtom (quoteWith mark content))
    (hinside : content.any Nesting.isQuote = true)
    (hresolve : p.schema.resolvePath? (quoteWith mark content) = none)
    {parse : Operand (quoteWith mark content).length} :
    atom p newGuid (quoteWith mark content) parse (some type)
      = .ok (.constant (.string (String.ofList (quoteWith mark content))) .string) := by
  have hunderlying := ValueType.underlying_of_isString htype
  have hquoted : quoted? (quoteWith mark content) = none := by
    refine Option.eq_none_iff_forall_ne_some.2 fun found h => ?_
    obtain ⟨c, hc, hquote⟩ := List.any_eq_true.1 hinside
    have hplain := ((quoted?_quoteWith_iff hmark).1 h).1 c hc
    rw [hquote] at hplain
    cases hplain
  unfold atom
  simp only [hquoted, construction?_eq_none (construction?_quoteWith hmark),
    functionCall?_eq_none_iff.2 (functionCall?_quoteWith hmark), firstProperty?_atom _ hatom, hresolve,
    known?_quoteWith hmark htype, Option.getD_none]
  simp [Literal.fallback, hunderlying, Predicate.literal, Predicate.naturalType, Except.mapError]

/-- In a comparison the words of a literal are joined by single spaces before it is read. -/
theorem parseExpression_quoteWith {content : Text} (hmark : Nesting.isQuote mark = true)
    (htype : type.isString = true) (hcontent : mark ∉ content)
    (hresolve : p.schema.resolvePath? (quoteWith mark (Text.squeeze content)) = none) :
    p.parseExpression newGuid (Text.squeeze (quoteWith mark content)) (some type)
      = .ok (some (.constant (.string (String.ofList (readLiteral mark content))) .string)) := by
  have hatom : IsAtom (quoteWith mark (Text.squeeze content)) :=
    ⟨isTrimmed_quoteWith hmark _,
      (hasNoOperator_quoteWith hmark fun h => hcontent (Text.mem_squeeze h)).operatorFree,
      by simpa [quoteWith] using (other_of_isQuote hmark).2.1⟩
  have hmarks : (Text.squeeze content).any Nesting.isQuote = content.any Nesting.isQuote := by
    rw [Bool.eq_iff_iff, List.any_eq_true, List.any_eq_true]
    simp only [Text.mem_squeeze_iff]
  rw [squeeze_quoteWith hmark, readLiteral]
  cases hinside : content.any Nesting.isQuote with
  | true =>
    rw [parseExpression_atom hatom, atom_quoteWith hmark htype hatom (hmarks.trans hinside) hresolve]
    rfl
  | false =>
    have hplain : ∀ c ∈ Text.squeeze content, Nesting.isQuote c = false := by
      simpa using hmarks.trans hinside
    rw [parseExpression_quoted ((quoted?_quoteWith_iff hmark).2 ⟨hplain, rfl⟩) hatom, ofQuoted_string htype,
      if_neg Bool.false_ne_true]

/-- A comparison with a quoted literal is read as the `equationOf` its content if and only if the content has
no quote marks and no two adjacent spaces. Otherwise the constant is what `readLiteral` makes of it. -/
theorem parse_quotedLiteral (p : FilterParser) (newGuid : Guid) {name : Text} (hname : IsPlainOperand name)
    (hresolve : p.schema.resolvePath? name = some (path, type)) (htype : type.isString = true)
    (hmark : Nesting.isQuote mark = true) {s : String} (hs : mark ∉ s.toList) :
    (p.parse newGuid (comparisonText .eq name (quoteWith mark s.toList))
        = .ok (some (equationOf path type s)) ↔
      (∀ c ∈ s.toList, Nesting.isQuote c = false) ∧ ¬[' ', ' '] <:+: s.toList) ∧
    (p.schema.resolvePath? (quoteWith mark (Text.squeeze s.toList)) = none →
      p.parse newGuid (comparisonText .eq name (quoteWith mark s.toList))
        = .ok (some (equationOf path type (String.ofList (readLiteral mark s.toList))))) := by
  have hfree := (hasNoOperator_quoteWith hmark hs).operatorFree
  have hright := isTrimmed_quoteWith hmark s.toList
  have hread : ∀ v, p.parse newGuid (comparisonText .eq name (quoteWith mark s.toList))
        = .ok (some (equationOf path type v)) ↔
      p.parseExpression newGuid (Text.squeeze (quoteWith mark s.toList)) (some type)
        = .ok (some (.constant (.string v) .string)) := fun v =>
    (parse_eq_ok_some_iff.trans (and_iff_left rfl)).trans
      (parseExpression_equation_iff hname hresolve htype hright hfree)
  refine ⟨?_, fun hfield => (hread _).2 (parseExpression_quoteWith hmark htype hs hfield)⟩
  rw [hread, squeeze_quoteWith hmark]
  exact parseExpression_constant_iff hmark htype hfree

/-- A literal in double quotes with operators and a parenthesis, and one with an apostrophe, which keeps its
marks. -/
theorem parse_quotedLiteral_items :
    items.schema.resolvePath? "Name".toList = some (⟨["Name"]⟩, .string) ∧
    '"' ∉ "or (x, not".toList ∧ '"' ∉ "it's".toList ∧
    items.parse .nil "Name eq \"or (x, not\"".toList
      = .ok (some (equationOf ⟨["Name"]⟩ .string "or (x, not")) ∧
    items.parse .nil "Name eq \"it's\"".toList
      = .ok (some (equationOf ⟨["Name"]⟩ .string "\"it's\"")) := by
  have hname : IsPlainOperand "Name".toList := .of_word (by decide) (by decide) (by decide) (by decide)
  have hresolve : items.schema.resolvePath? "Name".toList = some (⟨["Name"]⟩, .string) := by decide
  have hspaces := Text.squeeze_eq_self_iff.1 (show Text.squeeze "or (x, not".toList = _ by decide)
  have hplain : '"' ∉ "or (x, not".toList := by decide
  have hapostrophe : '"' ∉ "it's".toList := by decide
  obtain ⟨hverbatim, -⟩ := parse_quotedLiteral items .nil hname hresolve (by decide) rfl hplain
  obtain ⟨-, hkept⟩ := parse_quotedLiteral items .nil hname hresolve (by decide) rfl hapostrophe
  exact ⟨hresolve, hplain, hapostrophe, hverbatim.2 ⟨by decide, hspaces⟩, hkept (by decide)⟩

/-- A literal is not read verbatim if it has a mark of the other kind, or two spaces in a row: the marks
around the first one become a part of the string, and the second one loses a space. -/
theorem parse_quotedLiteral_alters :
    (∃ q, items.parse .nil "Name eq 'say \"hi\"'".toList = .ok (some q) ∧
      (Dialect.odata.render q).toOption = some "Name eq ''say \"hi\"''".toList ∧
      q ≠ equationOf ⟨["Name"]⟩ .string "say \"hi\"") ∧
    ∃ q, items.parse .nil "Name eq 'a  b'".toList = .ok (some q) ∧
      (Dialect.odata.render q).toOption = some "Name eq 'a b'".toList ∧
      q ≠ equationOf ⟨["Name"]⟩ .string "a  b" := by
  have hdiffers : ∀ (s : String) (q : Predicate) (t : Text), (Dialect.odata.render q).toOption = some t →
      t ≠ "Name eq ".toList ++ quote s.toList → q ≠ equationOf ⟨["Name"]⟩ .string s := by
    rintro s _ t hq ht rfl
    obtain ⟨hrender, -⟩ := render_equation "Name" .string s
    rw [show equationOf ⟨["Name"]⟩ .string s = equation "Name" .string s from rfl, hrender] at hq
    exact ht (Option.some.inj hq).symm
  obtain ⟨q, hq, hprinted⟩ : ∃ q, items.parse .nil "Name eq 'say \"hi\"'".toList = .ok (some q) ∧
      (Dialect.odata.render q).toOption = some "Name eq ''say \"hi\"''".toList :=
    Except.exists_of_map_join (by decide +kernel)
  obtain ⟨r, hr, hsqueezed⟩ : ∃ q, items.parse .nil "Name eq 'a  b'".toList = .ok (some q) ∧
      (Dialect.odata.render q).toOption = some "Name eq 'a b'".toList :=
    Except.exists_of_map_join (by decide +kernel)
  exact ⟨⟨q, hq, hprinted, hdiffers _ q _ hprinted (by decide)⟩, r, hr, hsqueezed,
    hdiffers _ r _ hsqueezed (by decide)⟩

end FilterParser
end RecordFilter
