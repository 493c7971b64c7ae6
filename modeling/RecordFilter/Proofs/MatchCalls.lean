import RecordFilter.Proofs.JoinedArguments
import RecordFilter.Proofs.LiteralParsing

/-!
# String matches

A string match is a call with two arguments that are separated by a comma and a space. Commas in quotes
separate nothing, so the arguments of a printed call are found again, and each of them is read where the
type of the string property beside it is expected.

Main statement: `parseExpression_match`.
-/

namespace RecordFilter
namespace Filter

/-! ## Arguments -/

theorem commaFree_path {schema : RecordType} (h : schema.isWellNamed = true) {path : PropertyPath}
    {type : ValueType} (hresolve : schema.resolveSegments? path.segments = some (path, type))
    {n : Nesting} : CommaFree n path.render.toList := by
  obtain ⟨-, -, -, hnames⟩ := RecordType.wellNamed_of_resolveSegments? h hresolve
  refine commaFree_of_not_mem fun hc => ?_
  rcases PropertyPath.mem_render hnames hc with hc | hc <;> exact absurd hc (by decide)

/-- Quotes hide the commas in them. -/
theorem commaFree_quote {content : Text} (h : IsQuotable content) :
    CommaFree .start (quote content) := by
  intro u v ht
  have hmem : '\'' ∉ content := fun hmem => by cases h.quotes _ hmem
  cases u with
  | nil => cases ht
  | cons c u =>
    simp only [quote, List.cons_append, List.cons.injEq] at ht
    obtain ⟨rfl, ht⟩ := ht
    have hopen : Nesting.start.step '\'' = ⟨0, some '\''⟩ := rfl
    -- the comma is before the closing quote
    have hu : '\'' ∉ u := by
      rcases Text.prefix_concat ht with ⟨hwhole, hnil⟩ | ⟨w, hcontent, -⟩
      · cases hnil
      · exact fun hu => hmem (by rw [hcontent]; exact List.mem_append_left _ hu)
    rw [Nesting.advance_cons, hopen, Nesting.advance_quoted hu]
    rfl

/-- The two arguments of a printed call. -/
theorem splitLastArgument_pair {first second : Text} (hfirst : IsOperand first)
    (hsecond : IsOperand second) (hf : CommaFree .start first) (hs : CommaFree .start second) :
    splitLastArgument (Text.join [',', ' '] [first, second]) = (first, some second) := by
  have hspace : CommaFree .start (' ' :: second) := commaFree_cons_iff.2 ⟨rfl, hs⟩
  have hjoin : Text.join [',', ' '] [first, second] = first ++ ',' :: ' ' :: second := by
    simp [Text.join]
  have hsplit : splitTop .start (Text.join [',', ' '] [first, second]) = [first, ' ' :: second] := by
    rw [hjoin, splitTop_append_comma hf (by rw [hfirst.nested.closed]; rfl), hfirst.nested.closed,
      splitTop_of_commaFree hspace]
  rw [splitLastArgument_eq (List.cons_ne_nil first []) hsplit, Text.trim_space_cons, hsecond.trimmed.trim_eq,
    Text.join, hfirst.trimmed.trim_eq]

/-! ## Calls -/

/-- A printed call is a call of its name with what is between its parentheses. -/
theorem functionCall?_callOf {name inside : Text} (hname : isIdentifier name = true)
    (hblank : Text.isBlank inside = false) :
    Filter.functionCall? (name ++ '(' :: inside ++ [')']) = some (name, inside) := by
  have hcall : Filter.call? (name ++ '(' :: inside ++ [')']) = some (name, inside) :=
    call?_eq_some_iff.2 ⟨by simp, ne_nil_of_isIdentifier hname,
      fun c hc => (plain_of_isIdentifierChar (isIdentifierChar_of_mem hname hc)).2⟩
  rw [Filter.functionCall?, hcall]
  simp [Option.filter, hblank, (isTrimmed_of_isIdentifier hname).trim_eq]

theorem functionCall?_callText {name first : Text} (second : Text) (hname : isIdentifier name = true)
    (hfirst : IsOperand first) :
    Filter.functionCall? (callText name first second) =
      some (name, Text.join [',', ' '] [first, second]) := by
  refine functionCall?_callOf hname ?_
  have h := hfirst.trimmed.isBlank_eq
  simp only [Text.isBlank] at h ⊢
  simp [Text.join, h]

end Filter

namespace FilterParser

open RecordFilter.Filter

variable {p : FilterParser} {newGuid : Guid} {expected : Option ValueType}

/-- The step from the texts of two arguments to the call. -/
theorem functionCall?_pair (expected : Option ValueType) {t name arguments first second : Text}
    {function : Function} (hcall : Filter.functionCall? t = some (name, arguments))
    (hname : Function.ofName? name = some function)
    (hsplit : splitLastArgument arguments = (first, some second)) {a b q : Predicate}
    (ha : p.parseExpression newGuid first ((scopeType? p.schema ⟨first, name, second⟩).or expected)
      = .ok (some a))
    (hb : p.parseExpression newGuid second (some ((function.parameterType? 1).getD a.type)) = .ok (some b))
    (happly : Predicate.apply function [a, b] = .ok q) :
    functionCall? p.schema t (p.inner newGuid t.length) expected = some (.ok q) := by
  refine functionCall?_of_arguments hcall hname (fun _ => ?_) (.inr ⟨second, b, ?_, fun _ => hb, rfl⟩)
    happly
  · show p.parseExpression newGuid (splitLastArgument arguments).1 _ = _
    rw [hsplit]
    exact ha
  · rw [hsplit]

theorem arity_of_isStringMatch {function : Function} (h : function.isStringMatch = true) :
    function.arity = 2 := by
  cases function <;> first | rfl | cases h

/-- A string match takes two strings and gives a boolean. -/
theorem apply_of_isStringMatch {function : Function} (h : function.isStringMatch = true)
    {a b : Predicate} (ha : a.type.isString = true) (hb : b.type.isString = true) :
    Predicate.apply function [a, b] = .ok (.call function [a, b] .boolean) := by
  have harity := arity_of_isStringMatch h
  have hkinds : function.parameterKinds = [.string, .string] := by
    cases function <;> first | rfl | cases h
  have hreturn : function.returnType [a.type, b.type] = .boolean := by
    cases function <;> first | rfl | cases h
  have hcheck : function.checkKinds [.string, .string] [a.type, b.type] = .ok () := by
    simp [Function.checkKinds, Function.ArgumentKind.admits, ha, hb]
  simp [Predicate.apply, Function.resultType, harity, hkinds, hcheck, hreturn, Except.map]

/-- A printed string match between a string property and a string is read as the call that it shows. -/
theorem parseExpression_match {function : Function} (hmatch : function.isStringMatch = true)
    {first second : Text} (hfirst : IsOperand first) (hsecond : IsOperand second)
    (hf : CommaFree .start first) (hs : CommaFree .start second) {scope : ValueType}
    (hscope : ((p.schema.resolvePath? first).or (p.schema.resolvePath? second)).map Prod.snd = some scope)
    {a b : Predicate} (ha : p.parseExpression newGuid first (some scope) = .ok (some a))
    (hb : p.parseExpression newGuid second (some a.type) = .ok (some b)) (hastring : a.type.isString = true)
    (hbstring : b.type.isString = true) :
    p.parseExpression newGuid (callText function.name.toList first second) expected
      = .ok (some (.call function [a, b] .boolean)) := by
  have hname : isIdentifier function.name.toList = true := by
    cases function <;> decide
  have hofName : Function.ofName? function.name.toList = some function := by
    cases function <;> decide
  have hparameter : function.parameterType? 1 = none := by
    cases function <;> first | rfl | cases hmatch
  have hcombinator : isCombinator function.name.toList = false := by
    cases function <;> decide
  have hscope' : scopeType? p.schema ⟨first, function.name.toList, second⟩ = some scope := by
    unfold scopeType?
    rw [if_neg (by simp [hcombinator]), firstProperty?_atom _ hfirst.toIsAtom,
      firstProperty?_atom _ hsecond.toIsAtom, hscope]
  -- no other reader takes the text of the call
  have hquoted : quoted? (callText function.name.toList first second) = none := by
    cases function <;> rfl
  have hconstruction : Filter.construction? (callText function.name.toList first second) = none := by
    cases function <;> rfl
  have hcall := functionCall?_pair (p := p) expected
    (functionCall?_callText second hname hfirst) hofName
    (splitLastArgument_pair hfirst hsecond hf hs) (by rw [hscope']; exact ha)
    (by rw [hparameter]; exact hb) (apply_of_isStringMatch hmatch hastring hbstring)
  rw [parseExpression_atom (isOperand_call hname hfirst hsecond).toIsAtom, atom]
  simp only [hquoted, construction?_eq_none hconstruction, hcall]
  rfl

end FilterParser
end RecordFilter
