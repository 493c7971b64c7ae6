import Mathlib.Data.List.Infix
import RecordFilter.Proofs.SqlConditions
import RecordFilter.Proofs.StringConstants
import RecordFilter.Proofs.StringMatches

/-!
# Patterns of SQL-92

A string match is written as a `LIKE` condition. In its pattern, `%` stands for any sequence of characters
and `_` for any one character; there is no other way to write a character than the character itself. So
the condition says of a needle without these two how it stands in the text of the column, in the case of
letters that both have. The evaluation says the same of the needle and the text in lower case, if the match
is `startswith` or `endswith`.

Main statement: `Dialect.selects_render_match`.
-/

namespace RecordFilter
namespace Sql

/-! ## Matching -/

/-- Whether a text matches a pattern. -/
def isLike : (pattern : Text) → Text → Bool
  | [], t => t.isEmpty
  | c :: pattern, t =>
    if c = '%' then t.tails.any (isLike pattern)
    else match t with
      | [] => false
      | d :: t => (c == '_' || c == d) && isLike pattern t

example : isLike "_a%c".toList "xabcc".toList = true ∧ isLike "_a%c".toList "aabcd".toList = false := by
  decide

theorem isLike_nil {t : Text} : isLike [] t = true ↔ t = [] :=
  List.isEmpty_iff

/-- A `%` takes any beginning of the text. -/
theorem isLike_sequence {pattern t : Text} :
    isLike ('%' :: pattern) t = true ↔ ∃ rest, rest <:+ t ∧ isLike pattern rest = true := by
  simp only [isLike, if_true, List.any_eq_true, List.mem_tails]

/-- What has no wildcards matches itself only. -/
theorem isLike_append {n : Text} (hsequence : '%' ∉ n) (hany : '_' ∉ n) {pattern t : Text} :
    isLike (n ++ pattern) t = true ↔ ∃ rest, t = n ++ rest ∧ isLike pattern rest = true := by
  induction n generalizing t with
  | nil => simp
  | cons c n ih =>
    rw [List.mem_cons, not_or] at hsequence hany
    rw [List.cons_append]
    cases t with
    | nil => simp [isLike, Ne.symm hsequence.1]
    | cons d t =>
      rw [isLike, if_neg fun hc => hsequence.1 hc.symm]
      have hc : (c == '_') = false := beq_eq_false_iff_ne.2 fun hc => hany.1 hc.symm
      rw [hc, Bool.false_or, Bool.and_eq_true, beq_iff_eq, ih hsequence.2 hany.2]
      constructor
      · rintro ⟨rfl, rest, rfl, hrest⟩
        exact ⟨rest, rfl, hrest⟩
      · rintro ⟨rest, hrest, hlike⟩
        obtain ⟨rfl, rfl⟩ := List.cons.inj hrest
        exact ⟨rfl, rest, rfl, hlike⟩

theorem isLike_any (t : Text) : isLike ['%'] t = true :=
  isLike_sequence.2 ⟨[], t.nil_suffix, rfl⟩

section

variable {n : Text} (hsequence : '%' ∉ n) (hany : '_' ∉ n) {t : Text}

include hsequence hany

/-- A pattern that ends with `%` asks for a beginning. -/
theorem isLike_starting : isLike (n ++ ['%']) t = true ↔ n <+: t := by
  rw [isLike_append hsequence hany]
  constructor
  · rintro ⟨rest, rfl, -⟩
    exact List.prefix_append ..
  · rintro ⟨rest, rfl⟩
    exact ⟨rest, rfl, isLike_any rest⟩

/-- A pattern that starts with `%` asks for an ending. -/
theorem isLike_ending : isLike ('%' :: n) t = true ↔ n <:+ t := by
  have hself : ∀ {rest}, isLike n rest = true ↔ rest = n := by
    intro rest
    have happend : isLike (n ++ []) rest = true ↔ ∃ last, rest = n ++ last ∧ isLike [] last = true :=
      isLike_append hsequence hany
    rw [List.append_nil] at happend
    simp only [happend, isLike_nil, exists_eq_right, List.append_nil]
  simp only [isLike_sequence, hself, exists_eq_right]

/-- A pattern between two `%` asks for an occurrence. -/
theorem isLike_containing : isLike ('%' :: n ++ ['%']) t = true ↔ n <:+: t := by
  rw [List.cons_append, isLike_sequence]
  simp only [isLike_starting hsequence hany]
  constructor
  · rintro ⟨rest, hfinish, hstart⟩
    exact hstart.isInfix.trans hfinish.isInfix
  · rintro ⟨first, last, rfl⟩
    exact ⟨n ++ last, ⟨first, (List.append_assoc ..).symm⟩, List.prefix_append ..⟩

end

/-! ## Conditions -/

/-- A condition that the text in a column matches a pattern, or that it does not. -/
structure LikeCondition where
  column : String
  wanted : Bool
  pattern : Text
deriving DecidableEq, Repr

namespace LikeCondition

/-- The words between the column and the pattern. -/
def keywords (wanted : Bool) : Text :=
  if wanted then "LIKE".toList else "NOT LIKE".toList

/-- The text of a condition whose pattern has no quotes. -/
def text (c : LikeCondition) : Text :=
  c.column.toList ++ ' ' :: keywords c.wanted ++ ' ' :: Filter.quote c.pattern

/-- Whether a record is selected; without a text in the column it is not. -/
def selects (c : LikeCondition) (record : FieldReader) : Bool :=
  match (record c.column).bind Value.string? with
  | some t => isLike c.pattern t.toList == c.wanted
  | none => false

end LikeCondition

/-- Reads a text as a `LIKE` condition. -/
def readLike? (t : Text) : Option LikeCondition :=
  let (before, literal) := Text.spanWhile (· != '\'') t
  match Text.words before with
  | [column, like] =>
    if isColumnName column && Text.eqIgnoreCase like "LIKE".toList then
      (Dialect.sqlString? literal).map (⟨String.ofList column, true, ·⟩)
    else none
  | [column, not, like] =>
    if isColumnName column && Text.eqIgnoreCase not "NOT".toList
        && Text.eqIgnoreCase like "LIKE".toList then
      (Dialect.sqlString? literal).map (⟨String.ofList column, false, ·⟩)
    else none
  | _ => none

theorem not_mem_of_isColumnName {name : String} (h : isColumnName name.toList = true) {c : Char}
    (hc : c.toNat < 48) : c ∉ name.toList := by
  intro hmem
  simp only [isColumnName, Bool.and_eq_true] at h
  exact ne_of_isIdentifierChar (isIdentifierChar_of_mem h.1 hmem) hc rfl

/-- The text of a condition is read as the condition, if the column has the name of one. -/
theorem readLike?_text {column : String} (hname : isColumnName column.toList = true) (wanted : Bool)
    {pattern : Text} (hquote : '\'' ∉ pattern) :
    readLike? (LikeCondition.mk column wanted pattern).text = some ⟨column, wanted, pattern⟩ := by
  have hcolumn : Text.words column.toList = [column.toList] := by
    refine Text.words_eq_singleton ?_ (not_mem_of_isColumnName hname (by decide))
    simp only [isColumnName, Bool.and_eq_true] at hname
    exact ne_nil_of_isIdentifier hname.1
  have hliteral := (Dialect.sqlString?_quote_iff pattern).2 hquote
  -- the first quote is the one that opens the pattern
  have hbefore : ∀ d ∈ column.toList ++ ' ' :: (LikeCondition.keywords wanted ++ [' ']),
      (d != '\'') = true := by
    have hkeywords : ∀ d ∈ ' ' :: (LikeCondition.keywords wanted ++ [' ']), (d != '\'') = true := by
      cases wanted <;> decide
    intro d hd
    rcases List.mem_append.1 hd with hd | hd
    · exact bne_iff_ne.2 fun heq => not_mem_of_isColumnName hname (by decide) (heq ▸ hd)
    · exact hkeywords d hd
  have hspan : Text.spanWhile (· != '\'') (LikeCondition.mk column wanted pattern).text
      = (column.toList ++ ' ' :: (LikeCondition.keywords wanted ++ [' ']), Filter.quote pattern) := by
    have hsplit := Text.spanWhile_append_of_all (b := Filter.quote pattern) hbefore fun d hd => by
      cases hd
      rfl
    simpa [LikeCondition.text] using hsplit
  simp only [readLike?, hspan, Text.words_append_space, hcolumn, Text.words_nil, List.append_nil]
  cases wanted with
  | true =>
    have hwords : Text.words (LikeCondition.keywords true) = ["LIKE".toList] := by decide
    simp [hwords, hname, hliteral, Text.eqIgnoreCase]
  | false =>
    have hwords : Text.words (LikeCondition.keywords false) = ["NOT".toList, "LIKE".toList] := by decide
    simp [hwords, hname, hliteral, Text.eqIgnoreCase]

end Sql

namespace Dialect

/-! ## Texts of string matches -/

/-- The pattern for a needle. -/
def likePattern : Function → Text → Text
  | .substringOf, needle => '%' :: needle ++ ['%']
  | .endsWith, needle => '%' :: needle
  | _, needle => needle ++ ['%']

/-- The pattern of a string match asks for its relation, where the literal has no wildcards. -/
theorem isLike_likePattern {f : Function} (hf : f.isStringMatch = true) {needle t : Text}
    (hsequence : '%' ∉ needle) (hany : '_' ∉ needle) :
    Sql.isLike (likePattern f needle) t = true ↔ f.Relates needle t := by
  cases f with
  | substringOf => exact Sql.isLike_containing hsequence hany
  | endsWith => exact Sql.isLike_ending hsequence hany
  | startsWith => exact Sql.isLike_starting hsequence hany
  | _ => cases hf

/-- The condition for a string match of a column, or for none. -/
def likeCondition (f : Function) (name needle : String) (wanted : Bool) : Sql.LikeCondition :=
  ⟨name, wanted, likePattern f needle.toList⟩

/-- A string match of a column with a quoted literal is written as its `likeCondition`. -/
theorem sqlLike_quoted {f : Function} (hf : f.isStringMatch = true) (name : String) {needle : String}
    (hquote : '\'' ∉ needle.toList) (wanted : Bool) :
    sqlLike f (if f = .substringOf then [Filter.quote needle.toList, name.toList]
        else [name.toList, Filter.quote needle.toList]) wanted
      = .ok (likeCondition f name needle wanted).text := by
  have hkeep : needle.toList.filter (· != '\'') = needle.toList :=
    List.filter_eq_self.2 fun c hc => bne_iff_ne.2 fun heq => hquote (heq ▸ hc)
  cases f with
  | substringOf | endsWith | startsWith =>
    cases wanted <;>
      simp [sqlLike, hkeep, likeCondition, likePattern, Sql.LikeCondition.text,
        Sql.LikeCondition.keywords, Filter.quote, -List.filter_eq_self]
  | _ => cases hf

/-- A string match that is compared with a boolean literal always has a form of its own. -/
theorem matched_sql92 (op : Comparison) (f : Function) (literal : Bool)
    (arguments : Except RenderError (List Text)) (left right : Rendered) :
    sql92.matched false op f literal arguments left right
      = arguments.bind fun texts => sqlLike f texts (literal == (op = .eq : Bool)) := by
  cases arguments with
  | error error => rfl
  | ok texts =>
    show (sqlLike f texts _).map (wrap false) = sqlLike f texts _
    cases sqlLike f texts (literal == (op = .eq : Bool)) <;> rfl

/-- A question for a string match is written as a condition, whichever form it has. -/
theorem render_asks {f : Function} {call p : Predicate} {wanted : Bool} (hp : call.Asks wanted p)
    (hmatch : stringMatchOf? call = some f) :
    sql92.render p = (sql92.visitArguments call).bind fun texts => sqlLike f texts wanted := by
  -- a literal is not a match itself, so the comparison takes the form for the other side
  have hliteral : ∀ b, Predicate.booleanLiteral? (.constant (.boolean b) .boolean) = some b := fun _ => rfl
  have hnone : ∀ b, stringMatchOf? (.constant (.boolean b) .boolean) = none := fun _ => rfl
  have hunequal : ∀ b, (b == (Comparison.ne = .eq : Bool)) = !b := by decide
  cases hp with
  | bare =>
    cases call with
    | call called arguments type =>
      simp only [stringMatchOf?, Option.ite_none_right_eq_some, Option.some.injEq] at hmatch
      obtain ⟨hcalled, rfl⟩ := hmatch
      have hcall : ∀ texts, sql92.call called texts false = sqlLike called texts true :=
        fun _ => if_pos hcalled
      rw [render, visit, visitArguments]
      · simp only [hcall]
      · rintro _ _ ⟨⟩
    | _ => cases hmatch
  | eqRight =>
    rw [render, visit]
    · simp only [Comparison.isOrdered, hmatch, hliteral, matched_sql92, decide_true, beq_true]
    · rintro _ _ ⟨⟩
  | eqLeft =>
    rw [render, visit]
    · simp only [Comparison.isOrdered, hmatch, hnone, hliteral, matched_sql92, decide_true, beq_true]
    · rintro _ _ ⟨⟩
  | neRight b =>
    rw [render, visit]
    · simp only [Comparison.isOrdered, hmatch, hliteral, matched_sql92, hunequal]
    · rintro _ _ ⟨⟩
  | neLeft b =>
    rw [render, visit]
    · simp only [Comparison.isOrdered, hmatch, hnone, hliteral, matched_sql92, hunequal]
    · rintro _ _ ⟨⟩

/-- A question for a string match of a property is written as the condition on its column, if the property
is a field of the record itself. -/
theorem render_asks_matchCall {f : Function} (hf : f.isStringMatch = true) {path : PropertyPath}
    {needle : String} {type type' : ValueType} {wanted : Bool} {p : Predicate}
    (hp : (Predicate.matchCall f (.property path type) (.constant (.string needle) type')).Asks wanted p)
    (hquote : '\'' ∉ needle.toList) :
    sql92.render p = (sqlProperty path).map fun column =>
      (likeCondition f (String.ofList column) needle wanted).text := by
  have harguments :
      sql92.visitArguments (.matchCall f (.property path type) (.constant (.string needle) type'))
        = (sqlProperty path).map fun column =>
          if f = .substringOf then [Filter.quote needle.toList, column]
          else [column, Filter.quote needle.toList] := by
    have hproperty : ∀ inside bracket,
        sql92.visit inside bracket (.property path type) = sqlProperty path := by
      intro _ _
      rw [visit]
      rfl
    have hneedle : ∀ inside bracket,
        sql92.visit inside bracket (.constant (.string needle) type')
          = .ok (Filter.quote needle.toList) := by
      intro _ _
      rw [visit]
      rfl
    rw [Predicate.matchCall, visitArguments]
    split <;> simp only [visitAll, hproperty, hneedle] <;> cases sqlProperty path <;> rfl
  rw [render_asks hp (by rw [Predicate.matchCall, stringMatchOf?, if_pos hf]), harguments]
  cases sqlProperty path with
  | error error => rfl
  | ok column =>
    have hquoted := sqlLike_quoted hf (String.ofList column) hquote wanted
    rw [String.toList_ofList] at hquoted
    exact hquoted

theorem not_mem_likePattern {f : Function} {needle : Text} (hquote : '\'' ∉ needle) :
    '\'' ∉ likePattern f needle := by
  cases f <;> simp [likePattern, hquote]

/-- A question that `Asks` for a string match with a literal without quotes and wildcards has a text in `sql92`
if and only if its property is a column, and the text is a `Sql.LikeCondition`. It `selects` by the texts as
they are, where the filter `accepts` by their `Function.folded` forms. -/
theorem selects_render_match {f : Function} (hf : f.isStringMatch = true) {path : PropertyPath}
    {needle : String} {type type' : ValueType} {wanted : Bool} {p : Predicate}
    (hp : (Predicate.matchCall f (.property path type) (.constant (.string needle) type')).Asks wanted p)
    (hquote : '\'' ∉ needle.toList) (hsequence : '%' ∉ needle.toList) (hany : '_' ∉ needle.toList) :
    ((∃ text, sql92.render p = .ok text) ↔ ∃ name, path = ⟨[name]⟩) ∧
    ∀ name, path = ⟨[name]⟩ → ∃ c : Sql.LikeCondition, sql92.render p = .ok c.text ∧
      (Sql.isColumnName name.toList = true → Sql.readLike? c.text = some c) ∧
      ∀ record s, record name = some (.string s) → ∀ flagsMatch,
        (c.selects record = true ↔ (f.Relates needle.toList s.toList ↔ wanted = true)) ∧
        ((CompiledFilter.mk (some p) flagsMatch).accepts record = true ↔
          (f.Relates (f.folded needle.toList) (f.folded s.toList) ↔ wanted = true)) ∧
        (f.folded needle.toList = needle.toList → f.folded s.toList = s.toList →
          c.selects record = (CompiledFilter.mk (some p) flagsMatch).accepts record) ∧
        ('Σ' ∉ needle.toList → c.selects record = wanted →
          (CompiledFilter.mk (some p) flagsMatch).accepts record = wanted) := by
  have hrender := render_asks_matchCall hf hp hquote
  refine ⟨?_, ?_⟩
  · obtain ⟨segments⟩ := path
    rw [hrender, sqlProperty]
    constructor
    · rintro ⟨text, htext⟩
      split at htext
      · rename_i name hname
        exact ⟨name, congrArg PropertyPath.mk hname⟩
      · cases htext
    · rintro ⟨name, ⟨⟩⟩
      exact ⟨_, rfl⟩
  · rintro name rfl
    refine ⟨likeCondition f name needle wanted, ?_,
      fun hname => Sql.readLike?_text hname wanted (not_mem_likePattern hquote),
      fun record s hs flagsMatch => ?_⟩
    · rw [hrender, sqlProperty, Except.map, String.ofList_toList]
    have hselects : (likeCondition f name needle wanted).selects record = true ↔
        (f.Relates needle.toList s.toList ↔ wanted = true) := by
      rw [← isLike_likePattern hf hsequence hany, Sql.LikeCondition.selects, likeCondition, hs]
      simp [Value.string?]
    have hvalue : Evaluation.value flagsMatch record (.property ⟨[name]⟩ type) = .ok (.string s) := by
      simp [Evaluation.readProperty, hs, Evaluation.navigate]
    have haccepts := Evaluation.accepts_asks_matchCall hf hp hvalue (Evaluation.value_constant ..)
    refine ⟨hselects, haccepts, fun hneedle htext => ?_, fun hsigma hfound => ?_⟩
    · rw [Bool.eq_iff_iff, hselects, haccepts, hneedle, htext]
    · have hrelates : f.Relates (f.folded needle.toList) (f.folded s.toList) := by
        refine Function.Relates.folded ?_ hsigma
        cases wanted with
        | true => exact (hselects.1 hfound).2 rfl
        | false => simpa [hfound] using hselects
      rw [Bool.eq_iff_iff, haccepts]
      simp [hrelates]

/-- A field whose text is not to end in the needle. -/
theorem selects_render_match_ending :
    ∃ (p : Predicate) (c : Sql.LikeCondition) (record : FieldReader),
      p = .binary (.comparison .eq) (.constant (.boolean false) .boolean)
        (.matchCall .endsWith (.property ⟨["Name"]⟩ .string) (.constant (.string "bc") .string)) .boolean ∧
      sql92.render p = .ok c.text ∧ c.text = "Name NOT LIKE '%bc'".toList ∧
      Sql.readLike? c.text = some c ∧
      record "Name" = some (.string "abd") ∧ c.selects record = true ∧
      (CompiledFilter.mk (some p) .exact).accepts record = true := by
  have hp : (Predicate.matchCall .endsWith (.property ⟨["Name"]⟩ .string)
      (.constant (.string "bc") .string)).Asks false _ := .eqLeft false
  obtain ⟨c, hrender, hread, hrecord⟩ :=
    (selects_render_match rfl hp (by decide) (by decide) (by decide)).2 "Name" rfl
  have htext : c.text = "Name NOT LIKE '%bc'".toList := by
    rw [← Except.ok.injEq, ← hrender]
    rfl
  obtain ⟨hselects, haccepts, -, -⟩ := hrecord (fun _ => some (.string "abd")) "abd" rfl .exact
  exact ⟨_, c, _, rfl, hrender, htext, hread (by decide), rfl, hselects.2 (by decide), haccepts.2 (by decide)⟩

/-- The condition does not ask for the lower case of the texts, a wildcard of the needle is one of the
pattern, and a property in place of the needle puts its name there. -/
theorem selects_render_match_literally :
    let name : Predicate := .property ⟨["Name"]⟩ .string
    let starting : Predicate := .matchCall .startsWith name (.constant (.string "ab") .string)
    let containing : Predicate := .matchCall .substringOf name (.constant (.string "_") .string)
    let another : Predicate := .matchCall .startsWith name (.property ⟨["Other"]⟩ .string)
    let record (text : String) : FieldReader :=
      fun field => some (.string (if field = "Name" then text else "z"))
    let accepts (p : Predicate) := (CompiledFilter.mk (some p) .exact).accepts
    (sql92.render starting = .ok (Sql.LikeCondition.mk "Name" true "ab%".toList).text ∧
      (Sql.LikeCondition.mk "Name" true "ab%".toList).selects (record "ABc") = false ∧
      accepts starting (record "ABc") = true) ∧
    (sql92.render containing = .ok (Sql.LikeCondition.mk "Name" true "%_%".toList).text ∧
      (Sql.LikeCondition.mk "Name" true "%_%".toList).selects (record "x") = true ∧
      accepts containing (record "x") = false) ∧
    sql92.render another = .ok (Sql.LikeCondition.mk "Name" true "Other%".toList).text ∧
      (Sql.LikeCondition.mk "Name" true "Other%".toList).selects (record "Other1") = true ∧
      accepts another (record "Other1") = false := by
  refine ⟨⟨?_, ?_, ?_⟩, ⟨?_, ?_, ?_⟩, ?_, ?_, ?_⟩ <;> decide +kernel

end Dialect
end RecordFilter
