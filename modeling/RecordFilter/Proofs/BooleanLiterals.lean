import RecordFilter.Proofs.JoinedOperands
import RecordFilter.Proofs.RoundTrip
import RecordFilter.Query.Result

/-!
# Boolean literals in connectives

The printer leaves out what the literals `true` and `false` make superfluous: a conjunction with `false`
has no text, `true` adds nothing to one, and a side without text is left out of its connective. This module
says what remains of a predicate of booleans (`Predicate.remaining?`), and that the text is compiled to a
filter that accepts the same records as what remains. Without a conjunction with `false` these are the
records that the predicate accepts.

In two places the printer takes a text for granted that may be missing or shorter: behind `not`, and as a
side of a comparison, where it asks for brackets. Predicates that make use of this are left out
(`Predicate.keepsBrackets`).

Main statement: `tryMatches_render_booleans`.
-/

namespace RecordFilter

namespace Predicate

/-! ## What remains of a predicate -/

/-- What remains of a predicate without the parts that have no text: nothing of a conjunction with `false`,
the other side of one with `true`, and the other side of a connective if nothing remains of one. -/
def remaining? : Predicate → Option Predicate
  | .not operand => operand.remaining?.map .not
  | .binary (.connective op) left right type =>
    if op = .and ∧ (left.booleanLiteral? = some false ∨ right.booleanLiteral? = some false) then none
    else if op = .and ∧ left.booleanLiteral? = some true then right.remaining?
    else if op = .and ∧ right.booleanLiteral? = some true then left.remaining?
    else
      match left.remaining?, right.remaining? with
      | none, right => right
      | left, none => left
      | some left, some right => some (.binary (.connective op) left right type)
  | .binary (.comparison op) left right type =>
    left.remaining?.bind fun left =>
      right.remaining?.map fun right => .binary (.comparison op) left right type
  | q => some q

/-- Whether the predicate is a connective that is not written itself, but at most one side of it. -/
def isShortened : Predicate → Bool
  | .binary (.connective op) left right _ =>
    (op = .and && (left.booleanLiteral?.isSome || right.booleanLiteral?.isSome))
      || left.remaining?.isNone || right.remaining?.isNone
  | _ => false

/-- Whether the predicate can be a side of a comparison: something remains of it, and it is written in
brackets if it has several parts. -/
def isSide (q : Predicate) : Bool :=
  match q.remaining? with
  | some rest => rest.isAtomic || !q.isShortened
  | none => false

/-- Whether something remains of every negated predicate, and every side of a comparison keeps its
brackets. -/
def keepsBrackets : Predicate → Bool
  | .not operand => operand.remaining?.isSome && operand.keepsBrackets
  | .binary (.connective _) left right _ => left.keepsBrackets && right.keepsBrackets
  | .binary (.comparison _) left right _ =>
    left.isSide && right.isSide && left.keepsBrackets && right.keepsBrackets
  | _ => true

/-- Whether there is a conjunction with the literal `false`. -/
def hasFalseConjunction : Predicate → Bool
  | .not operand => operand.hasFalseConjunction
  | .binary op left right _ =>
    (op = .connective .and &&
        (left.booleanLiteral? = some false || right.booleanLiteral? = some false))
      || left.hasFalseConjunction || right.hasFalseConjunction
  | _ => false

/-- Nothing is dropped from an atomic predicate. -/
theorem remaining?_of_isAtomic {q : Predicate} (h : q.isAtomic = true) : q.remaining? = some q := by
  cases q with
  | property path type => rfl
  | constant value type => rfl
  | _ => cases h

/-- A side of a comparison remains, and keeps its brackets where it needs them. -/
theorem exists_of_isSide {q : Predicate} (h : q.isSide = true) :
    ∃ rest, q.remaining? = some rest ∧ (rest.isAtomic = true ∨ q.isShortened = false) := by
  unfold isSide at h
  split at h
  · rename_i rest hrest
    exact ⟨rest, hrest, by simpa using h⟩
  · cases h

end Predicate

namespace FilterParser

open RecordFilter.Filter Dialect

variable {p : FilterParser} {newGuid : Guid}

/-! ## Predicates of booleans -/

/-- A path that can stand in a filter as it is. -/
structure IsPlainPath (path : PropertyPath) : Prop where
  text : IsPlainOperand path.render.toList
  names : ∀ name ∈ path.segments, Text.trim name.toList = name.toList ∧ '/' ∉ name.toList

/-- The predicates that are built by connectives, negations and equations from boolean properties and
literals. -/
inductive OfBooleans (schema : RecordType) : Predicate → Prop
  | property {path : PropertyPath} {type : ValueType} (plain : IsPlainPath path)
      (resolved : schema.resolveSegments? path.segments = some (path, type))
      (boolean : type.isBoolean = true) : OfBooleans schema (.property path type)
  | literal (b : Bool) {type : ValueType} (boolean : type.isBoolean = true) :
      OfBooleans schema (.constant (.boolean b) type)
  | not {operand : Predicate} (h : OfBooleans schema operand) : OfBooleans schema (.not operand)
  | connective (op : Connective) {left right : Predicate} (hleft : OfBooleans schema left)
      (hright : OfBooleans schema right) :
      OfBooleans schema (.binary (.connective op) left right .boolean)
  | equation {op : Comparison} (hop : op.isOrdered = false) {left right : Predicate}
      (hleft : OfBooleans schema left) (hright : OfBooleans schema right) :
      OfBooleans schema (.binary (.comparison op) left right .boolean)

/-- A plain path resolves from its text. -/
theorem resolvePath?_plainPath {path : PropertyPath} {type : ValueType} (h : IsPlainPath path)
    (hresolve : p.schema.resolveSegments? path.segments = some (path, type)) :
    p.schema.resolvePath? path.render.toList = some (path, type) := by
  rw [RecordType.resolvePath?_render_of_names p.schema ?_ h.names, hresolve]
  intro hnil
  rw [hnil] at hresolve
  cases hresolve

/-! ## Reading -/

/-- A text that is read as a predicate wherever a boolean is expected. Literals beside it are read as
booleans, too. -/
structure ReadsBoolean (p : FilterParser) (newGuid : Guid) (t : Text) (found : Predicate) : Prop where
  read : ∀ expected, (∀ type ∈ expected, type.isBoolean = true) →
    p.parseExpression newGuid t expected = .ok (some found)
  first : ∀ hit ∈ firstProperty? p.schema t, hit.2.isBoolean = true
  boolean : found.type.isBoolean = true

namespace ReadsBoolean

variable {t u : Text} {found other : Predicate}

/-- A boolean property is read back. -/
theorem property {path : PropertyPath} {type : ValueType} (h : IsPlainPath path)
    (hresolve : p.schema.resolveSegments? path.segments = some (path, type))
    (hboolean : type.isBoolean = true) :
    ReadsBoolean p newGuid path.render.toList (.property path type) := by
  have hpath := resolvePath?_plainPath h hresolve
  refine ⟨fun _ _ => parseExpression_property h.text hpath, ?_, hboolean⟩
  rw [firstProperty?_atom _ h.text.toIsAtom, hpath]
  rintro _ ⟨⟩
  exact hboolean

/-- The words `true` and `false` are read as literals, where they name no field. -/
theorem literal {b : Bool} (h : p.schema.resolvePath? (booleanText b) = none) :
    ReadsBoolean p newGuid (booleanText b) (.constant (.boolean b) .boolean) := by
  refine ⟨fun _ hexpected => parseExpression_boolean h hexpected, ?_, rfl⟩
  rw [firstProperty?_atom _ (isOperand_booleanText b).toIsAtom, h]
  exact nofun

theorem enclosed (h : ReadsBoolean p newGuid t found) (ht : IsFilterText t) :
    ReadsBoolean p newGuid ('(' :: t ++ [')']) found := by
  refine ⟨fun expected hexpected => ?_, ?_, h.boolean⟩
  · have hsame := sameResult_enclosed p newGuid expected ht.enclosable
    rw [ht.squeezed] at hsame
    exact (hsame _).2 (h.read expected hexpected)
  · rw [firstProperty?_enclosed p.schema ht]
    exact h.first

/-- `not` in front of a filter text negates it. -/
theorem negated (h : ReadsBoolean p newGuid t found) (ht : IsFilterText t) :
    ReadsBoolean p newGuid (negated t) (.not found) := by
  refine ⟨fun _ _ => parseExpression_negated ht (h.read (some .boolean) (by simp)) h.boolean, ?_, rfl⟩
  rw [firstProperty?_of_sets p.schema (isFilterText_negated ht) tokenize_negated, ht.squeezed,
    firstProperty?_nil, Option.none_or, firstProperty?_enclosed p.schema ht]
  exact h.first

theorem first_or (h : ReadsBoolean p newGuid t found) (h' : ReadsBoolean p newGuid u other) :
    ∀ hit ∈ (firstProperty? p.schema t).or (firstProperty? p.schema u), hit.2.isBoolean = true := by
  intro hit hhit
  rcases Option.or_eq_some_iff.1 hhit with hhit | ⟨-, hhit⟩
  · exact h.first hit hhit
  · exact h'.first hit hhit

/-- Filter texts in parentheses on both sides of a keyword are read as the connective. -/
theorem grouped {op : Connective} (h : ReadsBoolean p newGuid t found) (h' : ReadsBoolean p newGuid u other)
    (ht : IsFilterText t) (hu : IsFilterText u) :
    ReadsBoolean p newGuid (grouped op t u) (.binary (.connective op) found other .boolean) := by
  refine ⟨fun _ _ => parseExpression_grouped ht hu (h.read (some .boolean) (by simp))
    (h'.read (some found.type) (by simpa using h.boolean)) h.boolean h'.boolean, ?_, rfl⟩
  rw [firstProperty?_of_sets p.schema (isFilterText_grouped ht hu)
    (tokenize_grouped op ht.nested hu.nested.balanced), ht.squeezed, hu.squeezed,
    firstProperty?_enclosed p.schema ht, firstProperty?_enclosed p.schema hu]
  exact h.first_or h'

/-- Pieces on both sides of `eq` or `ne` are read as the comparison. -/
theorem compared {op : Comparison} (hop : op.isOrdered = false) (h : ReadsBoolean p newGuid t found)
    (h' : ReadsBoolean p newGuid u other) (ht : IsPiece t) (hu : IsPiece u) :
    ReadsBoolean p newGuid (comparisonText op t u) (.binary (.comparison op) found other .boolean) := by
  have hfits : Predicate.operatorType (.comparison op) found.type other.type = .ok .boolean := by
    refine operatorType_comparison ?_ (.inl hop)
    have hfound := h.boolean
    have hother := h'.boolean
    rw [ValueType.isBoolean, decide_eq_true_eq] at hfound hother
    rw [hfound, hother]
  refine ⟨fun expected hexpected => ?_, ?_, rfl⟩
  · refine parseExpression_compared ht hu (h.read _ ?_)
      (h'.read (some found.type) (by simpa using h.boolean)) hfits
    unfold scopeType?
    rw [if_neg (by simp [(isOperation_comparison op).2.1])]
    intro type htype
    rcases Option.or_eq_some_iff.1 htype with hscope | ⟨-, htype⟩
    · obtain ⟨hit, hhit, rfl⟩ := Option.map_eq_some_iff.1 hscope
      exact h.first_or h' hit hhit
    · exact hexpected type htype
  · rw [firstProperty?_of_sets p.schema (isFilterText_comparisonText op ht hu)
      (tokenize_comparisonText op ht hu)]
    exact h.first_or h'

end ReadsBoolean

/-! ## Writing -/

/-- A text for a predicate of booleans. What is read from it has the value of the predicate. -/
structure Shows (p : FilterParser) (newGuid : Guid) (t : Text) (rest : Predicate) : Prop where
  text : IsFilterText t
  atomic : rest.isAtomic = true → IsOperand t
  boolean : rest.type.isBoolean = true
  reads : ∃ found, ReadsBoolean p newGuid t found ∧ found.SameValue rest

/-- A text for what remains of a predicate, which is empty if nothing does. -/
def ShowsRemaining (p : FilterParser) (newGuid : Guid) (t : Text) : Option Predicate → Prop
  | none => t = []
  | some rest => Shows p newGuid t rest

/-- The text is blank if and only if nothing remains. -/
theorem isBlank_of_showsRemaining {t : Text} {rest : Option Predicate} (h : ShowsRemaining p newGuid t rest) :
    Text.isBlank t = rest.isNone := by
  cases rest with
  | none =>
    cases h
    rfl
  | some rest => exact h.text.trimmed.isBlank_eq

namespace Shows

variable {t u : Text} {rest other : Predicate}

theorem negated (h : Shows p newGuid t rest) : Shows p newGuid (negated t) (.not rest) := by
  obtain ⟨found, hread, hsame⟩ := h.reads
  exact ⟨isFilterText_negated h.text, Bool.noConfusion, rfl, _, hread.negated h.text, hsame.not⟩

theorem grouped {op : Connective} (h : Shows p newGuid t rest) (h' : Shows p newGuid u other) :
    Shows p newGuid (grouped op t u) (.binary (.connective op) rest other .boolean) := by
  obtain ⟨found, hread, hsame⟩ := h.reads
  obtain ⟨found', hread', hsame'⟩ := h'.reads
  exact ⟨isFilterText_grouped h.text h'.text, Bool.noConfusion, rfl, _,
    hread.grouped hread' h.text h'.text, hsame.connective hsame'⟩

theorem compared {op : Comparison} (hop : op.isOrdered = false) {left right : Predicate}
    (hleft : ReadsBoolean p newGuid t left) (hright : ReadsBoolean p newGuid u right) (ht : IsPiece t)
    (hu : IsPiece u) (hboolean : rest.type.isBoolean = true) (hrest : left.SameValue rest)
    (hother : right.SameValue other) :
    Shows p newGuid (comparisonText op t u) (.binary (.comparison op) rest other .boolean) := by
  have hside : left.SameSide rest := by
    refine ⟨hrest, .inl (Predicate.hasFlagsType_of_underlying ?_)⟩
    have hfound := hleft.boolean
    rw [ValueType.isBoolean, decide_eq_true_eq] at hfound hboolean
    rw [hfound, hboolean]
  exact ⟨isFilterText_comparisonText op ht hu, Bool.noConfusion, rfl, _,
    hleft.compared hop hright ht hu, hside.comparison hother⟩

end Shows

/-- A connective shows what remains of it. Its brackets are left out with its keyword. -/
theorem showsRemaining_connected (op : Connective) {left right : Predicate} {t u : Text}
    (hleft : ShowsRemaining p newGuid t left.remaining?)
    (hright : ShowsRemaining p newGuid u right.remaining?) :
    ShowsRemaining p newGuid (connected odata false op left.booleanLiteral? right.booleanLiteral? t u)
      (Predicate.binary (.connective op) left right .boolean).remaining? := by
  have htblank := isBlank_of_showsRemaining hleft
  have hublank := isBlank_of_showsRemaining hright
  rw [Predicate.remaining?]
  unfold connected
  split
  · rfl
  · split
    · exact hright
    · split
      · exact hleft
      · cases hl : left.remaining? with
        | none =>
          rw [hl] at htblank
          rw [if_pos (by simpa using htblank)]
          exact hright
        | some rest =>
          rw [hl] at htblank hleft
          rw [if_neg (by simp [htblank])]
          cases hr : right.remaining? with
          | none =>
            rw [hr] at hublank
            rw [if_pos (by simpa using hublank)]
            exact hleft
          | some other =>
            rw [hr] at hublank hright
            rw [if_neg (by simp [hublank])]
            exact hleft.grouped hright

/-- `connected` puts its text in brackets, if asked to, unless the connective `isShortened`. -/
theorem connected_wrap (op : Connective) {left right : Predicate} (type : ValueType) {t u : Text}
    (hleft : ShowsRemaining p newGuid t left.remaining?) (hright : ShowsRemaining p newGuid u right.remaining?)
    (bracket : Bool) :
    connected odata bracket op left.booleanLiteral? right.booleanLiteral? t u
      = wrap (bracket && !(Predicate.binary (.connective op) left right type).isShortened)
          (connected odata false op left.booleanLiteral? right.booleanLiteral? t u) := by
  have htblank := isBlank_of_showsRemaining hleft
  have hublank := isBlank_of_showsRemaining hright
  have hshort : ∀ {short : Bool} {text : Text}, short = true → text = wrap (bracket && !short) text := by
    rintro _ text rfl
    rw [Bool.not_true, Bool.and_false]
    rfl
  unfold connected
  split_ifs with hfalse htrue htrue' ht hu
  · refine hshort ?_
    rcases hfalse with ⟨rfl, h | h⟩ <;> simp [Predicate.isShortened, h]
  · exact hshort (by simp [Predicate.isShortened, htrue])
  · exact hshort (by simp [Predicate.isShortened, htrue'])
  · exact hshort (by simp [Predicate.isShortened, ← htblank, ht])
  · exact hshort (by simp [Predicate.isShortened, ← hublank, hu])
  · -- no literal of a conjunction is left, and both sides have a text
    have hnone : ∀ {o : Option Bool}, o ≠ some false → o ≠ some true → o.isSome = false := by
      rintro (_ | _ | _) hfalse htrue
      · rfl
      · exact absurd rfl hfalse
      · exact absurd rfl htrue
    have hlong : (Predicate.binary (.connective op) left right type).isShortened = false := by
      have hliteral : (op = .and && (left.booleanLiteral?.isSome || right.booleanLiteral?.isSome) : Bool)
          = false := by
        cases op with
        | and =>
          simp only [true_and, not_or] at hfalse htrue htrue'
          rw [hnone hfalse.1 htrue, hnone hfalse.2 htrue']
          rfl
        | or => rfl
      rw [Predicate.isShortened, hliteral, ← htblank, ← hublank]
      simp [ht, hu]
    rw [hlong, Bool.not_false, Bool.and_true]
    rfl

theorem wrap_of_whole {q : Predicate} (hatomic : q.isAtomic = false) (hshort : q.isShortened = false)
    (bracket : Bool) (t : Text) : wrap (bracket && !q.isAtomic && !q.isShortened) t = wrap bracket t := by
  rw [hatomic, hshort, Bool.not_false, Bool.and_true, Bool.and_true]

/-- A side of a comparison is a property or a literal, or it is in brackets. -/
theorem exists_side {q : Predicate} {t : Text} (hshows : ShowsRemaining p newGuid t q.remaining?)
    (hvisit : ∀ inside bracket,
      odata.visit inside bracket q = .ok (wrap (bracket && !q.isAtomic && !q.isShortened) t))
    (hside : q.isSide = true) :
    ∃ rest u found, q.remaining? = some rest ∧ rest.type.isBoolean = true ∧
      odata.visit true (!q.isAtomic) q = .ok u ∧ IsPiece u ∧ ReadsBoolean p newGuid u found ∧
      found.SameValue rest := by
  obtain ⟨rest, hrest, hkeeps⟩ := Predicate.exists_of_isSide hside
  rw [hrest] at hshows
  obtain ⟨found, hread, hsame⟩ := hshows.reads
  have hbare : wrap (!q.isAtomic && !q.isAtomic && !q.isShortened) t = t → rest.isAtomic = true →
      ∃ rest u found, q.remaining? = some rest ∧ rest.type.isBoolean = true ∧
        odata.visit true (!q.isAtomic) q = .ok u ∧ IsPiece u ∧ ReadsBoolean p newGuid u found ∧
        found.SameValue rest := fun hwrap hatomic =>
    ⟨rest, t, found, hrest, hshows.boolean, by rw [hvisit, hwrap], (hshows.atomic hatomic).isPiece,
      hread, hsame⟩
  cases hatomic : q.isAtomic with
  | true =>
    rw [Predicate.remaining?_of_isAtomic hatomic] at hrest
    cases hrest
    rw [hatomic] at hbare
    exact hbare rfl rfl
  | false =>
    cases hshort : q.isShortened with
    | true =>
      rw [hatomic, hshort] at hbare
      exact hbare rfl (hkeeps.resolve_right (by simp [hshort]))
    | false =>
      refine ⟨rest, '(' :: t ++ [')'], found, hrest, hshows.boolean, ?_, hshows.text.isPiece_enclosed,
        hread.enclosed hshows.text, hsame⟩
      rw [hvisit, wrap_of_whole hatomic hshort]
      rfl

/-- The text of a predicate of booleans, by induction on it: the text shows what remains, and it is put in
brackets where these are asked for, unless it is that of one side. -/
theorem exists_showsRemaining (hliterals : ∀ b, p.schema.resolvePath? (booleanText b) = none)
    {q : Predicate} (hq : OfBooleans p.schema q) (hkeeps : q.keepsBrackets = true) :
    ∃ t, ShowsRemaining p newGuid t q.remaining? ∧ ∀ inside bracket,
      odata.visit inside bracket q = .ok (wrap (bracket && !q.isAtomic && !q.isShortened) t) := by
  induction hq with
  | @property path type hplain hresolved hboolean =>
    refine ⟨path.render.toList, ⟨hplain.text.isOperand.isFilterText, fun _ => hplain.text.isOperand,
      hboolean, _, .property hplain hresolved hboolean, .refl _⟩, fun inside bracket => ?_⟩
    rw [Predicate.isAtomic, Bool.not_true, Bool.and_false]
    rfl
  | @literal b type hboolean =>
    refine ⟨booleanText b, ⟨(isOperand_booleanText b).isFilterText, fun _ => isOperand_booleanText b,
      hboolean, _, .literal (hliterals b), fun _ _ => rfl⟩, fun inside bracket => ?_⟩
    rw [Predicate.isAtomic, Bool.not_true, Bool.and_false]
    rfl
  | @not operand _ ih =>
    simp only [Predicate.keepsBrackets, Bool.and_eq_true] at hkeeps
    obtain ⟨t, hshows, hvisit⟩ := ih hkeeps.2
    obtain ⟨rest, hrest⟩ := Option.isSome_iff_exists.1 hkeeps.1
    rw [hrest] at hshows
    refine ⟨negated t, ?_, fun inside bracket => ?_⟩
    · rw [Predicate.remaining?, hrest]
      exact hshows.negated
    · rw [wrap_of_whole rfl rfl]
      exact visit_negation (hvisit false false) inside bracket
  | @connective op left right _ _ ihleft ihright =>
    simp only [Predicate.keepsBrackets, Bool.and_eq_true] at hkeeps
    obtain ⟨t, hleft, hvisitLeft⟩ := ihleft hkeeps.1
    obtain ⟨u, hright, hvisitRight⟩ := ihright hkeeps.2
    refine ⟨_, showsRemaining_connected op hleft hright, fun inside bracket => ?_⟩
    have hconnected : odata.visit inside bracket (.binary (.connective op) left right .boolean)
        = .ok (connected odata bracket op left.booleanLiteral? right.booleanLiteral? t u) := by
      rw [visit, hvisitLeft false false, hvisitRight false false]
      rfl
    rw [hconnected, connected_wrap op .boolean hleft hright bracket]
    cases bracket <;> rfl
  | @equation op hop left right _ _ ihleft ihright =>
    simp only [Predicate.keepsBrackets, Bool.and_eq_true] at hkeeps
    obtain ⟨⟨⟨hsideLeft, hsideRight⟩, hkeepsLeft⟩, hkeepsRight⟩ := hkeeps
    obtain ⟨t, hleft, hvisitLeft⟩ := ihleft hkeepsLeft
    obtain ⟨u, hright, hvisitRight⟩ := ihright hkeepsRight
    obtain ⟨rest, t, found, hrest, hboolean, ht, hpiece, hread, hsame⟩ :=
      exists_side hleft hvisitLeft hsideLeft
    obtain ⟨other, u, found', hother, -, hu, hpiece', hread', hsame'⟩ :=
      exists_side hright hvisitRight hsideRight
    refine ⟨comparisonText op t u, ?_, fun inside bracket => ?_⟩
    · rw [Predicate.remaining?, hrest, hother]
      exact Shows.compared hop hread hread' hpiece hpiece' hboolean hsame hsame'
    · rw [wrap_of_whole rfl rfl]
      exact visit_comparison ht hu inside bracket

/-! ## Values -/

/-- Whether the properties of a predicate have truth values on a record, or null. -/
def HasTruthValues (record : FieldReader) : Predicate → Prop
  | .property path _ => ∀ value, Evaluation.readProperty record path = .ok value →
    ∃ known, value = Evaluation.ofTruth known
  | .not operand => HasTruthValues record operand
  | .binary _ left right _ => HasTruthValues record left ∧ HasTruthValues record right
  | _ => True

section Values

variable {schema : RecordType} {record : FieldReader} {q : Predicate} {flagsMatch : FlagsMatch}

/-- The value of a predicate of booleans is a truth value, too. -/
theorem exists_truth (hq : OfBooleans schema q) (hrecord : HasTruthValues record q) {value : Value}
    (h : Evaluation.value flagsMatch record q = .ok value) :
    ∃ known, value = Evaluation.ofTruth known := by
  cases hq with
  | property => exact hrecord value h
  | literal b =>
    cases h
    exact ⟨some b, rfl⟩
  | not =>
    rw [Evaluation.value] at h
    split at h
    · cases h
    · obtain ⟨known, -, hvalue⟩ := Except.map_eq_ok_iff.1 h
      exact ⟨_, hvalue.symm⟩
  | connective op => exact Evaluation.exists_ofTruth_of_connective h
  | equation =>
    rw [Evaluation.value] at h
    split at h
    · cases h
    · cases h
    · obtain ⟨known, -, hvalue⟩ := Except.map_eq_ok_iff.1 h
      exact ⟨some known, hvalue.symm⟩

/-- The literal `true` on either side of a conjunction does not change the value of the other one. -/
theorem value_and_true (hq : OfBooleans schema q) (hrecord : HasTruthValues record q)
    (own type : ValueType) :
    Evaluation.value flagsMatch record
        (.binary (.connective .and) (.constant (.boolean true) own) q type)
      = Evaluation.value flagsMatch record q ∧
    Evaluation.value flagsMatch record
        (.binary (.connective .and) q (.constant (.boolean true) own) type)
      = Evaluation.value flagsMatch record q := by
  cases hvalue : Evaluation.value flagsMatch record q with
  | error error =>
    rw [Evaluation.value, Evaluation.value, Evaluation.value, hvalue]
    exact ⟨rfl, rfl⟩
  | ok value =>
    obtain ⟨known, rfl⟩ := exists_truth hq hrecord hvalue
    simp only [Evaluation.value, hvalue, Evaluation.truth_ofTruth]
    rcases known with _ | _ | _ <;> exact ⟨rfl, rfl⟩

/-- A boolean is not matched as a set of flags. -/
theorem hasFlagsType_of_isBoolean (h : q.type.isBoolean = true) : Evaluation.hasFlagsType q = false := by
  rw [ValueType.isBoolean, decide_eq_true_eq] at h
  unfold Evaluation.hasFlagsType ValueType.enumeration?
  rw [h]
  rfl

/-- Every predicate of booleans has a boolean type. -/
theorem isBoolean_of_ofBooleans (hq : OfBooleans schema q) : q.type.isBoolean = true := by
  cases hq with
  | property _ _ hboolean => exact hboolean
  | literal _ hboolean => exact hboolean
  | _ => rfl

/-- Only a constant is a boolean literal in a predicate of booleans. -/
theorem eq_of_booleanLiteral? (hq : OfBooleans schema q) {b : Bool} (h : q.booleanLiteral? = some b) :
    ∃ type, q = .constant (.boolean b) type := by
  cases hq with
  | literal b =>
    cases h
    exact ⟨_, rfl⟩
  | _ => cases h

/-- Without a conjunction with `false` something remains, and it has the value of the predicate. By
induction on the predicate; how flags are compared does not matter. -/
theorem exists_value_remaining (hq : OfBooleans schema q) (hrecord : HasTruthValues record q)
    (hfalse : q.hasFalseConjunction = false) (flagsMatch other : FlagsMatch) :
    ∃ rest, q.remaining? = some rest ∧ rest.type.isBoolean = true ∧
      Evaluation.value flagsMatch record rest = Evaluation.value other record q := by
  induction hq with
  | property _ _ hboolean => exact ⟨_, rfl, hboolean, rfl⟩
  | literal _ hboolean => exact ⟨_, rfl, hboolean, rfl⟩
  | not _ ih =>
    obtain ⟨rest, hrest, -, hvalue⟩ := ih hrecord hfalse
    refine ⟨.not rest, by rw [Predicate.remaining?, hrest]; rfl, rfl, ?_⟩
    rw [Evaluation.value, Evaluation.value, hvalue]
  | @connective op left right hleft hright ihleft ihright =>
    simp only [Predicate.hasFalseConjunction, Bool.or_eq_false_iff] at hfalse
    obtain ⟨⟨hliterals, hfalseLeft⟩, hfalseRight⟩ := hfalse
    obtain ⟨rest, hrest, hboolean, hvalue⟩ := ihleft hrecord.1 hfalseLeft
    obtain ⟨rest', hrest', hboolean', hvalue'⟩ := ihright hrecord.2 hfalseRight
    rw [Predicate.remaining?, if_neg (by simpa using hliterals)]
    split
    · -- `true` on the left
      rename_i htrue
      obtain ⟨rfl, hliteral⟩ := htrue
      obtain ⟨own, rfl⟩ := eq_of_booleanLiteral? hleft hliteral
      exact ⟨rest', hrest', hboolean', hvalue'.trans (value_and_true hright hrecord.2 own .boolean).1.symm⟩
    · split
      · -- `true` on the right
        rename_i htrue
        obtain ⟨rfl, hliteral⟩ := htrue
        obtain ⟨own, rfl⟩ := eq_of_booleanLiteral? hright hliteral
        exact ⟨rest, hrest, hboolean, hvalue.trans (value_and_true hleft hrecord.1 own .boolean).2.symm⟩
      · rw [hrest, hrest']
        refine ⟨_, rfl, rfl, ?_⟩
        rw [Evaluation.value, Evaluation.value, hvalue, hvalue']
  | @equation op _ left right hleft hright ihleft ihright =>
    simp only [Predicate.hasFalseConjunction, Bool.or_eq_false_iff] at hfalse
    obtain ⟨⟨-, hfalseLeft⟩, hfalseRight⟩ := hfalse
    obtain ⟨rest, hrest, hboolean, hvalue⟩ := ihleft hrecord.1 hfalseLeft
    obtain ⟨rest', hrest', -, hvalue'⟩ := ihright hrecord.2 hfalseRight
    refine ⟨.binary (.comparison op) rest rest' .boolean, by rw [Predicate.remaining?, hrest, hrest']; rfl,
      rfl, ?_⟩
    have hcomparison : ∀ a b, Evaluation.comparison flagsMatch false op a b
        = Evaluation.comparison other false op a b := by
      cases op <;> exact fun _ _ => rfl
    rw [Evaluation.value, Evaluation.value, hvalue, hvalue', hasFlagsType_of_isBoolean hboolean,
      hasFlagsType_of_isBoolean (isBoolean_of_ofBooleans hleft)]
    simp only [hcomparison]

end Values

/-! ## Filters -/

/-- Fields called `true` and `false` would hide the literals. -/
theorem resolvePath?_booleanText_of_field? {schema : RecordType} (htrue : schema.field? "true" = none)
    (hfalse : schema.field? "false" = none) (b : Bool) : schema.resolvePath? (booleanText b) = none := by
  have hname : ∀ {name : String}, Text.trim name.toList = name.toList → '/' ∉ name.toList →
      schema.field? name = none → schema.resolvePath? name.toList = none := by
    intro name htrim hslash hfield
    rw [RecordType.resolvePath?_name schema htrim hslash, hfield]
    rfl
  cases b with
  | true => exact hname (by decide) (by decide) htrue
  | false => exact hname (by decide) (by decide) hfalse

/-- A text that shows what remains of a predicate is compiled to a filter with the outcomes of that. -/
theorem compile_of_showsRemaining {t : Text} {rest : Option Predicate} (h : ShowsRemaining p newGuid t rest) :
    ∃ filter, p.compile newGuid t = .ok filter ∧ ∀ record,
      filter.tryMatches record = (CompiledFilter.mk rest filter.flagsMatch).tryMatches record := by
  cases rest with
  | none =>
    cases h
    have hnone : p.parse newGuid [] = .ok none := by
      rw [parse, parseExpression_of_blank rfl]
    exact ⟨_, Except.map_eq_ok_iff.2 ⟨none, hnone, rfl⟩, fun _ => rfl⟩
  | some rest =>
    obtain ⟨found, hread, hsame⟩ := h.reads
    have hparse := parse_eq_ok_some_iff.2 ⟨hread.read none (by simp), hread.boolean⟩
    refine ⟨_, Except.map_eq_ok_iff.2 ⟨some found, hparse, rfl⟩, fun record => ?_⟩
    simp only [CompiledFilter.tryMatches, hsame p.options.flagsMatch record]

/-- If no field is named `true` or `false`, a predicate of booleans that `keepsBrackets` has a text, from which
a filter is compiled with the outcomes of `remaining?`. Without a conjunction with `false`, these are the
outcomes of the predicate on every record with truth values. -/
theorem tryMatches_render_booleans (p : FilterParser) (newGuid : Guid) (htrue : p.schema.field? "true" = none)
    (hfalse : p.schema.field? "false" = none) {q : Predicate} (hq : OfBooleans p.schema q)
    (hkeeps : q.keepsBrackets = true) :
    ∃ text filter, odata.render q = .ok text ∧ p.compile newGuid text = .ok filter ∧
      (∀ record, filter.tryMatches record
        = (CompiledFilter.mk q.remaining? filter.flagsMatch).tryMatches record) ∧
      (q.hasFalseConjunction = false → ∀ record, HasTruthValues record q → ∀ flagsMatch,
        filter.tryMatches record = (CompiledFilter.mk (some q) flagsMatch).tryMatches record) := by
  obtain ⟨text, hshows, hvisit⟩ :=
    exists_showsRemaining (resolvePath?_booleanText_of_field? htrue hfalse) hq hkeeps
  obtain ⟨filter, hcompile, hmatches⟩ := compile_of_showsRemaining hshows
  refine ⟨text, filter, (render_odata q).trans (hvisit false false), hcompile, hmatches, ?_⟩
  intro hconjunction record hrecord flagsMatch
  obtain ⟨rest, hrest, -, hvalue⟩ :=
    exists_value_remaining hq hrecord hconjunction filter.flagsMatch flagsMatch
  rw [hmatches, hrest]
  simp only [CompiledFilter.tryMatches, hvalue]

/-- The flag of an item. -/
def flag : Predicate :=
  .property ⟨["Flag"]⟩ .boolean

/-- A record with one boolean field. -/
def recordOf (field : String) (b : Bool) : FieldReader :=
  fun name => if name = field then some (.boolean b) else none

/-- A conjunction with `true` as a side of an equation. -/
theorem tryMatches_render_booleans_items :
    ∃ text filter, odata.render (.binary (.comparison .eq)
        (.binary (.connective .and) flag (.constant (.boolean true) .boolean) .boolean)
        (.not (.constant (.boolean false) .boolean)) .boolean) = .ok text ∧
      items.compile .nil text = .ok filter ∧ ∀ b, filter.tryMatches (recordOf "Flag" b) = .ok b := by
  have hplain : IsPlainPath ⟨["Flag"]⟩ :=
    ⟨⟨⟨.of_word (by decide) (by decide), by decide, by decide⟩, by decide, by decide⟩, by decide⟩
  have hflag : OfBooleans items.schema flag := .property hplain rfl rfl
  have hliteral : ∀ b, OfBooleans items.schema (.constant (.boolean b) .boolean) :=
    fun b => .literal b rfl
  have hop : Comparison.eq.isOrdered = false := rfl
  obtain ⟨text, filter, hwritten, hcompile, -, hmatches⟩ :=
    tryMatches_render_booleans items .nil rfl rfl
      (.equation hop (.connective .and hflag (hliteral true)) (.not (hliteral false))) rfl
  refine ⟨text, filter, hwritten, hcompile, fun b => ?_⟩
  rw [hmatches rfl (recordOf "Flag" b) ⟨⟨?_, trivial⟩, trivial⟩ .exact]
  · cases b <;> rfl
  · rintro value ⟨⟩
    exact ⟨some b, rfl⟩

/-- A record type with fields that are called like an operator and a literal. -/
def misnamed : FilterParser where
  schema := ⟨"Misnamed", [("not", .boolean), ("true", .boolean)]⟩

/-- A conjunction with `false` accepts nothing, but has the empty text, which accepts everything. A field
that is called like a literal is read in place of it, and one that is called like an operator is not read. -/
theorem tryMatches_render_false :
    (∃ q filter, q = .binary (.connective .and) flag (.constant (.boolean false) .boolean) .boolean ∧
      odata.render q = .ok [] ∧ items.compile .nil [] = .ok filter ∧
      filter.tryMatches (recordOf "Flag" true) = .ok true ∧
      (CompiledFilter.mk (some q) filter.flagsMatch).tryMatches (recordOf "Flag" true) = .ok false) ∧
    (∃ q filter, q = .constant (.boolean true) .boolean ∧
      odata.render q = .ok "true".toList ∧ misnamed.compile .nil "true".toList = .ok filter ∧
      filter.tryMatches (recordOf "true" false) = .ok false ∧
      (CompiledFilter.mk (some q) filter.flagsMatch).tryMatches (recordOf "true" false) = .ok true) ∧
    (∃ q filter, q = .property ⟨["not"]⟩ .boolean ∧
      odata.render q = .ok "not".toList ∧ misnamed.compile .nil "not".toList = .ok filter ∧
      filter.tryMatches (recordOf "not" false) = .ok true ∧
      (CompiledFilter.mk (some q) filter.flagsMatch).tryMatches (recordOf "not" false) = .ok false) := by
  refine ⟨?_, ?_, ?_⟩
  · have hnothing : ShowsRemaining items .nil [] none := rfl
    obtain ⟨filter, hcompile, hmatches⟩ := compile_of_showsRemaining hnothing
    exact ⟨_, filter, rfl, rfl, hcompile, hmatches _, rfl⟩
  · have hplain : IsPlainPath ⟨["true"]⟩ :=
      ⟨⟨⟨.of_word (by decide) (by decide), by decide, by decide⟩, by decide, by decide⟩, by decide⟩
    have hfield : ShowsRemaining misnamed .nil "true".toList (some (.property ⟨["true"]⟩ .boolean)) :=
      ⟨hplain.text.isOperand.isFilterText, fun _ => hplain.text.isOperand, rfl, _,
        .property hplain rfl rfl, .refl _⟩
    obtain ⟨filter, hcompile, hmatches⟩ := compile_of_showsRemaining hfield
    exact ⟨_, filter, rfl, rfl, hcompile, hmatches _, rfl⟩
  · obtain ⟨filter, hcompile, hnone⟩ : ∃ filter, misnamed.compile .nil "not".toList = .ok filter ∧
        filter.predicate.isNone = true := Except.exists_of_map (by decide +kernel)
    refine ⟨_, filter, rfl, rfl, hcompile, ?_, rfl⟩
    rw [CompiledFilter.tryMatches, Option.isNone_iff_eq_none.1 hnone]

end FilterParser
end RecordFilter
