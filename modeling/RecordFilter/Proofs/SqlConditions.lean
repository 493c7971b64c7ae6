import Mathlib.Data.List.SplitBy
import RecordFilter.Dialect.Sql92
import RecordFilter.Proofs.LiteralParsing

/-!
# Conditions of SQL-92

The conditions that a text of SQL-92 denotes, as far as they compare columns and integers: `NOT` binds
more tightly than `AND`, and `AND` more tightly than `OR`. A condition is true, false or unknown; a
comparison with null is unknown, and a condition selects the rows on which it is true.

The reader goes through the tokens from left to right and keeps what it has read in each bracket that is
still open.
-/

namespace RecordFilter
namespace Sql

/-! ## Conditions and their truth -/

/-- What a condition compares. -/
inductive Operand where
  | column (name : String)
  | number (n : Int)
  | null
deriving DecidableEq, Repr

/-- A condition on a row. -/
inductive Condition where
  | comparison (op : Comparison) (left right : Operand)
  | not (operand : Condition)
  | connective (op : Connective) (left right : Condition)
deriving DecidableEq, Repr

/-- A row: the numbers in its columns, unless they are null. -/
abbrev Row := String → Option Int

/-- The number that an operand stands for, unless it is null. -/
def Operand.value (row : Row) : Operand → Option Int
  | column name => row name
  | number n => some n
  | null => none

/-- Truth with a third value for what is unknown. -/
abbrev Truth := Option Bool

/-- The conjunction, which is known to be false if one side is. -/
def Truth.and : Truth → Truth → Truth
  | some false, _ | _, some false => some false
  | some true, some true => some true
  | _, _ => none

/-- The disjunction, which is known to be true if one side is. -/
def Truth.or : Truth → Truth → Truth
  | some true, _ | _, some true => some true
  | some false, some false => some false
  | _, _ => none

namespace Condition

/-- The truth of a condition on a row. -/
def truth (row : Row) : Condition → Truth
  | comparison op left right =>
    match left.value row, right.value row with
    | some a, some b => some (op.holds (compare a b))
    | _, _ => none
  | not operand => (truth row operand).map (!·)
  | connective .and left right => (truth row left).and (truth row right)
  | connective .or left right => (truth row left).or (truth row right)

/-- Whether a row is selected: what is false or unknown does not count. -/
def selects (c : Condition) (row : Row) : Bool :=
  c.truth row = some true

/-- Whether nothing that is compared is null. -/
def hasValues (row : Row) : Condition → Bool
  | comparison _ left right => (left.value row).isSome && (right.value row).isSome
  | not operand => hasValues row operand
  | connective _ left right => hasValues row left && hasValues row right

/-- Without nulls, nothing is unknown. -/
theorem exists_truth {c : Condition} {row : Row} (h : c.hasValues row = true) :
    ∃ b, c.truth row = some b := by
  induction c with
  | comparison op left right =>
    simp only [hasValues, Bool.and_eq_true, Option.isSome_iff_exists] at h
    obtain ⟨⟨a, ha⟩, ⟨b, hb⟩⟩ := h
    exact ⟨_, by rw [truth, ha, hb]⟩
  | not operand ih =>
    obtain ⟨b, hb⟩ := ih h
    exact ⟨!b, by rw [truth, hb]; rfl⟩
  | connective op left right ihleft ihright =>
    rw [hasValues, Bool.and_eq_true] at h
    obtain ⟨a, ha⟩ := ihleft h.1
    obtain ⟨b, hb⟩ := ihright h.2
    cases op <;> rw [truth, ha, hb] <;> cases a <;> cases b <;> exact ⟨_, rfl⟩

end Condition

/-! ## Tokens -/

/-- A token of a condition. -/
inductive Token where
  | opening
  | closing
  | not
  | connective (op : Connective)
  | comparison (op : Comparison)
  | operand (o : Operand)
deriving DecidableEq, Repr

/-- The words with a meaning of their own. -/
def vocabulary : List (String × Token) :=
  [("(", .opening), (")", .closing), ("NOT", .not), ("AND", .connective .and), ("OR", .connective .or),
    ("NULL", .operand .null), ("=", .comparison .eq), ("<>", .comparison .ne), ("!=", .comparison .ne),
    (">", .comparison .gt), (">=", .comparison .ge), ("<", .comparison .lt), ("<=", .comparison .le)]

/-- Words of conditions that compare other things than numbers. -/
def otherWords : List String :=
  ["TRUE", "FALSE", "UNKNOWN", "IS", "IN", "LIKE", "BETWEEN", "EXISTS"]

/-- Whether a text can be the name of a column. -/
def isColumnName (t : Text) : Bool :=
  isIdentifier t && !Filter.isOneOf (vocabulary.map Prod.fst ++ otherWords) t

/-- The token of a word. The case of letters does not count, other than in the names of columns. -/
def token? (word : Text) : Option Token :=
  match vocabulary.find? fun entry => Text.eqIgnoreCase entry.1.toList word with
  | some entry => some entry.2
  | none =>
    if isColumnName word then some (.operand (.column (String.ofList word)))
    else (Numeral.int64? word).map fun n => .operand (.number n.toInt)

/-- Whether a character belongs to a symbol. -/
def isSymbolChar (c : Char) : Bool :=
  c == '=' || c == '!' || c == '<' || c == '>'

/-- Whether a character stands by itself. -/
def isSeparator (c : Char) : Bool :=
  Text.isBlankChar c || c == '(' || c == ')'

/-- Whether two characters next to each other belong to one word. -/
def together (c d : Char) : Bool :=
  !isSeparator c && !isSeparator d && isSymbolChar c == isSymbolChar d

/-- The tokens of a text; blanks between them do not count. -/
def tokens? (t : Text) : Option (List Token) :=
  ((t.splitBy together).filter fun word => !Text.isBlank word).mapM token?

/-! ## Reading -/

/-- What has been read inside of a bracket: the disjunction before the last `OR`, the conjunction before
the last `AND`, whether there is a `NOT` to be applied, and the last condition. -/
structure Frame where
  disjunction : Option Condition := none
  conjunction : Option Condition := none
  negated : Bool := false
  last : Option Condition := none

namespace Frame

/-- One more condition, behind `NOT` or a connective or at the beginning. -/
def put (f : Frame) (c : Condition) : Option Frame :=
  match f.last with
  | some _ => none
  | none => some { f with negated := false, last := some (if f.negated then .not c else c) }

/-- The conjunction up to here. -/
def product (f : Frame) : Option Condition :=
  f.last.map fun c => f.conjunction.elim c (.connective .and · c)

/-- The disjunction up to here, which is all that has been read. -/
def whole (f : Frame) : Option Condition :=
  f.product.map fun c => f.disjunction.elim c (.connective .or · c)

/-- One more connective, behind a condition. -/
def connect (f : Frame) : Connective → Option Frame
  | .and => f.product.map fun c => { f with conjunction := some c, last := none }
  | .or => f.whole.map fun c => { disjunction := some c }

/-- A `NOT`, which stands in front of a condition and not behind another `NOT`. -/
def negate (f : Frame) : Option Frame :=
  if f.negated || f.last.isSome then none else some { f with negated := true }

end Frame

/-- Reads tokens. The frames are those of the open brackets, from the inside. -/
def readTokens : (outer : List Frame) → Frame → List Token → Option Condition
  | [], f, [] => f.whole
  | outer, f, .operand a :: .comparison op :: .operand b :: rest =>
    (f.put (.comparison op a b)).bind fun f => readTokens outer f rest
  | outer, f, .not :: rest => f.negate.bind fun f => readTokens outer f rest
  | outer, f, .connective op :: rest => (f.connect op).bind fun f => readTokens outer f rest
  | outer, f, .opening :: rest => readTokens (f :: outer) {} rest
  | around :: outer, f, .closing :: rest =>
    f.whole.bind fun c => (around.put c).bind fun f => readTokens outer f rest
  | _, _, _ => none

/-- Reads a text as a condition. -/
def read? (t : Text) : Option Condition :=
  (tokens? t).bind (readTokens [] {})

example : read? "A = 1 OR NOT (B <> 2) AND C <= NULL".toList
    = some (.connective .or (.comparison .eq (.column "A") (.number 1))
      (.connective .and (.not (.comparison .ne (.column "B") (.number 2)))
        (.comparison .le (.column "C") .null))) := by
  decide +kernel

/-! ## Tokens of joined texts -/

/-- A separator does not go together with the character before it. -/
theorem together_separator {c : Char} (h : isSeparator c = true) (d : Char) : together d c = false := by
  simp [together, h]

/-- A separator does not go together with the character behind it. -/
theorem separator_together {c : Char} (h : isSeparator c = true) (d : Char) : together c d = false := by
  simp [together, h]

/-- Texts are read apart if one of the characters between them is a separator. -/
theorem tokens?_append {a b : Text} {ks ls : List Token}
    (hbetween : ∀ c ∈ a.getLast?, ∀ d ∈ b.head?, together c d = false) (ha : tokens? a = some ks)
    (hb : tokens? b = some ls) : tokens? (a ++ b) = some (ks ++ ls) := by
  unfold tokens? at *
  rw [List.splitBy_append hbetween, List.filter_append, List.mapM_append, ha, hb]
  rfl

/-- The tokens of two texts are those of both, if a separator is in between. -/
theorem tokens?_separated {a t : Text} {c : Char} {ks ls : List Token} (hc : isSeparator c = true)
    (ha : tokens? a = some ks) (ht : tokens? (c :: t) = some ls) :
    tokens? (a ++ c :: t) = some (ks ++ ls) := by
  refine tokens?_append (fun d _ e he => ?_) ha ht
  cases he
  exact together_separator hc d

/-- A space in front is no token. -/
theorem tokens?_space {t : Text} {ks : List Token} (ht : tokens? t = some ks) :
    tokens? (' ' :: t) = some ks := by
  have hspace : tokens? [' '] = some [] := by decide
  refine tokens?_append (a := [' ']) (fun c hc d _ => ?_) hspace ht
  cases hc
  exact separator_together rfl d

/-- Parentheses around a text are tokens of their own. -/
theorem tokens?_enclosed {t : Text} {ks : List Token} (ht : tokens? t = some ks) :
    tokens? ('(' :: t ++ [')']) = some (.opening :: ks ++ [.closing]) := by
  have hopening : tokens? ['('] = some [.opening] := by decide
  have hclosing : tokens? [')'] = some [.closing] := by decide
  -- a parenthesis is a separator, so that no word reaches over it on either side
  have hinside : tokens? ('(' :: t) = some (.opening :: ks) := by
    refine tokens?_append (a := ['(']) (fun c hc d _ => ?_) hopening ht
    cases hc
    exact separator_together rfl d
  exact tokens?_separated rfl hinside hclosing

/-- A word of characters of one kind is one token. -/
theorem tokens?_word {w : Text} {k : Token} (symbol : Bool) (hne : w ≠ [])
    (hseparator : ∀ c ∈ w, isSeparator c = false) (hkind : ∀ c ∈ w, isSymbolChar c = symbol)
    (hk : token? w = some k) : tokens? w = some [k] := by
  have htogether : w.IsChain fun c d => together c d = true := by
    refine (List.pairwise_of_forall_mem_list fun c hc d hd => ?_).isChain
    simp [together, hseparator c hc, hseparator d hd, hkind c hc, hkind d hd]
  have hblank : Text.isBlank w = false := by
    obtain ⟨c, t, rfl⟩ := List.exists_cons_of_ne_nil hne
    have hc := hseparator c List.mem_cons_self
    simp only [isSeparator, Bool.or_eq_false_iff] at hc
    simp [Text.isBlank, hc.1.1]
  rw [tokens?, List.splitBy_of_isChain hne htogether, List.filter_cons_of_pos (by simp [hblank]),
    List.filter_nil, List.mapM_cons, hk]
  rfl

/-! ## Tokens of operands -/

/-- What is no blank and no parenthesis does not separate tokens. -/
theorem isSeparator_eq_false {c : Char} (hblank : Text.isBlankChar c = false) (hopening : c ≠ '(')
    (hclosing : c ≠ ')') : isSeparator c = false := by
  simp [isSeparator, hblank, hopening, hclosing]

/-- Symbols have no characters of identifiers. -/
theorem not_isIdentifierChar_of_isSymbolChar {c : Char} (h : isSymbolChar c = true) :
    ¬ isIdentifierChar c = true := by
  simp only [isSymbolChar, Bool.or_eq_true, beq_iff_eq] at h
  rcases h with ((rfl | rfl) | rfl) | rfl <;> decide

/-- The name of a column is one token. -/
theorem tokens?_column {name : String} (h : isColumnName name.toList = true) :
    tokens? name.toList = some [.operand (.column name)] := by
  have hname := h
  simp only [isColumnName, Bool.and_eq_true, Bool.not_eq_true', Filter.isOneOf,
    List.any_append, Bool.or_eq_false_iff, List.any_eq_false] at h
  obtain ⟨hidentifier, hvocabulary, -⟩ := h
  have hnone : vocabulary.find? (fun entry => Text.eqIgnoreCase entry.1.toList name.toList) = none :=
    List.find?_eq_none.2 fun entry hentry => hvocabulary _ (List.mem_map_of_mem hentry)
  have hchar : ∀ c ∈ name.toList, isIdentifierChar c = true := fun _ => isIdentifierChar_of_mem hidentifier
  have hne : ∀ c ∈ name.toList, ∀ d : Char, d.toNat < 48 → c ≠ d :=
    fun c hc d => ne_of_isIdentifierChar (hchar c hc)
  refine tokens?_word false (ne_nil_of_isIdentifier hidentifier) (fun c hc => ?_)
    (fun c hc => ?_) ?_
  · exact isSeparator_eq_false (isBlankChar_of_isIdentifierChar (hchar c hc)) (hne c hc _ (by decide))
      (hne c hc _ (by decide))
  · exact Bool.eq_false_iff.2 fun hsymbol => not_isIdentifierChar_of_isSymbolChar hsymbol (hchar c hc)
  · rw [token?, hnone]
    simp only [hname, if_true, String.ofList_toList]

/-- No word with a meaning of its own has characters of numbers. -/
theorem find?_vocabulary_ofInt (n : Int) :
    vocabulary.find? (fun entry => Text.eqIgnoreCase entry.1.toList (Numeral.ofInt n)) = none := by
  -- the characters of an integer are between `-` and `9`, and the case of letters does not reach there
  have houtside : ∀ entry ∈ vocabulary, ∀ c ∈ entry.1.toList,
      c.toLower.toNat < 45 ∨ 57 < c.toLower.toNat := by decide
  refine List.find?_eq_none.2 fun entry hentry heq => ?_
  obtain ⟨c, hc⟩ := List.exists_mem_of_ne_nil _ (Numeral.ofInt_ne_nil n)
  have hrange := FilterParser.toNat_of_mem_ofInt hc
  have hlower : c ∈ Text.lowerAscii (Numeral.ofInt n) :=
    List.mem_map.2 ⟨c, hc, Text.toLower_eq_self (by omega)⟩
  obtain ⟨d, hd, rfl⟩ := Text.exists_of_eqIgnoreCase heq hlower
  have := houtside entry hentry d hd
  omega

/-- The digits of an integer are no name of a column. -/
theorem isColumnName_ofInt (n : Int) : isColumnName (Numeral.ofInt n) = false := by
  rw [isColumnName, FilterParser.isIdentifier_ofInt]
  rfl

/-- An integer is one token. -/
theorem tokens?_ofInt (n : Int64) :
    tokens? (Numeral.ofInt n.toInt) = some [.operand (.number n.toInt)] := by
  refine tokens?_word false (Numeral.ofInt_ne_nil _) (fun c hc => ?_) (fun c hc => ?_) ?_
  · obtain ⟨-, hopening, hclosing⟩ := FilterParser.plain_of_mem_ofInt hc
    refine isSeparator_eq_false ?_ hopening hclosing
    rcases Numeral.mem_ofInt hc with rfl | hdigit
    · rfl
    · exact Numeral.isBlankChar_of_isDigit hdigit
  · refine Bool.eq_false_iff.2 fun hsymbol => ?_
    simp only [isSymbolChar, Bool.or_eq_true, beq_iff_eq] at hsymbol
    rcases hsymbol with ((rfl | rfl) | rfl) | rfl <;>
      exact FilterParser.not_mem_ofInt (by decide) hc
  · rw [token?, find?_vocabulary_ofInt]
    simp only [isColumnName_ofInt, Numeral.int64?_ofInt, Bool.false_eq_true, if_false, Option.map_some]

/-! ## Tokens of conditions -/

/-- The symbol of a comparison is one token. -/
theorem tokens?_sqlComparison (op : Comparison) :
    tokens? (Dialect.sqlComparison op).toList = some [.comparison op] := by
  cases op <;> decide

/-- The tokens of a comparison are those of its sides and the symbol. -/
theorem tokens?_compared {op : Comparison} {a b : Text} {ks ls : List Token} (ha : tokens? a = some ks)
    (hb : tokens? b = some ls) :
    tokens? (a ++ ' ' :: (Dialect.sqlComparison op).toList ++ ' ' :: b)
      = some (ks ++ .comparison op :: ls) := by
  have hright : tokens? ((Dialect.sqlComparison op).toList ++ ' ' :: b) = some (.comparison op :: ls) :=
    tokens?_separated rfl (tokens?_sqlComparison op) (tokens?_space hb)
  rw [List.append_assoc]
  exact tokens?_separated rfl ha (tokens?_space hright)

/-- The tokens of a negation are those of the condition in parentheses behind `NOT`. -/
theorem tokens?_negated {t : Text} {ks : List Token} (ht : tokens? t = some ks) :
    tokens? ("NOT (".toList ++ t ++ [')']) = some (.not :: (.opening :: ks ++ [.closing])) := by
  have hword : tokens? "NOT".toList = some [.not] := by decide +kernel
  have htext : "NOT (".toList ++ t ++ [')'] = "NOT".toList ++ ' ' :: ('(' :: t ++ [')']) := by simp
  have htokens := tokens?_separated rfl hword (tokens?_space (tokens?_enclosed ht))
  rw [htext]
  exact htokens

/-- The tokens of a connective are those of both conditions, each in parentheses. -/
theorem tokens?_connected {op : Connective} {a b : Text} {ks ls : List Token} (ha : tokens? a = some ks)
    (hb : tokens? b = some ls) :
    tokens? ('(' :: a ++ ") ".toList ++ Dialect.sql92.connective op ++ " (".toList ++ b ++ [')'])
      = some ((.opening :: ks ++ [.closing]) ++ .connective op :: (.opening :: ls ++ [.closing])) := by
  have hword : tokens? (Dialect.sql92.connective op) = some [.connective op] := by
    cases op <;> decide +kernel
  have hright : tokens? (Dialect.sql92.connective op ++ ' ' :: ('(' :: b ++ [')']))
      = some (.connective op :: (.opening :: ls ++ [.closing])) :=
    tokens?_separated rfl hword (tokens?_space (tokens?_enclosed hb))
  have htext : '(' :: a ++ ") ".toList ++ Dialect.sql92.connective op ++ " (".toList ++ b ++ [')']
      = ('(' :: a ++ [')']) ++ ' ' :: (Dialect.sql92.connective op ++ ' ' :: ('(' :: b ++ [')'])) := by
    simp
  rw [htext]
  exact tokens?_separated rfl (tokens?_enclosed ha) (tokens?_space hright)

end Sql
end RecordFilter
