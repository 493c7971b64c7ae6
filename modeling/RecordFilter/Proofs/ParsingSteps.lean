import RecordFilter.Proofs.Parsing
import RecordFilter.Proofs.RelatedParsing

/-!
# Why parsing ends

The parser reads a text by reading texts inside of it, and it looks for the first property of a text by looking
for one in texts inside of it. Such a part is a side of a token set, what is between outer parentheses, or an
argument of a call or a construction. Each of them is shorter than the trimmed text, whatever the text is. So no
chain of parts has more steps than the text has characters, and one level of reading more than that is always
enough.

The parts of a text are listed here apart from the parser (`Part`), and so is what a task leads to
(`Task.Needs`). That the list is complete is a statement of its own: the answer for a text only depends on the
answers for the texts in the list.

Main statement: `parsing_ends`.
-/

namespace RecordFilter
namespace FilterParser

open RecordFilter.Filter
open Except (Related)

/-! ## Parts are shorter -/

/-- The arguments that `splitLastArgument` takes out of a call are shorter than the call. -/
theorem length_functionCall?_parts {t name arguments : Text}
    (h : Filter.functionCall? t = some (name, arguments)) :
    (splitLastArgument arguments).1.length < t.length ∧
      ∀ second ∈ (splitLastArgument arguments).2, second.length < t.length := by
  have hcall := length_functionCall? h
  obtain ⟨hfirst, hsecond⟩ := length_splitLastArgument_le arguments
  exact ⟨Nat.lt_of_le_of_lt hfirst hcall, fun second hmem => Nat.lt_of_le_of_lt (hsecond second hmem) hcall⟩

/-- The arguments that `splitArguments` takes out of a construction are shorter than it. -/
theorem length_construction?_parts {t name arguments argument : Text}
    (h : Filter.construction? t = some (name, arguments)) (hargument : argument ∈ splitArguments arguments) :
    argument.length < t.length :=
  Nat.lt_of_le_of_lt (length_splitArguments_le hargument) (length_construction? h)

/-- Every part is shorter than the text. -/
theorem Part.length_lt {t u : Text} (h : Part t u) : u.length < t.length := by
  cases h with
  | left h => exact Nat.lt_of_lt_of_le (tokenize_sides_lt h).1 (Text.length_trim_le t)
  | right h => exact Nat.lt_of_lt_of_le (tokenize_sides_lt h).2 (Text.length_trim_le t)
  | inside h => exact length_stripEnclosing?_lt h
  | first h => exact (length_functionCall?_parts h).1
  | @second _ arguments h =>
    cases hsecond : (splitLastArgument arguments).2 with
    | none => exact Nat.zero_lt_of_lt (length_functionCall? h)
    | some second => exact (length_functionCall?_parts h).2 second hsecond
  | argument h hargument => exact length_construction?_parts h hargument

/-! ## Tasks -/

/-- What the parser is about to do: read a text as an expression, or look for the first property in it. -/
inductive Task where
  | read (t : Text)
  | search (t : Text)

/-- What else is done for a task. A text is read by reading its parts. Literals in it take their type from
properties in its parts, and the text itself may be one. A property is looked for in the parts, too. -/
inductive Task.Needs : Task → Task → Prop
  | read {t u : Text} (h : Part (Text.trim t) u) : Needs (.read t) (.read u)
  | scope {t u : Text} (h : Part (Text.trim t) u) : Needs (.read t) (.search u)
  | property (t : Text) : Needs (.read t) (.search (Text.trim t))
  | search {t u : Text} (h : Part (Text.trim t) u) : Needs (.search t) (.search u)

/-- The length of the trimmed text, and for the same length the search, which needs no reading, counts less. -/
def Task.size : Task → Nat
  | .read t => 2 * (Text.trim t).length + 1
  | .search t => 2 * (Text.trim t).length

/-- A part of a trimmed text is shorter, also after trimming. -/
theorem length_trim_part {t u : Text} (h : Part (Text.trim t) u) :
    (Text.trim u).length < (Text.trim t).length :=
  Nat.lt_of_le_of_lt (Text.length_trim_le u) h.length_lt

/-- `Task.size` decreases along `Task.Needs`. -/
theorem Task.Needs.size_lt {task other : Task} (h : task.Needs other) : other.size < task.size := by
  cases h with
  | read h | scope h | search h =>
    have := length_trim_part h
    simp only [size]
    omega
  | property t =>
    simp only [size, Text.trim_trim]
    omega

/-- No task needs others without end. -/
theorem wellFounded_needs : WellFounded fun other task : Task => task.Needs other :=
  Subrelation.wf Task.Needs.size_lt (InvImage.wf Task.size Nat.lt_wfRel.wf)

/-! ## One level at a time -/

/-- Reads a text, given how the texts in it are read. -/
def readOnce (p : FilterParser) (newGuid : Guid) (read : Text → Option ValueType → Outcome) (t : Text)
    (expected : Option ValueType) : Outcome :=
  parseTrimmed p newGuid (Text.trim t) (fun u _ => read u) expected

/-- Looks for the first property of a text, given what is found in the texts in it. -/
def searchOnce (schema : RecordType) (search : Text → Option (PropertyPath × ValueType)) (token : Text) :
    Option (PropertyPath × ValueType) :=
  let t := Text.trim token
  let path := (stripEnclosing? t).getD t
  if t.isEmpty then none
  else if isImpliedBoolean t then schema.resolvePath? path
  else
    match tokenize t with
    | [] => schema.resolvePath? path
    | first :: _ => (search first.left).or (search first.right)

/-- The parser is `readOnce` with itself for the texts inside. -/
theorem parseExpression_eq_readOnce (p : FilterParser) (newGuid : Guid) :
    p.parseExpression newGuid = p.readOnce newGuid (p.parseExpression newGuid) :=
  funext fun t => funext fun expected => parseExpression_eq p newGuid t expected

/-- The search for a property is `searchOnce` with itself for the texts inside. -/
theorem firstProperty?_eq_searchOnce (schema : RecordType) :
    firstProperty? schema = searchOnce schema (firstProperty? schema) := by
  funext token
  rw [firstProperty?, searchOnce]
  -- the sets are matched with the equation that the recursion needs, so both matches are taken apart
  refine ite_congr rfl (fun _ => rfl) fun _ => ite_congr rfl (fun _ => rfl) fun _ => ?_
  split <;> (rename_i hsets; simp only [hsets])

/-- What a text is read as only depends on what it leads to. -/
theorem readOnce_congr {p : FilterParser} {newGuid : Guid} {other : RecordType}
    {read read' : Text → Option ValueType → Outcome}
    {t : Text} (hread : ∀ u, Task.Needs (.read t) (.read u) → read u = read' u)
    (hsearch : ∀ u, Task.Needs (.read t) (.search u) → firstProperty? p.schema u = firstProperty? other u) :
    p.readOnce newGuid read t = { p with schema := other }.readOnce newGuid read' t := by
  have hrelated : RelatedOn Eq (n := (Text.trim t).length) (Part (Text.trim t))
      (fun u _ => read u) fun u _ => read' u :=
    fun u _ expected hu => by
      dsimp only
      rw [hread u (.read hu)]
      exact .refl (Option.Rel.refl fun _ => rfl) _
  funext expected
  have hlevel : Related (Option.Rel Eq) (p.readOnce newGuid read t expected)
      ({ p with schema := other }.readOnce newGuid read' t expected) :=
    hrelated.parseTrimmed Predicate.isCongruence_eq (fun u hu => hsearch u (.scope hu))
      (hsearch _ (.property t))
      fun _ _ => rfl
  exact (hlevel.mono fun _ _ => Option.Rel.eq).eq

/-- The first property of a text only depends on what the search leads to. -/
theorem searchOnce_congr {schema : RecordType} {search search' : Text → Option (PropertyPath × ValueType)}
    {t : Text} (h : ∀ u, Task.Needs (.search t) (.search u) → search u = search' u) :
    searchOnce schema search t = searchOnce schema search' t := by
  simp only [searchOnce]
  refine ite_congr rfl (fun _ => rfl) fun _ => ite_congr rfl (fun _ => rfl) fun _ => ?_
  cases hsets : tokenize (Text.trim t) with
  | nil => rfl
  | cons first rest =>
    have hfirst : first ∈ tokenize (Text.trim t) := by rw [hsets]; exact List.mem_cons_self
    simp only [h _ (.search (.left hfirst)), h _ (.search (.right hfirst))]

/-! ## Bounded depth -/

/-- Reads a text through a number of levels. What is deeper inside is read by `beyond`. -/
def readWithin (p : FilterParser) (newGuid : Guid) (beyond : Text → Option ValueType → Outcome) :
    Nat → Text → Option ValueType → Outcome
  | 0 => beyond
  | depth + 1 => p.readOnce newGuid (readWithin p newGuid beyond depth)

/-- Looks for the first property through a number of levels. -/
def searchWithin (schema : RecordType) (beyond : Text → Option (PropertyPath × ValueType)) :
    Nat → Text → Option (PropertyPath × ValueType)
  | 0 => beyond
  | depth + 1 => searchOnce schema (searchWithin schema beyond depth)

/-- Reading leads to reading shorter text. -/
theorem Task.Needs.read_lt {t u : Text} (h : Task.Needs (.read t) (.read u)) :
    (Text.trim u).length < (Text.trim t).length := by
  cases h with
  | read h => exact length_trim_part h

/-- Searching leads to searching shorter text. -/
theorem Task.Needs.search_lt {t u : Text} (h : Task.Needs (.search t) (.search u)) :
    (Text.trim u).length < (Text.trim t).length := by
  cases h with
  | search h => exact length_trim_part h

/-- More levels than the text has characters are enough. By induction on the levels: what a text leads to is
shorter, and so it is read right with one level less. -/
theorem readWithin_eq (p : FilterParser) (newGuid : Guid) (beyond : Text → Option ValueType → Outcome)
    {depth : Nat} {t : Text}
    (h : (Text.trim t).length < depth) : p.readWithin newGuid beyond depth t = p.parseExpression newGuid t := by
  induction depth generalizing t with
  | zero => exact absurd h (Nat.not_lt_zero _)
  | succ depth ih =>
    have hshorter : ∀ u, Task.Needs (.read t) (.read u) →
        p.readWithin newGuid beyond depth u = p.parseExpression newGuid u :=
      fun u hu => ih (Nat.lt_of_lt_of_le hu.read_lt (Nat.le_of_lt_succ h))
    have hlevel : p.readOnce newGuid (p.readWithin newGuid beyond depth) t
        = { p with schema := p.schema }.readOnce newGuid (p.parseExpression newGuid) t :=
      readOnce_congr hshorter fun _ _ => rfl
    rw [parseExpression_eq_readOnce, readWithin]
    exact hlevel

/-- More levels than the text has characters are enough for the search, too, again by induction on the
levels. -/
theorem searchWithin_eq (schema : RecordType) (beyond : Text → Option (PropertyPath × ValueType)) {depth : Nat}
    {t : Text} (h : (Text.trim t).length < depth) :
    searchWithin schema beyond depth t = firstProperty? schema t := by
  induction depth generalizing t with
  | zero => exact absurd h (Nat.not_lt_zero _)
  | succ depth ih =>
    rw [firstProperty?_eq_searchOnce, searchWithin]
    refine searchOnce_congr fun u hu => ih ?_
    exact Nat.lt_of_lt_of_le hu.search_lt (Nat.le_of_lt_succ h)

/-! ## Parsing ends -/

/-- What is taken out of a text is shorter: sides of token sets, what is between outer parentheses, and
arguments. -/
structure PartsShorter : Prop where
  sides : ∀ t, ∀ set ∈ tokenize t,
    set.left.length < (Text.trim t).length ∧ set.right.length < (Text.trim t).length
  inside : ∀ t, ∀ inside ∈ stripEnclosing? t, inside.length < t.length
  call : ∀ t name arguments, Filter.functionCall? t = some (name, arguments) →
    (splitLastArgument arguments).1.length < t.length ∧
      ∀ second ∈ (splitLastArgument arguments).2, second.length < t.length
  construction : ∀ t name arguments, Filter.construction? t = some (name, arguments) →
    ∀ argument ∈ splitArguments arguments, argument.length < t.length

theorem partsShorter : PartsShorter where
  sides _ _ hset := tokenize_sides_lt hset
  inside _ _ h := length_stripEnclosing?_lt h
  call _ _ _ h := length_functionCall?_parts h
  construction _ _ _ h _ hargument := length_construction?_parts h hargument

/-- What a task leads to is about shorter text. The one exception is that reading a text also searches the
trimmed text itself, which is no recursion: a search never leads to reading. -/
structure NeedsShorter : Prop where
  same : ∀ t u, Task.Needs (.read t) (.read u) ∨ Task.Needs (.search t) (.search u) →
    (Text.trim u).length < (Text.trim t).length
  search : ∀ t u, Task.Needs (.read t) (.search u) →
    u = Text.trim t ∨ (Text.trim u).length < (Text.trim t).length
  noRead : ∀ t u, ¬ Task.Needs (.search t) (.read u)
  wellFounded : WellFounded fun other task : Task => task.Needs other

theorem needsShorter : NeedsShorter where
  same _ _ h := h.elim Task.Needs.read_lt Task.Needs.search_lt
  search t u h := by
    cases h with
    | scope h => exact .inr (length_trim_part h)
    | property => exact .inl rfl
  noRead := nofun
  wellFounded := wellFounded_needs

/-- The parser is a single level repeated, and a level only depends on what the text leads to. -/
structure RepeatsLevels (p : FilterParser) (newGuid : Guid) : Prop where
  read : p.parseExpression newGuid = p.readOnce newGuid (p.parseExpression newGuid)
  search : firstProperty? p.schema = searchOnce p.schema (firstProperty? p.schema)
  read_congr : ∀ (read read' : Text → Option ValueType → Outcome) (other : RecordType) (t : Text),
    (∀ u, Task.Needs (.read t) (.read u) → read u = read' u) →
    (∀ u, Task.Needs (.read t) (.search u) → firstProperty? p.schema u = firstProperty? other u) →
    p.readOnce newGuid read t = { p with schema := other }.readOnce newGuid read' t
  search_congr : ∀ (search search' : Text → Option (PropertyPath × ValueType)) (t : Text),
    (∀ u, Task.Needs (.search t) (.search u) → search u = search' u) →
    searchOnce p.schema search t = searchOnce p.schema search' t

theorem repeatsLevels (p : FilterParser) (newGuid : Guid) : p.RepeatsLevels newGuid where
  read := parseExpression_eq_readOnce p newGuid
  search := firstProperty?_eq_searchOnce p.schema
  read_congr _ _ _ _ := readOnce_congr
  search_congr _ _ _ := searchOnce_congr

/-- One level more than the trimmed text has characters is enough, whatever is answered deeper inside. -/
structure EnoughLevels (p : FilterParser) (newGuid : Guid) : Prop where
  read : ∀ beyond depth t, (Text.trim t).length < depth →
    p.readWithin newGuid beyond depth t = p.parseExpression newGuid t
  search : ∀ beyond depth t, (Text.trim t).length < depth →
    searchWithin p.schema beyond depth t = firstProperty? p.schema t

theorem enoughLevels (p : FilterParser) (newGuid : Guid) : p.EnoughLevels newGuid where
  read beyond _ _ := readWithin_eq p newGuid beyond
  search beyond _ _ := searchWithin_eq p.schema beyond

/-- Parsing a text comes to an end, whatever the text is: its parts are shorter (`PartsShorter`), so every task
leads to shorter ones (`NeedsShorter`); the parser does these tasks and no others (`RepeatsLevels`), and so the
answer is there after one level more than the text has characters (`EnoughLevels`). -/
theorem parsing_ends (p : FilterParser) (newGuid : Guid) :
    PartsShorter ∧ NeedsShorter ∧ p.RepeatsLevels newGuid ∧ p.EnoughLevels newGuid :=
  ⟨partsShorter, needsShorter, repeatsLevels p newGuid, enoughLevels p newGuid⟩

/-- A parenthesis that is never closed is read within sixteen levels, and the negation in front of it leads to
shorter text. -/
theorem parsing_ends_unclosed :
    let p : FilterParser := { schema := ⟨"Item", [("Id", .int32)]⟩ }
    let t := "not (Id eq 1 or ".toList
    let set : TokenSet := ⟨[], "not".toList, "(Id eq 1 or".toList⟩
    set ∈ tokenize t ∧ set.right.length < (Text.trim t).length ∧ (Text.trim t).length < 16 ∧
      p.readWithin .nil (fun _ _ => .ok none) 16 t = p.parseExpression .nil t := by
  intro p t set
  have hset : set ∈ tokenize t := by decide
  have hlength : (Text.trim t).length < 16 := by decide
  obtain ⟨hparts, -, -, henough⟩ := parsing_ends p .nil
  exact ⟨hset, (hparts.sides t set hset).2, hlength, henough.read _ 16 t hlength⟩

end FilterParser
end RecordFilter
