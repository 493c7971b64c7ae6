import RecordFilter.Proofs.Grouping
import RecordFilter.Proofs.OperatorPlaces

/-!
# The case of operator words

Operators are recognised in any case, with one exception: a text that begins with a string match is looked
through for operators in lower case only, so that `startswith(Name, 'a') eq true` is a comparison and
`startswith(Name, 'a') EQ true` is a literal. Besides, a literal that is not quoted can hold operator words,
which are part of its value.

Where neither is the case (`ShowsOperators`), two filters that differ in the case of their operator words
are read alike.

Main statement: `parse_eq_ok_iff_of_lowerOperators`.
-/

namespace RecordFilter
namespace FilterParser

open RecordFilter.Filter

variable {p : FilterParser} {newGuid : Guid} {t : Text}

/-! ## Scopes -/

theorem tokenize_eq_nil_of_divide (h : divide t = []) : tokenize t = [] := by
  rw [tokenize_eq_divide, h]
  split <;> rfl

theorem firstProperty?_trim (schema : RecordType) (t : Text) :
    firstProperty? schema (Text.trim t) = firstProperty? schema t :=
  firstProperty?_congr schema (Text.trim_trim t)

/-- The first property of a text that is not divided is its `core`, where that resolves. -/
theorem firstProperty?_of_divide_nil (schema : RecordType) (hne : Text.trim t ≠ []) (h : divide t = []) :
    firstProperty? schema t = schema.resolvePath? (core t) := by
  have hsets := tokenize_eq_nil_of_divide h
  rw [← tokenize_trim] at hsets
  rw [← firstProperty?_trim, firstProperty?_of_nil schema (Text.IsTrimmed.of_trim hne) hsets]
  rfl

/-- The first property of a divided text is found in the sides of its first token set. -/
theorem firstProperty?_of_divide_cons (schema : RecordType) {set : TokenSet} {sets : List TokenSet}
    (himplied : isImpliedBoolean (core t) = false) (h : divide t = set :: sets) :
    firstProperty? schema t
      = (firstProperty? schema set.left).or (firstProperty? schema set.right) := by
  have hsets : tokenize (Text.trim t) = set :: sets := by
    rw [tokenize_trim, tokenize_eq_divide, himplied, h]
    rfl
  have hne : Text.trim t ≠ [] := by
    intro hnil
    rw [hnil] at hsets
    cases hsets
  -- a text in parentheses is no string match
  have hwhole : isImpliedBoolean (Text.trim t) = false := by
    cases hstrip : stripEnclosing? (Text.trim t) with
    | none =>
      rw [core, hstrip] at himplied
      exact himplied
    | some inside =>
      obtain ⟨inner, htext, hinner, -⟩ := stripEnclosing?_eq_some_iff.1 hstrip
      rw [htext]
      exact isImpliedBoolean_enclosed hinner
  rw [← firstProperty?_trim, firstProperty?_of_cons schema (Text.IsTrimmed.of_trim hne) hwhole hsets]

theorem firstProperty?_of_blank (schema : RecordType) (h : Text.trim t = []) :
    firstProperty? schema t = none := by
  rw [← firstProperty?_trim, h, firstProperty?_nil]

/-- Without token sets, no text with parentheses is the name of a property. -/
theorem firstProperty?_lowerOperators_of_nil {schema : RecordType} (hnamed : schema.isWellNamed = true)
    (h : ShowsOperators t) (hnil : divide t = []) :
    firstProperty? schema (lowerOperators t) = firstProperty? schema t := by
  have hlower : divide (lowerOperators t) = [] := by
    rw [divide_lowerOperators, hnil]
    rfl
  by_cases hblank : Text.trim t = []
  · have hblank' : Text.trim (lowerOperators t) = [] := by
      rw [trim_lowerOperators, hblank]
      rfl
    rw [firstProperty?_of_blank schema hblank, firstProperty?_of_blank schema hblank']
  · have hne : Text.trim (lowerOperators t) ≠ [] := by
      rw [trim_lowerOperators]
      exact fun hempty => hblank (by simpa using congrArg List.length hempty)
    rw [firstProperty?_of_divide_nil schema hblank hnil, firstProperty?_of_divide_nil schema hne hlower,
      core_lowerOperators]
    rcases h.mem_core hnil with hsame | hmem
    · rw [hsame]
    · have hnone : ∀ u : Text, '(' ∈ u → schema.resolvePath? u = none := fun u hu =>
        RecordType.resolvePath?_eq_none_of_mem hnamed hu (by decide) (by decide) (by decide)
      rw [hnone _ hmem, hnone _ (mem_of_lowerAscii rfl (lowerAscii_lowerOperators _) hmem)]

/-- The first property is the same one. -/
theorem firstProperty?_lowerOperators {schema : RecordType} (hnamed : schema.isWellNamed = true)
    (h : ShowsOperators t) : firstProperty? schema (lowerOperators t) = firstProperty? schema t := by
  induction h with
  | lower h => rw [h]
  | @sets t hne himplied hleft hright ihleft ihright =>
    obtain ⟨set, sets, hsets⟩ := List.exists_cons_of_ne_nil hne
    have hmem : set ∈ divide t := by
      rw [hsets]
      exact List.mem_cons_self
    have hlower : divide (lowerOperators t) = lowerSet set :: sets.map lowerSet := by
      rw [divide_lowerOperators, hsets]
      rfl
    rw [firstProperty?_of_divide_cons schema himplied hsets,
      firstProperty?_of_divide_cons schema (isImpliedBoolean_lowerOperators hne) hlower, lowerSet,
      ihleft set hmem, ihright set hmem]
  | enclosed hnil hstrip h => exact firstProperty?_lowerOperators_of_nil hnamed (.enclosed hnil hstrip h) hnil
  | call hnil hcall hname hnew hfirst hsecond =>
    exact firstProperty?_lowerOperators_of_nil hnamed (.call hnil hcall hname hnew hfirst hsecond) hnil
  | construction hnil hcall hname hlower hblank harguments =>
    exact firstProperty?_lowerOperators_of_nil hnamed
      (.construction hnil hcall hname hlower hblank harguments) hnil

/-! ## Token sets -/

section Alike

variable {expected : Option ValueType}

/-- Two texts that are read alike wherever they stand. -/
def SameReading (p : FilterParser) (newGuid : Guid) (t u : Text) : Prop :=
  ∀ expected, SameResult (p.parseExpression newGuid t expected) (p.parseExpression newGuid u expected)

/-- A token set with sides that show their operators is read as the lowered one. -/
theorem readAlike_lowerSet (hnamed : p.schema.isWellNamed = true) {set : TokenSet}
    (hleft : ShowsOperators set.left) (hright : ShowsOperators set.right)
    (hsameLeft : SameReading p newGuid (lowerOperators set.left) set.left)
    (hsameRight : SameReading p newGuid (lowerOperators set.right) set.right) :
    ReadAlike p newGuid (lowerSet set) set where
  operation := Text.lowerAscii_lowerAscii set.operation
  isBlankLeft := isBlank_lowerOperators set.left
  isBlankRight := isBlank_lowerOperators set.right
  scope := scopeType?_eq_of_firstProperty?
    (isOneOf_congr_of_lowerAscii _ (Text.lowerAscii_lowerAscii set.operation))
    (firstProperty?_lowerOperators hnamed hleft) (firstProperty?_lowerOperators hnamed hright)
  left := hsameLeft
  right := hsameRight

/-! ## Calls -/

theorem ofName?_lowerOperators (name : Text) :
    Function.ofName? (lowerOperators name) = Function.ofName? name := by
  unfold Function.ofName? Text.eqIgnoreCase
  rw [trim_lowerOperators, lowerAscii_lowerOperators]

/-- A call whose arguments are read alike. -/
theorem functionCall?_of_alike {t u name other arguments others : Text} {q : Predicate}
    (ht : Filter.functionCall? t = some (name, arguments))
    (hu : Filter.functionCall? u = some (other, others))
    (hname : Function.ofName? name = Function.ofName? other)
    (hscope : scopeType? p.schema ⟨(splitLastArgument arguments).1, name,
        (splitLastArgument arguments).2.getD []⟩
      = scopeType? p.schema ⟨(splitLastArgument others).1, other, (splitLastArgument others).2.getD []⟩)
    (hfirst : SameReading p newGuid (splitLastArgument arguments).1 (splitLastArgument others).1)
    (hsecond : Option.Rel (SameReading p newGuid) (splitLastArgument arguments).2 (splitLastArgument others).2)
    (h : functionCall? p.schema t (p.inner newGuid t.length) expected = some (.ok q)) :
    functionCall? p.schema u (p.inner newGuid u.length) expected = some (.ok q) := by
  obtain ⟨_, _, function, a, rest, hcall, hfunction, ⟨_, ha⟩, hrest, happly⟩ := exists_of_functionCall h
  rw [ht] at hcall
  cases hcall
  refine functionCall?_of_arguments hu (hname.symm.trans hfunction) (fun _ => ?_) ?_ happly
  · rw [← hscope]
    exact (hfirst _ _).1 ha
  · generalize (splitLastArgument arguments).2 = second at hsecond hrest
    generalize (splitLastArgument others).2 = second' at hsecond
    cases hsecond with
    | none =>
      obtain ⟨-, hrest⟩ | ⟨_, _, _, hsome, -⟩ := hrest
      · exact .inl ⟨rfl, hrest⟩
      · cases hsome
    | some hsame =>
      obtain ⟨hnone, -⟩ | ⟨second, b, _, hsome, hb, hrest⟩ := hrest
      · cases hnone
      · cases hsome
        exact .inr ⟨_, b, rfl, fun _ => (hsame _ _).1 hb, hrest⟩

theorem SameReading.symm {t u : Text} (h : SameReading p newGuid t u) : SameReading p newGuid u t :=
  fun expected => (h expected).symm

/-- A function call is accepted as the lowered one, if its arguments are. -/
theorem functionCall?_lowerOperators_iff (hnamed : p.schema.isWellNamed = true) {t name arguments : Text}
    {q : Predicate} (hcall : Filter.functionCall? t = some (name, arguments))
    (hname : ∀ c ∈ name, Nesting.isQuote c = false)
    (hfirst : ShowsOperators (splitLastArgument arguments).1)
    (hsecond : ∀ second, (splitLastArgument arguments).2 = some second → ShowsOperators second)
    (hsame : SameReading p newGuid (lowerOperators (splitLastArgument arguments).1)
      (splitLastArgument arguments).1)
    (hothers : ∀ second, (splitLastArgument arguments).2 = some second →
      SameReading p newGuid (lowerOperators second) second) :
    functionCall? p.schema (lowerOperators t) (p.inner newGuid (lowerOperators t).length) expected
        = some (.ok q) ↔
      functionCall? p.schema t (p.inner newGuid t.length) expected = some (.ok q) := by
  have hlower := functionCall?_lowerOperators hcall hname
  have hsplit := splitLastArgument_lowerOperators arguments
  have hscope : scopeType? p.schema ⟨(splitLastArgument (lowerOperators arguments)).1, lowerOperators name,
        (splitLastArgument (lowerOperators arguments)).2.getD []⟩
      = scopeType? p.schema
        ⟨(splitLastArgument arguments).1, name, (splitLastArgument arguments).2.getD []⟩ := by
    rw [hsplit]
    refine scopeType?_eq_of_firstProperty?
      (isOneOf_congr_of_lowerAscii _ (lowerAscii_lowerOperators name))
      (firstProperty?_lowerOperators hnamed hfirst) ?_
    cases hopt : (splitLastArgument arguments).2 with
    | none => rfl
    | some second => exact firstProperty?_lowerOperators hnamed (hsecond second hopt)
  have hrel : Option.Rel (SameReading p newGuid) (splitLastArgument (lowerOperators arguments)).2
      (splitLastArgument arguments).2 := by
    rw [hsplit]
    cases hopt : (splitLastArgument arguments).2 with
    | none => exact .none
    | some second => exact .some (hothers second hopt)
  have hsymm : ∀ {x y : Option Text}, Option.Rel (SameReading p newGuid) x y →
      Option.Rel (SameReading p newGuid) y x := by
    intro x y h
    cases h with
    | none => exact .none
    | some h => exact .some h.symm
  have hfirstSame : SameReading p newGuid (splitLastArgument (lowerOperators arguments)).1
      (splitLastArgument arguments).1 := by
    rw [hsplit]
    exact hsame
  exact ⟨functionCall?_of_alike hlower hcall (ofName?_lowerOperators name) hscope hfirstSame hrel,
    functionCall?_of_alike hcall hlower (ofName?_lowerOperators name).symm hscope.symm hfirstSame.symm
      (hsymm hrel)⟩

/-- A text that is neither in quotes nor a construction is read as the call that it is. -/
theorem atom_of_call {t : Text} (hquoted : quoted? t = none) (hnew : Filter.construction? t = none)
    {name arguments : Text} (hcall : Filter.functionCall? t = some (name, arguments)) {q : Predicate} :
    atom p newGuid t (p.inner newGuid t.length) expected = .ok q ↔
      functionCall? p.schema t (p.inner newGuid t.length) expected = some (.ok q) := by
  unfold atom
  simp only [hquoted, construction?_eq_none hnew]
  cases hread : functionCall? p.schema t (p.inner newGuid t.length) expected with
  | none =>
    rw [functionCall?_eq_none_iff.1 hread] at hcall
    cases hcall
  | some result => simp

/-! ## Constructions -/

/-- The arguments of a constructor are read one by one, each at the type of its parameter. -/
theorem constructorArguments_cons_eq_ok_iff {n : Nat} {token : Text} {tokens : List Text} {h}
    {parameter : ValueType} {parameters : List ValueType} {found : List Predicate} :
    constructorArguments (p.inner newGuid n) (token :: tokens) h (parameter :: parameters) = .ok found ↔
      ∃ argument rest, p.parseExpression newGuid token (some parameter) = .ok (some argument) ∧
        argument.type.isCompatibleWith parameter = true ∧
        constructorArguments (p.inner newGuid n) tokens
          (fun other hother => h other (List.mem_cons_of_mem token hother)) parameters = .ok rest ∧
        argument :: rest = found := by
  have hrequired : ∀ argument, required (p.inner newGuid n) token (h token List.mem_cons_self) (some parameter)
      = .ok argument ↔ p.parseExpression newGuid token (some parameter) = .ok (some argument) :=
    fun _ => required_eq_ok_iff
  simp only [← hrequired, constructorArguments]
  cases required (p.inner newGuid n) token (h token List.mem_cons_self) (some parameter) with
  | error error => simp
  | ok argument =>
    simp only [Except.ok.injEq, exists_and_left, exists_eq_left']
    split
    · rename_i hcompatible
      simp only [hcompatible, true_and, Except.map_eq_ok_iff]
    · rename_i hcompatible
      simp [hcompatible]

/-- By induction on the arguments. -/
theorem constructorArguments_congr {n m : Nat} {tokens others : List Text}
    (hsame : List.Forall₂ (SameReading p newGuid) tokens others) : ∀ {h h'} {parameters : List ValueType}
      {found : List Predicate},
      constructorArguments (p.inner newGuid n) tokens h parameters = .ok found ↔
        constructorArguments (p.inner newGuid m) others h' parameters = .ok found := by
  induction hsame with
  | nil =>
    intro h h' parameters found
    rfl
  | @cons token other tokens others htoken _ ih =>
    intro h h' parameters found
    cases parameters with
    | nil => rfl
    | cons parameter parameters =>
      rw [constructorArguments_cons_eq_ok_iff, constructorArguments_cons_eq_ok_iff]
      exact exists_congr fun argument => exists_congr fun rest =>
        and_congr (htoken _ _) (and_congr_right fun _ => and_congr_left fun _ => ih)

/-- The constructor that is found depends on the readings of the arguments only. -/
theorem firstConstruction?_congr {n m : Nat} {tokens others : List Text}
    (hsame : List.Forall₂ (SameReading p newGuid) tokens others) {h h'} (type : ValueType)
    (constructors : List Constructor) :
    firstConstruction? (p.inner newGuid n) tokens h type constructors
      = firstConstruction? (p.inner newGuid m) others h' type constructors := by
  unfold firstConstruction?
  congr 1
  funext constructor
  rw [hsame.length_eq]
  have hfound : ∀ found, constructorArguments (p.inner newGuid n) tokens h constructor.parameters = .ok found ↔
      constructorArguments (p.inner newGuid m) others h' constructor.parameters = .ok found :=
    fun _ => constructorArguments_congr hsame
  cases ht : constructorArguments (p.inner newGuid n) tokens h constructor.parameters with
  | ok found => rw [(hfound found).1 ht]
  | error error =>
    cases hu : constructorArguments (p.inner newGuid m) others h' constructor.parameters with
    | ok found =>
      rw [(hfound found).2 hu] at ht
      cases ht
    | error other => rfl

theorem construction?_of_some {registry : TypeRegistry} {t name arguments : Text} {parse : Operand t.length}
    (ht : Filter.construction? t = some (name, arguments))
    (h : ∀ token ∈ splitArguments arguments, token.length < t.length) :
    construction? registry t parse expected = (registry.lookup? name).bind fun entry =>
      expected.bind fun type =>
        if entry.type.underlying = type.underlying then
          firstConstruction? parse (splitArguments arguments) h type entry.constructors
        else none := by
  unfold construction?
  split
  · rename_i hnone
    rw [ht] at hnone
    cases hnone
  · rename_i hsome
    rw [ht] at hsome
    cases hsome
    cases registry.lookup? name <;> cases expected <;> rfl

/-- A construction whose arguments are read alike. -/
theorem construction?_congr {t u name arguments others : Text}
    (ht : Filter.construction? t = some (name, arguments))
    (hu : Filter.construction? u = some (name, others))
    (hsame : List.Forall₂ (SameReading p newGuid) (splitArguments arguments) (splitArguments others)) :
    construction? p.registry t (p.inner newGuid t.length) expected
      = construction? p.registry u (p.inner newGuid u.length) expected := by
  rw [construction?_of_some ht fun _ htoken =>
      Nat.lt_of_le_of_lt (length_splitArguments_le htoken) (length_construction? ht),
    construction?_of_some hu fun _ htoken =>
      Nat.lt_of_le_of_lt (length_splitArguments_le htoken) (length_construction? hu)]
  congr 1
  funext entry
  congr 1
  funext type
  exact if_congr Iff.rfl (firstConstruction?_congr hsame type entry.constructors) rfl

/-- The word `new` begins no name of a function. -/
theorem ofName?_eq_none_of_new {word : Text} (hword : Text.lowerAscii word = "new".toList) (rest : Text) :
    Function.ofName? (Text.trim (word ++ rest)) = none := by
  obtain ⟨tail, htrim⟩ := (isTrimmed_of_new hword).exists_trim_append rest
  have hnames : ∀ function ∈ Function.all,
      (Text.lowerAscii function.name.toList).take 3 ≠ "new".toList := by decide
  rw [Function.ofName?, Text.trim_trim, htrim, List.find?_eq_none]
  intro function hfunction heq
  have hlower : Text.lowerAscii function.name.toList = "new".toList ++ Text.lowerAscii tail := by
    rw [← hword, ← Text.lowerAscii_append]
    simpa [Text.eqIgnoreCase] using heq
  exact hnames function hfunction (by rw [hlower]; rfl)

/-- A construction is no call of a function. -/
theorem functionCall?_ne_ok_of_construction {t name arguments : Text}
    (h : Filter.construction? t = some (name, arguments)) {q : Predicate} :
    functionCall? p.schema t (p.inner newGuid t.length) expected ≠ some (.ok q) := by
  intro hq
  obtain ⟨_, _, function, _, _, hcall, hfunction, -⟩ := exists_of_functionCall hq
  obtain ⟨word, rest, hword, hwhole⟩ := exists_call_of_construction? h
  unfold Filter.functionCall? at hcall
  rw [hwhole] at hcall
  obtain ⟨_, hfilter, heq⟩ := Option.map_eq_some_iff.1 hcall
  obtain ⟨hsome, -⟩ := Option.filter_eq_some_iff.1 hfilter
  cases hsome
  cases heq
  rw [ofName?_eq_none_of_new hword] at hfunction
  cases hfunction

/-- A construction with something between its parentheses that is not read as one is rejected. -/
theorem atom_of_construction {t : Text} (hquoted : quoted? t = none) {name arguments : Text}
    (h : Filter.construction? t = some (name, arguments)) (hblank : Text.isBlank arguments = false)
    {q : Predicate} :
    atom p newGuid t (p.inner newGuid t.length) expected = .ok q ↔
      construction? p.registry t (p.inner newGuid t.length) expected = some q := by
  have hcall : Filter.functionCall? t ≠ none := by
    obtain ⟨_, _, -, hwhole⟩ := exists_call_of_construction? h
    unfold Filter.functionCall?
    rw [hwhole]
    simp [Option.filter, hblank]
  unfold atom
  simp only [hquoted]
  cases hread : construction? p.registry t (p.inner newGuid t.length) expected with
  | some found => simp
  | none =>
    simp only [reduceCtorEq, iff_false]
    cases hfound : functionCall? p.schema t (p.inner newGuid t.length) expected with
    | none => exact absurd (functionCall?_eq_none_iff.1 hfound) hcall
    | some result =>
      intro hq
      simp only at hq
      rw [hq] at hfound
      exact functionCall?_ne_ok_of_construction h hfound

/-! ## Whole texts -/

theorem divide_lowerOperators_nil (h : divide t = []) : divide (lowerOperators t) = [] := by
  rw [divide_lowerOperators, h]
  rfl

theorem tokenize_trim_eq_nil (h : divide t = []) : tokenize (Text.trim t) = [] := by
  rw [tokenize_trim, tokenize_eq_nil_of_divide h]

/-- A text without token sets and parentheses around it. -/
theorem sameReading_of_atom (hnil : divide t = [])
    (hparentheses : (Text.trim t).head? ≠ some '(' ∧ '(' ∈ Text.trim t)
    (h : ∀ expected q, atom p newGuid (lowerOperators (Text.trim t))
        (p.inner newGuid (lowerOperators (Text.trim t)).length)
      expected = .ok q ↔ atom p newGuid (Text.trim t) (p.inner newGuid (Text.trim t).length) expected = .ok q) :
    SameReading p newGuid (lowerOperators t) t := by
  obtain ⟨hhead, hmem⟩ := hparentheses
  have hne : Text.trim t ≠ [] := List.ne_nil_of_mem hmem
  have hlower : Text.trim (lowerOperators t) ≠ [] := by
    rw [trim_lowerOperators]
    exact fun hempty => hne (by simpa using congrArg List.length hempty)
  have hstrip := stripEnclosing?_eq_none_of_head hhead
  have hstripLower : stripEnclosing? (Text.trim (lowerOperators t)) = none := by
    rw [trim_lowerOperators, stripEnclosing?_lowerOperators, hstrip]
    rfl
  intro expected q
  rw [parseExpression_of_atom expected hlower (tokenize_trim_eq_nil (divide_lowerOperators_nil hnil))
    hstripLower,
    parseExpression_of_atom expected hne (tokenize_trim_eq_nil hnil) hstrip, trim_lowerOperators,
    Except.map_eq_ok_iff, Except.map_eq_ok_iff]
  exact exists_congr fun found => and_congr_left fun _ => h expected found

/-- By induction on how the operators are shown: the case of operator words makes no difference. -/
theorem sameReading_lowerOperators (hnamed : p.schema.isWellNamed = true) (h : ShowsOperators t) :
    SameReading p newGuid (lowerOperators t) t := by
  induction h with
  | lower h =>
    rw [h]
    exact fun _ => SameResult.refl _
  | @sets t hne himplied hleft hright ihleft ihright =>
    intro expected
    have hsets : tokenize (Text.trim t) = divide t := by
      rw [tokenize_trim, tokenize_eq_divide, himplied]
      rfl
    have hlower : tokenize (Text.trim (lowerOperators t)) = (divide t).map lowerSet := by
      rw [tokenize_trim, tokenize_eq_divide, isImpliedBoolean_lowerOperators hne, divide_lowerOperators]
      rfl
    rw [parseExpression_of_sets hlower (by simpa using hne), parseExpression_of_sets hsets hne]
    refine sameResult_foldSets_of_alike (List.forall₂_map_left_iff.2 (List.forall₂_same.2 fun set hset => ?_))
    exact readAlike_lowerSet hnamed (hleft set hset) (hright set hset) (ihleft set hset) (ihright set hset)
  | @enclosed t inside hnil hstrip h ih =>
    intro expected
    have hstripLower : stripEnclosing? (Text.trim (lowerOperators t)) = some (lowerOperators inside) := by
      rw [trim_lowerOperators, stripEnclosing?_lowerOperators, hstrip]
      rfl
    rw [parseExpression_of_strip (tokenize_trim_eq_nil (divide_lowerOperators_nil hnil)) hstripLower,
      parseExpression_of_strip (tokenize_trim_eq_nil hnil) hstrip]
    exact ih expected
  | @call t name arguments hnil hcall hname hnew hfirst hsecond ihfirst ihsecond =>
    refine sameReading_of_atom hnil (parentheses_of_functionCall? hcall) fun expected q => ?_
    have hlower := functionCall?_lowerOperators hcall hname
    rw [atom_of_call (quoted?_eq_none_of_functionCall? hcall hname) hnew hcall,
      atom_of_call (quoted?_eq_none_of_functionCall? hlower (noQuotes_lowerOperators hname))
        (construction?_eq_none_lowerOperators hnew) hlower]
    exact functionCall?_lowerOperators_iff hnamed hcall hname hfirst hsecond ihfirst ihsecond
  | @construction t name arguments hnil hcall hname hlower hblank harguments ih =>
    refine sameReading_of_atom hnil (parentheses_of_construction? hcall) fun expected q => ?_
    have hcallLower := construction?_lowerOperators hcall hname
    rw [hlower] at hcallLower
    have hsame : List.Forall₂ (SameReading p newGuid) (splitArguments (lowerOperators arguments))
        (splitArguments arguments) := by
      rw [splitArguments_lowerOperators]
      exact List.forall₂_map_left_iff.2 (List.forall₂_same.2 ih)
    rw [atom_of_construction (quoted?_eq_none_of_construction? hcall) hcall hblank,
      atom_of_construction (quoted?_eq_none_of_construction? hcallLower) hcallLower
        (by rw [isBlank_lowerOperators, hblank]), construction?_congr hcallLower hcall hsame]

end Alike

/-- Texts of the `SameReading` are parsed alike. -/
theorem parse_congr_of_sameReading {t u : Text} (h : SameReading p newGuid t u) {q : Option Predicate} :
    p.parse newGuid t = .ok q ↔ p.parse newGuid u = .ok q := by
  rw [parse_eq_ok_iff, parse_eq_ok_iff, h none]

/-- Two filters that differ in the case of their operator words, both of which show these words where the
parser looks for them, are read alike: what the one is accepted as, the other one is accepted as, too. -/
theorem parse_eq_ok_iff_of_lowerOperators (p : FilterParser) (newGuid : Guid)
    (hnamed : p.schema.isWellNamed = true)
    {t u : Text} (hcase : lowerOperators t = lowerOperators u) (ht : ShowsOperators t)
    (hu : ShowsOperators u) (q : Option Predicate) : p.parse newGuid t = .ok q ↔ p.parse newGuid u = .ok q := by
  have hone : SameReading p newGuid (lowerOperators t) t := sameReading_lowerOperators hnamed ht
  rw [hcase] at hone
  exact (parse_congr_of_sameReading hone).symm.trans
    (parse_congr_of_sameReading (sameReading_lowerOperators hnamed hu))

/-- A disjunction with a negation in parentheses, with its operators in two cases. -/
theorem parse_eq_ok_iff_of_lowerOperators_items :
    items.schema.isWellNamed = true ∧
    lowerOperators "Id EQ 1 Or (NOT Flag)".toList = lowerOperators "Id eq 1 OR (Not Flag)".toList ∧
    ShowsOperators "Id EQ 1 Or (NOT Flag)".toList ∧ ShowsOperators "Id eq 1 OR (Not Flag)".toList ∧
    ∃ q, items.parse .nil "Id EQ 1 Or (NOT Flag)".toList = .ok (some q) ∧
      items.parse .nil "Id eq 1 OR (Not Flag)".toList = .ok (some q) := by
  have hnamed : items.schema.isWellNamed = true := by decide
  have hcase : lowerOperators "Id EQ 1 Or (NOT Flag)".toList
      = lowerOperators "Id eq 1 OR (Not Flag)".toList := by decide
  have hleft : ShowsOperators "(NOT Flag)".toList := .of_lower_sides (by decide) (by decide) (by decide)
  have hright : ShowsOperators "(Not Flag)".toList := .of_lower_sides (by decide) (by decide) (by decide)
  have hblank : ShowsOperators [] := .lower rfl
  have hfirst : divide "Id EQ 1 Or (NOT Flag)".toList = [⟨"Id".toList, "EQ".toList, "1".toList⟩,
      ⟨[], "or".toList, []⟩, ⟨"(NOT Flag)".toList, [], []⟩] := by decide
  have hsecond : divide "Id eq 1 OR (Not Flag)".toList = [⟨"Id".toList, "eq".toList, "1".toList⟩,
      ⟨[], "or".toList, []⟩, ⟨"(Not Flag)".toList, [], []⟩] := by decide
  have ht : ShowsOperators "Id EQ 1 Or (NOT Flag)".toList := by
    refine .sets (by decide) (by decide) ?_ ?_
    all_goals simp only [hfirst, List.forall_mem_cons]
    · exact ⟨.lower (by decide), hblank, hleft, by simp⟩
    · exact ⟨.lower (by decide), hblank, hblank, by simp⟩
  have hu : ShowsOperators "Id eq 1 OR (Not Flag)".toList := by
    refine .sets (by decide) (by decide) ?_ ?_
    all_goals simp only [hsecond, List.forall_mem_cons]
    · exact ⟨.lower (by decide), hblank, hright, by simp⟩
    · exact ⟨.lower (by decide), hblank, hblank, by simp⟩
  obtain ⟨q, hq⟩ : ∃ q, items.parse .nil "Id EQ 1 Or (NOT Flag)".toList = .ok (some q) :=
    Except.exists_of_isSome_join (by decide +kernel)
  exact ⟨hnamed, hcase, ht, hu, q, hq,
    (parse_eq_ok_iff_of_lowerOperators items .nil hnamed hcase ht hu (some q)).1 hq⟩

/-- An operator in upper case behind a string match is not found, and the filter is rejected. -/
theorem parse_lowerOperators_hidden :
    lowerOperators "startswith(Name, 'a') EQ true".toList = "startswith(Name, 'a') eq true".toList ∧
    (∃ q, items.parse .nil "startswith(Name, 'a') eq true".toList = .ok (some q)) ∧
    ∀ q, items.parse .nil "startswith(Name, 'a') EQ true".toList ≠ .ok (some q) :=
  ⟨by decide, Except.exists_of_isSome_join (by decide +kernel),
    Except.ne_ok_some_of_isSome_join (by decide +kernel)⟩

end FilterParser
end RecordFilter
