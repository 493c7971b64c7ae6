import Mathlib.Data.List.Basic
import RecordFilter.Query.Stream
import RecordFilter.Proofs.EncodedTexts
import RecordFilter.Proofs.LiteralTexts
import RecordFilter.Proofs.SortedPages

/-!
# Texts of queries

What a query asks for is read again from the query that is written for it. There are two readers: one for
the text of a query and one for the query part of a URL. They decode in different ways, but both find the
pairs that were written, whatever the values hold (`read_render_eq` and `queryPairs_url`), since the
encoded values have none of the characters at which a query is taken apart. From the pairs the options are
put together one by one (`ofPairs_pairs`).

Main statements: `QueryOptions.read_render`, and `Subscription.apply_ofUrl` for streams and lists of
records.
-/

namespace RecordFilter

namespace Text

/-! ## Cuts -/

/-- `cutAt?` cuts at the first separator. -/
theorem cutAt?_append {separator : Char} {a : Text} (h : separator ∉ a) (b : Text) :
    cutAt? separator (a ++ separator :: b) = some (a, b) := by
  induction a with
  | nil => simp [cutAt?]
  | cons c a ih =>
    rw [List.mem_cons, not_or] at h
    rw [List.cons_append, cutAt?, if_neg (Ne.symm h.1), ih h.2, Option.map_some]

/-- Pieces that are not empty are what is left of the text that joins them. -/
theorem filter_split_join {separator : Char} {pieces : List Text}
    (h : ∀ piece ∈ pieces, piece ≠ [] ∧ separator ∉ piece) :
    ((split separator (join [separator] pieces)).filter fun piece => !piece.isEmpty) = pieces := by
  cases pieces with
  | nil => rfl
  | cons piece pieces =>
    rw [split_join fun piece hpiece => (h piece hpiece).2, List.filter_eq_self]
    intro piece hpiece
    simpa using (h piece hpiece).1

end Text

namespace SortKey

variable {key : SortKey}

/-- The path is one word, and can stand in a list with commas. -/
structure IsWritable (key : SortKey) : Prop where
  path_ne_nil : key.path ≠ []
  path_chars : ∀ c ∈ key.path, c ≠ ',' ∧ Text.isBlankChar c = false

instance : Decidable key.IsWritable :=
  decidable_of_iff (key.path ≠ [] ∧ ∀ c ∈ key.path, c ≠ ',' ∧ Text.isBlankChar c = false)
    ⟨fun h => ⟨h.1, h.2⟩, fun h => ⟨h.1, h.2⟩⟩

/-- `SortKey.read?` inverts `SortKey.render`. -/
theorem read?_render (h : key.IsWritable) : read? key.render = some key := by
  obtain ⟨path, descending⟩ := key
  have hpath : Text.splitWhere Text.isBlankChar path = [path] :=
    Text.splitWhere_eq_singleton fun c hc => (h.path_chars c hc).2
  have hne : path ≠ [] := h.path_ne_nil
  cases descending with
  | false =>
    show read? path = _
    rw [read?, hpath, List.filter_cons_of_pos (by simpa using hne)]
    rfl
  | true =>
    show read? (path ++ ' ' :: "desc".toList) = _
    rw [read?, Text.splitWhere_append rfl, hpath, List.singleton_append,
      List.filter_cons_of_pos (by simpa using hne)]
    rfl

/-- A key in a list with commas has none itself. -/
theorem comma_not_mem_render (h : key.IsWritable) : ',' ∉ key.render := by
  have hpath : ',' ∉ key.path := fun hc => (h.path_chars _ hc).1 rfl
  rw [render]
  split
  · rw [List.mem_append, not_or]
    exact ⟨hpath, by decide⟩
  · exact hpath

end SortKey

namespace QueryOptions

variable {o : QueryOptions} {c : Char}

/-- Options that a query can ask for: a filter that is not blank, paths and names that can stand in their
lists, and counts that are small enough for the reader. -/
structure IsWritable (o : QueryOptions) : Prop where
  filter : ∀ filter ∈ o.filter, Text.isBlank filter = false
  orderBy : ∀ key ∈ o.orderBy, key.IsWritable
  select : ∀ name ∈ o.select, name ≠ [] ∧ ',' ∉ name ∧ Text.trim name = name
  skip : ∀ n ∈ o.skip, n < 2 ^ (63 : Nat)
  top : ∀ n ∈ o.top, n < 2 ^ (63 : Nat)

/-! ## From pairs to options -/

/-- `readCount` reads a count from its digits. -/
theorem readCount_ofNat (key : Text) {n : Nat} (h : n < 2 ^ (63 : Nat)) :
    readCount key (Numeral.ofNat n) = .ok (some n) := by
  have htext : Numeral.ofNat n = Numeral.ofInt n := (if_neg (by omega)).symm
  have hread : Numeral.int64? (Numeral.ofInt n) = some (Int64.ofInt n) := by
    rw [Numeral.int64?, Numeral.signed?_ofInt (by omega) (by omega), Option.map_some]
  have hvalue : (Int64.ofInt n).toInt = n := Int64.toInt_ofInt_of_le (by omega) (by omega)
  rw [htext, readCount, (Numeral.isTrimmed_ofInt _).trim_eq, hread]
  simp only [hvalue, Int.toNat_natCast]
  rw [if_neg (by omega)]

/-- `readNames` finds the names that are joined with commas. -/
theorem readNames_join {names : List Text} (hne : names ≠ [])
    (h : ∀ name ∈ names, name ≠ [] ∧ ',' ∉ name ∧ Text.trim name = name) :
    readNames (Text.join [','] names) = names := by
  obtain ⟨name, others, rfl⟩ := List.exists_cons_of_ne_nil hne
  have htrim : (name :: others).map Text.trim = name :: others :=
    (List.map_congr_left fun name hname => (h name hname).2.2).trans (List.map_id _)
  rw [readNames, Text.split_join fun name hname => (h name hname).2.1, htrim, List.filter_eq_self]
  intro name hname
  simpa using (h name hname).1

/-- The keys of an order are found in the text that lists them. -/
theorem readKeys_join {keys : List SortKey} (hne : keys ≠ []) (h : ∀ key ∈ keys, key.IsWritable) :
    (Text.split ',' (Text.join [','] (keys.map SortKey.render))).filterMap SortKey.read? = keys := by
  obtain ⟨key, others, rfl⟩ := List.exists_cons_of_ne_nil hne
  have hcomma : ∀ piece ∈ (key :: others).map SortKey.render, ',' ∉ piece :=
    List.forall_mem_map.2 fun key hkey => SortKey.comma_not_mem_render (h key hkey)
  rw [List.map_cons, Text.split_join hcomma, ← List.map_cons, List.filterMap_map]
  exact (List.filterMap_congr fun key hkey => SortKey.read?_render (h key hkey)).trans List.filterMap_some

/-- Only an empty list is not `listed`. -/
theorem eq_nil_of_listed {pieces : List Text} (h : listed pieces = none) : pieces = [] := by
  by_contra hne
  simp [listed, hne] at h

theorem listed_eq_some {pieces : List Text} {t : Text} (h : listed pieces = some t) :
    pieces ≠ [] ∧ t = Text.join [','] pieces := by
  rw [listed] at h
  split at h
  · cases h
  · rename_i hne
    exact ⟨by simpa using hne, (Option.some.inj h).symm⟩

/-- Options with more pairs. -/
def withPairs (o : QueryOptions) (pairs : List (Text × Text)) : Except QueryError QueryOptions :=
  pairs.foldlM (fun options pair => options.withPair pair.1 pair.2) o

/-- `withPairs` goes pair by pair. -/
theorem withPairs_append {first others : List (Text × Text)} {o o' : QueryOptions}
    (h : o.withPairs first = .ok o') : o.withPairs (first ++ others) = o'.withPairs others := by
  rw [withPairs, List.foldlM_append, ← withPairs, h]
  rfl

/-- A pair that may be missing. -/
theorem withPairs_part (key : String) {value : Option Text} {o o' : QueryOptions}
    (hnone : value = none → o = o') (hsome : ∀ t, value = some t → o.withPair key.toList t = .ok o') :
    o.withPairs (part key value) = .ok o' := by
  cases value with
  | none => exact congrArg Except.ok (hnone rfl)
  | some t =>
    have hpart : part key (some t) = [(key.toList, t)] := rfl
    rw [hpart, withPairs, List.foldlM_cons, hsome t rfl]
    rfl

/-- The pair for a filter puts it into options that are empty so far. -/
theorem withPairs_filter (h : ∀ filter ∈ o.filter, Text.isBlank filter = false) :
    ({} : QueryOptions).withPairs (part "$filter" (o.filter.filter fun filter => !Text.isBlank filter))
      = .ok { filter := o.filter } := by
  have hfilter : o.filter.filter (fun filter => !Text.isBlank filter) = o.filter := by
    cases hf : o.filter with
    | none => rfl
    | some filter => exact Option.filter_some_pos (by simp [h filter hf])
  rw [hfilter]
  refine withPairs_part "$filter" (fun hnone => by rw [hnone]) fun t ht => ?_
  rw [ht]
  rfl

/-- The pair for an order adds its keys to a filter. -/
theorem withPairs_orderBy (h : ∀ key ∈ o.orderBy, key.IsWritable) :
    ({ filter := o.filter } : QueryOptions).withPairs
        (part "$orderby" (listed (o.orderBy.map SortKey.render)))
      = .ok { filter := o.filter, orderBy := o.orderBy } := by
  refine withPairs_part "$orderby" (fun hnone => ?_) fun t ht => ?_
  · rw [List.map_eq_nil_iff.1 (eq_nil_of_listed hnone)]
  · obtain ⟨hne, rfl⟩ := listed_eq_some ht
    show Except.ok _ = _
    rw [readKeys_join (mt List.map_eq_nil_iff.2 hne) h]
    rfl

/-- The pair for a selection adds its names to a filter and an order. -/
theorem withPairs_select (h : ∀ name ∈ o.select, name ≠ [] ∧ ',' ∉ name ∧ Text.trim name = name) :
    ({ filter := o.filter, orderBy := o.orderBy } : QueryOptions).withPairs (part "$select" (listed o.select))
      = .ok { filter := o.filter, orderBy := o.orderBy, select := o.select } := by
  refine withPairs_part "$select" (fun hnone => ?_) fun t ht => ?_
  · rw [eq_nil_of_listed hnone]
  · obtain ⟨hne, rfl⟩ := listed_eq_some ht
    show Except.ok _ = _
    rw [readNames_join hne h]
    rfl

/-- The pair for the records to skip adds their number. -/
theorem withPairs_skip (h : ∀ n ∈ o.skip, n < 2 ^ (63 : Nat)) :
    ({ filter := o.filter, orderBy := o.orderBy, select := o.select } : QueryOptions).withPairs
        (part "$skip" (o.skip.map Numeral.ofNat))
      = .ok { filter := o.filter, orderBy := o.orderBy, select := o.select, skip := o.skip } := by
  refine withPairs_part "$skip" (fun hnone => ?_) fun t ht => ?_
  · rw [Option.map_eq_none_iff.1 hnone]
  · obtain ⟨n, hn, rfl⟩ := Option.map_eq_some_iff.1 ht
    show (readCount _ _).map _ = _
    rw [readCount_ofNat _ (h n hn), hn]
    rfl

/-- The pair for a size adds it to all the rest. -/
theorem withPairs_top (h : ∀ n ∈ o.top, n < 2 ^ (63 : Nat)) :
    ({ o with top := none }).withPairs (part "$top" (o.top.map Numeral.ofNat)) = .ok o := by
  refine withPairs_part "$top" (fun hnone => ?_) fun t ht => ?_
  · rw [← Option.map_eq_none_iff.1 hnone]
  · obtain ⟨n, hn, rfl⟩ := Option.map_eq_some_iff.1 ht
    show (readCount _ _).map _ = _
    rw [readCount_ofNat _ (h n hn), ← hn]
    rfl

/-- The options are put together from the pairs that ask for them. -/
theorem ofPairs_pairs (h : o.IsWritable) : ofPairs o.pairs = .ok o := by
  show ({} : QueryOptions).withPairs (_ ++ _ ++ _ ++ _ ++ _) = _
  rw [List.append_assoc, List.append_assoc, List.append_assoc, withPairs_append (withPairs_filter h.filter),
    withPairs_append (withPairs_orderBy h.orderBy), withPairs_append (withPairs_select h.select),
    withPairs_append (withPairs_skip h.skip)]
  exact withPairs_top h.top

/-! ## From texts to pairs -/

/-- `QueryOptions.decode` inverts `Percent.encode`. -/
theorem decode_encode (t : Text) : decode (Percent.encode t) = .ok t := by
  rw [decode]
  simp only [Percent.bytes_plusToSpace_encode, Utf8.decode?_encode]

/-- The keys of the pairs. -/
def optionKeys : List Text :=
  ["$filter", "$orderby", "$select", "$skip", "$top"].map String.toList

/-- The keys that are written are the `optionKeys`. -/
theorem fst_of_mem_pairs {pair : Text × Text} (h : pair ∈ o.pairs) : pair.1 ∈ optionKeys := by
  have hpart : ∀ {key : String} {value : Option Text}, pair ∈ part key value → pair.1 = key.toList := by
    intro key value h
    obtain ⟨t, -, rfl⟩ := List.mem_map.1 h
    rfl
  simp only [pairs, List.mem_append] at h
  rcases h with (((h | h) | h) | h) | h
  all_goals
    rw [hpart h]
    decide

/-- What can stand between the separators of a query. -/
def isPartChar (c : Char) : Bool :=
  Percent.isUnreserved c || c == '$' || c == '%'

theorem ne_of_isPartChar (h : isPartChar c = true) {d : Char} (hd : isPartChar d = false) : c ≠ d := by
  rintro rfl
  rw [h] at hd
  cases hd

/-- Everything in a query but its separators is visible ASCII. -/
theorem toNat_of_isPartChar (h : isPartChar c = true) : 33 ≤ c.toNat ∧ c.toNat < 127 := by
  simp only [isPartChar, Percent.isUnreserved, Bool.or_eq_true, beq_iff_eq] at h
  rcases h with (((((h | rfl) | rfl) | rfl) | rfl) | rfl) | rfl
  · have := toNat_of_isIdentifierChar (c := c) (by rw [isIdentifierChar, h, Bool.true_or])
    omega
  all_goals decide

/-- A key has nothing that needs decoding, and no character at which a query is taken apart. -/
theorem plain_of_mem_optionKeys {key : Text} (h : key ∈ optionKeys) :
    '%' ∉ key ∧ ∀ c ∈ key, isPartChar c = true := by
  have hall : ∀ key ∈ optionKeys, '%' ∉ key ∧ ∀ c ∈ key, isPartChar c = true := by decide
  exact hall key h

/-- Encoded values consist of `isPartChar`. -/
theorem isPartChar_of_mem_encode {t : Text} (hc : c ∈ Percent.encode t) : isPartChar c = true := by
  rcases Percent.mem_encode hc with hc | rfl
  · simp [isPartChar, hc]
  · rfl

/-- The pair with an encoded value, as the query has it. -/
def encodedPart (pair : Text × Text) : Text :=
  equation (pair.1, Percent.encode pair.2)

theorem render_eq (o : QueryOptions) : o.render = Text.join ['&'] (o.pairs.map encodedPart) := rfl

section Part

variable {pair : Text × Text} (hkey : pair.1 ∈ optionKeys)
include hkey

/-- An `encodedPart` has the equals sign and characters of parts only. -/
theorem mem_encodedPart (hc : c ∈ encodedPart pair) : c = '=' ∨ isPartChar c = true := by
  rcases List.mem_append.1 hc with hc | hc
  · exact .inr ((plain_of_mem_optionKeys hkey).2 c hc)
  rcases List.mem_cons.1 hc with rfl | hc
  · exact .inl rfl
  · exact .inr (isPartChar_of_mem_encode hc)

/-- An `encodedPart` does not have the sign between parts. -/
theorem separator_not_mem_encodedPart : '&' ∉ encodedPart pair := by
  intro hc
  rcases mem_encodedPart hkey hc with h | h
  · exact absurd h (by decide)
  · exact absurd h (by decide)

/-- A part is cut behind its key, at the first equals sign. -/
theorem cutAt?_encodedPart : Text.cutAt? '=' (encodedPart pair) = some (pair.1, Percent.encode pair.2) :=
  Text.cutAt?_append (fun hc => absurd ((plain_of_mem_optionKeys hkey).2 _ hc) (by decide)) _

theorem bytes_key : Percent.bytes (Percent.plusToSpace pair.1) = Utf8.encode pair.1 :=
  have hplain := plain_of_mem_optionKeys hkey
  Percent.bytes_plusToSpace_of_plain (fun hc => absurd (hplain.2 _ hc) (by decide)) hplain.1

/-- `decode` leaves the `optionKeys` as they are. -/
theorem decode_key : decode pair.1 = .ok pair.1 := by
  rw [decode]
  simp only [bytes_key hkey, Utf8.decode?_encode]

/-- `decodePart` finds the pair that an `encodedPart` was made of. -/
theorem decodePart_encodedPart : decodePart (encodedPart pair) = .ok pair := by
  rw [decodePart, cutAt?_encodedPart hkey]
  simp only [Option.getD_some, decode_key hkey, decode_encode]
  rfl

end Part

/-- `decodePart` finds all pairs. -/
theorem mapM_decodePart {pairs : List (Text × Text)} (h : ∀ pair ∈ pairs, pair.1 ∈ optionKeys) :
    (pairs.map encodedPart).mapM decodePart = .ok pairs := by
  induction pairs with
  | nil => rfl
  | cons pair pairs ih =>
    rw [List.forall_mem_cons] at h
    rw [List.map_cons, List.mapM_cons, decodePart_encodedPart h.1, ih h.2]
    rfl

/-- Between the signs that divide a query stand the encoded parts, and none of them is empty. -/
theorem filter_split_render (o : QueryOptions) :
    ((Text.split '&' o.render).filter fun part => !part.isEmpty) = o.pairs.map encodedPart :=
  Text.filter_split_join fun part hpart => by
    obtain ⟨pair, hpair, rfl⟩ := List.mem_map.1 hpart
    exact ⟨by simp [equation], separator_not_mem_encodedPart (fst_of_mem_pairs hpair)⟩

/-- A query has the two signs and characters of parts only. -/
theorem mem_render (hc : c ∈ o.render) : c = '&' ∨ c = '=' ∨ isPartChar c = true := by
  rcases Text.mem_join hc with hc | ⟨part, hpart, hc⟩
  · exact .inl (List.mem_singleton.1 hc)
  · obtain ⟨pair, hpair, rfl⟩ := List.mem_map.1 hpart
    exact .inr (mem_encodedPart (fst_of_mem_pairs hpair) hc)

/-- A statement about the characters of a query. -/
theorem forall_mem_render {P : Char → Prop} (hand : P '&') (heq : P '=')
    (hpart : ∀ c, isPartChar c = true → P c) : ∀ c ∈ o.render, P c := by
  intro c hc
  rcases mem_render hc with rfl | rfl | hc
  · exact hand
  · exact heq
  · exact hpart c hc

/-- All characters of a query are visible ASCII characters. -/
theorem toNat_of_mem_render : ∀ c ∈ o.render, 33 ≤ c.toNat ∧ c.toNat < 127 :=
  forall_mem_render (by decide) (by decide) fun _ => toNat_of_isPartChar

/-- The pairs are found in the text of a query, whatever their values hold. -/
theorem read_render_eq (o : QueryOptions) (k : Nat) :
    read (List.replicate k '?' ++ o.render) = ofPairs o.pairs := by
  have htrim : Text.trim (List.replicate k '?' ++ o.render) = List.replicate k '?' ++ o.render := by
    refine Text.trim_eq_self_of_visible fun c hc => ?_
    rcases List.mem_append.1 hc with hc | hc
    · rw [List.eq_of_mem_replicate hc]
      rfl
    · exact Text.isBlankChar_of_visible (toNat_of_mem_render c hc)
  have hmarks : (List.replicate k '?' ++ o.render).dropWhile (· == '?') = o.render := by
    rw [List.dropWhile_append_of_pos fun c hc => by rw [List.eq_of_mem_replicate hc]; rfl]
    cases hr : o.render with
    | nil => rfl
    | cons c t =>
      have hc : c ≠ '?' := forall_mem_render (by decide) (by decide)
        (fun c hc => ne_of_isPartChar hc (by decide)) c (by rw [hr]; exact List.mem_cons_self)
      exact List.dropWhile_cons_of_neg (by simpa using hc)
  rw [read, htrim]
  simp only [hmarks, filter_split_render, mapM_decodePart fun _ => fst_of_mem_pairs]
  rfl

/-- Options are read from the query that is written for them, also with question marks in front. -/
theorem read_render (h : o.IsWritable) (k : Nat) : read (List.replicate k '?' ++ o.render) = .ok o := by
  rw [read_render_eq, ofPairs_pairs h]

/-- Options whose texts have all the characters at which queries are taken apart. -/
def marked : QueryOptions where
  filter := some " a=b&c,d +100%?\n€ ".toList
  orderBy := [⟨"Owner/Name".toList, true⟩, ⟨"desc".toList, false⟩]
  select := ["Full & name=1".toList, "Id".toList]
  skip := some 0
  top := some (2 ^ (63 : Nat) - 1)

theorem read_render_marked : marked.IsWritable ∧ read ("??".toList ++ marked.render) = .ok marked := by
  have hwritable : marked.IsWritable :=
    ⟨by decide, by decide, by decide, by decide, by decide⟩
  exact ⟨hwritable, read_render hwritable 2⟩

/-! ## Queries of URLs -/

/-- `Url.encodeQuery` has nothing to escape in a query. -/
theorem encodeQuery_render (o : QueryOptions) (special : Bool) :
    Url.encodeQuery special o.render = o.render := by
  refine Percent.encodeUnless_eq_self (forall_mem_render ?_ ?_ fun c hc => ?_)
  · cases special <;> decide
  · cases special <;> decide
  · have hvisible := toNat_of_isPartChar hc
    have hprintable : Url.isPrintable c = true := by simp [Url.isPrintable]; omega
    have hmarks : " \"#<>".toList.contains c = false := by
      simpa using ⟨ne_of_isPartChar hc (d := ' ') (by decide), ne_of_isPartChar hc (d := '"') (by decide),
        ne_of_isPartChar hc (d := '#') (by decide), ne_of_isPartChar hc (d := '<') (by decide),
        ne_of_isPartChar hc (d := '>') (by decide)⟩
    have hquote : (c == '\'') = false := by simpa using ne_of_isPartChar hc (d := '\'') (by decide)
    simp only [hprintable, hmarks, hquote, Bool.and_false, Bool.not_false, Bool.and_true]

/-- `QueryOptions.url` has the query that `render` writes. -/
theorem query_url (o : QueryOptions) (base : Url) : (o.url base).query.getD [] = o.render := by
  rw [url, Url.withQuery]
  split
  · rename_i hempty
    exact (List.isEmpty_iff.1 hempty).symm
  · exact encodeQuery_render o _

/-- `Url.decodeForm` inverts the encoding of a part. -/
theorem decodeForm_encodedPart {pair : Text × Text} (hkey : pair.1 ∈ optionKeys) :
    (Url.decodeForm pair.1, Url.decodeForm (Percent.encode pair.2)) = pair := by
  rw [Url.decodeForm, Url.decodeForm, bytes_key hkey, Percent.bytes_plusToSpace_encode,
    Utf8.decodeLossy_encode, Utf8.decodeLossy_encode]

/-- The pairs are found in the query of a URL, whatever their values hold. -/
theorem queryPairs_url (o : QueryOptions) (base : Url) : (o.url base).queryPairs = o.pairs := by
  rw [Url.queryPairs, query_url, filter_split_render, List.map_map]
  refine (List.map_congr_left fun pair hpair => ?_).trans (List.map_id _)
  have hkey := fst_of_mem_pairs hpair
  simp only [Function.comp_apply, cutAt?_encodedPart hkey, Option.getD_some]
  exact decodeForm_encodedPart hkey

end QueryOptions

namespace Subscription

variable {o : QueryOptions}

/-- For the same guid, a subscription to a URL that is written for options passes on what the query finds, and
is rejected when the query is. -/
theorem map_ofUrl (h : o.IsWritable) (horder : o.orderBy = []) (hselect : o.select = []) (base : Url)
    (p : FilterParser) (newGuid : Guid) (records : List Record) :
    (ofUrl (o.url base) p newGuid).map (fun subscription => QueryResult.records (subscription.apply records))
      = o.apply p newGuid records := by
  rw [ofUrl, QueryOptions.queryPairs_url, QueryOptions.ofPairs_pairs h]
  show (ofOptions o p newGuid).map _ = _
  rw [ofOptions, horder, hselect]
  cases hfilter : p.compile newGuid (o.filter.getD []) with
  | error error =>
    rw [QueryOptions.apply, hfilter]
    rfl
  | ok filter =>
    have hsort : ∀ records : List Record,
        SortKey.sort (Record.order (SortKey.resolve p.schema o.orderBy)) records = records := by
      rw [horder]
      exact SortKey.sort_eq_self fun _ _ hless => by cases hless
    have happly : o.apply p newGuid records = _ :=
      QueryOptions.apply_window hselect hfilter records o.skip o.top
    rw [happly, hsort]
    rfl

/-- A subscription to the URL that is written for options without an order and a selection is rejected when the
query is, with the same error. If the filter `IsSettled`, it passes on what the query finds, whatever is drawn
for the two. -/
theorem apply_ofUrl (h : o.IsWritable) (horder : o.orderBy = []) (hselect : o.select = []) (base : Url)
    (p : FilterParser) (newGuid newGuid' : Guid) (records : List Record) :
    (∀ e, ofUrl (o.url base) p newGuid = .error e ↔ o.apply p newGuid' records = .error e) ∧
      (p.IsSettled (o.filter.getD []) ∨ newGuid = newGuid' →
        (ofUrl (o.url base) p newGuid).map
            (fun subscription => QueryResult.records (subscription.apply records))
          = o.apply p newGuid' records) := by
  have hmap := map_ofUrl h horder hselect base p newGuid records
  refine ⟨fun e => ?_, fun hdraws => ?_⟩
  · rw [← QueryOptions.apply_eq_error_iff hselect newGuid newGuid' records, ← hmap, Except.map_eq_error_iff]
  · rw [hmap]
    rcases hdraws with hsettled | rfl
    · rw [QueryOptions.apply, QueryOptions.apply, hsettled newGuid newGuid']
    · rfl

/-- A place that items come from. -/
def feed : Url where
  scheme := "https".toList
  authority := some ⟨[], [], "feed.example".toList, none⟩
  path := "/items".toList
  query := some "page=1".toList
  fragment := none

/-- A query for items by a name with separators in it. -/
def named : QueryOptions where
  filter := some "Name eq 'a&b=c+d%' or Id eq 1".toList
  top := some 1

/-- Whatever is drawn for them, a subscription to items by name and the query for them find the same. -/
theorem apply_ofUrl_items : named.IsWritable ∧ FilterParser.items.IsSettled (named.filter.getD []) ∧
    ∀ newGuid newGuid',
      (ofUrl (named.url feed) FilterParser.items newGuid).map
          (fun subscription => QueryResult.records (subscription.apply QueryOptions.unflagged))
        = named.apply FilterParser.items newGuid' QueryOptions.unflagged := by
  have hwritable : named.IsWritable := ⟨by decide, nofun, nofun, nofun, by decide⟩
  have hsettled : FilterParser.items.IsSettled (named.filter.getD []) :=
    FilterParser.isSettled_of_not_mentions (by decide +kernel)
  exact ⟨hwritable, hsettled, fun newGuid newGuid' =>
    (apply_ofUrl hwritable rfl rfl feed FilterParser.items newGuid newGuid' QueryOptions.unflagged).2
      (.inl hsettled)⟩

/-- For keys above a new guid, a subscription passes on an item that a query with another guid does not find. -/
theorem apply_ofUrl_redrawn :
    (ofUrl (QueryOptions.aboveNew.url feed) QueryOptions.keyed .nil).map
        (fun subscription => QueryResult.records (subscription.apply [QueryOptions.middle]))
      = .ok (.records [QueryOptions.middle]) ∧
    QueryOptions.aboveNew.apply QueryOptions.keyed (.ofNat (2 ^ (128 : Nat) - 1)) [QueryOptions.middle]
      = .ok (.records []) := by
  have hwritable : QueryOptions.aboveNew.IsWritable := ⟨by decide, nofun, nofun, nofun, nofun⟩
  refine ⟨?_, QueryOptions.apply_aboveNew (.ofNat (2 ^ (128 : Nat) - 1)) false (by decide +kernel) none none⟩
  rw [map_ofUrl hwritable rfl rfl]
  exact QueryOptions.apply_aboveNew .nil true (by decide +kernel) none none

end Subscription
end RecordFilter
