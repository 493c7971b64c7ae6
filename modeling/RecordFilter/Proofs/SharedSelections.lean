import Mathlib.Data.List.Sort
import Mathlib.Data.String.Basic
import RecordFilter.Query.Selection

/-!
# Shared selections

Selections are handed out from a table, and what a request gets could depend on all requests before it. It
does not: every selection in the table is determined by its key, the record type and the names of the fields,
and every key has one entry with a number of its own. So each request gets the selection that it would get
from an empty table, and two requests share a selection if and only if they ask for the same fields of the
same record type, in any order, any number of times and with any blanks around the names.

Main statement: `SelectionTable.answers_coherent`.
-/

namespace RecordFilter

/-! ## Maps in ascending order -/

namespace FieldMap

variable {α : Type} {fields others : FieldMap α} {name : String} {value : α}

/-- Whether every name comes before all the later ones. -/
def IsAscending (fields : FieldMap α) : Prop :=
  fields.names.Pairwise (· < ·)

theorem mem_names_of_mem {entry : String × α} (h : entry ∈ fields) : entry.1 ∈ fields.names :=
  List.mem_map_of_mem h

theorem eq_or_mem_of_mem_insert {entry : String × α} (h : entry ∈ insert name value fields) :
    entry = (name, value) ∨ entry ∈ fields := by
  induction fields with
  | nil => exact .inl (List.mem_singleton.1 h)
  | cons pair rest ih =>
    rw [insert] at h
    grind

theorem mem_names_insert {other : String} :
    other ∈ names (insert name value fields) ↔ other = name ∨ other ∈ fields.names := by
  induction fields with
  | nil => simp [insert, names]
  | cons pair rest ih =>
    obtain ⟨present, found⟩ := pair
    rw [insert]
    split
    · simp [names]
    · split
      · rename_i hsame
        simp [names, hsame]
      · have hrest : ∀ map : FieldMap α, other ∈ names ((present, found) :: map) ↔
            other = present ∨ other ∈ map.names := fun _ => List.mem_cons
        rw [hrest, hrest, ih]
        tauto

theorem IsAscending.insert (h : fields.IsAscending) : IsAscending (insert name value fields) := by
  induction fields with
  | nil => exact List.pairwise_singleton ..
  | cons pair rest ih =>
    obtain ⟨present, found⟩ := pair
    obtain ⟨hfirst, hrest⟩ := List.pairwise_cons.1 h
    rw [FieldMap.insert]
    split
    · rename_i hlt
      refine List.pairwise_cons.2 ⟨fun other hother => ?_, h⟩
      rcases List.mem_cons.1 hother with rfl | hother
      · exact hlt
      · exact hlt.trans (hfirst other hother)
    · rename_i hle
      split
      · rename_i hsame
        subst hsame
        exact h
      · rename_i hdiffers
        refine List.pairwise_cons.2 ⟨fun other hother => ?_, ih hrest⟩
        rcases mem_names_insert.1 hother with rfl | hother
        · exact lt_of_le_of_ne (not_lt.1 hle) (Ne.symm hdiffers)
        · exact hfirst other hother

/-- Maps in ascending order have the same list of names if they have the same names. -/
theorem IsAscending.names_eq_iff (h : fields.IsAscending) (hothers : others.IsAscending) :
    fields.names = others.names ↔ ∀ name, name ∈ fields.names ↔ name ∈ others.names := by
  constructor
  · intro heq name
    rw [heq]
  · intro hmem
    have hperm := (List.perm_ext_iff_of_nodup (h.imp ne_of_lt) (hothers.imp ne_of_lt)).2 hmem
    exact hperm.eq_of_pairwise (fun _ _ _ _ hab hba => absurd hab hba.asymm) h hothers

/-- Two maps with the same list of names are equal if they agree on every name. -/
theorem eq_of_names_eq (hnames : fields.names = others.names)
    (h : ∀ name a b, (name, a) ∈ fields → (name, b) ∈ others → a = b) : fields = others := by
  induction fields generalizing others with
  | nil =>
    cases others with
    | nil => rfl
    | cons pair rest => cases hnames
  | cons pair rest ih =>
    cases others with
    | nil => cases hnames
    | cons pair' rest' =>
      obtain ⟨name, a⟩ := pair
      obtain ⟨name', b⟩ := pair'
      obtain ⟨rfl, hrest⟩ := List.cons.inj hnames
      rw [h name a b List.mem_cons_self List.mem_cons_self,
        ih hrest fun other x y hx hy => h other x y (List.mem_cons_of_mem _ hx) (List.mem_cons_of_mem _ hy)]

end FieldMap

/-! ## Selections -/

namespace Selection

/-- The names of a request, without the blanks around them. -/
def trimmedNames (names : List Text) : List String :=
  names.map fun name => String.ofList (Text.trim name)

/-- Whether the first name of a request that is no field is `unknown`, without the blanks around it. -/
def FirstUnknown (schema : RecordType) (names : List Text) (unknown : Text) : Prop :=
  ∃ before name after, names = before ++ name :: after ∧ unknown = Text.trim name ∧
    (∀ known ∈ trimmedNames before, (schema.field? known).isSome = true) ∧
    schema.field? (String.ofList unknown) = none

/-- A selection of exactly the fields that are asked for: each of them once, in ascending order of the names,
and with its type. All names that are asked for are fields. -/
structure Selects (schema : RecordType) (names : List Text) (selection : Selection) : Prop where
  known : ∀ name ∈ trimmedNames names, (schema.field? name).isSome = true
  schema_eq : selection.schema = schema.name
  ascending : selection.fields.IsAscending
  mem_iff : ∀ name type, (name, type) ∈ selection.fields ↔
    name ∈ trimmedNames names ∧ schema.field? name = some type

variable {schema : RecordType} {names names' : List Text} {selection selection' : Selection}

theorem FirstUnknown.cons {unknown : Text} (h : FirstUnknown schema names unknown) {name : Text}
    (hname : (schema.field? (String.ofList (Text.trim name))).isSome = true) :
    FirstUnknown schema (name :: names) unknown := by
  obtain ⟨before, first, after, rfl, htrim, hbefore, hnone⟩ := h
  exact ⟨name :: before, first, after, rfl, htrim, List.forall_mem_cons.2 ⟨hname, hbefore⟩, hnone⟩

namespace Selects

theorem mem_names_iff (h : Selects schema names selection) (name : String) :
    name ∈ selection.fields.names ↔ name ∈ trimmedNames names := by
  constructor
  · intro hname
    obtain ⟨field, hfield, rfl⟩ := List.mem_map.1 hname
    exact ((h.mem_iff ..).1 hfield).1
  · intro hname
    obtain ⟨type, htype⟩ := Option.isSome_iff_exists.1 (h.known name hname)
    exact FieldMap.mem_names_of_mem ((h.mem_iff name type).2 ⟨hname, htype⟩)

/-- The selections that are made for two requests have the same list of names if the requests have the same
names. -/
theorem names_eq_iff (h : Selects schema names selection) {schema' : RecordType}
    (h' : Selects schema' names' selection') : selection.fields.names = selection'.fields.names ↔
      ∀ name, name ∈ trimmedNames names ↔ name ∈ trimmedNames names' := by
  rw [h.ascending.names_eq_iff h'.ascending]
  simp only [h.mem_names_iff, h'.mem_names_iff]

/-- A selection is determined by the record type and the list of its names. -/
theorem eq_of_names_eq (h : Selects schema names selection) (h' : Selects schema names' selection')
    (hnames : selection.fields.names = selection'.fields.names) : selection = selection' := by
  obtain ⟨name, fields⟩ := selection
  obtain ⟨name', fields'⟩ := selection'
  have hschema : name = name' := h.schema_eq.trans h'.schema_eq.symm
  have hfields : fields = fields' := by
    refine FieldMap.eq_of_names_eq hnames fun field a b ha hb => ?_
    exact Option.some.inj (((h.mem_iff field a).1 ha).2.symm.trans ((h'.mem_iff field b).1 hb).2)
  rw [hschema, hfields]

/-- One more name puts its field into the selection. -/
theorem cons {fields : FieldMap ValueType} (h : Selects schema names ⟨schema.name, fields⟩) {name : Text}
    {type : ValueType} (htype : schema.field? (String.ofList (Text.trim name)) = some type) :
    Selects schema (name :: names)
      ⟨schema.name, FieldMap.insert (String.ofList (Text.trim name)) type fields⟩ where
  known := List.forall_mem_cons.2 ⟨Option.isSome_of_mem htype, h.known⟩
  schema_eq := rfl
  ascending := h.ascending.insert
  mem_iff other found := by
    have htyped : ∀ found, (other, found) ∈ FieldMap.insert (String.ofList (Text.trim name)) type fields →
        schema.field? other = some found := by
      intro found hfound
      rcases FieldMap.eq_or_mem_of_mem_insert hfound with heq | hmem
      · obtain ⟨rfl, rfl⟩ := Prod.mk.inj heq
        exact htype
      · exact ((h.mem_iff other found).1 hmem).2
    have hnames : other ∈ FieldMap.names (FieldMap.insert (String.ofList (Text.trim name)) type fields) ↔
        other ∈ trimmedNames (name :: names) := by
      rw [FieldMap.mem_names_insert, h.mem_names_iff]
      exact List.mem_cons.symm
    rw [← hnames]
    constructor
    · exact fun hmem => ⟨FieldMap.mem_names_of_mem hmem, htyped found hmem⟩
    · rintro ⟨hname, hfound⟩
      obtain ⟨⟨_, present⟩, hpresent, rfl⟩ := List.mem_map.1 hname
      rw [htyped present hpresent, Option.some.injEq] at hfound
      exact hfound ▸ hpresent

end Selects

/-- A request names something that is no field, or gets the fields that it names. -/
theorem fieldsOf_cases (schema : RecordType) (names : List Text) :
    (∃ unknown, FirstUnknown schema names unknown ∧
      fieldsOf schema names = .error (.unknownField unknown)) ∨
    ∃ fields, Selects schema names ⟨schema.name, fields⟩ ∧ fieldsOf schema names = .ok fields := by
  induction names with
  | nil =>
    refine .inr ⟨[], ⟨nofun, rfl, .nil, fun name type => ?_⟩, rfl⟩
    simp [trimmedNames]
  | cons name rest ih =>
    cases htype : schema.field? (String.ofList (Text.trim name)) with
    | none =>
      refine .inl ⟨Text.trim name, ⟨[], name, rest, rfl, rfl, nofun, htype⟩, ?_⟩
      rw [fieldsOf, htype]
    | some type =>
      rcases ih with ⟨unknown, hfirst, herror⟩ | ⟨fields, hselects, hfields⟩
      · refine .inl ⟨unknown, hfirst.cons (Option.isSome_of_mem htype), ?_⟩
        rw [fieldsOf, htype, herror]
        rfl
      · refine .inr ⟨_, hselects.cons htype, ?_⟩
        rw [fieldsOf, htype, hfields]
        rfl

theorem FirstUnknown.fieldsOf_eq {unknown : Text} (h : FirstUnknown schema names unknown) :
    fieldsOf schema names = .error (.unknownField unknown) := by
  obtain ⟨before, name, after, rfl, rfl, hbefore, hnone⟩ := h
  induction before with
  | nil => rw [List.nil_append, fieldsOf, hnone]
  | cons first before ih =>
    obtain ⟨hfirst, hbefore⟩ := List.forall_mem_cons.1 hbefore
    obtain ⟨type, htype⟩ := Option.isSome_iff_exists.1 hfirst
    rw [List.cons_append, fieldsOf, htype, ih hbefore]
    rfl

theorem FirstUnknown.not_selects {unknown : Text} (h : FirstUnknown schema names unknown) :
    ¬ Selects schema names selection := by
  intro hselects
  obtain ⟨before, name, after, rfl, rfl, -, hnone⟩ := h
  have hknown := hselects.known (String.ofList (Text.trim name)) (by simp [trimmedNames])
  simp [hnone] at hknown

theorem resolve_eq_ok_iff : resolve schema names = .ok selection ↔ Selects schema names selection := by
  rcases fieldsOf_cases schema names with ⟨unknown, hfirst, herror⟩ | ⟨fields, hselects, hfields⟩
  · rw [resolve, herror]
    exact ⟨nofun, fun h => absurd h hfirst.not_selects⟩
  · rw [resolve, hfields]
    constructor
    · rintro ⟨⟩
      exact hselects
    · intro h
      exact congrArg Except.ok (hselects.eq_of_names_eq h ((hselects.names_eq_iff h).2 fun _ => Iff.rfl))

theorem resolve_eq_error_iff {error : QueryError} : resolve schema names = .error error ↔
    ∃ unknown, FirstUnknown schema names unknown ∧ error = .unknownField unknown := by
  rcases fieldsOf_cases schema names with ⟨unknown, hfirst, herror⟩ | ⟨fields, hselects, hfields⟩
  · rw [resolve, herror]
    constructor
    · rintro ⟨⟩
      exact ⟨unknown, hfirst, rfl⟩
    · rintro ⟨other, hother, rfl⟩
      rw [← herror, hother.fieldsOf_eq]
      rfl
  · rw [resolve, hfields]
    exact ⟨nofun, fun ⟨_, hfirst, _⟩ => absurd hselects hfirst.not_selects⟩

end Selection

/-! ## The table -/

namespace Memo

variable {κ α : Type} [BEq κ] [LawfulBEq κ] {memo : Memo κ α} {key : κ} {value : α}

/-- The keys in the order in which they came. -/
def keys (memo : Memo κ α) : List κ :=
  memo.entries.map Prod.fst

/-- A key that is found leaves the table as it is; a key that is missing is put at the end. -/
theorem getOrStore_cases (memo : Memo κ α) (key : κ) (value : α) :
    (∃ present, (key, present) ∈ memo.entries ∧ memo.getOrStore key value = (memo, present)) ∨
    key ∉ memo.keys ∧ memo.getOrStore key value = (⟨memo.entries ++ [(key, value)]⟩, value) := by
  cases hget : memo.get? key with
  | some present =>
    obtain ⟨before, after, hentries, -⟩ := List.lookup_eq_some_iff.1 hget
    refine .inl ⟨present, ?_, by rw [getOrStore, hget]⟩
    rw [hentries]
    exact List.mem_append_right _ List.mem_cons_self
  | none =>
    refine .inr ⟨fun hmem => ?_, by simp only [getOrStore, store, hget]⟩
    obtain ⟨entry, hentry, rfl⟩ := List.mem_map.1 hmem
    simpa using List.lookup_eq_none_iff.1 hget entry hentry

end Memo

namespace SelectionTable

/-- A request for fields of a record type. -/
abbrev Request := RecordType × List Text

/-- The key under which the selection for a request is kept. -/
def keyOf (request : Request) (selection : Selection) : RecordType × List String :=
  (request.1, selection.fields.names)

/-- The table after a request. Names that give no selection leave it as it is. -/
def after (table : SelectionTable) (request : Request) : SelectionTable :=
  match table.resolve request.1 request.2 with
  | .ok (table, _) => table
  | .error _ => table

/-- The answer to a request. -/
def answer (table : SelectionTable) (request : Request) : Except QueryError SharedSelection :=
  (table.resolve request.1 request.2).map Prod.snd

/-- The table after requests that are made one after another, where nothing was handed out before. -/
def reached (requests : List Request) : SelectionTable :=
  requests.foldl after Memo.empty

/-- A table in which each key has one entry, each entry has the number of its place, and each selection is
one of the fields in its key. -/
structure IsCoherent (table : SelectionTable) : Prop where
  unique : table.keys.Nodup
  numbered : ∀ entry ∈ table.entries, table.entries[entry.2.number]? = some entry
  resolved : ∀ entry ∈ table.entries, ∃ names, Selection.Selects entry.1.1 names entry.2.selection ∧
    entry.1 = keyOf (entry.1.1, names) entry.2.selection

variable {table : SelectionTable} {request : Request}

theorem isCoherent_empty : IsCoherent Memo.empty where
  unique := List.nodup_nil
  numbered := nofun
  resolved := nofun

namespace IsCoherent

/-- A new key with the selection that it stands for is put at the end. -/
theorem append (h : table.IsCoherent) {selection : Selection}
    (hselects : Selection.Selects request.1 request.2 selection)
    (hkey : keyOf request selection ∉ table.keys) :
    IsCoherent ⟨table.entries ++ [(keyOf request selection, ⟨table.size, selection⟩)]⟩ where
  unique := by
    rw [Memo.keys, List.map_append]
    refine h.unique.append (List.nodup_singleton _) fun key hmem hlast => ?_
    rw [List.mem_singleton.1 hlast] at hmem
    exact hkey hmem
  numbered entry hentry := by
    rcases List.mem_append.1 hentry with hentry | hentry
    · have hplace := h.numbered entry hentry
      rw [List.getElem?_append_left (List.getElem?_eq_some_iff.1 hplace).1, hplace]
    · rw [List.mem_singleton.1 hentry]
      exact List.getElem?_concat_length ..
  resolved entry hentry := by
    rcases List.mem_append.1 hentry with hentry | hentry
    · exact h.resolved entry hentry
    · rw [List.mem_singleton.1 hentry]
      exact ⟨request.2, hselects, rfl⟩

/-- A request names something that is no field, and leaves the table as it is; or it gets the selection of the
fields that it names, which is in the table then, together with all that was there. -/
theorem answer_cases (h : table.IsCoherent) (request : Request) :
    (∃ unknown, Selection.FirstUnknown request.1 request.2 unknown ∧
      table.answer request = .error (.unknownField unknown) ∧ table.after request = table) ∨
    ∃ shared, Selection.Selects request.1 request.2 shared.selection ∧ table.answer request = .ok shared ∧
      (table.after request).IsCoherent ∧ table.entries <+: (table.after request).entries ∧
      (keyOf request shared.selection, shared) ∈ (table.after request).entries := by
  cases hselection : Selection.resolve request.1 request.2 with
  | error error =>
    obtain ⟨unknown, hfirst, rfl⟩ := Selection.resolve_eq_error_iff.1 hselection
    have hresolve : table.resolve request.1 request.2 = .error (.unknownField unknown) := by
      rw [resolve, hselection]
      rfl
    exact .inl ⟨unknown, hfirst, by rw [answer, hresolve]; rfl, by rw [after, hresolve]⟩
  | ok selection =>
    have hselects := Selection.resolve_eq_ok_iff.1 hselection
    have hresolve : table.resolve request.1 request.2 =
        .ok (table.getOrStore (keyOf request selection) ⟨table.size, selection⟩) := by
      rw [resolve, hselection]
      rfl
    rw [answer, after, hresolve]
    refine .inr ?_
    rcases table.getOrStore_cases (keyOf request selection) ⟨table.size, selection⟩ with
      ⟨present, hpresent, hfound⟩ | ⟨hkey, hstored⟩
    · rw [hfound]
      -- what is found under the key is the selection that would be made
      obtain ⟨names, hnames, hkey⟩ := h.resolved _ hpresent
      have hsame : selection = present.selection :=
        hselects.eq_of_names_eq hnames (congrArg Prod.snd hkey)
      rw [hsame] at hselects hpresent
      exact ⟨present, hselects, rfl, h, List.prefix_rfl, hpresent⟩
    · rw [hstored]
      exact ⟨_, hselects, rfl, h.append hselects hkey, List.prefix_append ..,
        List.mem_append_right _ List.mem_cons_self⟩

/-- The selection in an answer does not depend on the table. -/
theorem map_answer (h : table.IsCoherent) (request : Request) :
    (table.answer request).map SharedSelection.selection = Selection.resolve request.1 request.2 := by
  rcases h.answer_cases request with ⟨unknown, hfirst, herror, -⟩ | ⟨shared, hselects, hok, -⟩
  · rw [herror, Selection.resolve_eq_error_iff.2 ⟨unknown, hfirst, rfl⟩]
    rfl
  · rw [hok, Selection.resolve_eq_ok_iff.2 hselects]
    rfl

/-- Requests put entries at the end of the table and leave all others. -/
theorem foldl (h : table.IsCoherent) (requests : List Request) :
    (requests.foldl after table).IsCoherent ∧ table.entries <+: (requests.foldl after table).entries := by
  induction requests generalizing table with
  | nil => exact ⟨h, List.prefix_rfl⟩
  | cons request rest ih =>
    rcases h.answer_cases request with ⟨-, -, -, hsame⟩ | ⟨-, -, -, hafter, hgrows, -⟩
    · rw [List.foldl_cons, hsame]
      exact ih h
    · obtain ⟨hcoherent, hmore⟩ := ih hafter
      exact ⟨hcoherent, hgrows.trans hmore⟩

/-- Entries with one number are the same, and so are entries with one key. -/
theorem number_eq_iff (h : table.IsCoherent) {key key' : RecordType × List String}
    {shared shared' : SharedSelection} (hentry : (key, shared) ∈ table.entries)
    (hentry' : (key', shared') ∈ table.entries) :
    (shared.number = shared'.number ↔ key = key') ∧ (shared.number = shared'.number → shared = shared') := by
  have hplace := h.numbered _ hentry
  have hplace' := h.numbered _ hentry'
  have hsame : shared.number = shared'.number → (key, shared) = (key', shared') := by
    intro hnumber
    rw [hnumber] at hplace
    exact Option.some.inj (hplace.symm.trans hplace')
  refine ⟨⟨fun hnumber => congrArg Prod.fst (hsame hnumber), fun hkey => ?_⟩,
    fun hnumber => congrArg Prod.snd (hsame hnumber)⟩
  have heq := List.inj_on_of_nodup_map h.unique hentry hentry' hkey
  exact congrArg (fun entry => entry.2.number) heq

end IsCoherent

theorem isCoherent_reached (requests : List Request) : (reached requests).IsCoherent :=
  (isCoherent_empty.foldl requests).1

/-- In a `reached` table a request gets the selection it gets from an empty one, which `Selects` its names, or
else the error of its `FirstUnknown` name, which leaves the table as it is. Two requests share a number if and
only if they have the same record type and the same `trimmedNames`. -/
theorem answers_coherent (before : List Request) (first : Request) :
    ((reached before).answer first).map SharedSelection.selection
        = (answer Memo.empty first).map SharedSelection.selection ∧
    (∀ error, (reached before).answer first = .error error ↔
      ∃ unknown, Selection.FirstUnknown first.1 first.2 unknown ∧ error = .unknownField unknown) ∧
    (∀ error, (reached before).answer first = .error error → (reached before).after first = reached before) ∧
    ∀ shared, (reached before).answer first = .ok shared →
      Selection.Selects first.1 first.2 shared.selection ∧
      ∀ between second shared', (reached (before ++ first :: between)).answer second = .ok shared' →
        (shared.number = shared'.number ↔ first.1 = second.1 ∧ ∀ name,
          name ∈ Selection.trimmedNames first.2 ↔ name ∈ Selection.trimmedNames second.2) ∧
        (shared.number = shared'.number → shared = shared') := by
  have h := isCoherent_reached before
  have hmap := h.map_answer first
  refine ⟨hmap.trans (isCoherent_empty.map_answer first).symm, fun error => ?_, fun error herror => ?_,
    fun shared hok => ?_⟩
  · rw [← Selection.resolve_eq_error_iff, ← hmap]
    cases (reached before).answer first <;> simp [Except.map]
  · rcases h.answer_cases first with ⟨-, -, -, hsame⟩ | ⟨shared, -, hok, -⟩
    · exact hsame
    · rw [hok] at herror
      cases herror
  · rcases h.answer_cases first with ⟨_, -, herror, -⟩ | ⟨given, hselects, hgiven, hafter, -, hentry⟩
    · rw [herror] at hok
      cases hok
    rw [hgiven] at hok
    cases hok
    refine ⟨hselects, fun between second shared' hok' => ?_⟩
    have hreached : reached (before ++ first :: between)
        = between.foldl after ((reached before).after first) := by
      rw [reached, List.foldl_append]
      rfl
    rw [hreached] at hok'
    obtain ⟨hbetween, hgrows⟩ := hafter.foldl between
    rcases hbetween.answer_cases second with
      ⟨_, -, herror', -⟩ | ⟨given', hselects', hgiven', hfinal, hgrows', hentry'⟩
    · rw [herror'] at hok'
      cases hok'
    rw [hgiven'] at hok'
    cases hok'
    -- both selections are in the last table, each under its key
    obtain ⟨hnumber, hshared⟩ := hfinal.number_eq_iff (hgrows'.subset (hgrows.subset hentry)) hentry'
    refine ⟨?_, hshared⟩
    rw [hnumber, keyOf, keyOf, Prod.mk.injEq]
    exact and_congr_right fun hschema => hselects.names_eq_iff hselects'

example :
    let schema : RecordType := ⟨"Item", [("A", .int32), ("B", .string)]⟩
    let first : Request := (schema, ["B".toList, " A".toList])
    let second : Request := (schema, ["A".toList, "B".toList, "A".toList])
    (reached [first]).answer second = (reached []).answer first ∧
      (reached [first]).answer (schema, ["A".toList, "C ".toList]) = .error (.unknownField "C".toList) := by
  exact ⟨rfl, rfl⟩

end SelectionTable

end RecordFilter
