import RecordFilter.Proofs.DrawnGuids
import RecordFilter.Proofs.ParserTyping
import RecordFilter.Proofs.RecordOrder

/-!
# Sorting and paging

What a query finds is a window of the accepted records, arranged in the order of the keys such that ties
stay as they were. All pages of one size, one after the other, are all records, if the filter is settled:
every page is a query of its own, for which a guid is drawn anew.

Main statements: `SortKey.isArrangement_sort` and `QueryOptions.apply_pages`.
-/

namespace RecordFilter

/-! ## Arrangements -/

/-- The same items, arranged in an order such that ties stay in their order. -/
structure IsArrangement {α : Type} (order : α → α → Ordering) (ties : α → α → Bool)
    (items arranged : List α) : Prop where
  perm : arranged.Perm items
  ordered : arranged.Pairwise fun a b => (order a b).isLE = true
  stable : ∀ item ∈ items, arranged.filter (ties item) = items.filter (ties item)

namespace SortKey

/-! ## Sorting -/

section Sorting

variable {α : Type} {P : α → Prop} {order : α → α → Ordering} {ties : α → α → Bool}

theorem insertSorted_perm (item : α) (sorted : List α) :
    (insertSorted order item sorted).Perm (item :: sorted) := by
  induction sorted with
  | nil => exact .refl _
  | cons last rest ih =>
    rw [insertSorted]
    split
    · exact (ih.cons last).trans (.swap item last rest)
    · exact .refl _

/-- Inserting keeps the order, which is in reverse here: the item goes in front of all that it is not
less than. -/
theorem insertSorted_ordered (horder : IsPreorderOn P order) {item : α} (hitem : P item)
    {sorted : List α} (hsorted : ∀ a ∈ sorted, P a)
    (h : sorted.Pairwise fun a b => (order b a).isLE = true) :
    (insertSorted order item sorted).Pairwise fun a b => (order b a).isLE = true := by
  induction sorted with
  | nil => exact List.pairwise_singleton _ _
  | cons last rest ih =>
    obtain ⟨hlast, hrest⟩ := List.forall_mem_cons.1 hsorted
    obtain ⟨hbelow, hpairwise⟩ := List.pairwise_cons.1 h
    rw [insertSorted]
    split
    · rename_i hlt
      refine List.pairwise_cons.2 ⟨fun a ha => ?_, ih hrest hpairwise⟩
      rcases List.mem_cons.1 ((insertSorted_perm item rest).mem_iff.1 ha) with rfl | ha
      · rw [hlt]
        rfl
      · exact hbelow a ha
    · rename_i hlt
      have hle : (order last item).isLE = true := horder.le_of_not_lt hitem hlast hlt
      refine List.pairwise_cons.2 ⟨fun a ha => ?_, h⟩
      rcases List.mem_cons.1 ha with rfl | ha
      · exact hle
      · exact horder.trans (hrest a ha) hlast hitem (hbelow a ha) hle

/-- Inserting an item puts it in front of all that it ties with: what it passes is greater. -/
theorem insertSorted_stable (horder : IsPreorderOn P order)
    (hties : ∀ a b, P a → P b → (order a b = .eq ↔ ties a b = true)) {item other : α} (hitem : P item)
    (hother : P other) {sorted : List α} (hsorted : ∀ a ∈ sorted, P a) :
    (insertSorted order item sorted).filter (ties other) = (item :: sorted).filter (ties other) := by
  induction sorted with
  | nil => rfl
  | cons last rest ih =>
    obtain ⟨hlast, hrest⟩ := List.forall_mem_cons.1 hsorted
    rw [insertSorted]
    split
    · rename_i hlt
      rw [List.filter_cons, ih hrest]
      by_cases hitem' : ties other item = true
      -- what ties with the item cannot be greater than it, so none of it is passed
      · have hnot : ¬ ties other last = true := by
          intro hlast'
          have hitemTie := (hties other item hother hitem).2 hitem'
          have hlastTie := (hties other last hother hlast).2 hlast'
          rw [← horder.congr hother hitem hlast hitemTie, hlastTie] at hlt
          cases hlt
        rw [if_neg hnot, List.filter_cons_of_pos hitem', List.filter_cons_of_pos hitem',
          List.filter_cons_of_neg hnot]
      · rw [List.filter_cons_of_neg hitem', List.filter_cons_of_neg hitem', List.filter_cons]
    · rfl

/-- The invariant of sorting: what is sorted so far is an arrangement in reverse. -/
structure IsSorted (P : α → Prop) (order : α → α → Ordering) (ties : α → α → Bool)
    (items sorted : List α) : Prop where
  perm : sorted.Perm items
  ordered : sorted.Pairwise fun a b => (order b a).isLE = true
  stable : ∀ other, P other → sorted.filter (ties other) = (items.filter (ties other)).reverse

/-- One more item. -/
theorem IsSorted.insert (horder : IsPreorderOn P order)
    (hties : ∀ a b, P a → P b → (order a b = .eq ↔ ties a b = true)) {items sorted : List α} {item : α}
    (h : IsSorted P order ties items sorted) (hitem : P item) (hitems : ∀ a ∈ items, P a) :
    IsSorted P order ties (items ++ [item]) (insertSorted order item sorted) := by
  have hsorted : ∀ a ∈ sorted, P a := fun a ha => hitems a (h.perm.mem_iff.1 ha)
  refine ⟨?_, insertSorted_ordered horder hitem hsorted h.ordered, fun other hother => ?_⟩
  · calc (insertSorted order item sorted).Perm (item :: sorted) := insertSorted_perm item sorted
      _ |>.Perm (item :: items) := h.perm.cons item
      _ |>.Perm (items ++ [item]) := (List.perm_append_singleton item items).symm
  · rw [insertSorted_stable horder hties hitem hother hsorted, List.filter_cons, h.stable other hother,
      List.filter_append, List.reverse_append]
    by_cases hitem' : ties other item = true
    · rw [if_pos hitem', List.filter_cons_of_pos hitem']
      rfl
    · rw [if_neg hitem', List.filter_cons_of_neg hitem']
      rfl

/-- Any number of items more. -/
theorem IsSorted.foldl (horder : IsPreorderOn P order)
    (hties : ∀ a b, P a → P b → (order a b = .eq ↔ ties a b = true)) {more items sorted : List α}
    (h : IsSorted P order ties items sorted) (hmore : ∀ a ∈ more, P a) (hitems : ∀ a ∈ items, P a) :
    IsSorted P order ties (items ++ more)
      (more.foldl (fun sorted item => insertSorted order item sorted) sorted) := by
  induction more generalizing items sorted with
  | nil =>
    rw [List.append_nil]
    exact h
  | cons item more ih =>
    obtain ⟨hitem, hmore⟩ := List.forall_mem_cons.1 hmore
    rw [List.foldl_cons, List.append_cons]
    refine ih (h.insert horder hties hitem hitems) hmore fun a ha => ?_
    rcases List.mem_append.1 ha with ha | ha
    · exact hitems a ha
    · rw [List.mem_singleton.1 ha]
      exact hitem

/-- Sorting by a preorder is an arrangement. -/
theorem isArrangement_sort (horder : IsPreorderOn P order)
    (hties : ∀ a b, P a → P b → (order a b = .eq ↔ ties a b = true)) {items : List α}
    (hitems : ∀ a ∈ items, P a) : IsArrangement order ties items (sort order items) := by
  have hstart : IsSorted P order ties [] [] := ⟨.refl _, .nil, fun _ _ => rfl⟩
  have h := hstart.foldl horder hties hitems (by simp)
  rw [List.nil_append] at h
  refine ⟨(List.reverse_perm _).trans h.perm, List.pairwise_reverse.2 h.ordered, fun item hitem => ?_⟩
  rw [sort, List.filter_reverse, h.stable item (hitems item hitem), List.reverse_reverse]

/-- Items of which none is less than another stay where they are. -/
theorem sort_eq_self (h : ∀ a b, order a b ≠ .lt) (items : List α) : sort order items = items := by
  have hinsert : ∀ (item : α) (sorted : List α), insertSorted order item sorted = item :: sorted := by
    intro item sorted
    cases sorted with
    | nil => rfl
    | cons last rest => rw [insertSorted, if_neg (h item last)]
  simp only [sort, hinsert, List.foldl_flip_cons_eq_append', List.append_nil, List.reverse_reverse]

end Sorting

/-! ## Decorated items -/

section Decorated

variable {α β : Type} {order : β → β → Ordering}

theorem insertSorted_map (f : α → β) (item : α) (sorted : List α) :
    insertSorted order (f item) (sorted.map f)
      = (insertSorted (fun a b => order (f a) (f b)) item sorted).map f := by
  induction sorted with
  | nil => rfl
  | cons last rest ih =>
    rw [List.map_cons, insertSorted, insertSorted]
    split
    · rw [ih, List.map_cons]
    · rfl

/-- Items can be sorted by what they are decorated with. -/
theorem sort_map (f : α → β) (items : List α) :
    sort order (items.map f) = (sort (fun a b => order (f a) (f b)) items).map f := by
  -- for every list that is sorted so far, since the fold changes it
  have h : ∀ sorted : List α, (items.map f).foldl (fun sorted item => insertSorted order item sorted)
      (sorted.map f) = (items.foldl (fun sorted item =>
        insertSorted (fun a b => order (f a) (f b)) item sorted) sorted).map f := by
    induction items with
    | nil => exact fun _ => rfl
    | cons item items ih =>
      intro sorted
      rw [List.map_cons, List.foldl_cons, List.foldl_cons, insertSorted_map, ih]
  rw [sort, sort, List.map_reverse, ← h []]
  rfl

end Decorated

end SortKey

/-- Records are sorted by the order of the keys. -/
theorem Record.sortBy_eq (keys : List (PropertyPath × Bool)) (records : List Record) :
    Record.sortBy keys records = SortKey.sort (Record.order keys) records := by
  rw [Record.sortBy, SortKey.sort_map, List.map_map]
  exact List.map_id _

/-! ## Pages -/

/-- The first pages of one size, one after the other, are the first items. -/
theorem flatMap_window {α : Type} (items : List α) (n count : Nat) :
    (List.range count).flatMap (fun i => window (some (i * n)) (some n) items) = items.take (count * n) := by
  induction count with
  | zero => simp
  | succ count ih =>
    rw [List.range_succ, List.flatMap_append, ih, List.flatMap_singleton, Nat.succ_mul, List.take_add]
    rfl

namespace QueryOptions

variable {p : FilterParser} {newGuid : Guid} {options : QueryOptions} {filter : CompiledFilter}

/-- Without a selection, a query finds whole records. -/
theorem apply_window (hselect : options.select = [])
    (hfilter : p.compile newGuid (options.filter.getD []) = .ok filter) (records : List Record)
    (skip top : Option Nat) :
    ({ options with skip, top }).apply p newGuid records = .ok (.records (window skip top
      (SortKey.sort (Record.order (SortKey.resolve p.schema options.orderBy))
        (records.filter fun record => filter.accepts record.reader)))) := by
  rw [apply, hfilter, hselect, ← Record.sortBy_eq]
  rfl

/-- Whether a query without a selection is rejected does not depend on what is drawn for it. -/
theorem apply_eq_error_iff (hselect : options.select = []) (newGuid newGuid' : Guid) (records : List Record)
    {e : QueryError} :
    options.apply p newGuid records = .error e ↔ options.apply p newGuid' records = .error e := by
  have hcompiled := p.related_compile newGuid newGuid' (options.filter.getD [])
  rw [apply, apply, hselect]
  generalize p.compile newGuid (options.filter.getD []) = x, p.compile newGuid' (options.filter.getD []) = y
    at hcompiled
  cases hcompiled with
  | error e => exact Iff.rfl
  | ok _ => exact ⟨nofun, nofun⟩

/-- On records that are read from JSON, keys that are not doubles are a preorder, in any mix of directions. What
a query without a selection finds is a `window` of the accepted records, arranged in this order such that
records that tie on every key stay in their order. If the filter `IsSettled`, all pages of `n` records, one
after the other, are what the query finds without a window, whatever is drawn for each of them. -/
theorem apply_pages (hselect : options.select = [])
    (hfilter : p.compile newGuid (options.filter.getD []) = .ok filter)
    (hkeys : ∀ key ∈ options.orderBy, ∀ path type, p.schema.resolvePath? key.path = some (path, type) →
      type.underlying ≠ .double)
    {records : List Record} (hrecords : ∀ record ∈ records, record.IsOf p.schema) :
    IsPreorderOn (Record.IsOf p.schema) (Record.order (SortKey.resolve p.schema options.orderBy)) ∧
      ∃ arranged, IsArrangement (Record.order (SortKey.resolve p.schema options.orderBy))
          (Record.ties (SortKey.resolve p.schema options.orderBy))
          (records.filter fun record => filter.accepts record.reader) arranged ∧
        options.apply p newGuid records = .ok (.records (window options.skip options.top arranged)) ∧
        ({ options with skip := none, top := none }).apply p newGuid records = .ok (.records arranged) ∧
        ∀ (n : Nat) (draws : Nat → Guid), p.IsSettled (options.filter.getD []) ∨ (∀ i, draws i = newGuid) →
          ∃ pages : Nat → List Record,
            (∀ i, ({ options with skip := some (i * n), top := some n }).apply p (draws i) records
              = .ok (.records (pages i))) ∧
            ∀ count, arranged.length ≤ count * n → (List.range count).flatMap pages = arranged := by
  have hkeys' := Record.isPreorderOn_key hkeys
  have horder : IsPreorderOn (Record.IsOf p.schema)
      (Record.order (SortKey.resolve p.schema options.orderBy)) := Record.isPreorderOn_order hkeys'
  have hties : ∀ a b : Record, a.IsOf p.schema → b.IsOf p.schema →
      (Record.order (SortKey.resolve p.schema options.orderBy) a b = .eq ↔
        Record.ties (SortKey.resolve p.schema options.orderBy) a b = true) :=
    fun a b ha hb => Record.order_eq_iff hkeys' ha hb
  have haccepted : ∀ record ∈ records.filter fun record => filter.accepts record.reader,
      record.IsOf p.schema := fun record hrecord => hrecords record (List.mem_filter.1 hrecord).1
  refine ⟨horder, _, SortKey.isArrangement_sort horder hties haccepted,
    apply_window hselect hfilter records options.skip options.top,
    apply_window hselect hfilter records none none, fun n draws hdraws => ?_⟩
  have hdraw : ∀ i, p.compile (draws i) (options.filter.getD []) = .ok filter := by
    intro i
    rcases hdraws with hsettled | hsame
    · rw [hsettled (draws i) newGuid, hfilter]
    · rw [hsame i, hfilter]
  refine ⟨_, fun i => apply_window hselect (hdraw i) records (some (i * n)) (some n), fun count hcount => ?_⟩
  rw [flatMap_window, List.take_of_length_le hcount]

/-- All items, by descending names and then by numbers. -/
def byName : QueryOptions where
  orderBy := [⟨"Name".toList, true⟩, ⟨"Id".toList, false⟩]

/-- Items without a flag, of which one has no name. -/
def unflagged : List Record :=
  [[("Flag", .null), ("Id", .int32 2), ("Name", .null)],
    [("Flag", .null), ("Id", .int32 2), ("Name", .string "b")],
    [("Flag", .null), ("Id", .int32 1), ("Name", .string "b")]]

/-- Two pages of two items are all three items, whatever is drawn for them. -/
theorem apply_pages_items :
    ∃ (arranged : List Record) (pages : Nat → List Record),
      byName.apply FilterParser.items .nil unflagged = .ok (.records arranged) ∧
      arranged.Perm unflagged ∧
      (∀ i, ({ byName with skip := some (i * 2), top := some 2 }).apply FilterParser.items (.ofNat i) unflagged
        = .ok (.records (pages i))) ∧
      pages 0 ++ pages 1 = arranged := by
  have hfilter : FilterParser.items.compile .nil [] = .ok ⟨none, .exact⟩ := by
    rw [FilterParser.compile, FilterParser.parse, FilterParser.parseExpression_of_blank rfl]
    rfl
  have hkeys : ∀ key ∈ byName.orderBy, ∀ path type,
      FilterParser.items.schema.resolvePath? key.path = some (path, type) → type.underlying ≠ .double := by
    intro key hkey path type hpath
    simp only [byName, List.mem_cons, List.not_mem_nil, or_false] at hkey
    rcases hkey with rfl | rfl <;> cases hpath <;> decide
  have hrecords : ∀ record ∈ unflagged, Record.IsOf FilterParser.items.schema record := by
    intro record hrecord
    simp only [unflagged, List.mem_cons, List.not_mem_nil, or_false] at hrecord
    rcases hrecord with rfl | rfl | rfl
    · exact ⟨.object [("Id", .int 2)], rfl⟩
    · exact ⟨.object [("Id", .int 2), ("Name", .string "b")], rfl⟩
    · exact ⟨.object [("Id", .int 1), ("Name", .string "b")], rfl⟩
  have hsettled : FilterParser.items.IsSettled (byName.filter.getD []) :=
    FilterParser.isSettled_of_not_mentions (by decide)
  obtain ⟨-, arranged, harranged, hresult, -, hpages⟩ := apply_pages rfl hfilter hkeys hrecords
  obtain ⟨pages, happly, hall⟩ := hpages 2 .ofNat (.inl hsettled)
  have hperm : arranged.Perm unflagged := harranged.perm
  refine ⟨arranged, pages, hresult, hperm, happly, ?_⟩
  have hlength : arranged.length ≤ 2 * 2 := by
    rw [hperm.length_eq]
    decide
  rw [← hall 2 hlength]
  simp [List.range_succ]

/-- Items with a key that is greater than a new one. -/
def aboveNew : QueryOptions where
  filter := some "Key gt newguid()".toList

/-- A parser for items with a key. -/
def keyed : FilterParser where
  schema := ⟨"Item", [("Key", .guid)]⟩

/-- An item with a key in the middle. -/
def middle : Record :=
  [("Key", .guid (.ofNat (2 ^ (127 : Nat))))]

theorem apply_aboveNew (draw : Guid) (accepted : Bool)
    (h : (keyed.compile draw "Key gt newguid()".toList).toOption.map
        (fun filter => filter.accepts middle.reader)
      = some accepted) (skip top : Option Nat) :
    ({ aboveNew with skip, top }).apply keyed draw [middle]
      = .ok (.records (window skip top (if accepted then [middle] else []))) := by
  obtain ⟨filter, hfilter, haccepts⟩ := Except.exists_of_map h
  have happly : ({ aboveNew with skip, top }).apply keyed draw [middle] = _ :=
    apply_window rfl hfilter [middle] skip top
  have hfound : ([middle].filter fun record => filter.accepts record.reader)
      = if accepted then [middle] else [] := by
    cases accepted <;> simp [haccepts]
  rw [happly, hfound]
  cases accepted <;> rfl

/-- A filter that is not settled: with one guid the query finds nothing, and with another one there is an item
on its first page. -/
theorem apply_pages_redrawn :
    aboveNew.apply keyed (.ofNat (2 ^ (128 : Nat) - 1)) [middle] = .ok (.records []) ∧
      ({ aboveNew with skip := some 0, top := some 1 }).apply keyed .nil [middle] = .ok (.records [middle]) :=
  ⟨apply_aboveNew (.ofNat (2 ^ (128 : Nat) - 1)) false (by decide +kernel) none none,
    apply_aboveNew .nil true (by decide +kernel) (some 0) (some 1)⟩

end QueryOptions

end RecordFilter
