import RecordFilter.Proofs.Typing
import RecordFilter.Query.Result

/-!
# The order of records

Records are sorted by several keys, ascending or descending. A key compares two values; null comes
first, and what cannot be compared counts as equal, which is safe only if all values of a key are of
one type: two doubles may be incomparable to a third one, but values of any other type are not.

Main statement: on records that are read from JSON, the order by any keys that are not doubles is a
total preorder.
-/

namespace RecordFilter

/-! ## Preorders -/

/-- A comparison of items that is a total preorder on those with a property: the other way round it
gives the reverse answer, and it is transitive. -/
def IsPreorderOn {α : Type} (P : α → Prop) (order : α → α → Ordering) : Prop :=
  Std.TransCmp fun a b : {a // P a} => order a b

namespace IsPreorderOn

variable {α : Type} {P : α → Prop} {order : α → α → Ordering} {a b c : α}

theorem swap (h : IsPreorderOn P order) (ha : P a) (hb : P b) : order a b = (order b a).swap :=
  h.eq_swap (a := ⟨a, ha⟩) (b := ⟨b, hb⟩)

theorem trans (h : IsPreorderOn P order) (ha : P a) (hb : P b) (hc : P c)
    (hab : (order a b).isLE = true) (hbc : (order b c).isLE = true) : (order a c).isLE = true :=
  h.isLE_trans (a := ⟨a, ha⟩) (b := ⟨b, hb⟩) (c := ⟨c, hc⟩) hab hbc

/-- What does not come before something comes after it, or ties with it. -/
theorem le_of_not_lt (h : IsPreorderOn P order) (ha : P a) (hb : P b) (hlt : order a b ≠ .lt) :
    (order b a).isLE = true := by
  rw [h.swap hb ha]
  cases hab : order a b with
  | lt => exact absurd hab hlt
  | eq => rfl
  | gt => rfl

theorem total (h : IsPreorderOn P order) (ha : P a) (hb : P b) :
    (order a b).isLE = true ∨ (order b a).isLE = true := by
  by_cases hlt : order a b = .lt
  · exact .inl (by rw [hlt]; rfl)
  · exact .inr (h.le_of_not_lt ha hb hlt)

/-- What ties with something compares like it. -/
theorem congr (h : IsPreorderOn P order) (ha : P a) (hb : P b) (hc : P c) (hab : order a b = .eq) :
    order a c = order b c :=
  @Std.TransCmp.congr_left _ _ h ⟨a, ha⟩ ⟨b, hb⟩ ⟨c, hc⟩ hab

theorem opposite (h : IsPreorderOn P order) : IsPreorderOn P fun a b => order b a :=
  @Std.TransCmp.opposite _ _ h

theorem lexicographic {second : α → α → Ordering} (h : IsPreorderOn P order)
    (hsecond : IsPreorderOn P second) : IsPreorderOn P fun a b => (order a b).then (second a b) := by
  have hfirst : Std.TransCmp fun a b : {a // P a} => order a b := h
  have hsecond : Std.TransCmp fun a b : {a // P a} => second a b := hsecond
  exact inferInstanceAs (Std.TransCmp (compareLex (fun a b : {a // P a} => order a b)
    (fun a b : {a // P a} => second a b)))

theorem constant : IsPreorderOn P fun _ _ => .eq :=
  { eq_swap := rfl, isLE_trans := fun _ _ => rfl }

/-- Items are compared by something that they all have. -/
theorem on {β : Type} {Q : β → Prop} {order : β → β → Ordering} (h : IsPreorderOn Q order) {f : α → β}
    (hf : ∀ a, P a → Q (f a)) : IsPreorderOn P fun a b => order (f a) (f b) where
  eq_swap {a b} := h.swap (hf a a.2) (hf b b.2)
  isLE_trans {a b c} := h.trans (hf a a.2) (hf b b.2) (hf c c.2)

end IsPreorderOn

/-! ## Values -/

namespace Decimal

/-- More digits after the point are zeros at the end of the coefficient. -/
theorem signedAt_of_le (d : Decimal) {scale more : Nat} (hscale : d.scale ≤ scale) (hmore : scale ≤ more) :
    d.signedAt more = d.signedAt scale * 10 ^ (more - scale) := by
  have hdigits : more - d.scale = scale - d.scale + (more - scale) := by omega
  rw [signedAt, signedAt, hdigits, Int.pow_add, Int.mul_assoc]

theorem compare_mul {x y k : Int} (hk : 0 < k) : Ord.compare (x * k) (y * k) = Ord.compare x y := by
  rcases Int.lt_trichotomy x y with h | h | h
  · rw [Int.compare_eq_lt.2 h, Int.compare_eq_lt.2 (Int.mul_lt_mul_of_pos_right h hk)]
  · rw [h, Int.compare_eq_eq.2 rfl, Int.compare_eq_eq.2 rfl]
  · rw [Int.compare_eq_gt.2 h, Int.compare_eq_gt.2 (Int.mul_lt_mul_of_pos_right h hk)]

/-- Decimals compare as their coefficients do with the most digits after the point. -/
theorem compare_eq (a b : Decimal) :
    a.compare b = Ord.compare (a.signedAt maxScale) (b.signedAt maxScale) := by
  have hmax : max a.scale b.scale ≤ maxScale := Nat.max_le.2 ⟨a.scale_le, b.scale_le⟩
  rw [a.signedAt_of_le (Nat.le_max_left ..) hmax, b.signedAt_of_le (Nat.le_max_right ..) hmax,
    compare_mul (Int.pow_pos (by decide)), compare]

instance : Std.TransCmp Decimal.compare := by
  have h : Decimal.compare = compareOn fun d : Decimal => d.signedAt maxScale := by
    funext a b
    exact compare_eq a b
  rw [h]
  infer_instance

end Decimal

instance : Std.TransCmp Date.compare :=
  inferInstanceAs (Std.TransCmp (compareLex (compareOn Date.year)
    (compareLex (compareOn Date.month) (compareOn Date.day))))

instance : Std.TransCmp fun a b : Timestamp => a.date.compare b.date where
  eq_swap := Std.OrientedCmp.eq_swap
  isLE_trans := Std.TransCmp.isLE_trans

instance : Std.TransCmp Timestamp.compare :=
  inferInstanceAs (Std.TransCmp (compareLex (fun a b : Timestamp => a.date.compare b.date)
    (compareLex (compareOn Timestamp.hour) (compareLex (compareOn Timestamp.minute)
      (compareLex (compareOn Timestamp.second) (compareOn Timestamp.nanosecond))))))

namespace SortKey

theorem order_null_left {value : Value} (h : value.isNull = false) : order .null value = .lt := by
  rw [order, h]
  rfl

theorem order_null_right {value : Value} (h : value.isNull = false) : order value .null = .gt := by
  rw [order, h]
  rfl

/-- Values are in a preorder if all of them are null or of one kind, which has a preorder of its own. -/
theorem isPreorderOn_of_kind {κ : Type} (kind : κ → Value) (cmp : κ → κ → Ordering)
    [Std.TransCmp cmp] {P : Value → Prop} (hnull : ∀ x, (kind x).isNull = false)
    (horder : ∀ x y, order (kind x) (kind y) = cmp x y)
    (hcases : ∀ value, P value → value = .null ∨ ∃ x, value = kind x) : IsPreorderOn P order where
  eq_swap {a b} := by
    obtain ⟨a, ha⟩ := a
    obtain ⟨b, hb⟩ := b
    show order a b = (order b a).swap
    rcases hcases a ha with rfl | ⟨x, rfl⟩ <;> rcases hcases b hb with rfl | ⟨y, rfl⟩
    · rfl
    · rw [order_null_left (hnull y), order_null_right (hnull y)]
      rfl
    · rw [order_null_left (hnull x), order_null_right (hnull x)]
      rfl
    · rw [horder, horder]
      exact Std.OrientedCmp.eq_swap
  isLE_trans {a b c} := by
    obtain ⟨a, ha⟩ := a
    obtain ⟨b, hb⟩ := b
    obtain ⟨c, hc⟩ := c
    show (order a b).isLE = true → (order b c).isLE = true → (order a c).isLE = true
    intro hab hbc
    rcases hcases a ha with rfl | ⟨x, rfl⟩
    · -- null comes before everything
      rcases hcases c hc with rfl | ⟨z, rfl⟩
      · rfl
      · rw [order_null_left (hnull z)]
        rfl
    · -- what comes after a value is no null
      rcases hcases b hb with rfl | ⟨y, rfl⟩
      · rw [order_null_right (hnull x)] at hab
        cases hab
      · rcases hcases c hc with rfl | ⟨z, rfl⟩
        · rw [order_null_right (hnull y)] at hbc
          cases hbc
        · rw [horder] at hab hbc ⊢
          exact Std.TransCmp.isLE_trans hab hbc

/-- The values of a type are in a preorder, unless they are doubles. -/
theorem isPreorderOn_order {type : ValueType} (h : type.underlying ≠ .double) :
    IsPreorderOn (fun value => value.Inhabits type) order := by
  have hunder : IsPreorderOn (fun value => value.Inhabits type.underlying) order := by
    have hnever : Std.TransCmp fun _ _ : FieldMap Value => Ordering.eq :=
      { eq_swap := rfl, isLE_trans := fun _ _ => rfl }
    generalize hu : type.underlying = u at h
    cases u with
    | double => exact absurd rfl h
    | nullable inner => exact absurd hu (Value.underlying_ne_nullable type inner)
    | null =>
      refine isPreorderOn_of_kind .object (fun _ _ => .eq) (fun _ => rfl) (fun _ _ => rfl) ?_
      rintro value ⟨⟩
      exact .inl rfl
    | boolean =>
      refine isPreorderOn_of_kind .boolean Ord.compare (fun _ => rfl) (fun _ _ => rfl) ?_
      rintro value ⟨⟩ <;> simp
    | int32 =>
      refine isPreorderOn_of_kind .int32 (compareOn Int32.toInt64) (fun _ => rfl) (fun _ _ => rfl) ?_
      rintro value ⟨⟩ <;> simp
    | int64 =>
      refine isPreorderOn_of_kind .int64 Ord.compare (fun _ => rfl) (fun _ _ => rfl) ?_
      rintro value ⟨⟩ <;> simp
    | decimal =>
      refine isPreorderOn_of_kind .decimal Decimal.compare (fun _ => rfl) (fun _ _ => rfl) ?_
      rintro value ⟨⟩ <;> simp
    | string =>
      refine isPreorderOn_of_kind .string Ord.compare (fun _ => rfl) (fun _ _ => rfl) ?_
      rintro value ⟨⟩ <;> simp
    | dateTime =>
      refine isPreorderOn_of_kind .dateTime Timestamp.compare (fun _ => rfl) (fun _ _ => rfl) ?_
      rintro value ⟨⟩ <;> simp
    | guid =>
      refine isPreorderOn_of_kind .guid (compareOn Guid.value) (fun _ => rfl) (fun _ _ => rfl) ?_
      rintro value ⟨⟩ <;> simp
    | enumeration type =>
      refine isPreorderOn_of_kind (.enumeration type) Ord.compare (fun _ => rfl) (fun _ _ => rfl) ?_
      rintro value ⟨⟩ <;> simp
    | record name fields =>
      refine isPreorderOn_of_kind .object (fun _ _ => .eq) (fun _ => rfl) (fun _ _ => rfl) ?_
      rintro value ⟨⟩ <;> simp
  exact hunder.on (f := id) fun value => Value.inhabits_underlying.2

/-! ## Keys -/

/-- The path from a typed value ends in a typed value; where it breaks off, in null. -/
theorem foldl_field_typed {segments : List String} {value : Value} {type target : ValueType}
    (h : value.Inhabits type) (hfollow : RecordType.follow? type segments = some target) :
    (segments.foldl (fun value name => (value.field? name).getD .null) value).Inhabits target := by
  induction segments generalizing value type with
  | nil =>
    cases hfollow
    exact h
  | cons name rest ih =>
    simp only [RecordType.follow?, ValueType.fields?, Option.bind_eq_some_iff] at hfollow
    obtain ⟨types, htypes, next, hnext, hrest⟩ := hfollow
    rw [List.foldl_cons]
    refine ih ?_ hrest
    have hu := Value.inhabits_underlying.2 h
    generalize type.underlying = u at htypes hu
    cases hu with
    | @object _ _ fields present typed =>
      cases htypes
      obtain ⟨found, hfound⟩ := Option.isSome_iff_exists.1 (present name next hnext)
      rw [Value.field?, hfound]
      exact typed name next found hnext hfound
    | null => exact .null next
    | _ => cases htypes

end SortKey

/-- A record that is read from JSON for a record type. -/
def Record.IsOf (schema : RecordType) (record : Record) : Prop :=
  ∃ json, Record.fromJson schema json = .ok record

theorem Record.IsOf.inhabits {schema : RecordType} {record : Record} (h : record.IsOf schema) :
    (Value.object record).Inhabits schema.toType := by
  obtain ⟨json, h⟩ := h
  unfold Record.fromJson Value.fromJson at h
  split at h
  · rename_i fields hfields
    cases h
    exact Value.inhabits_of_fromJsonAs hfields
  · cases h
  · cases h

/-- A sort key of a record type has values of its type. -/
theorem SortKey.valueAt_typed {schema : RecordType} {record : Record} (hrecord : record.IsOf schema)
    {segments : List String} {path : PropertyPath} {type : ValueType}
    (hpath : schema.resolveSegments? segments = some (path, type)) :
    (SortKey.valueAt record path).Inhabits type := by
  obtain ⟨-, rfl, hfollow⟩ := RecordType.resolveSegments?_eq_some_iff.1 hpath
  exact foldl_field_typed hrecord.inhabits hfollow

/-! ## Records -/

namespace Record

/-- The order of records by keys, each of them a path and whether it descends. -/
def order (keys : List (PropertyPath × Bool)) (a b : Record) : Ordering :=
  SortKey.orderBy (keys.map Prod.snd) (keys.map fun key => SortKey.valueAt a key.1)
    (keys.map fun key => SortKey.valueAt b key.1)

/-- Whether two records tie on every key. -/
def ties (keys : List (PropertyPath × Bool)) (a b : Record) : Bool :=
  keys.all fun key => SortKey.order (SortKey.valueAt a key.1) (SortKey.valueAt b key.1) == .eq

theorem order_cons (key : PropertyPath × Bool) (keys : List (PropertyPath × Bool)) (a b : Record) :
    order (key :: keys) a b =
      (if key.2 then SortKey.order (SortKey.valueAt b key.1) (SortKey.valueAt a key.1)
        else SortKey.order (SortKey.valueAt a key.1) (SortKey.valueAt b key.1)).then (order keys a b) :=
  rfl

variable {keys : List (PropertyPath × Bool)} {P : Record → Prop}

/-- Keys that are preorders by themselves are a preorder together, in whatever directions. -/
theorem isPreorderOn_order (hkeys : ∀ key ∈ keys, IsPreorderOn P fun a b =>
      SortKey.order (SortKey.valueAt a key.1) (SortKey.valueAt b key.1)) :
    IsPreorderOn P (order keys) := by
  induction keys with
  | nil => exact .constant
  | cons key keys ih =>
    obtain ⟨hkey, hkeys⟩ := List.forall_mem_cons.1 hkeys
    refine IsPreorderOn.lexicographic ?_ (ih hkeys)
    cases key.2 with
    | true => exact hkey.opposite
    | false => exact hkey

/-- Records are equal in the order if they tie on every key. -/
theorem order_eq_iff (hkeys : ∀ key ∈ keys, IsPreorderOn P fun a b =>
      SortKey.order (SortKey.valueAt a key.1) (SortKey.valueAt b key.1)) {a b : Record}
    (ha : P a) (hb : P b) : order keys a b = .eq ↔ ties keys a b = true := by
  induction keys with
  | nil => exact ⟨fun _ => rfl, fun _ => rfl⟩
  | cons key keys ih =>
    obtain ⟨hkey, hkeys⟩ := List.forall_mem_cons.1 hkeys
    have hties : ties (key :: keys) a b = true ↔
        SortKey.order (SortKey.valueAt a key.1) (SortKey.valueAt b key.1) = .eq ∧
          ties keys a b = true := by simp [ties]
    rw [order_cons, Ordering.then_eq_eq, ih hkeys, hties]
    -- a descending key compares the other way round, which makes no difference for a tie
    cases key.2 with
    | false => rfl
    | true => rw [if_pos rfl, hkey.swap hb ha, Ordering.swap_eq_eq]

variable {schema : RecordType}

/-- The records of a record type are in a preorder by a key that is no double. -/
theorem isPreorderOn_key {keys : List SortKey}
    (hkeys : ∀ key ∈ keys, ∀ path type, schema.resolvePath? key.path = some (path, type) →
      type.underlying ≠ .double) :
    ∀ key ∈ SortKey.resolve schema keys, IsPreorderOn (IsOf schema) fun a b =>
      SortKey.order (SortKey.valueAt a key.1) (SortKey.valueAt b key.1) := by
  intro key hkey
  obtain ⟨key, hmem, hresolve⟩ := List.mem_filterMap.1 hkey
  obtain ⟨⟨path, type⟩, hpath, rfl⟩ := Option.map_eq_some_iff.1 hresolve
  exact (SortKey.isPreorderOn_order (hkeys key hmem path type hpath)).on
    (f := fun record => SortKey.valueAt record path)
    fun record hrecord => SortKey.valueAt_typed hrecord hpath

end Record

end RecordFilter
