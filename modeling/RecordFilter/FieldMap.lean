/-!
# Maps by field name

A map from names to values, kept as a list of pairs in ascending order of the names. Names are
ordered by their characters.
-/

namespace RecordFilter

/-- Pairs of a name and a value, in ascending order of the names. -/
abbrev FieldMap (α : Type) := List (String × α)

namespace FieldMap

variable {α β : Type}

/-- The value under a name. -/
def get? (fields : FieldMap α) (name : String) : Option α :=
  fields.lookup name

/-- Puts a value under a name, in place of one that was there. -/
def insert (name : String) (value : α) : FieldMap α → FieldMap α
  | [] => [(name, value)]
  | (other, present) :: rest =>
    if name < other then (name, value) :: (other, present) :: rest
    else if name = other then (name, value) :: rest
    else (other, present) :: insert name value rest

/-- The map of a list of pairs; of two values for one name the later one counts. -/
def ofList (pairs : List (String × α)) : FieldMap α :=
  pairs.foldl (fun fields (name, value) => insert name value fields) []

/-- The names in order. -/
def names (fields : FieldMap α) : List String :=
  fields.map Prod.fst

/-- Applies a function to every value. -/
def mapValues (f : α → β) (fields : FieldMap α) : FieldMap β :=
  fields.map fun (name, value) => (name, f value)

theorem get?_cons (name other : String) (value : α) (rest : FieldMap α) :
    get? ((name, value) :: rest) other = if other = name then some value else rest.get? other := by
  rw [get?, List.lookup_cons, get?]
  by_cases h : other = name
  · simp [h]
  · simp [beq_false_of_ne h, h]

/-- What is put under a name is found there, and nothing else changes. -/
theorem get?_insert (name other : String) (value : α) (fields : FieldMap α) :
    (insert name value fields).get? other = if other = name then some value else fields.get? other := by
  induction fields with
  | nil => exact get?_cons name other value []
  | cons pair rest ih =>
    obtain ⟨present, found⟩ := pair
    rw [insert]
    split
    · rw [get?_cons]
    · split
      · rename_i hsame
        rw [get?_cons, get?_cons, hsame]
        split <;> rfl
      · rename_i hdiffers
        rw [get?_cons, get?_cons, ih]
        grind

end FieldMap
end RecordFilter
