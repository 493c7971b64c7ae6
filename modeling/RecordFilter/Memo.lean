/-!
# Tables that remember values

A table remembers one value for each key. The first value that is stored under a key stays there.
A caller that wants a value for a key looks it up first and, if it is missing, computes and stores
one; between these two steps other callers may store theirs, which then counts.
-/

namespace RecordFilter

/-- The values that are remembered, in the order in which they were stored. -/
structure Memo (κ α : Type) where
  entries : List (κ × α)

namespace Memo

variable {κ α : Type} [BEq κ]

/-- The table that remembers nothing. -/
def empty : Memo κ α := ⟨[]⟩

/-- The value that is remembered for a key. -/
def get? (memo : Memo κ α) (key : κ) : Option α :=
  memo.entries.lookup key

/-- The number of keys. -/
def size (memo : Memo κ α) : Nat :=
  memo.entries.length

/-- Stores a value for a key, unless one is there. The result is the value that is there then. -/
def store (memo : Memo κ α) (key : κ) (value : α) : Memo κ α × α :=
  match memo.get? key with
  | some present => (memo, present)
  | none => (⟨memo.entries ++ [(key, value)]⟩, value)

/-- Looks a key up, and stores a value for it if there is none. -/
def getOrStore (memo : Memo κ α) (key : κ) (value : α) : Memo κ α × α :=
  match memo.get? key with
  | some present => (memo, present)
  | none => memo.store key value

end Memo
end RecordFilter
