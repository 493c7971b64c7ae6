import RecordFilter.FieldMap
import RecordFilter.Number.Digits

/-!
# Nodes of YAML documents

A document is a tree of scalars, sequences and mappings. A scalar keeps its text and whether it
was written without quotes, because only then it may be read as a number or a boolean.
-/

namespace RecordFilter

/-- A node of a YAML document. -/
inductive Yaml where
  | scalar (plain : Bool) (text : String)
  | sequence (items : List Yaml)
  | mapping (entries : List (String × Yaml))
deriving Inhabited

namespace Yaml

/-- The node of a value that is left out. -/
def absent : Yaml := .scalar true ""

/-- The text of a scalar, however it was written. -/
def text? : Yaml → Option String
  | scalar _ text => some text
  | _ => none

/-- The text of a scalar without quotes. -/
def plain? : Yaml → Option String
  | scalar true text => some text
  | _ => none

/-- The only character of a scalar. -/
def char? (node : Yaml) : Option Char :=
  node.text?.bind fun text =>
    match text.toList with
    | [c] => some c
    | _ => none

/-- A boolean. -/
def bool? (node : Yaml) : Option Bool :=
  node.plain?.bind fun text =>
    if ["true", "True", "TRUE"].contains text then some true
    else if ["false", "False", "FALSE"].contains text then some false
    else none

/-- The value of a digit in a base of at most sixteen. -/
def digitIn? (base : Nat) (c : Char) : Option Nat :=
  let value := if c.isDigit then c.toNat - 48 else c.toLower.toNat - 87
  if (c.isDigit || ('a' ≤ c.toLower && c.toLower ≤ 'f')) && value < base then some value else none

/-- A number in some base. -/
def natIn? (base : Nat) (digits : Text) : Option Nat :=
  if digits.isEmpty then none
  else
    digits.foldl (fun n c => n.bind fun n => (digitIn? base c).map (base * n + ·)) (some 0)

/-- The digits of an integer: decimal ones without zeros in front, or those of another base after
`0x`, `0o` or `0b`. -/
def magnitude? : Text → Option Nat
  | '0' :: 'x' :: digits => natIn? 16 digits
  | '0' :: 'o' :: digits => natIn? 8 digits
  | '0' :: 'b' :: digits => natIn? 2 digits
  | '0' :: _ :: _ => none
  | digits => Numeral.nat? digits

/-- An integer of 64 bits. -/
def int64? (node : Yaml) : Option Int64 :=
  node.plain?.bind fun text =>
    let value : Option Int :=
      match text.toList with
      | '-' :: digits => (magnitude? digits).map fun n => -(n : Int)
      | '+' :: digits => (magnitude? digits).map Int.ofNat
      | digits => (magnitude? digits).map Int.ofNat
    (value.filter fun n => -2 ^ (63 : Nat) ≤ n ∧ n < 2 ^ (63 : Nat)).map Int64.ofInt

/-- The items of a sequence. A value that is left out has none. -/
def items? : Yaml → Option (List Yaml)
  | sequence items => some items
  | scalar true "" => some []
  | _ => none

/-- The entries of a mapping. A value that is left out has none. -/
def entries? : Yaml → Option (List (String × Yaml))
  | mapping entries => some entries
  | scalar true "" => some []
  | _ => none

/-- The entries of a mapping in which none of the given keys occurs twice. A sequence holds the values
of the keys in their order, and may leave out the last ones. -/
def structure? (keys : List String) : Yaml → Option (List (String × Yaml))
  | sequence items => if items.length ≤ keys.length then some (keys.zip items) else none
  | node =>
    node.entries?.filter fun entries =>
      keys.all fun key => (entries.filter fun entry => entry.1 == key).length ≤ 1

/-- A mapping whose values are read one by one; of two values for one key the later one counts. -/
def mapOf? {α : Type} (read : Yaml → Option α) (node : Yaml) : Option (FieldMap α) :=
  node.entries?.bind fun entries =>
    (entries.mapM fun entry => (read entry.2).map (entry.1, ·)).map FieldMap.ofList

/-- The value under a key, or a default where the key is missing. -/
def memberOr {α : Type} (entries : List (String × Yaml)) (key : String) (default : α)
    (read : Yaml → Option α) : Option α :=
  match entries.lookup key with
  | some node => read node
  | none => some default

end Yaml
end RecordFilter
