import RecordFilter.Number.Digits

/-!
# Guids

A guid is a number of 128 bits. It is read from 32 hexadecimal digits, or from the same digits in
groups of 8, 4, 4, 4 and 12 with hyphens in between, alone, in braces, or after `urn:uuid:`. It is
written in groups with lower-case digits.
-/

namespace RecordFilter

/-- A number of 128 bits. -/
structure Guid where
  value : Nat
  value_lt : value < 2 ^ (128 : Nat)
deriving DecidableEq, Repr

namespace Guid

/-- The guid of a number of 128 bits; larger numbers wrap around. -/
def ofNat (n : Nat) : Guid :=
  ⟨n % 2 ^ (128 : Nat), Nat.mod_lt _ (by decide)⟩

/-- The guid of zeros. -/
def nil : Guid := ofNat 0

/-- The value of a hexadecimal digit in either case. -/
def hexDigit? (c : Char) : Option Nat :=
  if '0' ≤ c ∧ c ≤ '9' then some (c.toNat - '0'.toNat)
  else if 'a' ≤ c ∧ c ≤ 'f' then some (c.toNat - 'a'.toNat + 10)
  else if 'A' ≤ c ∧ c ≤ 'F' then some (c.toNat - 'A'.toNat + 10)
  else none

/-- The number whose hexadecimal digits follow those of `acc`. -/
def foldHex? (acc : Nat) : Text → Option Nat
  | [] => some acc
  | c :: t => (hexDigit? c).bind fun d => foldHex? (acc * 16 + d) t

/-- Reads exactly 32 hexadecimal digits. -/
def readDigits? (t : Text) : Option Guid :=
  if t.length = 32 then (foldHex? 0 t).map ofNat else none

/-- Reads five groups of digits with hyphens in between. -/
def readGroups? (t : Text) : Option Guid :=
  let groups := Text.split '-' t
  if groups.map List.length = [8, 4, 4, 4, 12] then readDigits? groups.flatten else none

/-- The text between braces. -/
def braced? (t : Text) : Option Text :=
  (Text.dropStart? ['\x7b'] t).bind (Text.dropFinish? ['\x7d'])

/-- Reads a guid in any of its forms. -/
def read? (t : Text) : Option Guid :=
  if t.length = 32 then readDigits? t
  else
    match braced? t, Text.dropStart? "urn:uuid:".toList t with
    | some inner, _ => readGroups? inner
    | none, some inner => readGroups? inner
    | none, none => readGroups? t

/-- The hexadecimal digits of a number, at the given width. -/
def hexText (n width : Nat) : Text :=
  Numeral.padStart width '0' (Nat.toDigits 16 n)

/-- The digits in groups of 8, 4, 4, 4 and 12. -/
def render (g : Guid) : Text :=
  let digits := hexText g.value 32
  let group (start size : Nat) := (digits.drop start).take size
  Text.join ['-'] [group 0 8, group 8 4, group 12 4, group 16 4, group 20 12]

end Guid
end RecordFilter
