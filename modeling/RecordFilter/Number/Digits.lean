import RecordFilter.Text.Basic

/-!
# Numerals

Reading and writing of natural numbers and signed integers in decimal digits. A signed numeral is
an optional sign and at least one ASCII digit; it is rejected when its value does not fit between
the given bounds.
-/

namespace RecordFilter
namespace Numeral

/-- The value of an ASCII digit. -/
def digit? (c : Char) : Option Nat :=
  if '0' ≤ c ∧ c ≤ '9' then some (c.toNat - '0'.toNat) else none

/-- Whether the character is an ASCII digit. -/
def isDigit (c : Char) : Bool :=
  (digit? c).isSome

/-- The number whose digits follow those of `acc`; the text must hold digits only. -/
def foldDigits? (acc : Nat) : Text → Option Nat
  | [] => some acc
  | c :: t => (digit? c).bind fun d => foldDigits? (acc * 10 + d) t

/-- Reads a non-empty sequence of digits. -/
def nat? (t : Text) : Option Nat :=
  if t.isEmpty then none else foldDigits? 0 t

/-- Reads an unsigned numeral of at most `bound`; a leading plus sign is allowed. -/
def unsigned? (bound : Nat) (t : Text) : Option Nat :=
  let digits := (Text.dropStart? ['+'] t).getD t
  (nat? digits).filter (· ≤ bound)

/-- Reads a numeral with an optional sign, between the bounds. -/
def signed? (low high : Int) (t : Text) : Option Int :=
  let value := match t with
    | '-' :: digits => (nat? digits).map fun n => -(n : Int)
    | '+' :: digits => (nat? digits).map Int.ofNat
    | digits => (nat? digits).map Int.ofNat
  value.filter fun n => low ≤ n ∧ n ≤ high

/-- Reads a 32-bit signed integer. -/
def int32? (t : Text) : Option Int32 :=
  (signed? (-2 ^ (31 : Nat)) (2 ^ (31 : Nat) - 1) t).map Int32.ofInt

/-- Reads a 64-bit signed integer. -/
def int64? (t : Text) : Option Int64 :=
  (signed? (-2 ^ (63 : Nat)) (2 ^ (63 : Nat) - 1) t).map Int64.ofInt

/-- The decimal digits of a number. -/
def ofNat (n : Nat) : Text :=
  Nat.toDigits 10 n

/-- The decimal digits of an integer, after a minus sign when it is negative. -/
def ofInt (n : Int) : Text :=
  if n < 0 then '-' :: ofNat n.natAbs else ofNat n.natAbs

/-- The text filled up with `fill` in front to the given width. -/
def padStart (width : Nat) (fill : Char) (t : Text) : Text :=
  List.replicate (width - t.length) fill ++ t

/-- The digits of a number, with zeros in front to the given width. -/
def padded (width n : Nat) : Text :=
  padStart width '0' (ofNat n)

end Numeral
end RecordFilter
