import RecordFilter.Text.Utf8

/-!
# Percent encoding

Bytes that must not stand for themselves are written as a percent sign with two hexadecimal digits.
-/

namespace RecordFilter
namespace Percent

/-- The value of a hexadecimal digit. -/
def hexDigit? (c : Char) : Option Nat :=
  if '0' ≤ c ∧ c ≤ '9' then some (c.toNat - 48)
  else if 'a' ≤ c ∧ c ≤ 'f' then some (c.toNat - 87)
  else if 'A' ≤ c ∧ c ≤ 'F' then some (c.toNat - 55)
  else none

/-- The capital hexadecimal digit of a number below sixteen. -/
def hexChar (n : Nat) : Char :=
  if n < 10 then Char.ofNat (48 + n) else Char.ofNat (55 + n)

/-- A byte as a percent sign with two digits. -/
def escape (b : UInt8) : Text :=
  ['%', hexChar (b.toNat / 16), hexChar (b.toNat % 16)]

/-- The text with every character that is not kept written byte by byte. -/
def encodeUnless (keep : Char → Bool) (t : Text) : Text :=
  t.flatMap fun c => if keep c then [c] else (String.utf8EncodeChar c).flatMap escape

/-- Whether a character never needs encoding. -/
def isUnreserved (c : Char) : Bool :=
  c.isAlphanum || c == '-' || c == '_' || c == '.' || c == '~'

/-- The text with only unreserved characters left. -/
def encode (t : Text) : Text :=
  encodeUnless isUnreserved t

/-- The bytes that a text stands for. A percent sign without two digits stands for itself. -/
def bytes : Text → List UInt8
  | [] => []
  | '%' :: a :: b :: t =>
    match hexDigit? a, hexDigit? b with
    | some high, some low => UInt8.ofNat (16 * high + low) :: bytes t
    | _, _ => String.utf8EncodeChar '%' ++ bytes (a :: b :: t)
  | c :: t => String.utf8EncodeChar c ++ bytes t
termination_by t => t.length

/-- The text with spaces in place of plus signs. -/
def plusToSpace (t : Text) : Text :=
  t.map fun c => if c = '+' then ' ' else c

end Percent
end RecordFilter
