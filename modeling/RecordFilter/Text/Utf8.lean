import RecordFilter.Text.Basic

/-!
# UTF-8

The bytes of a text, and the text of bytes. Bytes that are no UTF-8 are divided into malformed
sequences, each as long as it could still have become a character.
-/

namespace RecordFilter
namespace Utf8

/-- The bytes of a text. -/
def encode (t : Text) : List UInt8 :=
  t.flatMap String.utf8EncodeChar

/-- Whether a byte goes on with a character. -/
def isContinuation (b : UInt8) : Bool :=
  b &&& 0xC0 == 0x80

/-- How many bytes follow the first byte of a character, and the bits that the first byte gives. -/
def leadingByte? (b : UInt8) : Option (Nat × Nat) :=
  let n := b.toNat
  if n < 0x80 then some (0, n)
  else if n < 0xC2 then none
  else if n < 0xE0 then some (1, n - 0xC0)
  else if n < 0xF0 then some (2, n - 0xE0)
  else if n < 0xF5 then some (3, n - 0xF0)
  else none

/-- Whether the second byte of a character fits the first one: the character must need as many bytes
as it has, must not be half of a pair, and must not be beyond the last character. -/
def secondFits (first second : UInt8) : Bool :=
  isContinuation second &&
    !((first == 0xE0 && second < 0xA0) || (first == 0xED && 0x9F < second)
      || (first == 0xF0 && second < 0x90) || (first == 0xF4 && 0x8F < second))

/-- Reads up to `count` more bytes of a character. -/
def continue? : (count : Nat) → (bits : Nat) → List UInt8 → Option Char × List UInt8
  | 0, bits, bytes => (some (Char.ofNat bits), bytes)
  | count + 1, bits, b :: bytes =>
    if isContinuation b then continue? count (bits * 64 + b.toNat % 64) bytes else (none, b :: bytes)
  | _ + 1, _, [] => (none, [])

/-- The character at the beginning of some bytes, or nothing for a malformed sequence, and the bytes
after it. -/
def next (first : UInt8) (bytes : List UInt8) : Option Char × List UInt8 :=
  match leadingByte? first with
  | none => (none, bytes)
  | some (count, bits) =>
    match count, bytes with
    | 0, bytes => (some (Char.ofNat bits), bytes)
    | _ + 1, [] => (none, [])
    | _ + 1, second :: _ =>
      if secondFits first second then continue? count bits bytes else (none, bytes)

theorem length_continue?_le (count bits : Nat) (bytes : List UInt8) :
    (continue? count bits bytes).2.length ≤ bytes.length := by
  induction count generalizing bits bytes with
  | zero => simp [continue?]
  | succ count ih =>
    cases bytes with
    | nil => simp [continue?]
    | cons b bytes =>
      simp only [continue?]
      split
      · exact Nat.le_succ_of_le (ih _ _)
      · exact Nat.le_refl _

theorem length_next_le (first : UInt8) (bytes : List UInt8) :
    (next first bytes).2.length ≤ bytes.length := by
  unfold next
  split
  · exact Nat.le_refl _
  · split
    · exact Nat.le_refl _
    · exact Nat.le_refl _
    · split
      · exact length_continue?_le _ _ _
      · exact Nat.le_refl _

/-- The characters of some bytes, with nothing for each malformed sequence. -/
def characters : List UInt8 → List (Option Char)
  | [] => []
  | first :: bytes => (next first bytes).1 :: characters (next first bytes).2
termination_by bytes => bytes.length
decreasing_by exact Nat.lt_succ_of_le (length_next_le first bytes)

/-- The text of bytes that are UTF-8. -/
def decode? (bytes : List UInt8) : Option Text :=
  (characters bytes).mapM id

/-- The text of some bytes, with a replacement character for each malformed sequence. -/
def decodeLossy (bytes : List UInt8) : Text :=
  (characters bytes).map fun c => c.getD '\uFFFD'

end Utf8
end RecordFilter
