import RecordFilter.Json.Basic
import RecordFilter.Text.Utf8

/-!
# CBOR

The binary form of JSON values. Integers and doubles take the shortest form that is exact; arrays and
objects give their sizes in front.
-/

namespace RecordFilter
namespace Cbor

/-- The last `count` bytes of a number, the highest one first. -/
def bigEndian : (count : Nat) → (n : Nat) → List UInt8
  | 0, _ => []
  | count + 1, n => UInt8.ofNat (n / 256 ^ count % 256) :: bigEndian count n

/-- The head of an item: its kind and a number in as few bytes as it needs. -/
def head (kind n : Nat) : List UInt8 :=
  let first (info : Nat) : UInt8 := UInt8.ofNat (kind * 32 + info)
  if n < 24 then [first n]
  else if n < 2 ^ (8 : Nat) then first 24 :: bigEndian 1 n
  else if n < 2 ^ (16 : Nat) then first 25 :: bigEndian 2 n
  else if n < 2 ^ (32 : Nat) then first 26 :: bigEndian 4 n
  else first 27 :: bigEndian 8 n

/-! ## Doubles -/

/-- A binary format: the digits of a fraction and the bias of an exponent. -/
structure FloatFormat where
  fractionBits : Nat
  bias : Nat

/-- Half precision. -/
def half : FloatFormat := ⟨10, 15⟩

/-- Single precision. -/
def single : FloatFormat := ⟨23, 127⟩

/-- Moves zeros at the end of a mantissa into the exponent. -/
def odd : (fuel : Nat) → (m : Nat) → (q : Int) → Nat × Int
  | 0, m, q => (m, q)
  | fuel + 1, m, q => if m % 2 = 0 ∧ m ≠ 0 then odd fuel (m / 2) (q + 1) else (m, q)

/-- The number of binary digits. -/
def bitLength (m : Nat) : Nat :=
  if m = 0 then 0 else m.log2 + 1

/-- Whether a format has `m · 2 ^ q` for an odd `m`. -/
def FloatFormat.holds (format : FloatFormat) (m : Nat) (q : Int) : Bool :=
  m == 0 ||
    (decide (bitLength m ≤ format.fractionBits + 1)
      && decide (1 - (format.bias : Int) - format.fractionBits ≤ q)
      && decide (q + bitLength m ≤ format.bias + 1))

/-- The bits of `± m · 2 ^ q` in a format that has it. -/
def FloatFormat.pack (format : FloatFormat) (negative : Bool) (m : Nat) (q : Int) : Nat :=
  let scale := 2 ^ format.fractionBits
  let sign := if negative then (2 * format.bias + 2) * scale else 0
  let exponent := q + bitLength m - 1
  let least : Int := 1 - format.bias
  if m = 0 then sign
  else if exponent < least then sign + m * 2 ^ (q - least + format.fractionBits).toNat
  else
    sign + (exponent + format.bias - 1).toNat * scale
      + m * 2 ^ (format.fractionBits + 1 - bitLength m)

/-- A double in the shortest format that has it. -/
def double (x : Float) : List UInt8 :=
  match Double.parts x with
  | .nan => [0xF9, 0x7E, 0x00]
  | .infinite negative => [0xF9, if negative then 0xFC else 0x7C, 0x00]
  | .finite negative m q =>
    let (m, q) := odd 64 m q
    if half.holds m q then 0xF9 :: bigEndian 2 (half.pack negative m q)
    else if single.holds m q then 0xFA :: bigEndian 4 (single.pack negative m q)
    else 0xFB :: bigEndian 8 x.toBits.toNat

/-! ## Values -/

/-- A text with its length in bytes. -/
def text (t : Text) : List UInt8 :=
  let bytes := Utf8.encode t
  head 3 bytes.length ++ bytes

mutual

/-- The binary form of a value. -/
def encode : Json → List UInt8
  | .null => [0xF6]
  | .bool value => [if value then 0xF5 else 0xF4]
  | .int value => if value < 0 then head 1 (value.natAbs - 1) else head 0 value.natAbs
  | .double value => double value
  | .string value => text value.toList
  | .array items => head 4 items.length ++ encodeItems items
  | .object members => head 5 members.length ++ encodeMembers members

/-- The binary forms of the items of an array. -/
def encodeItems : List Json → List UInt8
  | [] => []
  | item :: rest => encode item ++ encodeItems rest

/-- The binary forms of the members of an object. -/
def encodeMembers : List (String × Json) → List UInt8
  | [] => []
  | (name, value) :: rest => text name.toList ++ encode value ++ encodeMembers rest

end

end Cbor
end RecordFilter
