import RecordFilter.Url.Basic

/-!
# Hosts of URLs

A host is a name, an address of four numbers, or an address of eight groups in brackets. Addresses
are written in one form only.
-/

namespace RecordFilter
namespace Host

/-- Whether a character can stand in no host. -/
def isForbidden (c : Char) : Bool :=
  c.toNat = 0 || "\t\n\r #/:<>?@[\\]^|".toList.contains c

/-- Whether a character can stand in no name. -/
def isForbiddenInName (c : Char) : Bool :=
  isForbidden c || c == '%' || c.toNat < 0x20 || c.toNat == 0x7F

/-! ## Addresses of four numbers -/

/-- The digits of a base. -/
def digitsIn? (base : Nat) (t : Text) : Option Nat :=
  t.foldl (fun n c => n.bind fun n =>
    ((Percent.hexDigit? c).filter (· < base)).map (base * n + ·)) (some 0)

/-- A number in decimal, octal or hexadecimal digits. -/
def number? (t : Text) : Option Nat :=
  match t with
  | [] => none
  | '0' :: 'x' :: digits | '0' :: 'X' :: digits => digitsIn? 16 digits
  | '0' :: d :: digits => digitsIn? 8 (d :: digits)
  | digits => digitsIn? 10 digits

/-- The labels of a name without the empty one after a point at its end. -/
def labels (t : Text) : List Text :=
  let all := Text.split '.' t
  if 1 < all.length ∧ all.getLast? = some [] then all.dropLast else all

/-- Whether the last label is a number, so that the name can only be an address. -/
def endsInNumber (t : Text) : Bool :=
  match (labels t).getLast? with
  | some last => !last.isEmpty && (last.all Numeral.isDigit || (number? last).isSome)
  | none => false

/-- The value of an address of up to four numbers. -/
def address? (t : Text) : Option Nat :=
  ((labels t).mapM number?).bind fun numbers =>
    let count := numbers.length
    if count = 0 ∨ 4 < count then none
    else
      let last := numbers.getLast?.getD 0
      let before := numbers.dropLast
      if before.any (255 < ·) ∨ 256 ^ (5 - count) ≤ last then none
      else
        some (last + ((before.zipIdx.map fun (n, i) => n * 256 ^ (3 - i)).sum))

/-- An address in its usual form. -/
def renderFour (n : Nat) : Text :=
  Text.join ['.'] ([3, 2, 1, 0].map fun (i : Nat) => Numeral.ofNat (n / 256 ^ i % 256))

/-! ## Addresses of eight groups -/

/-- A group of up to four hexadecimal digits. -/
def group? (t : Text) : Option Nat :=
  if t.isEmpty ∨ 4 < t.length then none else digitsIn? 16 t

/-- The last two groups written as four numbers. -/
def dotted? (t : Text) : Option (List Nat) :=
  ((Text.split '.' t).mapM fun part =>
      ((Numeral.nat? part).filter (· < 256)).filter fun _ =>
        part.length = 1 ∨ part.head? ≠ some '0').bind fun numbers =>
    match numbers with
    | [a, b, c, d] => some [a * 256 + b, c * 256 + d]
    | _ => none

/-- The groups between colons. Only at the end may there be four numbers. -/
def groups? (atEnd : Bool) (t : Text) : Option (List Nat) :=
  if t.isEmpty then some []
  else
    let parts := Text.split ':' t
    let last := parts.getLast?.getD []
    if atEnd ∧ last.contains '.' then
      (parts.dropLast.mapM group?).bind fun groups => (dotted? last).map (groups ++ ·)
    else parts.mapM group?

/-- The text before and after two colons in a row. -/
def cutDouble? : Text → Option (Text × Text)
  | [] => none
  | ':' :: ':' :: t => some ([], t)
  | c :: t => (cutDouble? t).map fun (before, after) => (c :: before, after)

/-- The eight groups of an address; two colons stand for groups of zero. -/
def eightGroups? (t : Text) : Option (List Nat) :=
  match cutDouble? t with
  | none => (groups? true t).filter fun groups => groups.length = 8
  | some (before, after) =>
    (groups? false before).bind fun left => (groups? true after).bind fun right =>
      let missing := 8 - (left.length + right.length)
      if 8 ≤ left.length + right.length then none
      else some (left ++ List.replicate missing 0 ++ right)

/-- The length of the run of zeros at the beginning. -/
def zeroRun (groups : List Nat) : Nat :=
  (groups.takeWhile (· = 0)).length

/-- Where the first of the longest runs of at least two zeros begins, and how long it is. -/
def longestRun (groups : List Nat) : Option (Nat × Nat) :=
  (List.range groups.length).foldl (fun best start =>
    let run := zeroRun (groups.drop start)
    match best with
    | some (_, length) => if length < run then some (start, run) else best
    | none => if 2 ≤ run then some (start, run) else none) none

/-- An address in its shortest form. -/
def renderEight (groups : List Nat) : Text :=
  let shown (part : List Nat) := Text.join [':'] (part.map (Nat.toDigits 16))
  match longestRun groups with
  | some (start, run) =>
    shown (groups.take start) ++ "::".toList ++ shown (groups.drop (start + run))
  | none => shown groups

/-! ## Hosts -/

/-- An address in brackets. -/
def bracketed? (t : Text) : Option Text :=
  (Text.dropStart? ['['] t).bind fun rest => (Text.dropFinish? [']'] rest).bind fun inner =>
    (eightGroups? inner).map fun groups => '[' :: renderEight groups ++ [']']

/-- A name in lower case, or an address. -/
def name? (t : Text) : Option Text :=
  let name := Text.lowerAscii (Utf8.decodeLossy (Percent.bytes t))
  if name.isEmpty ∨ name.any isForbiddenInName ∨ name.any (fun c => 0x80 ≤ c.toNat) then none
  else if endsInNumber name then (address? name).map renderFour
  else some name

/-- The host of a scheme that needs one, or of another scheme. -/
def read? (special : Bool) (t : Text) : Option Text :=
  if t.head? = some '[' then bracketed? t
  else if special then name? t
  else if t.any isForbidden then none
  else some (Percent.encodeUnless (fun c => 0x20 ≤ c.toNat && c.toNat < 0x7F) t)

end Host
end RecordFilter
