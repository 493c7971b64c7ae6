import RecordFilter.Json.Basic

/-!
# Reading JSON

The reader accepts one JSON value with blanks around it. Arrays and objects may be nested 127 levels
deep. Digits beyond 64 bits are dropped from the significand of a double, which is then multiplied
or divided by a power of ten; a double that overflows is an error.
-/

namespace RecordFilter
namespace Json

/-- Blanks between the tokens of a document. -/
def isSpace (c : Char) : Bool :=
  c == ' ' || c == '\n' || c == '\r' || c == '\t'

/-- The text after leading blanks. -/
def skipSpace (t : Text) : Text :=
  t.dropWhile isSpace

/-! ## Strings -/

/-- The four hexadecimal digits of an escape. -/
def hexEscape? : Text → Option (Nat × Text)
  | a :: b :: c :: d :: t =>
    let digit? (c : Char) : Option Nat :=
      if '0' ≤ c ∧ c ≤ '9' then some (c.toNat - 48)
      else if 'a' ≤ c ∧ c ≤ 'f' then some (c.toNat - 87)
      else if 'A' ≤ c ∧ c ≤ 'F' then some (c.toNat - 55)
      else none
    ([a, b, c, d].foldl (fun n c => n.bind fun n => (digit? c).map (16 * n + ·)) (some 0)).map (·, t)
  | _ => none

/-- The character of an escape after its backslash. A character beyond 16 bits takes two escapes. -/
def escaped? : Text → Option (Char × Text)
  | '"' :: t => some ('"', t)
  | '\\' :: t => some ('\\', t)
  | '/' :: t => some ('/', t)
  | 'b' :: t => some (Char.ofNat 8, t)
  | 'f' :: t => some (Char.ofNat 12, t)
  | 'n' :: t => some ('\n', t)
  | 'r' :: t => some ('\r', t)
  | 't' :: t => some ('\t', t)
  | 'u' :: t =>
    (hexEscape? t).bind fun (high, t) =>
      if high < 0xD800 ∨ 0xDFFF < high then some (Char.ofNat high, t)
      else if 0xDC00 ≤ high then none
      else match t with
        | '\\' :: 'u' :: t =>
          (hexEscape? t).bind fun (low, t) =>
            if 0xDC00 ≤ low ∧ low ≤ 0xDFFF then
              some (Char.ofNat (0x10000 + (high - 0xD800) * 0x400 + (low - 0xDC00)), t)
            else none
        | _ => none
  | _ => none

/-- Reads the characters of a string up to its closing quote. -/
def stringFrom? (fuel : Nat) (acc t : Text) : Option (String × Text) :=
  match fuel, t with
  | 0, _ | _, [] => none
  | fuel + 1, c :: t =>
    if c = '"' then some (String.ofList acc.reverse, t)
    else if c = '\\' then (escaped? t).bind fun (c, t) => stringFrom? fuel (c :: acc) t
    else if c.toNat < 32 then none
    else stringFrom? fuel (c :: acc) t

/-! ## Numbers -/

/-- Significands are below this number. -/
def significandLimit : Nat := 2 ^ (64 : Nat)

/-- Divides by `10 ^ 308` until the exponent is at least -308. -/
def scaleDown (f : Float) (e : Nat) : Float :=
  if e ≤ 308 then f / Double.ofDecimal false 1 e
  else if f == Double.ofInt 0 then f
  else scaleDown (f / Double.ofDecimal false 1 308) (e - 308)
termination_by e

/-- The double for a significand and an exponent; the product or quotient of the two is rounded. -/
def assemble? (negative : Bool) (significand : Nat) (e : Int) : Option Float :=
  let f := Double.ofInt significand
  let magnitude? :=
    if e < 0 then some (scaleDown f e.natAbs)
    else if e ≤ 308 then
      let product := f * Double.ofDecimal false 1 e
      if product == Double.infinity false then none else some product
    else if significand = 0 then some f
    else none
  magnitude?.map fun f => if negative then -f else f

/-- Reads the digits after an exponent mark. -/
def exponentPart? (negative : Bool) (significand : Nat) (e : Int) (t : Text) :
    Option (Float × Text) :=
  let (down, t) := match t with
    | '+' :: t => (false, t)
    | '-' :: t => (true, t)
    | t => (false, t)
  let (digits, t) := Double.spanDigits t
  (Numeral.nat? digits).bind fun shift =>
    if 2 ^ (31 : Nat) ≤ shift then
      if significand = 0 ∨ down then some (Double.ofRatio negative 0 1, t) else none
    else (assemble? negative significand (if down then e - shift else e + shift)).map (·, t)

/-- Finishes a double after its digits. -/
def finishDouble? (negative : Bool) (significand : Nat) (e : Int) : Text → Option (Float × Text)
  | 'e' :: t | 'E' :: t => exponentPart? negative significand e t
  | t => (assemble? negative significand e).map (·, t)

/-- Appends digits to a significand for as long as it fits; the result counts the digits taken. -/
def takeDigits (significand : Nat) : Text → Nat × Nat
  | [] => (significand, 0)
  | c :: t =>
    match Numeral.digit? c with
    | some d =>
      if significand * 10 + d < significandLimit then
        let (n, taken) := takeDigits (significand * 10 + d) t
        (n, taken + 1)
      else (significand, 0)
    | none => (significand, 0)

/-- Reads the fraction after a point. -/
def fractionPart? (negative : Bool) (significand : Nat) (e : Int) (t : Text) :
    Option (Float × Text) :=
  let (digits, t) := Double.spanDigits t
  if digits.isEmpty then none
  else
    let (n, taken) := takeDigits significand digits
    finishDouble? negative n (e - taken) t

/-- Reads a number after its sign. -/
def magnitude? (negative : Bool) (t : Text) : Option (Json × Text) :=
  let (digits, t) := Double.spanDigits t
  if digits.isEmpty ∨ (digits.head? = some '0' ∧ 1 < digits.length) then none
  else
    let (n, taken) := takeDigits 0 digits
    let extra : Int := ((digits.length - taken : Nat) : Int)
    match t with
    | '.' :: rest => (fractionPart? negative n extra rest).map fun (f, t) => (.double f, t)
    | 'e' :: rest | 'E' :: rest =>
      (exponentPart? negative n extra rest).map fun (f, t) => (.double f, t)
    | _ =>
      if extra ≠ 0 then (assemble? negative n extra).map fun f => (.double f, t)
      else if !negative then some (.int n, t)
      else if 0 < n ∧ n ≤ 2 ^ (63 : Nat) then some (.int (-n), t)
      else some (.double (-Double.ofInt n), t)

/-! ## Values -/

/-- Reads a keyword. -/
def keyword? (word : String) (value : Json) (t : Text) : Option (Json × Text) :=
  (Text.dropStart? word.toList t).map (value, ·)

mutual

/-- Reads a value after blanks. `depth` is how many levels of nesting are left, and `fuel` bounds the
steps; the length of the text is always enough. -/
def value? (fuel depth : Nat) (t : Text) : Option (Json × Text) :=
  match fuel with
  | 0 => none
  | fuel + 1 =>
    match skipSpace t with
    | [] => none
    | c :: t =>
      if c = '"' then (stringFrom? (t.length + 1) [] t).map fun (s, t) => (.string s, t)
      else if c = '-' then magnitude? true t
      else if Numeral.isDigit c then magnitude? false (c :: t)
      else if c = 'n' then keyword? "null" .null (c :: t)
      else if c = 't' then keyword? "true" (.bool true) (c :: t)
      else if c = 'f' then keyword? "false" (.bool false) (c :: t)
      else if c = '[' then
        match depth, skipSpace t with
        | 0, _ | 1, _ => none
        | _, ']' :: t => some (.array [], t)
        | depth + 1, t => (items? fuel depth t).map fun (items, t) => (.array items, t)
      else if c = '\x7b' then
        match depth, skipSpace t with
        | 0, _ | 1, _ => none
        | _, '\x7d' :: t => some (.object [], t)
        | depth + 1, t => (members? fuel depth t).map fun (members, t) => (ofMembers members, t)
      else none

/-- Reads the items of an array up to its closing bracket. -/
def items? (fuel depth : Nat) (t : Text) : Option (List Json × Text) :=
  match fuel with
  | 0 => none
  | fuel + 1 =>
    (value? fuel depth t).bind fun (item, t) =>
      match skipSpace t with
      | ',' :: t => (items? fuel depth t).map fun (items, t) => (item :: items, t)
      | ']' :: t => some ([item], t)
      | _ => none

/-- Reads the members of an object up to its closing brace. -/
def members? (fuel depth : Nat) (t : Text) : Option (List (String × Json) × Text) :=
  match fuel with
  | 0 => none
  | fuel + 1 =>
    match skipSpace t with
    | '"' :: t =>
      (stringFrom? (t.length + 1) [] t).bind fun (name, t) =>
        match skipSpace t with
        | ':' :: t =>
          (value? fuel depth t).bind fun (value, t) =>
            match skipSpace t with
            | ',' :: t =>
              (members? fuel depth t).map fun (members, t) => ((name, value) :: members, t)
            | '\x7d' :: t => some ([(name, value)], t)
            | _ => none
        | _ => none
    | _ => none

end

/-- The greatest depth of nesting, and one. -/
def maxDepth : Nat := 128

/-- Reads a document that consists of one value. -/
def read? (t : Text) : Option Json :=
  (value? (2 * t.length + 2) maxDepth t).bind fun (value, rest) =>
    if (skipSpace rest).isEmpty then some value else none

end Json
end RecordFilter
