import RecordFilter.Number.Shortest

/-!
# Text of doubles

Reading accepts an optional sign and either `inf`, `infinity` or `nan` in any case, or digits with
an optional point and an optional exponent; at least one digit stands before the exponent. Writing
takes the shortest digits that read back and lays them out as a `Layout` says.
-/

namespace RecordFilter
namespace Double

/-! ## Reading -/

/-- The digits at the start of a text, and what follows them. -/
def spanDigits (t : Text) : Text × Text :=
  Text.spanWhile Numeral.isDigit t

/-- The exponent after `e` or `E`; nothing is the exponent zero. -/
def readExponent? : Text → Option Int
  | [] => some 0
  | mark :: t =>
    if mark = 'e' ∨ mark = 'E' then
      match t with
      | '-' :: digits => (Numeral.nat? digits).map fun n => -(n : Int)
      | '+' :: digits => (Numeral.nat? digits).map Int.ofNat
      | digits => (Numeral.nat? digits).map Int.ofNat
    else none

/-- Reads a number without a sign. -/
def readMagnitude? (negative : Bool) (t : Text) : Option Float :=
  let word := Text.lowerAscii t
  if word = "inf".toList ∨ word = "infinity".toList then some (infinity negative)
  else if word = "nan".toList then some nan
  else
    let (whole, rest) := spanDigits t
    let (fraction, rest) := match rest with
      | '.' :: rest => spanDigits rest
      | rest => ([], rest)
    (Numeral.nat? (whole ++ fraction)).bind fun m =>
      (readExponent? rest).map fun e => ofDecimal negative m (e - fraction.length)

/-- Reads the double nearest to the written number. -/
def read? : Text → Option Float
  | '-' :: t => readMagnitude? true t
  | '+' :: t => readMagnitude? false t
  | t => readMagnitude? false t

/-! ## Writing -/

/-- How the digits of a double are laid out. -/
structure Layout where
  /-- Which of two equally near shortest numbers is written. -/
  tie : Shortest.Tie
  /-- Whether a number whose first digit has this power of ten is written without an exponent. -/
  positional : Int → Bool
  /-- What follows a whole number. -/
  wholeMark : Text
  nan : Text
  infinite : Text
  negativeInfinite : Text

/-- Positional digits: `n · 10 ^ e` without an exponent. -/
def positionalText (wholeMark : Text) (n : Nat) (e : Int) : Text :=
  let digits := Numeral.ofNat n
  if 0 ≤ e then digits ++ List.replicate e.toNat '0' ++ wholeMark
  else
    let padded := Numeral.padStart (e.natAbs + 1) '0' digits
    let whole := padded.length - e.natAbs
    padded.take whole ++ '.' :: padded.drop whole

/-- One digit, the others after the point, and a signed exponent. -/
def scientificText (n : Nat) (e : Int) : Text :=
  let digits := Numeral.ofNat n
  let power := e + digits.length - 1
  let fraction := if digits.length = 1 then [] else '.' :: digits.drop 1
  digits.take 1 ++ fraction ++ 'e' :: (if power < 0 then '-' else '+') :: Numeral.ofNat power.natAbs

/-- The text of a double. -/
def render (layout : Layout) (x : Float) : Text :=
  match parts x with
  | .nan => layout.nan
  | .infinite negative => if negative then layout.negativeInfinite else layout.infinite
  | .finite negative m q =>
    let (n, e) := if m = 0 then (0, 0) else Shortest.digits layout.tie m q
    let power := e + (Numeral.ofNat n).length - 1
    let text :=
      if layout.positional power then positionalText layout.wholeMark n e else scientificText n e
    if negative then '-' :: text else text

/-- Plain text: never an exponent, and whole numbers without a point. -/
def plain : Layout where
  tie := .up
  positional := fun _ => true
  wholeMark := []
  nan := "NaN".toList
  infinite := "inf".toList
  negativeInfinite := "-inf".toList

/-- Numbers in JSON text: `.0` after whole numbers, an exponent below `1e-5` and from `1e16` on, and
`null` for what JSON has no number for. -/
def json : Layout where
  tie := .even
  positional := fun power => -5 ≤ power && power ≤ 15
  wholeMark := ".0".toList
  nan := "null".toList
  infinite := "null".toList
  negativeInfinite := "null".toList

end Double
end RecordFilter
