import RecordFilter.Number.Decimal
import RecordFilter.Number.Double

/-!
# Text of decimals

A decimal is read digit by digit until 28 digits follow the point or the coefficient would need
more than 96 bits; the next digit then rounds the number, a five going up, and the rest of the text
is not looked at. Underscores between digits are skipped. The scientific form multiplies such a
number by a power of ten.
-/

namespace RecordFilter
namespace Decimal

/-- The decimal for a coefficient that the next character rounds. -/
def roundAt? (negative point : Bool) (n scale : Nat) (next : Char) : Option Decimal :=
  let digit? :=
    if next = '_' ∨ (next = '.' ∧ point) then some 0 else Numeral.digit? next
  digit?.bind fun digit =>
    if digit < 5 then ofParts? negative n scale
    else if n + 1 < limit then ofParts? negative (n + 1) scale
    else if scale = 0 then none
    else ofParts? negative ((n + 5) / 10) (scale - 1)

/-- Reads on after the digits of `n`, of which `scale` stand after the point. `point` says whether
the point was read, `seen` whether a digit was. -/
def readFrom? (negative point seen : Bool) (n scale : Nat) : Text → Option Decimal
  | [] => if seen then ofParts? negative n scale else none
  | c :: t =>
    if point && seen && maxScale ≤ scale then roundAt? negative point n scale c
    else if c = '.' then
      if point then none else readFrom? negative true seen n scale t
    else if c = '_' then
      if seen then readFrom? negative point seen n scale t else none
    else (Numeral.digit? c).bind fun digit =>
      let n' := n * 10 + digit
      if n' < limit then readFrom? negative point true n' (if point then scale + 1 else 0) t
      else if point then roundAt? negative point n scale c
      else none

/-- Reads a decimal in plain digits. -/
def readPlain? : Text → Option Decimal
  | '-' :: t => readFrom? true false false 0 0 t
  | '+' :: t => readFrom? false false false 0 0 t
  | t => readFrom? false false false 0 0 t

/-- The largest exponent that is read. -/
def maxExponent : Nat := 2 ^ (32 : Nat) - 1

/-- Multiplies by a power of ten, at most nineteen places at a time. -/
def shiftUp? (d : Decimal) (places : Nat) : Option Decimal :=
  let first := min places 19
  (ofParts? false (10 ^ first) 0).bind fun power =>
    (d.mul? power).bind fun product =>
      if places ≤ 19 then some product
      else (ofParts? false (10 ^ (places - 19)) 0).bind product.mul?

/-- Reads a decimal with an exponent. A negative exponent only moves the point to the left, as far as
28 places; a positive one removes digits after the point or multiplies. -/
def readScientific? (t : Text) : Option Decimal :=
  let (base, mark) := Text.spanWhile (fun c => c != 'e' && c != 'E') t
  (readPlain? base).bind fun d =>
    match mark with
    | [] => none
    | _ :: '-' :: exponent =>
      (Numeral.unsigned? maxExponent exponent).bind fun places =>
        if h : d.scale + places ≤ 28 then
          some { d with scale := d.scale + places, scale_le := h }
        else none
    | _ :: exponent =>
      (Numeral.unsigned? maxExponent exponent).bind fun places =>
        if places ≤ d.scale then
          some { d with scale := d.scale - places,
                        scale_le := Nat.le_trans (Nat.sub_le _ _) d.scale_le }
        else if maxScale < places then none
        else (d.shiftUp? places).map normalize

/-- Reads a decimal in plain digits or with an exponent. -/
def read? (t : Text) : Option Decimal :=
  (readPlain? t).or (readScientific? t)

/-- The digits with the sign and the point; the scale shows in the zeros at the end. -/
def render (d : Decimal) : Text :=
  let digits := Numeral.padded (d.scale + 1) d.coefficient
  let whole := digits.length - d.scale
  let text :=
    if d.scale = 0 then digits else digits.take whole ++ '.' :: digits.drop whole
  if d.negative then '-' :: text else text

/-- The double for a decimal without its sign. The whole part and the fraction are turned into
doubles on their own; their sum is rounded again to the digits of the decimal. -/
def magnitudeToDouble (d : Decimal) : Float :=
  let ten := 10 ^ d.scale
  let whole := Double.ofInt (d.coefficient / ten)
  let fraction := Double.ofInt (d.coefficient % ten) / Double.ofInt ten
  if d.coefficient % ten = 0 then whole
  else
    let shift := Double.power (Double.ofInt 10) d.scale
    Double.roundAway ((whole + fraction) * shift) / shift

/-- The double for a decimal. A zero keeps its sign only if it has digits after the point. -/
def toDouble (d : Decimal) : Float :=
  if d.scale = 0 then Double.ofInt d.signed
  else if d.negative then -d.magnitudeToDouble
  else d.magnitudeToDouble

end Decimal
end RecordFilter
