import RecordFilter.Number.Digits

/-!
# Decimal numbers

A decimal is a 96-bit coefficient with a sign and a scale, the number of digits after the point,
between 0 and 28. The scale is part of the value that is written (`1.50` stays `1.50`), while
comparison looks at the exact number only.

Results that need more than 96 bits or 28 places lose digits at the end, rounded to the nearest
with ties to the even neighbour. A result whose whole part needs more than 96 bits overflows.
-/

namespace RecordFilter

/-- A number `± coefficient / 10 ^ scale`. -/
structure Decimal where
  negative : Bool
  coefficient : Nat
  scale : Nat
  coefficient_lt : coefficient < 2 ^ (96 : Nat)
  scale_le : scale ≤ 28
deriving DecidableEq, Repr

namespace Decimal

/-- Coefficients are below this number. -/
def limit : Nat := 2 ^ (96 : Nat)

/-- The most digits after the point. -/
def maxScale : Nat := 28

/-- Zero without digits after the point. -/
def zero : Decimal := ⟨false, 0, 0, by decide, by decide⟩

instance : Inhabited Decimal := ⟨zero⟩

/-- The decimal with these parts, if they are in range. Zero has no sign. -/
def ofParts? (negative : Bool) (coefficient scale : Nat) : Option Decimal :=
  if h : coefficient < 2 ^ (96 : Nat) ∧ scale ≤ 28 then
    some ⟨negative && coefficient != 0, coefficient, scale, h.1, h.2⟩
  else none

/-- An integer of at most 96 bits as a decimal without digits after the point. -/
def ofInt? (n : Int) : Option Decimal :=
  ofParts? (n < 0) n.natAbs 0

/-- A 64-bit integer as a decimal. -/
def ofInt64 (n : Int64) : Decimal :=
  (ofInt? n.toInt).getD zero

/-- Whether the number is zero, of either sign and any scale. -/
def isZero (d : Decimal) : Bool :=
  d.coefficient == 0

/-- The signed coefficient. -/
def signed (d : Decimal) : Int :=
  if d.negative then -(d.coefficient : Int) else d.coefficient

/-- The signed coefficient when the number is written with `scale` digits after the point. -/
def signedAt (d : Decimal) (scale : Nat) : Int :=
  d.signed * 10 ^ (scale - d.scale)

/-- The order of the exact numbers. -/
def compare (a b : Decimal) : Ordering :=
  let scale := max a.scale b.scale
  Ord.compare (a.signedAt scale) (b.signedAt scale)

/-! ## Rounding -/

/-- The quotient rounded to the nearest integer, a half to the even neighbour. -/
def divHalfEven (n d : Nat) : Nat :=
  let q := n / d
  let r := n % d
  if d < 2 * r ∨ (2 * r = d ∧ q % 2 = 1) then q + 1 else q

/-- How many digits have to go from the end for a coefficient to fit into 96 bits. -/
def excessDigits (n : Nat) : Nat :=
  if n < limit then 0 else excessDigits (n / 10) + 1
termination_by n
decreasing_by
  rename_i h
  have : 0 < limit := by decide
  omega

/-- The decimal nearest to `± n / 10 ^ scale`, or nothing when its whole part is too long. -/
def fit? (negative : Bool) (n scale : Nat) : Option Decimal :=
  let drop := max (scale - maxScale) (excessDigits n)
  if scale < drop then none
  else
    let rounded := divHalfEven n (10 ^ drop)
    if rounded < limit then ofParts? negative rounded (scale - drop)
    else if scale = drop then none
    else ofParts? negative (divHalfEven rounded 10) (scale - drop - 1)

/-! ## Sums and products -/

/-- Whether both coefficients, written with the larger scale, fit into 32 bits with a shift of at
most nine digits. Only then does a sum of zero keep the sign of its first operand. -/
def bothNarrow (a b : Decimal) : Bool :=
  let shift := max a.scale b.scale - min a.scale b.scale
  let scaled := (if a.scale < b.scale then a.coefficient else b.coefficient) * 10 ^ shift
  a.coefficient < 2 ^ (32 : Nat) && b.coefficient < 2 ^ (32 : Nat)
    && (shift == 0 || (shift ≤ 9 && scaled < 2 ^ (32 : Nat)))

/-- The sum. An operand of zero leaves the other one as it is, scale included. -/
def add? (a b : Decimal) : Option Decimal :=
  if a.isZero then some b
  else if b.isZero then some a
  else
    let scale := max a.scale b.scale
    let total := a.signedAt scale + b.signedAt scale
    if h : total = 0 ∧ a.bothNarrow b then
      some ⟨a.negative, 0, scale, by decide,
        Nat.max_le.2 ⟨a.scale_le, b.scale_le⟩⟩
    else fit? (total < 0) total.natAbs scale

/-- The number with the other sign; zero stays as it is. -/
def neg (d : Decimal) : Decimal :=
  if d.isZero then d else { d with negative := !d.negative }

/-- The difference. -/
def sub? (a b : Decimal) : Option Decimal :=
  a.add? b.neg

/-- The product. A factor of zero gives zero without digits after the point, and so do two factors
of 32 bits with more than 47 digits after the point together. -/
def mul? (a b : Decimal) : Option Decimal :=
  let scale := a.scale + b.scale
  if a.isZero || b.isZero then some zero
  else if a.coefficient < 2 ^ (32 : Nat) && b.coefficient < 2 ^ (32 : Nat) && 47 < scale then some zero
  else fit? (a.negative != b.negative) (a.coefficient * b.coefficient) scale

/-! ## Quotients -/

/-- The most digits, up to `most`, that can be appended to a coefficient within 96 bits. -/
def headroom (n : Nat) : (most : Nat) → Nat
  | 0 => 0
  | most + 1 => if n * 10 ^ (most + 1) < limit then most + 1 else headroom n most

/-- A quotient that has run over 96 bits loses its last digit. `inexact` says that a remainder is
left, so that a half is not a tie. -/
def dropLastDigit? (n : Nat) (scale : Int) (inexact : Bool) : Option (Nat × Int) :=
  if scale ≤ 0 then none
  else
    let q := n / 10
    let r := n % 10
    let up := 5 < r ∨ (r = 5 ∧ (inexact ∨ q % 2 = 1))
    some (if up then q + 1 else q, scale - 1)

/-- The last digit of a quotient, rounded by the remainder that is left over. -/
def roundLast? (divisor q r : Nat) (scale : Int) : Option (Nat × Int) :=
  if divisor < 2 * r ∨ (2 * r = divisor ∧ q % 2 = 1) then
    if q + 1 < limit then some (q + 1, scale) else dropLastDigit? (q + 1) scale true
  else some (q, scale)

/-- Long division: `q` is the quotient so far, `r` the remainder and `scale` the number of digits
of `q` after the point. Each step appends as many digits as fit, at most nine. -/
def divideFrom? (divisor q r : Nat) (scale : Int) : Option (Nat × Int) :=
  if r = 0 then
    if 0 ≤ scale then some (q, scale)
    else
      let digits := min 9 scale.natAbs
      let q' := q * 10 ^ digits
      if q' < limit then divideFrom? divisor q' 0 (scale + digits) else none
  else if maxScale ≤ scale then roundLast? divisor q r scale
  else
    let digits := headroom q (min 9 ((maxScale : Int) - scale).toNat)
    if digits < 9 ∧ scale + digits < 0 then none
    else if digits = 0 then roundLast? divisor q r scale
    else
      let q' := q * 10 ^ digits + r * 10 ^ digits / divisor
      let r' := r * 10 ^ digits % divisor
      if q' < limit then divideFrom? divisor q' r' (scale + digits)
      else dropLastDigit? q' (scale + digits) (r' != 0)
termination_by ((maxScale : Int) - scale).toNat
decreasing_by
  · simp only [maxScale]
    omega
  · have appended : headroom q (min 9 ((maxScale : Int) - scale).toNat) ≠ 0 := by assumption
    omega

/-- Removes eight zeros at a time from the end, as long as the low 32 bits are zero. -/
def stripEights (n scale : Nat) : Nat × Nat :=
  if 8 ≤ scale ∧ n % 2 ^ (32 : Nat) = 0 ∧ n % 10 ^ (8 : Nat) = 0 then
    stripEights (n / 10 ^ (8 : Nat)) (scale - 8)
  else (n, scale)
termination_by scale

/-- Removes `count` zeros from the end, if there are so many. -/
def stripZeros (count : Nat) : Nat × Nat → Nat × Nat
  | (n, scale) =>
    if count ≤ scale ∧ n % 10 ^ count = 0 then (n / 10 ^ count, scale - count) else (n, scale)

/-- A quotient that needed more digits than the dividend had loses zeros at the end again: eights
while the low 32 bits are zero, then four, two and one. -/
def tidy (n scale : Nat) : Nat × Nat :=
  stripZeros 1 (stripZeros 2 (stripZeros 4 (stripEights n scale)))

/-- The quotient, or nothing when it overflows. The divisor must not be zero. -/
def div? (a b : Decimal) : Option Decimal :=
  if a.isZero then some zero
  else
    let q := a.coefficient / b.coefficient
    let r := a.coefficient % b.coefficient
    (divideFrom? b.coefficient q r (a.scale - b.scale)).bind fun (n, scale) =>
      let (n, scale) := if r = 0 then (n, scale.toNat) else tidy n scale.toNat
      ofParts? (a.negative != b.negative) n scale

/-- The remainder of truncated division, with the sign of the dividend. A dividend below the
divisor is its own remainder, and equal numbers leave zero. -/
def rem? (a b : Decimal) : Option Decimal :=
  let scale := max a.scale b.scale
  let x := a.coefficient * 10 ^ (scale - a.scale)
  let y := b.coefficient * 10 ^ (scale - b.scale)
  if a.isZero || x == y then some zero
  else if x < y then some a
  else ofParts? a.negative (x % y) scale

/-! ## Whole numbers -/

/-- The number without the digits after the point. The sign stays, also on zero. -/
def truncate (d : Decimal) : Decimal :=
  ⟨d.negative, d.coefficient / 10 ^ d.scale, 0,
    Nat.lt_of_le_of_lt (Nat.div_le_self _ _) d.coefficient_lt, by decide⟩

/-- Whether there are digits other than zero after the point. -/
def hasFraction (d : Decimal) : Bool :=
  d.coefficient % 10 ^ d.scale != 0

/-- The integer one. -/
def one : Decimal := ⟨false, 1, 0, by decide, by decide⟩

/-- The nearest integer, a half to the even neighbour. -/
def round (d : Decimal) : Decimal :=
  if d.scale = 0 then d
  else (ofParts? d.negative (divHalfEven d.coefficient (10 ^ d.scale)) 0).getD d.truncate

/-- The greatest integer that is not above the number. -/
def floor (d : Decimal) : Decimal :=
  if d.scale = 0 then d
  else if d.negative && d.hasFraction then (d.truncate.sub? one).getD d.truncate
  else d.truncate

/-- The least integer that is not below the number. -/
def ceiling (d : Decimal) : Decimal :=
  if d.scale = 0 then d
  else if !d.negative && d.hasFraction then (d.truncate.add? one).getD d.truncate
  else d.truncate

/-- The same number with no zero at the end of its digits after the point. -/
def stripAllZeros (n : Nat) : (scale : Nat) → Nat × Nat
  | 0 => (n, 0)
  | scale + 1 => if n % 10 = 0 then stripAllZeros (n / 10) scale else (n, scale + 1)

/-- The same number with the least scale. -/
def normalize (d : Decimal) : Decimal :=
  let (n, scale) := stripAllZeros d.coefficient d.scale
  (ofParts? d.negative n scale).getD d

end Decimal
end RecordFilter
