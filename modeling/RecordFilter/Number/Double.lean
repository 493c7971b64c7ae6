import RecordFilter.Number.Digits

/-!
# Binary64 numbers

A finite double is `± m · 2 ^ q` for a mantissa `m` below `2 ^ 53` and an exponent `q` of at least
`-1074`. This module takes doubles apart, builds the double nearest to a fraction, and computes the
operations that `Float` leaves to the machine (remainder and rounding to whole numbers) on the
exact numbers.
-/

namespace RecordFilter
namespace Double

/-- The parts of a double. -/
inductive Parts where
  | nan
  | infinite (negative : Bool)
  | finite (negative : Bool) (mantissa : Nat) (exponent : Int)
deriving DecidableEq, Repr

/-- Takes a double apart. -/
def parts (x : Float) : Parts :=
  let bits := x.toBits.toNat
  let negative := 2 ^ (63 : Nat) ≤ bits
  let field : Nat := bits / 2 ^ (52 : Nat) % 2 ^ (11 : Nat)
  let fraction := bits % 2 ^ (52 : Nat)
  if field = 2 ^ (11 : Nat) - 1 then
    if fraction = 0 then .infinite negative else .nan
  else if field = 0 then .finite negative fraction (-1074)
  else .finite negative (fraction + 2 ^ (52 : Nat)) ((field : Int) - 1075)

/-- The quotient rounded to the nearest integer, a half to the even neighbour. -/
def roundDiv (n d : Nat) : Nat :=
  let q := n / d
  let r := n % d
  if d < 2 * r ∨ (2 * r = d ∧ q % 2 = 1) then q + 1 else q

/-- The bits of infinity. -/
def infinityBits : Nat := (2 ^ (11 : Nat) - 1) * 2 ^ (52 : Nat)

/-- The bits of the double nearest to `n / d · 2 ^ (-q)`, scaled by `2 ^ q`. -/
def packAt (n d : Nat) (q : Int) : Nat :=
  let mantissa := roundDiv (n * 2 ^ (-q).toNat) (d * 2 ^ q.toNat)
  min infinityBits (mantissa + (q + 1074).toNat * 2 ^ (52 : Nat))

/-- The bits of the double nearest to the fraction, a tie going to the even mantissa. The exponent
is the one for which the mantissa has 53 bits, but not below the least exponent. -/
def ratioBits (n d : Nat) : Nat :=
  if n = 0 then 0
  else
    let q : Int := (n.log2 : Int) - d.log2 - 52
    let wide := d * 2 ^ (q + 52).toNat ≤ n * 2 ^ (-(q + 52)).toNat
    packAt n d (max (-1074) (if wide then q else q - 1))

/-- The double nearest to `± n / d`. -/
def ofRatio (negative : Bool) (n d : Nat) : Float :=
  Float.ofBits (UInt64.ofNat (ratioBits n d + if negative then 2 ^ (63 : Nat) else 0))

/-- The double nearest to `± m · 2 ^ q`. -/
def ofBinary (negative : Bool) (m : Nat) (q : Int) : Float :=
  ofRatio negative (m * 2 ^ q.toNat) (2 ^ (-q).toNat)

/-- The double nearest to `± m · 10 ^ e`. Exponents far outside of the range of doubles are cut
short before the power is computed. -/
def ofDecimal (negative : Bool) (m : Nat) (e : Int) : Float :=
  let size : Int := (Numeral.ofNat m).length
  if m = 0 ∨ size + e < -400 then ofRatio negative 0 1
  else if 400 < size + e then ofRatio negative (10 ^ (400 : Nat)) 1
  else ofRatio negative (m * 10 ^ e.toNat) (10 ^ (-e).toNat)

/-- The double nearest to an integer. -/
def ofInt (n : Int) : Float :=
  ofRatio (n < 0) n.natAbs 1

/-- Not a number. -/
def nan : Float := Float.ofBits (UInt64.ofNat (infinityBits + 2 ^ (51 : Nat)))

/-- Infinity of either sign. -/
def infinity (negative : Bool) : Float :=
  Float.ofBits (UInt64.ofNat (infinityBits + if negative then 2 ^ (63 : Nat) else 0))

/-! ## Operations on the exact number -/

/-- The remainder of truncated division, with the sign of the dividend. -/
def rem (x y : Float) : Float :=
  match parts x, parts y with
  | .finite negative m q, .finite _ m' q' =>
    if m' = 0 then nan
    else
      let least := min q q'
      ofBinary negative ((m * 2 ^ (q - least).toNat) % (m' * 2 ^ (q' - least).toNat)) least
  | .finite .., .infinite _ => x
  | _, _ => nan

/-- Applies a rounding of `m / d` to a finite double with digits after the point. -/
def roundWith (rounding : (negative : Bool) → (m d : Nat) → Nat) (x : Float) : Float :=
  match parts x with
  | .finite negative m q =>
    if 0 ≤ q then x else ofRatio negative (rounding negative m (2 ^ (-q).toNat)) 1
  | _ => x

/-- The nearest integer, a half to the even neighbour. -/
def round (x : Float) : Float :=
  roundWith (fun _ => roundDiv) x

/-- The nearest integer, a half away from zero. -/
def roundAway (x : Float) : Float :=
  roundWith (fun _ m d => (2 * m + d) / (2 * d)) x

/-- The greatest integer that is not above the number. -/
def floor (x : Float) : Float :=
  roundWith (fun negative m d => if negative then (m + d - 1) / d else m / d) x

/-- The least integer that is not below the number. -/
def ceiling (x : Float) : Float :=
  roundWith (fun negative m d => if negative then m / d else (m + d - 1) / d) x

/-- Whether the double is not a number. -/
def isNaN (x : Float) : Bool :=
  parts x = .nan

/-- The bits of the magnitude, with the sign of the double. Both zeros have the key 0, and doubles
that are numbers are in the order of their keys. -/
def orderKey (x : Float) : Int :=
  let bits := x.toBits.toNat
  if 2 ^ (63 : Nat) ≤ bits then -((bits - 2 ^ (63 : Nat) : Nat) : Int) else bits

/-- The order of two doubles, unless one of them is not a number. -/
def compare? (x y : Float) : Option Ordering :=
  if isNaN x || isNaN y then none else some (Ord.compare (orderKey x) (orderKey y))

/-- A power by repeated squaring, each product rounded. -/
def power (x : Float) (n : Nat) : Float :=
  go n x (ofInt 1)
where
  /-- Multiplies `acc` by the powers of `x` for the binary digits of `n`. -/
  go (n : Nat) (x acc : Float) : Float :=
    if n = 0 then acc
    else
      let acc := if n % 2 = 1 then acc * x else acc
      go (n / 2) (x * x) acc
  termination_by n

end Double
end RecordFilter
