import RecordFilter.Number.Double

/-!
# Shortest decimal digits

Every finite double has decimal numbers that read back as that double. `Shortest.digits` finds one
with the fewest digits, and among those the nearest to the double.

The numbers that read back are those of an interval around `m · 2 ^ q` which reaches half way to
the neighbouring doubles; its ends belong to it if and only if `m` is even. All comparisons are made
on natural numbers over one common denominator.
-/

namespace RecordFilter
namespace Shortest

/-- Which of two equally near numbers is taken. -/
inductive Tie where
  | even
  | up
deriving DecidableEq, Repr

/-- The interval of a double in units of `1 / unit`: the double itself and the two ends. -/
structure Interval where
  unit : Nat
  value : Nat
  low : Nat
  high : Nat
  closed : Bool

/-- The interval of `m · 2 ^ q`. Below a power of two the neighbour is nearer by half, unless the
exponent is the least one. -/
def interval (m : Nat) (q : Int) : Interval :=
  let scale := 2 ^ (q.toNat)
  let lowGap := if m = 2 ^ (52 : Nat) ∧ -1074 < q then 1 else 2
  { unit := 4 * 2 ^ (-q).toNat
    value := 4 * m * scale
    low := (4 * m - lowGap) * scale
    high := (4 * m + 2) * scale
    closed := m % 2 == 0 }

/-- Whether the number `n / unit` reads back as the double. -/
def Interval.holds (i : Interval) (n : Nat) : Bool :=
  if i.closed then i.low ≤ n && n ≤ i.high else i.low < n && n < i.high

/-- The nearest multiple of `10 ^ e` that reads back, as its quotient by `10 ^ e`. -/
def gridPoint? (tie : Tie) (i : Interval) (e : Int) : Option Nat :=
  -- Both sides are multiplied by `10 ^ (-e)` when `e` is negative.
  let step := i.unit * 10 ^ e.toNat
  let stretch := 10 ^ (-e).toNat
  let value := i.value * stretch
  let stretched : Interval :=
    { i with value, low := i.low * stretch, high := i.high * stretch }
  let below := value / step
  let rest := value % step
  let upward : Bool :=
    if 2 * rest = step then (match tie with | .even => below % 2 == 1 | .up => true)
    else decide (step < 2 * rest)
  let near := if upward then below + 1 else below
  let far := if upward then below else below + 1
  if stretched.holds (near * step) then some near
  else if stretched.holds (far * step) then some far
  else none

/-- Tries the grids of one digit more each time, down to the exponent `last`. -/
def search (tie : Tie) (i : Interval) (e : Int) : (more : Nat) → Nat × Int
  | 0 => ((gridPoint? tie i e).getD 0, e)
  | more + 1 =>
    match gridPoint? tie i e with
    | some n => (n, e)
    | none => search tie i (e - 1) more

/-- Moves zeros at the end of the digits into the exponent. -/
def stripZeros (n : Nat) (e : Int) : Nat × Int :=
  if 0 < n ∧ n % 10 = 0 then stripZeros (n / 10) (e + 1) else (n, e)
termination_by n

/-- The shortest digits `n` and exponent `e` with `n · 10 ^ e` in the interval of `m · 2 ^ q`, for a
positive `m`. The search starts above the first digit of the number and needs at most 17 digits more;
the exponent estimate may be one too high. -/
def digits (tie : Tie) (m : Nat) (q : Int) : Nat × Int :=
  let i := interval m q
  -- The number of digits before the point, or of zeros after it.
  let bits : Int := (m.log2 : Int) + q
  let first : Int := bits * 30103 / 100000 + 1
  let (n, e) := search tie i first 20
  stripZeros n e

end Shortest
end RecordFilter
