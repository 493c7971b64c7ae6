import Mathlib
import RecordFilter.Number.Shortest
import RecordFilter.Proofs.Rounding

/-!
# Shortest digits read back

The search for the shortest digits of a double tries finer and finer grids. Whatever point it takes is in
the interval of the double, and a grid that is finer than half of the interval has a point there, so the
search finds one before it ends. Reading the digits therefore gives the double again.

Main statements: `roundsTo_digits` and `Double.ofDecimal_digits`.
-/

namespace RecordFilter
namespace Shortest

open Double

variable {tie : Tie} {m : ℕ} {q e : ℤ}

/-! ## Grids -/

theorem holds_iff {i : Interval} {n : ℕ} : i.holds n = true ↔
    i.low ≤ n ∧ n ≤ i.high ∧ (i.closed = false → i.low < n ∧ n < i.high) := by
  unfold Interval.holds
  cases i.closed with
  | false =>
    simp
    omega
  | true => simp

/-- The distance between the points of a grid. -/
def Interval.step (i : Interval) (e : ℤ) : ℕ :=
  i.unit * 10 ^ e.toNat

/-- The interval in the unit of a grid. -/
def Interval.stretched (i : Interval) (e : ℤ) : Interval :=
  { i with
    value := i.value * 10 ^ (-e).toNat
    low := i.low * 10 ^ (-e).toNat
    high := i.high * 10 ^ (-e).toNat }

/-- Whichever way a tie goes, the multiple that is chosen is at most half a step from the value. -/
theorem nearer_bounds {value step : ℕ} (hstep : 0 < step) (tied : Bool) {upward : Bool}
    (hupward : (if 2 * (value % step) = step then tied else decide (step < 2 * (value % step))) = upward) :
    2 * value ≤ 2 * ((if upward then value / step + 1 else value / step) * step) + step ∧
    2 * ((if upward then value / step + 1 else value / step) * step) ≤ 2 * value + step := by
  have hvalue := Nat.div_add_mod' value step
  have hrest := Nat.mod_lt value hstep
  cases upward with
  | true =>
    have hup : step ≤ 2 * (value % step) := by
      split at hupward
      · omega
      · exact (of_decide_eq_true hupward).le
    simp only [if_true, Nat.add_mul]
    omega
  | false =>
    have hdown : 2 * (value % step) ≤ step := by
      split at hupward
      · omega
      · exact not_lt.1 (of_decide_eq_false hupward)
    simp only [Bool.false_eq_true, if_false]
    omega

/-- The two points around the value are tried, the nearer one first. -/
theorem gridPoint?_eq (tie : Tie) (i : Interval) (e : ℤ) (hunit : 0 < i.unit) : ∃ near far : ℕ,
    gridPoint? tie i e =
      (if (i.stretched e).holds (near * i.step e) then some near
      else if (i.stretched e).holds (far * i.step e) then some far else none) ∧
    2 * (i.stretched e).value ≤ 2 * (near * i.step e) + i.step e ∧
    2 * (near * i.step e) ≤ 2 * (i.stretched e).value + i.step e := by
  have hstep : 0 < i.step e := Nat.mul_pos hunit (by positivity)
  exact ⟨_, _, rfl, nearer_bounds hstep _ rfl⟩

/-- A point that is found is in the interval. -/
theorem holds_of_gridPoint? {i : Interval} (hunit : 0 < i.unit) {n : ℕ}
    (h : gridPoint? tie i e = some n) : (i.stretched e).holds (n * i.step e) = true := by
  obtain ⟨near, far, hgrid, -⟩ := gridPoint?_eq tie i e hunit
  rw [h] at hgrid
  split at hgrid
  · rename_i hnear
    cases hgrid
    exact hnear
  · split at hgrid
    · rename_i hfar
      cases hgrid
      exact hfar
    · cases hgrid

/-! ## The interval of a double -/

/-- How far the interval reaches below the value, in quarters of the unit of the mantissa. -/
def lowGap (m : ℕ) (q : ℤ) : ℕ :=
  if m = 2 ^ 52 ∧ -1074 < q then 1 else 2

theorem lowGap_bounds (m : ℕ) (q : ℤ) : 0 < lowGap m q ∧ lowGap m q ≤ 2 := by
  unfold lowGap
  split <;> omega

theorem interval_eq (m : ℕ) (q : ℤ) : interval m q =
    ⟨4 * 2 ^ (-q).toNat, 4 * m * 2 ^ q.toNat, (4 * m - lowGap m q) * 2 ^ q.toNat,
      (4 * m + 2) * 2 ^ q.toNat, m % 2 == 0⟩ := rfl

theorem unit_pos (m : ℕ) (q : ℤ) : 0 < (interval m q).unit := by
  rw [interval_eq]
  positivity

/-- A point of the interval in natural numbers, in quarters of the unit of the mantissa at a grid. -/
theorem holds_stretched_iff (hm : 0 < m) {position u : ℕ}
    (hu : 2 ^ q.toNat * 10 ^ (-e).toNat = u) :
    ((interval m q).stretched e).holds position = true ↔
      4 * (m * u) ≤ position + lowGap m q * u ∧ position ≤ 4 * (m * u) + 2 * u ∧
        (m % 2 = 1 → 4 * (m * u) < position + lowGap m q * u ∧ position < 4 * (m * u) + 2 * u) := by
  have hgap := Nat.mul_le_mul_right u (show lowGap m q ≤ 4 * m by have := lowGap_bounds m q; omega)
  have hodd : (m % 2 == 0) = false ↔ m % 2 = 1 := by
    rw [beq_eq_false_iff_ne]
    omega
  rw [holds_iff, interval_eq]
  simp only [Interval.stretched, Nat.mul_assoc, hu, hodd]
  rw [Nat.sub_mul, Nat.add_mul]
  rw [Nat.mul_assoc] at hgap ⊢
  omega

/-- A point of the interval is rounded to the double. -/
theorem roundsTo_of_bounds {x : ℚ} {position u : ℕ} (hu : 0 < u)
    (hposition : (position : ℚ) = 4 * (x / 2 ^ q) * u)
    (h : 4 * (m * u) ≤ position + lowGap m q * u ∧ position ≤ 4 * (m * u) + 2 * u ∧
      (m % 2 = 1 → 4 * (m * u) < position + lowGap m q * u ∧ position < 4 * (m * u) + 2 * u)) :
    RoundsTo m q x := by
  obtain ⟨hlow, hhigh, hopen⟩ := h
  have hpos : (0 : ℚ) < u := by exact_mod_cast hu
  -- all bounds are multiples of the same unit
  have hl : (m - lowGap m q / 4 : ℚ) ≤ x / 2 ^ q := by
    have hcast : (4 * (m * u) : ℚ) ≤ position + lowGap m q * u := by exact_mod_cast hlow
    exact le_of_mul_le_mul_right (by linarith) hpos
  have hh : x / 2 ^ q ≤ (m + 1 / 2 : ℚ) := by
    have hcast : (position : ℚ) ≤ 4 * (m * u) + 2 * u := by exact_mod_cast hhigh
    exact le_of_mul_le_mul_right (by linarith) hpos
  refine ⟨⟨?_, hh, fun hodd => ?_⟩, fun hm hq => ?_⟩
  · have hgap : (lowGap m q : ℚ) ≤ 2 := by exact_mod_cast (lowGap_bounds m q).2
    linarith
  · obtain ⟨hlow', hhigh'⟩ := hopen hodd
    rw [lowGap, if_neg (by rintro ⟨rfl, -⟩; norm_num at hodd)] at hlow'
    have hcast : (4 * (m * u) : ℚ) < position + 2 * u := by exact_mod_cast hlow'
    have hcast' : (position : ℚ) < 4 * (m * u) + 2 * u := by exact_mod_cast hhigh'
    exact ⟨lt_of_mul_lt_mul_right (by linarith) hpos.le, lt_of_mul_lt_mul_right (by linarith) hpos.le⟩
  · rwa [lowGap, if_pos ⟨hm, hq⟩, Nat.cast_one] at hl

/-- The points of a grid that are found read back. -/
theorem roundsTo_of_gridPoint? (hm : 0 < m) {n : ℕ} (h : gridPoint? tie (interval m q) e = some n) :
    RoundsTo m q (n * 10 ^ e) := by
  have hposition : ((n * (interval m q).step e : ℕ) : ℚ)
      = 4 * (n * 10 ^ e / 2 ^ q) * (2 ^ q.toNat * 10 ^ (-e).toNat : ℕ) := by
    rw [zpow_eq_div 10 e, zpow_eq_div 2 q]
    unfold Interval.step interval
    push_cast
    field_simp
  exact roundsTo_of_bounds (by positivity) hposition
    ((holds_stretched_iff hm rfl).1 (holds_of_gridPoint? (unit_pos m q) h))

/-- A grid that is finer than half of the interval has a point in it. -/
theorem isSome_gridPoint? (hm : 0 < m) (he : (10 : ℚ) ^ e < 2 ^ (q - 1)) :
    (gridPoint? tie (interval m q) e).isSome := by
  have hstep : (interval m q).step e < 2 * (2 ^ q.toNat * 10 ^ (-e).toNat) := by
    rw [zpow_sub₀ two_ne_zero, zpow_one, zpow_eq_div 10 e, zpow_eq_div 2 q,
      div_div, div_lt_div_iff₀ (by positivity) (by positivity)] at he
    have hcast : (4 * 2 ^ (-q).toNat * 10 ^ e.toNat : ℚ) < 2 * (2 ^ q.toNat * 10 ^ (-e).toNat) := by
      linarith
    exact_mod_cast hcast
  obtain ⟨near, far, hgrid, hbelow, habove⟩ := gridPoint?_eq tie (interval m q) e (unit_pos m q)
  have hholds : ((interval m q).stretched e).holds (near * (interval m q).step e) = true := by
    rw [holds_stretched_iff hm rfl]
    have hvalue : ((interval m q).stretched e).value = 4 * (m * (2 ^ q.toNat * 10 ^ (-e).toNat)) := by
      simp only [Interval.stretched, interval, Nat.mul_assoc]
    rw [hvalue] at hbelow habove
    -- the value is more than half a step away from both ends
    have hgap := Nat.mul_le_mul_right (2 ^ q.toNat * 10 ^ (-e).toNat) (lowGap_bounds m q).1
    omega
  rw [hgrid, if_pos hholds]
  rfl

/-! ## The search -/

/-- The search takes the first point that it finds, if there is one in the last grid. -/
theorem search_of_isSome {i : Interval} : ∀ {more : ℕ} {e : ℤ},
    (gridPoint? tie i (e - more)).isSome →
    ∃ n e', search tie i e more = (n, e') ∧ gridPoint? tie i e' = some n := by
  intro more
  induction more with
  | zero =>
    intro e h
    obtain ⟨n, hn⟩ := Option.isSome_iff_exists.1 h
    rw [Nat.cast_zero, sub_zero] at hn
    exact ⟨n, e, by rw [search, hn]; rfl, hn⟩
  | succ more ih =>
    intro e h
    rw [search]
    cases hgrid : gridPoint? tie i e with
    | some n => exact ⟨n, e, rfl, hgrid⟩
    | none =>
      refine ih ?_
      rwa [Nat.cast_succ, add_comm, ← sub_sub] at h

/-- Zeros at the end of the digits are moved into the exponent. -/
theorem stripZeros_eq (n : ℕ) (e : ℤ) :
    ((stripZeros n e).1 : ℚ) * 10 ^ (stripZeros n e).2 = n * 10 ^ e := by
  fun_induction stripZeros n e with
  | case1 n e h ih =>
    have hn : (n : ℚ) = (n / 10 : ℕ) * 10 := by
      exact_mod_cast (Nat.div_mul_cancel (Nat.dvd_of_mod_eq_zero h.2)).symm
    rw [ih, zpow_add_one₀ (by norm_num), hn]
    ring
  | case2 => rfl

/-- A power of ten with an exponent by the logarithm of two to five digits is below the power of two. -/
theorem ten_zpow_lt {b : ℤ} (hlow : -1100 ≤ b) (hhigh : b ≤ 1100)
    (he : 100000 * (e + 19) ≤ 30103 * b) : (10 : ℚ) ^ e < 2 ^ (b - 53) := by
  rcases le_or_gt 0 e with hpos | hneg
  · lift e to ℕ using hpos
    refine lt_of_pow_lt_pow_left₀ 3 (by positivity) ?_
    calc ((10 : ℚ) ^ (e : ℤ)) ^ 3 = 1000 ^ e := by
          rw [zpow_natCast, ← pow_mul, mul_comm, pow_mul]
          norm_num
      _ ≤ 1024 ^ e := by gcongr; norm_num
      _ = 2 ^ (10 * e : ℤ) := by
          rw [show (1024 : ℚ) = 2 ^ 10 by norm_num, ← pow_mul]
          exact_mod_cast rfl
      _ < 2 ^ ((b - 53) * (3 : ℕ)) := zpow_lt_zpow_right₀ one_lt_two (by push_cast; omega)
      _ = (2 ^ (b - 53)) ^ 3 := by rw [zpow_mul, zpow_natCast]
  · obtain ⟨k, rfl⟩ : ∃ k : ℕ, e = -k := ⟨e.natAbs, by omega⟩
    refine lt_of_pow_lt_pow_left₀ 28 (by positivity) ?_
    calc ((10 : ℚ) ^ (-k : ℤ)) ^ 28 = ((10 ^ 28) ^ k)⁻¹ := by
          rw [zpow_neg, zpow_natCast, inv_pow, ← pow_mul, ← pow_mul, mul_comm]
      _ < ((2 ^ 93) ^ k)⁻¹ := by
          have hk : k ≠ 0 := by omega
          gcongr
          norm_num
      _ = 2 ^ (-(93 * k) : ℤ) := by
          rw [← pow_mul, zpow_neg]
          exact_mod_cast rfl
      _ ≤ 2 ^ ((b - 53) * (28 : ℕ)) := zpow_le_zpow_right₀ one_le_two (by push_cast; omega)
      _ = (2 ^ (b - 53)) ^ 28 := by rw [zpow_mul, zpow_natCast]

/-- The shortest digits are rounded to the double. -/
theorem roundsTo_digits (tie : Tie) (h : IsScaled m q) (hm : 0 < m) :
    RoundsTo m q ((digits tie m q).1 * 10 ^ (digits tie m q).2) := by
  obtain ⟨hmax, hleast, hgreatest, -⟩ := h
  have hlog : m.log2 < 53 := (Nat.log2_lt hm.ne').2 hmax
  unfold digits
  simp only
  generalize hfirst : (m.log2 + q : ℤ) * 30103 / 100000 + 1 = first
  -- the last grid is fine enough
  have hfine : (10 : ℚ) ^ (first - (20 : ℕ)) < 2 ^ (q - 1) := by
    have hlt := ten_zpow_lt (b := m.log2 + q) (e := first - (20 : ℕ)) (by omega) (by omega) (by omega)
    exact hlt.trans_le (zpow_le_zpow_right₀ one_le_two (by omega))
  obtain ⟨n, e, hsearch, hgrid⟩ := search_of_isSome (isSome_gridPoint? hm hfine)
  rw [hsearch, stripZeros_eq]
  exact roundsTo_of_gridPoint? hm hgrid

end Shortest

/-! ## Reading digits -/

namespace Double

open Shortest

variable {m n : ℕ} {q e : ℤ}

/-- Doubles are far from the numbers that are cut short. -/
theorem RoundsTo.bounds {x : ℚ} (hx : RoundsTo m q x) (h : IsScaled m q) (hm : 0 < m) :
    (10 : ℚ) ^ (-400 : ℤ) ≤ x ∧ x < 10 ^ (400 : ℤ) := by
  obtain ⟨hmax, hleast, hgreatest, -⟩ := h
  have hpow : (0 : ℚ) < 2 ^ q := by positivity
  have hmax' : (m : ℚ) + 1 ≤ 2 ^ 53 := by exact_mod_cast hmax
  have hm' : (1 : ℚ) ≤ m := by exact_mod_cast hm
  have hlow := hx.near.low
  have hhigh := hx.near.high
  rw [le_div_iff₀ hpow] at hlow
  rw [div_le_iff₀ hpow] at hhigh
  have hten : (2 : ℚ) ^ (1200 : ℤ) ≤ 10 ^ (400 : ℤ) := by
    rw [show (1200 : ℤ) = (3 : ℕ) * 400 by norm_num, zpow_mul, zpow_natCast]
    exact zpow_le_zpow_left₀ (by norm_num) (by positivity) (by norm_num)
  constructor
  · calc (10 : ℚ) ^ (-400 : ℤ) ≤ 2 ^ (-1200 : ℤ) := by
          rw [zpow_neg, zpow_neg]
          exact inv_anti₀ (by positivity) hten
      _ ≤ 2 ^ (-1 + q) := zpow_le_zpow_right₀ one_le_two (by omega)
      _ = 1 / 2 * 2 ^ q := by rw [zpow_add₀ two_ne_zero, zpow_neg_one, one_div]
      _ ≤ (m - 1 / 2) * 2 ^ q := by
          gcongr
          linarith
      _ ≤ x := hlow
  · calc x ≤ (m + 1 / 2) * 2 ^ q := hhigh
      _ ≤ 2 ^ 53 * 2 ^ q := by
          gcongr
          linarith
      _ = 2 ^ (53 + q) := by
          rw [zpow_add₀ two_ne_zero]
          exact_mod_cast rfl
      _ < 2 ^ (1200 : ℤ) := zpow_lt_zpow_right₀ one_lt_two (by omega)
      _ ≤ 10 ^ (400 : ℤ) := hten

theorem length_ofNat_pos (n : ℕ) : 0 < (Numeral.ofNat n).length :=
  List.length_pos_iff.2 Nat.toDigits_ne_nil

theorem length_ofNat_bounds (hn : 0 < n) :
    10 ^ ((Numeral.ofNat n).length - 1) ≤ n ∧ n < 10 ^ (Numeral.ofNat n).length := by
  refine ⟨?_, (Nat.length_toDigits_le_iff (by decide) (length_ofNat_pos n)).1 le_rfl⟩
  by_contra hlt
  rcases Nat.eq_zero_or_pos ((Numeral.ofNat n).length - 1) with hone | hpos
  · rw [hone] at hlt
    omega
  · have := (Nat.length_toDigits_le_iff (by decide) hpos).2 (not_le.1 hlt)
    unfold Numeral.ofNat at *
    omega

/-- Numbers of the size of doubles are not cut short. -/
theorem ofDecimal_eq_ofRatio (negative : Bool) (hn : 0 < n)
    (hlow : (10 : ℚ) ^ (-400 : ℤ) ≤ n * 10 ^ e) (hhigh : (n * 10 ^ e : ℚ) < 10 ^ (400 : ℤ)) :
    ofDecimal negative n e = ofRatio negative (n * 10 ^ e.toNat) (10 ^ (-e).toNat) := by
  obtain ⟨hleast, hmost⟩ := length_ofNat_bounds hn
  have hlength := length_ofNat_pos n
  have hten : (1 : ℚ) < 10 := by norm_num
  have hsize : -400 < ((Numeral.ofNat n).length : ℤ) + e := by
    refine (zpow_lt_zpow_iff_right₀ hten).1 (hlow.trans_lt ?_)
    rw [zpow_add₀ (by norm_num)]
    gcongr
    exact_mod_cast hmost
  have hsize' : ((Numeral.ofNat n).length : ℤ) - 1 + e < 400 := by
    refine (zpow_lt_zpow_iff_right₀ hten).1 (lt_of_le_of_lt ?_ hhigh)
    rw [zpow_add₀ (by norm_num)]
    gcongr
    rw [show ((Numeral.ofNat n).length : ℤ) - 1 = ((Numeral.ofNat n).length - 1 : ℕ) by omega]
    exact_mod_cast hleast
  unfold ofDecimal
  simp only
  rw [if_neg (by omega), if_neg (by omega)]

/-- Digits that are rounded to a double are read as its bits. -/
theorem ofDecimal_of_roundsTo (h : IsScaled m q) (hm : 0 < m) (hx : RoundsTo m q (n * 10 ^ e))
    (negative : Bool) : ofDecimal negative n e =
      Float.ofBits (UInt64.ofNat (scaledBits m q + if negative then 2 ^ 63 else 0)) := by
  obtain ⟨hlow, hhigh⟩ := hx.bounds h hm
  have hn : 0 < n := by
    rcases Nat.eq_zero_or_pos n with rfl | hn
    · have hpos : (0 : ℚ) < 10 ^ (-400 : ℤ) := by positivity
      rw [Nat.cast_zero, zero_mul] at hlow
      exact absurd hlow hpos.not_ge
    · exact hn
  have hratio : (n * 10 ^ e : ℚ) = (n * 10 ^ e.toNat : ℕ) / (10 ^ (-e).toNat : ℕ) := by
    rw [zpow_eq_div 10 e]
    push_cast
    ring
  rw [hratio] at hx
  rw [ofDecimal_eq_ofRatio negative hn hlow hhigh, ofRatio, ratioBits_eq h hm (by positivity) hx]

variable {x : Float} {negative : Bool}

/-- The shortest digits of a double are read as the double, wherever the point stands. -/
theorem ofDecimal_digits (h : parts x = .finite negative m q) (hm : 0 < m) (tie : Tie)
    (hdigits : (n * 10 ^ e : ℚ) = (digits tie m q).1 * 10 ^ (digits tie m q).2) :
    ofDecimal negative n e = x := by
  have hscaled := (toBits_of_parts h).1
  have hrounds := roundsTo_digits tie hscaled hm
  rw [← hdigits] at hrounds
  rw [ofDecimal_of_roundsTo hscaled hm hrounds, ofBits_of_parts h]

/-- A zero is read as the zero of its sign. -/
theorem ofDecimal_zero (h : parts x = .finite negative 0 q) (e : ℤ) : ofDecimal negative 0 e = x := by
  have hq : q = -1074 := (toBits_of_parts h).1.normal.resolve_left (by norm_num)
  subst hq
  rw [← ofBits_of_parts h, ofDecimal, if_pos (.inl rfl)]
  rfl

end Double
end RecordFilter
