import Mathlib.Data.Rat.Floor
import Mathlib.Order.Compare
import Mathlib.Tactic.FieldSimp
import RecordFilter.Proofs.IntegerArithmetic
import RecordFilter.Proofs.SqlSelection

/-!
# The order of exact numbers

Integers and decimals are exact: each of them stands for one rational number, and a decimal does so in many
ways, with more or fewer digits after the point and with a sign on zero. Two integers are compared with 64
bits, and any other two of them as decimals at the longer of their scales. Both ways are the order of the
rational numbers, so that values of all three kinds are in one total order.

Main statement: `Value.compare_exact`.
-/

namespace RecordFilter

namespace Decimal

/-- The number that a decimal stands for. -/
def toRat (d : Decimal) : ℚ :=
  d.signed / 10 ^ d.scale

theorem signedAt_eq_toRat_mul (d : Decimal) {scale : ℕ} (h : d.scale ≤ scale) :
    (d.signedAt scale : ℚ) = d.toRat * 10 ^ scale := by
  have hpow : (10 : ℚ) ^ scale = 10 ^ (scale - d.scale) * 10 ^ d.scale := by
    rw [← pow_add, Nat.sub_add_cancel h]
  rw [signedAt, toRat, hpow]
  push_cast
  field_simp

/-- Decimals compare as the numbers that they stand for. -/
theorem compare_toRat (a b : Decimal) : a.compare b = Ord.compare a.toRat b.toRat := by
  have hscaled : StrictMono fun x : ℚ => x * 10 ^ max a.scale b.scale :=
    fun x y hlt => mul_lt_mul_of_pos_right hlt (by positivity)
  rw [compare, ← cmp_eq_compare, ← cmp_eq_compare, ← Int.cast_strictMono.cmp_map_eq (β := ℚ),
    signedAt_eq_toRat_mul a (le_max_left ..), signedAt_eq_toRat_mul b (le_max_right ..)]
  exact hscaled.cmp_map_eq ..

theorem toRat_ofInt64 (n : Int64) : (ofInt64 n).toRat = n.toInt := by
  have hlow := n.le_toInt
  have hhigh := n.toInt_lt
  have hfits : n.toInt.natAbs < 2 ^ (96 : Nat) ∧ 0 ≤ 28 := by omega
  rw [ofInt64, ofInt?, ofParts?, dif_pos hfits, Option.getD_some, toRat, pow_zero, div_one, Int.cast_inj,
    signed]
  rcases lt_or_ge n.toInt 0 with hn | hn
  · rw [if_pos (by simp [hn, hn.ne])]
    exact neg_eq_iff_eq_neg.2 (Int.ofNat_natAbs_of_nonpos hn.le)
  · rw [if_neg (by simp [hn])]
    exact Int.natAbs_of_nonneg hn

end Decimal

namespace Value

/-- The values that are exact numbers, with the number. -/
inductive IsExact : ℚ → Value → Prop
  | integer {bits : ℕ} {n : ℤ} {value : Value} (h : IsInteger bits n value) : IsExact n value
  | decimal (d : Decimal) : IsExact d.toRat (.decimal d)

/-- One value comes before another one in the order, or ties with it. -/
def IsAtMost (a b : Value) : Prop :=
  ∃ order, compare a b = .ok order ∧ order.isLE = true

/-! ## Pairs of numbers -/

/-- Two numbers that are brought to one kind are equal if they tie. -/
theorem NumericPair.areEqual_iff (pair : NumericPair) :
    pair.areEqual = true ↔ pair.order? = some .eq := by
  cases pair with
  | integral x y =>
    show (x == y) = true ↔ some (Ord.compare x y) = some .eq
    rw [beq_iff_eq, Option.some.injEq, compare_toInt, Int.compare_eq_eq, Int64.toInt_inj]
  | decimal x y => simp [areEqual, order?]
  | double x y => simp [areEqual, order?]

namespace IsExact

variable {a b c : Value} {p q r : ℚ}

/-- An exact number has a decimal of its value. -/
theorem exists_decimal? (h : IsExact p a) : ∃ d, a.decimal? = some d ∧ d.toRat = p := by
  cases h with
  | integer h =>
    cases h with
    | int32 x => exact ⟨_, rfl, by rw [Decimal.toRat_ofInt64, Int32.toInt_toInt64]⟩
    | int64 x => exact ⟨_, rfl, Decimal.toRat_ofInt64 x⟩
  | decimal d => exact ⟨d, rfl, rfl⟩

/-- A decimal and an exact number are brought to decimals. -/
theorem numericPair?_decimal_left (d : Decimal) {y : Decimal} (hy : b.decimal? = some y) :
    numericPair? (.decimal d) b = some (.decimal d y) := by
  cases b <;> cases hy <;> rfl

theorem numericPair?_decimal_right (d : Decimal) {x : Decimal} (hx : a.decimal? = some x) :
    numericPair? a (.decimal d) = some (.decimal x d) := by
  cases a <;> cases hx <;> rfl

/-- Two exact numbers are brought to a kind that orders them as the numbers that they are. -/
theorem exists_pair (ha : IsExact p a) (hb : IsExact q b) :
    ∃ pair, numericPair? a b = some pair ∧ pair.order? = some (Ord.compare p q) := by
  obtain ⟨x, hx, hxp⟩ := ha.exists_decimal?
  obtain ⟨y, hy, hyq⟩ := hb.exists_decimal?
  have horder : (NumericPair.decimal x y).order? = some (Ord.compare p q) := by
    rw [NumericPair.order?, Decimal.compare_toRat, hxp, hyq]
  cases ha with
  | decimal =>
    cases hx
    exact ⟨_, numericPair?_decimal_left x hy, horder⟩
  | integer ha =>
    cases hb with
    | decimal =>
      cases hy
      exact ⟨_, numericPair?_decimal_right y hx, horder⟩
    | integer hb =>
      -- two integers are not brought to decimals
      obtain ⟨m, n, hpair, rfl, rfl⟩ := ha.exists_pair hb
      refine ⟨_, hpair, congrArg some ?_⟩
      rw [compare_toInt, ← cmp_eq_compare, ← cmp_eq_compare]
      exact (Int.cast_strictMono.cmp_map_eq ..).symm

/-- Exact numbers are ordered as the rationals they are. -/
theorem compare_eq (ha : IsExact p a) (hb : IsExact q b) : compare a b = .ok (Ord.compare p q) := by
  obtain ⟨pair, hpair, horder⟩ := ha.exists_pair hb
  rw [compare_pair hpair, horder, Option.elim_some]

/-- Exact numbers are equal if and only if the rationals are. -/
theorem equals_iff (ha : IsExact p a) (hb : IsExact q b) : equals a b = true ↔ p = q := by
  obtain ⟨pair, hpair, horder⟩ := ha.exists_pair hb
  have hflat : ∀ fields, a ≠ .object fields := by
    rintro fields rfl
    rcases ha with ⟨⟨⟩⟩
  rw [equals_eq_equalsFlat (.inl hflat), equalsFlat_pair hpair, NumericPair.areEqual_iff, horder,
    Option.some.injEq, compare_eq_iff_eq]

/-- `IsAtMost` on exact numbers is the order of the rationals. -/
theorem isAtMost_iff (ha : IsExact p a) (hb : IsExact q b) : IsAtMost a b ↔ p ≤ q := by
  simp only [IsAtMost, ha.compare_eq hb, Except.ok.injEq, exists_eq_left', Ordering.isLE_iff_ne_gt,
    compare_gt_iff_gt, not_lt]

end IsExact

/-- Exact numbers of any kinds have an order, which is that of the numbers. So the order is reversed with the
sides exchanged, total, antisymmetric and transitive across the kinds, and two of them are equal if and only if
they tie. -/
theorem compare_exact {a b c : Value} {p q r : ℚ} (ha : IsExact p a) (hb : IsExact q b) (hc : IsExact r c) :
    compare a b = .ok (Ord.compare p q) ∧
    compare b a = .ok (Ord.compare p q).swap ∧
    (equals a b = true ↔ compare a b = .ok .eq) ∧
    (IsAtMost a b ∨ IsAtMost b a) ∧
    (IsAtMost a b → IsAtMost b a → equals a b = true) ∧
    (IsAtMost a b → IsAtMost b c → IsAtMost a c) := by
  refine ⟨ha.compare_eq hb, ?_, ?_, ?_, ?_, ?_⟩
  · rw [hb.compare_eq ha, ← Std.OrientedCmp.eq_swap]
  · rw [ha.equals_iff hb, ha.compare_eq hb, Except.ok.injEq, compare_eq_iff_eq]
  · rw [ha.isAtMost_iff hb, hb.isAtMost_iff ha]
    exact le_total p q
  · rw [ha.isAtMost_iff hb, hb.isAtMost_iff ha, ha.equals_iff hb]
    exact le_antisymm
  · rw [ha.isAtMost_iff hb, hb.isAtMost_iff hc, ha.isAtMost_iff hc]
    exact le_trans

/-- Zero with a sign and two digits after the point, zero, and one. -/
theorem compare_exact_zeros :
    let zero : Decimal := ⟨true, 0, 2, by decide, by decide⟩
    IsExact 0 (.decimal zero) ∧ IsExact 0 (.int32 0) ∧ IsExact 1 (.int64 1) ∧
      compare (.decimal zero) (.int32 0) = .ok .eq ∧ equals (.decimal zero) (.int32 0) = true ∧
      IsAtMost (.decimal zero) (.int64 1) := by
  intro zero
  have hzero : zero.toRat = 0 := by simp [zero, Decimal.toRat, Decimal.signed]
  have ha : IsExact 0 (.decimal zero) := hzero ▸ .decimal zero
  have hb : IsExact 0 (.int32 0) := by simpa using IsExact.integer (.int32 0)
  have hc : IsExact 1 (.int64 1) := by simpa using IsExact.integer (.int64 1)
  obtain ⟨horder, -, hequal, -, -, htrans⟩ := compare_exact ha hb hc
  have htie : compare (.decimal zero) (.int32 0) = .ok .eq := by rw [horder, compare_eq_iff_eq.2 rfl]
  have hbefore : IsAtMost (.int32 0) (.int64 1) := ⟨.lt, rfl, rfl⟩
  exact ⟨ha, hb, hc, htie, hequal.2 htie, htrans ⟨.eq, htie, rfl⟩ hbefore⟩

end Value
end RecordFilter
