import Mathlib
import RecordFilter.Number.Double

/-!
# The nearest double

A fraction is rounded in two steps: the exponent is found from the binary logarithm of the fraction, and
the mantissa is the nearest integer at that exponent. Both are exact on natural numbers; here they are
compared with the rational number itself. The numbers that a double stands for are those half way to its
neighbours (`RoundsTo`).

Main statements: `ratioBits_eq`, and `toBits_of_parts` for the bits of a double.
-/

namespace RecordFilter
namespace Double

/-! ## Quotients -/

/-- A fraction is rounded to the integer that is nearest, and a half to the even one. -/
theorem roundDiv_eq {n d k : ℕ} (hd : 0 < d) (hlow : 2 * (k * d) ≤ 2 * n + d)
    (hhigh : 2 * n ≤ 2 * (k * d) + d)
    (hodd : k % 2 = 1 → 2 * (k * d) < 2 * n + d ∧ 2 * n < 2 * (k * d) + d) : roundDiv n d = k := by
  have hn := Nat.div_add_mod' n d
  have hr := Nat.mod_lt n hd
  unfold roundDiv
  generalize n / d = q at hn ⊢
  generalize n % d = r at hn hr ⊢
  -- the quotient is `k` or the integer below it
  have hle : q ≤ k := by
    by_contra hlt
    have := Nat.mul_le_mul_right d (show k + 1 ≤ q by omega)
    rw [Nat.succ_mul] at this
    omega
  have hge : k ≤ q + 1 := by
    by_contra hlt
    have := Nat.mul_le_mul_right d (show q + 2 ≤ k by omega)
    rw [Nat.add_mul] at this
    omega
  rcases (show q = k ∨ q + 1 = k by omega) with rfl | rfl
  · rw [if_neg (by omega)]
  · rw [Nat.add_mul] at hlow hhigh hodd
    rw [if_pos (by omega)]

/-- The numbers that are rounded to an integer: those at most a half away, with both halves if the integer
is even. -/
structure IsNear (k : ℕ) (y : ℚ) : Prop where
  low : k - 1 / 2 ≤ y
  high : y ≤ k + 1 / 2
  odd : k % 2 = 1 → k - 1 / 2 < y ∧ y < k + 1 / 2

theorem roundDiv_of_isNear {n d k : ℕ} (hd : 0 < d) (h : IsNear k (n / d)) : roundDiv n d = k := by
  have hpos : (0 : ℚ) < d := by exact_mod_cast hd
  obtain ⟨hlow, hhigh, hodd⟩ := h
  rw [le_div_iff₀ hpos] at hlow
  rw [div_le_iff₀ hpos] at hhigh
  rw [lt_div_iff₀ hpos, div_lt_iff₀ hpos] at hodd
  refine roundDiv_eq hd ?_ ?_ fun hk => ?_
  · have h : (2 * (k * d) : ℚ) ≤ 2 * n + d := by linarith
    exact_mod_cast h
  · have h : (2 * n : ℚ) ≤ 2 * (k * d) + d := by linarith
    exact_mod_cast h
  · obtain ⟨hlow, hhigh⟩ := hodd hk
    have hl : (2 * (k * d) : ℚ) < 2 * n + d := by linarith
    have hh : (2 * n : ℚ) < 2 * (k * d) + d := by linarith
    exact ⟨by exact_mod_cast hl, by exact_mod_cast hh⟩

/-! ## Exponents -/

/-- A power with an integer exponent as a fraction of natural powers. -/
theorem zpow_eq_div (b : ℚ) (e : ℤ) : b ^ e = b ^ e.toNat / b ^ (-e).toNat := by
  rcases le_total 0 e with h | h
  · lift e to ℕ using h
    simp
  · obtain ⟨k, rfl⟩ : ∃ k : ℕ, e = -k := ⟨e.natAbs, by omega⟩
    simp

theorem mul_pow_le_iff {n d : ℕ} (hd : 0 < d) (s : ℤ) :
    d * 2 ^ s.toNat ≤ n * 2 ^ (-s).toNat ↔ (2 : ℚ) ^ s ≤ n / d := by
  have hpos : (0 : ℚ) < d := by exact_mod_cast hd
  rw [zpow_eq_div 2 s, div_le_div_iff₀ (by positivity) hpos, mul_comm d]
  exact_mod_cast Iff.rfl

section Fractions

variable {n d : ℕ} {q : ℤ} {y : ℚ}

/-- A fraction between two powers of two is packed at the exponent at which it has 53 bits. -/
theorem ratioBits_eq_packAt (hd : 0 < d) {k : ℤ} (hlow : (2 : ℚ) ^ k ≤ n / d)
    (hhigh : (n / d : ℚ) < 2 ^ (k + 1)) : ratioBits n d = packAt n d (max (-1074) (k - 52)) := by
  have hposd : (0 : ℚ) < d := by exact_mod_cast hd
  have hn : n ≠ 0 := by
    rintro rfl
    have : (0 : ℚ) < 2 ^ k := by positivity
    simp only [Nat.cast_zero, zero_div] at hlow
    exact this.not_ge hlow
  have hnlow : (2 : ℚ) ^ (n.log2 : ℤ) ≤ n := by exact_mod_cast Nat.log2_self_le hn
  have hnhigh : (n : ℚ) < 2 ^ (n.log2 + 1 : ℤ) := by exact_mod_cast Nat.lt_log2_self
  have hdlow : (2 : ℚ) ^ (d.log2 : ℤ) ≤ d := by exact_mod_cast Nat.log2_self_le hd.ne'
  have hdhigh : (d : ℚ) < 2 ^ (d.log2 + 1 : ℤ) := by exact_mod_cast Nat.lt_log2_self
  -- the logarithm of the fraction is the difference of the two, or one less
  have hupper : k < n.log2 - d.log2 + 1 := by
    refine (zpow_lt_zpow_iff_right₀ (one_lt_two : (1 : ℚ) < 2)).1 (hlow.trans_lt ?_)
    rw [div_lt_iff₀ hposd]
    calc (n : ℚ) < 2 ^ (n.log2 + 1 : ℤ) := hnhigh
      _ = 2 ^ ((n.log2 : ℤ) - d.log2 + 1) * 2 ^ (d.log2 : ℤ) := by
        rw [← zpow_add₀ two_ne_zero]
        congr 1
        ring
      _ ≤ 2 ^ ((n.log2 : ℤ) - d.log2 + 1) * d := by gcongr
  have hlower : (n.log2 : ℤ) - d.log2 - 1 < k + 1 := by
    refine (zpow_lt_zpow_iff_right₀ (one_lt_two : (1 : ℚ) < 2)).1 (lt_trans ?_ hhigh)
    rw [lt_div_iff₀ hposd]
    calc (2 : ℚ) ^ ((n.log2 : ℤ) - d.log2 - 1) * d
        < 2 ^ ((n.log2 : ℤ) - d.log2 - 1) * 2 ^ (d.log2 + 1 : ℤ) := by gcongr
      _ = 2 ^ (n.log2 : ℤ) := by
        rw [← zpow_add₀ two_ne_zero]
        congr 1
        ring
      _ ≤ n := hnlow
  have hwide := mul_pow_le_iff (n := n) hd ((n.log2 : ℤ) - d.log2)
  unfold ratioBits
  simp only [hn, if_false, sub_add_cancel, hwide]
  rcases (show k = n.log2 - d.log2 ∨ k + 1 = n.log2 - d.log2 by omega) with hk | hk
  · rw [← hk, if_pos hlow]
  · rw [← hk, if_neg hhigh.not_ge]
    congr 2
    ring

/-- A fraction with 53 bits at an exponent is packed at that exponent. -/
theorem ratioBits_of_normal (hd : 0 < d) (hy : (n / d : ℚ) = y * 2 ^ q) (hq : -1074 ≤ q)
    (hlow : 2 ^ 52 ≤ y) (hhigh : y < 2 ^ 53) : ratioBits n d = packAt n d q := by
  have hpow : (0 : ℚ) < 2 ^ q := by positivity
  have hx := ratioBits_eq_packAt hd (k := q + 52) (by
    rw [hy, zpow_add₀ two_ne_zero, mul_comm]
    exact mul_le_mul_of_nonneg_right (by exact_mod_cast hlow) hpow.le) (by
    rw [hy, add_assoc, zpow_add₀ two_ne_zero, mul_comm (2 ^ q)]
    exact mul_lt_mul_of_pos_right (by exact_mod_cast hhigh) hpow)
  rw [hx, add_sub_cancel_right, max_eq_right hq]

/-- A fraction with fewer bits at the least exponent is packed at that exponent. -/
theorem ratioBits_of_subnormal (hd : 0 < d) (hy : (n / d : ℚ) = y * 2 ^ (-1074 : ℤ)) (hlow : 0 < y)
    (hhigh : y < 2 ^ 52) : ratioBits n d = packAt n d (-1074) := by
  have hpow : (0 : ℚ) < 2 ^ (-1074 : ℤ) := by positivity
  obtain ⟨k, hklow, hkhigh⟩ := exists_mem_Ico_zpow (x := (n / d : ℚ)) (y := 2)
    (by rw [hy]; exact mul_pos hlow hpow) one_lt_two
  have hk : k < -1074 + 52 := by
    refine (zpow_lt_zpow_iff_right₀ (one_lt_two : (1 : ℚ) < 2)).1 (hklow.trans_lt ?_)
    rw [hy, zpow_add₀ two_ne_zero, mul_comm (2 ^ (-1074 : ℤ))]
    exact mul_lt_mul_of_pos_right (by exact_mod_cast hhigh) hpow
  rw [ratioBits_eq_packAt hd hklow hkhigh, max_eq_left (by omega)]

/-- What is packed is the nearest mantissa. -/
theorem packAt_eq (hd : 0 < d) {k : ℕ} (h : IsNear k (n / d / 2 ^ q)) :
    packAt n d q = min infinityBits (k + (q + 1074).toNat * 2 ^ 52) := by
  have hscaled : ((n * 2 ^ (-q).toNat : ℕ) : ℚ) / (d * 2 ^ q.toNat : ℕ) = n / d / 2 ^ q := by
    rw [zpow_eq_div 2 q]
    push_cast
    field_simp
  rw [← hscaled] at h
  unfold packAt
  simp only [roundDiv_of_isNear (by positivity) h]

/-! ## Doubles -/

/-- The mantissas and exponents of finite doubles. -/
structure IsScaled (m : ℕ) (q : ℤ) : Prop where
  mantissa : m < 2 ^ 53
  least : -1074 ≤ q
  greatest : q ≤ 971
  normal : 2 ^ 52 ≤ m ∨ q = -1074

/-- The bits of a finite double without its sign. -/
def scaledBits (m : ℕ) (q : ℤ) : ℕ :=
  m + (q + 1074).toNat * 2 ^ 52

/-- The numbers that are rounded to a double: those that are nearest to its mantissa at its exponent,
where below a power of two the neighbour is nearer by half. -/
structure RoundsTo (m : ℕ) (q : ℤ) (x : ℚ) : Prop where
  near : IsNear m (x / 2 ^ q)
  low : m = 2 ^ 52 → -1074 < q → m - 1 / 4 ≤ x / 2 ^ q

/-- A number is rounded to the double whose neighbours are not nearer. -/
theorem ratioBits_eq {m : ℕ} (h : IsScaled m q) (hm : 0 < m) (hd : 0 < d) (hx : RoundsTo m q (n / d)) :
    ratioBits n d = scaledBits m q := by
  obtain ⟨hnear, hgap⟩ := hx
  obtain ⟨hmax, hleast, hgreatest, hnormal⟩ := h
  have hbits : scaledBits m q ≤ infinityBits := by
    unfold scaledBits infinityBits
    omega
  have hpacked : packAt n d q = scaledBits m q := by
    rw [packAt_eq hd hnear]
    exact min_eq_right hbits
  have hy : (n / d : ℚ) = n / d / 2 ^ q * 2 ^ q := by field_simp
  have hmax' : (m : ℚ) + 1 ≤ 2 ^ 53 := by exact_mod_cast hmax
  have hm' : (1 : ℚ) ≤ m := by exact_mod_cast hm
  have hlow := hnear.low
  have hhigh := hnear.high
  rcases le_or_gt (2 ^ 52 : ℚ) (n / d / 2 ^ q) with hwide | hsmall
  · rw [ratioBits_of_normal hd hy hleast hwide (by linarith), hpacked]
  · rcases hleast.eq_or_lt with rfl | hq
    · rw [ratioBits_of_subnormal hd hy (by linarith) hsmall, hpacked]
    · -- a number right below a power of two has the exponent below
      have hpower : m = 2 ^ 52 := by
        have hlt : (m : ℚ) < 2 ^ 52 + 1 := by linarith
        exact le_antisymm (Nat.lt_succ_iff.1 (by exact_mod_cast hlt)) (hnormal.resolve_right hq.ne')
      have hgap' := hgap hpower hq
      rw [hpower, Nat.cast_pow] at hgap'
      have hhalf : (n / d / 2 ^ (q - 1) : ℚ) = 2 * (n / d / 2 ^ q) := by
        rw [zpow_sub₀ two_ne_zero, zpow_one]
        field_simp
      have hdouble : IsNear (2 ^ 53) (n / d / 2 ^ (q - 1)) := by
        rw [hhalf]
        refine ⟨?_, ?_, fun hodd => by norm_num at hodd⟩
        · norm_num at hgap' ⊢
          linarith
        · norm_num at hsmall ⊢
          linarith
      rw [ratioBits_of_normal hd (y := n / d / 2 ^ (q - 1)) (by field_simp) (by omega)
        (by rw [hhalf]; norm_num at hgap' ⊢; linarith) (by rw [hhalf]; linarith), packAt_eq hd hdouble]
      rw [hpower] at hbits ⊢
      unfold scaledBits infinityBits at *
      omega

end Fractions

/-- The parts of a finite double are its bits. -/
theorem toBits_of_parts {x : Float} {negative : Bool} {m : ℕ} {q : ℤ}
    (h : parts x = .finite negative m q) :
    IsScaled m q ∧ x.toBits.toNat = scaledBits m q + if negative then 2 ^ 63 else 0 := by
  have hlt := x.toBits.toNat_lt
  unfold parts at h
  simp only at h
  generalize x.toBits.toNat = bits at h hlt ⊢
  split at h
  -- the greatest exponent field is that of infinities and of what is no number
  · split at h <;> cases h
  · have hsign : (if decide (2 ^ 63 ≤ bits) = true then 2 ^ 63 else 0) = bits / 2 ^ 63 * 2 ^ 63 := by
      split <;> rename_i hneg <;> rw [decide_eq_true_eq] at hneg <;> omega
    split at h <;> simp only [Parts.finite.injEq] at h <;> obtain ⟨rfl, rfl, rfl⟩ := h <;>
      rw [hsign, scaledBits]
    -- without and with the bit in front of the mantissa that is not stored
    · exact ⟨⟨by omega, le_rfl, by omega, .inr rfl⟩, by omega⟩
    · exact ⟨⟨by omega, by omega, by omega, .inl (by omega)⟩, by omega⟩

/-- A double is the one with its bits. -/
theorem ofBits_of_parts {x : Float} {negative : Bool} {m : ℕ} {q : ℤ}
    (h : parts x = .finite negative m q) :
    Float.ofBits (UInt64.ofNat (scaledBits m q + if negative then 2 ^ 63 else 0)) = x := by
  rw [← (toBits_of_parts h).2, UInt64.ofNat_toNat, Float.ofBits_toBits]

end Double
end RecordFilter
