import RecordFilter.Proofs.MirroredComparisons

/-!
# Integer arithmetic

Integers of 32 and of 64 bits are computed with 64 bits, and the result of two operands of 32 bits is cut
to 32. So every result is the exact one, reduced to the wider of the two operands. The zero test of a
division is made before the operation, which therefore never divides by zero; the quotient that is too long,
the least integer by -1, is reduced like every other result.

Main statement: `Value.arithmetic_integers`.
-/

namespace RecordFilter

namespace Arithmetic

/-- The operation on integers of any length. Division truncates towards zero. -/
def onInt : Arithmetic → Int → Int → Int
  | add => (· + ·)
  | sub => (· - ·)
  | mul => (· * ·)
  | div => Int.tdiv
  | mod => Int.tmod

/-- The operation of a machine with registers of 64 bits. It reduces what is too long, and traps at a divisor
of zero. -/
def onMachine? (op : Arithmetic) (x y : Int64) : Option Int64 :=
  if op.divides && y == 0 then none else some (Int64.ofInt (op.onInt x.toInt y.toInt))

/-- The operation in 64 bits gives the exact result, reduced. -/
theorem toInt_onInt64 (op : Arithmetic) (x y : Int64) :
    (op.onInt64 x y).toInt = (op.onInt x.toInt y.toInt).bmod (2 ^ (64 : Nat)) := by
  cases op with
  | add => exact Int64.toInt_add x y
  | sub => exact Int64.toInt_sub x y
  | mul => exact Int64.toInt_mul x y
  | div => exact Int64.toInt_div x y
  | mod =>
    show (x % y).toInt = (x.toInt.tmod y.toInt).bmod (2 ^ (64 : Nat))
    rw [← Int64.toInt_mod, Int64.toInt_bmod]

theorem ofInt_onInt (op : Arithmetic) (x y : Int64) :
    Int64.ofInt (op.onInt x.toInt y.toInt) = op.onInt64 x y := by
  rw [← Int64.toInt_inj, Int64.toInt_ofInt, toInt_onInt64]

end Arithmetic

namespace Value

/-- The values that are integers, with the length in bits and the number. -/
inductive IsInteger : (bits : Nat) → (n : Int) → Value → Prop
  | int32 (x : Int32) : IsInteger 32 x.toInt (.int32 x)
  | int64 (x : Int64) : IsInteger 64 x.toInt (.int64 x)

/-- The result of an operation where integers are computed by a machine, or nothing if it traps. -/
def arithmeticOn (machine : Arithmetic → Int64 → Int64 → Option Int64) (op : Arithmetic) (a b : Value) :
    Option (Except ValueError Value) :=
  match numericPair? a b with
  | some (.integral x y) =>
    if op.divides && y == 0 then some (.error .divideByZero)
    else (machine op x y).map fun result =>
      .ok (if bothInt32 a b then .int32 result.toInt32 else .int64 result)
  | _ => some (arithmetic op a b)

/-! ## Results -/

/-- Operands that are computed as integers give the result of the operation in 64 bits, cut to 32 bits if both
have no more, unless the divisor is zero. -/
theorem arithmetic_integral {a b : Value} {x y : Int64} (h : numericPair? a b = some (.integral x y))
    (op : Arithmetic) : arithmetic op a b =
      if op.divides && y == 0 then .error .divideByZero
      else .ok (if bothInt32 a b then .int32 (op.onInt64 x y).toInt32 else .int64 (op.onInt64 x y)) := by
  have hnull : (a.isNull || b.isNull) = false := by
    cases a <;> cases b <;> first | rfl | cases h
  rw [arithmetic, hnull, if_neg Bool.false_ne_true, h]
  rfl

/-- The operation never comes to a trap of the machine. -/
theorem arithmeticOn_onMachine? (op : Arithmetic) (a b : Value) :
    arithmeticOn Arithmetic.onMachine? op a b = some (arithmetic op a b) := by
  unfold arithmeticOn
  split
  · rename_i x y hpair
    rw [arithmetic_integral hpair, Arithmetic.onMachine?, Arithmetic.ofInt_onInt]
    split <;> rfl
  · rfl

namespace IsInteger

variable {a b : Value} {k l : Nat} {m n : Int}

theorem int32_of {x : Int32} (h : x.toInt = n) : IsInteger 32 n (.int32 x) :=
  h ▸ .int32 x

theorem int64_of {x : Int64} (h : x.toInt = n) : IsInteger 64 n (.int64 x) :=
  h ▸ .int64 x

/-- A length is 32 or 64 bits. -/
theorem bits_eq (h : IsInteger k m a) : k = 32 ∨ k = 64 := by
  cases h with
  | int32 => exact .inl rfl
  | int64 => exact .inr rfl

/-- An integer is not changed by a reduction to its length or more. -/
theorem bmod_eq (h : IsInteger k m a) (hl : l = 32 ∨ l = 64) : m.bmod (2 ^ max k l) = m := by
  cases h with
  | int32 x =>
    rcases hl with rfl | rfl
    · exact x.toInt_bmod
    · exact x.toInt_bmod_18446744073709551616
  | int64 x =>
    rcases hl with rfl | rfl <;> exact x.toInt_bmod

theorem exists_pair (ha : IsInteger k m a) (hb : IsInteger l n b) :
    ∃ x y : Int64, numericPair? a b = some (.integral x y) ∧ x.toInt = m ∧ y.toInt = n := by
  cases ha <;> cases hb <;> exact ⟨_, _, rfl, by simp, by simp⟩

/-- A result in 64 bits is cut to the longer of the lengths of the operands. -/
theorem cut (ha : IsInteger k m a) (hb : IsInteger l n b) {result : Int64} {i : Int}
    (h : result.toInt = i.bmod (2 ^ (64 : Nat))) :
    IsInteger (max k l) (i.bmod (2 ^ max k l))
      (if bothInt32 a b then .int32 result.toInt32 else .int64 result) := by
  cases ha <;> cases hb
  case int32.int32 =>
    refine int32_of ?_
    rw [Int64.toInt_toInt32, h]
    exact Int.bmod_bmod_of_dvd (by decide)
  all_goals exact int64_of h

/-- An operation on integers divides by zero, or gives the exact result, reduced. -/
theorem arithmetic_cases (ha : IsInteger k m a) (hb : IsInteger l n b) (op : Arithmetic) :
    (op.divides = true ∧ n = 0 ∧ arithmetic op a b = .error .divideByZero) ∨
    (¬ (op.divides = true ∧ n = 0) ∧ ∃ r, arithmetic op a b = .ok r ∧
      IsInteger (max k l) ((op.onInt m n).bmod (2 ^ max k l)) r) := by
  obtain ⟨x, y, hpair, rfl, rfl⟩ := ha.exists_pair hb
  have hzero : (op.divides && y == 0) = true ↔ op.divides = true ∧ y.toInt = 0 := by
    rw [Bool.and_eq_true, beq_iff_eq, ← Int64.toInt_inj, Int64.toInt_zero]
  rw [arithmetic_integral hpair]
  by_cases h : op.divides = true ∧ y.toInt = 0
  · rw [if_pos (hzero.2 h)]
    exact .inl ⟨h.1, h.2, rfl⟩
  · rw [if_neg fun hfault => h (hzero.1 hfault)]
    exact .inr ⟨h, _, rfl, ha.cut hb (op.toInt_onInt64 x y)⟩

theorem exists_arithmetic (ha : IsInteger k m a) (hb : IsInteger l n b) (op : Arithmetic)
    (h : ¬ (op.divides = true ∧ n = 0)) : ∃ r, arithmetic op a b = .ok r ∧
      IsInteger (max k l) ((op.onInt m n).bmod (2 ^ max k l)) r := by
  rcases ha.arithmetic_cases hb op with ⟨hdivides, hn, -⟩ | ⟨-, hresult⟩
  · exact absurd ⟨hdivides, hn⟩ h
  · exact hresult

/-- Integers are equal as values if they are the same number. -/
theorem equals_of_eq (ha : IsInteger k m a) (hb : IsInteger l m b) : equals a b = true := by
  obtain ⟨x, y, hpair, hx, hy⟩ := ha.exists_pair hb
  have hflat : ∀ fields, a ≠ .object fields := by
    rintro fields rfl
    cases ha
  rw [equals_eq_equalsFlat (.inl hflat), equalsFlat_pair hpair]
  exact beq_iff_eq.2 (Int64.toInt_inj.1 (hx.trans hy.symm))

end IsInteger

/-- `arithmetic` on integers gives the exact result of `Arithmetic.onInt`, reduced to the longer length, and
`divideByZero` exactly for a zero divisor; no operation traps in `onMachine?`. Quotient times divisor plus
remainder is the dividend again. -/
theorem arithmetic_integers {a b : Value} {k l : Nat} {m n : Int} (ha : IsInteger k m a)
    (hb : IsInteger l n b) :
    (∀ op, (arithmetic op a b = .error .divideByZero ↔ op.divides = true ∧ n = 0) ∧
      (¬ (op.divides = true ∧ n = 0) → ∃ r, arithmetic op a b = .ok r ∧
        IsInteger (max k l) ((op.onInt m n).bmod (2 ^ max k l)) r) ∧
      arithmeticOn Arithmetic.onMachine? op a b = some (arithmetic op a b)) ∧
    (n ≠ 0 → ∃ q p r s, arithmetic .div a b = .ok q ∧ arithmetic .mul q b = .ok p ∧
      arithmetic .mod a b = .ok r ∧ arithmetic .add p r = .ok s ∧
      IsInteger (max k l) m s ∧ equals s a = true) := by
  refine ⟨fun op => ⟨?_, ha.exists_arithmetic hb op, arithmeticOn_onMachine? op a b⟩, fun hn => ?_⟩
  · rcases ha.arithmetic_cases hb op with ⟨hdivides, hn, herror⟩ | ⟨hdefined, r, hr, -⟩
    · exact ⟨fun _ => ⟨hdivides, hn⟩, fun _ => herror⟩
    · rw [hr]
      exact ⟨nofun, fun hzero => absurd hzero hdefined⟩
  · obtain ⟨q, hq, hquotient⟩ := ha.exists_arithmetic hb .div fun h => hn h.2
    obtain ⟨p, hp, hproduct⟩ := hquotient.exists_arithmetic hb .mul nofun
    obtain ⟨r, hr, hremainder⟩ := ha.exists_arithmetic hb .mod fun h => hn h.2
    obtain ⟨s, hs, hsum⟩ := hproduct.exists_arithmetic hremainder .add nofun
    have hlength : max (max (max k l) l) (max k l) = max k l := by omega
    have hsame : max (max k l) l = max k l := by omega
    -- the parts are reduced to one length, so that reducing the sum once is enough
    have hdividend : (((m.tdiv n).bmod (2 ^ max k l) * n).bmod (2 ^ max k l)
        + (m.tmod n).bmod (2 ^ max k l)).bmod (2 ^ max k l) = m := by
      rw [Int.bmod_mul_bmod, Int.bmod_add_bmod, Int.add_bmod_bmod, Int.tdiv_mul_add_tmod,
        ha.bmod_eq hb.bits_eq]
    rw [hlength, hsame] at hsum
    have hsum : IsInteger (max k l) m s := hdividend ▸ hsum
    exact ⟨q, p, r, s, hq, hp, hr, hs, hsum, hsum.equals_of_eq ha⟩

/-- The least integer by -1 in 32 bits, and by a divisor of 64 bits. -/
theorem arithmetic_integers_least :
    IsInteger 32 (-2 ^ (31 : Nat)) (.int32 Int32.minValue) ∧ IsInteger 32 (-1) (.int32 (-1)) ∧
      IsInteger 64 (-1) (.int64 (-1)) ∧
      (∃ r, arithmetic .div (.int32 Int32.minValue) (.int32 (-1)) = .ok r ∧ IsInteger 32 (-2 ^ (31 : Nat)) r) ∧
      (∃ r, arithmetic .div (.int32 Int32.minValue) (.int64 (-1)) = .ok r ∧ IsInteger 64 (2 ^ (31 : Nat)) r) ∧
      ∃ q p r s, arithmetic .div (.int32 Int32.minValue) (.int32 (-1)) = .ok q ∧
        arithmetic .mul q (.int32 (-1)) = .ok p ∧
        arithmetic .mod (.int32 Int32.minValue) (.int32 (-1)) = .ok r ∧ arithmetic .add p r = .ok s ∧
        IsInteger 32 (-2 ^ (31 : Nat)) s ∧ equals s (.int32 Int32.minValue) = true := by
  have ha : IsInteger 32 (-2 ^ (31 : Nat)) (.int32 Int32.minValue) := .int32_of (by decide)
  have hb : IsInteger 32 (-1) (.int32 (-1)) := .int32_of (by decide)
  have hwide : IsInteger 64 (-1) (.int64 (-1)) := .int64_of (by decide)
  obtain ⟨hnarrow, hdivision⟩ := arithmetic_integers ha hb
  exact ⟨ha, hb, hwide, (hnarrow .div).2.1 (by decide),
    ((arithmetic_integers ha hwide).1 .div).2.1 (by decide), hdivision (by decide)⟩

end Value
end RecordFilter
