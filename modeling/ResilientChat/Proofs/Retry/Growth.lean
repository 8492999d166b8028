import ResilientChat.Retry.Backoff
import ResilientChat.Proofs.Decimal.Accuracy

/-!
How pauses grow. A power is computed by squaring and every product is rounded, so it need not be the
float nearest to the exact power; but it still grows with the exponent and with the factor, and its
error is that of one rounding for each factor.
-/

namespace ResilientChat

namespace Backoff

open Decimal

section Power

variable {a c r s : Float} {k m n : ℕ}

theorem powerFrom_zero (k : ℕ) (a r : Float) : powerFrom k a 0 r = r := by
  cases k <;> rfl

/-- The digits of the exponent are used up from the last one on. -/
theorem powerFrom_succ (k : ℕ) (a : Float) (n : ℕ) (r : Float) :
    powerFrom (k + 1) a n r = powerFrom k (a * a) (n / 2) (if n % 2 = 1 then r * a else r) := by
  rw [powerFrom]
  split
  · next hzero => rw [hzero, powerFrom_zero]
  · rfl

/-- There are no more squarings than the exponent asks for. -/
theorem powerFrom_fuel (h : n < k) (a r : Float) :
    powerFrom (k + 1) a n r = powerFrom k a n r := by
  induction k generalizing a n r with
  | zero => exact absurd h (Nat.not_lt_zero n)
  | succ k ih =>
      rcases n.eq_zero_or_pos with rfl | hpos
      · rw [powerFrom_zero, powerFrom_zero]
      · rw [powerFrom_succ (k + 1), powerFrom_succ k a n r]
        apply ih
        omega

theorem ascends_powerFrom (ha : Ascends a c) (hr : Ascends r s) :
    Ascends (powerFrom k a n r) (powerFrom k c n s) := by
  induction k generalizing a c n r s with
  | zero => exact hr
  | succ k ih =>
      rw [powerFrom_succ, powerFrom_succ]
      split
      · exact ih (ha.mul ha) (hr.mul ha)
      · exact ih (ha.mul ha) hr

/-- An exponent greater by one makes up for a factor that has been gathered before. -/
theorem ascends_powerFrom_succ (hr : Ascends r a) (h : n + 1 < k) :
    Ascends (powerFrom k a n r) (powerFrom k a (n + 1) 1.0) := by
  induction k generalizing a n r with
  | zero => exact absurd h (Nat.not_lt_zero _)
  | succ k ih =>
      -- On the right nothing may have been gathered: for any other start the two sides would have
      -- rounded their products in a different order.
      have ha := Ascends.refl hr.one_le_right
      rw [powerFrom_succ, powerFrom_succ]
      rcases Nat.mod_two_eq_zero_or_one n with heven | hodd
      · have hhalf : (n + 1) / 2 = n / 2 := by omega
        rw [if_neg (by omega), if_pos (by omega), hhalf]
        exact ascends_powerFrom (ha.mul ha) hr.one_mul
      · have hhalf : (n + 1) / 2 = n / 2 + 1 := by omega
        rw [if_pos hodd, if_neg (by omega), hhalf]
        exact ih (hr.mul ha) (by omega)

theorem ascends_power_succ (ha : 1.0 ≤ a) (n : ℕ) : Ascends (power a n) (power a (n + 1)) := by
  rw [power, power, ← powerFrom_fuel (Nat.lt_succ_self n)]
  exact ascends_powerFrom_succ (ascends_one ha) (by omega)

/-- A power grows with the factor and with the exponent. -/
theorem ascends_power (ha : Ascends a c) (h : m ≤ n) : Ascends (power a m) (power c n) := by
  induction h with
  | refl => exact ascends_powerFrom ha (.refl float_one_le_one)
  | step _ ih => exact ih.trans (ascends_power_succ ha.one_le_right _)

end Power

section Roundings

variable {a r : Float} {q s : ℚ} {c d k n : ℕ}

/-- Each factor of a power brings its own roundings and one more, however they are put together. -/
theorem near_powerFrom (ha : 1.0 ≤ a) (hr : 1.0 ≤ r) (hq : 0 ≤ q) (hs : 0 ≤ s)
    (hna : Near c q (floatValue a)) (hnr : Near d s (floatValue r)) (h : n < k) :
    Near (d + n * (c + 1)) (s * q ^ n) (floatValue (powerFrom k a n r)) := by
  -- A squaring doubles the roundings of a factor and halves the number of factors.
  induction k generalizing a n r q s c d with
  | zero => exact absurd h (Nat.not_lt_zero n)
  | succ k ih =>
      rcases n.eq_zero_or_pos with rfl | hpos
      · rw [powerFrom_zero, zero_mul, pow_zero, mul_one]
        exact hnr
      have haa := one_le_float_mul ha ha
      have hnaa := near_float_mul ha ha hq hq hna hna
      rw [powerFrom_succ]
      obtain ⟨t, rfl | rfl⟩ := n.even_or_odd'
      · have hrest := ih haa hr (mul_nonneg hq hq) hs hnaa hnr (by omega : t < k)
        have hcount : d + 2 * t * (c + 1) = d + t * (c + c + 1 + 1) := by ring
        have hpower : s * q ^ (2 * t) = s * (q * q) ^ t := by
          rw [pow_mul, pow_two]
        rw [if_neg (by omega), Nat.mul_div_cancel_left t two_pos, hcount, hpower]
        exact hrest
      · have hrest := ih haa (one_le_float_mul hr ha) (mul_nonneg hq hq) (mul_nonneg hs hq) hnaa
          (near_float_mul hr ha hs hq hnr hna) (by omega : t < k)
        have hcount : d + (2 * t + 1) * (c + 1) = d + c + 1 + t * (c + c + 1 + 1) := by ring
        have hpower : s * q ^ (2 * t + 1) = s * q * (q * q) ^ t := by
          rw [pow_succ, pow_mul, pow_two]
          ring
        have hhalf : (2 * t + 1) / 2 = t := by omega
        rw [if_pos (by omega), hhalf, hcount, hpower]
        exact hrest

theorem nonneg_of_floatValue (ha : 1.0 ≤ a) (hvalue : floatValue a = q) : 0 ≤ q := by
  have hone := one_le_floatValue ha
  rw [hvalue] at hone
  exact zero_le_one.trans (WithTop.coe_le_coe.mp hone)

/-- A power is as good as if each of its factors had been rounded once. -/
theorem near_power (ha : 1.0 ≤ a) (hvalue : floatValue a = q) :
    Near n (q ^ n) (floatValue (power a n)) := by
  have hone : Near 0 1 (floatValue 1.0) := by
    rw [floatValue_one]
    exact near_self 1
  have hself : Near 0 q (floatValue a) := by
    rw [hvalue]
    exact near_self q
  have hpower := near_powerFrom ha float_one_le_one (nonneg_of_floatValue ha hvalue) zero_le_one
    hself hone (Nat.lt_succ_self n)
  rw [zero_add, zero_add, mul_one, one_mul] at hpower
  exact hpower

end Roundings

section Product

variable {b : Backoff} {m n : ℕ}

/-- The first pause in nanoseconds, times the factor once for each attempt before. -/
def product (b : Backoff) (attempt : ℕ) : Float :=
  Float.ofNat b.first * power b.factor (attempt - 1)

def grown (b : Backoff) (attempt : ℕ) : WithTop ℚ :=
  if b.first = 0 then 0 else floatValue (b.product attempt)

theorem ascends_product (hfactor : 1.0 ≤ b.factor) (hfirst : b.first ≠ 0) (h : m ≤ n) :
    Ascends (b.product m) (b.product n) :=
  (Ascends.refl (one_le_ofNat (Nat.pos_of_ne_zero hfirst))).mul
    (ascends_power (.refl hfactor) (Nat.sub_le_sub_right h 1))

theorem one_le_product (hfactor : 1.0 ≤ b.factor) (hfirst : b.first ≠ 0) (attempt : ℕ) :
    1.0 ≤ b.product attempt :=
  (ascends_product hfactor hfirst (le_refl attempt)).one_le

theorem grown_mono (hfactor : 1.0 ≤ b.factor) : Monotone b.grown := by
  intro m n h
  rw [grown, grown]
  split
  · exact le_rfl
  · next hfirst => exact (ascends_product hfactor hfirst h).value_le

theorem grown_nonneg (hfactor : 1.0 ≤ b.factor) (attempt : ℕ) : 0 ≤ b.grown attempt := by
  rw [grown]
  split
  · exact le_rfl
  · next hfirst =>
    exact zero_le_one.trans (one_le_floatValue (one_le_product hfactor hfirst attempt))

theorem rounded_grown (hfactor : 1.0 ≤ b.factor) (attempt : ℕ) :
    rounded (b.grown attempt) = b.grown attempt := by
  rw [grown]
  split
  · exact rounded_zero
  · next hfirst => exact rounded_floatValue (one_le_product hfactor hfirst attempt)

/-- A factor of at least two brings even one nanosecond to `2 ^ 63`. -/
theorem le_grown_of_doubles (hfactor : 1.0 ≤ b.factor) (hdoubles : 2.0 ≤ b.factor)
    (hfirst : b.first ≠ 0) : ((2 ^ 63 : ℕ) : WithTop ℚ) ≤ b.grown 64 := by
  have htwo : (1.0 : Float) ≤ 2.0 := by decide +kernel
  have hdouble : Ascends 2.0 b.factor :=
    ⟨htwo, hfactor, (float_le_iff_value htwo hfactor).mp hdoubles⟩
  have hproduct : Ascends (1.0 * power 2.0 63) (b.product 64) :=
    (ascends_one (one_le_ofNat (Nat.pos_of_ne_zero hfirst))).mul (ascends_power hdouble le_rfl)
  have hpower : (9223372036854775808.0 : Float) ≤ 1.0 * power 2.0 63 := by decide +kernel
  have hlimit : Stands (9223372036854775808.0 : Float).toModel.unpack (2 ^ 63 : ℕ) :=
    stands_of_unpack (k := 11) rfl (by decide)
  rw [grown, if_neg hfirst, ← hlimit.floatValue_eq]
  exact ((float_le_iff_value (one_le_of_stands hlimit) hproduct.one_le).mp hpower).trans
    hproduct.value_le

theorem near_product (hfactor : 1.0 ≤ b.factor) (hfirst : b.first ≠ 0) {q : ℚ}
    (hq : floatValue b.factor = q) (attempt : ℕ) :
    Near (attempt - 1 + 2) (b.first * q ^ (attempt - 1)) (floatValue (b.product attempt)) := by
  have hpos := Nat.pos_of_ne_zero hfirst
  have hone := (ascends_power (.refl hfactor) (le_refl (attempt - 1))).one_le
  have hcount : attempt - 1 + 2 = 1 + (attempt - 1) + 1 := by omega
  rw [hcount]
  exact near_float_mul (one_le_ofNat hpos) hone (Nat.cast_nonneg _)
    (pow_nonneg (nonneg_of_floatValue hfactor hq) _) (near_ofNat hpos) (near_power hfactor hq)

/-- A product is that of exact arithmetic, but for one rounding for each factor and two more. -/
theorem near_grown (hfactor : 1.0 ≤ b.factor) {q : ℚ} (hq : floatValue b.factor = q)
    (attempt : ℕ) : Near (attempt - 1 + 2) (b.first * q ^ (attempt - 1)) (b.grown attempt) := by
  rw [grown]
  split
  · next hfirst =>
    rw [hfirst, Nat.cast_zero, zero_mul]
    exact .finite (by rw [mul_zero]) (by rw [mul_zero])
  · next hfirst => exact near_product hfactor hfirst hq attempt

end Product

end Backoff

end ResilientChat
