import ResilientChat.Proofs.Decimal.Arithmetic

/-!
How far a float is from the number that exact arithmetic would give. Every rounding changes a number
by no more than its `2 ^ 53`rd part, so the number of roundings bounds the relative error; a float
becomes infinite only where the number itself has almost come to `2 ^ 1024`.
-/

namespace ResilientChat.Decimal

def unitError : ℚ := 1 / 2 ^ 53

theorem unitError_pos : 0 < unitError := by
  norm_num [unitError]

theorem unitError_lt_one : unitError < 1 := by
  norm_num [unitError]

/-- What `k` roundings can make of `p`. -/
inductive Near (k : ℕ) (p : ℚ) : WithTop ℚ → Prop
  | finite {x : ℚ} (hlow : (1 - unitError) ^ k * p ≤ x) (hhigh : x ≤ (1 + unitError) ^ k * p) :
      Near k p x
  | infinite (hhigh : 2 ^ 1024 ≤ (1 + unitError) ^ k * p) : Near k p ⊤

section Near

variable {j k : ℕ} {p q : ℚ} {v w : WithTop ℚ}

theorem near_self (x : ℚ) : Near 0 x x :=
  .finite (by rw [pow_zero, one_mul]) (by rw [pow_zero, one_mul])

theorem Near.one_le (h : Near k p v) (hv : 1 ≤ v) : 1 ≤ (1 + unitError) ^ k * p := by
  cases h with
  | finite _ hhigh => exact (WithTop.coe_le_coe.mp hv).trans hhigh
  | infinite hhigh => exact (one_le_pow₀ one_le_two).trans hhigh

theorem Near.mul (hq : 0 ≤ q) (hv : 1 ≤ v) (hw : 1 ≤ w) (h : Near j p v)
    (h' : Near k q w) : Near (j + k) (p * q) (v * w) := by
  have hlow : (1 - unitError) ^ (j + k) * (p * q) =
      (1 - unitError) ^ j * p * ((1 - unitError) ^ k * q) := by
    rw [pow_add]
    ring
  have hhigh : (1 + unitError) ^ (j + k) * (p * q) =
      (1 + unitError) ^ j * p * ((1 + unitError) ^ k * q) := by
    rw [pow_add]
    ring
  have hone := h.one_le hv
  have hone' := h'.one_le hw
  cases h with
  | infinite hj =>
      rw [WithTop.top_mul (one_pos.trans_le hw).ne']
      refine .infinite ?_
      rw [hhigh]
      exact hj.trans (le_mul_of_one_le_right (zero_le_one.trans hone) hone')
  | @finite x hxlow hxhigh =>
      cases h' with
      | infinite hk =>
          rw [WithTop.mul_top (one_pos.trans_le hv).ne']
          refine .infinite ?_
          rw [hhigh]
          exact hk.trans (le_mul_of_one_le_left (zero_le_one.trans hone') hone)
      | @finite y hylow hyhigh =>
          have hx : 0 ≤ x := zero_le_one.trans (WithTop.coe_le_coe.mp hv)
          have hy : 0 ≤ y := zero_le_one.trans (WithTop.coe_le_coe.mp hw)
          have hbase : 0 ≤ 1 - unitError := sub_nonneg.mpr unitError_lt_one.le
          rw [← WithTop.coe_mul]
          refine .finite ?_ ?_
          · rw [hlow]
            exact mul_le_mul hxlow hylow (mul_nonneg (pow_nonneg hbase k) hq) hx
          · rw [hhigh]
            exact mul_le_mul hxhigh hyhigh hy (zero_le_one.trans hone)

theorem Near.rounded (hp : 0 ≤ p) (hv : 0 ≤ v) (h : Near k p v) :
    Near (k + 1) p (rounded v) := by
  have hgrow : (1 + unitError) ^ (k + 1) * p = (1 + unitError) * ((1 + unitError) ^ k * p) := by
    ring
  have hshrink : (1 - unitError) ^ (k + 1) * p = (1 - unitError) * ((1 - unitError) ^ k * p) := by
    ring
  have hpos := unitError_pos
  cases h with
  | infinite hhigh =>
      refine .infinite (hhigh.trans ?_)
      rw [hgrow]
      exact le_mul_of_one_le_left (by positivity) (by linarith)
  | @finite x hlow hhigh =>
      obtain ⟨hbelow, habove⟩ := abs_le.mp (abs_nearest_sub_le (WithTop.coe_le_coe.mp hv))
      have hunit : x / 2 ^ 53 = unitError * x := by
        rw [unitError]
        ring
      rw [hunit] at hbelow habove
      have hleast : (1 - unitError) ^ (k + 1) * p ≤ nearest x :=
        calc
          (1 - unitError) ^ (k + 1) * p ≤ (1 - unitError) * x := by
            rw [hshrink]
            exact mul_le_mul_of_nonneg_left hlow (sub_nonneg.mpr unitError_lt_one.le)
          _ ≤ nearest x := by linarith
      have hmost : nearest x ≤ (1 + unitError) ^ (k + 1) * p :=
        calc
          nearest x ≤ (1 + unitError) * x := by linarith
          _ ≤ (1 + unitError) ^ (k + 1) * p := by
            rw [hgrow]
            exact mul_le_mul_of_nonneg_left hhigh (by linarith)
      rw [rounded_coe]
      split
      · exact .finite hleast hmost
      · next hlimit => exact .infinite ((not_lt.mp hlimit).trans hmost)

variable {a b : Float}

theorem near_float_mul (ha : 1.0 ≤ a) (hb : 1.0 ≤ b) (hp : 0 ≤ p) (hq : 0 ≤ q)
    (h : Near j p (floatValue a)) (h' : Near k q (floatValue b)) :
    Near (j + k + 1) (p * q) (floatValue (a * b)) := by
  have hva := one_le_floatValue ha
  have hvb := one_le_floatValue hb
  rw [floatValue_mul ha hb]
  exact (h.mul hq hva hvb h').rounded (mul_nonneg hp hq)
    (zero_le_one.trans (one_le_mul_value hva hvb))

theorem near_ofNat {n : ℕ} (hn : 0 < n) : Near 1 n (floatValue (Float.ofNat n)) := by
  have h : Near 0 n ((n : ℚ) : WithTop ℚ) := near_self n
  rw [floatValue_ofNat hn]
  exact h.rounded (Nat.cast_nonneg n) (WithTop.coe_le_coe.mpr (Nat.cast_nonneg n))

/-- After 65 roundings the error is less than the `2 ^ 46`th part. -/
theorem Near.error_le (hp : 0 ≤ p) (hk : k ≤ 65) (h : Near k p v) :
    (∀ x : ℚ, v = x → |x - p| ≤ p / 2 ^ 46) ∧ (v = ⊤ → 2 ^ 1023 ≤ p) := by
  have hpos := unitError_pos
  have hmost : (1 + unitError) ^ k ≤ 1 + 1 / 2 ^ 46 :=
    calc
      (1 + unitError) ^ k ≤ (1 + unitError) ^ 65 := pow_le_pow_right₀ (by linarith) hk
      _ ≤ 1 + 1 / 2 ^ 46 := by norm_num [unitError]
  have hleast : 1 - 1 / 2 ^ 46 ≤ (1 - unitError) ^ k :=
    calc
      1 - 1 / 2 ^ 46 ≤ (1 - unitError) ^ 65 := by norm_num [unitError]
      _ ≤ (1 - unitError) ^ k :=
        pow_le_pow_of_le_one (by linarith [unitError_lt_one]) (by linarith) hk
  cases h with
  | infinite hhigh =>
      refine ⟨fun x hx => absurd hx WithTop.top_ne_coe, fun _ => ?_⟩
      have htwice : (1 + unitError) ^ k * p ≤ 2 * p :=
        mul_le_mul_of_nonneg_right (hmost.trans (by norm_num)) hp
      rw [pow_succ' 2 1023] at hhigh
      exact le_of_mul_le_mul_left (hhigh.trans htwice) two_pos
  | @finite x hlow hhigh =>
      refine ⟨?_, fun htop => absurd htop WithTop.coe_ne_top⟩
      rintro y hy
      obtain rfl := WithTop.coe_injective hy
      have hbelow := mul_le_mul_of_nonneg_right hleast hp
      have habove := mul_le_mul_of_nonneg_right hmost hp
      rw [abs_le]
      constructor <;> linarith

end Near

end ResilientChat.Decimal
