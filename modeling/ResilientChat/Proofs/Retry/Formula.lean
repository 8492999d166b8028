import ResilientChat.Proofs.Retry.Ceiling

/-!
The pauses without jitter and the formula for them: the first pause, times the factor once for each
attempt before, but no more than the ceiling, to the nearest nanosecond. Up to the 64th attempt the
formula is met, but for products beyond 64 bits and for ceilings of more than 53 digits. After it
pauses no longer grow, so that a factor near one does not bring them to the ceiling.
-/

namespace ResilientChat

namespace Backoff

open Decimal

variable {b : Backoff} {m : Duration}

def formula (b : Backoff) (m : Duration) (attempt : ℕ) : WithTop Duration :=
  nearestNanos (min (b.grown attempt) m)

/-- Pauses are not drawn, do not shrink and have a ceiling. -/
structure GrowsUnder (b : Backoff) (m : Duration) : Prop where
  jitter : b.jitter = false
  factor : 1.0 ≤ b.factor
  ceiling : b.ceiling = some m

/-- Products can be compared with a ceiling of 53 digits as floats. -/
theorem natCast_le_grown (hfactor : 1.0 ≤ b.factor) (hfirst : b.first ≠ 0) (hpos : 0 < m)
    (hm : m ≤ 2 ^ 53) {attempt : ℕ} (h : Float.ofNat m ≤ b.product attempt) :
    (m : WithTop ℚ) ≤ b.grown attempt := by
  have hle := (float_le_iff_value (one_le_ofNat hpos) (one_le_product hfactor hfirst attempt)).mp h
  rw [floatValue_ofNat hpos, rounded_natCast hm] at hle
  rwa [grown, if_neg hfirst]

namespace GrowsUnder

/-- The factor is applied 63 times at most. -/
theorem coe_delay (h : b.GrowsUnder m) (draw attempt : ℕ) :
    (b.delay draw attempt : WithTop Duration) = underCeiling m (b.grown (min attempt 64)) := by
  have hdelay : b.delay draw attempt = b.pause attempt := by
    rw [delay, h.jitter, if_neg Bool.false_ne_true]
  rw [hdelay, pause, grown]
  split
  · rw [underCeiling_zero]
    rfl
  · next hfirst =>
    have hproduct : Float.ofNat b.first * power b.factor (min (attempt - 1) exponentLimit) =
        b.product (min attempt 64) := by
      rw [product]
      congr 2
      change min (attempt - 1) 63 = min attempt 64 - 1
      omega
    rw [hproduct, h.ceiling, settle_eq m (one_le_product h.factor hfirst _)]

theorem delay_mono (h : b.GrowsUnder m) (draw : ℕ) : Monotone (b.delay draw) := by
  intro n k hle
  have hdelay : (b.delay draw n : WithTop Duration) ≤ b.delay draw k := by
    rw [h.coe_delay, h.coe_delay]
    exact underCeiling_mono (grown_nonneg h.factor _) (rounded_grown h.factor _)
      (grown_mono h.factor (min_le_min_right 64 hle))
  exact_mod_cast hdelay

theorem delay_le_heldCeiling (h : b.GrowsUnder m) (draw attempt : ℕ) :
    b.delay draw attempt ≤ heldCeiling m := by
  have hdelay : (b.delay draw attempt : WithTop Duration) ≤ heldCeiling m := by
    rw [h.coe_delay]
    exact underCeiling_le (grown_nonneg h.factor _) (rounded_grown h.factor _)
  exact_mod_cast hdelay

theorem delay_of_ge (h : b.GrowsUnder m) (draw : ℕ) {attempt : ℕ} (hge : 64 ≤ attempt) :
    b.delay draw attempt = b.delay draw 64 := by
  have hdelay : (b.delay draw attempt : WithTop Duration) = b.delay draw 64 := by
    rw [h.coe_delay, h.coe_delay, min_eq_right hge, min_self]
  exact_mod_cast hdelay

theorem delay_le_last (h : b.GrowsUnder m) (draw attempt : ℕ) :
    b.delay draw attempt ≤ b.delay draw 64 := by
  rcases le_total attempt 64 with hle | hge
  · exact h.delay_mono draw hle
  · exact (h.delay_of_ge draw hge).le

theorem delay_of_reached (h : b.GrowsUnder m) (hreached : m ≤ b.grown 64) (draw : ℕ) {attempt : ℕ}
    (hge : 64 ≤ attempt) : b.delay draw attempt = heldCeiling m := by
  have hdelay : (b.delay draw attempt : WithTop Duration) = heldCeiling m := by
    rw [h.coe_delay, min_eq_right hge, underCeiling, if_pos hreached]
  exact_mod_cast hdelay

theorem delay_lt_of_short (h : b.GrowsUnder m) (hsize : b.grown 64 < UInt64.size)
    (hshort : nearestNanos (b.grown 64) < m) (draw attempt : ℕ) : b.delay draw attempt < m := by
  have hlast : (b.delay draw 64 : WithTop Duration) < m := by
    have hlt : ¬(m : WithTop ℚ) ≤ b.grown 64 := by
      intro hreached
      rw [← nearestNanos_natCast] at hshort
      exact hshort.not_ge (nearestNanos_mono hreached)
    rw [h.coe_delay, min_self, underCeiling, if_neg hlt, if_pos hsize]
    exact hshort
  exact (h.delay_le_last draw attempt).trans_lt (by exact_mod_cast hlast)

theorem delay_eq_formula_iff (h : b.GrowsUnder m) (draw : ℕ) {attempt : ℕ} (hle : attempt ≤ 64) :
    b.delay draw attempt = b.formula m attempt ↔
      (m ≤ b.grown attempt → heldCeiling m = m) ∧
        (UInt64.size ≤ b.grown attempt → m ≤ b.grown attempt) := by
  rw [h.coe_delay, min_eq_left hle]
  exact underCeiling_eq_iff (grown_nonneg h.factor attempt) (rounded_grown h.factor attempt)

/-- Where a ceiling of 53 digits is reached in time, the formula is met by later attempts too. -/
theorem delay_eq_formula (h : b.GrowsUnder m) (hm : m ≤ 2 ^ 53) (hreached : m ≤ b.grown 64)
    (draw attempt : ℕ) : b.delay draw attempt = b.formula m attempt := by
  have hheld := heldCeiling_of_fits (fits_natCast hm)
  rcases le_total attempt 64 with hle | hge
  · refine (h.delay_eq_formula_iff draw hle).mpr ⟨fun _ => hheld, fun hsize => ?_⟩
    have hfits : (m : WithTop ℚ) ≤ UInt64.size := by exact_mod_cast hm.trans (by decide)
    exact hfits.trans hsize
  · have hlater : (m : WithTop ℚ) ≤ b.grown attempt := hreached.trans (grown_mono h.factor hge)
    rw [h.delay_of_reached hreached draw hge, hheld, formula, min_eq_right hlater,
      nearestNanos_natCast]

end GrowsUnder

/-- The pauses without jitter, for a factor of at least one and a ceiling `m`. Products grow up to
the 64th attempt only. Until then they differ from those of exact arithmetic by no more than the
`2 ^ 46`th part, and the formula is met by pauses below the ceiling as long as their products fit 64
bits, and by those at the ceiling as long as it is a float; a ceiling of more than 53 digits may be
passed, but by no more than the last of these. Pauses never become shorter. They come to the ceiling
if the product has reached it by the 64th attempt; if it is still below, to the nearest nanosecond,
they never do. With a factor of at least two the formula is met throughout, for every ceiling of 53
digits. -/
theorem pauses_follow_formula_to_attempt_64 (b : Backoff) (m : Duration) (h : b.GrowsUnder m)
    (draw : ℕ) :
    (∀ attempt, b.delay draw attempt = underCeiling m (b.grown (min attempt 64))) ∧
      (∀ q : ℚ, floatValue b.factor = q → ∀ attempt ≤ 64,
        (∀ x : ℚ, b.grown attempt = x →
          |x - b.first * q ^ (attempt - 1)| ≤ b.first * q ^ (attempt - 1) / 2 ^ 46) ∧
          (b.grown attempt = ⊤ → 2 ^ 1023 ≤ b.first * q ^ (attempt - 1))) ∧
      (∀ attempt ≤ 64, b.delay draw attempt = b.formula m attempt ↔
        (m ≤ b.grown attempt → heldCeiling m = m) ∧
          (UInt64.size ≤ b.grown attempt → m ≤ b.grown attempt)) ∧
      Monotone (b.delay draw) ∧
      (∀ attempt, b.delay draw attempt ≤ heldCeiling m) ∧
      |(heldCeiling m : ℚ) - m| ≤ m / 2 ^ 53 ∧
      (m ≤ 2 ^ 53 ∨ UInt64.size ≤ m → heldCeiling m = m) ∧
      (m ≤ b.grown 64 → ∀ attempt ≥ 64, b.delay draw attempt = heldCeiling m) ∧
      (b.grown 64 < UInt64.size → nearestNanos (b.grown 64) < m →
        ∀ attempt, b.delay draw attempt < m) ∧
      (2.0 ≤ b.factor → b.first ≠ 0 → m ≤ 2 ^ 53 →
        (∀ attempt, b.delay draw attempt = b.formula m attempt) ∧
          ∀ attempt ≥ 64, b.delay draw attempt = m) := by
  refine ⟨h.coe_delay draw, fun q hq attempt hle => ?_, fun _ => h.delay_eq_formula_iff draw,
    h.delay_mono draw, h.delay_le_heldCeiling draw, abs_heldCeiling_sub_le m, ?_,
    fun hreached _ => h.delay_of_reached hreached draw,
    fun hsize hshort => h.delay_lt_of_short hsize hshort draw, fun hdoubles hfirst hm => ?_⟩
  · have hproduct : (0 : ℚ) ≤ b.first * q ^ (attempt - 1) :=
      mul_nonneg (Nat.cast_nonneg _) (pow_nonneg (nonneg_of_floatValue h.factor hq) _)
    exact (near_grown h.factor hq attempt).error_le hproduct (by omega)
  · rintro (hsmall | hlarge)
    · exact heldCeiling_of_fits (fits_natCast hsmall)
    · exact heldCeiling_of_size_le hlarge
  · have hreached : (m : WithTop ℚ) ≤ b.grown 64 :=
      calc
        (m : WithTop ℚ) ≤ (2 ^ 63 : ℕ) := by exact_mod_cast hm.trans (by decide)
        _ ≤ b.grown 64 := le_grown_of_doubles h.factor hdoubles hfirst
    refine ⟨h.delay_eq_formula hm hreached draw, fun attempt hge => ?_⟩
    rw [h.delay_of_reached hreached draw hge, heldCeiling_of_fits (fits_natCast hm)]

theorem doubled_pauses_follow_formula :
    let b := doubling 5 (.ofMillis 100) (.ofMillis 800)
    (∀ attempt, b.delay 0 attempt = b.formula (.ofMillis 800) attempt) ∧
      b.delay 0 3 = .ofMillis 400 ∧ ∀ attempt ≥ 64, b.delay 0 attempt = .ofMillis 800 := by
  intro b
  have h : b.GrowsUnder (.ofMillis 800) := ⟨rfl, by decide +kernel, rfl⟩
  obtain ⟨-, -, -, -, -, -, -, -, -, hdoubles⟩ :=
    pauses_follow_formula_to_attempt_64 b (.ofMillis 800) h 0
  obtain ⟨hformula, hlate⟩ := hdoubles (by decide +kernel) (by decide) (by decide)
  exact ⟨hformula, by decide +kernel, hlate⟩

def slowPauses : Backoff :=
  { retries := 200, first := .ofMillis 200, factor := 1.03125, jitter := false }

/-- By the formula they last five seconds from the 106th attempt on, but they stop growing before
they have come to one and a half. Where a ceiling has more than 53 digits it can be passed, and a
first pause of `2 ^ 64` nanoseconds is taken for the ceiling. -/
theorem slow_pauses_stop_growing :
    (∀ attempt, slowPauses.delay 0 attempt < .ofMillis 1500) ∧
      (∀ attempt ≥ 106, slowPauses.formula (.ofSeconds 5) attempt = Duration.ofSeconds 5) ∧
      (5000000000 : ℚ) ≤ 200000000 * (33 / 32) ^ 105 ∧
      (doubling 1 (2 ^ 53 + 3) (2 ^ 53 + 3)).delay 0 1 = 2 ^ 53 + 4 ∧
      (doubling 1 UInt64.size .max).delay 0 1 = .max := by
  have h : slowPauses.GrowsUnder (.ofSeconds 5) := ⟨rfl, by decide +kernel, rfl⟩
  refine ⟨fun attempt => ?_, fun attempt hge => ?_, by norm_num, by decide +kernel,
    by decide +kernel⟩
  · calc
      slowPauses.delay 0 attempt ≤ slowPauses.delay 0 64 := h.delay_le_last 0 attempt
      _ < .ofMillis 1500 := by decide +kernel
  · have hreached : ((Duration.ofSeconds 5 : ℕ) : WithTop ℚ) ≤ slowPauses.grown 106 :=
      natCast_le_grown h.factor (by decide) (by decide) (by decide) (by decide +kernel)
    rw [formula, min_eq_right (hreached.trans (grown_mono h.factor hge)), nearestNanos_natCast]

end Backoff

end ResilientChat
