import Mathlib.Data.Int.Log
import Mathlib.Data.Rat.Floor
import Mathlib.Tactic.Linarith
import Mathlib.Tactic.Positivity
import Mathlib.Tactic.Ring
import Mathlib.Tactic.FieldSimp

/-!
Numbers rounded to 53 binary digits. What is rounded keeps its order, a number of 53 digits is left
alone, and the error is no more than the number divided by `2 ^ 53`. Numbers have no largest
exponent here.
-/

namespace ResilientChat.Decimal

section HalfEven

/-- The whole number nearest to `x`; of two that are equally near, the even one. -/
def halfEven (x : ℚ) : ℤ :=
  if Int.fract x < 1 / 2 then ⌊x⌋
  else if 1 / 2 < Int.fract x then ⌊x⌋ + 1
  else ⌊x⌋ + ⌊x⌋ % 2

theorem halfEven_intCast (n : ℤ) : halfEven n = n := by
  simp [halfEven]

theorem floor_le_halfEven (x : ℚ) : ⌊x⌋ ≤ halfEven x := by
  rw [halfEven]
  split_ifs <;> omega

theorem halfEven_le_floor_add_one (x : ℚ) : halfEven x ≤ ⌊x⌋ + 1 := by
  rw [halfEven]
  split_ifs <;> omega

theorem halfEven_mono {x y : ℚ} (h : x ≤ y) : halfEven x ≤ halfEven y := by
  rcases (Int.floor_mono h).lt_or_eq with hlt | heq
  · calc
      halfEven x ≤ ⌊x⌋ + 1 := halfEven_le_floor_add_one x
      _ ≤ ⌊y⌋ := hlt
      _ ≤ halfEven y := floor_le_halfEven y
  · have hfract : Int.fract x ≤ Int.fract y := by
      rw [Int.fract, Int.fract, heq]
      exact sub_le_sub_right h _
    rw [halfEven, halfEven, heq]
    split_ifs <;> first | omega | linarith

theorem abs_halfEven_sub_le (x : ℚ) : |(halfEven x : ℚ) - x| ≤ 1 / 2 := by
  have hsplit := Int.floor_add_fract x
  have hnonneg := Int.fract_nonneg x
  have hlt := Int.fract_lt_one x
  have heven : ((⌊x⌋ % 2 : ℤ) : ℚ) = 0 ∨ ((⌊x⌋ % 2 : ℤ) : ℚ) = 1 := by
    rcases Int.emod_two_eq_zero_or_one ⌊x⌋ with h | h <;> simp [h]
  rw [halfEven, abs_le]
  split_ifs with hlow hhigh <;> push_cast
  · constructor <;> linarith
  · constructor <;> linarith
  · rcases heven with h | h <;> rw [h] <;> constructor <;> linarith

end HalfEven

section Nearest

variable {x y : ℚ}

/-- The exponent of the last of 53 digits of `x`. -/
def lastPlace (x : ℚ) : ℤ := Int.log 2 x - 52

/-- The number of 53 binary digits nearest to `x`. -/
def nearest (x : ℚ) : ℚ := halfEven (x / 2 ^ lastPlace x) * 2 ^ lastPlace x

/-- The number has at most 53 binary digits. -/
def Fits (x : ℚ) : Prop := ∃ (m : ℕ) (e : ℤ), m < 2 ^ 53 ∧ x = m * 2 ^ e

theorem two_zpow_pos (e : ℤ) : (0 : ℚ) < 2 ^ e := zpow_pos two_pos e

theorem two_zpow_add (a b : ℤ) : (2 : ℚ) ^ (a + b) = 2 ^ a * 2 ^ b := zpow_add₀ two_ne_zero a b

theorem two_zpow_log_le (h : 0 < x) : (2 : ℚ) ^ Int.log 2 x ≤ x := by
  exact_mod_cast Int.zpow_log_le_self Nat.one_lt_two h

theorem lt_two_zpow_log (x : ℚ) : x < (2 : ℚ) ^ (Int.log 2 x + 1) := by
  exact_mod_cast Int.lt_zpow_succ_log_self Nat.one_lt_two x

theorem log_eq {n : ℤ} (hlow : (2 : ℚ) ^ n ≤ x) (hhigh : x < (2 : ℚ) ^ (n + 1)) :
    Int.log 2 x = n := by
  have hpos : 0 < x := (two_zpow_pos n).trans_le hlow
  have hle : n ≤ Int.log 2 x :=
    (Int.zpow_le_iff_le_log Nat.one_lt_two hpos).mp (by exact_mod_cast hlow)
  have hlt : Int.log 2 x < n + 1 :=
    (Int.lt_zpow_iff_log_lt Nat.one_lt_two hpos).mp (by exact_mod_cast hhigh)
  omega

/-- In units of its last place a number lies between `2 ^ 52` and `2 ^ 53`. -/
theorem scaled_mem (h : 0 < x) :
    (2 : ℚ) ^ 52 ≤ x / 2 ^ lastPlace x ∧ x / 2 ^ lastPlace x < 2 ^ 53 := by
  have hpos := two_zpow_pos (lastPlace x)
  rw [le_div_iff₀ hpos, div_lt_iff₀ hpos, ← zpow_natCast, ← zpow_natCast, ← two_zpow_add,
    ← two_zpow_add]
  have hlow : ((52 : ℕ) : ℤ) + lastPlace x = Int.log 2 x := by
    rw [lastPlace]
    omega
  have hhigh : ((53 : ℕ) : ℤ) + lastPlace x = Int.log 2 x + 1 := by
    rw [lastPlace]
    omega
  rw [hlow, hhigh]
  exact ⟨two_zpow_log_le h, lt_two_zpow_log x⟩

theorem halfEven_scaled_mem (h : 0 < x) :
    2 ^ 52 ≤ halfEven (x / 2 ^ lastPlace x) ∧ halfEven (x / 2 ^ lastPlace x) ≤ 2 ^ 53 := by
  obtain ⟨hlow, hhigh⟩ := scaled_mem h
  have hlow' := halfEven_mono (x := ((2 ^ 52 : ℤ) : ℚ)) (by exact_mod_cast hlow)
  have hhigh' := halfEven_mono (y := ((2 ^ 53 : ℤ) : ℚ)) (by exact_mod_cast hhigh.le)
  rw [halfEven_intCast] at hlow' hhigh'
  exact ⟨hlow', hhigh'⟩

theorem two_zpow_log_le_nearest (h : 0 < x) : (2 : ℚ) ^ Int.log 2 x ≤ nearest x := by
  have hlow : ((2 ^ 52 : ℤ) : ℚ) ≤ halfEven (x / 2 ^ lastPlace x) := by
    exact_mod_cast (halfEven_scaled_mem h).1
  calc
    (2 : ℚ) ^ Int.log 2 x = 2 ^ (((52 : ℕ) : ℤ) + lastPlace x) := by
      rw [lastPlace]
      congr 1
      omega
    _ = ((2 ^ 52 : ℤ) : ℚ) * 2 ^ lastPlace x := by
      rw [two_zpow_add, zpow_natCast]
      norm_num
    _ ≤ nearest x := mul_le_mul_of_nonneg_right hlow (two_zpow_pos _).le

theorem nearest_le_two_zpow_log (h : 0 < x) : nearest x ≤ (2 : ℚ) ^ (Int.log 2 x + 1) := by
  have hhigh : (halfEven (x / 2 ^ lastPlace x) : ℚ) ≤ ((2 ^ 53 : ℤ) : ℚ) := by
    exact_mod_cast (halfEven_scaled_mem h).2
  calc
    nearest x ≤ ((2 ^ 53 : ℤ) : ℚ) * 2 ^ lastPlace x :=
      mul_le_mul_of_nonneg_right hhigh (two_zpow_pos _).le
    _ = 2 ^ (((53 : ℕ) : ℤ) + lastPlace x) := by
      rw [two_zpow_add, zpow_natCast]
      norm_num
    _ = 2 ^ (Int.log 2 x + 1) := by
      rw [lastPlace]
      congr 1
      omega

theorem nearest_zero : nearest 0 = 0 := by
  rw [nearest, zero_div, ← Int.cast_zero, halfEven_intCast, Int.cast_zero, zero_mul]

theorem nearest_mono (h : 0 ≤ x) (hle : x ≤ y) : nearest x ≤ nearest y := by
  rcases h.eq_or_lt with rfl | hpos
  · rcases hle.eq_or_lt with rfl | hy
    · rfl
    · rw [nearest_zero]
      exact (two_zpow_pos _).le.trans (two_zpow_log_le_nearest hy)
  rcases (Int.log_mono_right hpos hle : Int.log 2 x ≤ Int.log 2 y).lt_or_eq with hlt | heq
  · calc
      nearest x ≤ 2 ^ (Int.log 2 x + 1) := nearest_le_two_zpow_log hpos
      _ ≤ 2 ^ Int.log 2 y := zpow_le_zpow_right₀ one_le_two hlt
      _ ≤ nearest y := two_zpow_log_le_nearest (hpos.trans_le hle)
  · have hplace : lastPlace x = lastPlace y := by rw [lastPlace, lastPlace, heq]
    have hunit := two_zpow_pos (lastPlace y)
    have hscaled : halfEven (x / 2 ^ lastPlace y) ≤ halfEven (y / 2 ^ lastPlace y) :=
      halfEven_mono (div_le_div_of_nonneg_right hle hunit.le)
    rw [nearest, nearest, hplace]
    exact mul_le_mul_of_nonneg_right (by exact_mod_cast hscaled) hunit.le

/-- A number whose last place is no lower than that of 53 digits is left alone. -/
theorem nearest_of_lastPlace_le {n e : ℤ} (hx : x = n * 2 ^ e) (hle : lastPlace x ≤ e) :
    nearest x = x := by
  obtain ⟨k, hk⟩ := Int.le.dest hle
  have hscaled : x / 2 ^ lastPlace x = ((n * 2 ^ k : ℤ) : ℚ) := by
    rw [div_eq_iff (two_zpow_pos _).ne']
    calc
      x = n * 2 ^ (lastPlace x + k) := by rw [hk, ← hx]
      _ = n * (2 ^ lastPlace x * 2 ^ k) := by rw [two_zpow_add, zpow_natCast]
      _ = ((n * 2 ^ k : ℤ) : ℚ) * 2 ^ lastPlace x := by
        push_cast
        ring
  rw [nearest, hscaled, halfEven_intCast, ← hscaled, div_mul_cancel₀ _ (two_zpow_pos _).ne']

theorem nearest_of_fits (h : 0 ≤ x) (hfits : Fits x) : nearest x = x := by
  rcases h.eq_or_lt with rfl | hpos
  · exact nearest_zero
  obtain ⟨m, e, hm, hx⟩ := hfits
  refine nearest_of_lastPlace_le (n := m) (by exact_mod_cast hx) ?_
  have hlt : x < (2 : ℚ) ^ (((53 : ℕ) : ℤ) + e) := by
    rw [hx, two_zpow_add, zpow_natCast]
    exact mul_lt_mul_of_pos_right (by exact_mod_cast hm) (two_zpow_pos e)
  have hlog : Int.log 2 x < ((53 : ℕ) : ℤ) + e :=
    (Int.lt_zpow_iff_log_lt Nat.one_lt_two hpos).mp (by exact_mod_cast hlt)
  rw [lastPlace]
  omega

theorem fits_natCast {n : ℕ} (h : n ≤ 2 ^ 53) : Fits n := by
  rcases h.lt_or_eq with hlt | rfl
  · exact ⟨n, 0, hlt, by simp⟩
  · exact ⟨1, 53, by decide, by norm_num⟩

/-- From `2 ^ 52` on there are no digits after the point. -/
theorem exists_int_nearest (h : 2 ^ 52 ≤ x) : ∃ n : ℤ, nearest x = n := by
  have hpos : 0 < x := (by norm_num : (0 : ℚ) < 2 ^ 52).trans_le h
  have hlog : ((52 : ℕ) : ℤ) ≤ Int.log 2 x :=
    (Int.zpow_le_iff_le_log Nat.one_lt_two hpos).mp (by exact_mod_cast h)
  obtain ⟨k, hk⟩ := Int.eq_ofNat_of_zero_le (show 0 ≤ lastPlace x by rw [lastPlace]; omega)
  refine ⟨halfEven (x / 2 ^ lastPlace x) * 2 ^ k, ?_⟩
  rw [nearest, hk, zpow_natCast]
  push_cast
  rfl

/-- The error is at most half of a unit in the last place. -/
theorem abs_nearest_sub_le (h : 0 ≤ x) : |nearest x - x| ≤ x / 2 ^ 53 := by
  rcases h.eq_or_lt with rfl | h
  · rw [nearest_zero, sub_self, abs_zero, zero_div]
  have hpos := two_zpow_pos (lastPlace x)
  have hunit : (2 : ℚ) ^ lastPlace x ≤ x / 2 ^ 52 := by
    rw [le_div_iff₀ (by positivity), mul_comm]
    exact (le_div_iff₀ hpos).mp (scaled_mem h).1
  calc
    |nearest x - x| =
        |(halfEven (x / 2 ^ lastPlace x) - x / 2 ^ lastPlace x) * 2 ^ lastPlace x| := by
      rw [sub_mul, div_mul_cancel₀ _ hpos.ne', nearest]
    _ = |(halfEven (x / 2 ^ lastPlace x) : ℚ) - x / 2 ^ lastPlace x| * 2 ^ lastPlace x := by
      rw [abs_mul, abs_of_pos hpos]
    _ ≤ 1 / 2 * (x / 2 ^ 52) :=
      mul_le_mul (abs_halfEven_sub_le _) hunit hpos.le (by norm_num)
    _ = x / 2 ^ 53 := by ring

end Nearest

end ResilientChat.Decimal
