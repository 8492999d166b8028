import ResilientChat.Proofs.Retry.Growth

/-!
What becomes of a product under a ceiling. The ceiling is compared as a float, so one of more than
53 digits is rounded first; a product below `2 ^ 64` is rounded to whole nanoseconds, and one from
`2 ^ 64` on gives way to the ceiling.
-/

namespace ResilientChat

namespace Backoff

open Decimal

section Settling

def nearestNanos (x : WithTop ℚ) : WithTop Duration := x.map fun q => (round q).toNat

/-- The ceiling as it is compared with products, to the nearest nanosecond. From `2 ^ 64` on it is
not rounded. -/
def heldCeiling (m : Duration) : Duration :=
  if nearest m < UInt64.size then (round (nearest m)).toNat else m

def underCeiling (m : Duration) (x : WithTop ℚ) : WithTop Duration :=
  if (m : WithTop ℚ) ≤ x then heldCeiling m
  else if x < UInt64.size then nearestNanos x
  else m

theorem lt_roundingLimit_iff {x : Float} (hx : 1.0 ≤ x) :
    x < roundingLimit ↔ floatValue x < UInt64.size := by
  have hlimit : Stands roundingLimit.toModel.unpack UInt64.size :=
    stands_of_unpack (k := 12) rfl (by decide)
  rw [float_lt_iff_value hx (one_le_of_stands hlimit), hlimit.floatValue_eq]

/-- A number that is at least one is rounded below the limit, and gives way to `m` from it on. -/
theorem round_below_limit {x : Float} (hx : 1.0 ≤ x) (m : Duration) :
    ((if x < roundingLimit then ((Binary.ofFloat x).round?).getD m else m : Duration) :
        WithTop Duration) =
      if floatValue x < UInt64.size then nearestNanos (floatValue x) else m := by
  by_cases hlt : floatValue x < UInt64.size
  · obtain ⟨q, hq⟩ := WithTop.ne_top_iff_exists.mp (hlt.trans_le le_top).ne
    have hone : 1 ≤ (q : WithTop ℚ) := hq ▸ one_le_floatValue hx
    have hnonneg : 0 ≤ q := WithTop.coe_le_coe.mp (zero_le_one.trans hone)
    rw [if_pos ((lt_roundingLimit_iff hx).mpr hlt), if_pos hlt, round?_eq hq.symm hnonneg, ← hq]
    rfl
  · rw [if_neg (mt (lt_roundingLimit_iff hx).mp hlt), if_neg hlt]

theorem size_lt_limit : (UInt64.size : ℚ) < 2 ^ 1024 := by
  have hsize : (UInt64.size : ℚ) = 2 ^ 64 := by norm_num
  rw [hsize]
  exact pow_lt_pow_right₀ one_lt_two (by norm_num)

theorem heldCeiling_eq (m : Duration) :
    (heldCeiling m : WithTop Duration) =
      if rounded m < UInt64.size then nearestNanos (rounded m) else m := by
  by_cases hlt : nearest m < UInt64.size
  · have hrounded : rounded m = (nearest m : WithTop ℚ) := by
      rw [← WithTop.coe_natCast, rounded_coe, if_pos (hlt.trans size_lt_limit)]
    have hlt' : (nearest m : WithTop ℚ) < UInt64.size := WithTop.coe_lt_coe.mpr hlt
    rw [heldCeiling, if_pos hlt, hrounded, if_pos hlt']
    rfl
  · have hrounded : ¬rounded m < UInt64.size := by
      rw [← WithTop.coe_natCast, rounded_coe]
      split
      · exact mt WithTop.coe_lt_coe.mp hlt
      · exact not_top_lt
    rw [heldCeiling, if_neg hlt, if_neg hrounded]

theorem heldCeiling_zero : heldCeiling 0 = 0 := by
  rw [heldCeiling, Nat.cast_zero, nearest_zero, round_zero]
  split <;> rfl

theorem natCast_nonneg (m : ℕ) : (0 : WithTop ℚ) ≤ m :=
  WithTop.coe_le_coe.mpr (Nat.cast_nonneg m)

/-- A ceiling of zero is not a float of at least one, and has to be compared on its own. -/
theorem not_le_zero {x : Float} (hx : 1.0 ≤ x) : ¬x ≤ Float.ofNat 0 := by
  rw [float_le_iff]
  have hstands := stands_of_one_le hx
  generalize x.toModel.unpack = u, floatValue x = v at hstands ⊢
  cases hstands <;> exact Bool.false_ne_true

theorem rounded_le_floatValue {x : Float} (hx : 1.0 ≤ x) {m : ℕ} (h : m ≤ floatValue x) :
    rounded m ≤ floatValue x := by
  rw [← rounded_floatValue hx]
  exact rounded_mono (natCast_nonneg m) h

theorem floatValue_le_rounded {x : Float} (hx : 1.0 ≤ x) {m : ℕ} (h : floatValue x ≤ m) :
    floatValue x ≤ rounded m := by
  rw [← rounded_floatValue hx]
  exact rounded_mono (zero_le_one.trans (one_le_floatValue hx)) h

/-- The product is compared with the float nearest to the ceiling, which comes to a comparison with
the ceiling itself: no float lies between the two. -/
theorem settle_eq (m : Duration) {x : Float} (hx : 1.0 ≤ x) :
    (settle (some m) x : WithTop Duration) = underCeiling m (floatValue x) := by
  rw [underCeiling]
  rcases Nat.eq_zero_or_pos m with rfl | hpos
  · rw [settle, atMost, if_neg (not_le_zero hx), Nat.cast_zero,
      if_pos (zero_le_one.trans (one_le_floatValue hx)), heldCeiling_zero]
    decide +kernel
  · have hm := one_le_ofNat hpos
    have hle := float_le_iff_value hx hm
    rw [floatValue_ofNat hpos] at hle
    change ((if atMost (Float.ofNat m) x < roundingLimit then
      ((Binary.ofFloat (atMost (Float.ofNat m) x)).round?).getD m else m : Duration) :
        WithTop Duration) = _
    by_cases hunder : floatValue x ≤ rounded m
    · rw [atMost, if_pos (hle.mpr hunder), round_below_limit hx]
      by_cases hreached : (m : WithTop ℚ) ≤ floatValue x
      · have heq := le_antisymm hunder (rounded_le_floatValue hx hreached)
        rw [if_pos hreached, heldCeiling_eq, heq]
      · rw [if_neg hreached]
    · have hreached : (m : WithTop ℚ) ≤ floatValue x := by
        by_contra hshort
        exact hunder (floatValue_le_rounded hx (not_le.mp hshort).le)
      rw [atMost, if_neg (mt hle.mp hunder), round_below_limit hm, floatValue_ofNat hpos,
        if_pos hreached, heldCeiling_eq]

end Settling

section Bounds

variable {m : Duration} {x y : WithTop ℚ}

theorem nearestNanos_mono : Monotone nearestNanos := by
  refine Monotone.withTop_map ?_
  intro p q h
  simp only [round_eq]
  exact Int.toNat_le_toNat (Int.floor_mono (by linarith))

theorem nearestNanos_natCast (m : ℕ) : nearestNanos m = m := by
  rw [← WithTop.coe_natCast, nearestNanos, WithTop.map_coe, round_natCast, Int.toNat_natCast]
  rfl

/-- A ceiling of 53 digits is a float. -/
theorem heldCeiling_of_fits (h : Fits m) : heldCeiling m = m := by
  rw [heldCeiling, nearest_of_fits (Nat.cast_nonneg m) h, round_natCast, Int.toNat_natCast]
  split <;> rfl

theorem heldCeiling_of_size_le (h : UInt64.size ≤ m) : heldCeiling m = m := by
  have hsize : Fits UInt64.size := ⟨1, 64, by decide, by norm_num⟩
  have hle : (UInt64.size : ℚ) ≤ nearest m :=
    calc
      (UInt64.size : ℚ) = nearest UInt64.size := (nearest_of_fits (by norm_num) hsize).symm
      _ ≤ nearest m := nearest_mono (Nat.cast_nonneg _) (by exact_mod_cast h)
  rw [heldCeiling, if_neg hle.not_gt]

theorem exists_nat_nearest (m : ℕ) : ∃ n : ℕ, nearest m = n := by
  rcases le_total m (2 ^ 53) with hsmall | hlarge
  · exact ⟨m, nearest_of_fits (Nat.cast_nonneg m) (fits_natCast hsmall)⟩
  · have hdigits : (2 ^ 52 : ℚ) ≤ m := by exact_mod_cast (by omega : 2 ^ 52 ≤ m)
    obtain ⟨n, hn⟩ := exists_int_nearest hdigits
    have hnonneg : nearest 0 ≤ nearest m := nearest_mono le_rfl (Nat.cast_nonneg m)
    rw [nearest_zero, hn] at hnonneg
    obtain ⟨k, rfl⟩ := Int.eq_ofNat_of_zero_le (by exact_mod_cast hnonneg)
    exact ⟨k, hn⟩

/-- The ceiling is changed by no more than its 53rd digit. -/
theorem abs_heldCeiling_sub_le (m : Duration) : |(heldCeiling m : ℚ) - m| ≤ m / 2 ^ 53 := by
  obtain ⟨n, hn⟩ := exists_nat_nearest m
  rw [heldCeiling]
  split
  · rw [hn, round_natCast, Int.toNat_natCast, ← hn]
    exact abs_nearest_sub_le (Nat.cast_nonneg m)
  · rw [sub_self, abs_zero]
    positivity

/-- A product below the ceiling is no greater than the ceiling as it is compared. -/
theorem nearestNanos_le_heldCeiling (hx : 0 ≤ x) (hfloat : rounded x = x) (hle : x ≤ m) :
    nearestNanos x ≤ heldCeiling m := by
  rw [heldCeiling_eq]
  split
  · rw [← hfloat]
    exact nearestNanos_mono (rounded_mono hx hle)
  · rw [← nearestNanos_natCast]
    exact nearestNanos_mono hle

theorem underCeiling_le (hx : 0 ≤ x) (hfloat : rounded x = x) :
    underCeiling m x ≤ heldCeiling m := by
  rw [underCeiling]
  split
  · exact le_rfl
  · next hshort =>
    have hlt := not_le.mp hshort
    split
    · exact nearestNanos_le_heldCeiling hx hfloat hlt.le
    · next hlarge =>
      have hsize : (UInt64.size : WithTop ℚ) ≤ m := (not_lt.mp hlarge).trans hlt.le
      rw [heldCeiling_of_size_le (by exact_mod_cast hsize)]

theorem underCeiling_mono (hx : 0 ≤ x) (hfloat : rounded x = x) (h : x ≤ y) :
    underCeiling m x ≤ underCeiling m y := by
  by_cases hreached : (m : WithTop ℚ) ≤ y
  · conv_rhs => rw [underCeiling, if_pos hreached]
    exact underCeiling_le hx hfloat
  · have hlt := not_le.mp hreached
    rw [underCeiling, underCeiling, if_neg hreached, if_neg (h.trans_lt hlt).not_ge]
    split_ifs with hxs hys hys
    · exact nearestNanos_mono h
    · rw [← nearestNanos_natCast]
      exact nearestNanos_mono (h.trans hlt.le)
    · exact absurd (h.trans_lt hys) hxs
    · exact le_rfl

theorem underCeiling_zero (m : Duration) : underCeiling m 0 = 0 := by
  rw [underCeiling]
  split
  · next hreached =>
    obtain rfl : m = 0 := Nat.le_zero.mp (by exact_mod_cast hreached)
    rw [heldCeiling_zero]
    rfl
  · rw [← Nat.cast_zero, if_pos (by exact_mod_cast (by decide : 0 < UInt64.size)),
      nearestNanos_natCast]
    rfl

/-- A product of `2 ^ 64` or more has no digits after the point. -/
theorem exists_nat_of_size_le (hfloat : rounded x = x) (hlarge : UInt64.size ≤ x) (h : x ≠ ⊤) :
    ∃ n : ℕ, x = n := by
  lift x to ℚ using h
  have hsize : (UInt64.size : ℚ) ≤ x := WithTop.coe_le_coe.mp hlarge
  have hdigits : (2 ^ 52 : ℚ) ≤ UInt64.size := by norm_num
  have hnearest : nearest x = x := by
    rw [rounded_coe] at hfloat
    split at hfloat
    · exact WithTop.coe_injective hfloat
    · exact absurd hfloat WithTop.top_ne_coe
  obtain ⟨n, hn⟩ := exists_int_nearest (hdigits.trans hsize)
  rw [hnearest] at hn
  have hnonneg : (0 : ℚ) ≤ n := hn ▸ (Nat.cast_nonneg _).trans hsize
  obtain ⟨k, rfl⟩ := Int.eq_ofNat_of_zero_le (by exact_mod_cast hnonneg)
  exact ⟨k, by rw [hn]; rfl⟩

/-- The lesser of a product and the ceiling comes out as long as the ceiling does, and as long as no
product of `2 ^ 64` or more stays below it. -/
theorem underCeiling_eq_iff (hx : 0 ≤ x) (hfloat : rounded x = x) :
    underCeiling m x = nearestNanos (min x m) ↔
      ((m : WithTop ℚ) ≤ x → heldCeiling m = m) ∧ (UInt64.size ≤ x → (m : WithTop ℚ) ≤ x) := by
  rw [underCeiling]
  by_cases hreached : (m : WithTop ℚ) ≤ x
  · rw [if_pos hreached, min_eq_right hreached, nearestNanos_natCast]
    simp only [hreached, forall_const, implies_true, and_true]
    exact WithTop.coe_inj
  · rw [if_neg hreached, min_eq_left (not_le.mp hreached).le]
    simp only [hreached, false_implies, true_and, imp_false, not_le]
    refine ⟨fun h => ?_, fun h => if_pos h⟩
    by_contra hlarge
    rw [if_neg hlarge] at h
    -- Where the ceiling comes out instead, the product, which is whole, would have to equal it.
    obtain ⟨n, rfl⟩ := exists_nat_of_size_le hfloat (not_lt.mp hlarge)
      ((not_le.mp hreached).trans_le le_top).ne
    rw [nearestNanos_natCast] at h
    exact hreached (by exact_mod_cast (WithTop.coe_injective h).le)

end Bounds

end Backoff

end ResilientChat
