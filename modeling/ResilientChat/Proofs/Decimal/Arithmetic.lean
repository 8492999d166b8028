import ResilientChat.Proofs.Decimal.Value
import Mathlib.Algebra.Order.Ring.WithTop

/-!
The arithmetic of floats that are at least one, on the numbers they stand for. A product is the
exact product rounded to 53 digits, and infinite from `2 ^ 1024` on; a whole number becomes the
float nearest to it.
-/

namespace ResilientChat.Decimal

open Float.Model (Format UnpackedFloat totalExponent)
open Float.Model.UnpackedFloat (Sign)

section Rounded

variable {u : UnpackedFloat} {v x : WithTop ℚ}

/-- What the arithmetic of floats makes of an exact result of at least one. -/
def rounded : WithTop ℚ → WithTop ℚ
  | ⊤ => ⊤
  | (x : ℚ) => if nearest x < 2 ^ 1024 then (nearest x : WithTop ℚ) else ⊤

theorem rounded_top : rounded ⊤ = ⊤ := rfl

theorem rounded_coe (x : ℚ) :
    rounded x = if nearest x < 2 ^ 1024 then (nearest x : WithTop ℚ) else ⊤ :=
  rfl

theorem rounded_zero : rounded 0 = 0 := by
  rw [← WithTop.coe_zero, rounded_coe, nearest_zero, if_pos (by positivity)]

theorem rounded_mono (hv : 0 ≤ v) (h : v ≤ x) : rounded v ≤ rounded x := by
  cases x with
  | top => exact le_top
  | coe y =>
      lift v to ℚ using (h.trans_lt (WithTop.coe_lt_top y)).ne
      have hle := nearest_mono (WithTop.coe_le_coe.mp hv) (WithTop.coe_le_coe.mp h)
      rw [rounded_coe, rounded_coe]
      split_ifs with hx hy
      · exact WithTop.coe_le_coe.mpr hle
      · exact le_top
      · next hy => exact absurd (hle.trans_lt hy) hx
      · exact le_top

theorem lt_limit_iff {m : ℕ} {e : ℤ} (hlow : 2 ^ 52 ≤ m) (hhigh : m < 2 ^ 53) :
    (m : ℚ) * 2 ^ e < 2 ^ 1024 ↔ e ≤ 971 := by
  have hlimit : (2 : ℚ) ^ 1024 = (2 ^ 52 : ℕ) * 2 ^ (972 : ℤ) := by
    rw [Nat.cast_pow, Nat.cast_ofNat, ← zpow_natCast, ← zpow_natCast, ← two_zpow_add]
    norm_num only
  rw [hlimit]
  constructor
  · intro hlt
    by_contra he
    have hm : ((2 ^ 52 : ℕ) : ℚ) ≤ m := by exact_mod_cast hlow
    have he' : (2 : ℚ) ^ (972 : ℤ) ≤ 2 ^ e := zpow_le_zpow_right₀ one_le_two (by omega)
    exact hlt.not_ge (mul_le_mul hm he' (two_zpow_pos _).le (Nat.cast_nonneg m))
  · intro he
    exact mul_two_zpow_lt hhigh le_rfl (by omega)

theorem Stands.rounded_eq (h : Stands u v) : rounded v = v := by
  cases h with
  | infinite => rfl
  | @finite m e hm hlow hhigh hmin hmax =>
      have hpos : (0 : ℚ) < m * 2 ^ e := mul_pos (by exact_mod_cast hm) (two_zpow_pos e)
      rw [rounded_coe, nearest_of_fits hpos.le ⟨m, e, hhigh, rfl⟩,
        if_pos ((lt_limit_iff hlow hhigh).mpr hmax)]

theorem stands_roundWithAccuracy {m : ℕ} {e : ℤ} (hm : 2 ^ 52 ≤ m) (hone : 1 ≤ (m : ℚ) * 2 ^ e) :
    Stands (Float.Model.pack
        (UnpackedFloat.roundWithAccuracy Format.binary64 .positive m e .exact)).unpack
      (rounded ((m * 2 ^ e : ℚ) : WithTop ℚ)) := by
  obtain ⟨n, p, hn, hlow, hhigh, hmin, hround, hvalue⟩ := roundWithAccuracy_eq hm hone .positive
  rw [rounded_coe, ← hvalue, hround]
  change Stands (UnpackedFloat.unpack Format.binary64
    (UnpackedFloat.pack Format.binary64 (.finite .positive n p hn))) _
  rw [unpack_pack_normal hn hlow hhigh (by omega)]
  by_cases hp : p ≤ 971
  · rw [if_pos hp, if_pos ((lt_limit_iff hlow hhigh).mpr hp)]
    exact .finite hn hlow hhigh hmin hp
  · rw [if_neg hp, if_neg (mt (lt_limit_iff hlow hhigh).mp hp)]
    exact .infinite

end Rounded

section Product

variable {u w : UnpackedFloat} {v x : WithTop ℚ} {a b c d : Float}

theorem stands_infinity : Stands (Float.Model.pack (.infinity .positive)).unpack ⊤ := by
  have hunpack : (Float.Model.pack (.infinity .positive)).unpack = .infinity .positive :=
    unpack_packedInfinity .positive
  rw [hunpack]
  exact .infinite

theorem one_le_mul_value (hv : 1 ≤ v) (hx : 1 ≤ x) : 1 ≤ v * x := by
  cases v with
  | top =>
      rw [WithTop.top_mul (one_pos.trans_le hx).ne']
      exact le_top
  | coe p =>
      cases x with
      | top =>
          rw [WithTop.mul_top (one_pos.trans_le hv).ne']
          exact le_top
      | coe q =>
          have hproduct : 1 ≤ p * q := one_le_mul_of_one_le_of_one_le
            (WithTop.coe_le_coe.mp hv) (WithTop.coe_le_coe.mp hx)
          exact_mod_cast hproduct

theorem mul_value_le_mul {v' x' : WithTop ℚ} (hv : 1 ≤ v) (hx : 1 ≤ x) (hvle : v ≤ v')
    (hxle : x ≤ x') : v * x ≤ v' * x' := by
  cases v' with
  | top =>
      rw [WithTop.top_mul (one_pos.trans_le (hx.trans hxle)).ne']
      exact le_top
  | coe p =>
      cases x' with
      | top =>
          rw [WithTop.mul_top (one_pos.trans_le (hv.trans hvle)).ne']
          exact le_top
      | coe q =>
          lift v to ℚ using (hvle.trans_lt (WithTop.coe_lt_top p)).ne
          lift x to ℚ using (hxle.trans_lt (WithTop.coe_lt_top q)).ne
          have hv' : 1 ≤ v := WithTop.coe_le_coe.mp hv
          have hx' : 1 ≤ x := WithTop.coe_le_coe.mp hx
          have hproduct : v * x ≤ p * q := mul_le_mul (WithTop.coe_le_coe.mp hvle)
            (WithTop.coe_le_coe.mp hxle) (by linarith)
            (by linarith [WithTop.coe_le_coe.mp hvle])
          exact_mod_cast hproduct

theorem mul_finite (s t : Sign) {m n : ℕ} (hm : 0 < m) (hn : 0 < n) (e f : ℤ) :
    UnpackedFloat.mul Format.binary64 (.finite s m e hm) (.finite t n f hn) =
      UnpackedFloat.roundWithAccuracy Format.binary64 (s * t) (m * n) (e + f) .exact :=
  rfl

theorem Stands.mul (hu : Stands u v) (hw : Stands w x) :
    Stands (Float.Model.pack (UnpackedFloat.mul Format.binary64 u w)).unpack (rounded (v * x)) := by
  have hv := hu.one_le
  have hx := hw.one_le
  cases hu with
  | infinite =>
      rw [WithTop.top_mul (one_pos.trans_le hx).ne', rounded_top]
      cases hw <;> exact stands_infinity
  | @finite m e hm hlow =>
      cases hw with
      | infinite =>
          rw [WithTop.mul_top (one_pos.trans_le hv).ne', rounded_top]
          exact stands_infinity
      | @finite n f hn hlow' =>
          have hproduct : (m : ℚ) * 2 ^ e * (n * 2 ^ f) = (m * n : ℕ) * 2 ^ (e + f) := by
            rw [two_zpow_add]
            push_cast
            ring
          have hone : 1 ≤ (m : ℚ) * 2 ^ e * (n * 2 ^ f) :=
            one_le_mul_of_one_le_of_one_le (by exact_mod_cast hv) (by exact_mod_cast hx)
          rw [mul_finite, ← WithTop.coe_mul, hproduct]
          rw [hproduct] at hone
          exact stands_roundWithAccuracy (hlow.trans (Nat.le_mul_of_pos_right m hn)) hone

theorem one_le_floatValue (ha : 1.0 ≤ a) : 1 ≤ floatValue a := (stands_of_one_le ha).one_le

theorem float_le_iff_value (ha : 1.0 ≤ a) (hb : 1.0 ≤ b) : a ≤ b ↔ floatValue a ≤ floatValue b :=
  (float_le_iff a b).trans ((stands_of_one_le ha).le_iff (stands_of_one_le hb))

theorem float_lt_iff_value (ha : 1.0 ≤ a) (hb : 1.0 ≤ b) : a < b ↔ floatValue a < floatValue b :=
  (float_lt_iff a b).trans ((stands_of_one_le ha).lt_iff (stands_of_one_le hb))

theorem rounded_floatValue (ha : 1.0 ≤ a) : rounded (floatValue a) = floatValue a :=
  (stands_of_one_le ha).rounded_eq

theorem stands_float_mul (ha : 1.0 ≤ a) (hb : 1.0 ≤ b) :
    Stands (a * b).toModel.unpack (rounded (floatValue a * floatValue b)) :=
  (stands_of_one_le ha).mul (stands_of_one_le hb)

theorem one_le_float_mul (ha : 1.0 ≤ a) (hb : 1.0 ≤ b) : 1.0 ≤ a * b :=
  one_le_of_stands (stands_float_mul ha hb)

theorem floatValue_mul (ha : 1.0 ≤ a) (hb : 1.0 ≤ b) :
    floatValue (a * b) = rounded (floatValue a * floatValue b) :=
  (stands_float_mul ha hb).floatValue_eq

theorem floatValue_one : floatValue 1.0 = 1 := stands_one.floatValue_eq

theorem float_one_le_one : 1.0 ≤ (1.0 : Float) := one_le_of_stands stands_one

/-- Both floats are at least one, and the first is no greater. -/
structure Ascends (a b : Float) : Prop where
  one_le : 1.0 ≤ a
  one_le_right : 1.0 ≤ b
  value_le : floatValue a ≤ floatValue b

theorem Ascends.refl (ha : 1.0 ≤ a) : Ascends a a := ⟨ha, ha, le_rfl⟩

theorem ascends_one (ha : 1.0 ≤ a) : Ascends 1.0 a :=
  ⟨float_one_le_one, ha, floatValue_one.trans_le (one_le_floatValue ha)⟩

theorem Ascends.trans (hab : Ascends a b) (hbc : Ascends b c) : Ascends a c :=
  ⟨hab.one_le, hbc.one_le_right, hab.value_le.trans hbc.value_le⟩

theorem Ascends.mul (hab : Ascends a b) (hcd : Ascends c d) : Ascends (a * c) (b * d) := by
  refine ⟨one_le_float_mul hab.one_le hcd.one_le,
    one_le_float_mul hab.one_le_right hcd.one_le_right, ?_⟩
  have hone := one_le_mul_value (one_le_floatValue hab.one_le) (one_le_floatValue hcd.one_le)
  have hle := mul_value_le_mul (one_le_floatValue hab.one_le) (one_le_floatValue hcd.one_le)
    hab.value_le hcd.value_le
  rw [floatValue_mul hab.one_le hcd.one_le, floatValue_mul hab.one_le_right hcd.one_le_right]
  exact rounded_mono (zero_le_one.trans hone) hle

theorem Ascends.one_mul (hab : Ascends a b) : Ascends a (1.0 * b) := by
  refine ⟨hab.one_le, one_le_float_mul float_one_le_one hab.one_le_right, ?_⟩
  rw [floatValue_mul float_one_le_one hab.one_le_right, floatValue_one, mul_comm, mul_one,
    rounded_floatValue hab.one_le_right]
  exact hab.value_le

end Product

section WholeNumber

variable {n : ℕ}

/-- A whole number is given more digits before it is rounded. -/
theorem stands_shifted {k : ℕ} (hn : 0 < n) (hdigits : 2 ^ 52 ≤ n * 2 ^ k) :
    Stands (Float.Model.pack
        (UnpackedFloat.roundWithAccuracy Format.binary64 .positive (n * 2 ^ k) (-k) .exact)).unpack
      (rounded ((n : ℚ) : WithTop ℚ)) := by
  have hvalue : ((n * 2 ^ k : ℕ) : ℚ) * 2 ^ (-(k : ℤ)) = n := by
    rw [zpow_neg, zpow_natCast]
    push_cast
    field_simp
  have hone : (1 : ℚ) ≤ ((n * 2 ^ k : ℕ) : ℚ) * 2 ^ (-(k : ℤ)) := by
    rw [hvalue]
    exact_mod_cast hn
  simpa only [hvalue] using stands_roundWithAccuracy hdigits hone

theorem ofUInt64_eq (hn : 0 < n) (hsmall : n < 2 ^ 53) :
    UnpackedFloat.ofUInt64 Format.binary64 n.toUInt64 =
      UnpackedFloat.roundWithAccuracy Format.binary64 .positive (n * 2 ^ (52 - n.log2))
        (-(52 - n.log2 : ℕ)) .exact := by
  have htoNat : n.toUInt64.toNat = n := UInt64.toNat_ofNat_of_lt' (hsmall.trans (by decide))
  have hlog : n.log2 < 53 := (Nat.log2_lt hn.ne').mpr hsmall
  have hshift : (0 - Format.binary64.targetExponent (totalExponent n 0)).toNat = 52 - n.log2 := by
    rw [targetExponent_eq (by omega)]
    omega
  have hpositive : compare (n : ℤ) 0 = .gt := compare_gt_iff_gt.mpr (by exact_mod_cast hn)
  change UnpackedFloat.normalize Format.binary64 (n.toUInt64.toNat : ℤ) 0 .positive = _
  rw [htoNat, UnpackedFloat.normalize, hpositive]
  change UnpackedFloat.round Format.binary64 .positive n 0 = _
  rw [UnpackedFloat.round, UnpackedFloat.decreaseExponent, hshift, Nat.shiftLeft_eq, zero_sub]

theorem stands_toFloat (hn : 0 < n) (hsmall : n < 2 ^ 53) :
    Stands n.toUInt64.toFloat.toModel.unpack (rounded ((n : ℚ) : WithTop ℚ)) := by
  have hlog : n.log2 < 53 := (Nat.log2_lt hn.ne').mpr hsmall
  have hdigits : 2 ^ 52 ≤ n * 2 ^ (52 - n.log2) :=
    calc
      2 ^ 52 = 2 ^ n.log2 * 2 ^ (52 - n.log2) := by
        rw [← pow_add]
        congr 1
        omega
      _ ≤ n * 2 ^ (52 - n.log2) := Nat.mul_le_mul_right _ (Nat.log2_self_le hn.ne')
  change Stands (Float.Model.pack (UnpackedFloat.ofUInt64 Format.binary64 n.toUInt64)).unpack _
  rw [ofUInt64_eq hn hsmall]
  exact stands_shifted hn hdigits

theorem ofNat_eq_of_lt (hsmall : n < 2 ^ 53) :
    Float.ofNat n = n.toUInt64.toFloat * 1.0 := by
  change Float.ofScientific n false 0 = _
  rw [Float.ofScientific, dif_pos ⟨hsmall, by decide⟩]
  rfl

theorem ofNat_eq_of_ge (hlarge : 2 ^ 53 ≤ n) :
    (Float.ofNat n).toModel =
      Float.Model.pack (UnpackedFloat.roundWithAccuracy Format.binary64 .positive (n * 2 ^ 53)
        (-(53 : ℕ)) .exact) := by
  change (Float.ofScientific n false 0).toModel = _
  rw [Float.ofScientific, dif_neg (fun h => absurd h.1 hlarge.not_gt)]
  change Float.Model.pack (UnpackedFloat.ofScientific Format.binary64 n 0) = _
  have hexponent : ¬(0 : ℤ) < -(2 ^ Format.binary64.exponentBits + n.log2) := by
    change ¬(0 : ℤ) < -(2 ^ 11 + n.log2)
    omega
  rw [UnpackedFloat.ofScientific, dif_neg (by omega), if_neg (by decide), if_neg hexponent,
    if_pos le_rfl, mul_finite, Nat.shiftLeft_eq, Int.toNat_zero, pow_zero, mul_one, add_zero]
  rfl

/-- A whole number becomes the float nearest to it. -/
theorem stands_ofNat (hn : 0 < n) :
    Stands (Float.ofNat n).toModel.unpack (rounded ((n : ℚ) : WithTop ℚ)) := by
  rcases lt_or_ge n (2 ^ 53) with hsmall | hlarge
  · have hstands := (stands_toFloat hn hsmall).mul stands_one
    rw [mul_one, (stands_toFloat hn hsmall).rounded_eq] at hstands
    rw [ofNat_eq_of_lt hsmall]
    exact hstands
  · rw [ofNat_eq_of_ge hlarge]
    exact stands_shifted hn (by omega)

theorem one_le_ofNat (hn : 0 < n) : 1.0 ≤ Float.ofNat n :=
  one_le_of_stands (stands_ofNat hn)

theorem floatValue_ofNat (hn : 0 < n) : floatValue (Float.ofNat n) = rounded n :=
  (stands_ofNat hn).floatValue_eq

theorem rounded_natCast (h : n ≤ 2 ^ 53) : rounded n = n := by
  have hlimit : (n : ℚ) < 2 ^ 1024 :=
    calc
      (n : ℚ) ≤ 2 ^ 53 := by exact_mod_cast h
      _ < 2 ^ 1024 := pow_lt_pow_right₀ one_lt_two (by norm_num)
  rw [← WithTop.coe_natCast, rounded_coe, nearest_of_fits (Nat.cast_nonneg n) (fits_natCast h),
    if_pos hlimit]

end WholeNumber

end ResilientChat.Decimal
