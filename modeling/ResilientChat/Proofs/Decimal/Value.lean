import ResilientChat.Decimal.Binary
import ResilientChat.Proofs.Decimal.Rounding

/-!
The numbers that floats stand for. The fields that are read off a float's bits are those that its
arithmetic works on, so its number can be taken from either. Floats of at least one are infinite or
have 53 digits, and they compare as their numbers do.
-/

namespace ResilientChat.Decimal

open Float.Model (Format UnpackedFloat)
open Float.Model.UnpackedFloat (Sign)

section Reading

def isNegative : Sign → Bool
  | .negative => true
  | .positive => false

def Binary.ofUnpacked : UnpackedFloat → Binary
  | .infinity s => .infinite (isNegative s)
  | .notANumber => .nan
  | .zero s => .finite (isNegative s) ⟨0, -1074, false⟩
  | .finite s m e _ => .finite (isNegative s) ⟨m, e, m == 2 ^ 52 && decide (-1074 < e)⟩

theorem ofUnpacked_finite (s : Sign) {m : ℕ} (hm : 0 < m) (e : ℤ) :
    Binary.ofUnpacked (.finite s m e hm) =
      .finite (isNegative s) ⟨m, e, m == 2 ^ 52 && decide (-1074 < e)⟩ :=
  rfl

variable (b : BitVec Format.binary64.numBits)

theorem toNat_unpackMantissa :
    (UnpackedFloat.unpackMantissa b).toNat = b.toNat % 2 ^ 52 := by
  rw [UnpackedFloat.unpackMantissa, BitVec.toNat_cast, BitVec.extractLsb_toNat]
  rfl

theorem toNat_unpackExponent :
    (UnpackedFloat.unpackExponent b).toNat =
      b.toNat / 2 ^ 52 % 2 ^ 11 := by
  rw [UnpackedFloat.unpackExponent, BitVec.toNat_cast, BitVec.extractLsb_toNat,
    Nat.shiftRight_eq_div_pow]
  rfl

theorem isNegative_unpackSign :
    isNegative (Sign.ofBitVec (UnpackedFloat.unpackSign b)) =
      (b.toNat / 2 ^ 63 % 2 == 1) := by
  have hbit : (UnpackedFloat.unpackSign b).toNat =
      b.toNat / 2 ^ 63 % 2 := by
    change (b.extractLsb 63 63).toNat = _
    rw [BitVec.extractLsb_toNat, Nat.shiftRight_eq_div_pow]
  rw [← hbit]
  generalize UnpackedFloat.unpackSign b = v
  revert v
  decide

theorem fields_eq (bits : ℕ) :
    Binary.ofFields 52 11 bits =
      if bits / 2 ^ 52 % 2 ^ 11 = 2047 then
        if bits % 2 ^ 52 = 0 then .infinite (bits / 2 ^ 63 % 2 == 1) else .nan
      else if bits / 2 ^ 52 % 2 ^ 11 = 0 then
        .finite (bits / 2 ^ 63 % 2 == 1) ⟨bits % 2 ^ 52, -1074, false⟩
      else
        .finite (bits / 2 ^ 63 % 2 == 1)
          ⟨2 ^ 52 + bits % 2 ^ 52, -1074 + (bits / 2 ^ 52 % 2 ^ 11 - 1 : ℕ),
            bits % 2 ^ 52 == 0 && decide (1 < bits / 2 ^ 52 % 2 ^ 11)⟩ :=
  rfl

/-- The fields that are read off the bits are those of the float. -/
theorem ofFields_toNat :
    Binary.ofFields 52 11 b.toNat = .ofUnpacked (UnpackedFloat.unpack Format.binary64 b) := by
  have hinfinite : UnpackedFloat.unpackExponent b = -1#_ ↔
      b.toNat / 2 ^ 52 % 2 ^ 11 = 2047 := by
    rw [← BitVec.toNat_inj, toNat_unpackExponent]
    rfl
  have hsubnormal : UnpackedFloat.unpackExponent b = 0#_ ↔
      b.toNat / 2 ^ 52 % 2 ^ 11 = 0 := by
    rw [← BitVec.toNat_inj, toNat_unpackExponent]
    rfl
  have hwhole : UnpackedFloat.unpackMantissa b = 0#_ ↔
      b.toNat % 2 ^ 52 = 0 := by
    rw [← BitVec.toNat_inj, toNat_unpackMantissa]
    rfl
  rw [fields_eq, ← isNegative_unpackSign]
  unfold UnpackedFloat.unpack
  dsimp only
  by_cases hmax : UnpackedFloat.unpackExponent b = -1#_
  · rw [if_pos hmax, if_pos (hinfinite.mp hmax)]
    by_cases hfraction : UnpackedFloat.unpackMantissa b = 0#_
    · rw [if_pos hfraction, if_pos (hwhole.mp hfraction)]
      rfl
    · rw [if_neg hfraction, if_neg (mt hwhole.mpr hfraction)]
      rfl
  rw [if_neg hmax, if_neg (mt hinfinite.mpr hmax)]
  by_cases hmin : UnpackedFloat.unpackExponent b = 0#_
  · rw [if_pos hmin, if_pos (hsubnormal.mp hmin)]
    by_cases hfraction : UnpackedFloat.unpackMantissa b = 0#_
    · rw [dif_pos hfraction, hwhole.mp hfraction]
      rfl
    have hexponent : ((b.toNat / 2 ^ 52 % 2 ^ 11 : ℕ) : ℤ) -
        (Format.binary64.exponentBias + (52 : ℕ)) + 1 = -1074 := by
      rw [hsubnormal.mp hmin]
      rfl
    have hnarrow : (b.toNat % 2 ^ 52 == 2 ^ 52) = false :=
      beq_eq_false_iff_ne.mpr (Nat.mod_lt _ (Nat.two_pow_pos 52)).ne
    rw [dif_neg hfraction, ofUnpacked_finite, toNat_unpackMantissa, toNat_unpackExponent, hexponent,
      hnarrow, Bool.false_and]
  · have hnormal := mt hsubnormal.mpr hmin
    rw [if_neg hmin, if_neg hnormal]
    have hexponent : ((b.toNat / 2 ^ 52 % 2 ^ 11 : ℕ) : ℤ) -
        (Format.binary64.exponentBias + (52 : ℕ)) =
        -1074 + (b.toNat / 2 ^ 52 % 2 ^ 11 - 1 : ℕ) := by
      change ((b.toNat / 2 ^ 52 % 2 ^ 11 : ℕ) : ℤ) - 1075 = _
      omega
    have hnarrow :
        (2 ^ 52 + b.toNat % 2 ^ 52 == 2 ^ 52 &&
            decide (-1074 < -1074 + ((b.toNat / 2 ^ 52 % 2 ^ 11 - 1 : ℕ) : ℤ))) =
          (b.toNat % 2 ^ 52 == 0 && decide (1 < b.toNat / 2 ^ 52 % 2 ^ 11)) := by
      rw [Bool.eq_iff_iff]
      simp
    rw [ofUnpacked_finite, toNat_append_one, toNat_unpackMantissa, toNat_unpackExponent, hexponent,
      hnarrow]

/-- A finite float has 53 digits, or fewer at the least exponent. -/
theorem unpack_canonical {s : Sign} {m : ℕ} {e : ℤ} {hm : 0 < m}
    (h : UnpackedFloat.unpack Format.binary64 b = .finite s m e hm) :
    m < 2 ^ 53 ∧ e ≤ 971 ∧ (e = -1074 ∨ 2 ^ 52 ≤ m) := by
  have hfields := ofFields_toNat b
  rw [h, fields_eq, ofUnpacked_finite] at hfields
  split_ifs at hfields <;>
    simp only [Binary.finite.injEq, Magnitude.mk.injEq] at hfields
  · omega
  · omega

end Reading

section Value

def Magnitude.toRat (x : Magnitude) : ℚ := x.significand * 2 ^ x.exponent

/-- The number that a binary number stands for; `⊤` for what is not finite. -/
def Binary.value : Binary → WithTop ℚ
  | .finite negative x => ((if negative then -x.toRat else x.toRat : ℚ) : WithTop ℚ)
  | .nan | .infinite _ => ⊤

def floatValue (x : Float) : WithTop ℚ := (Binary.ofFloat x).value

theorem natCast_round (x : Magnitude) : (x.round : ℤ) = round x.toRat := by
  obtain ⟨m, e, -⟩ := x
  rw [Magnitude.round, Magnitude.toRat]
  by_cases he : 0 ≤ e
  · obtain ⟨k, rfl⟩ := Int.eq_ofNat_of_zero_le he
    have hwhole : (m : ℚ) * 2 ^ (k : ℤ) = ((m * 2 ^ k : ℕ) : ℚ) := by
      push_cast
      rw [zpow_natCast]
    rw [if_pos he, hwhole, round_natCast]
    rfl
  · obtain ⟨k, rfl⟩ := Int.exists_eq_neg_ofNat (Int.le_of_not_le he)
    have hquotient : (m : ℚ) * 2 ^ (-(k : ℤ)) + 1 / 2 =
        ((2 * m + 2 ^ k : ℕ) : ℚ) / ((2 ^ (k + 1) : ℕ) : ℚ) := by
      rw [zpow_neg, zpow_natCast]
      push_cast
      field_simp
      ring
    rw [if_neg he, round_eq, hquotient, Rat.floor_natCast_div_natCast, neg_neg, Int.toNat_natCast]
    rfl

theorem round?_eq {x : Binary} {v : ℚ} (h : x.value = v) (hnonneg : 0 ≤ v) :
    x.round? = some (round v).toNat := by
  obtain _ | _ | ⟨negative, x⟩ := x
  · exact absurd h WithTop.top_ne_coe
  · exact absurd h WithTop.top_ne_coe
  · obtain rfl := WithTop.coe_injective h
    rw [Binary.round?]
    cases negative
    · change some x.round = some (round x.toRat).toNat
      rw [← natCast_round, Int.toNat_natCast]
    · have hzero : -x.toRat ≤ 0 := by
        have : 0 ≤ x.toRat := mul_nonneg (Nat.cast_nonneg _) (two_zpow_pos _).le
        linarith
      have hround : round (-x.toRat) = 0 := by
        rw [le_antisymm hzero hnonneg, round_zero]
      simp [hround]

end Value

section Stands

variable {u w : UnpackedFloat} {v x : WithTop ℚ}

/-- An unpacked float of at least one, and the number that it stands for. -/
inductive Stands : UnpackedFloat → WithTop ℚ → Prop
  | infinite : Stands (.infinity .positive) ⊤
  | finite {m : ℕ} {e : ℤ} (hm : 0 < m) (hlow : 2 ^ 52 ≤ m) (hhigh : m < 2 ^ 53) (hmin : -52 ≤ e)
      (hmax : e ≤ 971) : Stands (.finite .positive m e hm) ((m * 2 ^ e : ℚ) : WithTop ℚ)

theorem stands_one : Stands (1.0 : Float).toModel.unpack 1 := by
  have hvalue : (1 : WithTop ℚ) = (((2 ^ 52 : ℕ) * 2 ^ (-52 : ℤ) : ℚ) : WithTop ℚ) := by
    norm_num
  rw [hvalue]
  exact .finite _ le_rfl (by decide) le_rfl (by decide)

/-- A power of two, by its parts. -/
theorem stands_of_unpack {f : Float} {k : ℕ} {hm : 0 < 2 ^ 52}
    (h : f.toModel.unpack = .finite .positive (2 ^ 52) k hm) (hk : k ≤ 971) :
    Stands f.toModel.unpack (2 ^ (52 + k) : ℕ) := by
  have hvalue : ((2 ^ (52 + k) : ℕ) : WithTop ℚ) =
      (((2 ^ 52 : ℕ) * 2 ^ (k : ℤ) : ℚ) : WithTop ℚ) := by
    rw [← WithTop.coe_natCast, pow_add, Nat.cast_mul, Nat.cast_pow 2 k, zpow_natCast]
    rfl
  rw [h, hvalue]
  exact .finite hm le_rfl (by decide) (by omega) (by omega)

theorem Stands.value_eq (h : Stands u v) : (Binary.ofUnpacked u).value = v := by
  cases h <;> rfl

theorem ofFloat_eq (x : Float) : Binary.ofFloat x = .ofUnpacked x.toModel.unpack :=
  ofFields_toNat _

theorem Stands.floatValue_eq {x : Float} (h : Stands x.toModel.unpack v) : floatValue x = v := by
  rw [floatValue, ofFloat_eq, h.value_eq]

/-- A number of 53 digits is less than any with a greater exponent. -/
theorem mul_two_zpow_lt {m n : ℕ} {e f : ℤ} (hm : m < 2 ^ 53) (hn : 2 ^ 52 ≤ n) (h : e < f) :
    (m : ℚ) * 2 ^ e < n * 2 ^ f := by
  have hm' : (m : ℚ) < 2 ^ 53 := by exact_mod_cast hm
  have hn' : (2 ^ 52 : ℚ) ≤ n := by exact_mod_cast hn
  calc
    (m : ℚ) * 2 ^ e < 2 ^ 53 * 2 ^ e := mul_lt_mul_of_pos_right hm' (two_zpow_pos e)
    _ = 2 ^ 52 * 2 ^ (e + 1) := by
      rw [two_zpow_add]
      ring
    _ ≤ 2 ^ 52 * 2 ^ f :=
      mul_le_mul_of_nonneg_left (zpow_le_zpow_right₀ one_le_two h) (by positivity)
    _ ≤ n * 2 ^ f := mul_le_mul_of_nonneg_right hn' (two_zpow_pos f).le

/-- Floats compare as the numbers they stand for. -/
theorem Stands.exists_compare (hu : Stands u v) (hw : Stands w x) :
    ∃ o : Ordering, u.compare w = some o ∧ o.Compares v x := by
  cases hu with
  | infinite =>
      cases hw with
      | infinite => exact ⟨.eq, rfl, rfl⟩
      | finite => exact ⟨.gt, rfl, WithTop.coe_lt_top _⟩
  | @finite m e hm hlow hhigh =>
      cases hw with
      | infinite => exact ⟨.lt, rfl, WithTop.coe_lt_top _⟩
      | @finite n f hn hlow' hhigh' =>
          refine ⟨(compare e f).then (compare m n), rfl, ?_⟩
          rcases lt_trichotomy e f with he | rfl | he
          · rw [compare_lt_iff_lt.mpr he]
            exact WithTop.coe_lt_coe.mpr (mul_two_zpow_lt hhigh hlow' he)
          · rw [compare_eq_iff_eq.mpr rfl, Ordering.eq_then]
            rcases lt_trichotomy m n with hlt | rfl | hlt
            · rw [compare_lt_iff_lt.mpr hlt]
              exact WithTop.coe_lt_coe.mpr
                (mul_lt_mul_of_pos_right (by exact_mod_cast hlt) (two_zpow_pos e))
            · rw [compare_eq_iff_eq.mpr rfl]
              rfl
            · rw [compare_gt_iff_gt.mpr hlt]
              exact WithTop.coe_lt_coe.mpr
                (mul_lt_mul_of_pos_right (by exact_mod_cast hlt) (two_zpow_pos e))
          · rw [compare_gt_iff_gt.mpr he]
            exact WithTop.coe_lt_coe.mpr (mul_two_zpow_lt hhigh' hlow he)

theorem Stands.le_iff (hu : Stands u v) (hw : Stands w x) : u.le w = true ↔ v ≤ x := by
  obtain ⟨o, ho, hcompares⟩ := hu.exists_compare hw
  rw [UnpackedFloat.le, ho, ← hcompares.ne_gt]
  cases o <;> decide

theorem Stands.lt_iff (hu : Stands u v) (hw : Stands w x) : u.lt w = true ↔ v < x := by
  obtain ⟨o, ho, hcompares⟩ := hu.exists_compare hw
  rw [UnpackedFloat.lt, ho, ← hcompares.eq_lt]
  cases o <;> decide

theorem Stands.one_le (h : Stands u v) : 1 ≤ v := by
  cases h with
  | infinite => exact le_top
  | @finite m e hm hlow hhigh hmin =>
      have hm' : (2 ^ 52 : ℚ) ≤ m := by exact_mod_cast hlow
      have hone : (1 : ℚ) ≤ m * 2 ^ e :=
        calc
          (1 : ℚ) = 2 ^ 52 * 2 ^ (-52 : ℤ) := by norm_num
          _ ≤ m * 2 ^ e := mul_le_mul hm' (zpow_le_zpow_right₀ one_le_two hmin)
            (two_zpow_pos _).le (Nat.cast_nonneg m)
      exact_mod_cast hone

theorem float_le_iff (x y : Float) : x ≤ y ↔ x.toModel.unpack.le y.toModel.unpack = true :=
  decide_eq_true_iff

theorem float_lt_iff (x y : Float) : x < y ↔ x.toModel.unpack.lt y.toModel.unpack = true :=
  decide_eq_true_iff

theorem positive_of_one_le {s : Sign} {m : ℕ} {e : ℤ} {hm : 0 < m}
    (h : (1.0 : Float).toModel.unpack.le (.finite s m e hm) = true) : s = .positive ∧ -52 ≤ e := by
  cases s with
  | negative => exact absurd h Bool.false_ne_true
  | positive =>
      refine ⟨rfl, ?_⟩
      by_contra hlow
      change ((compare (-52) e).then (compare (2 ^ 52) m)).isLE = true at h
      rw [compare_gt_iff_gt.mpr (not_le.mp hlow)] at h
      exact absurd h Bool.false_ne_true

/-- What is compared with one and found no less is infinite or a number of 53 digits. -/
theorem stands_of_one_le {x : Float} (h : 1.0 ≤ x) : Stands x.toModel.unpack (floatValue x) := by
  suffices hstands : ∃ v, Stands x.toModel.unpack v by
    obtain ⟨v, hv⟩ := hstands
    rwa [hv.floatValue_eq]
  have hle := (float_le_iff _ _).mp h
  generalize hu : x.toModel.unpack = u at hle
  cases u with
  | infinity s =>
      cases s with
      | positive => exact ⟨_, .infinite⟩
      | negative => exact absurd hle Bool.false_ne_true
  | notANumber => exact absurd hle Bool.false_ne_true
  | zero s => exact absurd hle Bool.false_ne_true
  | finite s m e hm =>
      obtain ⟨hhigh, hmax, hdigits⟩ := unpack_canonical _ hu
      obtain ⟨rfl, hmin⟩ := positive_of_one_le hle
      exact ⟨_, .finite hm (by omega) hhigh hmin hmax⟩

theorem one_le_of_stands {x : Float} (h : Stands x.toModel.unpack v) : 1.0 ≤ x :=
  (float_le_iff _ _).mpr ((stands_one.le_iff h).mpr h.one_le)

end Stands

end ResilientChat.Decimal
