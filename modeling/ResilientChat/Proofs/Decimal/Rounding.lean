import ResilientChat.Proofs.Decimal.Nearest

/-!
How the arithmetic of floats rounds. The exact result is a mantissa and an exponent; digits are
shifted out until 53 are left, and two bits remember what was shifted out. For results that are at
least one this gives the nearest number of 53 digits, or an infinity where the exponent has no
place in 64 bits.
-/

namespace ResilientChat.Decimal

open Float.Model (Format UnpackedFloat totalExponent)
open Float.Model.UnpackedFloat (Accuracy ExtendedMantissa Sign)

section Shifting

variable {em : ExtendedMantissa} {x : ℚ}

/-- The mantissa is the whole part of `x`, and the two bits compare the rest with a half. -/
structure Shifted (em : ExtendedMantissa) (x : ℚ) : Prop where
  floor_eq : ⌊x⌋ = em.mantissa
  round_iff : em.roundBit = true ↔ 1 / 2 ≤ Int.fract x
  sticky_iff : em.stickyBit = true ↔ Int.fract x ≠ 0 ∧ Int.fract x ≠ 1 / 2

theorem shifted_natCast (m : ℕ) : Shifted (.ofMantissaAndAccuracy m .exact) m := by
  constructor <;> simp [ExtendedMantissa.ofMantissaAndAccuracy]

theorem Shifted.roundedMantissa_eq (h : Shifted em x) : (em.roundedMantissa : ℤ) = halfEven x := by
  obtain ⟨hfloor, hround, hsticky⟩ := h
  obtain ⟨m, round, sticky⟩ := em
  rw [halfEven, hfloor]
  cases round <;> cases sticky <;>
    simp only [Bool.false_eq_true, false_iff, true_iff, not_le, not_and_or, not_not]
      at hround hsticky
  case false.false | false.true => exact (if_pos hround).symm
  case true.false =>
    have hhalf : Int.fract x = 1 / 2 := by
      rcases hsticky with hzero | hhalf
      · linarith
      · exact hhalf
    rw [hhalf, if_neg (lt_irrefl _), if_neg (lt_irrefl _)]
    exact Nat.cast_add m (m % 2)
  case true.true =>
    rw [if_neg hround.not_gt, if_pos (hround.lt_of_ne' hsticky.2)]
    exact Nat.cast_succ m

theorem Shifted.shiftRightOne (h : Shifted em x) : Shifted em.shiftRightOne (x / 2) := by
  have hfloor : ⌊x / 2⌋ = (em.mantissa / 2 : ℕ) := by
    have hdiv := Int.floor_div_natCast x 2
    rw [h.floor_eq] at hdiv
    exact_mod_cast hdiv
  have hfract : Int.fract (x / 2) = ((em.mantissa % 2 : ℕ) + Int.fract x) / 2 := by
    have hsplit : (2 : ℚ) * (em.mantissa / 2 : ℕ) + (em.mantissa % 2 : ℕ) = em.mantissa := by
      exact_mod_cast Nat.div_add_mod em.mantissa 2
    rw [Int.fract, Int.fract, hfloor, h.floor_eq, Int.cast_natCast, Int.cast_natCast]
    linarith
  have hnonneg := Int.fract_nonneg x
  have hlt := Int.fract_lt_one x
  have hbit := Nat.mod_two_eq_zero_or_one em.mantissa
  refine ⟨hfloor, ?_, ?_⟩
  · -- The bit that is shifted out is the half.
    rw [hfract]
    simp only [ExtendedMantissa.shiftRightOne, bne_iff_ne]
    rcases hbit with hbit | hbit <;> rw [hbit] <;> push_cast
    · exact iff_of_false (by simp) (by linarith)
    · exact iff_of_true one_ne_zero (by linarith)
  · -- Whatever there was behind it counts as something else.
    have hrest : 1 / 2 ≤ Int.fract x ∨ Int.fract x ≠ 0 ∧ Int.fract x ≠ 1 / 2 ↔ Int.fract x ≠ 0 := by
      grind
    rw [hfract]
    simp only [ExtendedMantissa.shiftRightOne, Bool.or_eq_true, h.round_iff, h.sticky_iff, hrest]
    rcases hbit with hbit | hbit <;> rw [hbit] <;> push_cast <;> grind

theorem Shifted.shiftRight (h : Shifted em x) (k : ℕ) : Shifted (em >>> k) (x / 2 ^ k) := by
  change Shifted (Nat.repeat ExtendedMantissa.shiftRightOne k em) _
  induction k with
  | zero => simpa [Nat.repeat] using h
  | succ k ih =>
      rw [Nat.repeat, pow_succ, ← div_div]
      exact ih.shiftRightOne

end Shifting

section Rounding

theorem targetExponent_eq {m : ℕ} {e : ℤ} (h : -1022 ≤ m.log2 + e) :
    Format.binary64.targetExponent (totalExponent m e) = m.log2 + e - 52 := by
  have hbits : (Format.binary64.mantissaBits : ℤ) = 53 := rfl
  have hmin : Format.binary64.minExponent = -1074 := rfl
  rw [Format.targetExponent, totalExponent, hbits, hmin]
  omega

/-- A mantissa of more than 52 digits is shifted until 53 digits are left. -/
theorem shiftToTargetExponent_eq {m : ℕ} {e : ℤ} (hm : 52 ≤ m.log2) (h : -1022 ≤ m.log2 + e) :
    UnpackedFloat.shiftToTargetExponent Format.binary64 m e .exact =
      (ExtendedMantissa.ofMantissaAndAccuracy m .exact >>> (m.log2 - 52),
        e + (m.log2 - 52 : ℕ)) := by
  have hshift : (m.log2 + e - 52 - e).toNat = m.log2 - 52 := by omega
  simp only [UnpackedFloat.shiftToTargetExponent, targetExponent_eq h,
    UnpackedFloat.shiftToExponent, hshift]

theorem log_eq_log2 {m : ℕ} (hm : m ≠ 0) (e : ℤ) : Int.log 2 ((m : ℚ) * 2 ^ e) = m.log2 + e := by
  have hpos := two_zpow_pos e
  have hlow : (2 : ℚ) ^ m.log2 ≤ m := by exact_mod_cast Nat.log2_self_le hm
  have hhigh : (m : ℚ) < 2 ^ (m.log2 + 1) := by exact_mod_cast Nat.lt_log2_self
  apply log_eq
  · rw [two_zpow_add, zpow_natCast]
    exact mul_le_mul_of_nonneg_right hlow hpos.le
  · rw [add_right_comm, two_zpow_add, ← Nat.cast_succ, zpow_natCast]
    exact mul_lt_mul_of_pos_right hhigh hpos

theorem log2_of_digits {m : ℕ} (hlow : 2 ^ 52 ≤ m) (hhigh : m < 2 ^ 53) : m.log2 = 52 :=
  (Nat.log2_eq_iff (by omega)).mpr ⟨hlow, hhigh⟩

/-- A mantissa is shifted twice: before it is rounded, and after rounding has made it longer. -/
theorem roundWithAccuracy_of_shifts {m : ℕ} {e p q : ℤ} {first second : ExtendedMantissa}
    (hfirst : UnpackedFloat.shiftToTargetExponent Format.binary64 m e .exact = (first, p))
    (hsecond : UnpackedFloat.shiftToTargetExponent Format.binary64 first.roundedMantissa p .exact =
      (second, q))
    (hpos : 0 < second.mantissa) (s : Sign) :
    UnpackedFloat.roundWithAccuracy Format.binary64 s m e .exact =
      .finite s second.mantissa q hpos := by
  rw [UnpackedFloat.roundWithAccuracy, hfirst]
  dsimp only
  rw [hsecond]
  exact dif_neg hpos.ne'

/-- Rounding makes a mantissa longer only if it carries through to the next power of two, and then
nothing is lost by the second shift. -/
theorem shift_rounded {r : ℕ} {p : ℤ} (hlow : 2 ^ 52 ≤ r) (hhigh : r ≤ 2 ^ 53) (hp : -1074 ≤ p) :
    ∃ (second : ExtendedMantissa) (q : ℤ),
      UnpackedFloat.shiftToTargetExponent Format.binary64 r p .exact = (second, q) ∧
      2 ^ 52 ≤ second.mantissa ∧ second.mantissa < 2 ^ 53 ∧ p ≤ q ∧
      (second.mantissa : ℚ) * 2 ^ q = r * 2 ^ p := by
  have hlog : 52 ≤ r.log2 := (Nat.le_log2 (by omega)).mpr hlow
  refine ⟨_, _, shiftToTargetExponent_eq hlog (by omega), ?_⟩
  rcases hhigh.lt_or_eq with hlt | rfl
  · rw [log2_of_digits hlow hlt]
    exact ⟨hlow, hlt, by simp, by simp [HShiftRight.hShiftRight, Nat.repeat,
      ExtendedMantissa.ofMantissaAndAccuracy]⟩
  · rw [Nat.log2_two_pow, two_zpow_add]
    have hmantissa : (ExtendedMantissa.ofMantissaAndAccuracy (2 ^ 53) .exact >>>
        (53 - 52)).mantissa = 2 ^ 52 := rfl
    rw [hmantissa]
    refine ⟨le_rfl, by norm_num, by simp, ?_⟩
    push_cast
    ring

/-- Rounding an exact product that is at least one gives the nearest number of 53 digits. -/
theorem roundWithAccuracy_eq {m : ℕ} {e : ℤ} (hm : 2 ^ 52 ≤ m) (hone : 1 ≤ (m : ℚ) * 2 ^ e)
    (s : Sign) :
    ∃ (n : ℕ) (p : ℤ) (hn : 0 < n), 2 ^ 52 ≤ n ∧ n < 2 ^ 53 ∧ -52 ≤ p ∧
      UnpackedFloat.roundWithAccuracy Format.binary64 s m e .exact = .finite s n p hn ∧
      (n : ℚ) * 2 ^ p = nearest (m * 2 ^ e) := by
  have hpos : (0 : ℚ) < m * 2 ^ e := one_pos.trans_le hone
  have hlog2 : 52 ≤ m.log2 := (Nat.le_log2 (by omega)).mpr hm
  have hlog := log_eq_log2 (show m ≠ 0 by omega) e
  have hnonneg : 0 ≤ Int.log 2 ((m : ℚ) * 2 ^ e) :=
    (Int.zpow_le_iff_le_log Nat.one_lt_two hpos).mp (by simpa using hone)
  have hplace : e + (m.log2 - 52 : ℕ) = lastPlace (m * 2 ^ e) := by
    rw [lastPlace, hlog]
    omega
  have hlast : -52 ≤ lastPlace ((m : ℚ) * 2 ^ e) := by
    rw [lastPlace]
    omega
  have hround := ((shifted_natCast m).shiftRight (m.log2 - 52)).roundedMantissa_eq
  have hscaled : (m : ℚ) / 2 ^ (m.log2 - 52) = m * 2 ^ e / 2 ^ lastPlace (m * 2 ^ e) := by
    rw [← hplace, two_zpow_add, zpow_natCast, mul_comm (m : ℚ),
      mul_div_mul_left _ _ (two_zpow_pos e).ne']
  have hfirst := shiftToTargetExponent_eq hlog2 (by omega : -1022 ≤ m.log2 + e)
  rw [hplace] at hfirst
  rw [hscaled] at hround
  generalize ExtendedMantissa.ofMantissaAndAccuracy m .exact >>> (m.log2 - 52) = first
    at hfirst hround
  have hnearest : nearest (m * 2 ^ e) =
      first.roundedMantissa * 2 ^ lastPlace (m * 2 ^ e) := by
    rw [nearest, ← hround, Int.cast_natCast]
  have hbounds := halfEven_scaled_mem hpos
  rw [← hround] at hbounds
  obtain ⟨hlow, hhigh⟩ : 2 ^ 52 ≤ first.roundedMantissa ∧ first.roundedMantissa ≤ 2 ^ 53 := by
    exact_mod_cast hbounds
  obtain ⟨second, q, hsecond, hlow', hhigh', hq, hvalue⟩ :=
    shift_rounded hlow hhigh (by omega : -1074 ≤ lastPlace ((m : ℚ) * 2 ^ e))
  exact ⟨second.mantissa, q, by omega, hlow', hhigh', hlast.trans hq,
    roundWithAccuracy_of_shifts hfirst hsecond (by omega) s, hvalue.trans hnearest.symm⟩

end Rounding

section Packing

variable {m : ℕ} {e : ℤ}

/-- A number of 53 digits is packed as it is, unless its exponent is too great. -/
theorem pack_normal (hm : 0 < m) (hlow : 2 ^ 52 ≤ m) (hhigh : m < 2 ^ 53) (he : -1074 ≤ e)
    (s : Sign) :
    UnpackedFloat.pack Format.binary64 (.finite s m e hm) =
      if e ≤ 971 then
        UnpackedFloat.packComponents Format.binary64 s (BitVec.ofNat 11 (e + 1075).toNat)
          (BitVec.ofNat 52 m)
      else UnpackedFloat.packedInfinity Format.binary64 s := by
  have hbiased :
      (e + (Format.binary64.exponentBias : ℤ) + (52 : ℕ)).toNat = (e + 1075).toNat := by
    have hbias : (Format.binary64.exponentBias : ℤ) = 1023 := rfl
    omega
  have hfits : 2 ^ 11 ≤ (e + 1075).toNat + 1 ↔ ¬e ≤ 971 := by omega
  have hnormal : m.log2 + 1 = Format.binary64.mantissaBits := by
    rw [log2_of_digits hlow hhigh]
    rfl
  unfold UnpackedFloat.pack
  dsimp only
  rw [hbiased, if_pos hnormal, if_congr hfits rfl rfl, ite_not]

theorem toNat_append_one (v : BitVec 52) : (1#1 ++ v).toNat = 2 ^ 52 + v.toNat := by
  rw [BitVec.toNat_append, ← Nat.shiftLeft_add_eq_or_of_lt v.isLt]
  rfl

/-- The sign stands above the exponent and the mantissa, and is read back from there. -/
theorem ofBitVec_unpackSign_packComponents (s : Sign) (exponent : BitVec 11) (v : BitVec 52) :
    Sign.ofBitVec (UnpackedFloat.unpackSign
      (UnpackedFloat.packComponents Format.binary64 s exponent v)) = s := by
  have htop : (s.toBitVec ++ exponent ++ v).extractLsb' 63 1 = s.toBitVec := by
    rw [BitVec.extractLsb'_append_eq_of_le (by decide),
      BitVec.extractLsb'_append_eq_of_le (by decide)]
    exact BitVec.extractLsb'_eq_self
  change Sign.ofBitVec ((s.toBitVec ++ exponent ++ v).extractLsb' 63 1) = s
  rw [htop]
  cases s <;> rfl

section Bits

variable {b : BitVec Format.binary64.numBits}

theorem unpack_of_greatest (hexponent : UnpackedFloat.unpackExponent b = -1#_)
    (hmantissa : UnpackedFloat.unpackMantissa b = 0#_) :
    UnpackedFloat.unpack Format.binary64 b =
      .infinity (Sign.ofBitVec (UnpackedFloat.unpackSign b)) := by
  unfold UnpackedFloat.unpack
  dsimp only
  rw [if_pos hexponent, if_pos hmantissa]

/-- Apart from the least and the greatest exponent, a digit one stands in front of the mantissa. -/
theorem unpack_of_between (hinfinite : UnpackedFloat.unpackExponent b ≠ -1#_)
    (hsubnormal : UnpackedFloat.unpackExponent b ≠ 0#_) :
    ∃ hm, UnpackedFloat.unpack Format.binary64 b =
      .finite (Sign.ofBitVec (UnpackedFloat.unpackSign b))
        (1#1 ++ UnpackedFloat.unpackMantissa b).toNat
        ((UnpackedFloat.unpackExponent b).toNat - 1075) hm := by
  have hpos : 0 < (1#1 ++ UnpackedFloat.unpackMantissa b).toNat := by
    rw [toNat_append_one]
    omega
  refine ⟨hpos, ?_⟩
  unfold UnpackedFloat.unpack
  dsimp only
  rw [if_neg hinfinite, if_neg hsubnormal]
  rfl

end Bits

theorem unpack_packedInfinity (s : Sign) :
    UnpackedFloat.unpack Format.binary64 (UnpackedFloat.packedInfinity Format.binary64 s) =
      .infinity s := by
  have hunpack := unpack_of_greatest (b := UnpackedFloat.packedInfinity Format.binary64 s)
    UnpackedFloat.unpackExponent_packComponents UnpackedFloat.unpackMantissa_packComponents
  exact hunpack.trans (congrArg _ (ofBitVec_unpackSign_packComponents s _ _))

theorem toNat_ne_of_lt {n : ℕ} {v : BitVec 11} (hn : n < 2 ^ 11) (h : v.toNat ≠ n) :
    BitVec.ofNat 11 n ≠ v := by
  rintro rfl
  exact h (Nat.mod_eq_of_lt hn)

/-- What has been packed is read back; what has no place reads as infinite. -/
theorem unpack_pack_normal (hm : 0 < m) (hlow : 2 ^ 52 ≤ m) (hhigh : m < 2 ^ 53) (he : -1074 ≤ e)
    (s : Sign) :
    UnpackedFloat.unpack Format.binary64
        (UnpackedFloat.pack Format.binary64 (.finite s m e hm)) =
      if e ≤ 971 then .finite s m e hm else .infinity s := by
  rw [pack_normal hm hlow hhigh he]
  by_cases hmax : e ≤ 971
  · rw [if_pos hmax, if_pos hmax]
    -- The biased exponent is neither of the two that have a meaning of their own.
    have hlt : (e + 1075).toNat < 2 ^ 11 := by omega
    have hinfinite : BitVec.ofNat 11 (e + 1075).toNat ≠ -1#11 :=
      toNat_ne_of_lt hlt (by change 2047 ≠ (e + 1075).toNat; omega)
    have hsubnormal : BitVec.ofNat 11 (e + 1075).toNat ≠ 0#11 :=
      toNat_ne_of_lt hlt (by change 0 ≠ (e + 1075).toNat; omega)
    have hmantissa : (1#1 ++ BitVec.ofNat 52 m).toNat = m := by
      rw [toNat_append_one, BitVec.toNat_ofNat]
      omega
    have hexponent : (BitVec.ofNat 11 (e + 1075).toNat).toNat = (e + 1075).toNat :=
      Nat.mod_eq_of_lt hlt
    obtain ⟨_, hunpack⟩ :=
      unpack_of_between (UnpackedFloat.unpackExponent_packComponents.trans_ne hinfinite)
        (UnpackedFloat.unpackExponent_packComponents.trans_ne hsubnormal)
    rw [hunpack, UnpackedFloat.finite.injEq, UnpackedFloat.unpackMantissa_packComponents,
      UnpackedFloat.unpackExponent_packComponents, hexponent]
    exact ⟨ofBitVec_unpackSign_packComponents .., hmantissa, by omega⟩
  · rw [if_neg hmax, if_neg hmax]
    exact unpack_packedInfinity s

end Packing

end ResilientChat.Decimal
