import ResilientChat.Retry.Backoff
import Mathlib.Order.Interval.Set.Basic

/-!
How far jitter shortens a pause. What is drawn lies in the upper quarter of the pause, and every
number of nanoseconds there can be drawn, as long as the pause fits 64 bits. A longer pause is cut
to 64 bits before its quarter is taken, and is drawn too short.
-/

namespace ResilientChat

namespace Backoff

section Band

variable {d : Duration}

theorem band_fst_le (d : Duration) : (band d).1 ≤ (band d).2 := Nat.sub_le _ _

theorem band_snd_le (d : Duration) : (band d).2 ≤ d := min_le_left _ _

theorem band_of_le (h : d ≤ drawLimit) : band d = (d - d / 4, d) := by
  simp only [band, min_eq_left h]

/-- Only a pause of less than four nanoseconds has a band of one number, and that is the pause. -/
theorem band_snd_eq (h : (band d).2 ≤ (band d).1) : (band d).2 = d := by
  have hsmall : ∀ n limit : Nat, 4 ≤ limit → min n limit ≤ min n limit - min n limit / 4 →
      min n limit = n := by
    omega
  exact hsmall d drawLimit (by decide) h

theorem jittered_eq (draw : Nat) (d : Duration) :
    jittered draw d =
      if (band d).2 ≤ (band d).1 then d
      else (band d).1 + draw % ((band d).2 - (band d).1 + 1) :=
  rfl

theorem jittered_mem_band (draw : Nat) (d : Duration) :
    jittered draw d ∈ Set.Icc (band d).1 (band d).2 := by
  rw [jittered_eq]
  split
  · next hone =>
    exact ⟨(band_fst_le d).trans (band_snd_eq hone).le, (band_snd_eq hone).ge⟩
  · have hlt := Nat.mod_lt draw (Nat.succ_pos ((band d).2 - (band d).1))
    exact ⟨Nat.le_add_right _ _, Nat.add_le_of_le_sub' (band_fst_le d) (Nat.le_of_lt_succ hlt)⟩

/-- Every number of the band is drawn. -/
theorem exists_jittered {n : Duration} (h : n ∈ Set.Icc (band d).1 (band d).2) :
    ∃ draw, jittered draw d = n := by
  obtain ⟨hlow, hhigh⟩ := h
  refine ⟨n - (band d).1, ?_⟩
  rw [jittered_eq]
  split
  · next hone =>
    rw [← band_snd_eq hone]
    exact Nat.le_antisymm (hone.trans hlow) hhigh
  · rw [Nat.mod_eq_of_lt (Nat.lt_succ_of_le (Nat.sub_le_sub_right hhigh _)),
      Nat.add_sub_cancel' hlow]

theorem range_jittered (d : Duration) :
    Set.range (jittered · d) = Set.Icc (band d).1 (band d).2 := by
  ext n
  refine ⟨?_, exists_jittered⟩
  rintro ⟨draw, rfl⟩
  exact jittered_mem_band draw d

/-- The band ends no more than a quarter below the pause exactly if the pause fits 64 bits, or is
longer by no more than one nanosecond. -/
theorem sub_quarter_le_iff (d : Duration) : d - d / 4 ≤ (band d).1 ↔ d ≤ UInt64.size := by
  have hcut : ∀ n : Nat,
      n - n / 4 ≤ min n (2 ^ 64 - 1) - min n (2 ^ 64 - 1) / 4 ↔ n ≤ 2 ^ 64 := by
    omega
  exact hcut d

/-- All draws lie in the upper quarter of the pause exactly if the least of the band does. -/
theorem forall_jittered_mem_iff (d : Duration) :
    (∀ draw, jittered draw d ∈ Set.Icc (d - d / 4) d) ↔ d ≤ UInt64.size := by
  rw [← sub_quarter_le_iff]
  constructor
  · intro h
    obtain ⟨draw, hdraw⟩ := exists_jittered ⟨Nat.le_refl _, band_fst_le d⟩
    rw [← hdraw]
    exact (h draw).1
  · intro hleast draw
    obtain ⟨hlow, hhigh⟩ := jittered_mem_band draw d
    exact ⟨hleast.trans hlow, hhigh.trans (band_snd_le d)⟩

theorem jittered_lt_size (draw : Nat) (d : Duration) : jittered draw d < UInt64.size :=
  calc
    jittered draw d ≤ (band d).2 := (jittered_mem_band draw d).2
    _ ≤ drawLimit := min_le_right _ _
    _ < UInt64.size := by decide

end Band

section Bits

def nanos (d : Duration) : UInt64 := .ofNat (min d drawLimit)

theorem toNat_nanos (d : Duration) : (nanos d).toNat = (band d).2 :=
  UInt64.toNat_ofNat_of_lt' (Nat.lt_of_le_of_lt (min_le_right _ _) (by decide))

theorem quarter_le (x : UInt64) : x / 4 ≤ x := by
  rw [UInt64.le_iff_toNat_le, UInt64.toNat_div]
  exact Nat.div_le_self _ _

/-- The quarter taken off in 64 bits is the quarter of the number. -/
theorem toNat_sub_quarter (d : Duration) :
    (nanos d - nanos d / 4).toNat = (band d).1 := by
  rw [UInt64.toNat_sub_of_le _ _ (quarter_le _), UInt64.toNat_div, toNat_nanos]
  rfl

end Bits

/-- What is drawn for the pause after an attempt. The pause `d` without jitter is cut to 64 bits and
a quarter is taken off; the quarter is no more than there is, so nothing wraps, and there is always
something to draw, namely all numbers from what is left up to the pause that was cut. A pause that
fits 64 bits is not cut, and its whole upper quarter is drawn from. What is drawn lies in the upper
quarter of the pause exactly if the pause is no longer than `2 ^ 64` nanoseconds, and for a pause
with an upper quarter above that it never does. -/
theorem drawn_from_upper_quarter_iff (b : Backoff) (hjitter : b.jitter = true) (attempt : Nat) :
    ∃ d : Duration,
      (∀ draw, ({ b with jitter := false }).delay draw attempt = d) ∧
      (nanos d).toNat = min d (UInt64.size - 1) ∧ nanos d / 4 ≤ nanos d ∧
      nanos d - nanos d / 4 ≤ nanos d ∧
      Set.range (b.delay · attempt) = Set.Icc (nanos d - nanos d / 4).toNat (nanos d).toNat ∧
      (d < UInt64.size → Set.range (b.delay · attempt) = Set.Icc (d - d / 4) d) ∧
      ((∀ draw, b.delay draw attempt ∈ Set.Icc (d - d / 4) d) ↔ d ≤ UInt64.size) ∧
      (UInt64.size ≤ d - d / 4 → ∀ draw, b.delay draw attempt < d - d / 4) := by
  let d := b.pause attempt
  have hdelay (draw : Nat) : b.delay draw attempt = jittered draw d := if_pos hjitter
  have hrange : Set.range (b.delay · attempt) = Set.Icc (band d).1 (band d).2 := by
    simp only [hdelay, range_jittered]
  refine ⟨d, fun _ => rfl, toNat_nanos d, quarter_le _, ?_, ?_, fun hshort => ?_, ?_,
    fun hlong draw => ?_⟩
  · rw [UInt64.le_iff_toNat_le, toNat_sub_quarter, toNat_nanos]
    exact band_fst_le d
  · rw [hrange, toNat_sub_quarter, toNat_nanos]
  · rw [hrange, band_of_le (Nat.le_sub_one_of_lt hshort)]
  · simp only [hdelay]
    exact forall_jittered_mem_iff d
  · rw [hdelay]
    exact (jittered_lt_size draw d).trans_le hlong

/-- The second pause of this backoff is 800 ms. -/
def doublingPauses : Backoff :=
  { doubling 10 (.ofMillis 400) (.ofSeconds 1) with jitter := true }

theorem second_pause_drawn_in_full :
    Set.range (doublingPauses.delay · 2) = Set.Icc 600000000 800000000 := by
  obtain ⟨d, hd, -, -, -, -, hshort, -⟩ := drawn_from_upper_quarter_iff doublingPauses rfl 2
  have h800 : d = 800000000 := by
    rw [← hd 0]
    decide +kernel
  subst h800
  exact hshort (by decide)

def unboundedPauses : Backoff :=
  { retries := 1, first := .ofSeconds 1, ceiling := none, jitter := true }

/-- After the 64th attempt its pause is the longest there is, and what is drawn is shorter by more
than a quarter. -/
theorem longest_pause_drawn_short :
    ({ unboundedPauses with jitter := false }).delay 0 64 = Duration.max ∧
      unboundedPauses.delay 0 64 < Duration.max - Duration.max / 4 := by
  decide +kernel

end Backoff

end ResilientChat
