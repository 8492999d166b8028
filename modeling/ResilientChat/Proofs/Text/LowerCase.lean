import Mathlib.Data.List.Basic
import ResilientChat.Text.LowerCase

/-!
What lower case does to a text. The letters beyond ASCII are moved by a table, and no row of it ends
where a row begins or among the capitals of ASCII; so lower case leaves no capital, and lower case
of lower case is lower case. A class of characters without letters keeps its members and gets no
new ones, and the capitals of ASCII may as well be put in lower case first.
-/

namespace ResilientChat.Text

section Letters

variable {c d : Char}

theorem isUpper_iff_toNat : c.isUpper = true ↔ 65 ≤ c.toNat ∧ c.toNat ≤ 90 := by
  have hA : 'A'.val.toNat = 65 := rfl
  have hZ : 'Z'.val.toNat = 90 := rfl
  have hc : c.val.toNat = c.toNat := rfl
  unfold Char.isUpper
  simp only [decide_eq_true_eq, ge_iff_le, UInt32.le_iff_toNat_le, hA, hZ, hc]

theorem toNat_toLower_of_isUpper (h : c.isUpper = true) : c.toLower.toNat = c.toNat + 32 := by
  have hcapital : c.val ≥ 'A'.val ∧ c.val ≤ 'Z'.val := of_decide_eq_true h
  have hlt : c.toNat + 32 < 2 ^ 32 := by
    have := (isUpper_iff_toNat.mp h).2
    omega
  unfold Char.toLower
  rw [dif_pos hcapital]
  change (c.val + 32).toNat = c.toNat + 32
  rw [UInt32.toNat_add]
  exact Nat.mod_eq_of_lt hlt

theorem toLower_of_not_isUpper (h : ¬c.isUpper = true) : c.toLower = c :=
  dif_neg fun hcapital => h (decide_eq_true hcapital)

theorem not_isUpper_toLower (c : Char) : ¬c.toLower.isUpper = true := by
  by_cases hupper : c.isUpper = true
  · have hA := (isUpper_iff_toNat.mp hupper).1
    rw [isUpper_iff_toNat, toNat_toLower_of_isUpper hupper]
    omega
  · rwa [toLower_of_not_isUpper hupper]

theorem toLower_toLower (c : Char) : c.toLower.toLower = c.toLower :=
  toLower_of_not_isUpper (not_isUpper_toLower c)

theorem lowerChar_of_ascii (h : c.toNat < 128) : lowerChar c = [c.toLower] := by
  have hval : c.val < 0x80 := UInt32.lt_iff_toNat_lt.mpr h
  exact if_pos hval

/-- Where each row ends: among the characters, and clear of ASCII's capitals and of `İ`. -/
theorem caseRuns_end : ∀ run ∈ caseRuns,
    (97 ≤ run.first + run.shift ∧ run.last + run.shift < 0xD800 ∨
      0xDFFF < run.first + run.shift ∧ run.last + run.shift < 0x110000) ∧
      (run.last + run.shift < 0x130 ∨ 0x130 < run.first + run.shift) := by
  decide +kernel

/-- The row holds nothing from `first` to `last`. If only every other code point is meant, a row
that takes every other one may lie between them. -/
def CaseRun.misses (run : CaseRun) (first last : Nat) (alternate : Bool) : Bool :=
  Nat.blt last run.first || Nat.blt run.last first ||
    alternate && run.step == 2 && first % 2 != run.first % 2

/-- No row ends where a row begins. -/
theorem caseRuns_miss : (caseRuns.all fun run => caseRuns.all
    (·.misses (run.first + run.shift).toNat (run.last + run.shift).toNat
      (run.step == 2 || run.first == run.last))) = true := by
  decide +kernel

theorem CaseRun.not_holds_of_misses {run other : CaseRun} {c d : Char} (hholds : run.holds c = true)
    (hd : (d.toNat : Int) = c.toNat + run.shift) (hvalid : 0 ≤ run.first + run.shift)
    (hmiss : other.misses (run.first + run.shift).toNat (run.last + run.shift).toNat
      (run.step == 2 || run.first == run.last) = true) : other.holds d = false := by
  rw [Bool.eq_false_iff]
  intro hmeets
  simp only [holds, Bool.and_eq_true, decide_eq_true_eq, beq_iff_eq] at hholds hmeets
  obtain ⟨⟨hfirst, hlast⟩, hstep⟩ := hholds
  obtain ⟨⟨hfrom, hto⟩, hmod⟩ := hmeets
  simp only [misses, Bool.or_eq_true, Bool.and_eq_true, Nat.blt_eq, beq_iff_eq, bne_iff_ne] at hmiss
  rcases hmiss with (hbelow | habove) | ⟨⟨htwo | hone, hother⟩, hparity⟩
  · omega
  · omega
  · rw [htwo] at hstep
    rw [hother] at hmod
    omega
  · rw [hother] at hmod
    omega

/-- What lower case makes of a character: itself, the small letter of a capital of ASCII, a part of
the dotted I, or the character that a row of the table leads to. -/
theorem mem_lowerChar (h : d ∈ lowerChar c) :
    lowerChar c = [c] ∧ d = c ∨ c.isUpper = true ∧ d = c.toLower ∨
      c = 'İ' ∧ (d = 'i' ∨ d = '\u0307') ∨
        ∃ run ∈ caseRuns, run.holds c = true ∧ (d.toNat : Int) = c.toNat + run.shift := by
  by_cases hascii : c.toNat < 128
  · rw [lowerChar_of_ascii hascii] at h ⊢
    rw [List.mem_singleton] at h
    by_cases hupper : c.isUpper = true
    · exact .inr (.inl ⟨hupper, h⟩)
    · rw [toLower_of_not_isUpper hupper] at h ⊢
      exact .inl ⟨rfl, h⟩
  · have hval : ¬ c.val < 0x80 := fun hlt => hascii (UInt32.lt_iff_toNat_lt.mp hlt)
    rw [lowerChar, if_neg hval] at h ⊢
    by_cases hI : c = 'İ'
    · rw [if_pos hI] at h
      exact .inr (.inr (.inl ⟨hI, by simpa using h⟩))
    · rw [if_neg hI] at h ⊢
      cases hrun : caseRuns.find? (·.holds c) with
      | none =>
          rw [hrun] at h
          exact .inl ⟨rfl, List.mem_singleton.mp h⟩
      | some run =>
          rw [hrun] at h
          have hmem := List.mem_of_find?_eq_some hrun
          have hholds := List.find?_some hrun
          refine .inr (.inr (.inr ⟨run, hmem, hholds, ?_⟩))
          have hends := (caseRuns_end run hmem).1
          simp only [CaseRun.holds, Bool.and_eq_true, decide_eq_true_eq] at hholds
          have hvalid : (c.toNat + run.shift).toNat.isValidChar := by
            unfold Nat.isValidChar
            omega
          have hcode : (Char.ofNat (c.toNat + run.shift).toNat).toNat =
              (c.toNat + run.shift).toNat := by
            rw [Char.ofNat, dif_pos hvalid]
            rfl
          rw [List.mem_singleton.mp h, hcode]
          omega

/-- What lower case gives has its own lower case. -/
theorem lowerChar_of_mem (h : d ∈ lowerChar c) : lowerChar d = [d] := by
  rcases mem_lowerChar h with
    ⟨hsame, rfl⟩ | ⟨hupper, rfl⟩ | ⟨rfl, rfl | rfl⟩ | ⟨run, hrun, hholds, hshift⟩
  · exact hsame
  · have hascii : c.toLower.toNat < 128 := by
      rw [toNat_toLower_of_isUpper hupper]
      have := (isUpper_iff_toNat.mp hupper).2
      omega
    rw [lowerChar_of_ascii hascii, toLower_toLower]
  · decide
  · decide +kernel
  · obtain ⟨hvalid, hdotted⟩ := caseRuns_end run hrun
    have hspan := hholds
    simp only [CaseRun.holds, Bool.and_eq_true, decide_eq_true_eq] at hspan
    by_cases hascii : d.toNat < 128
    · have hupper : ¬ d.isUpper = true := by
        rw [isUpper_iff_toNat]
        omega
      rw [lowerChar_of_ascii hascii, toLower_of_not_isUpper hupper]
    · have hval : ¬ d.val < 0x80 := fun hlt => hascii (UInt32.lt_iff_toNat_lt.mp hlt)
      have hI : d ≠ 'İ' := by
        rintro rfl
        have : 'İ'.toNat = 0x130 := rfl
        omega
      have hnone : caseRuns.find? (·.holds d) = none := by
        refine List.find?_eq_none.mpr fun other hother => Bool.eq_false_iff.mp ?_
        have hmiss := List.all_eq_true.mp (List.all_eq_true.mp caseRuns_miss run hrun) other hother
        exact CaseRun.not_holds_of_misses hholds hshift (by omega) hmiss
      rw [lowerChar, if_neg hval, if_neg hI, hnone]

end Letters

section Texts

variable {before rest cs ds : List Char} {c d : Char}

def loweredAt (before : List Char) (c : Char) (rest : List Char) : List Char :=
  if c = 'Σ' then if meetsCased before && !meetsCased rest then ['ς'] else ['σ'] else lowerChar c

theorem lowerFrom_cons (before : List Char) (c : Char) (rest : List Char) :
    lowerFrom before (c :: rest) = loweredAt before c rest ++ lowerFrom (c :: before) rest := rfl

theorem loweredAt_of_settled (h : lowerChar c = [c]) : loweredAt before c rest = [c] := by
  have hsigma : c ≠ 'Σ' := by
    rintro rfl
    exact absurd h (by decide +kernel)
  rw [loweredAt, if_neg hsigma, h]

theorem lowerChar_ne_nil (c : Char) : lowerChar c ≠ [] := by
  unfold lowerChar
  repeat' split
  all_goals simp

theorem loweredAt_ne_nil : loweredAt before c rest ≠ [] := by
  unfold loweredAt
  split
  · split <;> simp
  · exact lowerChar_ne_nil c

theorem settled_of_mem_loweredAt (h : d ∈ loweredAt before c rest) : lowerChar d = [d] := by
  unfold loweredAt at h
  split at h
  · split at h <;> rw [List.mem_singleton.mp h] <;> decide +kernel
  · exact lowerChar_of_mem h

theorem settled_of_mem_lowerFrom (h : d ∈ lowerFrom before cs) : lowerChar d = [d] := by
  induction cs generalizing before with
  | nil => cases h
  | cons c rest ih =>
      rw [lowerFrom_cons] at h
      rcases List.mem_append.mp h with hhead | hrest
      · exact settled_of_mem_loweredAt hhead
      · exact ih hrest

theorem lowerFrom_of_settled (h : ∀ c ∈ cs, lowerChar c = [c]) : lowerFrom before cs = cs := by
  induction cs generalizing before with
  | nil => rfl
  | cons c rest ih =>
      rw [lowerFrom_cons, loweredAt_of_settled (h c (List.mem_cons_self ..)),
        ih fun c hc => h c (List.mem_cons_of_mem _ hc)]
      rfl

theorem lowerFrom_lowerFrom (before others cs : List Char) :
    lowerFrom others (lowerFrom before cs) = lowerFrom before cs :=
  lowerFrom_of_settled fun _ => settled_of_mem_lowerFrom

/-! Classes of characters that hold no letter. -/

/-- The places of the letters that lower case changes, and of what it changes them to. -/
def caseSpans : Ranges :=
  [(65, 90), (97, 122), (0x130, 0x130), (0x307, 0x307), (0x3A3, 0x3A3), (0x3C2, 0x3C3)] ++
    caseRuns.flatMap fun run =>
      [(run.first, run.last), ((run.first + run.shift).toNat, (run.last + run.shift).toNat)]

def HasCase (c : Char) : Prop := ∃ span ∈ caseSpans, span.1 ≤ c.toNat ∧ c.toNat ≤ span.2

theorem hasCase_of_holds {run : CaseRun} {c d : Char} (hrun : run ∈ caseRuns)
    (hholds : run.holds c = true) (hd : (d.toNat : Int) = c.toNat + run.shift) :
    HasCase c ∧ HasCase d := by
  simp only [CaseRun.holds, Bool.and_eq_true, decide_eq_true_eq] at hholds
  have hspans : ∀ span ∈ [(run.first, run.last),
      ((run.first + run.shift).toNat, (run.last + run.shift).toNat)], span ∈ caseSpans :=
    fun span hspan => List.mem_append_right _ (List.mem_flatMap.mpr ⟨run, hrun, hspan⟩)
  refine ⟨⟨_, hspans _ (List.mem_cons_self ..), ?_⟩,
    ⟨_, hspans _ (List.mem_cons_of_mem _ (List.mem_cons_self ..)), ?_⟩⟩ <;> simp only <;> omega

theorem settled_or_hasCase {c d : Char} (h : d ∈ lowerChar c) :
    lowerChar c = [c] ∧ d = c ∨ HasCase c ∧ HasCase d := by
  have hspans : ∀ span ∈ [(65, 90), (97, 122), (0x130, 0x130), (0x307, 0x307)],
      span ∈ caseSpans := fun span hspan => List.mem_append_left _ (by revert span; decide)
  rcases mem_lowerChar h with hsame | ⟨hupper, rfl⟩ | ⟨rfl, hd⟩ | ⟨run, hrun, hholds, hshift⟩
  · exact .inl hsame
  · have hlower := toNat_toLower_of_isUpper hupper
    have hspan := isUpper_iff_toNat.mp hupper
    refine .inr ⟨⟨(65, 90), hspans _ (by decide), ?_⟩, ⟨(97, 122), hspans _ (by decide), ?_⟩⟩ <;>
      simp only <;> omega
  · refine .inr ⟨⟨(0x130, 0x130), hspans _ (by decide), by decide, by decide⟩, ?_⟩
    rcases hd with rfl | rfl
    · exact ⟨(97, 122), hspans _ (by decide), by decide, by decide⟩
    · exact ⟨(0x307, 0x307), hspans _ (by decide), by decide, by decide⟩
  · exact .inr (hasCase_of_holds hrun hholds hshift)

theorem eq_or_hasCase_of_mem_loweredAt (h : d ∈ loweredAt before c rest) :
    d = c ∨ HasCase c ∧ HasCase d := by
  unfold loweredAt at h
  split at h
  · next hsigma =>
    refine .inr ⟨⟨(0x3A3, 0x3A3), List.mem_append_left _ (by decide), ?_⟩,
      ⟨(0x3C2, 0x3C3), List.mem_append_left _ (by decide), ?_⟩⟩
    · rw [hsigma]
      decide
    · split at h <;> rw [List.mem_singleton.mp h] <;> decide
  · exact (settled_or_hasCase h).imp_left And.right

def Caseless (p : Char → Bool) : Prop := ∀ c, HasCase c → p c = false

/-- No range of the one list meets a range of the other. -/
def Ranges.Apart (ranges others : Ranges) : Prop :=
  ∀ range ∈ ranges, ∀ other ∈ others, range.2 < other.1 ∨ other.2 < range.1

instance (ranges others : Ranges) : Decidable (ranges.Apart others) :=
  inferInstanceAs (Decidable (∀ range ∈ ranges, ∀ other ∈ others, _ ∨ _))

theorem Ranges.Apart.holds_eq_false {ranges others : Ranges} (h : ranges.Apart others)
    {other : Nat × Nat} (hother : other ∈ others) (hfirst : other.1 ≤ c.toNat)
    (hlast : c.toNat ≤ other.2) : ranges.holds c = false := by
  simp only [Ranges.holds, List.any_eq_false, Bool.and_eq_true, decide_eq_true_eq, not_and]
  intro range hrange hfrom
  have := h range hrange other hother
  omega

theorem Ranges.caseless {ranges : Ranges} (h : ranges.Apart caseSpans) : Caseless ranges.holds :=
  fun _ ⟨_, hspan, hfirst, hlast⟩ => h.holds_eq_false hspan hfirst hlast

theorem caseless_isBlank : Caseless isBlank := Ranges.caseless (by decide +kernel)

variable {p : Char → Bool}

theorem Caseless.settled (hp : Caseless p) (h : p c = true) : lowerChar c = [c] := by
  obtain ⟨d, hd⟩ := List.exists_mem_of_ne_nil _ (lowerChar_ne_nil c)
  rcases settled_or_hasCase hd with ⟨hsame, -⟩ | ⟨hcase, -⟩
  · exact hsame
  · rw [hp c hcase] at h
    cases h

theorem Caseless.of_mem_loweredAt (hp : Caseless p) (h : d ∈ loweredAt before c rest) :
    p d = p c := by
  rcases eq_or_hasCase_of_mem_loweredAt h with rfl | ⟨hc, hd⟩
  · rfl
  · rw [hp c hc, hp d hd]

def endsIn (p : Char → Bool) (cs : List Char) : Bool := cs.getLast?.any p

theorem lowerFrom_ne_nil (h : cs ≠ []) : lowerFrom before cs ≠ [] := by
  cases cs with
  | nil => exact absurd rfl h
  | cons c rest =>
      rw [lowerFrom_cons]
      exact List.append_ne_nil_of_left_ne_nil loweredAt_ne_nil _

theorem Caseless.endsIn_lowerFrom (hp : Caseless p) :
    endsIn p (lowerFrom before cs) = endsIn p cs := by
  induction cs generalizing before with
  | nil => rfl
  | cons c rest ih =>
      rw [lowerFrom_cons]
      cases rest with
      | nil =>
          have hne : loweredAt before c [] ≠ [] := loweredAt_ne_nil
          rw [lowerFrom, List.append_nil, endsIn, List.getLast?_eq_some_getLast hne]
          exact hp.of_mem_loweredAt (List.getLast_mem hne)
      | cons b rest =>
          have hlast := List.getLast?_eq_some_getLast
            (lowerFrom_ne_nil (List.cons_ne_nil b rest) : lowerFrom (c :: before) (b :: rest) ≠ [])
          have hwhole : endsIn p (c :: b :: rest) = endsIn p (b :: rest) := rfl
          rw [hwhole, ← @ih (c :: before)]
          rw [endsIn, List.getLast?_append, hlast, endsIn, hlast]
          rfl

/-! What stands without case at the end of a text. -/

theorem meetsCased_cons : meetsCased (c :: cs) =
    if isCaseIgnorable c then meetsCased cs else isCased c := by
  by_cases hskip : isCaseIgnorable c = true <;> simp [meetsCased, hskip]

theorem meetsCased_eq_false (h : ∀ c ∈ cs, isCased c = false) : meetsCased cs = false := by
  induction cs with
  | nil => rfl
  | cons c rest ih =>
      rw [meetsCased_cons, h c (List.mem_cons_self ..),
        ih fun c hc => h c (List.mem_cons_of_mem _ hc), ite_self]

theorem meetsCased_append (h : ∀ d ∈ ds, isCased d = false) :
    meetsCased (cs ++ ds) = meetsCased cs := by
  induction cs with
  | nil => exact meetsCased_eq_false h
  | cons c rest ih => rw [List.cons_append, meetsCased_cons, meetsCased_cons, ih]

theorem lowerFrom_append (hcased : ∀ d ∈ ds, isCased d = false)
    (hsettled : ∀ d ∈ ds, lowerChar d = [d]) :
    lowerFrom before (cs ++ ds) = lowerFrom before cs ++ ds := by
  induction cs generalizing before with
  | nil => exact lowerFrom_of_settled hsettled
  | cons c rest ih =>
      rw [List.cons_append, lowerFrom_cons, lowerFrom_cons, ih, List.append_assoc, loweredAt,
        meetsCased_append hcased, loweredAt]

/-! The capitals of ASCII put in lower case first. -/

/-- A class without letters of ASCII. -/
theorem Ranges.holds_toLower {ranges : Ranges} (h : ranges.Apart [(65, 90), (97, 122)]) (c : Char) :
    ranges.holds c.toLower = ranges.holds c := by
  by_cases hupper : c.isUpper = true
  · obtain ⟨hA, hZ⟩ := isUpper_iff_toNat.mp hupper
    have hlower := toNat_toLower_of_isUpper hupper
    have hcapital : ranges.holds c = false :=
      h.holds_eq_false (List.mem_cons_self ..) hA hZ
    have hsmall : ranges.holds c.toLower = false :=
      h.holds_eq_false (List.mem_cons_of_mem _ (List.mem_cons_self ..))
        (by simp only; omega) (by simp only; omega)
    rw [hcapital, hsmall]
  · rw [toLower_of_not_isUpper hupper]

theorem isCaseIgnorable_toLower (c : Char) : isCaseIgnorable c.toLower = isCaseIgnorable c :=
  Ranges.holds_toLower (by decide +kernel) c

theorem isCased_toLower (c : Char) : isCased c.toLower = isCased c := by
  by_cases hupper : c.isUpper = true
  · obtain ⟨hA, hZ⟩ := isUpper_iff_toNat.mp hupper
    have hlower := toNat_toLower_of_isUpper hupper
    have hcapital : isCased c = true :=
      List.any_eq_true.mpr ⟨(0x41, 0x5A), List.mem_cons_self .., by simpa using ⟨hA, hZ⟩⟩
    have hsmall : isCased c.toLower = true := by
      refine List.any_eq_true.mpr
        ⟨(0x61, 0x7A), List.mem_cons_of_mem _ (List.mem_cons_self ..), ?_⟩
      simp only [hlower, Bool.and_eq_true, decide_eq_true_eq]
      omega
    rw [hcapital, hsmall]
  · rw [toLower_of_not_isUpper hupper]

theorem meetsCased_map_toLower (cs : List Char) :
    meetsCased (cs.map Char.toLower) = meetsCased cs := by
  induction cs with
  | nil => rfl
  | cons c rest ih =>
      rw [List.map_cons, meetsCased_cons, meetsCased_cons, ih, isCaseIgnorable_toLower,
        isCased_toLower]

theorem loweredAt_toLower (before : List Char) (c : Char) (rest : List Char) :
    loweredAt (before.map Char.toLower) c.toLower (rest.map Char.toLower) =
      loweredAt before c rest := by
  rw [loweredAt, loweredAt, meetsCased_map_toLower, meetsCased_map_toLower]
  by_cases hupper : c.isUpper = true
  · obtain ⟨-, hZ⟩ := isUpper_iff_toNat.mp hupper
    have hlower := toNat_toLower_of_isUpper hupper
    have hsigma {d : Char} (hd : d.toNat < 128) : d ≠ 'Σ' := by
      rintro rfl
      exact absurd hd (by decide)
    rw [if_neg (hsigma (by omega)), if_neg (hsigma (by omega)), lowerChar_of_ascii (by omega),
      lowerChar_of_ascii (by omega), toLower_toLower]
  · rw [toLower_of_not_isUpper hupper]

theorem lowerFrom_map_toLower (before cs : List Char) :
    lowerFrom (before.map Char.toLower) (cs.map Char.toLower) = lowerFrom before cs := by
  induction cs generalizing before with
  | nil => rfl
  | cons c rest ih =>
      rw [List.map_cons, lowerFrom_cons, lowerFrom_cons, loweredAt_toLower, ← List.map_cons, ih]

end Texts

end ResilientChat.Text
