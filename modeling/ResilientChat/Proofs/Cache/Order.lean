import ResilientChat.Cache.Store
import ResilientChat.Proofs.NameMap
import Mathlib.Data.List.DropRight
import Mathlib.Data.List.Sort

/-!
The entries of an answer store in the order in which they were written. As long as no two entries
have the same number, throwing entries away keeps the order, a write puts its entry at the end, and
making room takes entries from the front.
-/

namespace ResilientChat

namespace AnswerStore

def Earlier (a b : String × StoredAnswer) : Prop := a.2.serial < b.2.serial

instance : Std.Irrefl Earlier := ⟨fun a => UInt64.lt_irrefl a.2.serial⟩

instance : Std.Antisymm Earlier :=
  ⟨fun _ _ hab hba => absurd (UInt64.lt_trans hab hba) (UInt64.lt_irrefl _)⟩

def inOrder (entries : NameMap StoredAnswer) : List (String × StoredAnswer) :=
  entries.entries.mergeSort fun a b => a.2.serial ≤ b.2.serial

theorem mem_inOrder {entries : NameMap StoredAnswer} {e : String × StoredAnswer} :
    e ∈ inOrder entries ↔ e ∈ entries.entries := List.mem_mergeSort

@[simp] theorem length_inOrder (entries : NameMap StoredAnswer) :
    (inOrder entries).length = entries.size := List.length_mergeSort _

/-- The entries have different numbers, all of them below `n`. -/
structure Numbered (entries : NameMap StoredAnswer) (n : Nat) : Prop where
  distinct : ∀ a ∈ entries.entries, ∀ b ∈ entries.entries, a.2.serial = b.2.serial → a = b
  lt : ∀ e ∈ entries.entries, e.2.serial.toNat < n

section Order

variable {entries : NameMap StoredAnswer} {n : Nat}

theorem Numbered.earlier (h : Numbered entries n) : (inOrder entries).Pairwise Earlier := by
  have hle : (inOrder entries).Pairwise fun a b => a.2.serial ≤ b.2.serial := by
    let le (a b : String × StoredAnswer) : Bool := a.2.serial ≤ b.2.serial
    have htrans (a b c : String × StoredAnswer) (hab : le a b = true) (hbc : le b c = true) :
        le a c = true :=
      decide_eq_true (UInt64.le_trans (of_decide_eq_true hab) (of_decide_eq_true hbc))
    have htotal (a b : String × StoredAnswer) : (le a b || le b a) = true := by
      simpa [le] using UInt64.le_total a.2.serial b.2.serial
    exact (List.pairwise_mergeSort htrans htotal entries.entries).imp of_decide_eq_true
  have hnodup : (inOrder entries).Nodup :=
    (List.mergeSort_perm entries.entries _).nodup_iff.mpr entries.nodup_entries
  refine (hle.and hnodup).imp_of_mem fun {a b} ha hb hab => ?_
  refine UInt64.lt_of_le_of_ne hab.1 fun hserial => hab.2 ?_
  exact h.distinct a (mem_inOrder.mp ha) b (mem_inOrder.mp hb) hserial

/-- The order of the entries is determined by the entries and their numbers. -/
theorem Numbered.inOrder_eq (h : Numbered entries n) {row : List (String × StoredAnswer)}
    (hrow : row.Pairwise Earlier) (hmem : ∀ e, e ∈ entries.entries ↔ e ∈ row) :
    inOrder entries = row :=
  h.earlier.eq_of_mem_iff hrow fun e => mem_inOrder.trans (hmem e)

theorem numbered_empty : Numbered ∅ n := ⟨nofun, nofun⟩

theorem Numbered.filter (h : Numbered entries n) (p : String → StoredAnswer → Bool) :
    Numbered (entries.filter p) n :=
  ⟨fun a ha b hb => h.distinct a (List.mem_filter.mp ha).1 b (List.mem_filter.mp hb).1,
    fun e hmem => h.lt e (List.mem_filter.mp hmem).1⟩

theorem Numbered.inOrder_filter (h : Numbered entries n) (p : String → StoredAnswer → Bool) :
    inOrder (entries.filter p) = (inOrder entries).filter fun e => p e.1 e.2 := by
  refine (h.filter p).inOrder_eq (h.earlier.filter _) fun e => ?_
  rw [List.mem_filter, mem_inOrder]
  exact List.mem_filter

theorem Numbered.insert (h : Numbered entries n) (fingerprint : String) {e : StoredAnswer}
    (he : e.serial.toNat = n) : Numbered (entries.insert fingerprint e) (n + 1) where
  distinct := by
    -- The new number is that of no entry that was there.
    have hnew : ∀ a ∈ entries.entries, a.2.serial ≠ e.serial := fun a hmem heq => by
      have hlt := h.lt a hmem
      rw [heq, he] at hlt
      exact Nat.lt_irrefl n hlt
    intro a ha b hb hserial
    rcases entries.mem_insert.mp ha with rfl | ⟨ha, -⟩ <;>
      rcases entries.mem_insert.mp hb with rfl | ⟨hb, -⟩
    · rfl
    · exact absurd hserial.symm (hnew b hb)
    · exact absurd hserial (hnew a ha)
    · exact h.distinct a ha b hb hserial
  lt := by
    intro a ha
    rcases entries.mem_insert.mp ha with rfl | ⟨ha, -⟩
    · exact Nat.lt_succ_of_le (Nat.le_of_eq he)
    · exact Nat.lt_succ_of_lt (h.lt a ha)

/-- A write that has a higher number than all entries goes to the end. -/
theorem Numbered.inOrder_insert (h : Numbered entries n) (fingerprint : String)
    {e : StoredAnswer} (he : e.serial.toNat = n) :
    inOrder (entries.insert fingerprint e) =
      (inOrder entries).filter (·.1 ≠ fingerprint) ++ [(fingerprint, e)] := by
  refine (h.insert fingerprint he).inOrder_eq ?_ fun a => ?_
  · refine List.pairwise_append.mpr ⟨h.earlier.filter _, List.pairwise_singleton .., ?_⟩
    intro a ha b hb
    rw [List.mem_singleton.mp hb, Earlier, UInt64.lt_iff_toNat_lt, he]
    exact h.lt a (mem_inOrder.mp (List.mem_filter.mp ha).1)
  · simp [NameMap.mem_insert, mem_inOrder, or_comm]

theorem oldest?_ne_none {e : String × StoredAnswer} {row : List (String × StoredAnswer)} :
    oldest? (e :: row) ≠ none := by
  rw [oldest?]
  split
  · split <;> simp
  · simp

theorem of_oldest?_eq_some {e : String × StoredAnswer} {row : List (String × StoredAnswer)}
    (h : oldest? row = some e) : e ∈ row ∧ ∀ a ∈ row, e.2.serial ≤ a.2.serial := by
  fun_induction oldest? row generalizing e with
  | case1 => cases h
  | case2 first rest other hother hlt ih =>
      cases h
      obtain ⟨hmem, hleast⟩ := ih hother
      exact ⟨List.mem_cons_of_mem _ hmem,
        List.forall_mem_cons.mpr ⟨UInt64.le_of_lt hlt, hleast⟩⟩
  | case3 first rest other hother hle ih =>
      cases h
      obtain ⟨-, hleast⟩ := ih hother
      refine ⟨List.mem_cons_self, List.forall_mem_cons.mpr ⟨UInt64.le_refl _, ?_⟩⟩
      exact fun a ha => UInt64.le_trans (UInt64.not_lt.mp hle) (hleast a ha)
  | case4 first rest hnone ih =>
      cases h
      cases rest with
      | nil => exact ⟨List.mem_cons_self, by simp⟩
      | cons => exact absurd hnone oldest?_ne_none

/-- Making room takes away no more entries than it must, whatever their numbers. -/
theorem size_evict (capacity bound : Nat) (hbound : entries.size ≤ capacity + bound) :
    (evict capacity bound entries).size = min entries.size capacity := by
  fun_induction evict capacity bound entries with
  | case1 entries => exact (min_eq_left hbound).symm
  | case2 entries bound hfits => exact (min_eq_left hfits).symm
  | case3 bound entries hfull fingerprint e hold ih =>
      have hmem := entries.get?_eq_some_iff_mem.mpr (of_oldest?_eq_some hold).1
      have hless : (entries.erase fingerprint).size + 1 = entries.size := NameMap.size_erase hmem
      rw [ih (by omega), min_eq_right (by omega), min_eq_right (by omega)]
  | case4 bound entries hfull hold =>
      cases hentries : entries.entries with
      | nil => simp [NameMap.size, hentries] at hfull
      | cons => exact absurd (hentries ▸ hold) oldest?_ne_none

/-- The entry with the lowest number is the first. -/
theorem Numbered.oldest?_eq (h : Numbered entries n) :
    oldest? entries.entries = (inOrder entries).head? := by
  have hearlier := h.earlier
  have hmem (e : String × StoredAnswer) : e ∈ inOrder entries ↔ e ∈ entries.entries :=
    mem_inOrder
  cases hrow : inOrder entries with
  | nil =>
      have hempty : entries.entries = [] := by
        refine List.eq_nil_iff_forall_not_mem.mpr fun e he => ?_
        simpa [hrow] using (hmem e).mpr he
      rw [hempty]
      rfl
  | cons first rest =>
      rw [hrow] at hearlier hmem
      have hfirst := (hmem first).mp List.mem_cons_self
      cases hold : oldest? entries.entries with
      | none =>
          cases hentries : entries.entries with
          | nil => simp [hentries] at hfirst
          | cons => exact absurd (hentries ▸ hold) oldest?_ne_none
      | some e =>
          obtain ⟨he, hleast⟩ := of_oldest?_eq_some hold
          rcases List.mem_cons.mp ((hmem e).mpr he) with rfl | hlater
          · rfl
          · have hlt : first.2.serial < e.2.serial := List.rel_of_pairwise_cons hearlier hlater
            exact absurd hlt (UInt64.not_lt.mpr (hleast first hfirst))

theorem Numbered.inOrder_erase_first (h : Numbered entries n) {first : String × StoredAnswer}
    {rest : List (String × StoredAnswer)} (hrow : inOrder entries = first :: rest) :
    inOrder (entries.erase first.1) = rest := by
  have hearlier := h.earlier
  rw [hrow] at hearlier
  have hothers : ∀ e ∈ rest, e.1 ≠ first.1 := fun e he hname => by
    have hmem (a : String × StoredAnswer) (ha : a ∈ first :: rest) :
        entries.get? a.1 = some a.2 :=
      entries.get?_eq_some_iff_mem.mpr (mem_inOrder.mp (hrow ▸ ha))
    have hfirst := hmem first List.mem_cons_self
    have hlater := hmem e (List.mem_cons_of_mem _ he)
    rw [hname, hfirst, Option.some.injEq] at hlater
    have hlt : first.2.serial < e.2.serial := List.rel_of_pairwise_cons hearlier he
    rw [hlater] at hlt
    exact UInt64.lt_irrefl _ hlt
  rw [NameMap.erase, h.inOrder_filter, hrow, List.filter_cons_of_neg (by simp)]
  exact List.filter_eq_self.mpr fun e he => decide_eq_true (hothers e he)

theorem Numbered.keep_evict (h : Numbered entries n) (capacity bound : Nat) :
    Numbered (evict capacity bound entries) n := by
  fun_induction evict capacity bound entries with
  | case1 | case2 | case4 => exact h
  | case3 bound entries _ fingerprint e _ ih => exact ih (h.filter _)

/-- Making room takes entries from the front until at most `capacity` are left. -/
theorem Numbered.inOrder_evict (h : Numbered entries n) (capacity bound : Nat)
    (hbound : entries.size ≤ capacity + bound) :
    inOrder (evict capacity bound entries) = (inOrder entries).rtake capacity := by
  have hkept (entries : NameMap StoredAnswer) (hfits : entries.size ≤ capacity) :
      inOrder entries = (inOrder entries).rtake capacity := by
    rw [List.rtake, length_inOrder, Nat.sub_eq_zero_of_le hfits, List.drop_zero]
  fun_induction evict capacity bound entries with
  | case1 entries => exact hkept _ hbound
  | case2 entries bound hfits => exact hkept _ hfits
  | case3 bound entries hfull fingerprint e hold ih =>
      rw [h.oldest?_eq] at hold
      obtain ⟨rest, hrow⟩ := List.head?_eq_some_iff.mp hold
      have hrest : inOrder (entries.erase fingerprint) = rest := h.inOrder_erase_first hrow
      have hsize : entries.size = rest.length + 1 := by
        rw [← length_inOrder, hrow, List.length_cons]
      have hless : (entries.erase fingerprint).size = rest.length := by
        rw [← length_inOrder, hrest]
      rw [ih (h.filter _) (by omega), hrest, hrow, List.rtake, List.rtake, List.length_cons,
        Nat.sub_add_comm (by omega), List.drop_succ_cons]
  | case4 bound entries hfull hold =>
      rw [h.oldest?_eq, List.head?_eq_none_iff] at hold
      rw [← length_inOrder, hold] at hfull
      exact absurd (Nat.zero_le _) hfull

end Order

end AnswerStore

end ResilientChat
