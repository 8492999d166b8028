import ResilientChat.NameMap
import Mathlib.Data.List.Perm.Basic
import Mathlib.Data.List.Sort

/-!
What a map holds, and how much of it. A map is determined by the values it holds under each name,
and it is larger by one than it is without a name that it holds.
-/

namespace ResilientChat

namespace NameMap

variable {α : Type} {m m' : NameMap α} {name : String} {v : α}

def Before (a b : String × α) : Prop := a.1 < b.1

instance : Std.Irrefl (Before (α := α)) := ⟨fun a => String.lt_irrefl a.1⟩

instance : Std.Antisymm (Before (α := α)) :=
  ⟨fun _ _ hab hba => absurd hba (String.lt_asymm hab)⟩

theorem nodup_entries (m : NameMap α) : m.entries.Nodup :=
  List.Pairwise.nodup (r := Before) m.ascending

/-- Maps with the same values under the same names are equal. -/
theorem eq_of_get? (h : ∀ name, m.get? name = m'.get? name) : m = m' := by
  have hentries : m.entries = m'.entries :=
    List.Pairwise.eq_of_mem_iff (r := Before) m.ascending m'.ascending fun e => by
      rw [← m.get?_eq_some_iff_mem, ← m'.get?_eq_some_iff_mem, h]
  cases m
  cases m'
  cases hentries
  rfl

/-- A map is what it is without a name and the value under it. -/
theorem size_erase (h : m.get? name = some v) : (m.erase name).size + 1 = m.size := by
  have hnodup : ((name, v) :: (m.erase name).entries).Nodup := by
    refine List.nodup_cons.mpr ⟨fun hmem => ?_, nodup_entries _⟩
    have hget := (m.erase name).get?_eq_some_iff_mem.mpr hmem
    rw [get?_erase, if_pos rfl] at hget
    cases hget
  have hperm : ((name, v) :: (m.erase name).entries).Perm m.entries := by
    refine (List.perm_ext_iff_of_nodup hnodup m.nodup_entries).mpr fun e => ?_
    obtain ⟨key, w⟩ := e
    rw [List.mem_cons, ← get?_eq_some_iff_mem, ← get?_eq_some_iff_mem, get?_erase]
    by_cases hkey : key = name
    · simp [hkey, h, eq_comm]
    · simp [hkey]
  exact hperm.length_eq

theorem size_insert (m : NameMap α) (name : String) (v : α) :
    (m.insert name v).size = (m.erase name).size + 1 := by
  have herase : (m.insert name v).erase name = m.erase name := eq_of_get? fun key => by
    rw [get?_erase, get?_erase, get?_insert]
    split <;> rfl
  rw [← size_erase ((m.get?_insert name name v).trans (if_pos rfl)), herase]

end NameMap

end ResilientChat
