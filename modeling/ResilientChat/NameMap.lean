/-!
Values filed under names, in ascending order of the names. The order is part of
the type, so a map is determined by what it holds under each name.
-/

namespace ResilientChat

variable {α : Type}

/-- Files `v` under `name` in a list ordered by name. -/
def insertNamed (name : String) (v : α) : List (String × α) → List (String × α)
  | [] => [(name, v)]
  | (k, w) :: rest =>
    if name < k then (name, v) :: (k, w) :: rest
    else if name = k then (name, v) :: rest
    else (k, w) :: insertNamed name v rest

theorem mem_insertNamed {name : String} {v : α} {entries : List (String × α)}
    {e : String × α} (h : e ∈ insertNamed name v entries) : e = (name, v) ∨ e ∈ entries := by
  fun_induction insertNamed name v entries with
  | case1 => simpa using h
  | case2 => simpa using h
  | case3 => grind
  | case4 k w rest h1 h2 ih => grind

theorem pairwise_insertNamed (name : String) (v : α) {entries : List (String × α)}
    (h : entries.Pairwise fun a b => a.1 < b.1) :
    (insertNamed name v entries).Pairwise fun a b => a.1 < b.1 := by
  induction entries with
  | nil => simp [insertNamed]
  | cons e rest ih =>
    obtain ⟨k, w⟩ := e
    obtain ⟨below, sorted⟩ := List.pairwise_cons.1 h
    rw [insertNamed]
    split
    · next lt =>
      refine List.pairwise_cons.2 ⟨fun b hb => ?_, h⟩
      rcases List.mem_cons.1 hb with rfl | hb
      · exact lt
      · exact String.lt_trans lt (below b hb)
    · next notLt =>
      split
      · next eq =>
        subst eq
        exact List.pairwise_cons.2 ⟨below, sorted⟩
      · next ne =>
        refine List.pairwise_cons.2 ⟨fun b hb => ?_, ih sorted⟩
        rcases mem_insertNamed hb with rfl | hb
        · exact (Std.lt_trichotomy k name).resolve_right
            (fun h => h.elim (fun e => ne e.symm) notLt)
        · exact below b hb

theorem lookup_cons_ite (key : String) (e : String × α) (rest : List (String × α)) :
    (e :: rest).lookup key = if key = e.1 then some e.2 else rest.lookup key := by
  rw [List.lookup_cons]
  by_cases h : key = e.1
  · simp [h]
  · simp [h, beq_false_of_ne h]

theorem lookup_insertNamed (name key : String) (v : α) (entries : List (String × α)) :
    (insertNamed name v entries).lookup key =
      if key = name then some v else entries.lookup key := by
  fun_induction insertNamed name v entries with
  | case1 => rw [lookup_cons_ite]
  | case2 => rw [lookup_cons_ite]
  | case3 =>
    simp only [lookup_cons_ite]
    grind
  | case4 k w rest _ ne ih =>
    simp only [lookup_cons_ite, ih]
    grind

theorem lookup_filter (p : String → α → Bool) (key : String) {entries : List (String × α)}
    (h : entries.Pairwise fun a b => a.1 < b.1) :
    (entries.filter fun e => p e.1 e.2).lookup key = (entries.lookup key).filter (p key) := by
  induction entries with
  | nil => rfl
  | cons e rest ih =>
    obtain ⟨below, sorted⟩ := List.pairwise_cons.1 h
    have absent : e.1 = key → rest.lookup key = none := by
      rintro rfl
      refine List.lookup_eq_none_iff.2 fun a ha => ?_
      have lt := below a ha
      simp only [bne_iff_ne]
      rintro eq
      rw [eq] at lt
      exact String.lt_irrefl _ lt
    rw [List.filter_cons, lookup_cons_ite]
    split
    · rw [lookup_cons_ite, ih sorted]
      split
      · next hp hkey =>
        subst hkey
        simp [Option.filter, hp]
      · rfl
    · next hp =>
      rw [ih sorted]
      split
      · next hkey =>
        subst hkey
        simp [Option.filter, hp, absent rfl]
      · rfl

theorem lookup_eq_some_iff_mem {entries : List (String × α)}
    (h : entries.Pairwise fun a b => a.1 < b.1) {key : String} {v : α} :
    entries.lookup key = some v ↔ (key, v) ∈ entries := by
  induction entries with
  | nil => simp
  | cons e rest ih =>
    obtain ⟨below, sorted⟩ := List.pairwise_cons.1 h
    rw [lookup_cons_ite, List.mem_cons, ← ih sorted]
    by_cases hkey : key = e.1
    · subst hkey
      have absent : (e.1, v) ∉ rest := fun hmem => String.lt_irrefl e.1 (below (e.1, v) hmem)
      rw [ih sorted]
      simp [absent, Prod.ext_iff, eq_comm]
    · simp [hkey, Prod.ext_iff]

/-- Entries in strictly ascending order of their names. -/
structure NameMap (α : Type) where
  entries : List (String × α) := []
  ascending : entries.Pairwise (fun a b => a.1 < b.1) := by simp

namespace NameMap

instance : EmptyCollection (NameMap α) := ⟨⟨[], .nil⟩⟩

instance : Inhabited (NameMap α) := ⟨∅⟩

def get? (m : NameMap α) (name : String) : Option α := m.entries.lookup name

def contains (m : NameMap α) (name : String) : Bool := (m.get? name).isSome

def size (m : NameMap α) : Nat := m.entries.length

def isEmpty (m : NameMap α) : Bool := m.entries.isEmpty

def names (m : NameMap α) : List String := m.entries.map (·.1)

def values (m : NameMap α) : List α := m.entries.map (·.2)

def insert (m : NameMap α) (name : String) (v : α) : NameMap α :=
  ⟨insertNamed name v m.entries, pairwise_insertNamed name v m.ascending⟩

def filter (m : NameMap α) (p : String → α → Bool) : NameMap α :=
  ⟨m.entries.filter fun e => p e.1 e.2, m.ascending.filter _⟩

def erase (m : NameMap α) (name : String) : NameMap α := m.filter fun k _ => k ≠ name

theorem get?_eq_some_iff_mem (m : NameMap α) {name : String} {v : α} :
    m.get? name = some v ↔ (name, v) ∈ m.entries :=
  lookup_eq_some_iff_mem m.ascending

theorem get?_insert (m : NameMap α) (name key : String) (v : α) :
    (m.insert name v).get? key = if key = name then some v else m.get? key :=
  lookup_insertNamed name key v m.entries

theorem mem_insert (m : NameMap α) {name : String} {v : α} {e : String × α} :
    e ∈ (m.insert name v).entries ↔ e = (name, v) ∨ e ∈ m.entries ∧ e.1 ≠ name := by
  obtain ⟨key, w⟩ := e
  rw [← get?_eq_some_iff_mem, ← get?_eq_some_iff_mem, get?_insert]
  by_cases h : key = name
  · simp [h, eq_comm]
  · simp [h]

theorem get?_filter (m : NameMap α) (p : String → α → Bool) (key : String) :
    (m.filter p).get? key = (m.get? key).filter (p key) :=
  lookup_filter p key m.ascending

theorem get?_erase (m : NameMap α) (name key : String) :
    (m.erase name).get? key = if key = name then none else m.get? key := by
  rw [erase, get?_filter]
  by_cases h : key = name
  · cases hv : m.get? key <;> simp [h, Option.filter]
  · cases hv : m.get? key <;> simp [h, Option.filter]

end NameMap

/-- Values that are made when their name is first asked for, and kept. -/
structure Kept (make : String → α) where
  values : NameMap α := ∅
  made : ∀ {name v}, values.get? name = some v → v = make name

namespace Kept

variable {make : String → α}

instance : EmptyCollection (Kept make) := ⟨∅, nofun⟩

/-- The value of that name, kept or made now. -/
def obtain (k : Kept make) (name : String) : α := (k.values.get? name).getD (make name)

/-- Whoever asks first, and whatever else was asked for before, the value is the same. -/
theorem obtain_eq (k : Kept make) (name : String) : k.obtain name = make name := by
  rw [obtain]
  cases h : k.values.get? name with
  | none => rfl
  | some v => exact k.made h

def keep (k : Kept make) (name : String) : Kept make where
  values := k.values.insert name (k.obtain name)
  made := by
    intro key v h
    rw [NameMap.get?_insert] at h
    split at h
    · next hkey =>
      cases h
      rw [hkey, obtain_eq]
    · exact k.made h

end Kept

end ResilientChat
