import ResilientChat.Proofs.Cache.Order

/-!
An answer store as a shelf. On a shelf answers stand in a row, the one put there last at the end; a
put takes away the answer under the same fingerprint and, if the row has become too long, answers
from its front. A store behaves as a shelf as long as its writes can be told apart by their numbers.
-/

namespace ResilientChat

namespace AnswerStore

structure Shelved where
  fingerprint : String
  tenant : String
  answer : CachedAnswer
  putAt : Instant
deriving DecidableEq

/-- A row of answers, with the clock and the number of answers found and not found. -/
structure Shelf where
  ttl : Duration
  capacity : Nat
  row : List Shelved := []
  now : Instant := 0
  hits : UInt64 := 0
  misses : UInt64 := 0
deriving DecidableEq

inductive Request where
  | put (key : AnswerKey) (answer : CachedAnswer)
  | get (key : AnswerKey)
  | purge
  | invalidate (tenant : String)
  | wait (d : Duration)

inductive Told where
  | nothing
  | found (answer : Option CachedAnswer)
  | removed (count : Nat)
deriving DecidableEq

namespace Shelf

def isFresh (s : Shelf) (e : Shelved) : Bool := s.now - e.putAt < s.ttl

def keep (s : Shelf) (p : Shelved → Bool) : Shelf := { s with row := s.row.filter p }

def step (s : Shelf) : Request → Shelf × Told
  | .put key answer =>
    let others := s.row.filter (·.fingerprint ≠ key.fingerprint)
    let row := others ++ [⟨key.fingerprint, key.tenant, answer, s.now⟩]
    ({ s with row := row.rtake s.capacity }, .nothing)
  | .get key =>
    match s.row.find? (·.fingerprint = key.fingerprint) with
    | some e =>
      if s.isFresh e then ({ s with hits := s.hits + 1 }, .found (some e.answer))
      else
        ({ s.keep (·.fingerprint ≠ key.fingerprint) with misses := s.misses + 1 }, .found none)
    | none => ({ s with misses := s.misses + 1 }, .found none)
  | .purge => (s.keep s.isFresh, .removed (s.row.countP (!s.isFresh ·)))
  | .invalidate tenant =>
    (s.keep (·.tenant ≠ tenant), .removed (s.row.countP (·.tenant = tenant)))
  | .wait d => ({ s with now := s.now + d }, .nothing)

def run (s : Shelf) (requests : List Request) : Shelf :=
  requests.foldl (fun s r => (s.step r).1) s

theorem run_concat (s : Shelf) (requests : List Request) (r : Request) :
    s.run (requests ++ [r]) = ((s.run requests).step r).1 := by
  simp [run, List.foldl_append]

theorem capacity_step (s : Shelf) (r : Request) : (s.step r).1.capacity = s.capacity := by
  cases r with
  | get key =>
      rw [step]
      split
      · split <;> rfl
      · rfl
  | _ => rfl

theorem capacity_run (s : Shelf) (requests : List Request) :
    (s.run requests).capacity = s.capacity := by
  induction requests using List.reverseRecOn with
  | nil => rfl
  | append_singleton requests r ih => rw [run_concat, capacity_step, ih]

end Shelf

structure Use where
  store : AnswerStore
  now : Instant := 0

namespace Use

def step (u : Use) : Request → Use × Told
  | .put key answer => ({ u with store := u.store.put key answer u.now }, .nothing)
  | .get key =>
    let (store, answer) := u.store.get key u.now
    ({ u with store }, .found answer)
  | .purge =>
    let (store, count) := u.store.purge u.now
    ({ u with store }, .removed count)
  | .invalidate tenant =>
    let (store, count) := u.store.invalidate tenant
    ({ u with store }, .removed count)
  | .wait d => ({ u with now := u.now + d }, .nothing)

def run (u : Use) (requests : List Request) : Use :=
  requests.foldl (fun u r => (u.step r).1) u

def shelved (e : String × StoredAnswer) : Shelved := ⟨e.1, e.2.tenant, e.2.answer, e.2.storedAt⟩

/-- The store seen as a shelf: its entries in the order in which they were written. -/
def shelf (u : Use) : Shelf where
  ttl := u.store.ttl
  capacity := u.store.capacity
  row := (inOrder u.store.entries).map shelved
  now := u.now
  hits := u.store.hits
  misses := u.store.misses

/-- The store has made `n` writes, its entries can be told apart by their numbers, and it has room
for them. -/
structure Ordered (u : Use) (n : Nat) : Prop where
  numbered : Numbered u.store.entries n
  serial : u.store.serial = .ofNat n
  fits : u.store.size ≤ u.store.capacity

section Step

variable {u : Use} {n : Nat}

theorem find?_shelf (u : Use) (fingerprint : String) :
    u.shelf.row.find? (·.fingerprint = fingerprint) =
      (u.store.entries.get? fingerprint).map fun e => shelved (fingerprint, e) := by
  have hrow : (inOrder u.store.entries).find? (·.1 = fingerprint) =
      (u.store.entries.get? fingerprint).map (fingerprint, ·) := by
    cases hget : u.store.entries.get? fingerprint with
    | none =>
        refine List.find?_eq_none.mpr fun e hmem hname => ?_
        have he := u.store.entries.get?_eq_some_iff_mem.mpr (mem_inOrder.mp hmem)
        rw [of_decide_eq_true hname, hget] at he
        cases he
    | some e =>
        have hmem := mem_inOrder.mpr (u.store.entries.get?_eq_some_iff_mem.mp hget)
        cases hfind : (inOrder u.store.entries).find? (·.1 = fingerprint) with
        | none => exact absurd (decide_eq_true rfl) (List.find?_eq_none.mp hfind _ hmem)
        | some other =>
            -- No two entries have one fingerprint.
            have hname : other.1 = fingerprint := by simpa using List.find?_some hfind
            have hother := u.store.entries.get?_eq_some_iff_mem.mpr
              (mem_inOrder.mp (List.mem_of_find?_eq_some hfind))
            rw [hname, hget, Option.some.injEq] at hother
            rw [Option.map_some, hother, ← hname]
  rw [shelf, List.find?_map]
  exact (congrArg (Option.map shelved) hrow).trans (Option.map_map ..)

theorem keep_shelf (h : u.Ordered n) {p : String → StoredAnswer → Bool} {q : Shelved → Bool}
    (hpq : ∀ e, q (shelved e) = p e.1 e.2) :
    u.shelf.keep q =
      shelf { u with store := { u.store with entries := u.store.entries.filter p } } := by
  simp only [Shelf.keep, shelf, h.numbered.inOrder_filter, List.filter_map, Function.comp_def, hpq]

/-- Keeping some of the entries keeps their answers on the shelf, and the others are counted. -/
theorem shelf_retain (h : u.Ordered n) {p : StoredAnswer → Bool} {q : Shelved → Bool}
    (hpq : ∀ e, q (shelved e) = p e.2) :
    u.shelf.keep q = shelf { u with store := (u.store.retain p).1 } ∧
      u.shelf.row.countP (!q ·) = (u.store.retain p).2 := by
  refine ⟨keep_shelf h hpq, ?_⟩
  have hkept : (u.store.entries.filter fun _ e => p e).size =
      (inOrder u.store.entries).countP fun e => p e.2 := by
    rw [← length_inOrder, h.numbered.inOrder_filter, ← List.countP_eq_length_filter]
  have hall := List.length_eq_countP_add_countP (fun e : String × StoredAnswer => p e.2)
    (l := inOrder u.store.entries)
  rw [length_inOrder] at hall
  rw [AnswerStore.retain, hkept, AnswerStore.size, hall, Nat.add_sub_cancel_left, shelf,
    List.countP_map]
  simp [Function.comp_def, hpq]

theorem map_rtake {α β : Type} (f : α → β) (row : List α) (n : Nat) :
    (row.rtake n).map f = (row.map f).rtake n := by
  rw [List.rtake, List.rtake, List.map_drop, List.length_map]

/-- The number of the next write, as long as the numbers do not come round. -/
theorem Ordered.toNat_serial (h : u.Ordered n) (hfew : n < UInt64.size) :
    u.store.serial.toNat = n :=
  (congrArg UInt64.toNat h.serial).trans (UInt64.toNat_ofNat_of_lt' hfew)

theorem shelf_put (h : u.Ordered n) (hfew : n < UInt64.size) (key : AnswerKey)
    (answer : CachedAnswer) :
    (u.shelf.step (.put key answer)).1 = (u.step (.put key answer)).1.shelf := by
  let written : StoredAnswer := ⟨key.tenant, answer, u.now, u.store.serial⟩
  have hserial : written.serial.toNat = n := h.toNat_serial hfew
  have hnumbered := h.numbered.insert key.fingerprint hserial
  have hevict := hnumbered.inOrder_evict u.store.capacity _ (Nat.le_add_left _ _)
  rw [h.numbered.inOrder_insert key.fingerprint hserial] at hevict
  simp only [Shelf.step, step, shelf, AnswerStore.put]
  rw [hevict, map_rtake, List.map_append, List.filter_map]
  rfl

/-- A store does with a request what a shelf does. -/
theorem shelf_step (h : u.Ordered n) (hfew : n < UInt64.size) (r : Request) :
    u.shelf.step r = ((u.step r).1.shelf, (u.step r).2) := by
  cases r with
  | put key answer => exact Prod.ext (shelf_put h hfew key answer) rfl
  | get key =>
      rw [Shelf.step, find?_shelf, step, AnswerStore.get]
      cases hget : u.store.entries.get? key.fingerprint with
      | none => rfl
      | some e =>
          have hfresh : u.shelf.isFresh (shelved (key.fingerprint, e)) =
              u.store.isFresh e u.now := rfl
          simp only [Option.map_some, hfresh]
          cases u.store.isFresh e u.now with
          | true => rfl
          | false =>
              simp only [Bool.false_eq_true, if_false]
              rw [keep_shelf h (p := fun k _ => k ≠ key.fingerprint) fun _ => rfl]
              rfl
  | purge =>
      obtain ⟨hkeep, hcount⟩ := shelf_retain h (p := (u.store.isFresh · u.now))
        (q := u.shelf.isFresh) fun _ => rfl
      rw [Shelf.step, hkeep, hcount]
      rfl
  | invalidate tenant =>
      obtain ⟨hkeep, hcount⟩ := shelf_retain h (p := (·.tenant ≠ tenant))
        (q := (·.tenant ≠ tenant)) fun _ => rfl
      have htheirs : u.shelf.row.countP (·.tenant = tenant) =
          u.shelf.row.countP fun e => !decide (e.tenant ≠ tenant) := by simp
      rw [Shelf.step, hkeep, htheirs, hcount]
      rfl
  | wait d => rfl

/-- Throwing entries away leaves the others as they were. -/
theorem Ordered.filter (h : u.Ordered n) {u' : Use} {p : String → StoredAnswer → Bool}
    (hentries : u'.store.entries = u.store.entries.filter p)
    (hserial : u'.store.serial = u.store.serial)
    (hcapacity : u'.store.capacity = u.store.capacity) : u'.Ordered n where
  numbered := hentries ▸ h.numbered.filter p
  serial := hserial.trans h.serial
  fits := by
    rw [AnswerStore.size, hentries, hcapacity]
    exact (List.length_filter_le ..).trans h.fits

theorem Ordered.put (h : u.Ordered n) (hfew : n < UInt64.size) (key : AnswerKey)
    (answer : CachedAnswer) : (u.step (.put key answer)).1.Ordered (n + 1) := by
  let written : StoredAnswer := ⟨key.tenant, answer, u.now, u.store.serial⟩
  have hnumbered :=
    h.numbered.insert (e := written) key.fingerprint (h.toNat_serial hfew)
  refine ⟨hnumbered.keep_evict _ _, ?_, ?_⟩
  · rw [UInt64.ofNat_add, ← h.serial]
    rfl
  · exact (size_evict u.store.capacity _ (Nat.le_add_left _ _)).trans_le (min_le_right _ _)

/-- A put makes one write, and the other requests none. -/
theorem Ordered.step (h : u.Ordered n) (hfew : n < UInt64.size) (r : Request) :
    (u.step r).1.Ordered (n + [r].countP (· matches .put ..)) := by
  cases r with
  | put key answer => exact h.put hfew key answer
  | get key =>
      simp only [Use.step, AnswerStore.get]
      cases u.store.entries.get? key.fingerprint with
      | none => exact ⟨h.numbered, h.serial, h.fits⟩
      | some e =>
          simp only
          cases u.store.isFresh e u.now with
          | true => exact ⟨h.numbered, h.serial, h.fits⟩
          | false => exact h.filter (p := fun k _ => k ≠ key.fingerprint) rfl rfl rfl
  | purge => exact h.filter (p := fun _ e => u.store.isFresh e u.now) rfl rfl rfl
  | invalidate tenant => exact h.filter (p := fun _ e => e.tenant ≠ tenant) rfl rfl rfl
  | wait => exact ⟨h.numbered, h.serial, h.fits⟩

/-- A get finds an answer or misses it, and the other requests do neither. -/
theorem step_counted (u : Use) (r : Request) :
    ∃ found missed, (u.step r).1.store.hits = u.store.hits + .ofNat found ∧
      (u.step r).1.store.misses = u.store.misses + .ofNat missed ∧
      found + missed = [r].countP (· matches .get _) := by
  cases r with
  | get key =>
      simp only [Use.step, AnswerStore.get]
      cases u.store.entries.get? key.fingerprint with
      | none => exact ⟨0, 1, (UInt64.add_zero _).symm, rfl, rfl⟩
      | some e =>
          simp only
          cases u.store.isFresh e u.now with
          | true => exact ⟨1, 0, rfl, (UInt64.add_zero _).symm, rfl⟩
          | false => exact ⟨0, 1, (UInt64.add_zero _).symm, rfl, rfl⟩
  | put | purge | invalidate | wait =>
      exact ⟨0, 0, (UInt64.add_zero _).symm, (UInt64.add_zero _).symm, rfl⟩

end Step

section Run

variable (u : Use) (requests : List Request) (r : Request)

theorem run_concat : u.run (requests ++ [r]) = ((u.run requests).step r).1 := by
  simp [run, List.foldl_append]

variable {u}

/-- As long as the numbers do not come round, a store does what a shelf does. -/
theorem Ordered.run (h : u.Ordered 0)
    (hfew : requests.countP (· matches .put ..) < UInt64.size) :
    (u.run requests).Ordered (requests.countP (· matches .put ..)) ∧
      (u.run requests).shelf = u.shelf.run requests := by
  induction requests using List.reverseRecOn with
  | nil => exact ⟨h, rfl⟩
  | append_singleton requests r ih =>
      rw [List.countP_append] at hfew ⊢
      have hbefore := Nat.lt_of_le_of_lt (Nat.le_add_right _ _) hfew
      obtain ⟨hordered, hshelf⟩ := ih hbefore
      rw [run_concat, Shelf.run_concat, ← hshelf, shelf_step hordered hbefore]
      exact ⟨hordered.step hbefore r, rfl⟩

theorem run_counted :
    ∃ found missed, (u.run requests).store.hits = u.store.hits + .ofNat found ∧
      (u.run requests).store.misses = u.store.misses + .ofNat missed ∧
      found + missed = requests.countP (· matches .get _) := by
  induction requests using List.reverseRecOn with
  | nil => exact ⟨0, 0, (UInt64.add_zero _).symm, (UInt64.add_zero _).symm, rfl⟩
  | append_singleton requests r ih =>
      obtain ⟨found, missed, hhits, hmisses, hcount⟩ := ih
      obtain ⟨found', missed', hhits', hmisses', hcount'⟩ := step_counted (u.run requests) r
      rw [run_concat, List.countP_append]
      refine ⟨found + found', missed + missed', ?_, ?_, by omega⟩
      · rw [hhits', hhits, UInt64.ofNat_add, UInt64.add_assoc]
      · rw [hmisses', hmisses, UInt64.ofNat_add, UInt64.add_assoc]

end Run

/-- A store whose writes are fewer than the numbers for them is a shelf, whatever was asked of it:
it holds the same answers in the same order, tells the same about every next request, and never
holds more answers than it may. The answers found and not found are the answers asked for; the
counters hold them modulo their size. -/
theorem store_is_shelf (ttl : Duration) (maxEntries : Nat) (requests : List Request)
    (hfew : requests.countP (· matches .put ..) < UInt64.size) :
    let u := run ⟨AnswerStore.new ttl maxEntries, 0⟩ requests
    let shelf := Shelf.run { ttl, capacity := max 1 maxEntries } requests
    let gets := requests.countP (· matches .get _)
    u.shelf = shelf ∧
    (∀ r, (u.step r).2 = (shelf.step r).2) ∧
    u.store.size = shelf.row.length ∧
    u.store.size ≤ max 1 maxEntries ∧
    u.store.hits + u.store.misses = .ofNat gets ∧
    (gets < UInt64.size → u.store.hits.toNat + u.store.misses.toNat = gets) := by
  intro u shelf gets
  have hfresh : Ordered ⟨AnswerStore.new ttl maxEntries, 0⟩ 0 :=
    ⟨numbered_empty, rfl, Nat.zero_le _⟩
  have hempty : Use.shelf ⟨AnswerStore.new ttl maxEntries, 0⟩ =
      { ttl, capacity := max 1 maxEntries } := by
    simp [Use.shelf, AnswerStore.new, inOrder, EmptyCollection.emptyCollection, Nat.max_comm]
  obtain ⟨hordered, hshelf⟩ := hfresh.run requests hfew
  have hshelf : u.shelf = shelf := hshelf.trans (congrArg (Shelf.run · requests) hempty)
  have hsize : u.store.size = shelf.row.length := by
    rw [← hshelf, Use.shelf, List.length_map, length_inOrder]
    rfl
  have hcapacity : u.store.capacity = max 1 maxEntries :=
    (congrArg Shelf.capacity hshelf).trans (Shelf.capacity_run ..)
  obtain ⟨found, missed, hhits, hmisses, hcount⟩ :=
    run_counted (u := ⟨AnswerStore.new ttl maxEntries, 0⟩) requests
  have hhits : u.store.hits = .ofNat found := hhits.trans (UInt64.zero_add _)
  have hmisses : u.store.misses = .ofNat missed := hmisses.trans (UInt64.zero_add _)
  refine ⟨hshelf, fun r => ?_, hsize, hcapacity ▸ hordered.fits, ?_, fun hgets => ?_⟩
  · rw [← hshelf, shelf_step hordered hfew]
  · rw [hhits, hmisses, ← UInt64.ofNat_add, hcount]
  · rw [hhits, hmisses, UInt64.toNat_ofNat_of_lt' (by omega), UInt64.toNat_ofNat_of_lt' (by omega),
      hcount]

/-- Two answers for a store that has room for one; the second is found while it is young. -/
def twoAnswers : List Request :=
  let key (question : String) : AnswerKey := ⟨"acme", "sales", question, "", ""⟩
  [.put (key "total") ⟨"42", "small"⟩, .wait 3, .put (key "mean") ⟨"7", "small"⟩,
    .get (key "mean"), .wait 5, .get (key "mean")]

theorem two_answers_for_one_place :
    let u := run ⟨AnswerStore.new 5 0, 0⟩ twoAnswers
    twoAnswers.countP (· matches .put ..) < UInt64.size ∧
      u.shelf = { ttl := 5, capacity := 1, row := [], now := 8, hits := 1, misses := 1 } ∧
      u.store.size = 0 ∧ u.store.hits.toNat + u.store.misses.toNat = 2 := by
  intro u
  have hfew : twoAnswers.countP (· matches .put ..) < UInt64.size := by decide
  obtain ⟨hshelf, -, hsize, -, -, hcounted⟩ := store_is_shelf 5 0 twoAnswers hfew
  have hrun : Shelf.run { ttl := 5, capacity := max 1 0 } twoAnswers =
      { ttl := 5, capacity := 1, row := [], now := 8, hits := 1, misses := 1 } := by
    simp [Shelf.run, Shelf.step, Shelf.keep, Shelf.isFresh, twoAnswers, List.rtake]
  rw [hrun] at hshelf hsize
  exact ⟨hfew, hshelf, hsize, hcounted (by decide)⟩

end Use

end AnswerStore

end ResilientChat
