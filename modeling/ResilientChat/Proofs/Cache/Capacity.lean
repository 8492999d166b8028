import ResilientChat.Proofs.Cache.Shelf

/-!
How many answers a store holds: never more than its capacity, and as many as that. A write throws
nothing away before there is one answer too many. This does not depend on the numbers of the writes,
and so it also holds after the numbers have come round.
-/

namespace ResilientChat

namespace AnswerStore

structure Fits (s : AnswerStore) (n : Nat) : Prop where
  capacity : s.capacity = n
  size_le : s.size ≤ n

variable {s : AnswerStore} {n : Nat}

theorem fits_new (ttl : Duration) (maxEntries : Nat) :
    (new ttl maxEntries).Fits (max maxEntries 1) :=
  ⟨rfl, Nat.zero_le _⟩

theorem size_put (s : AnswerStore) (key : AnswerKey) (answer : CachedAnswer) (now : Instant) :
    (s.put key answer now).size =
      min ((s.entries.erase key.fingerprint).size + 1) s.capacity := by
  rw [put, size, size_evict _ _ (Nat.le_add_left _ _), NameMap.size_insert]

/-- Throwing entries away makes more room. -/
theorem Fits.filter {s' : AnswerStore} {p : String → StoredAnswer → Bool} (h : s.Fits n)
    (hentries : s'.entries = s.entries.filter p) (hcapacity : s'.capacity = s.capacity) :
    s'.Fits n where
  capacity := hcapacity.trans h.capacity
  size_le := by
    rw [size, hentries]
    exact (List.length_filter_le ..).trans h.size_le

namespace Use

variable {u : Use}

theorem fits_step (h : u.store.Fits n) (r : Request) : (u.step r).1.store.Fits n := by
  cases r with
  | put key answer =>
      refine ⟨h.capacity, ?_⟩
      rw [step, size_put, h.capacity]
      exact min_le_right _ _
  | get key =>
      simp only [step, AnswerStore.get]
      cases u.store.entries.get? key.fingerprint with
      | none => exact ⟨h.capacity, h.size_le⟩
      | some e =>
          simp only
          cases u.store.isFresh e u.now with
          | true => exact ⟨h.capacity, h.size_le⟩
          | false => exact h.filter (p := fun k _ => k ≠ key.fingerprint) rfl rfl
  | purge => exact h.filter (p := fun _ e => u.store.isFresh e u.now) rfl rfl
  | invalidate tenant => exact h.filter (p := fun _ e => e.tenant ≠ tenant) rfl rfl
  | wait => exact ⟨h.capacity, h.size_le⟩

theorem fits_run (h : u.store.Fits n) (requests : List Request) :
    (u.run requests).store.Fits n := by
  induction requests using List.reverseRecOn with
  | nil => exact h
  | append_singleton requests r ih =>
      rw [run_concat]
      exact fits_step ih r

end Use

end AnswerStore

end ResilientChat
