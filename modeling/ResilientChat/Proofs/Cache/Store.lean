import ResilientChat.Cache.Store

/-!
Where the entries of an answer store come from. Looking an answer up, throwing entries away and
making room leave no entry that was not there; only a write files one, under the fingerprint of
its key.
-/

namespace ResilientChat

namespace AnswerStore

theorem get?_evict {capacity : Nat} {fingerprint : String} {e : StoredAnswer} (bound : Nat)
    {entries : NameMap StoredAnswer}
    (h : (evict capacity bound entries).get? fingerprint = some e) :
    entries.get? fingerprint = some e := by
  fun_induction evict capacity bound entries with
  | case1 | case2 | case4 => exact h
  | case3 entries bound _ oldest other _ ih =>
      have hkept := ih h
      rw [NameMap.get?_erase] at hkept
      split at hkept
      · cases hkept
      · exact hkept

section Entries

variable (s : AnswerStore) (key : AnswerKey) (answer : CachedAnswer) (now : Instant)
  {fingerprint : String} {e : StoredAnswer}

/-- A found answer is that of an entry which is young enough. -/
theorem get_eq_some {found : CachedAnswer} {s' : AnswerStore}
    (h : s.get key now = (s', some found)) :
    ∃ e, s.entries.get? key.fingerprint = some e ∧ e.answer = found ∧
      now - e.storedAt < s.ttl := by
  rw [get] at h
  cases hentry : s.entries.get? key.fingerprint with
  | none => simp [hentry] at h
  | some e =>
      simp only [hentry] at h
      split at h
      · next hfresh =>
        cases h
        exact ⟨e, rfl, rfl, of_decide_eq_true hfresh⟩
      · cases h

theorem get?_get (h : (s.get key now).1.entries.get? fingerprint = some e) :
    s.entries.get? fingerprint = some e := by
  rw [get] at h
  split at h
  · split at h
    · exact h
    · rw [NameMap.get?_erase] at h
      split at h
      · cases h
      · exact h
  · exact h

/-- An entry of the store after a write is the one written, or an earlier one of another key. -/
theorem get?_put (h : (s.put key answer now).entries.get? fingerprint = some e) :
    if fingerprint = key.fingerprint then e.answer = answer ∧ e.storedAt = now
    else s.entries.get? fingerprint = some e := by
  have hinsert := get?_evict _ h
  rw [NameMap.get?_insert] at hinsert
  split at hinsert
  · next hkey =>
    cases hinsert
    rw [if_pos hkey]
    exact ⟨rfl, rfl⟩
  · next hkey =>
    rw [if_neg hkey]
    exact hinsert

/-- An answer that was written into a store with room for it is found while it is young. -/
theorem get_put {later : Instant}
    (hroom : (s.entries.insert key.fingerprint ⟨key.tenant, answer, now, s.serial⟩).size ≤
      s.capacity)
    (hage : later - now < s.ttl) : ((s.put key answer now).get key later).2 = some answer := by
  have hevict (bound : Nat) {entries : NameMap StoredAnswer} (h : entries.size ≤ s.capacity) :
      evict s.capacity bound entries = entries := by
    cases bound with
    | zero => rfl
    | succ bound => rw [evict, if_pos h]
  have hentry : (s.put key answer now).entries.get? key.fingerprint =
      some ⟨key.tenant, answer, now, s.serial⟩ := by
    simp only [put, hevict _ hroom, NameMap.get?_insert, if_true]
  have hfresh : (s.put key answer now).isFresh ⟨key.tenant, answer, now, s.serial⟩ later = true :=
    decide_eq_true hage
  simp only [get, hentry, hfresh, if_true]

theorem get?_retain {p : StoredAnswer → Bool}
    (h : (s.retain p).1.entries.get? fingerprint = some e) :
    s.entries.get? fingerprint = some e := by
  rw [retain, NameMap.get?_filter, Option.filter_eq_some_iff] at h
  exact h.1

@[simp] theorem ttl_get : (s.get key now).1.ttl = s.ttl := by
  rw [get]
  split
  · split <;> rfl
  · rfl

@[simp] theorem ttl_put : (s.put key answer now).ttl = s.ttl := rfl

@[simp] theorem ttl_retain (p : StoredAnswer → Bool) : (s.retain p).1.ttl = s.ttl := rfl

end Entries

end AnswerStore

namespace AnswerGate

def entryAt? (g : AnswerGate) (fingerprint : String) : Option StoredAnswer :=
  g.store.bind (·.entries.get? fingerprint)

/-- The age that no found answer reaches; none without a store. -/
def ttl? (g : AnswerGate) : Option Duration := g.store.map (·.ttl)

section Entries

variable {g : AnswerGate} {policy : Policy} {key : AnswerKey} {answer : CachedAnswer}
  {now : Instant} {fingerprint : String} {e : StoredAnswer}

theorem get_of_bypasses (h : policy.bypassesCache = true) : g.get policy key now = (g, none) := by
  rw [get, if_pos h]

theorem get_of_store {s : AnswerStore} (hpolicy : policy.bypassesCache = false)
    (hstore : g.store = some s) :
    g.get policy key now = (⟨some (s.get key now).1⟩, (s.get key now).2) := by
  simp only [get, hpolicy, hstore, Bool.false_eq_true, if_false]

/-- A store that has not been used finds nothing. -/
theorem get_ofTuning (t : CacheTuning) (policy : Policy) (key : AnswerKey) (now : Instant) :
    ((ofTuning t).get policy key now).2 = none := by
  cases hpolicy : policy.bypassesCache with
  | true => rw [get_of_bypasses hpolicy]
  | false =>
      rw [get, ofTuning, hpolicy]
      cases t.enabled <;> rfl

theorem put_of_bypasses (h : policy.bypassesCache = true) :
    (g.put policy key answer now).1 = g := by
  rw [put, if_pos h]

/-- A found answer is that of an entry which is young enough, and the policy allows to read it. -/
theorem get_eq_some {g' : AnswerGate} {found : CachedAnswer}
    (h : g.get policy key now = (g', some found)) :
    policy.bypassesCache = false ∧ ∃ e ttl, g.entryAt? key.fingerprint = some e ∧
      e.answer = found ∧ g.ttl? = some ttl ∧ now - e.storedAt < ttl := by
  cases hpolicy : policy.bypassesCache with
  | true => simp [get_of_bypasses hpolicy] at h
  | false =>
      cases hstore : g.store with
      | none => simp [get, hpolicy, hstore] at h
      | some s =>
          rw [get_of_store hpolicy hstore] at h
          have hsome : s.get key now = ((s.get key now).1, some found) :=
            Prod.ext rfl (Prod.mk.inj h).2
          obtain ⟨e, hentry, hanswer, hage⟩ := s.get_eq_some key now hsome
          exact ⟨rfl, e, s.ttl, by simpa [entryAt?, hstore] using hentry, hanswer,
            by simp [ttl?, hstore], hage⟩

theorem entryAt?_get (h : (g.get policy key now).1.entryAt? fingerprint = some e) :
    g.entryAt? fingerprint = some e := by
  cases hpolicy : policy.bypassesCache with
  | true => rwa [get_of_bypasses hpolicy] at h
  | false =>
      cases hstore : g.store with
      | none => simpa [get, hpolicy, hstore] using h
      | some s =>
          rw [get_of_store hpolicy hstore] at h
          have hentry := s.get?_get key now h
          simpa [entryAt?, hstore] using hentry

/-- An entry after a write is the one written, where the policy allows to write it, or an earlier
one. -/
theorem entryAt?_put (h : (g.put policy key answer now).1.entryAt? fingerprint = some e) :
    if policy.bypassesCache = false ∧ fingerprint = key.fingerprint then
      e.answer = answer ∧ e.storedAt = now
    else g.entryAt? fingerprint = some e := by
  cases hpolicy : policy.bypassesCache with
  | true => simpa [put_of_bypasses hpolicy] using h
  | false =>
      cases hstore : g.store with
      | none => simp [put, hpolicy, hstore, entryAt?] at h
      | some s =>
          simp only [put, hpolicy, hstore, Bool.false_eq_true, if_false] at h
          have hentry := s.get?_put key answer now h
          simpa [entryAt?, hstore] using hentry

/-- Keeping some of the entries brings in none. -/
theorem entryAt?_retain {p : AnswerStore → StoredAnswer → Bool}
    (h : entryAt? ⟨g.store.map fun s => (s.retain (p s)).1⟩ fingerprint = some e) :
    g.entryAt? fingerprint = some e := by
  cases hstore : g.store with
  | none => simp [hstore, entryAt?] at h
  | some s =>
      have hentry := s.get?_retain (p := p s) (by simpa [entryAt?, hstore] using h)
      simpa [entryAt?, hstore] using hentry

variable (g policy key answer now)

@[simp] theorem ttl?_get : (g.get policy key now).1.ttl? = g.ttl? := by
  rw [get]
  split
  · rfl
  · split
    · next hstore => simp [ttl?, hstore]
    · rfl

@[simp] theorem ttl?_put : (g.put policy key answer now).1.ttl? = g.ttl? := by
  rw [put]
  split
  · rfl
  · split
    · next hstore => simp [ttl?, hstore]
    · rfl

@[simp] theorem ttl?_retain (p : AnswerStore → StoredAnswer → Bool) :
    ttl? ⟨g.store.map fun s => (s.retain (p s)).1⟩ = g.ttl? := by
  simp [ttl?, Function.comp_def]

/-- What is left without the answers of a tenant. -/
theorem invalidate_eq (tenant : String) :
    (g.invalidate tenant).1 = ⟨g.store.map fun s => (s.retain (·.tenant ≠ tenant)).1⟩ := by
  obtain ⟨store⟩ := g
  cases store <;> rfl

end Entries

end AnswerGate

end ResilientChat
