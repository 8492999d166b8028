import ResilientChat.Dispatcher
import ResilientChat.Proofs.Cache.Capacity

/-!
What the check of the settings is worth. It passes exactly the settings that keep every rule, in
whatever order the entries are looked at, and otherwise names a field that breaks its rule. What is
made of settings that pass is what they say: no limit has to be raised to make sense.
-/

namespace ResilientChat

namespace Tuning

structure Valid (t : Tuning) : Prop where
  threshold : 1 ≤ t.failureThreshold
  finite : t.multiplier.isFinite = true
  multiplier : 1.0 ≤ t.multiplier
  maxDelay : ∀ ms, t.maxDelayMs = some ms → t.initialDelayMs ≤ ms

inductive Broken (t : Tuning) (owner : String) : SettingsFault → Prop
  | threshold (hbroken : t.failureThreshold < 1) :
      Broken t owner ⟨owner ++ ".failure_threshold", "must be at least 1"⟩
  | multiplier (hbroken : ¬(t.multiplier.isFinite = true ∧ 1.0 ≤ t.multiplier)) :
      Broken t owner ⟨owner ++ ".backoff_multiplier",
        "must be >= 1.0, got " ++ (Decimal.Binary.ofFloat t.multiplier).plain⟩
  | maxDelay {ms : UInt64} (hmax : t.maxDelayMs = some ms) (hbroken : ms < t.initialDelayMs) :
      Broken t owner ⟨owner ++ ".max_delay_ms", "must not be below initial_delay_ms"⟩

variable {t : Tuning} {owner : String} {fault : SettingsFault}

/-- Either the tuning keeps its rules, or the fault that is found is one that it has. -/
theorem fault?_cases (t : Tuning) (owner : String) :
    t.fault? owner = none ∧ t.Valid ∨
      ∃ fault, t.fault? owner = some fault ∧ t.Broken owner fault := by
  rw [fault?]
  split
  · next hzero => exact .inr ⟨_, rfl, .threshold (UInt32.lt_one_iff.mpr hzero)⟩
  · next hthreshold =>
    split
    · next hmultiplier =>
      refine .inr ⟨_, rfl, .multiplier fun ⟨hfinite, hone⟩ => ?_⟩
      simp [hfinite, hone] at hmultiplier
    · next hmultiplier =>
      split
      · next hmax =>
        obtain ⟨ms, hms, hlt⟩ := (Option.any_eq_true _ _).mp hmax
        exact .inr ⟨_, rfl, .maxDelay hms (of_decide_eq_true hlt)⟩
      · next hmax =>
        have hone : t.multiplier.isFinite = true ∧ 1.0 ≤ t.multiplier := by
          simpa using hmultiplier
        refine .inl ⟨rfl, ?_, hone.1, hone.2, fun ms hms => ?_⟩
        · exact UInt32.not_lt.mp (mt UInt32.lt_one_iff.mp hthreshold)
        · simpa [hms] using hmax

theorem broken_of_fault? (h : t.fault? owner = some fault) : t.Broken owner fault := by
  obtain ⟨hnone, -⟩ | ⟨found, hfound, hbroken⟩ := t.fault?_cases owner
  · cases hnone.symm.trans h
  · cases hfound.symm.trans h
    exact hbroken

theorem valid_of_fault? (h : t.fault? owner = none) : t.Valid := by
  obtain ⟨-, hvalid⟩ | ⟨found, hfound, -⟩ := t.fault?_cases owner
  · exact hvalid
  · cases hfound.symm.trans h

theorem Broken.not_valid (h : t.Broken owner fault) : ¬t.Valid := by
  intro hvalid
  cases h with
  | threshold hbroken => exact absurd hvalid.threshold (UInt32.not_le.mpr hbroken)
  | multiplier hbroken => exact hbroken ⟨hvalid.finite, hvalid.multiplier⟩
  | maxDelay hmax hbroken => exact absurd (hvalid.maxDelay _ hmax) (UInt64.not_le.mpr hbroken)

/-- A threshold and a factor that keep their rules need not be raised. -/
theorem Valid.limits_eq (h : t.Valid) :
    Breaker.Limits.ofTuning t = ⟨t.failureThreshold, .ofMillis t.breakMs.toNat, t.enabled⟩ := by
  have hpositive : t.failureThreshold ≠ 0 := fun hzero =>
    absurd h.threshold (UInt32.not_le.mpr (UInt32.lt_one_iff.mpr hzero))
  rw [Breaker.Limits.ofTuning, Breaker.Limits.atLeastOne, if_neg hpositive]
  rfl

theorem Valid.backoff_eq (h : t.Valid) :
    Backoff.ofTuning t =
      ⟨t.maxRetries, .ofMillis t.initialDelayMs.toNat, t.multiplier,
        t.maxDelayMs.map fun ms => .ofMillis ms.toNat, t.jitter⟩ := by
  rw [Backoff.ofTuning, Backoff.atLeastOne, if_pos h.multiplier]
  rfl

end Tuning

namespace Settings

structure Valid (s : Settings) : Prop where
  defaults : s.defaults.Valid
  dependencies : ∀ name t, s.dependencies.get? name = some t → t.Valid
  cache : s.cache.enabled = true → 1 ≤ s.cache.maxEntries

inductive Broken (s : Settings) : SettingsFault → Prop
  | defaults {fault : SettingsFault} (hbroken : s.defaults.Broken "defaults" fault) :
      Broken s fault
  | dependency {name : String} {t : Tuning} {fault : SettingsFault}
      (hget : s.dependencies.get? name = some t)
      (hbroken : t.Broken ("dependencies." ++ name) fault) : Broken s fault
  | cache (henabled : s.cache.enabled = true) (hbroken : s.cache.maxEntries < 1) :
      Broken s ⟨"cache.max_entries", "must be at least 1 when the cache is enabled"⟩

variable {s : Settings} {entries : List (String × Tuning)} {fault : SettingsFault}

theorem Broken.not_valid (h : s.Broken fault) : ¬s.Valid := by
  intro hvalid
  cases h with
  | defaults hbroken => exact hbroken.not_valid hvalid.defaults
  | dependency hget hbroken => exact hbroken.not_valid (hvalid.dependencies _ _ hget)
  | cache henabled hbroken => exact absurd (hvalid.cache henabled) (UInt64.not_le.mpr hbroken)

/-- The first rule found broken is broken. -/
theorem broken_of_faultIn (hperm : entries.Perm s.dependencies.entries)
    (h : s.faultIn entries = some fault) : s.Broken fault := by
  simp only [faultIn, Option.orElse_eq_orElse, Option.orElse_eq_or, Option.or_eq_some_iff] at h
  rcases h with hdefaults | ⟨-, hdependency | ⟨-, hcache⟩⟩
  · exact .defaults (Tuning.broken_of_fault? hdefaults)
  · obtain ⟨e, hmem, hfault⟩ := List.exists_of_findSome?_eq_some hdependency
    have hget := s.dependencies.get?_eq_some_iff_mem.mpr (hperm.mem_iff.mp hmem)
    exact .dependency hget (Tuning.broken_of_fault? hfault)
  · split at hcache
    · next hempty =>
      cases hcache
      rw [Bool.and_eq_true, decide_eq_true_eq] at hempty
      exact .cache hempty.1 (UInt64.lt_one_iff.mpr hempty.2)
    · cases hcache

/-- Where no rule is found broken, none is. -/
theorem valid_of_faultIn (hperm : entries.Perm s.dependencies.entries)
    (h : s.faultIn entries = none) : s.Valid := by
  simp only [faultIn, Option.orElse_eq_orElse, Option.orElse_eq_or, Option.or_eq_none_iff,
    List.findSome?_eq_none_iff] at h
  obtain ⟨hdefaults, hdependencies, hcache⟩ := h
  refine ⟨Tuning.valid_of_fault? hdefaults, fun name t hget => ?_, fun henabled => ?_⟩
  · have hmem := hperm.mem_iff.mpr (s.dependencies.get?_eq_some_iff_mem.mp hget)
    exact Tuning.valid_of_fault? (hdependencies (name, t) hmem)
  · refine UInt64.not_lt.mp fun hempty => ?_
    simp [henabled, UInt64.lt_one_iff.mp hempty] at hcache

theorem faultIn_eq_none_iff (hperm : entries.Perm s.dependencies.entries) :
    s.faultIn entries = none ↔ s.Valid := by
  refine ⟨valid_of_faultIn hperm, fun hvalid => ?_⟩
  cases h : s.faultIn entries with
  | none => rfl
  | some fault => exact absurd hvalid (broken_of_faultIn hperm h).not_valid

theorem validate_eq_ok_iff : s.validate = .ok () ↔ s.faultIn s.dependencies.entries = none := by
  rw [validate]
  cases s.faultIn s.dependencies.entries with
  | none => simp
  | some fault => simp

theorem validate_eq_error_iff :
    s.validate = .error fault ↔ s.faultIn s.dependencies.entries = some fault := by
  rw [validate]
  cases s.faultIn s.dependencies.entries with
  | none => simp
  | some fault => simp

/-- Whether it has an entry of its own or not, a dependency's tuning keeps its rules. -/
theorem Valid.tuningFor (h : s.Valid) (name : String) : (s.tuningFor name).Valid := by
  rw [Settings.tuningFor]
  cases hget : s.dependencies.get? name with
  | none => exact h.defaults
  | some t => exact h.dependencies name t hget

/-- The cache of the settings, if there is to be one, has room for what they say. -/
theorem Valid.fits (h : s.Valid) (henabled : s.cache.enabled = true) :
    (AnswerStore.ofTuning s.cache).Fits s.cache.maxEntries.toNat := by
  have hone : 1 ≤ s.cache.maxEntries.toNat := UInt64.le_iff_toNat_le.mp (h.cache henabled)
  exact max_eq_left hone ▸ AnswerStore.fits_new s.cache.ttl s.cache.maxEntries.toNat

end Settings

/-- The check of the settings is exact, and what is made of settings that pass it is what they say.
In whatever order the entries of the dependencies are looked at, settings pass exactly if they keep
every rule, and otherwise the fault that is reported is that of a field which breaks its rule. If
they pass, the limits and the backoff of every dependency are those of its tuning, number for
number; the cache is there exactly if it is enabled, and, whatever it is asked, it never holds more
answers than configured, while a write throws nothing away before there is one too many. -/
theorem settings_checked_exactly (s : Settings) :
    (∀ entries, entries.Perm s.dependencies.entries →
      (s.faultIn entries = none ↔ s.Valid) ∧
      ∀ fault, s.faultIn entries = some fault → s.Broken fault) ∧
    (s.validate = .ok () ↔ s.Valid) ∧
    (∀ fault, s.validate = .error fault → s.Broken fault) ∧
    (s.Valid →
      (∀ d : Dispatcher, d.settings = s → ∀ name,
        let t := s.tuningFor name
        d.limitsFor name = ⟨t.failureThreshold, .ofMillis t.breakMs.toNat, t.enabled⟩ ∧
        d.backoffs.obtain name =
          ⟨t.maxRetries, .ofMillis t.initialDelayMs.toNat, t.multiplier,
            t.maxDelayMs.map fun ms => .ofMillis ms.toNat, t.jitter⟩) ∧
      (s.cache.enabled = false → AnswerGate.ofTuning s.cache = ⟨none⟩) ∧
      (s.cache.enabled = true →
        ∃ store, AnswerGate.ofTuning s.cache = ⟨some store⟩ ∧ store.size = 0 ∧
          ∀ requests,
            let u := AnswerStore.Use.run ⟨store, 0⟩ requests
            u.store.size ≤ s.cache.maxEntries.toNat ∧
            ∀ key answer, (u.store.put key answer u.now).size =
              min ((u.store.entries.erase key.fingerprint).size + 1)
                s.cache.maxEntries.toNat)) := by
  refine ⟨fun entries hperm => ⟨Settings.faultIn_eq_none_iff hperm,
      fun _ => Settings.broken_of_faultIn hperm⟩,
    Settings.validate_eq_ok_iff.trans (Settings.faultIn_eq_none_iff (.refl _)),
    fun fault h => Settings.broken_of_faultIn (.refl _) (Settings.validate_eq_error_iff.mp h),
    fun hvalid => ⟨?_, fun hdisabled => ?_, fun henabled => ?_⟩⟩
  · rintro d rfl name
    have htuning := hvalid.tuningFor name
    exact ⟨htuning.limits_eq, (d.backoffs.obtain_eq name).trans htuning.backoff_eq⟩
  · rw [AnswerGate.ofTuning, hdisabled]
    rfl
  · refine ⟨AnswerStore.ofTuning s.cache, ?_, rfl, fun requests => ?_⟩
    · rw [AnswerGate.ofTuning, henabled]
      rfl
    · have hfits : (AnswerStore.Use.run ⟨AnswerStore.ofTuning s.cache, 0⟩ requests).store.Fits _ :=
        AnswerStore.Use.fits_run (hvalid.fits henabled) requests
      refine ⟨hfits.size_le, fun key answer => ?_⟩
      rw [AnswerStore.size_put, hfits.capacity]

/-- One dependency has a tuning of its own, and the cache has room for one answer. -/
def smallSettings : Settings where
  dependencies := (∅ : NameMap Tuning).insert "llm"
    { failureThreshold := 1, multiplier := 1.5, maxDelayMs := none, jitter := false }
  cache := { maxEntries := 1 }

theorem small_settings_pass :
    smallSettings.Valid ∧
      (Dispatcher.ofSettings smallSettings).limitsFor "llm" = ⟨1, .ofMillis 30000, true⟩ ∧
      (Dispatcher.ofSettings smallSettings).limitsFor "sql" = ⟨5, .ofMillis 30000, true⟩ ∧
      ∃ store, AnswerGate.ofTuning smallSettings.cache = ⟨some store⟩ ∧
        ∀ key answer, (store.put key answer 0).size = 1 := by
  obtain ⟨-, hvalidate, -, hmade⟩ := settings_checked_exactly smallSettings
  have hvalid : smallSettings.Valid :=
    hvalidate.mp (Settings.validate_eq_ok_iff.mpr (by decide +kernel))
  obtain ⟨hdispatcher, -, hcache⟩ := hmade hvalid
  obtain ⟨hllm, -⟩ := hdispatcher (.ofSettings smallSettings) rfl "llm"
  obtain ⟨hsql, -⟩ := hdispatcher (.ofSettings smallSettings) rfl "sql"
  obtain ⟨store, hstore, -, hholds⟩ := hcache rfl
  refine ⟨hvalid, hllm, hsql, store, hstore, fun key answer => ?_⟩
  obtain ⟨-, hput⟩ := hholds []
  exact (hput key answer).trans (min_eq_right (Nat.le_add_left 1 _))

end ResilientChat
