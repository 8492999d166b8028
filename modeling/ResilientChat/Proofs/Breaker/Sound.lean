import ResilientChat.Proofs.Breaker.InFlight

/-!
What holds of a breaker in every state that its calls can bring it to: a
circuit that does not count stays closed or isolated, a closed circuit is below
its threshold, and an open or half-open one has reached it.
-/

namespace ResilientChat

namespace Breaker

theorem increase_toNat (n : UInt32) :
    (increase n).toNat = min (n.toNat + 1) (UInt32.size - 1) := by
  have hn := n.toNat_lt
  by_cases hmax : n = 0xFFFFFFFF
  · subst hmax
    rfl
  · have hne : n.toNat ≠ 0xFFFFFFFF := fun h => hmax (UInt32.toNat_inj.mp h)
    have hone : (1 : UInt32).toNat = 1 := rfl
    simp only [increase, hmax, if_false, UInt32.toNat_add, hone, UInt32.size]
    omega

/-- Failures in a row that open a circuit; the threshold zero opens it like one. -/
def Limits.limit (l : Limits) : Nat := max 1 l.threshold.toNat

theorem Limits.limit_pos (l : Limits) : 0 < l.limit := Nat.le_max_left 1 _

theorem Limits.limit_lt (l : Limits) : l.limit < UInt32.size :=
  Nat.max_lt.mpr ⟨by decide, l.threshold.toNat_lt⟩

theorem Limits.limit_le_increase_iff (l : Limits) (n : UInt32) :
    l.limit ≤ (increase n).toNat ↔ l.threshold ≤ increase n := by
  rw [UInt32.le_iff_toNat_le, Limits.limit, increase_toNat, UInt32.size]
  omega

namespace Circuit

/-- The counter and the phase agree with the limits. -/
structure Sound (c : Circuit) (l : Limits) : Prop where
  disabled : l.enabled = false → (c.phase = .closed ∨ c.phase = .isolated) ∧ c.failures = 0
  below : c.phase = .closed → c.failures.toNat < l.limit
  reached : c.phase = .opened ∨ c.phase = .halfOpen →
    l.limit ≤ c.failures.toNat ∧ c.openedAt.isSome

variable {l : Limits} {c c' : Circuit} {a : Admission} {v : Verdict} {now : Instant}
  {change : Option Change}

theorem Sound.closed (l : Limits) (generation : UInt64) :
    Sound ⟨.closed, 0, none, false, generation⟩ l where
  disabled := fun _ => ⟨.inl rfl, rfl⟩
  below := fun _ => l.limit_pos
  reached := by simp

/-- A closed circuit has room for one more failure. -/
theorem Sound.increase_failures (h : c.Sound l) (hphase : c.phase = .closed) :
    (increase c.failures).toNat = c.failures.toNat + 1 := by
  have hbelow := h.below hphase
  have hlimit := l.limit_lt
  rw [increase_toNat]
  omega

theorem Sound.entry (h : c.Sound l) (hentry : Entry l c now a c' change) : c'.Sound l := by
  cases hentry with
  | bypass | normal => exact h
  | probe henabled hphase =>
      exact ⟨h.disabled, h.below, h.reached⟩
  | halfOpen henabled hphase =>
      have hreached := h.reached (.inl hphase)
      exact ⟨by simp [henabled], by simp, fun _ => hreached⟩

theorem Sound.ending (h : c.Sound l) (ha : a = .bypass ↔ l.enabled = false)
    (hending : Ending l c a v now c' change) : c'.Sound l := by
  cases hending with
  | ignored => exact h
  | freed => exact ⟨h.disabled, h.below, h.reached⟩
  | cleared _ hphase =>
      exact ⟨fun hdisabled => ⟨(h.disabled hdisabled).1, rfl⟩,
        fun _ => l.limit_pos, by simp [hphase]⟩
  | counted hcounts hphase _ hbelow =>
      refine ⟨fun hdisabled => absurd (ha.mpr hdisabled) hcounts, fun _ => ?_, by simp [hphase]⟩
      rwa [← Limits.limit_le_increase_iff, Nat.not_le] at hbelow
  | tripped hcounts _ _ hreached =>
      refine ⟨fun hdisabled => absurd (ha.mpr hdisabled) hcounts, by simp, fun _ => ⟨?_, rfl⟩⟩
      exact (l.limit_le_increase_iff _).mpr hreached
  | recovered => exact .closed l _
  | reopened hprobe =>
      have hreached := (h.reached (.inr hprobe.1)).1
      refine ⟨fun hdisabled => ?_, by simp, fun _ => ⟨Nat.le_trans hreached ?_, rfl⟩⟩
      · have hphase := (h.disabled hdisabled).1
        simp [hprobe.1] at hphase
      · have hlt := c.failures.toNat_lt
        rw [increase_toNat, UInt32.size]
        omega

/-- The circuit did not open later than that. -/
def OpenedBy (c : Circuit) (now : Instant) : Prop :=
  ∀ opened, c.openedAt = some opened → opened ≤ now

theorem OpenedBy.entry (h : c.OpenedBy now) (hentry : Entry l c now a c' change) :
    c'.OpenedBy now := by
  cases hentry <;> exact h

theorem OpenedBy.ending (h : c.OpenedBy now) (hending : Ending l c a v now c' change) :
    c'.OpenedBy now := by
  cases hending with
  | ignored | freed | cleared | counted => exact h
  | tripped | reopened =>
      intro opened hopened
      cases hopened
      exact Nat.le_refl now
  | recovered => simp [OpenedBy]

end Circuit

namespace Traffic

/-- The circuit is sound, and calls bypass it exactly when it does not count. -/
structure Sound (t : Traffic) : Prop where
  circuit : t.breaker.circuit.Sound t.breaker.limits
  opened : t.breaker.circuit.OpenedBy t.now
  bypass : ∀ call ∈ t.inFlight, call.2 = .bypass ↔ t.breaker.limits.enabled = false

/-- No call under way bypasses a circuit that counts. -/
theorem Sound.not_bypass {t : Traffic} (h : t.Sound) (henabled : t.breaker.limits.enabled = true)
    {ticket : Nat} {a : Admission} (hflight : t.admission? ticket = some a) : a ≠ .bypass := by
  intro ha
  have hdisabled := (h.bypass _ (mem_of_admission? hflight)).mp ha
  simp [henabled] at hdisabled

theorem fresh_sound (name : String) (limits : Limits) : (fresh name limits).Sound where
  circuit := .closed limits 0
  opened := by simp [Circuit.OpenedBy, fresh]
  bypass := by simp [fresh]

theorem Sound.step {t : Traffic} {e : Event} {s : Step} (ht : t.Sound) (h : Transit t e s) :
    s.traffic.Sound := by
  -- The end of a call leaves fewer calls under way, each let through as before.
  have hreleased (ticket : Nat) : ∀ call ∈ (t.release ticket).inFlight,
      call.2 = .bypass ↔ t.breaker.limits.enabled = false :=
    fun call hmem => ht.bypass call (mem_release.mp hmem).1
  cases h with
  | givenUp | refused | unknownFinished | unknownDropped =>
      exact ⟨ht.circuit, ht.opened, ht.bypass⟩
  | waited d =>
      exact ⟨ht.circuit, fun opened h => Nat.le_add_right_of_le (ht.opened opened h), ht.bypass⟩
  | admitted hentry =>
      refine ⟨ht.circuit.entry hentry, ht.opened.entry hentry, fun call hmem => ?_⟩
      rcases List.mem_append.mp hmem with hmem | hmem
      · exact ht.bypass call hmem
      · rw [List.mem_singleton.mp hmem]
        exact hentry.bypass_iff
  | finished hflight hending =>
      have hbypass := ht.bypass _ (mem_of_admission? hflight)
      exact ⟨ht.circuit.ending hbypass hending, ht.opened.ending hending, hreleased _⟩
  | droppedProbe =>
      exact ⟨⟨ht.circuit.disabled, ht.circuit.below, ht.circuit.reached⟩, ht.opened, hreleased _⟩
  | dropped => exact ⟨ht.circuit, ht.opened, hreleased _⟩
  | isolated =>
      refine ⟨⟨fun hdisabled => ⟨.inr rfl, (ht.circuit.disabled hdisabled).2⟩, ?_, ?_⟩,
        ht.opened, ht.bypass⟩
      · simp [moved, movedTo]
      · simp [moved, movedTo]
  | isolatedAgain =>
      exact ⟨⟨ht.circuit.disabled, ht.circuit.below, ht.circuit.reached⟩, ht.opened, ht.bypass⟩
  | closed | closedAgain =>
      exact ⟨.closed _ _, by simp [Circuit.OpenedBy, moved, movedTo], ht.bypass⟩

theorem run_sound (name : String) (limits : Limits) (events : List Event) :
    ((fresh name limits).run events).Sound :=
  run_induction (fun _ _ _ _ h ht => ht.step h) (fresh_sound name limits)

end Traffic

end Breaker

end ResilientChat
