import ResilientChat.Proofs.Breaker.InFlight

/-!
Calls that end in another period than the one that let them through. An open, a
half-open and an isolated circuit ignore them. A closed circuit does not ask
when a call was let through: an ordinary call counts in whatever closed period
it ends.
-/

namespace ResilientChat

namespace Breaker

theorem Entry.probe_generation {l : Limits} {c c' : Circuit} {now : Instant} {a : Admission}
    {change : Option Change} {g : UInt64} (h : Entry l c now a c' change) (ha : a = .probe g) :
    g = c'.generation := by
  cases h <;> cases ha <;> rfl

section Endings

variable {l : Limits} {c c' : Circuit} {a : Admission} {v : Verdict} {now : Instant}
  {change : Option Change}

/-- A call that does not hold the probe's place changes a closed circuit only. -/
theorem Ending.eq_of_not_holds (h : Ending l c a v now c' change) (hprobe : ¬c.Holds a)
    (hidle : c.phase ≠ .closed ∨ v = .neutral) : c' = c := by
  cases h with
  | ignored => rfl
  | freed hholds | recovered hholds | reopened hholds => exact absurd hholds hprobe
  | cleared _ hphase hv | counted _ hphase hv | tripped _ hphase hv =>
      rcases hidle with h | h
      · exact absurd hphase h
      · cases hv.symm.trans h

theorem Ending.probing_eq (h : Ending l c a v now c' change) (hprobe : ¬c.Holds a) :
    c'.probing = c.probing := by
  cases h with
  | freed hholds | recovered hholds | reopened hholds => exact absurd hholds hprobe
  | _ => rfl

theorem Ending.eq_but_failures (h : Ending l c a .success now c' change)
    (hprobe : ¬c.Holds a) : c' = { c with failures := c'.failures } := by
  cases h with
  | ignored | cleared => rfl
  | freed _ hv | counted _ _ hv | tripped _ _ hv | reopened _ hv => cases hv
  | recovered hholds => exact absurd hholds hprobe

def Circuit.counting (c : Circuit) (l : Limits) (now : Instant) : Verdict → Circuit
  | .neutral => c
  | .success => { c with failures := 0 }
  | .failure =>
    if l.threshold ≤ increase c.failures then
      { c with
        phase := .opened
        failures := increase c.failures
        openedAt := some now
        generation := c.generation + 1 }
    else { c with failures := increase c.failures }

theorem Ending.eq_counting (h : Ending l c a v now c' change) (ha : a ≠ .bypass)
    (hphase : c.phase = .closed) : c' = c.counting l now v := by
  cases h with
  | ignored _ hidle =>
      rcases hidle with hbypass | rfl | hopen
      · exact absurd hbypass ha
      · rfl
      · exact absurd hphase hopen
  | freed hholds | recovered hholds | reopened hholds =>
      simp [hphase, Circuit.Holds] at hholds
  | cleared _ _ hv => rw [hv]; rfl
  | counted _ _ hv hbelow => simp [hv, Circuit.counting, hbelow]
  | tripped _ _ hv hreached => simp [hv, Circuit.counting, hreached]

end Endings

namespace Traffic

theorem Transit.mem_of_mem {t : Traffic} {e : Event} {s : Step} {call : Nat × Admission}
    (h : Transit t e s) (hlt : call.1 < t.started) (hmem : call ∈ s.traffic.inFlight) :
    call ∈ t.inFlight := by
  cases h with
  | admitted =>
      rcases List.mem_append.mp hmem with hmem | hnew
      · exact hmem
      · rw [List.mem_singleton.mp hnew] at hlt
        exact absurd hlt (Nat.lt_irrefl _)
  | finished | droppedProbe | dropped => exact (mem_release.mp hmem).1
  | _ => exact hmem

/-- A call under way was let through as it is when its run began, unless it started later. -/
theorem mem_of_mem_run {t : Traffic} {events : List Event} {call : Nat × Admission}
    (hlt : call.1 < t.started) (hmem : call ∈ (t.run events).inFlight) : call ∈ t.inFlight := by
  induction events generalizing t with
  | nil => exact hmem
  | cons e later ih =>
      have hstep := step_transit t e
      have hlt' : call.1 < (t.step e).traffic.started :=
        Nat.lt_of_lt_of_le hlt hstep.started_le
      exact hstep.mem_of_mem hlt (ih hlt' hmem)

/-- A call under way in a state that some run reaches, let through as `a` when the circuit was
in another period than now. -/
def Straggler (t : Traffic) (ticket : Nat) (a : Admission) : Prop :=
  ∃ name limits before after,
    let start := (fresh name limits).run before
    let begun := (start.step (.start false)).traffic
    start.Admits a ∧ start.started = ticket ∧ t = begun.run after ∧
      (t.admission? ticket).isSome ∧ t.breaker.generation ≠ begun.breaker.generation

theorem Straggler.admission?_eq {t : Traffic} {ticket : Nat} {a : Admission}
    (h : t.Straggler ticket a) : t.admission? ticket = some a := by
  obtain ⟨name, limits, before, after, hadmits, rfl, rfl, hflight, _⟩ := h
  let start := (fresh name limits).run before
  have hstart : start.Ticketed := run_ticketed name limits before
  obtain ⟨a', ha'⟩ := Option.isSome_iff_exists.mp hflight
  -- The ticket was given out at the start, so no later call can have it.
  have hlt : start.started < (start.step (.start false)).traffic.started := by
    have hstep := start_transit start false
    generalize start.step (.start false) = s at hstep ⊢
    cases hstep <;> exact Nat.lt_succ_self _
  have hmem : (start.started, a') ∈ (start.step (.start false)).traffic.inFlight :=
    mem_of_mem_run hlt (mem_of_admission? ha')
  rw [hadmits.2] at hmem
  rcases List.mem_append.mp hmem with hold | hnew
  · exact absurd (hstart.lt _ hold) (Nat.lt_irrefl _)
  · cases List.mem_singleton.mp hnew
    exact ha'

/-- A straggler holds no probe's place. -/
theorem Straggler.not_holds {t : Traffic} {ticket : Nat} {a : Admission}
    (h : t.Straggler ticket a) : ¬t.breaker.circuit.Holds a := by
  obtain ⟨name, limits, before, after, hadmits, rfl, rfl, _, hother⟩ := h
  rintro ⟨_, ha⟩
  exact hother (hadmits.entry.probe_generation ha)

/-- Two calls of the first closed period are under way in the second one, in which one call has
failed. -/
def afterReset : Traffic :=
  (fresh "llm" { threshold := 2 }).run
    [.start false, .start false, .start false, .start false, .finish 2 .failure,
      .finish 3 .failure, .reset, .start false, .finish 4 .failure]

/-- A call of the closed period before a reset can open the circuit again, and it can clear a
failure counted since the reset: closed circuits do not ignore stragglers. -/
theorem straggler_counts_after_reset :
    afterReset.Straggler 0 .normal ∧
      (afterReset.step (.finish 0 .failure)).traffic.breaker.phase = .opened ∧
      (afterReset.step (.finish 0 .success)).traffic.breaker.failures ≠
        afterReset.breaker.failures ∧
      ¬∀ (t : Traffic) (ticket : Nat) (a : Admission) (v : Verdict), t.Straggler ticket a →
        (t.step (.finish ticket v)).traffic.breaker.circuit = t.breaker.circuit := by
  have hstraggler : afterReset.Straggler 0 .normal := by
    refine ⟨"llm", { threshold := 2 }, [],
      [.start false, .start false, .start false, .finish 2 .failure, .finish 3 .failure, .reset,
        .start false, .finish 4 .failure], ?_, rfl, rfl, by decide, by decide⟩
    unfold Admits
    decide
  refine ⟨hstraggler, by decide, by decide, fun hignored => ?_⟩
  have hphase := congrArg Circuit.phase (hignored afterReset 0 .normal .failure hstraggler)
  exact absurd hphase (by decide)

/-- A circuit that is not closed ignores stragglers, and every circuit ignores one that says
nothing. A closed circuit counts an ordinary one like any call that ends now; whatever straggler
ends, it leaves the probe's place as it is, and its success changes nothing but the counter. -/
theorem straggler_ignored_unless_closed {t : Traffic} {ticket : Nat} {a : Admission}
    (h : t.Straggler ticket a) (v : Verdict) :
    let before := t.breaker.circuit
    let after := (t.step (.finish ticket v)).traffic.breaker.circuit
    (before.phase ≠ .closed ∨ v = .neutral → after = before) ∧
      after.probing = before.probing ∧
      (v = .success → after = { before with failures := after.failures }) ∧
      (before.phase = .closed → a = .normal →
        after = before.counting t.breaker.limits t.now v) := by
  intro before after
  have hending := finish_ending h.admission?_eq v
  refine ⟨hending.eq_of_not_holds h.not_holds, hending.probing_eq h.not_holds, ?_, ?_⟩
  · rintro rfl
    exact hending.eq_but_failures h.not_holds
  · intro hphase ha
    exact hending.eq_counting (by simp [ha]) hphase

/-- The probe of the first half-open period is under way in the second one. -/
def secondHalfOpen : Traffic :=
  (fresh "llm" { threshold := 1, cooldown := 30 }).run
    [.start false, .finish 0 .failure, .wait 30, .start false, .reset, .start false,
      .finish 2 .failure, .wait 30, .start false]

/-- It does not decide that period. -/
theorem earlier_probe_ignored :
    secondHalfOpen.Straggler 1 (.probe 2) ∧ secondHalfOpen.breaker.phase = .halfOpen ∧
      (secondHalfOpen.step (.finish 1 .failure)).traffic.breaker.circuit =
        secondHalfOpen.breaker.circuit := by
  have hstraggler : secondHalfOpen.Straggler 1 (.probe 2) := by
    refine ⟨"llm", { threshold := 1, cooldown := 30 },
      [.start false, .finish 0 .failure, .wait 30],
      [.reset, .start false, .finish 2 .failure, .wait 30, .start false],
      ?_, rfl, rfl, by decide, by decide⟩
    unfold Admits
    decide
  have hignored := (straggler_ignored_unless_closed hstraggler .failure).1
  exact ⟨hstraggler, by decide, hignored (.inl (by decide))⟩

end Traffic

end Breaker

end ResilientChat
