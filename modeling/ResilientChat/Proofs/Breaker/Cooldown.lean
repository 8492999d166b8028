import ResilientChat.Proofs.Breaker.Sound

/-!
The break of an open circuit over whole runs. As long as no operator steps in
and the break is not over, no event changes anything about the circuit: calls
are turned away, and calls let through earlier end or are dropped without
effect. The first call once the break is over becomes the probe. An isolated
circuit turns every call away until it is reset.
-/

namespace ResilientChat

namespace Breaker

namespace Traffic

def Opens (t : Traffic) (e : Event) : Prop :=
  t.breaker.phase ≠ .opened ∧ (t.step e).traffic.breaker.phase = .opened

/-- No operator steps in during these events, and no call with a live token starts at the
instant `ready` or after it. -/
def Undisturbed (t : Traffic) (ready : Instant) (events : List Event) : Prop :=
  ∀ met ∈ t.trace events, met.2 ≠ .isolate ∧ met.2 ≠ .reset ∧
    (met.2 = .start false → met.1.now < ready)

theorem now_le_run (t : Traffic) (events : List Event) : t.now ≤ (t.run events).now :=
  run_induction (motive := fun u => t.now ≤ u.now)
    (fun _ _ _ _ h ih => Nat.le_trans ih h.now_le) (Nat.le_refl _)

theorem of_mem_trace {t : Traffic} {events : List Event} {met : Traffic × Event}
    (h : met ∈ t.trace events) : met.2 ∈ events ∧ met.1.now ≤ (t.run events).now := by
  induction events generalizing t with
  | nil => cases h
  | cons e later ih =>
      rcases List.mem_cons.mp h with rfl | hlater
      · exact ⟨List.mem_cons_self .., now_le_run t (e :: later)⟩
      · obtain ⟨hmem, hnow⟩ := ih hlater
        exact ⟨List.mem_cons_of_mem e hmem, hnow⟩

theorem undisturbed_of_now_lt {t : Traffic} {ready : Instant} {events : List Event}
    (hisolate : .isolate ∉ events) (hreset : .reset ∉ events)
    (hnow : (t.run events).now < ready) : t.Undisturbed ready events := by
  intro met hmet
  obtain ⟨hmem, hle⟩ := of_mem_trace hmet
  exact ⟨fun he => hisolate (he ▸ hmem), fun he => hreset (he ▸ hmem),
    fun _ => Nat.lt_of_le_of_lt hle hnow⟩

/-- The circuit opens only when a call ends, and the break starts at that instant. -/
theorem Opens.openedAt {t : Traffic} {e : Event} (h : t.Opens e) :
    (t.step e).traffic.breaker.openedAt = some t.now ∧ (t.step e).traffic.now = t.now := by
  obtain ⟨hbefore, hafter⟩ := h
  have hstep := step_transit t e
  generalize t.step e = s at hstep hafter ⊢
  cases hstep with
  | admitted hentry =>
      cases hentry with
      | bypass | normal | probe => exact absurd hafter hbefore
      | halfOpen => cases hafter
  | finished hflight hending =>
      cases hending with
      | tripped | reopened => exact ⟨rfl, rfl⟩
      | recovered => cases hafter
      | ignored | freed | cleared | counted => exact absurd hafter hbefore
  | isolated | closed | closedAgain => cases hafter
  | _ => exact absurd hafter hbefore

/-- Before its break is over, an open circuit is left as it is by every event but an operator's. -/
theorem Transit.circuit_eq_of_opened {t : Traffic} {e : Event} {s : Step} (h : Transit t e s)
    (hphase : t.breaker.phase = .opened) (henabled : t.breaker.limits.enabled = true)
    (hisolate : e ≠ .isolate) (hreset : e ≠ .reset)
    (hearly : e = .start false → ¬t.breaker.circuit.Cooled t.breaker.limits t.now) :
    s.traffic.breaker.circuit = t.breaker.circuit := by
  have hholds (a : Admission) : ¬t.breaker.circuit.Holds a := fun hprobe => by
    simp [Circuit.Holds, hphase] at hprobe
  cases h with
  | admitted hentry =>
      have hrefuses : t.breaker.circuit.Refuses t.breaker.limits t.now :=
        .inr ⟨henabled, .inr ⟨hphase, hearly rfl⟩⟩
      exact absurd hrefuses hentry.not_refuses
  | finished hflight hending =>
      cases hending with
      | ignored => rfl
      | freed hprobe | recovered hprobe | reopened hprobe => exact absurd hprobe (hholds _)
      | cleared _ hclosed | counted _ hclosed | tripped _ hclosed =>
          simp [hphase] at hclosed
  | droppedProbe hflight hprobe => exact absurd hprobe (hholds _)
  | isolated | isolatedAgain => contradiction
  | closed | closedAgain => contradiction
  | givenUp | refused | unknownFinished | dropped | unknownDropped | waited => rfl

theorem Transit.isolated_of_isolated {t : Traffic} {e : Event} {s : Step} (h : Transit t e s)
    (hphase : t.breaker.phase = .isolated) (hreset : e ≠ .reset) :
    s.traffic.breaker.phase = .isolated := by
  cases h with
  | admitted hentry => exact absurd (.inl hphase) hentry.not_refuses
  | finished hflight hending =>
      cases hending with
      | ignored | freed | cleared | counted => exact hphase
      | tripped _ hclosed => simp [hphase] at hclosed
      | recovered hprobe | reopened hprobe => simp [Circuit.Holds, hphase] at hprobe
  | isolated => rfl
  | closed | closedAgain => contradiction
  | _ => exact hphase

theorem run_isolated {t : Traffic} {events : List Event} (hphase : t.breaker.phase = .isolated)
    (hreset : .reset ∉ events) : (t.run events).breaker.phase = .isolated :=
  run_induction (motive := fun u => u.breaker.phase = .isolated)
    (fun _ _ _ hmem h ih => h.isolated_of_isolated ih fun he => hreset (he ▸ hmem)) hphase

/-- A circuit that counts, in its break since the instant `opened`. -/
structure OpenSince (t : Traffic) (opened : Instant) : Prop where
  phase : t.breaker.phase = .opened
  openedAt : t.breaker.openedAt = some opened
  le_now : opened ≤ t.now
  enabled : t.breaker.limits.enabled = true

namespace OpenSince

variable {t : Traffic} {opened : Instant}

theorem cooled_iff (h : t.OpenSince opened) :
    t.breaker.circuit.Cooled t.breaker.limits t.now ↔
      opened + t.breaker.limits.cooldown ≤ t.now := by
  simp only [Circuit.Cooled, circuit_openedAt, h.openedAt, Option.some.injEq, forall_eq']
  exact Nat.le_sub_iff_add_le' h.le_now

theorem refuses (h : t.OpenSince opened) (hnow : t.now < opened + t.breaker.limits.cooldown) :
    t.breaker.circuit.Refuses t.breaker.limits t.now :=
  .inr ⟨h.enabled, .inr ⟨h.phase, by rw [h.cooled_iff]; exact Nat.not_le.mpr hnow⟩⟩

theorem step {e : Event} {s : Step} (h : t.OpenSince opened) (hstep : Transit t e s)
    (hisolate : e ≠ .isolate) (hreset : e ≠ .reset)
    (hearly : e = .start false → t.now < opened + t.breaker.limits.cooldown) :
    s.traffic.breaker.circuit = t.breaker.circuit ∧ s.traffic.OpenSince opened := by
  have hcircuit : s.traffic.breaker.circuit = t.breaker.circuit :=
    hstep.circuit_eq_of_opened h.phase h.enabled hisolate hreset fun he => by
      rw [h.cooled_iff]
      exact Nat.not_le.mpr (hearly he)
  refine ⟨hcircuit, ?_, ?_, Nat.le_trans h.le_now hstep.now_le, ?_⟩
  · exact (congrArg Circuit.phase hcircuit).trans h.phase
  · exact (congrArg Circuit.openedAt hcircuit).trans h.openedAt
  · rw [hstep.limits_eq]
    exact h.enabled

/-- Until a call with a live token meets the end of the break, nothing changes. -/
theorem run {events : List Event} (h : t.OpenSince opened)
    (hcalm : t.Undisturbed (opened + t.breaker.limits.cooldown) events) :
    (t.run events).breaker.circuit = t.breaker.circuit ∧ (t.run events).OpenSince opened ∧
      t.changes events = [] := by
  induction events generalizing t with
  | nil => exact ⟨rfl, h, rfl⟩
  | cons e later ih =>
      have hstep := step_transit t e
      obtain ⟨hisolate, hreset, hearly⟩ := hcalm (t, e) (List.mem_cons_self ..)
      obtain ⟨hcircuit, hopen⟩ := h.step hstep hisolate hreset hearly
      have hchange : (t.step e).change = none := by
        rw [hstep.change_eq]
        exact if_pos (congrArg Circuit.phase hcircuit).symm
      have htail : (t.step e).traffic.Undisturbed
          (opened + (t.step e).traffic.breaker.limits.cooldown) later := by
        rw [hstep.limits_eq]
        exact fun met hmem => hcalm met (List.mem_cons_of_mem _ hmem)
      obtain ⟨hrest, hstays, hchanges⟩ := ih hopen htail
      refine ⟨hrest.trans hcircuit, hstays, ?_⟩
      rw [changes_cons, hchange, hchanges]
      rfl

/-- Without a reset, a circuit leaves its break early only by being isolated. -/
theorem run_or_isolated {events : List Event} (h : t.OpenSince opened)
    (hreset : .reset ∉ events)
    (hnow : (t.run events).now < opened + t.breaker.limits.cooldown) :
    (t.run events).OpenSince opened ∨ (t.run events).breaker.phase = .isolated := by
  -- The run need not keep the break: what it keeps is that the break lasts or has been isolated
  -- as long as the clock has not passed its end.
  refine run_induction (motive := fun u =>
    u.breaker.limits = t.breaker.limits → u.now < opened + t.breaker.limits.cooldown →
      u.OpenSince opened ∨ u.breaker.phase = .isolated) ?_ (fun _ _ => .inl h)
    (run_limits t events) hnow
  intro u e s hmem hstep ih hlimits hlater
  rw [hstep.limits_eq] at hlimits
  have hearly : u.now < opened + t.breaker.limits.cooldown :=
    Nat.lt_of_le_of_lt hstep.now_le hlater
  have hne : e ≠ .reset := fun he => hreset (he ▸ hmem)
  rcases ih hlimits hearly with hopen | hisolated
  · by_cases he : e = .isolate
    · subst he
      cases hstep with
      | isolated => exact .inr rfl
      | isolatedAgain hphase => exact .inr hphase
    · rw [← hlimits] at hearly
      exact .inl (hopen.step hstep he hne fun _ => hearly).2
  · exact .inr (hstep.isolated_of_isolated hisolated hne)

/-- Isolated or not, the circuit turns calls away until its break is over. -/
theorem refuses_run {events : List Event} (h : t.OpenSince opened) (hreset : .reset ∉ events)
    (hnow : (t.run events).now < opened + t.breaker.limits.cooldown) :
    (t.run events).breaker.circuit.Refuses (t.run events).breaker.limits
      (t.run events).now := by
  rcases h.run_or_isolated hreset hnow with hopen | hisolated
  · exact hopen.refuses (by rwa [run_limits])
  · exact .inl hisolated

/-- The first call once the break is over becomes the probe. -/
theorem admits_probe (h : t.OpenSince opened)
    (hcooled : opened + t.breaker.limits.cooldown ≤ t.now) :
    t.Admits (.probe (t.breaker.generation + 1)) ∧
      (t.step (.start false)).traffic.breaker.circuit =
        { t.breaker.circuit with
          phase := .halfOpen, probing := true, generation := t.breaker.generation + 1 } := by
  have hrefuses : ¬t.breaker.circuit.Refuses t.breaker.limits t.now := by
    rintro (hisolated | ⟨_, ⟨hhalf, _⟩ | ⟨_, hhot⟩⟩)
    · simp [h.phase] at hisolated
    · simp [h.phase] at hhalf
    · exact hhot (h.cooled_iff.mpr hcooled)
  obtain ⟨a, hadmits, hentry⟩ := start_entry hrefuses
  generalize (t.step (.start false)).traffic.breaker.circuit = c at hentry ⊢
  generalize (t.step (.start false)).change = change at hentry
  cases hentry with
  | bypass hdisabled => simp [h.enabled] at hdisabled
  | normal _ hphase | probe _ hphase => simp [h.phase] at hphase
  | halfOpen => exact ⟨hadmits, rfl⟩

end OpenSince

/-- A circuit that can be reached and then opens counts, and its break has just begun. -/
theorem Opens.openSince {t : Traffic} {e : Event} (h : t.Opens e) (hsound : t.Sound) :
    (t.step e).traffic.OpenSince t.now := by
  have hstep := step_transit t e
  obtain ⟨hopened, hnow⟩ := h.openedAt
  refine ⟨h.2, hopened, Nat.le_of_eq hnow.symm, ?_⟩
  have hafter := (hsound.step hstep).circuit
  cases henabled : (t.step e).traffic.breaker.limits.enabled with
  | true => rfl
  | false =>
      have hphase := (hafter.disabled henabled).1
      simp [h.2] at hphase

/-- Until a reset, an isolated circuit turns every call away, whether it counts or not. -/
theorem declines_of_isolated (t : Traffic) {later : List Event} (hreset : .reset ∉ later) :
    ((t.step .isolate).traffic.run later).Declines false (.refused t.breaker.name .isolated) := by
  have hstep := step_transit t .isolate
  have hphase : (t.step .isolate).traffic.breaker.phase = .isolated := by
    generalize t.step .isolate = s at hstep ⊢
    cases hstep with
    | isolated => rfl
    | isolatedAgain hphase => exact hphase
  have hisolated := run_isolated hphase hreset
  have hdeclines := declines_of_refuses (.inl hisolated)
  rwa [run_name, hstep.name_eq, hisolated] at hdeclines

/-- The break is kept over every run. (1) From the event that opens the circuit until the break
is over no call is let through, unless there is a reset; and unless the circuit is isolated
nothing about it changes meanwhile. (2) The first call once the break is over is the probe, if no
operator stepped in. (3) No call is let through between an isolation and the next reset. (4) A
call with a live token that is turned away is told the circuit's name and the phase that turned
it away. -/
theorem break_kept (name : String) (limits : Limits) (events : List Event) :
    let t := (fresh name limits).run events
    (∀ e later, t.Opens e → .reset ∉ later →
      let u := (t.step e).traffic.run later
      u.now < t.now + limits.cooldown →
        u.Declines true .cancelled ∧ u.Declines false (.refused name u.breaker.phase) ∧
          (.isolate ∉ later →
            u.breaker.circuit = (t.step e).traffic.breaker.circuit ∧
              u.breaker.openedAt = some t.now)) ∧
    (∀ e later, t.Opens e → (t.step e).traffic.Undisturbed (t.now + limits.cooldown) later →
      let u := (t.step e).traffic.run later
      t.now + limits.cooldown ≤ u.now →
        u.Admits (.probe (u.breaker.generation + 1)) ∧
          (u.step (.start false)).traffic.breaker.circuit =
            { u.breaker.circuit with
              phase := .halfOpen, probing := true, generation := u.breaker.generation + 1 }) ∧
    (∀ later, .reset ∉ later →
      let u := (t.step .isolate).traffic.run later
      u.Declines true .cancelled ∧ u.Declines false (.refused name .isolated)) ∧
    ((∃ a, t.Admits a) ∨
      t.breaker.phase ≠ .closed ∧ t.Declines false (.refused name t.breaker.phase)) := by
  intro t
  have hsound : t.Sound := run_sound name limits events
  have hname : t.breaker.name = name := run_name (fresh name limits) events
  have hlimits (e : Event) : (t.step e).traffic.breaker.limits = limits :=
    (step_transit t e).limits_eq.trans (run_limits (fresh name limits) events)
  refine ⟨fun e later hopens hreset hearly => ?_, fun e later hopens hcalm hcooled => ?_,
    fun later hreset => ⟨declines_givenUp _, ?_⟩, ?_⟩
  · have hopen := hopens.openSince hsound
    have hdeclines := declines_of_refuses (hopen.refuses_run hreset (by rwa [hlimits]))
    rw [run_name, (step_transit t e).name_eq, hname] at hdeclines
    refine ⟨declines_givenUp _, hdeclines, fun hisolate => ?_⟩
    obtain ⟨hcircuit, hopen', _⟩ := hopen.run
      (undisturbed_of_now_lt hisolate hreset (by rwa [hlimits]))
    exact ⟨hcircuit, hopen'.openedAt⟩
  · have hopen := hopens.openSince hsound
    exact (hopen.run (by rwa [hlimits])).2.1.admits_probe (by rwa [run_limits, hlimits])
  · rw [← hname]
    exact declines_of_isolated t hreset
  · by_cases hrefuses : t.breaker.circuit.Refuses t.breaker.limits t.now
    · refine .inr ⟨fun hclosed => ?_, hname ▸ declines_of_refuses hrefuses⟩
      rcases hrefuses with h | ⟨_, ⟨h, _⟩ | ⟨h, _⟩⟩ <;> simp [hclosed] at h
    · obtain ⟨a, hadmits, _⟩ := start_entry hrefuses
      exact .inl ⟨a, hadmits⟩

def threeStarted : Traffic :=
  (fresh "llm" { threshold := 1, cooldown := 30 }).run [.start false, .start false, .start false]

/-- While two of the three calls are still to end, the third opens the circuit. -/
theorem break_kept_among_stragglers :
    let opening : Event := .finish 0 .failure
    let opened := (threeStarted.step opening).traffic
    let meanwhile : List Event :=
      [.wait 10, .finish 1 .success, .start true, .start false, .drop 2, .wait 10]
    let throughout : List Event := meanwhile ++ [.wait 10]
    threeStarted.Opens opening ∧ .reset ∉ meanwhile ∧
      (opened.run meanwhile).Declines false (.refused "llm" .opened) ∧
      opened.Undisturbed (threeStarted.now + 30) throughout ∧
      (opened.run throughout).Admits (.probe 2) := by
  intro opening opened meanwhile throughout
  have hopens : threeStarted.Opens opening := by
    unfold Opens
    decide
  have hreset : .reset ∉ meanwhile := by decide
  have hcalm : opened.Undisturbed (threeStarted.now + 30) throughout := by
    unfold Undisturbed
    decide
  have hkept := break_kept "llm" { threshold := 1, cooldown := 30 }
    [.start false, .start false, .start false]
  have hdeclines := (hkept.1 opening meanwhile hopens hreset (by decide)).2.1
  have hadmits := (hkept.2.1 opening throughout hopens hcalm (by decide)).1
  exact ⟨hopens, hreset, hdeclines, hcalm, hadmits⟩

end Traffic

end Breaker

end ResilientChat
