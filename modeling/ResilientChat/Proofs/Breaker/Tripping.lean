import ResilientChat.Proofs.Breaker.Cooldown
import Mathlib.Data.List.DropRight
import Mathlib.Data.List.Induction

/-!
When a circuit opens. The failures in a row are counted on the trace of a run,
without looking at the circuit's own counter; a closed circuit that counts
carries that number, and it opens at the failure that makes it the limit.
-/

namespace ResilientChat

namespace Breaker

namespace Traffic

def ends (v : Verdict) (met : Traffic × Event) : Bool :=
  match met.2 with
  | .finish ticket v' => (met.1.admission? ticket).isSome && v' = v
  | _ => false

def closes (met : Traffic × Event) : Bool :=
  met.1.breaker.phase ≠ .closed && (met.1.step met.2).traffic.breaker.phase = .closed

/-- Failures are counted from the event on: a call succeeds in a closed circuit, the circuit
closes, or an operator resets it. -/
def restarts (met : Traffic × Event) : Bool :=
  ends .success met && met.1.breaker.phase = .closed || closes met || met.2 = .reset

/-- The calls that failed in a run since the failures were last counted anew. -/
def failuresInRow (t : Traffic) (events : List Event) : Nat :=
  ((t.trace events).rtakeWhile fun met => !restarts met).countP (ends .failure)

theorem failuresInRow_concat (t : Traffic) (events : List Event) (e : Event) :
    t.failuresInRow (events ++ [e]) =
      if restarts (t.run events, e) then 0
      else t.failuresInRow events + (ends .failure (t.run events, e)).toNat := by
  simp only [failuresInRow, trace_concat, List.rtakeWhile_concat]
  cases restarts (t.run events, e) with
  | true => rfl
  | false =>
      have hone : [(t.run events, e)].countP (ends .failure) =
          (ends .failure (t.run events, e)).toNat := by
        rw [List.countP_singleton]
        cases ends .failure (t.run events, e) <;> rfl
      simp [List.countP_append, hone]

theorem failuresInRow_of_failure {t : Traffic} {events : List Event} {e : Event}
    (hclosed : (t.run events).breaker.phase = .closed)
    (hends : ends .failure (t.run events, e) = true) :
    t.failuresInRow (events ++ [e]) = t.failuresInRow events + 1 := by
  have hgoes : restarts (t.run events, e) = false := by
    cases e <;> simp_all [restarts, closes, ends]
  rw [failuresInRow_concat, hgoes, hends]
  rfl

def Trips (t : Traffic) (e : Event) : Prop :=
  t.breaker.phase = .closed ∧ (t.step e).traffic.breaker.phase = .opened

end Traffic

section Endings

variable {l : Limits} {c c' : Circuit} {a : Admission} {v : Verdict} {now : Instant}
  {change : Option Change}

/-- The counter of a circuit that is closed after the end of a call. -/
theorem Ending.failures_of_closed (h : Ending l c a v now c' change) (hsound : c.Sound l)
    (ha : a ≠ .bypass) (hclosed : c'.phase = .closed) :
    c'.failures.toNat =
      if v = .success ∨ c.phase ≠ .closed then 0
      else c.failures.toNat + (decide (v = .failure)).toNat := by
  cases h with
  | ignored _ hidle =>
      rcases hidle with hbypass | rfl | hopen
      · exact absurd hbypass ha
      · simp [hclosed]
      · exact absurd hclosed hopen
  | freed hprobe => simp [hprobe.1] at hclosed
  | cleared _ _ hv => simp [hv]
  | counted _ hphase hv => simp [hphase, hv, hsound.increase_failures hphase]
  | tripped => cases hclosed
  | recovered hprobe => simp [hprobe.1]
  | reopened => cases hclosed

/-- A closed circuit opens at the failure that makes its counter the limit. -/
theorem Ending.trips_iff (h : Ending l c a v now c' change) (hsound : c.Sound l)
    (ha : a ≠ .bypass) (hclosed : c.phase = .closed) :
    change = some ⟨.closed, .opened⟩ ↔ v = .failure ∧ c.failures.toNat + 1 = l.limit := by
  have hnext := hsound.increase_failures hclosed
  have hbelow := hsound.below hclosed
  have hreached := l.limit_le_increase_iff c.failures
  rw [hnext] at hreached
  cases h with
  | ignored _ hidle =>
      refine ⟨nofun, fun ⟨hv, _⟩ => ?_⟩
      rcases hidle with hbypass | hneutral | hopen
      · exact absurd hbypass ha
      · cases hv.symm.trans hneutral
      · exact absurd hclosed hopen
  | freed hprobe | recovered hprobe | reopened hprobe => simp [hprobe.1] at hclosed
  | cleared _ _ hv => simp [hv]
  | counted _ _ _ hmore =>
      refine ⟨nofun, fun ⟨_, hlimit⟩ => ?_⟩
      exact absurd (hreached.mp (Nat.le_of_eq hlimit.symm)) hmore
  | tripped _ _ hv hfull =>
      exact ⟨fun _ => ⟨hv, Nat.le_antisymm hbelow (hreached.mpr hfull)⟩, fun _ => rfl⟩

theorem Ending.of_neutral (h : Ending l c a .neutral now c' change) :
    c' = { c with probing := c'.probing } := by
  cases h with
  | ignored | freed => rfl
  | cleared _ _ hv | counted _ _ hv | tripped _ _ hv | recovered _ hv | reopened _ hv => cases hv

end Endings

theorem Verdict.ofResult_of_given_up {α ε : Type} {result : Except (CallFailure ε) α}
    (h : result = .error .cancelled ∨
      ∃ circuit phase, result = .error (.refused circuit phase)) :
    Verdict.ofResult result = .neutral := by
  rcases h with rfl | ⟨circuit, phase, rfl⟩ <;> rfl

namespace Traffic

/-- What an event makes of the counter if the circuit is closed afterwards. -/
theorem failures_step {t : Traffic} {e : Event} (ht : t.Sound)
    (henabled : t.breaker.limits.enabled = true)
    (hclosed : (t.step e).traffic.breaker.phase = .closed) :
    (t.step e).traffic.breaker.failures.toNat =
      if restarts (t, e) then 0
      else t.breaker.failures.toNat + (ends .failure (t, e)).toNat := by
  have hstep := step_transit t e
  have hcloses : closes (t, e) = decide (t.breaker.phase ≠ .closed) := by simp [closes, hclosed]
  simp only [restarts, hcloses]
  generalize t.step e = s at hstep hclosed ⊢
  cases hstep with
  | admitted hentry =>
      cases hentry with
      | bypass | normal => simp_all [ends]
      | probe _ hphase => simp_all
      | halfOpen => cases hclosed
  | finished hflight hending =>
      have hfailures :=
        hending.failures_of_closed ht.circuit (ht.not_bypass henabled hflight) hclosed
      by_cases hphase : t.breaker.phase = .closed <;> simp_all [ends]
  | isolated => cases hclosed
  | isolatedAgain hphase => exact absurd (hphase.symm.trans hclosed) (by simp)
  | closed | closedAgain => simp [moved, movedTo]
  | _ => simp_all [ends]

theorem run_failures {name : String} {limits : Limits} (henabled : limits.enabled = true)
    {events : List Event} (hclosed : ((fresh name limits).run events).breaker.phase = .closed) :
    ((fresh name limits).run events).breaker.failures.toNat =
      (fresh name limits).failuresInRow events := by
  induction events using List.reverseRecOn with
  | nil => rfl
  | append_singleton events e ih =>
      rw [run_concat] at hclosed ⊢
      have hlimits : ((fresh name limits).run events).breaker.limits.enabled = true := by
        rw [run_limits]
        exact henabled
      rw [failures_step (run_sound name limits events) hlimits hclosed, failuresInRow_concat]
      cases hrestarts : restarts ((fresh name limits).run events, e) with
      | true => rfl
      | false =>
          -- An event that does not restart the count cannot have closed the circuit.
          have hphase : ((fresh name limits).run events).breaker.phase = .closed := by
            by_contra hopen
            simp [restarts, closes, hopen, hclosed] at hrestarts
          simp [ih hphase]

theorem trips_iff_change {t : Traffic} {e : Event} :
    t.Trips e ↔ (t.step e).change = some ⟨.closed, .opened⟩ := by
  rw [(step_transit t e).change_eq]
  constructor
  · rintro ⟨hbefore, hafter⟩
    simp [hbefore, hafter]
  · intro hchange
    split at hchange
    · cases hchange
    · simpa [Trips] using hchange

theorem Trips.opens {t : Traffic} {e : Event} (h : t.Trips e) : t.Opens e :=
  ⟨by simp [h.1], h.2⟩

theorem trips_iff {t : Traffic} {e : Event} (ht : t.Sound)
    (henabled : t.breaker.limits.enabled = true) (hclosed : t.breaker.phase = .closed) :
    t.Trips e ↔
      ends .failure (t, e) = true ∧
        t.breaker.failures.toNat + 1 = t.breaker.limits.limit := by
  -- Only the end of a call can open a closed circuit; every other event leaves both sides false.
  rw [trips_iff_change]
  have hstep := step_transit t e
  generalize t.step e = s at hstep ⊢
  cases hstep with
  | admitted hentry => cases hentry <;> simp [ends]
  | finished hflight hending =>
      have hiff := hending.trips_iff ht.circuit (ht.not_bypass henabled hflight) hclosed
      simpa [ends, hflight] using hiff
  | unknownFinished hflight => simp [ends, hflight]
  | _ => simp [ends, moved, movedTo]

theorem Trips.failures_eq {t : Traffic} {e : Event} (h : t.Trips e) (ht : t.Sound)
    (henabled : t.breaker.limits.enabled = true) :
    (t.step e).traffic.breaker.failures.toNat = t.breaker.limits.limit := by
  obtain ⟨_, hlimit⟩ := (trips_iff ht henabled h.1).mp h
  have hnext := ht.circuit.increase_failures h.1
  rw [trips_iff_change] at h
  have hstep := step_transit t e
  generalize t.step e = s at hstep h ⊢
  cases hstep with
  | admitted hentry => cases hentry <;> cases h
  | finished hflight hending =>
      cases hending with
      | tripped => exact hnext.trans hlimit
      | ignored | freed | cleared | counted | recovered | reopened => cases h
  | _ => simp [moved, movedTo] at h

/-- A circuit opens from being closed at the event that makes the failures in a row its limit. -/
theorem run_trips_iff {name : String} {limits : Limits} (henabled : limits.enabled = true)
    (events : List Event) (e : Event) :
    ((fresh name limits).run events).Trips e ↔
      ((fresh name limits).run events).breaker.phase = .closed ∧
        ends .failure ((fresh name limits).run events, e) = true ∧
        (fresh name limits).failuresInRow (events ++ [e]) = limits.limit := by
  by_cases hclosed : ((fresh name limits).run events).breaker.phase = .closed
  · have hlimits := run_limits (fresh name limits) events
    have hrow := run_failures henabled hclosed
    rw [trips_iff (run_sound name limits events) (by rwa [hlimits]) hclosed, hlimits]
    constructor
    · rintro ⟨hends, hlimit⟩
      refine ⟨hclosed, hends, ?_⟩
      rw [failuresInRow_of_failure hclosed hends, ← hrow]
      exact hlimit
    · rintro ⟨_, hends, hlimit⟩
      rw [failuresInRow_of_failure hclosed hends, ← hrow] at hlimit
      exact ⟨hends, hlimit⟩
  · exact ⟨fun htrips => absurd htrips.1 hclosed, fun h => absurd h.1 hclosed⟩

/-- A circuit that is not closed trips no more until something closes it. -/
theorem not_trips_until_closed {t : Traffic} {later : List Event}
    (hopen : t.breaker.phase ≠ .closed)
    (hlater : ∀ change ∈ t.changes later, change.after ≠ .closed) :
    ⟨.closed, .opened⟩ ∉ t.changes later := by
  induction later generalizing t with
  | nil => simp [changes, trace]
  | cons e later ih =>
      have hchange := (step_transit t e).change_eq
      rw [changes_cons] at hlater ⊢
      have hstays : (t.step e).traffic.breaker.phase ≠ .closed := by
        intro hclosed
        rw [hclosed, if_neg hopen] at hchange
        exact hlater ⟨t.breaker.phase, .closed⟩ (by simp [hchange]) rfl
      have hrest := ih hstays fun change hmem => hlater change (List.mem_append_right _ hmem)
      intro hmem
      rcases List.mem_append.mp hmem with hnow | hmem
      · have htrips : t.Trips e := trips_iff_change.mpr (by simpa using hnow)
        exact hopen htrips.1
      · exact hrest hmem

/-- A call that does not start leaves the circuit as it is. -/
theorem start_of_failure {t : Traffic} {cancelled : Bool}
    (h : (t.step (.start cancelled)).failure.isSome) :
    (t.step (.start cancelled)).traffic.breaker.circuit = t.breaker.circuit := by
  have hstep := start_transit t cancelled
  generalize t.step (.start cancelled) = s at hstep h ⊢
  cases hstep with
  | givenUp | refused => rfl
  | admitted => cases h

theorem finish_of_neutral (t : Traffic) (ticket : Nat) :
    (t.step (.finish ticket .neutral)).traffic.breaker.circuit =
      { t.breaker.circuit with
        probing := (t.step (.finish ticket .neutral)).traffic.breaker.probing } := by
  have hstep := finish_transit t ticket .neutral
  generalize t.step (.finish ticket .neutral) = s at hstep ⊢
  cases hstep with
  | finished _ hending => exact hending.of_neutral
  | unknownFinished => rfl

/-- A circuit that counts opens exactly at its limit, over every run. (1) While it is closed its
counter is the number of calls that failed in a row, which is below the limit. (2) It opens at
the event that makes that number the limit and at no other. (3) It then opens no more until it
has closed again, and until the break is over no call that ends changes anything about it.
(4) While it is open or half-open its counter has reached the limit and the instant of opening is
known. A call that does not start, is given up or is refused further on changes neither the phase
nor the counter. A circuit that does not count stays closed or isolated, without failures. -/
theorem trips_exactly_at_limit (name : String) (limits : Limits) (events : List Event) :
    let t := (fresh name limits).run events
    (limits.enabled = true →
      (t.breaker.phase = .closed →
        t.breaker.failures.toNat = (fresh name limits).failuresInRow events ∧
          t.breaker.failures.toNat < limits.limit) ∧
      (∀ e, t.Trips e ↔ t.breaker.phase = .closed ∧ ends .failure (t, e) = true ∧
        (fresh name limits).failuresInRow (events ++ [e]) = limits.limit) ∧
      (∀ e, t.Trips e →
        let u := (t.step e).traffic
        u.breaker.failures.toNat = limits.limit ∧
          (∀ later, (∀ change ∈ u.changes later, change.after ≠ .closed) →
            ⟨.closed, .opened⟩ ∉ u.changes later) ∧
          ∀ later, u.Undisturbed (t.now + limits.cooldown) later →
            (u.run later).breaker.circuit = u.breaker.circuit ∧ u.changes later = []) ∧
      (t.breaker.phase = .opened ∨ t.breaker.phase = .halfOpen →
        limits.limit ≤ t.breaker.failures.toNat ∧ t.breaker.openedAt.isSome)) ∧
    (∀ cancelled, (t.step (.start cancelled)).failure.isSome →
      (t.step (.start cancelled)).traffic.breaker.circuit = t.breaker.circuit) ∧
    (∀ {α ε : Type} (result : Except (CallFailure ε) α) (ticket : Nat),
      (result = .error .cancelled ∨
        ∃ circuit phase, result = .error (.refused circuit phase)) →
      let u := (t.step (.finish ticket (Verdict.ofResult result))).traffic
      u.breaker.circuit = { t.breaker.circuit with probing := u.breaker.probing }) ∧
    (limits.enabled = false →
      (t.breaker.phase = .closed ∨ t.breaker.phase = .isolated) ∧ t.breaker.failures = 0) := by
  intro t
  have ht : t.Sound := run_sound name limits events
  have hlimits : t.breaker.limits = limits := run_limits (fresh name limits) events
  have hcircuit := ht.circuit
  rw [hlimits] at hcircuit
  refine ⟨fun henabled => ⟨fun hclosed => ⟨?_, hcircuit.below hclosed⟩, fun e => ?_,
    fun e htrips => ?_, hcircuit.reached⟩, fun _ => start_of_failure,
    fun result ticket hresult => ?_, hcircuit.disabled⟩
  · exact run_failures henabled hclosed
  · exact run_trips_iff henabled events e
  · have hopen : (t.step e).traffic.OpenSince t.now := htrips.opens.openSince ht
    have hafter : (t.step e).traffic.breaker.limits = limits :=
      (step_transit t e).limits_eq.trans hlimits
    refine ⟨?_, fun later hlater => ?_, fun later hcalm => ?_⟩
    · rw [htrips.failures_eq ht (by rwa [hlimits]), hlimits]
    · exact not_trips_until_closed (by simp [htrips.2]) hlater
    · obtain ⟨hcircuit, _, hchanges⟩ := hopen.run (by rwa [hafter])
      exact ⟨hcircuit, hchanges⟩
  · rw [Verdict.ofResult_of_given_up hresult]
    exact finish_of_neutral t ticket

def fiveCalls : List Event :=
  [.start false, .start false, .start false, .start false, .start false, .finish 0 .failure,
    .finish 1 .success, .finish 2 .failure]

def twoInRow : Limits := { threshold := 2, cooldown := 30 }

def afterFiveCalls : Traffic := (fresh "llm" twoInRow).run fiveCalls

/-- The success among them starts the count anew; the fourth call opens the circuit, and the fifth
fails to no effect. -/
theorem opens_at_second_failure_in_row :
    let opened := (afterFiveCalls.step (.finish 3 .failure)).traffic
    twoInRow.enabled = true ∧ afterFiveCalls.breaker.failures.toNat = 1 ∧
      afterFiveCalls.Trips (.finish 3 .failure) ∧
      opened.breaker.failures.toNat = twoInRow.limit ∧
      opened.Undisturbed (afterFiveCalls.now + twoInRow.cooldown) [.finish 4 .failure] ∧
      (opened.run [.finish 4 .failure]).breaker.circuit = opened.breaker.circuit := by
  intro opened
  have hexact := (trips_exactly_at_limit "llm" twoInRow fiveCalls).1 rfl
  have htrips : afterFiveCalls.Trips (.finish 3 .failure) :=
    (hexact.2.1 _).mpr ⟨by decide, by decide, by decide⟩
  have hcalm : opened.Undisturbed (afterFiveCalls.now + twoInRow.cooldown)
      [.finish 4 .failure] := by
    unfold Undisturbed
    decide
  have hstays := hexact.2.2.1 _ htrips
  exact ⟨rfl, by decide, htrips, hstays.1, hcalm, (hstays.2.2 _ hcalm).1⟩

end Traffic

end Breaker

end ResilientChat
