import ResilientChat.Breaker.Traffic
import ResilientChat.Proofs.Breaker.Circuit
import Mathlib.Data.List.Basic

/-!
Runs of calls through one breaker. An event does to the traffic what one rule
of `Transit` says; what a run keeps follows from what each rule keeps. The
module also names what statements about runs speak of: how a starting call is
answered, what happened so far, and the changes of phase.
-/

namespace ResilientChat

namespace Breaker

namespace Traffic

def fresh (name : String) (limits : Limits) : Traffic := { breaker := { name, limits } }

/-- What an event can do; the circuit, the counters and the calls under way are given as they
are afterwards. -/
inductive Transit (t : Traffic) : Event → Step → Prop
  | givenUp :
      Transit t (.start true)
        { traffic :=
            { t with
              breaker := t.breaker.withCircuit t.breaker.circuit t.breaker.metrics.countCancelled
                t.breaker.published
              started := t.started + 1 }
          failure := some .cancelled }
  | refused (hrefuses : t.breaker.circuit.Refuses t.breaker.limits t.now) :
      Transit t (.start false)
        { traffic :=
            { t with
              breaker := t.breaker.withCircuit t.breaker.circuit t.breaker.metrics.countRejected
                t.breaker.published
              started := t.started + 1 }
          failure := some (.refused t.breaker.name t.breaker.phase) }
  | admitted {a : Admission} {c : Circuit} {change : Option Change}
      (hentry : Entry t.breaker.limits t.breaker.circuit t.now a c change) :
      Transit t (.start false)
        { traffic :=
            { t with
              breaker := t.breaker.withCircuit c (t.breaker.metrics.noteChange t.now change)
                (t.breaker.publishedOn change)
              started := t.started + 1
              inFlight := t.inFlight ++ [(t.started, a)] }
          change }
  | finished {ticket : Nat} {v : Verdict} {a : Admission} {c : Circuit}
      {change : Option Change} (hflight : t.admission? ticket = some a)
      (hending : Ending t.breaker.limits t.breaker.circuit a v t.now c change) :
      Transit t (.finish ticket v)
        { traffic :=
            { t with
              breaker := t.breaker.withCircuit c
                ((t.breaker.metrics.countVerdict v).noteChange t.now change)
                (t.breaker.publishedAfter a c)
              inFlight := (t.release ticket).inFlight }
          change }
  | unknownFinished {ticket : Nat} {v : Verdict} (hflight : t.admission? ticket = none) :
      Transit t (.finish ticket v) { traffic := t }
  | droppedProbe {ticket : Nat} {a : Admission} (hflight : t.admission? ticket = some a)
      (hprobe : t.breaker.circuit.Holds a) :
      Transit t (.drop ticket)
        { traffic :=
            { t with
              breaker := t.breaker.withCircuit { t.breaker.circuit with probing := false }
                t.breaker.metrics t.breaker.published
              inFlight := (t.release ticket).inFlight } }
  | dropped {ticket : Nat} {a : Admission} (hflight : t.admission? ticket = some a)
      (hprobe : ¬t.breaker.circuit.Holds a) :
      Transit t (.drop ticket) { traffic := t.release ticket }
  | unknownDropped {ticket : Nat} (hflight : t.admission? ticket = none) :
      Transit t (.drop ticket) { traffic := t }
  | isolated (hphase : t.breaker.phase ≠ .isolated) :
      Transit t .isolate (t.moved (t.breaker.movedTo
        { t.breaker.circuit with
          phase := .isolated, probing := false, generation := t.breaker.generation + 1 }
        t.breaker.metrics (some ⟨t.breaker.phase, .isolated⟩) t.now Phase.isolated.code))
  | isolatedAgain (hphase : t.breaker.phase = .isolated) :
      Transit t .isolate (t.moved (t.breaker.movedTo
        { t.breaker.circuit with probing := false } t.breaker.metrics none t.now
        Phase.isolated.code))
  | closed (hphase : t.breaker.phase ≠ .closed) :
      Transit t .reset (t.moved (t.breaker.movedTo
        ⟨.closed, 0, none, false, t.breaker.generation + 1⟩
        t.breaker.metrics (some ⟨t.breaker.phase, .closed⟩) t.now Phase.closed.code))
  | closedAgain (hphase : t.breaker.phase = .closed) :
      Transit t .reset (t.moved (t.breaker.movedTo
        ⟨.closed, 0, none, false, t.breaker.generation⟩ t.breaker.metrics none t.now
        Phase.closed.code))
  | waited (d : Duration) : Transit t (.wait d) { traffic := { t with now := t.now + d } }

theorem start_transit (t : Traffic) (cancelled : Bool) :
    Transit t (.start cancelled) (t.step (.start cancelled)) := by
  cases cancelled with
  | true => exact .givenUp
  | false =>
      rcases enter_spec t.breaker t.now with ⟨hrefuses, henter⟩ | ⟨a, c, change, hentry, henter⟩
      · have h := Transit.refused hrefuses
        simpa [step, start, Breaker.start, henter, refuse, moved, withCircuit] using h
      · have h := Transit.admitted hentry
        simpa [step, start, Breaker.start, henter, movedTo, moved] using h

theorem finish_transit (t : Traffic) (ticket : Nat) (v : Verdict) :
    Transit t (.finish ticket v) (t.step (.finish ticket v)) := by
  cases hflight : t.admission? ticket with
  | none => simpa [step, hflight] using Transit.unknownFinished hflight
  | some a =>
      obtain ⟨c, change, hending, hcomplete⟩ := complete_spec t.breaker a v t.now
      have h := Transit.finished hflight hending
      simpa [step, hflight, hcomplete, movedTo, moved, release] using h

theorem drop_transit (t : Traffic) (ticket : Nat) :
    Transit t (.drop ticket) (t.step (.drop ticket)) := by
  cases hflight : t.admission? ticket with
  | none => simpa [step, hflight] using Transit.unknownDropped hflight
  | some a =>
      by_cases hprobe : t.breaker.circuit.Holds a
      · have h := Transit.droppedProbe hflight hprobe
        simpa [step, hflight, abandon_of_holds hprobe, moved, release] using h
      · have h := Transit.dropped hflight hprobe
        simpa [step, hflight, abandon_of_not_holds hprobe, moved, release] using h

/-- Every event follows one of the rules. -/
theorem step_transit (t : Traffic) (e : Event) : Transit t e (t.step e) := by
  cases e with
  | start cancelled => exact start_transit t cancelled
  | finish ticket v => exact finish_transit t ticket v
  | drop ticket => exact drop_transit t ticket
  | isolate =>
      by_cases hphase : t.breaker.phase = .isolated
      · simpa [step, isolate_of_eq t.now hphase] using Transit.isolatedAgain hphase
      · simpa [step, isolate_of_ne t.now hphase] using Transit.isolated hphase
  | reset =>
      by_cases hphase : t.breaker.phase = .closed
      · simpa [step, reset_of_eq t.now hphase] using Transit.closedAgain hphase
      · simpa [step, reset_of_ne t.now hphase] using Transit.closed hphase
  | wait d => exact .waited d

section Runs

variable (t : Traffic)

@[simp] theorem run_nil : t.run [] = t := rfl

@[simp] theorem run_cons (e : Event) (later : List Event) :
    t.run (e :: later) = (t.step e).traffic.run later := rfl

theorem run_concat (events : List Event) (e : Event) :
    t.run (events ++ [e]) = ((t.run events).step e).traffic := by
  simp [run]

/-- The events of a run, each with the traffic that it met, oldest first. -/
def trace (t : Traffic) : List Event → List (Traffic × Event)
  | [] => []
  | e :: later => (t, e) :: (t.step e).traffic.trace later

theorem trace_concat (events : List Event) (e : Event) :
    t.trace (events ++ [e]) = t.trace events ++ [(t.run events, e)] := by
  induction events generalizing t with
  | nil => rfl
  | cons e' events ih => simp [trace, ih]

def changes (t : Traffic) (events : List Event) : List Change :=
  (t.trace events).filterMap fun met => (met.1.step met.2).change

theorem changes_cons (e : Event) (later : List Event) :
    t.changes (e :: later) =
      (t.step e).change.toList ++ (t.step e).traffic.changes later := by
  cases h : (t.step e).change <;> simp [changes, trace, h]

theorem changes_concat (events : List Event) (e : Event) :
    t.changes (events ++ [e]) = t.changes events ++ ((t.run events).step e).change.toList := by
  cases h : ((t.run events).step e).change <;> simp [changes, trace_concat, h]

end Runs

/-- What every permitted event keeps, a run of permitted events keeps. -/
theorem run_induction {motive : Traffic → Prop} {t : Traffic} {events : List Event}
    (hstep : ∀ t e s, e ∈ events → Transit t e s → motive t → motive s.traffic)
    (hstart : motive t) : motive (t.run events) := by
  induction events generalizing t with
  | nil => exact hstart
  | cons e later ih =>
      apply ih
      · intro t e' s hmem
        exact hstep t e' s (List.mem_cons_of_mem e hmem)
      · exact hstep t e _ (List.mem_cons_self ..) (step_transit t e) hstart

/-- A call with a live token that starts now is let through as `a` and is under way
afterwards. -/
def Admits (t : Traffic) (a : Admission) : Prop :=
  (t.step (.start false)).failure = none ∧
    (t.step (.start false)).traffic.inFlight = t.inFlight ++ [(t.started, a)]

/-- A call that starts now fails at once. It is never under way, so its action does not run. -/
def Declines (t : Traffic) (cancelled : Bool) (failure : CallFailure Fault) : Prop :=
  (t.step (.start cancelled)).failure = some failure ∧
    (t.step (.start cancelled)).traffic.inFlight = t.inFlight

theorem declines_givenUp (t : Traffic) : t.Declines true .cancelled := ⟨rfl, rfl⟩

theorem declines_of_refuses {t : Traffic}
    (h : t.breaker.circuit.Refuses t.breaker.limits t.now) :
    t.Declines false (.refused t.breaker.name t.breaker.phase) := by
  unfold Declines
  have hstep := step_transit t (.start false)
  generalize t.step (.start false) = s at hstep ⊢
  cases hstep with
  | refused => exact ⟨rfl, rfl⟩
  | admitted hentry => exact absurd h hentry.not_refuses

theorem start_entry {t : Traffic} (h : ¬t.breaker.circuit.Refuses t.breaker.limits t.now) :
    ∃ a, t.Admits a ∧
      Entry t.breaker.limits t.breaker.circuit t.now a
        (t.step (.start false)).traffic.breaker.circuit (t.step (.start false)).change := by
  unfold Admits
  have hstep := step_transit t (.start false)
  generalize t.step (.start false) = s at hstep ⊢
  cases hstep with
  | refused hrefuses => exact absurd hrefuses h
  | admitted hentry => exact ⟨_, ⟨rfl, rfl⟩, hentry⟩

theorem Admits.entry {t : Traffic} {a : Admission} (h : t.Admits a) :
    Entry t.breaker.limits t.breaker.circuit t.now a
      (t.step (.start false)).traffic.breaker.circuit (t.step (.start false)).change := by
  have hrefuses : ¬t.breaker.circuit.Refuses t.breaker.limits t.now := fun hrefuses => by
    have hfailure := (declines_of_refuses hrefuses).1
    rw [h.1] at hfailure
    cases hfailure
  obtain ⟨a', hadmits, hentry⟩ := start_entry hrefuses
  have hcalls := List.append_cancel_left (h.2.symm.trans hadmits.2)
  cases hcalls
  exact hentry

theorem finish_ending {t : Traffic} {ticket : Nat} {a : Admission}
    (h : t.admission? ticket = some a) (v : Verdict) :
    Ending t.breaker.limits t.breaker.circuit a v t.now
      (t.step (.finish ticket v)).traffic.breaker.circuit
      (t.step (.finish ticket v)).change := by
  have hstep := step_transit t (.finish ticket v)
  generalize t.step (.finish ticket v) = s at hstep ⊢
  cases hstep with
  | finished hflight hending =>
      obtain rfl := Option.some.inj (h.symm.trans hflight)
      exact hending
  | unknownFinished hflight => simp [h] at hflight

section Frame

variable {t : Traffic} {e : Event} {s : Step}

theorem Transit.name_eq (h : Transit t e s) : s.traffic.breaker.name = t.breaker.name := by
  cases h <;> rfl

theorem Transit.limits_eq (h : Transit t e s) :
    s.traffic.breaker.limits = t.breaker.limits := by
  cases h <;> rfl

theorem Transit.now_le (h : Transit t e s) : t.now ≤ s.traffic.now := by
  cases h with
  | waited d => exact Nat.le_add_right t.now d
  | _ => exact Nat.le_refl t.now

theorem Transit.started_le (h : Transit t e s) : t.started ≤ s.traffic.started := by
  cases h with
  | givenUp | refused | admitted => exact Nat.le_succ t.started
  | _ => exact Nat.le_refl t.started

/-- An event tells of a change of phase exactly when it makes one. -/
theorem Transit.change_eq (h : Transit t e s) :
    s.change =
      if t.breaker.phase = s.traffic.breaker.phase then none
      else some ⟨t.breaker.phase, s.traffic.breaker.phase⟩ := by
  cases h with
  | admitted hentry =>
      cases hentry with
      | bypass | normal | probe => exact (if_pos rfl).symm
      | halfOpen _ hphase => simp [← circuit_phase, hphase]
  | finished _ hending =>
      cases hending with
      | ignored | freed | cleared | counted => exact (if_pos rfl).symm
      | tripped _ hphase => simp [← circuit_phase, hphase]
      | recovered hprobe | reopened hprobe => simp [← circuit_phase, hprobe.1]
  | isolated hphase | closed hphase => exact (if_neg hphase).symm
  | closedAgain hphase => exact (if_pos hphase).symm
  | _ => exact (if_pos rfl).symm

end Frame

theorem run_name (t : Traffic) (events : List Event) :
    (t.run events).breaker.name = t.breaker.name :=
  run_induction (motive := fun t' => t'.breaker.name = t.breaker.name)
    (fun _ _ _ _ h ih => h.name_eq.trans ih) rfl

theorem run_limits (t : Traffic) (events : List Event) :
    (t.run events).breaker.limits = t.breaker.limits :=
  run_induction (motive := fun t' => t'.breaker.limits = t.breaker.limits)
    (fun _ _ _ _ h ih => h.limits_eq.trans ih) rfl

end Traffic

end Breaker

end ResilientChat
