import ResilientChat.Proofs.Breaker.Passage

/-!
The calls of a breaker and its counters. Every call that was started is under way, was dropped, or
was counted once under one outcome; the counters say how many calls had each outcome. The calls
are told apart by their tickets and are read off the trace of a run, without looking at the
counters.
-/

namespace ResilientChat

namespace Breaker

namespace Traffic

/-- The call that an event counts, if it counts one, and its outcome. A call that does not start is
counted at once, one under way when it ends. -/
def settles (met : Traffic × Event) : Option (Nat × Outcome) :=
  match met.2 with
  | .start cancelled =>
    (met.1.step (.start cancelled)).failure.map fun failure =>
      (met.1.started, Outcome.ofResult (α := Unit) (.error failure))
  | .finish ticket v => (met.1.admission? ticket).map fun _ => (ticket, v.outcome)
  | _ => none

def drops (met : Traffic × Event) : Option Nat :=
  match met.2 with
  | .drop ticket => (met.1.admission? ticket).map fun _ => ticket
  | _ => none

def invokes (met : Traffic × Event) : Option Nat :=
  match met.2 with
  | .start cancelled =>
    ((met.1.step (.start cancelled)).traffic.admission? met.1.started).map fun _ => met.1.started
  | _ => none

/-- The calls that a run counted, each with its outcome, in the order in which they were counted. -/
def settled (t : Traffic) (events : List Event) : List (Nat × Outcome) :=
  (t.trace events).filterMap settles

def dropped (t : Traffic) (events : List Event) : List Nat := (t.trace events).filterMap drops

def invoked (t : Traffic) (events : List Event) : List Nat := (t.trace events).filterMap invokes

section Concat

variable (t : Traffic) (events : List Event) (e : Event)

theorem settled_concat :
    t.settled (events ++ [e]) = t.settled events ++ (settles (t.run events, e)).toList := by
  cases h : settles (t.run events, e) <;> simp [settled, trace_concat, h]

theorem dropped_concat :
    t.dropped (events ++ [e]) = t.dropped events ++ (drops (t.run events, e)).toList := by
  cases h : drops (t.run events, e) <;> simp [dropped, trace_concat, h]

theorem invoked_concat :
    t.invoked (events ++ [e]) = t.invoked events ++ (invokes (t.run events, e)).toList := by
  cases h : invokes (t.run events, e) <;> simp [invoked, trace_concat, h]

end Concat

def tickets (t : Traffic) : List Nat := t.inFlight.map Prod.fst

section Step

variable (t : Traffic) (e : Event)

/-- An event counts the call that it settles under that call's outcome, and counts nothing else. -/
theorem tally_step (o : Outcome) :
    (t.step e).traffic.breaker.metrics.tally o =
      t.breaker.metrics.tally o + .ofNat ((settles (t, e)).toList.countP (·.2 = o)) := by
  have hstep := step_transit t e
  cases e with
  | start cancelled =>
      simp only [settles]
      generalize t.step (.start cancelled) = s at hstep ⊢
      cases hstep with
      | givenUp | refused =>
          cases o <;>
            simp [Outcome.ofResult, Metrics.tally, Metrics.countCancelled, Metrics.countRejected]
      | admitted => simp [Metrics.tally_noteChange]
  | finish ticket v =>
      generalize t.step (.finish ticket v) = s at hstep ⊢
      cases hstep with
      | finished hflight =>
          simp [settles, hflight, Metrics.tally_noteChange, Metrics.tally_countVerdict, eq_comm,
            apply_ite UInt64.ofNat]
      | unknownFinished hflight => simp [settles, hflight]
  | drop ticket =>
      generalize t.step (.drop ticket) = s at hstep ⊢
      cases hstep <;> simp [settles]
  | isolate =>
      generalize t.step .isolate = s at hstep ⊢
      cases hstep <;> simp [settles, moved, movedTo, Metrics.tally_noteChange]
  | reset =>
      generalize t.step .reset = s at hstep ⊢
      cases hstep <;> simp [settles, moved, movedTo, Metrics.tally_noteChange]
  | wait d => simp [settles, step]

variable {t e}

/-- If every call is under way, dropped or settled before an event, it is so afterwards: each event
takes one call at most from one of these groups to another. -/
theorem Ticketed.partition_step (ht : t.Ticketed) {dropped settled : List Nat}
    (h : (List.range t.started).Perm (t.tickets ++ dropped ++ settled)) :
    (List.range (t.step e).traffic.started).Perm
      ((t.step e).traffic.tickets ++ (dropped ++ (drops (t, e)).toList) ++
        (settled ++ ((settles (t, e)).map Prod.fst).toList)) := by
  have hstep := step_transit t e
  rw [List.perm_iff_count] at h ⊢
  intro call
  have hcount := h call
  simp only [List.count_append, tickets] at hcount ⊢
  cases e with
  | start cancelled =>
      simp only [settles, drops]
      generalize t.step (.start cancelled) = s at hstep ⊢
      cases hstep with
      | givenUp | refused | admitted =>
          simp only [List.range_succ, List.count_append, List.map_append, List.map_cons,
            List.map_nil, Option.map_none, Option.map_some, Option.toList_none,
            Option.toList_some, List.count_nil]
          omega
  | finish ticket v =>
      generalize t.step (.finish ticket v) = s at hstep ⊢
      cases hstep with
      | finished hflight =>
          have hrelease := ((ht.perm_release hflight).map Prod.fst).count_eq call
          simp only [List.map_cons, List.count_cons] at hrelease
          simp only [settles, drops, hflight, Option.map_some, Option.toList_none,
            Option.toList_some, List.count_nil, List.count_singleton]
          omega
      | unknownFinished hflight => simpa [settles, drops, hflight] using hcount
  | drop ticket =>
      generalize t.step (.drop ticket) = s at hstep ⊢
      cases hstep with
      | droppedProbe hflight | dropped hflight =>
          have hrelease := ((ht.perm_release hflight).map Prod.fst).count_eq call
          simp only [List.map_cons, List.count_cons] at hrelease
          simp only [settles, drops, hflight, release_started, Option.map_none, Option.map_some,
            Option.toList_none, Option.toList_some, List.count_nil, List.count_singleton]
          omega
      | unknownDropped hflight => simpa [settles, drops, hflight] using hcount
  | isolate =>
      generalize t.step .isolate = s at hstep ⊢
      cases hstep <;> simpa [settles, drops, moved] using hcount
  | reset =>
      generalize t.step .reset = s at hstep ⊢
      cases hstep <;> simpa [settles, drops, moved] using hcount
  | wait d =>
      generalize t.step (.wait d) = s at hstep ⊢
      cases hstep
      simpa [settles, drops] using hcount

/-- Of the calls that start, one with a live token either runs its action or is refused. -/
theorem Ticketed.started_step (ht : t.Ticketed) :
    (t.step e).traffic.started =
      t.started + ((invokes (t, e)).toList.length +
        (settles (t, e)).toList.countP (·.2 = .rejected) + [e].count (.start true)) := by
  have hnext := ht.admission?_started
  have hstep := step_transit t e
  cases e with
  | start cancelled =>
      simp only [settles, invokes]
      generalize t.step (.start cancelled) = s at hstep ⊢
      cases hstep with
      | givenUp | refused =>
          rw [admission?] at hnext
          simp [admission?, hnext, Outcome.ofResult]
      | admitted =>
          rw [admission?] at hnext
          simp [admission?, List.lookup_append, hnext]
  | finish ticket v =>
      generalize t.step (.finish ticket v) = s at hstep ⊢
      cases hstep with
      | finished hflight => cases v <;> simp [settles, invokes, hflight, Verdict.outcome]
      | unknownFinished hflight => simp [settles, invokes, hflight]
  | drop ticket =>
      generalize t.step (.drop ticket) = s at hstep ⊢
      cases hstep <;> simp [settles, invokes]
  | isolate =>
      generalize t.step .isolate = s at hstep ⊢
      cases hstep <;> simp [settles, invokes, moved]
  | reset =>
      generalize t.step .reset = s at hstep ⊢
      cases hstep <;> simp [settles, invokes, moved]
  | wait d =>
      generalize t.step (.wait d) = s at hstep ⊢
      cases hstep
      simp [settles, invokes]

theorem Transit.started_eq {s : Step} (h : Transit t e s) :
    s.traffic.started = t.started + [e].countP (· matches .start _) := by
  cases h <;> rfl

/-- An event that starts an action starts the next call. -/
theorem sublist_invokes :
    (List.range t.started ++ (invokes (t, e)).toList).Sublist
      (List.range (t.step e).traffic.started) := by
  have hstep := step_transit t e
  cases e with
  | start cancelled =>
      have hnext : (invokes (t, .start cancelled)).toList.Sublist [t.started] := by
        cases h : (t.step (.start cancelled)).traffic.admission? t.started <;> simp [invokes, h]
      have hstarted : (t.step (.start cancelled)).traffic.started = t.started + 1 :=
        hstep.started_eq
      rw [hstarted, List.range_succ]
      exact hnext.append_left _
  | _ => simpa [invokes] using hstep.started_le

end Step

section Run

variable (name : String) (limits : Limits) (events : List Event)

theorem run_partition :
    (List.range ((fresh name limits).run events).started).Perm
      (((fresh name limits).run events).tickets ++ (fresh name limits).dropped events ++
        ((fresh name limits).settled events).map Prod.fst) := by
  induction events using List.reverseRecOn with
  | nil => rfl
  | append_singleton events e ih =>
      rw [run_concat, dropped_concat, settled_concat, List.map_append, ← Option.toList_map]
      exact (run_ticketed name limits events).partition_step ih

theorem run_tally (o : Outcome) :
    ((fresh name limits).run events).breaker.metrics.tally o =
      .ofNat (((fresh name limits).settled events).countP (·.2 = o)) := by
  induction events using List.reverseRecOn with
  | nil => cases o <;> rfl
  | append_singleton events e ih =>
      rw [run_concat, tally_step, ih, settled_concat, List.countP_append, UInt64.ofNat_add]

theorem run_starts :
    ((fresh name limits).run events).started = events.countP (· matches .start _) := by
  induction events using List.reverseRecOn with
  | nil => rfl
  | append_singleton events e ih =>
      rw [run_concat, (step_transit _ e).started_eq, ih, List.countP_append]

theorem run_started :
    ((fresh name limits).run events).started =
      ((fresh name limits).invoked events).length +
        ((fresh name limits).settled events).countP (·.2 = .rejected) +
        events.count (.start true) := by
  induction events using List.reverseRecOn with
  | nil => rfl
  | append_singleton events e ih =>
      rw [run_concat, (run_ticketed name limits events).started_step, ih, invoked_concat,
        settled_concat, List.length_append, List.countP_append, List.count_append]
      omega

theorem run_invoked :
    ((fresh name limits).invoked events).Sublist
      (List.range ((fresh name limits).run events).started) := by
  induction events using List.reverseRecOn with
  | nil => exact List.Sublist.refl _
  | append_singleton events e ih =>
      rw [run_concat, invoked_concat]
      exact (ih.append_right _).trans sublist_invokes

end Run

/-- Every outcome is one of four. -/
theorem length_eq_outcomes (calls : List (Nat × Outcome)) :
    calls.length = calls.countP (·.2 = .success) + calls.countP (·.2 = .failure) +
      calls.countP (·.2 = .rejected) + calls.countP (·.2 = .cancelled) := by
  induction calls with
  | nil => rfl
  | cons call calls ih =>
      obtain ⟨ticket, outcome⟩ := call
      cases outcome <;> simp [ih] <;> omega

/-- A call that starts now runs its action, once, exactly if its start does not fail. -/
theorem call_of_guard {α : Type} (t : Traffic)
    (action : Instant → Cancellation → Option (Call α)) (caller : Cancellation) :
    (t.breaker.guard action t.now caller).map Guarded.call =
      match (t.step (.start (caller.isDue t.now))).failure with
      | some failure => some (.given (.error failure) t.now caller)
      | none => action t.now caller := by
  rw [guard, step, start]
  rcases t.breaker.start (ε := Fault) (caller.isDue t.now) t.now with ⟨m, failure | a⟩
  · rfl
  · simp [moved, Function.comp_def]

/-- Every call is counted once, over every run, whether the circuit counts failures or not. (1) Each
call that was started is under way, was dropped or was settled, and only one of these, once. (2) The
counters say how many calls were settled under each outcome, and (3) the event that settles a call
is the only one that counts it. (4) So at every moment the calls started are those under way, those
dropped and those that the counters hold, which count modulo their size. (5) An action is started
once at most for each call, and for all calls but those refused and those given up before they
started; (6) a whole call runs its action exactly if its start does not fail. -/
theorem every_call_counted_once (name : String) (limits : Limits) (events : List Event) :
    let t := (fresh name limits).run events
    let m := t.breaker.metrics
    let dropped := (fresh name limits).dropped events
    let settled := (fresh name limits).settled events
    let invoked := (fresh name limits).invoked events
    t.started = events.countP (· matches .start _) ∧
    (List.range t.started).Perm (t.tickets ++ dropped ++ settled.map Prod.fst) ∧
    (∀ o, m.tally o = .ofNat (settled.countP (·.2 = o))) ∧
    (∀ e o, (t.step e).traffic.breaker.metrics.tally o =
      m.tally o + .ofNat ((settles (t, e)).toList.countP (·.2 = o))) ∧
    UInt64.ofNat t.started = .ofNat t.inFlight.length + .ofNat dropped.length +
      m.successes + m.failures + m.rejected + m.cancelled ∧
    (t.started < UInt64.size →
      t.started = t.inFlight.length + dropped.length + m.successes.toNat + m.failures.toNat +
        m.rejected.toNat + m.cancelled.toNat) ∧
    invoked.Sublist (List.range t.started) ∧
    t.started =
      invoked.length + settled.countP (·.2 = .rejected) + events.count (.start true) ∧
    ∀ {α : Type} (action : Instant → Cancellation → Option (Call α)) (caller : Cancellation),
      (t.breaker.guard action t.now caller).map Guarded.call =
        match (t.step (.start (caller.isDue t.now))).failure with
        | some failure => some (.given (.error failure) t.now caller)
        | none => action t.now caller := by
  intro t m dropped settled invoked
  have hpartition := run_partition name limits events
  have htally := run_tally name limits events
  have hsuccesses : m.successes = .ofNat (settled.countP (·.2 = .success)) := htally .success
  have hfailures : m.failures = .ofNat (settled.countP (·.2 = .failure)) := htally .failure
  have hrejected : m.rejected = .ofNat (settled.countP (·.2 = .rejected)) := htally .rejected
  have hcancelled : m.cancelled = .ofNat (settled.countP (·.2 = .cancelled)) := htally .cancelled
  have houtcomes := length_eq_outcomes settled
  have hcalls : t.started = t.inFlight.length + dropped.length + settled.length := by
    have hlength := hpartition.length_eq
    simp only [List.length_range, List.length_append, List.length_map, tickets] at hlength
    exact hlength
  refine ⟨?_, hpartition, htally, tally_step t, ?_, fun hfew => ?_, run_invoked name limits events,
    run_started name limits events, call_of_guard t⟩
  · exact run_starts name limits events
  · rw [hsuccesses, hfailures, hrejected, hcancelled]
    simp only [← UInt64.ofNat_add]
    congr 1
    omega
  · rw [hsuccesses, hfailures, hrejected, hcancelled]
    simp only [UInt64.toNat_ofNat']
    rw [UInt64.size] at hfew
    omega

/-- Six calls: the third is given up before it starts, the first one's failure opens the circuit,
the second is dropped, the fourth ends in the open circuit, the fifth is still under way and the
sixth is refused. -/
def sixCalls : List Event :=
  [.start false, .start false, .start true, .start false, .start false, .finish 0 .failure, .drop 1,
    .start false, .finish 3 .success]

theorem six_calls_counted_once :
    let t := (fresh "sql" { threshold := 1 }).run sixCalls
    let m := t.breaker.metrics
    let dropped := (fresh "sql" { threshold := 1 }).dropped sixCalls
    let settled := (fresh "sql" { threshold := 1 }).settled sixCalls
    t.started < UInt64.size ∧ dropped = [1] ∧
      settled = [(2, .cancelled), (0, .failure), (5, .rejected), (3, .success)] ∧
      t.started = t.inFlight.length + dropped.length + m.successes.toNat + m.failures.toNat +
        m.rejected.toNat + m.cancelled.toNat := by
  intro t m dropped settled
  have hfew : t.started < UInt64.size := by decide
  obtain ⟨-, -, -, -, -, hcounted, -⟩ :=
    every_call_counted_once "sql" { threshold := 1 } sixCalls
  exact ⟨hfew, by decide, by decide, hcounted hfew⟩

end Traffic

end Breaker

end ResilientChat
