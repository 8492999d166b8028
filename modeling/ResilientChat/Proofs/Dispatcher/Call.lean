import ResilientChat.Proofs.Breaker.Passage
import ResilientChat.Proofs.Dispatcher.Traffic
import ResilientChat.Proofs.Retry.Replies

/-!
A whole call through a dispatcher. However often it is repeated, it passes the circuit of its
dependency once and is counted once, under the outcome of its result, and the events of the call
end with that outcome.
-/

namespace ResilientChat

/-- Only a result without a failure is a success. -/
theorem Outcome.ok_of_success {α ε : Type} {result : Except (CallFailure ε) α}
    (h : ofResult result = .success) : ∃ v, result = .ok v := by
  rcases result with (_ | _ | _ | _) | v
  · cases h
  · cases h
  · cases h
  · cases h
  · exact ⟨v, rfl⟩

namespace Dispatcher

open Breaker

variable {α : Type}

section Run

variable {d : Dispatcher} {name : String} {draws : Nat → Nat} {script : Script α} {now : Instant}
  {caller : Cancellation} {done : Dispatched α}

def dispatched (d : Dispatcher) (name : String) (started : Instant) (g : Guarded α) :
    Dispatched α where
  dispatcher := { d with registry := d.registry.put g.breaker, backoffs := d.backoffs.keep name }
  result := g.call.result
  endsAt := g.call.endsAt
  caller := g.call.caller
  calls := g.call.calls
  events := events name started g

/-- A call is repeated by the backoff of its dependency's own tuning, whether it was kept or not. -/
theorem run_eq (d : Dispatcher) (name : String) (draws : Nat → Nat) (script : Script α)
    (now : Instant) (caller : Cancellation) :
    d.run name draws script now caller =
      ((d.breaker name).callRepeated (d.backoffFor name) draws script now caller).map
        (d.dispatched name now) := by
  rw [run, Kept.obtain_eq]
  rfl

/-- A call that ends has passed the circuit of its dependency. -/
theorem passage_of_run (h : d.run name draws script now caller = some done) :
    ∃ g, (d.breaker name).Passage ((d.backoffFor name).run draws script) now caller g ∧
      done = d.dispatched name now g := by
  rw [run_eq] at h
  obtain ⟨g, hg, rfl⟩ := Option.map_eq_some_iff.mp h
  exact ⟨g, guard_passage hg, rfl⟩

theorem calls_le_of_run (h : d.run name draws script now caller = some done) :
    done.calls ≤ (d.backoffFor name).totalAttempts := by
  obtain ⟨g, hpassage, rfl⟩ := passage_of_run h
  cases hpassage with
  | givenUp | refused => exact Nat.zero_le _
  | passed _ _ _ hcall => exact Backoff.run_calls_le hcall

/-- The caller waits, and the circuit of the dependency does not turn the call away. -/
def LetsThrough (d : Dispatcher) (name : String) (now : Instant) (caller : Cancellation) : Prop :=
  caller.isDue now = false ∧ ¬(d.breaker name).circuit.Refuses (d.breaker name).limits now

/-- The circuits of a dispatcher that has not been used are closed. -/
theorem letsThrough_ofSettings (settings : Settings) (name : String) (now : Instant) :
    (ofSettings settings).LetsThrough name now none := by
  refine ⟨rfl, ?_⟩
  rintro (hphase | ⟨-, ⟨hphase, -⟩ | ⟨hphase, -⟩⟩) <;> cases hphase

/-- A call that is let through reaches its dependency, and no other call does. -/
theorem calls_pos_iff_of_run (h : d.run name draws script now caller = some done) :
    0 < done.calls ↔ d.LetsThrough name now caller := by
  obtain ⟨g, hpassage, rfl⟩ := passage_of_run h
  cases hpassage with
  | givenUp hdue =>
      exact iff_of_false (Nat.lt_irrefl 0) fun hpass => nomatch hdue.symm.trans hpass.1
  | refused _ hrefuses => exact iff_of_false (Nat.lt_irrefl 0) fun hpass => hpass.2 hrefuses
  | passed hlive hentry _ hcall =>
      exact iff_of_true (Backoff.run_calls_pos hcall hlive) ⟨hlive, hentry.not_refuses⟩

/-- A call succeeds exactly when the last answer to it is a success, and with that value. -/
theorem result_ok_iff_of_run (h : d.run name draws script now caller = some done) (v : α) :
    done.result = .ok v ↔ ∃ n, done.calls = n + 1 ∧ (script n).result = .ok v := by
  obtain ⟨g, hpassage, rfl⟩ := passage_of_run h
  cases hpassage with
  | givenUp | refused => simp [dispatched, Call.given]
  | passed _ _ _ hcall => exact Backoff.run_ok_iff hcall v

/-- Every answer before the last one was worth another attempt. -/
theorem retried_of_run (h : d.run name draws script now caller = some done) {i : Nat}
    (hi : i + 1 < done.calls) : (script i).IsRetryable := by
  obtain ⟨g, hpassage, rfl⟩ := passage_of_run h
  cases hpassage with
  | givenUp | refused => cases hi
  | passed _ _ _ hcall => exact Backoff.run_retried hcall hi

/-- Time does not run backwards during a call. -/
theorem le_endsAt_of_run (h : d.run name draws script now caller = some done) :
    now ≤ done.endsAt := by
  obtain ⟨g, hpassage, rfl⟩ := passage_of_run h
  cases hpassage with
  | givenUp | refused => exact Nat.le_refl now
  | passed _ _ _ hcall => exact Backoff.run_le_endsAt hcall

/-- A call of a dependency whose calls all end comes to an end. -/
theorem exists_run (hreturns : script.Returns) (d : Dispatcher) (name : String) (draws : Nat → Nat)
    (now : Instant) (caller : Cancellation) :
    ∃ done, d.run name draws script now caller = some done := by
  obtain ⟨g, hg⟩ : ∃ g,
      (d.breaker name).callRepeated (d.backoffFor name) draws script now caller = some g := by
    rw [Breaker.callRepeated, Breaker.guard]
    rcases (d.breaker name).start (ε := Fault) (caller.isDue now) now with ⟨entered, failure | a⟩
    · exact ⟨_, rfl⟩
    · obtain ⟨c, hcall⟩ := Backoff.exists_run hreturns (d.backoffFor name) draws now caller
      exact ⟨_, congrArg (Option.map _) hcall⟩
  refine ⟨d.dispatched name now g, ?_⟩
  rw [run_eq, hg, Option.map_some]

end Run

def Dispatched.map {β : Type} (f : α → β) (d : Dispatched α) : Dispatched β :=
  { d with result := d.result.map f }

/-- A dependency that answers with other values is called in the same way. -/
theorem run_map {β : Type} (f : α → β) (d : Dispatcher) (name : String) (draws : Nat → Nat)
    (script : Script α) (now : Instant) (caller : Cancellation) :
    d.run name draws (fun n => (script n).map f) now caller =
      (d.run name draws script now caller).map (Dispatched.map f) := by
  have houtcome (result : Except (CallFailure Fault) α) :
      Outcome.ofResult (result.map f) = Outcome.ofResult result := by
    cases result with
    | ok v => rfl
    | error failure => cases failure <;> rfl
  have hevents (g : Guarded α) : events name now (g.map f) = events name now g := by
    simp only [events, Guarded.map, Call.map, houtcome]
  have haction : (d.backoffFor name).run draws (fun n => (script n).map f) =
      fun now caller => ((d.backoffFor name).run draws script now caller).map (Call.map f) := by
    funext now caller
    exact Backoff.run_map f _ draws script now caller
  rw [run_eq, run_eq, callRepeated, callRepeated, haction, guard_map, Option.map_map,
    Option.map_map]
  congr 1
  funext g
  simp only [Function.comp_apply, dispatched, hevents]
  rfl

def eventsBefore (name : String) (g : Guarded α) : List Event :=
  changeEvents name g.opening ++ g.call.reports.map (Event.attempt name)
    ++ changeEvents name g.closing

theorem events_eq (name : String) (started : Instant) (g : Guarded α) :
    events name started g = eventsBefore name g ++
      [.outcome name (Outcome.ofResult g.call.result) (g.call.endsAt - started)] := rfl

/-- A call that ends has its outcome among its events. -/
theorem outcome_mem_events_of_run {d : Dispatcher} {name : String} {draws : Nat → Nat}
    {script : Script α} {now : Instant} {caller : Cancellation} {done : Dispatched α}
    (h : d.run name draws script now caller = some done) :
    .outcome name (Outcome.ofResult done.result) (done.endsAt - now) ∈ done.events := by
  obtain ⟨g, -, rfl⟩ := passage_of_run h
  rw [dispatched, events_eq]
  exact List.mem_append_right _ (List.mem_singleton_self _)

theorem outcome_not_mem_eventsBefore (name : String) (g : Guarded α) (dependency : String)
    (outcome : Outcome) (elapsed : Duration) :
    Event.outcome dependency outcome elapsed ∉ eventsBefore name g := by
  simp [eventsBefore, changeEvents]

theorem attempt_mem_events {name : String} {started : Instant} {g : Guarded α}
    {dependency : String} {report : AttemptReport}
    (h : Event.attempt dependency report ∈ events name started g) : report ∈ g.call.reports := by
  simp only [events, changeEvents, List.mem_append, Option.mem_toList, Option.map_eq_some_iff,
    List.mem_map, List.mem_singleton, reduceCtorEq, and_false, exists_false, or_false,
    false_or] at h
  obtain ⟨_, hmem, heq⟩ := h
  cases heq
  exact hmem

end Dispatcher

namespace Dispatcher.Traffic

/-- The breaker of the dependency after a call of it. -/
theorem Regular.breaker_dispatched {t : Traffic} (h : t.Regular) {name : String}
    {g : Breaker.Guarded α} {action : Instant → Cancellation → Option (Call α)}
    {caller : Cancellation}
    (hpassage : (t.dispatcher.breaker name).Passage action t.now caller g) :
    (t.dispatcher.dispatched name t.now g).dispatcher.breaker name = g.breaker := by
  have hname : g.breaker.name = name := hpassage.name_eq.trans (h.reached name).name_eq
  rw [breaker, dispatched, Breaker.Registry.obtain_put, if_pos hname.symm]

/-- A call leaves the breakers of other dependencies alone, and makes none of their names. -/
theorem Regular.get?_dispatched {t : Traffic} (h : t.Regular) {name other : String}
    {draws : Nat → Nat} {script : Script α} {now : Instant} {caller : Cancellation}
    {done : Dispatched α}
    (hrun : t.dispatcher.run name draws script now caller = some done) (hother : other ≠ name) :
    done.dispatcher.registry.get? other = t.dispatcher.registry.get? other := by
  obtain ⟨g, hpassage, rfl⟩ := passage_of_run hrun
  have hname : g.breaker.name = name := hpassage.name_eq.trans (h.reached name).name_eq
  rw [dispatched, Breaker.Registry.get?_put, hname, if_neg hother]

/-- A call of a dependency is counted once, whatever the number of its attempts. Its events end
with its only outcome, which is that of its result, and the counter of that outcome is the only
one that grows. The call is refused exactly when its circuit turns it away, and then calls nothing.
It makes at most one failure, and one that is given up leaves the circuit as it was when the call
was let through, with the probe's place free. -/
theorem run_counts_once (settings : Settings) (events : List Event) (name : String)
    (draws : Nat → Nat) (script : Script α) (caller : Cancellation) (done : Dispatched α)
    (hrun : ((fresh settings).run events).dispatcher.run name draws script
      ((fresh settings).run events).now caller = some done) :
    let t := (fresh settings).run events
    let before := t.dispatcher.breaker name
    let entered := (before.start (ε := Fault) (caller.isDue t.now) t.now).1.breaker
    let after := done.dispatcher.breaker name
    let outcome := Outcome.ofResult done.result
    (∃ earlier,
        done.events = earlier ++ [.outcome name outcome (done.endsAt - t.now)] ∧
          ∀ dependency o elapsed, .outcome dependency o elapsed ∉ earlier) ∧
      (∀ o, after.metrics.tally o = before.metrics.tally o + if o = outcome then 1 else 0) ∧
      ((∃ circuit phase, done.result = .error (.refused circuit phase)) ↔
        caller.isDue t.now = false ∧ before.circuit.Refuses before.limits t.now) ∧
      (∀ circuit phase, done.result = .error (.refused circuit phase) →
        circuit = name ∧ phase = before.phase ∧ done.calls = 0 ∧
          ∀ dependency report, .attempt dependency report ∉ done.events) ∧
      done.calls ≤ (Backoff.ofTuning (settings.tuningFor name)).totalAttempts ∧
      after.failures.toNat ≤ before.failures.toNat + 1 ∧
      (done.result = .error .cancelled →
        after.circuit = { entered.circuit with probing := before.probing } ∧
          (caller.isDue t.now = false ∨ (t.calls name).inFlight = [] → after.probing = false)) := by
  intro t before entered after outcome
  have hregular : t.Regular := run_regular settings events
  have hline := hregular.reached name
  have hplace (hprobing : before.probing = true) : before.phase = .halfOpen :=
    (hline.held hprobing).1
  have hcalls : done.calls ≤ (Backoff.ofTuning (settings.tuningFor name)).totalAttempts := by
    have hle := calls_le_of_run hrun
    rwa [backoffFor, run_settings] at hle
  obtain ⟨g, hpassage, rfl⟩ := passage_of_run hrun
  have hafter : after = g.breaker := hregular.breaker_dispatched hpassage
  -- Attempts are never refused: whatever was refused was refused by this circuit.
  have hattempts : ∀ call,
      (t.dispatcher.backoffFor name).run draws script t.now caller = some call →
        ∀ circuit phase, call.result ≠ .error (.refused circuit phase) :=
    fun call hcall => Backoff.run_not_refused hcall
  rw [hafter]
  refine ⟨⟨_, events_eq name t.now g, outcome_not_mem_eventsBefore name g⟩,
    hpassage.tally hattempts, hpassage.refused_iff hattempts, fun circuit phase hresult => ?_,
    hcalls, hpassage.failures_le, fun hresult => ⟨hpassage.of_cancelled hplace hresult, ?_⟩⟩
  · obtain ⟨⟨hcircuit, hphase⟩, hnone, hreports⟩ := hpassage.of_refused hattempts hresult
    refine ⟨hcircuit.trans hline.name_eq, hphase, hnone, fun dependency report hmem => ?_⟩
    have hreport := attempt_mem_events hmem
    rw [hreports] at hreport
    exact List.not_mem_nil hreport
  · rintro (hlive | hidle)
    · exact hpassage.probing_of_cancelled hline.sound.circuit hplace hlive hresult
    · -- Nobody is under way who could hold the place.
      have hcircuit := hpassage.of_cancelled hplace hresult
      rw [← Breaker.circuit_probing, hcircuit]
      refine Bool.eq_false_iff.mpr fun hprobing => ?_
      obtain ⟨-, call, hmem, -⟩ := hline.held hprobing
      have hnone : call ∈ (t.calls name).inFlight := hmem
      rw [hidle] at hnone
      exact List.not_mem_nil hnone

/-- The settings of a circuit that opens at its first failure and does not stay open. -/
def touchy : Settings :=
  { defaults :=
      { failureThreshold := 1, breakMs := 0, initialDelayMs := 0, jitter := false } }

/-- The call of the probe: its first attempt fails, and the caller gives up during the second. -/
def probeGivenUp : Option (Dispatched Unit) :=
  let t := (fresh touchy).run [.start "llm" false, .finish "llm" 0 .failure]
  t.dispatcher.run "llm" (fun _ => 0) (fun _ => { result := .error .timeout, takes := 5 }) t.now
    (some 7)

theorem probe_given_up_counts_once :
    ∃ done, probeGivenUp = some done ∧ done.calls = 2 ∧
      done.events =
        [.transition "llm" ⟨.opened, .halfOpen⟩,
          .attempt "llm" ⟨1, 3, some "dependency call timed out", 5, some 0⟩,
          .outcome "llm" .cancelled 10] ∧
      (done.dispatcher.breaker "llm").phase = .halfOpen ∧
      (done.dispatcher.breaker "llm").failures = 1 ∧
      (done.dispatcher.breaker "llm").metrics.tally .cancelled = 1 ∧
      (done.dispatcher.breaker "llm").probing = false := by
  have hends : probeGivenUp.any (fun done =>
      done.calls = 2 ∧ done.result = .error .cancelled ∧
      done.events =
        [.transition "llm" ⟨.opened, .halfOpen⟩,
          .attempt "llm" ⟨1, 3, some "dependency call timed out", 5, some 0⟩,
          .outcome "llm" .cancelled 10] ∧
      (done.dispatcher.breaker "llm").phase = .halfOpen ∧
      (done.dispatcher.breaker "llm").failures = 1) = true := by decide +kernel
  obtain ⟨done, hrun, hdone⟩ := (Option.any_eq_true _ _).mp hends
  obtain ⟨hcalls, hgivenUp, hevents, hphase, hfailures⟩ := of_decide_eq_true hdone
  obtain ⟨-, htally, -, -, -, -, hcancelled⟩ :=
    run_counts_once touchy [.start "llm" false, .finish "llm" 0 .failure] "llm" _ _ _ done hrun
  refine ⟨done, hrun, hcalls, hevents, hphase, hfailures, ?_,
    (hcancelled hgivenUp).2 (.inl (by decide +kernel))⟩
  rw [htally .cancelled, hgivenUp]
  decide +kernel

end Dispatcher.Traffic

end ResilientChat
