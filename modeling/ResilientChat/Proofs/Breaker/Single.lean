import ResilientChat.Proofs.Breaker.Passage
import ResilientChat.Proofs.Retry.Course
import Mathlib.Data.Option.Basic

/-!
One attempt with and without a retry policy around it. A plain call and a repeated call that may
make a single attempt end together, and they are charged to the circuit alike with one exception.
When an attempt has failed, the repeated call looks at its caller's token once more and the plain
call does not, so a fault that comes after the caller gave up is charged to the circuit by the plain
call only.
-/

namespace ResilientChat

variable {α : Type} {r : Reply α} {now : Instant} {caller : Cancellation}

/-- The call made its attempt, and this failed by a fault of the dependency after the caller had
given up. -/
def Reply.FailsLate (r : Reply α) (c : Call α) : Prop :=
  0 < c.calls ∧ c.caller.isDue c.endsAt = true ∧
    ∃ fault, r.result = .error fault ∧ fault.isCancellation = false

/-- Two calls end together after as many attempts, and one succeeds if the other does, with the same
value. -/
structure Call.EndsWith (c c' : Call α) : Prop where
  endsAt : c'.endsAt = c.endsAt
  caller : c'.caller = c.caller
  calls : c'.calls = c.calls
  ok_iff : ∀ v, c'.result = .ok v ↔ c.result = .ok v

theorem Call.EndsWith.refl (c : Call α) : c.EndsWith c := ⟨rfl, rfl, rfl, fun _ => Iff.rfl⟩

/-- What a plain call `c` and a repeated call `c'` make of the same single attempt. -/
structure Reply.Retold (r : Reply α) (c c' : Call α) : Prop extends c.EndsWith c' where
  answered : Outcome.ofResult c.result ≠ .rejected
  alike : ¬r.FailsLate c → Outcome.ofResult c'.result = Outcome.ofResult c.result
  late : r.FailsLate c → Outcome.ofResult c.result = .failure ∧ c'.result = .error .cancelled

/-- The outcome of a fault that no retry policy looks at. -/
theorem outcome_ofFault (fault : Fault) :
    Outcome.ofResult (α := α) (.error (CallFailure.ofFault fault)) =
      if fault.isCancellation = true then .cancelled else .failure := by
  rw [CallFailure.ofFault]
  split <;> rfl

namespace Reply

def plainly (r : Reply α) (e : End) : Call α :=
  ⟨r.result.mapError CallFailure.ofFault, e.instant, e.caller, 1, []⟩

theorem failsLate_plainly_iff {e : End} {fault : Fault} (hfault : r.result = .error fault) :
    r.FailsLate (r.plainly e) ↔
      e.caller.isDue e.instant = true ∧ fault.isCancellation = false := by
  simp [FailsLate, plainly, hfault]

theorem retold_of_ok {e : End} {v : α} {c : Call α} (hok : r.result = .ok v)
    (hresult : c.result = .ok v) (hends : c.endsAt = e.instant) (hcaller : c.caller = e.caller)
    (hcalls : c.calls = 1) : r.Retold (r.plainly e) c := by
  have hplain : (r.plainly e).result = .ok v := by rw [plainly, hok, Except.mapError]
  refine ⟨⟨hends, hcaller, hcalls, fun w => by rw [hresult, hplain]⟩, ?_, fun _ => ?_, ?_⟩
  · rw [hplain]
    exact nofun
  · rw [hresult, hplain]
  · rintro ⟨-, -, fault, hfault, -⟩
    cases hok.symm.trans hfault

/-- The repeated call gives up if its caller did or the attempt says so, and fails otherwise. -/
theorem retold_of_error {e : End} {fault : Fault} {c : Call α} (hfault : r.result = .error fault)
    (hgone : fault.isCancellation = true ∨ e.caller.isDue e.instant = true →
      c.result = .error .cancelled)
    (hwanted : fault.isCancellation = false → e.caller.isDue e.instant = false →
      Outcome.ofResult c.result = .failure)
    (hends : c.endsAt = e.instant) (hcaller : c.caller = e.caller) (hcalls : c.calls = 1) :
    r.Retold (r.plainly e) c := by
  have hplain : (r.plainly e).result = .error (CallFailure.ofFault fault) := by
    rw [plainly, hfault, Except.mapError]
  have houtcome := outcome_ofFault (α := α) fault
  have hfailed : ∀ v, c.result ≠ .ok v := by
    intro v hok
    cases hown : fault.isCancellation with
    | true => cases hok.symm.trans (hgone (.inl hown))
    | false =>
        cases hdue : e.caller.isDue e.instant with
        | true => cases hok.symm.trans (hgone (.inr hdue))
        | false =>
            have hfailure := hwanted hown hdue
            rw [hok] at hfailure
            cases hfailure
  refine ⟨⟨hends, hcaller, hcalls, fun v => iff_of_false (hfailed v) ?_⟩, ?_, ?_, ?_⟩
  · rw [hplain]
    exact nofun
  · rw [hplain, houtcome]
    split <;> exact nofun
  · intro htimely
    rw [failsLate_plainly_iff hfault] at htimely
    rw [hplain, houtcome]
    cases hown : fault.isCancellation with
    | true =>
        rw [hgone (.inl hown)]
        rfl
    | false =>
        have hdue : e.caller.isDue e.instant = false := by
          rw [← Bool.not_eq_true]
          exact fun hdue => htimely ⟨hdue, hown⟩
        exact hwanted hown hdue
  · intro hlate
    rw [failsLate_plainly_iff hfault] at hlate
    refine ⟨?_, hgone (.inr hlate.1)⟩
    rw [hplain, houtcome, hlate.2]
    rfl

end Reply

theorem Breaker.Verdict.ofResult_failure_iff {result : Except (CallFailure Fault) α} :
    Verdict.ofResult result = .failure ↔ Outcome.ofResult result = .failure := by
  rcases result with (_ | _ | _ | _) | _ <;> simp [Verdict.ofResult, Outcome.ofResult]

/-- What is charged to a circuit is decided by the outcome of a call, unless it was refused. -/
theorem Breaker.Verdict.ofResult_congr {result result' : Except (CallFailure Fault) α}
    (h : Outcome.ofResult result' = Outcome.ofResult result)
    (hanswered : Outcome.ofResult result ≠ .rejected) :
    Verdict.ofResult result' = Verdict.ofResult result := by
  have hrefused (result : Except (CallFailure Fault) α) (h : Outcome.ofResult result ≠ .rejected)
      (circuit : String) (phase : Phase) : result ≠ .error (.refused circuit phase) := by
    rintro rfl
    exact h rfl
  have hsame : (Verdict.ofResult result').outcome = (Verdict.ofResult result).outcome := by
    rw [Verdict.outcome_ofResult (hrefused result hanswered),
      Verdict.outcome_ofResult (hrefused result' (h ▸ hanswered)), h]
  cases hv : Verdict.ofResult result <;> cases hv' : Verdict.ofResult result' <;>
    simp_all [Verdict.outcome]

namespace Backoff

theorem totalAttempts_of_single {b : Backoff} (h : b.retries = 0) : b.totalAttempts = 1 := by
  rw [totalAttempts, h]
  decide

namespace Plan

/-- The last attempt that may be made ends the call if it ends at all. -/
theorem attemptsFrom_zero_eq_none_iff {p : Plan α} {attempt : Nat}
    (hlive : caller.isDue now = false) :
    p.attemptsFrom 0 attempt now caller = none ↔
      (p.script (attempt - 1)).play now caller = none := by
  rw [attemptsFrom, if_neg (by simp [hlive])]
  cases hend : (p.script (attempt - 1)).play now caller with
  | none => simp [hend]
  | some e =>
      simp only [hend]
      split
      · simp
      · split <;> (try split) <;> simp

/-- What a plain call makes of the last attempt that a repeated call may make. -/
theorem Course.retold {p : Plan α} {attempt : Nat} {c : Call (α × AttemptReport)}
    (h : p.Course 0 attempt now caller c) (hlive : caller.isDue now = false) :
    ∃ e, (p.script (attempt - 1)).play now caller = some e ∧
      (p.script (attempt - 1)).Retold ((p.script (attempt - 1)).plainly e) (c.map Prod.fst) := by
  cases h with
  | givenUp hdue => exact absurd (hdue.symm.trans hlive) Bool.noConfusion
  | @succeeded _ _ _ _ e v hmade hok =>
      exact ⟨e, hmade.ends, Reply.retold_of_ok hok rfl rfl rfl rfl⟩
  | @abandoned _ _ _ _ e fault hmade hfault hgone =>
      refine ⟨e, hmade.ends, Reply.retold_of_error hfault (fun _ => rfl) ?_ rfl rfl rfl⟩
      intro hown hwanted
      rw [hown, hwanted] at hgone
      rcases hgone with hgone | hgone <;> cases hgone
  | @failed _ _ _ _ e fault hfault | @exhausted _ _ _ e fault hfault =>
      refine ⟨e, hfault.ends,
        Reply.retold_of_error hfault.result ?_ (fun _ _ => rfl) rfl rfl rfl⟩
      rw [hfault.own, hfault.wanted]
      rintro (hgone | hgone) <;> cases hgone

end Plan

/-- A repeated call of a live caller that may make one attempt ends with the plain call of that
attempt, and makes the same of it unless it fails late. -/
theorem run_single (b : Backoff) (hsingle : b.retries = 0) (draws : Nat → Nat) (r : Reply α)
    (hlive : caller.isDue now = false) :
    Option.Rel r.Retold (r.once now caller) (b.run draws (fun _ => r) now caller) := by
  have htotal := totalAttempts_of_single hsingle
  cases hrun : b.run draws (fun _ => r) now caller with
  | none =>
      rw [run, runReporting, htotal, Option.map_eq_none_iff] at hrun
      rw [Reply.once, (Plan.attemptsFrom_zero_eq_none_iff hlive).mp hrun]
      exact .none
  | some c =>
      obtain ⟨full, hcourse, rfl⟩ := run_course hrun
      rw [htotal] at hcourse
      obtain ⟨e, hend, hretold⟩ := hcourse.retold hlive
      rw [Reply.once, hend]
      exact .some hretold

end Backoff

namespace Breaker

/-- What a plain call and a repeated call of the same single attempt do to one breaker. -/
structure Charges (b : Breaker) (r : Reply α) (now : Instant) (g g' : Guarded α) : Prop
    extends g.call.EndsWith g'.call where
  opening : g'.opening = g.opening
  /-- Unless the attempt fails late, both leave the breaker in the same state. -/
  alike : ¬r.FailsLate g.call →
    g'.breaker = g.breaker ∧ g'.closing = g.closing ∧
      Outcome.ofResult g'.call.result = Outcome.ofResult g.call.result
  /-- If it does, it is the dependency's failure to one and the caller's to the other. -/
  late : r.FailsLate g.call →
    Outcome.ofResult g.call.result = .failure ∧ g'.call.result = .error .cancelled ∧
      ∃ entered admission, b.enter now = (entered, .ok admission) ∧
        g.breaker = (entered.breaker.complete admission .failure g.call.endsAt).breaker ∧
        g'.breaker = (entered.breaker.complete admission .neutral g.call.endsAt).breaker

/-- Only a live caller's call that enters the circuit is let through. -/
theorem enter_of_start_ok {b : Breaker} {cancelled : Bool} {entered : Moved}
    {admission : Admission} (h : b.start (ε := Fault) cancelled now = (entered, .ok admission)) :
    cancelled = false ∧ b.enter now = (entered, .ok admission) := by
  cases cancelled with
  | true => cases h
  | false =>
      refine ⟨rfl, ?_⟩
      rw [start] at h
      cases henter : b.enter now with
      | mk moved admitted =>
          rw [henter] at h
          cases admitted with
          | error phase => cases h
          | ok a =>
              cases h
              rfl

/-- One attempt is charged to a circuit alike with and without a retry policy around it, unless it
fails after its caller gave up. -/
theorem single_attempt_charged_alike (b : Breaker) {backoff : Backoff}
    (hsingle : backoff.retries = 0) (draws : Nat → Nat) (r : Reply α) (now : Instant)
    (caller : Cancellation) :
    Option.Rel (b.Charges r now) (b.callOnce r now caller)
      (b.callRepeated backoff draws (fun _ => r) now caller) := by
  rw [callOnce, callRepeated, guard, guard]
  cases hstart : b.start (ε := Fault) (caller.isDue now) now with
  | mk entered admitted =>
      cases admitted with
      | error failure =>
          refine .some ⟨.refl _, rfl, fun _ => ⟨rfl, rfl, rfl⟩, ?_⟩
          rintro ⟨hcalled, -⟩
          cases hcalled
      | ok admission =>
          obtain ⟨hlive, henter⟩ := enter_of_start_ok hstart
          have hretold := backoff.run_single hsingle draws r hlive
          generalize r.once now caller = plain at hretold ⊢
          generalize backoff.run draws (fun _ => r) now caller = repeated at hretold ⊢
          cases hretold with
          | none => exact .none
          | @some c c' hretold =>
              refine .some ⟨hretold.toEndsWith, rfl, fun htimely => ?_, fun hlate => ?_⟩
              · have hsame := hretold.alike htimely
                have hverdict := Verdict.ofResult_congr hsame hretold.answered
                refine ⟨?_, ?_, hsame⟩
                · show (entered.breaker.complete admission _ _).breaker = _
                  rw [hverdict, hretold.endsAt]
                · show (entered.breaker.complete admission _ _).change = _
                  rw [hverdict, hretold.endsAt]
              · obtain ⟨hfailure, hcancelled⟩ := hretold.late hlate
                have hverdict := Verdict.ofResult_failure_iff.mpr hfailure
                have hneutral : Verdict.ofResult c'.result = .neutral := by
                  rw [hcancelled]
                  rfl
                refine ⟨hfailure, hcancelled, entered, admission, henter, ?_, ?_⟩
                · show (entered.breaker.complete admission _ _).breaker = _
                  rw [hverdict]
                · show (entered.breaker.complete admission _ _).breaker = _
                  rw [hneutral, hretold.endsAt]

/-- A probe that answers when its caller has given up frees the probe's place either way, and the
circuit stays half open. -/
theorem given_up_probe_charged_alike :
    let b : Breaker := { name := "llm", limits := {}, phase := .halfOpen }
    let r : Reply Unit := { result := .error .cancelled, hangs := true }
    Backoff.single.retries = 0 ∧
      ∃ g g', b.callOnce r 10 (some 20) = some g ∧
        b.callRepeated .single id (fun _ => r) 10 (some 20) = some g' ∧ b.Charges r 10 g g' ∧
        g'.breaker = g.breaker ∧ g.breaker.phase = .halfOpen ∧ g.breaker.probing = false := by
  intro b r
  have hsingle : Backoff.single.retries = 0 := rfl
  have hcharged := b.single_attempt_charged_alike hsingle id r 10 (some 20)
  have honce : b.callOnce r 10 (some 20) = some
      ⟨{ b with metrics := { cancelled := 1 }, published := 2 }, none,
        ⟨.error .cancelled, 20, some 20, 1, []⟩, none⟩ := rfl
  rw [honce] at hcharged
  cases hrepeated : b.callRepeated .single id (fun _ => r) 10 (some 20) with
  | none =>
      rw [hrepeated] at hcharged
      cases hcharged
  | some g' =>
      rw [hrepeated, Option.rel_some_some] at hcharged
      have htimely : ¬r.FailsLate ⟨.error .cancelled, 20, some 20, 1, []⟩ := by
        rintro ⟨-, -, fault, hfault, hown⟩
        cases hfault
        cases hown
      exact ⟨hsingle, _, g', honce, rfl, hcharged, (hcharged.alike htimely).1, rfl, rfl⟩

/-- The same timeout of the same cancelled call opens a circuit with the threshold one if the call
is a plain one, and leaves it closed if a retry policy is around it. -/
theorem late_timeout_opens_plain_call_only :
    ∃ (b : Breaker) (r : Reply Unit), Backoff.single.retries = 0 ∧
      (b.callOnce r 0 (some 3)).any (fun g =>
        g.call.calls = 1 ∧ g.call.result = .error (.fault .timeout) ∧ g.breaker.phase = .opened ∧
          g.breaker.failures = 1 ∧ g.breaker.metrics.failures = 1 ∧
          g.breaker.metrics.cancelled = 0) ∧
      (b.callRepeated .single id (fun _ => r) 0 (some 3)).any (fun g =>
        g.call.calls = 1 ∧ g.call.result = .error .cancelled ∧ g.breaker.phase = .closed ∧
          g.breaker.failures = 0 ∧ g.breaker.metrics.failures = 0 ∧
          g.breaker.metrics.cancelled = 1) :=
  ⟨{ name := "llm", limits := { threshold := 1 } }, { result := .error .timeout, takes := 5 }, by
    decide +kernel⟩

end Breaker

end ResilientChat
