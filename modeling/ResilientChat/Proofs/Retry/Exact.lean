import ResilientChat.Proofs.Retry.Counter
import ResilientChat.Proofs.Retry.Replies

/-!
The whole of a repeated call whose caller waits for it. The call stops with the first answer that is
not worth another attempt, or with the last attempt that it may make; which attempts it makes, and
what it comes to, is a function of that answer and its number.
-/

namespace ResilientChat

variable {α : Type}

/-- A call that may make `total` attempts stops with number `k`. -/
structure Script.StopsAt (script : Script α) (total k : Nat) : Prop where
  pos : 0 < k
  le : k ≤ total
  before : ∀ i, 0 < i → i < k → (script (i - 1)).IsRetryable
  last : k < total → ¬(script (k - 1)).IsRetryable

/-- What a call comes to whose last answer is this one, to attempt `k` of `total`. -/
def Reply.concluding (r : Reply α) (k total : Nat) (elapsed : Duration) :
    Except (CallFailure Fault) (α × AttemptReport) :=
  match r.result with
  | .ok v => .ok (v, { attempt := k, total, lastError := none, elapsed, nextDelay := none })
  | .error fault =>
    if fault.isCancellation then .error .cancelled
    else if fault.isRetryable then .error (.exhausted total elapsed fault)
    else .error (.fault fault)

theorem Script.StopsAt.unique {script : Script α} {total k k' : Nat} (h : script.StopsAt total k)
    (h' : script.StopsAt total k') : k = k' := by
  rcases Nat.lt_trichotomy k k' with hlt | heq | hlt
  · exact absurd (h'.before k h.pos hlt) (h.last (Nat.lt_of_lt_of_le hlt h'.le))
  · exact heq
  · exact absurd (h.before k' h'.pos hlt) (h'.last (Nat.lt_of_lt_of_le hlt h.le))

namespace Reply

variable {r : Reply α} {k total : Nat} {elapsed : Duration}

theorem concluding_of_ok {v : α} (h : r.result = .ok v) :
    r.concluding k total elapsed = .ok (v, ⟨k, total, none, elapsed, none⟩) := by
  simp only [concluding, h]

theorem concluding_of_cancelled (h : r.result = .error .cancelled) :
    r.concluding k total elapsed = .error .cancelled := by
  simp only [concluding, h]
  rfl

theorem concluding_of_retryable {fault : Fault} (h : r.result = .error fault)
    (hretry : fault.isRetryable = true) :
    r.concluding k total elapsed = .error (.exhausted total elapsed fault) := by
  have hown : fault.isCancellation = false := by
    cases fault with
    | cancelled => cases hretry
    | _ => rfl
  simp [concluding, h, hretry, hown]

theorem concluding_of_final {fault : Fault} (h : r.result = .error fault)
    (hfinal : fault.isRetryable = false) (hown : fault.isCancellation = false) :
    r.concluding k total elapsed = .error (.fault fault) := by
  simp [concluding, h, hfinal, hown]

theorem not_isRetryable_of_ok {v : α} (h : r.result = .ok v) : ¬r.IsRetryable := by
  rintro ⟨fault, hfault, -⟩
  cases h.symm.trans hfault

theorem not_isRetryable_of_error {fault : Fault} (h : r.result = .error fault)
    (hfinal : fault.isRetryable = false) : ¬r.IsRetryable := by
  rintro ⟨fault', hfault, hretry⟩
  cases h.symm.trans hfault
  rw [hfinal] at hretry
  cases hretry

end Reply

namespace Backoff

namespace Plan

/-- The attempts of a caller who waits until the call ends stop with an answer `k` attempts further
on, and come to what this one says. -/
theorem Course.concludes {p : Plan α} {left attempt : Nat} {now : Instant} {caller : Cancellation}
    {c : Call (α × AttemptReport)} (h : p.Course left attempt now caller c)
    (htotal : attempt + left = p.backoff.totalAttempts)
    (hwaits : c.caller.isDue c.endsAt = false) :
    ∃ k, c.calls = k + 1 ∧ k ≤ left ∧ (∀ i < k, (p.script (attempt + i - 1)).IsRetryable) ∧
      (k < left → ¬(p.script (attempt + k - 1)).IsRetryable) ∧
      c.result = (p.script (attempt + k - 1)).concluding (attempt + k) p.backoff.totalAttempts
        (c.endsAt - p.started) := by
  induction h with
  | givenUp hdue => exact absurd (hdue.symm.trans hwaits) Bool.noConfusion
  | succeeded hmade hok =>
      refine ⟨0, rfl, Nat.zero_le _, nofun, fun _ => Reply.not_isRetryable_of_ok hok, ?_⟩
      exact (Reply.concluding_of_ok hok).symm
  | @abandoned left attempt _ _ e fault hmade hfault hgone =>
      rcases hgone with hown | hgone
      · cases of_decide_eq_true hown
        refine ⟨0, rfl, Nat.zero_le _, nofun, fun _ => ?_, ?_⟩
        · exact Reply.not_isRetryable_of_error hfault rfl
        · exact (Reply.concluding_of_cancelled hfault).symm
      · exact absurd (hgone.symm.trans hwaits) Bool.noConfusion
  | failed hfault hfinal =>
      refine ⟨0, rfl, Nat.zero_le _, nofun, fun _ => ?_, ?_⟩
      · exact Reply.not_isRetryable_of_error hfault.result hfinal
      · exact (Reply.concluding_of_final hfault.result hfinal hfault.own).symm
  | exhausted hfault hretry =>
      refine ⟨0, rfl, Nat.le_refl _, nofun, nofun, ?_⟩
      rw [← htotal]
      exact (Reply.concluding_of_retryable hfault.result hretry).symm
  | @interrupted _ _ _ _ e _ cancelled _ _ hcaller =>
      have hdue : e.caller.isDue cancelled = true := by
        rw [Cancellation.isDue, hcaller]
        exact decide_eq_true (Nat.le_refl cancelled)
      exact absurd (hdue.symm.trans hwaits) Bool.noConfusion
  | @repeated left attempt _ _ e fault c hfault hretry hpause hrest ih =>
      obtain ⟨k, hcalls, hle, hbefore, hlast, hresult⟩ := ih (by omega) hwaits
      have hshift (i : Nat) : attempt + 1 + i = attempt + (i + 1) := by omega
      simp only [hshift] at hbefore hlast hresult
      refine ⟨k + 1, congrArg (· + 1) hcalls, Nat.succ_le_succ hle, ?_, ?_, hresult⟩
      · intro i hi
        cases i with
        | zero => exact ⟨fault, hfault.result, hretry⟩
        | succ i => exact hbefore i (Nat.lt_of_succ_lt_succ hi)
      · intro hk
        exact hlast (Nat.lt_of_succ_lt_succ hk)

end Plan

section Whole

variable {b : Backoff} {draws : Nat → Nat} {script : Script α} {now : Instant}
  {caller : Cancellation}

theorem exists_runReporting (hreturns : script.Returns) (b : Backoff) (draws : Nat → Nat)
    (now : Instant) (caller : Cancellation) :
    ∃ c, b.runReporting draws script now caller = some c := by
  obtain ⟨c, hrun⟩ := exists_run hreturns b draws now caller
  obtain ⟨full, hfull, -⟩ := Option.map_eq_some_iff.mp hrun
  exact ⟨full, hfull⟩

theorem stopsAt_of_runReporting {c : Call (α × AttemptReport)}
    (h : b.runReporting draws script now caller = some c)
    (hwaits : c.caller.isDue c.endsAt = false) :
    script.StopsAt b.totalAttempts c.calls ∧
      c.result = (script (c.calls - 1)).concluding c.calls b.totalAttempts (c.endsAt - now) := by
  have hpos := b.totalAttempts_pos
  have htotal : 1 + (b.totalAttempts - 1) = b.totalAttempts := by omega
  obtain ⟨k, hcalls, hle, hbefore, hlast, hresult⟩ :=
    (Plan.course_of_attemptsFrom h).concludes htotal hwaits
  simp only [Nat.add_sub_cancel_left] at hbefore hlast hresult
  rw [hcalls, Nat.add_sub_cancel]
  refine ⟨⟨Nat.succ_pos k, by omega, fun i hi hik => ?_, fun hk => ?_⟩, ?_⟩
  · exact hbefore (i - 1) (by omega)
  · rw [Nat.add_sub_cancel]
    exact hlast (by omega)
  · rw [hresult, Nat.add_comm]

/-- A repeated call of a dependency whose calls end is over after at most as many attempts as its
retries allow, whatever their number; the attempts are numbered from one without a gap, and their
counter does not overflow. If its caller waits for it, it stops with the first answer that is not
worth another attempt or with the last attempt, and it comes to what that answer says. -/
theorem repeated_call_exact (b : Backoff) (draws : Nat → Nat) (hreturns : script.Returns)
    (now : Instant) (caller : Cancellation) :
    let total := min (b.retries.toNat + 1) (UInt32.size - 1)
    ∃ c, b.runReporting draws script now caller = some c ∧
      Plan.rounds ⟨b, draws, script, now⟩ total (.start now caller) =
        .left c (List.range' 1 c.calls) ∧
      (c.caller.isDue c.endsAt = false →
        script.StopsAt total c.calls ∧
          c.result = (script (c.calls - 1)).concluding c.calls total (c.endsAt - now)) := by
  intro total
  obtain ⟨c, hrun⟩ := exists_runReporting hreturns b draws now caller
  refine ⟨c, hrun, ?_, stopsAt_of_runReporting hrun⟩
  have hrounds := b.rounds_eq_runReporting draws script now caller
  rw [hrun] at hrounds
  exact hrounds

/-- With the greatest number of retries, a dependency that always times out is called as often as 32
bits can count, which is once less than the retries and the first attempt would ask for. -/
theorem greatest_budget_used_up :
    let b : Backoff := { retries := 0xFFFFFFFF }
    let script : Script Unit := fun _ => { result := .error .timeout }
    script.Returns ∧
      ∃ c elapsed, b.runReporting id script 0 none = some c ∧ c.calls = 4294967295 ∧
        c.result = .error (.exhausted 4294967295 elapsed .timeout) := by
  intro b script
  have hreturns : script.Returns := fun _ _ => nofun
  have hretry (n : Nat) : (script n).IsRetryable := ⟨.timeout, rfl, rfl⟩
  obtain ⟨c, hrun, -, hexact⟩ := b.repeated_call_exact id hreturns 0 none
  have hcaller : c.caller = none :=
    (Plan.course_of_attemptsFrom hrun).caller_eq fun _ _ => rfl
  obtain ⟨hstops, hresult⟩ := hexact (by rw [hcaller]; rfl)
  have hall : script.StopsAt 4294967295 4294967295 :=
    ⟨by decide, Nat.le_refl _, fun i _ _ => hretry (i - 1), fun h => absurd h (Nat.lt_irrefl _)⟩
  have hcalls : c.calls = 4294967295 := hstops.unique hall
  refine ⟨hreturns, c, c.endsAt - 0, hrun, hcalls, ?_⟩
  exact hresult.trans (Reply.concluding_of_retryable rfl rfl)

end Whole

end Backoff

end ResilientChat
