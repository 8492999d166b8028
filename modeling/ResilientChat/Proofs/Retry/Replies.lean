import ResilientChat.Proofs.Retry.Cancellation

/-!
What the answers of a dependency make of a repeated call that nobody gives up. The call ends with
its first answer that is not worth another attempt, if there is one among those that it may make;
how it ends is that answer's kind, and the attempts before it are counted.
-/

namespace ResilientChat

variable {α : Type}

/-- The answer is a fault that is worth another attempt. -/
def Reply.IsRetryable (r : Reply α) : Prop :=
  ∃ fault, r.result = .error fault ∧ fault.isRetryable = true

namespace Script

/-- Every call of the dependency comes to an end, though nobody gives it up. -/
def Returns (script : Script α) : Prop := ∀ n now, (script n).play now none ≠ none

/-- The dependency never cancels the token of its caller. -/
def KeepsCaller (script : Script α) : Prop := ∀ n, (script n).cancelsCaller = false

@[simp] theorem after_zero (script : Script α) : script.after 0 = script := by
  funext n
  rw [after, Nat.zero_add]

theorem after_after (script : Script α) (m n : Nat) :
    (script.after m).after n = script.after (m + n) := by
  funext k
  simp only [after, Nat.add_assoc]

end Script

/-- What a call that may make `total` attempts comes to: how many it makes, and its result. -/
inductive Comes (script : Script α) (total : Nat) : Nat → Except (CallFailure Fault) α → Prop
  | succeeded {n : Nat} {v : α} (hbefore : ∀ i < n, (script i).IsRetryable)
      (hlast : (script n).result = .ok v) : Comes script total (n + 1) (.ok v)
  | cancelled {n : Nat} (hbefore : ∀ i < n, (script i).IsRetryable)
      (hlast : (script n).result = .error .cancelled) :
      Comes script total (n + 1) (.error .cancelled)
  | failed {n : Nat} {fault : Fault} (hbefore : ∀ i < n, (script i).IsRetryable)
      (hlast : (script n).result = .error fault) (hfinal : fault.isRetryable = false)
      (hown : fault ≠ .cancelled) : Comes script total (n + 1) (.error (.fault fault))
  | exhausted {attempts : Nat} {elapsed : Duration} {fault : Fault}
      (hall : ∀ i < total, (script i).IsRetryable) :
      Comes script total total (.error (.exhausted attempts elapsed fault))

section Comes

variable {script : Script α} {total calls : Nat} {result : Except (CallFailure Fault) α}

theorem forall_lt_succ_of_after {P : Reply α → Prop} {n : Nat} (hfirst : P (script 0))
    (hrest : ∀ i < n, P (script.after 1 i)) : ∀ i < n + 1, P (script i)
  | 0, _ => hfirst
  | i + 1, hi => by
      have hnext := hrest i (Nat.lt_of_succ_lt_succ hi)
      rwa [Script.after, Nat.add_comm] at hnext

/-- One more attempt before the others, which was worth them. -/
theorem Comes.after_retry (h : Comes (script.after 1) total calls result)
    (hfirst : (script 0).IsRetryable) : Comes script (total + 1) (calls + 1) result := by
  have hlater (n : Nat) : script.after 1 n = script (n + 1) := congrArg script (Nat.add_comm 1 n)
  cases h with
  | succeeded hbefore hlast =>
      exact .succeeded (forall_lt_succ_of_after hfirst hbefore) (hlater _ ▸ hlast)
  | cancelled hbefore hlast =>
      exact .cancelled (forall_lt_succ_of_after hfirst hbefore) (hlater _ ▸ hlast)
  | failed hbefore hlast hfinal hown =>
      exact .failed (forall_lt_succ_of_after hfirst hbefore) (hlater _ ▸ hlast) hfinal hown
  | exhausted hall => exact .exhausted (forall_lt_succ_of_after hfirst hall)

/-- Attempts are never refused; that is for the circuit around them. -/
theorem Comes.not_refused (h : Comes script total calls result) (circuit : String)
    (phase : Breaker.Phase) : result ≠ .error (.refused circuit phase) := by
  cases h <;> exact nofun

/-- An answer that is worth another attempt is a fault, and not that of a caller who gave up. -/
theorem Reply.IsRetryable.result_ne {r : Reply α} (h : r.IsRetryable) :
    (∀ v, r.result ≠ .ok v) ∧ ∀ fault, r.result = .error fault →
      fault.isRetryable = true ∧ fault ≠ .cancelled := by
  obtain ⟨fault, hfault, hretry⟩ := h
  refine ⟨fun v hok => ?_, fun fault' hsame => ?_⟩
  · cases hok.symm.trans hfault
  · cases hsame.symm.trans hfault
    exact ⟨hretry, fun hcancelled => by rw [hcancelled] at hretry; cases hretry⟩

/-- The last answer of a call that succeeds is a success, and no other call has such an answer. -/
theorem Comes.ok_iff (h : Comes script total calls result) (v : α) :
    result = .ok v ↔ ∃ n, calls = n + 1 ∧ (script n).result = .ok v := by
  constructor
  · rintro rfl
    cases h with
    | succeeded _ hlast => exact ⟨_, rfl, hlast⟩
  · rintro ⟨n, hcalls, hok⟩
    cases h with
    | succeeded _ hlast =>
        cases hcalls
        cases hlast.symm.trans hok
        rfl
    | cancelled _ hlast | failed _ hlast =>
        cases hcalls
        cases hlast.symm.trans hok
    | exhausted hall => exact absurd hok ((hall n (by omega)).result_ne.1 v)

theorem Comes.cancelled_iff (h : Comes script total calls result) :
    result = .error .cancelled ↔ ∃ n, calls = n + 1 ∧ (script n).result = .error .cancelled := by
  constructor
  · rintro rfl
    cases h with
    | cancelled _ hlast => exact ⟨_, rfl, hlast⟩
  · rintro ⟨n, hcalls, hgone⟩
    cases h with
    | succeeded _ hlast =>
        cases hcalls
        cases hlast.symm.trans hgone
    | cancelled => rfl
    | failed _ hlast _ hown =>
        cases hcalls
        cases hlast.symm.trans hgone
        exact absurd rfl hown
    | exhausted hall => exact absurd rfl ((hall n (by omega)).result_ne.2 _ hgone).2

/-- A call fails for good with the first answer that is not worth another attempt. -/
theorem Comes.fault_iff (h : Comes script total calls result) (fault : Fault) :
    result = .error (.fault fault) ↔
      ∃ n, calls = n + 1 ∧ (∀ i < n, (script i).IsRetryable) ∧ (script n).result = .error fault ∧
        fault.isRetryable = false ∧ fault ≠ .cancelled := by
  constructor
  · rintro rfl
    cases h with
    | failed hbefore hlast hfinal hown => exact ⟨_, rfl, hbefore, hlast, hfinal, hown⟩
  · rintro ⟨n, hcalls, -, hfault, hfinal, hown⟩
    cases h with
    | succeeded _ hlast =>
        cases hcalls
        cases hlast.symm.trans hfault
    | cancelled _ hlast =>
        cases hcalls
        cases hlast.symm.trans hfault
        exact absurd rfl hown
    | failed _ hlast =>
        cases hcalls
        cases hlast.symm.trans hfault
        rfl
    | exhausted hall =>
        have hretry := ((hall n (by omega)).result_ne.2 fault hfault).1
        rw [hfinal] at hretry
        cases hretry

/-- A call uses its attempts up if all of them are worth another one, and only then. -/
theorem Comes.exhausted_iff (h : Comes script total calls result) :
    (∃ attempts elapsed fault, result = .error (.exhausted attempts elapsed fault)) ↔
      calls = total ∧ ∀ i < calls, (script i).IsRetryable := by
  constructor
  · rintro ⟨attempts, elapsed, fault, rfl⟩
    cases h with
    | exhausted hall => exact ⟨rfl, hall⟩
  · rintro ⟨-, hall⟩
    cases h with
    | @succeeded n _ _ hlast => exact absurd hlast ((hall n (Nat.lt_succ_self n)).result_ne.1 _)
    | @cancelled n _ hlast =>
        exact absurd rfl ((hall n (Nat.lt_succ_self n)).result_ne.2 _ hlast).2
    | @failed n fault _ hlast hfinal =>
        have hretry := ((hall n (Nat.lt_succ_self n)).result_ne.2 fault hlast).1
        rw [hfinal] at hretry
        cases hretry
    | exhausted => exact ⟨_, _, _, rfl⟩

end Comes

namespace Backoff

namespace Plan

variable {p : Plan α} {left attempt : Nat} {now : Instant} {caller : Cancellation}
  {c : Call (α × AttemptReport)}

/-- The attempts of a caller without a token that is ever cancelled come to what the answers say. -/
theorem Course.comes (h : p.Course left attempt now caller c) (hkeeps : p.script.KeepsCaller)
    (hcaller : caller = none) (hattempt : 0 < attempt) :
    Comes (p.script.after (attempt - 1)) (left + 1) c.calls (c.result.map Prod.fst) := by
  -- No answer gives the caller a token, so every attempt is made for a caller without one.
  have hplay {attempt : Nat} {now : Instant} {e : Reply.End}
      (hend : (p.script (attempt - 1)).play now none = some e) : e.caller = none := by
    rw [Reply.caller_of_play hend, hkeeps]
    rfl
  have hbefore {script : Script α} : ∀ i < 0, (script i).IsRetryable := nofun
  induction h with
  | givenUp hdue =>
      subst hcaller
      cases hdue
  | succeeded hmade hok => exact .succeeded hbefore hok
  | abandoned hmade hfault hgone =>
      subst hcaller
      rw [hplay hmade.ends] at hgone
      rcases hgone with hgone | hgone
      · cases of_decide_eq_true hgone
        exact .cancelled hbefore hfault
      · cases hgone
  | failed hfault hfinal =>
      exact .failed hbefore hfault.result hfinal (of_decide_eq_false hfault.own)
  | exhausted hfault hretry =>
      refine .exhausted fun i hi => ?_
      obtain rfl : i = 0 := Nat.lt_one_iff.mp hi
      exact ⟨_, hfault.result, hretry⟩
  | interrupted hfault _ hwoken =>
      subst hcaller
      cases (hplay hfault.ends).symm.trans hwoken
  | @repeated left attempt _ _ _ _ _ hfault hretry _ _ ih =>
      subst hcaller
      -- The later attempts see the script from its next answer on.
      have hrest := ih (hplay hfault.ends) (Nat.succ_pos _)
      have hnext : p.script.after (attempt + 1 - 1) = (p.script.after (attempt - 1)).after 1 := by
        rw [Script.after_after]
        congr 1
        omega
      rw [hnext] at hrest
      exact hrest.after_retry ⟨_, hfault.result, hretry⟩

/-- Every answer before the last one was worth another attempt, whether or not the caller waits. -/
theorem Course.retried (h : p.Course left attempt now caller c) {i : Nat} (hi : i + 1 < c.calls) :
    (p.script (attempt + i - 1)).IsRetryable := by
  induction h generalizing i with
  | givenUp => cases hi
  | @repeated _ attempt _ _ _ fault _ hfault hretry _ _ ih =>
      cases i with
      | zero => exact ⟨fault, hfault.result, hretry⟩
      | succ i =>
          have hlater := ih (Nat.lt_of_succ_lt_succ hi)
          rwa [Nat.add_right_comm] at hlater
  | _ => exact absurd (Nat.lt_of_succ_lt_succ hi) (Nat.not_lt_zero i)

end Plan

variable {b : Backoff} {draws : Nat → Nat} {script : Script α} {now : Instant}

theorem run_comes {c : Call α} (h : b.run draws script now none = some c)
    (hkeeps : script.KeepsCaller) : Comes script b.totalAttempts c.calls c.result := by
  obtain ⟨full, hcourse, rfl⟩ := run_course h
  have hcomes := hcourse.comes hkeeps rfl Nat.one_pos
  rwa [Nat.sub_add_cancel b.totalAttempts_pos, Nat.sub_self, Script.after_zero] at hcomes

theorem run_retried {caller : Cancellation} {c : Call α}
    (h : b.run draws script now caller = some c) {i : Nat} (hi : i + 1 < c.calls) :
    (script i).IsRetryable := by
  obtain ⟨full, hcourse, rfl⟩ := run_course h
  have hretried := hcourse.retried hi
  rwa [Nat.add_sub_cancel_left] at hretried

theorem run_calls_pos {caller : Cancellation} {c : Call α}
    (h : b.run draws script now caller = some c) (hlive : caller.isDue now = false) :
    0 < c.calls := by
  obtain ⟨full, hcourse, rfl⟩ := run_course h
  exact hcourse.calls_pos hlive

/-- A call of a dependency whose calls all end comes to an end. -/
theorem exists_run (hreturns : script.Returns) (b : Backoff) (draws : Nat → Nat) (now : Instant)
    (caller : Cancellation) : ∃ c, b.run draws script now caller = some c := by
  refine Option.ne_none_iff_exists'.mp fun hnone => ?_
  have hfrom := Option.map_eq_none_iff.mp hnone
  obtain ⟨k, start, -, hhangs⟩ := Plan.hangs_of_attemptsFrom_eq_none hfrom
  exact hreturns _ _ hhangs

end Backoff

end ResilientChat
