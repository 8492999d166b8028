import ResilientChat.Proofs.Breaker.Sound
import ResilientChat.Proofs.Retry.Course
import Mathlib.Data.List.Range

/-!
The attempts of a repeated call counted in 32 bits. The loop is given round by round, with its
counter raised at the start of each; a counter that is full already would overflow there. A whole
run of rounds comes to what `attemptsFrom` says, so that no counter overflows and the rounds come to
an end, for every number of retries.
-/

namespace ResilientChat

namespace Backoff

namespace Plan

variable {α : Type}

structure Loop where
  /-- The number of the last attempt. -/
  attempt : UInt32
  now : Instant
  caller : Cancellation
  /-- The numbers with which the dependency was called, in order. -/
  invoked : List Nat
  reports : List AttemptReport

inductive Round (α : Type) where
  /-- The loop is left with that call, and the dependency was called with those numbers. -/
  | left (call : Call (α × AttemptReport)) (invoked : List Nat)
  | again (s : Loop)
  /-- The dependency does not answer. -/
  | hung
  /-- The counter is full. -/
  | overflowed

namespace Loop

def start (now : Instant) (caller : Cancellation) : Loop := ⟨0, now, caller, [], []⟩

def calling (s : Loop) (attempt : UInt32) (e : Reply.End) : Loop :=
  { s with
    attempt, now := e.instant, caller := e.caller, invoked := s.invoked ++ [attempt.toNat] }

def recording (s : Loop) (r : AttemptReport) : Loop := { s with reports := s.reports ++ [r] }

def leave (s : Loop) (result : Except (CallFailure Fault) (α × AttemptReport)) : Round α :=
  .left ⟨result, s.now, s.caller, s.invoked.length, s.reports⟩ s.invoked

/-- The loop waits, and is left if its caller gives up meanwhile. -/
def sleep (s : Loop) (pause : Duration) : Round α :=
  match s.caller with
  | some cancelled =>
    if cancelled ≤ s.now + pause then { s with now := cancelled }.leave (.error .cancelled)
    else .again { s with now := s.now + pause }
  | none => .again { s with now := s.now + pause }

/-- The loop is left with a call that began with its rounds so far and went on with the attempts
of `c`, if these come to an end. -/
def followedBy (s : Loop) : Option (Call (α × AttemptReport)) → Round α
  | none => .hung
  | some c =>
    .left { c with calls := s.invoked.length + c.calls, reports := s.reports ++ c.reports }
      (s.invoked ++ List.range' (s.attempt.toNat + 1) c.calls)

end Loop

def total (p : Plan α) : UInt32 := Breaker.increase p.backoff.retries

/-- The loop after the attempt of that number has failed, and whether it was the last one. -/
def Loop.judge (s : Loop) (p : Plan α) (attempt : Nat) (fault : Fault) (last : Bool) : Round α :=
  let pause := if fault.isRetryable && !last then some (p.pauseAfter attempt) else none
  let r := p.report attempt s.now (some fault.message) pause
  let s := s.recording r
  if !fault.isRetryable then s.leave (.error (.fault fault))
  else
    match pause with
    | none => s.leave (.error (.exhausted attempt r.elapsed fault))
    | some pause => s.sleep pause

def round (p : Plan α) (s : Loop) : Round α :=
  if UInt32.size ≤ s.attempt.toNat + 1 then .overflowed
  else if s.caller.isDue s.now then s.leave (.error .cancelled)
  else
    let attempt := s.attempt + 1
    let reply := p.script (attempt.toNat - 1)
    match reply.play s.now s.caller with
    | none => .hung
    | some e =>
      let s := s.calling attempt e
      match reply.result with
      | .ok v =>
        let r := p.report attempt.toNat e.instant none none
        (s.recording r).leave (.ok (v, r))
      | .error fault =>
        if fault.isCancellation || e.caller.isDue e.instant then s.leave (.error .cancelled)
        else
          s.judge p attempt.toNat fault (decide (p.total ≤ attempt))

def rounds (p : Plan α) : Nat → Loop → Round α
  | 0, s => .again s
  | n + 1, s =>
    match p.round s with
    | .again s => p.rounds n s
    | r => r

theorem rounds_of_left {p : Plan α} {s : Loop} {c : Call (α × AttemptReport)}
    {invoked : List Nat} (h : p.round s = .left c invoked) (n : Nat) :
    p.rounds (n + 1) s = .left c invoked := by
  rw [rounds, h]

theorem rounds_of_again {p : Plan α} {s s' : Loop} (h : p.round s = .again s') (n : Nat) :
    p.rounds (n + 1) s = p.rounds n s' := by
  rw [rounds, h]

theorem total_toNat (p : Plan α) : p.total.toNat = p.backoff.totalAttempts :=
  Breaker.increase_toNat _

namespace Loop

/-- The next attempt has that number, and `left` more may follow it. -/
structure At (s : Loop) (p : Plan α) (left attempt : Nat) : Prop where
  count : s.attempt.toNat + 1 = attempt
  total : attempt + left = p.total.toNat

variable {p : Plan α} {s : Loop} {left attempt : Nat}

@[simp] theorem calling_now (s : Loop) (attempt : UInt32) (e : Reply.End) :
    (s.calling attempt e).now = e.instant := rfl

@[simp] theorem calling_caller (s : Loop) (attempt : UInt32) (e : Reply.End) :
    (s.calling attempt e).caller = e.caller := rfl

@[simp] theorem recording_now (s : Loop) (r : AttemptReport) : (s.recording r).now = s.now := rfl

@[simp] theorem recording_caller (s : Loop) (r : AttemptReport) :
    (s.recording r).caller = s.caller := rfl

/-- No counter below the total is full. -/
theorem At.not_full (h : s.At p left attempt) : ¬UInt32.size ≤ s.attempt.toNat + 1 := by
  have hlimit := p.total.toNat_lt
  have htotal := h.total
  rw [h.count, UInt32.size]
  omega

theorem At.next (h : s.At p left attempt) : (s.attempt + 1).toNat = attempt := by
  rw [UInt32.toNat_add, ← h.count]
  exact Nat.mod_eq_of_lt (Nat.not_le.mp h.not_full)

theorem At.last_iff (h : s.At p left attempt) : p.total ≤ s.attempt + 1 ↔ left = 0 := by
  have htotal := h.total
  rw [UInt32.le_iff_toNat_le, h.next]
  omega

def awake (s : Loop) (attempt : UInt32) (e : Reply.End) (r : AttemptReport) (wake : Instant) :
    Loop :=
  { (s.calling attempt e).recording r with now := wake }

theorem At.awake {e : Reply.End} {r : AttemptReport} {wake : Instant}
    (h : s.At p (left + 1) attempt) :
    (s.awake (s.attempt + 1) e r wake).At p left (attempt + 1) := by
  refine ⟨congrArg (· + 1) h.next, ?_⟩
  rw [← h.total]
  omega

/-- What follows a failed attempt follows the rounds before it with one more call. -/
theorem At.followedBy_awake {e : Reply.End} {r : AttemptReport} {wake : Instant}
    (h : s.At p left attempt) (rest : Option (Call (α × AttemptReport))) :
    (s.awake (s.attempt + 1) e r wake).followedBy rest =
      s.followedBy (rest.map (Call.after r)) := by
  cases rest with
  | none => rfl
  | some c =>
      have hnumbers : List.range' attempt (c.calls + 1) =
          attempt :: List.range' (attempt + 1) c.calls := List.range'_succ ..
      simp [followedBy, Loop.awake, calling, recording, Call.after, h.next, h.count, hnumbers,
        Nat.add_comm, Nat.add_left_comm]

theorem sleep_of_due {s : Loop} {pause : Duration} {cancelled : Instant}
    (hcaller : s.caller = some cancelled) (hdue : cancelled ≤ s.now + pause) :
    (s.sleep pause : Round α) = { s with now := cancelled }.leave (.error .cancelled) := by
  simp only [sleep, hcaller, if_pos hdue]

theorem sleep_of_live {s : Loop} {pause : Duration}
    (hlive : s.caller.isDue (s.now + pause) = false) :
    (s.sleep pause : Round α) = .again { s with now := s.now + pause } := by
  cases hcaller : s.caller with
  | none => simp only [sleep, hcaller]
  | some cancelled =>
      rw [Cancellation.isDue, hcaller, Option.any_some, decide_eq_false_iff_not] at hlive
      simp only [sleep, hcaller, if_neg hlive]

end Loop

/-- A round whose attempt fails while its caller goes on waiting. -/
theorem round_of_fault {p : Plan α} {s : Loop} {left attempt : Nat} {e : Reply.End} {fault : Fault}
    (hat : s.At p left attempt) (hlive : ¬s.caller.isDue s.now = true)
    (hend : (p.script (attempt - 1)).play s.now s.caller = some e)
    (hfault : (p.script (attempt - 1)).result = .error fault)
    (hwanted : ¬(fault.isCancellation || e.caller.isDue e.instant) = true) :
    p.round s = (s.calling (s.attempt + 1) e).judge p attempt fault (decide (left = 0)) := by
  rw [round, if_neg hat.not_full, if_neg hlive]
  simp only [hat.next, hat.last_iff, hend, hfault, if_neg hwanted]

/-- A round whose attempt fails and is worth another one that may still be made. -/
theorem round_of_retry {p : Plan α} {s : Loop} {left attempt : Nat} {e : Reply.End} {fault : Fault}
    (hat : s.At p (left + 1) attempt) (hlive : ¬s.caller.isDue s.now = true)
    (hend : (p.script (attempt - 1)).play s.now s.caller = some e)
    (hfault : (p.script (attempt - 1)).result = .error fault)
    (hwanted : ¬(fault.isCancellation || e.caller.isDue e.instant) = true)
    (hretry : ¬(!fault.isRetryable) = true) :
    p.round s =
      ((s.calling (s.attempt + 1) e).recording
        (p.report attempt e.instant (some fault.message) (some (p.pauseAfter attempt)))).sleep
          (p.pauseAfter attempt) := by
  have hretryable : fault.isRetryable = true := by simpa using hretry
  rw [round_of_fault hat hlive hend hfault hwanted]
  simp only [Loop.judge, hretryable]
  rfl

/-- As many rounds as there are attempts left come to what `attemptsFrom` says. -/
theorem rounds_eq (p : Plan α) (left attempt : Nat) (now : Instant) (caller : Cancellation)
    (s : Loop) (hat : s.At p left attempt) (hnow : s.now = now) (hcaller : s.caller = caller) :
    p.rounds (left + 1) s = s.followedBy (p.attemptsFrom left attempt now caller) := by
  fun_induction attemptsFrom p left attempt now caller generalizing s with
  | case1 left attempt now caller hdue =>
      subst hnow hcaller
      have hround : p.round s = s.leave (.error .cancelled) := by
        rw [round, if_neg hat.not_full, if_pos hdue]
      rw [rounds_of_left hround]
      simp [Loop.followedBy, Call.given]
  | case2 left attempt now caller hlive reply hend =>
      subst hnow hcaller reply
      have hround : p.round s = .hung := by
        rw [round, if_neg hat.not_full, if_neg hlive]
        simp only [hat.next, hend]
      rw [rounds, hround]
      rfl
  | case3 left attempt now caller hlive reply e hend v hok r =>
      subst hnow hcaller reply
      have hround : p.round s =
          ((s.calling (s.attempt + 1) e).recording r).leave (.ok (v, r)) := by
        rw [round, if_neg hat.not_full, if_neg hlive]
        simp only [hat.next, hend, hok, r]
      rw [rounds_of_left hround]
      simp [Loop.followedBy, Loop.calling, Loop.recording, ended, Call.given, Call.after, hat.next,
        hat.count]
  | case4 left attempt now caller hlive reply e hend fault hfault hgone =>
      subst hnow hcaller reply
      have hround : p.round s = (s.calling (s.attempt + 1) e).leave (.error .cancelled) := by
        rw [round, if_neg hat.not_full, if_neg hlive]
        simp only [hat.next, hend, hfault, if_pos hgone]
      rw [rounds_of_left hround]
      simp [Loop.followedBy, Loop.calling, Call.given, hat.next, hat.count]
  | case5 left attempt now caller hlive reply e hend fault hfault hwanted hfinal =>
      subst hnow hcaller reply
      rw [Bool.not_eq_true'] at hfinal
      have hround : p.round s =
          ((s.calling (s.attempt + 1) e).recording
            (p.report attempt e.instant (some fault.message) none)).leave
            (.error (.fault fault)) := by
        rw [round_of_fault hat hlive hend hfault hwanted]
        simp [Loop.judge, hfinal]
      rw [rounds_of_left hround]
      simp [Loop.followedBy, Loop.calling, Loop.recording, ended, Call.given, Call.after, hat.next,
        hat.count]
  | case6 attempt now caller hlive reply e hend fault hfault hwanted hretry r =>
      subst hnow hcaller reply
      have hround : p.round s = ((s.calling (s.attempt + 1) e).recording r).leave
          (.error (.exhausted attempt r.elapsed fault)) := by
        rw [round_of_fault hat hlive hend hfault hwanted]
        simp [Loop.judge, hretry, r]
      rw [rounds_of_left hround]
      simp [Loop.followedBy, Loop.calling, Loop.recording, ended, Call.given, Call.after, hat.next,
        hat.count]
  | case7 attempt now caller hlive reply e hend fault hfault hwanted hretry left pause r wake
      cancelled hcaller' hdue =>
      subst hnow hcaller reply
      have hround := round_of_retry hat hlive hend hfault hwanted hretry
      rw [Loop.sleep_of_due hcaller' hdue] at hround
      rw [rounds_of_left hround]
      simp [Loop.followedBy, Loop.calling, Loop.recording, ended, Call.given, Call.after, hat.next,
        hat.count, r, pause, pauseAfter]
  | case8 attempt now caller hlive reply e hend fault hfault hwanted hretry left pause r wake
      cancelled hcaller' hpause ih =>
      subst hnow hcaller reply
      have hwaits : e.caller.isDue wake = false := by
        rw [Cancellation.isDue, hcaller']
        exact decide_eq_false hpause
      have hround := round_of_retry hat hlive hend hfault hwanted hretry
      rw [Loop.sleep_of_live hwaits] at hround
      have hrest := ih (s.awake (s.attempt + 1) e r wake) hat.awake rfl rfl
      rw [rounds_of_again hround]
      exact hrest.trans (hat.followedBy_awake _)
  | case9 attempt now caller hlive reply e hend fault hfault hwanted hretry left pause r wake
      hcaller' ih =>
      subst hnow hcaller reply
      have hwaits : e.caller.isDue wake = false := by
        rw [Cancellation.isDue, hcaller']
        rfl
      have hround := round_of_retry hat hlive hend hfault hwanted hretry
      rw [Loop.sleep_of_live hwaits] at hround
      have hrest := ih (s.awake (s.attempt + 1) e r wake) hat.awake rfl hcaller'
      rw [rounds_of_again hround]
      exact hrest.trans (hat.followedBy_awake _)

end Plan

/-- The rounds of a call overflow no counter and end after as many of them as there are attempts:
they come to the call that `runReporting` says, with the attempts numbered from one. -/
theorem rounds_eq_runReporting (b : Backoff) (draws : Nat → Nat) (script : Script α) (now : Instant)
    (caller : Cancellation) :
    Plan.rounds ⟨b, draws, script, now⟩ b.totalAttempts (.start now caller) =
      match b.runReporting draws script now caller with
      | none => .hung
      | some c => .left c (List.range' 1 c.calls) := by
  let p : Plan α := ⟨b, draws, script, now⟩
  have hat : (Plan.Loop.start now caller).At p (b.totalAttempts - 1) 1 := by
    refine ⟨rfl, ?_⟩
    have hpos := b.totalAttempts_pos
    rw [p.total_toNat]
    show 1 + (b.totalAttempts - 1) = b.totalAttempts
    omega
  have hrounds := p.rounds_eq _ _ now caller _ hat rfl rfl
  rw [Nat.sub_add_cancel b.totalAttempts_pos] at hrounds
  rw [hrounds, runReporting]
  cases p.attemptsFrom (b.totalAttempts - 1) 1 now caller with
  | none => rfl
  | some c => simp [Plan.Loop.followedBy, Plan.Loop.start]

end Backoff

end ResilientChat
