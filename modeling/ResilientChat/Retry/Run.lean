import ResilientChat.Event
import ResilientChat.Retry.Backoff
import ResilientChat.Retry.Reply

/-!
A repeated call. Attempts follow one another until one succeeds, one fails for
good, the attempts are used up or the caller gives up; the caller's token is
looked at before each attempt, when an attempt has failed, and during the pauses.
-/

namespace ResilientChat

/-- A finished call: its result, its end, and what it did on the way. -/
structure Call (α : Type) where
  result : Except (CallFailure Fault) α
  endsAt : Instant
  /-- The caller's token after the call. -/
  caller : Cancellation
  /-- How often the dependency was called. -/
  calls : Nat
  /-- The attempts that were recorded, in order. -/
  reports : List AttemptReport
deriving Repr

namespace Call

variable {α β : Type}

/-- A call that ends at once without calling the dependency. -/
def given (result : Except (CallFailure Fault) α) (now : Instant) (caller : Cancellation) :
    Call α :=
  ⟨result, now, caller, 0, []⟩

def after (report : AttemptReport) (c : Call α) : Call α :=
  { c with calls := c.calls + 1, reports := report :: c.reports }

def map (f : α → β) (c : Call α) : Call β := { c with result := c.result.map f }

end Call

namespace Reply

variable {α : Type}

/-- A call of one attempt without a retry policy around it. -/
def once (r : Reply α) (now : Instant) (caller : Cancellation) : Option (Call α) :=
  (r.play now caller).map fun e =>
    ⟨r.result.mapError CallFailure.ofFault, e.instant, e.caller, 1, []⟩

end Reply

namespace Backoff

variable {α : Type}

structure Plan (α : Type) where
  backoff : Backoff
  /-- The number drawn for the pause after each attempt. -/
  draws : Nat → Nat
  script : Script α
  started : Instant

namespace Plan

def report (p : Plan α) (attempt : Nat) (now : Instant) (lastError : Option String)
    (nextDelay : Option Duration) : AttemptReport where
  attempt := attempt
  total := p.backoff.totalAttempts
  lastError := lastError
  elapsed := now - p.started
  nextDelay := nextDelay

/-- A call that ends with the attempt of that report. -/
def ended (r : AttemptReport) (result : Except (CallFailure Fault) (α × AttemptReport))
    (e : Reply.End) : Call (α × AttemptReport) :=
  (Call.given result e.instant e.caller).after r

/--
The attempts from number `attempt` on; `left` more may follow it. None stands for
an attempt that never ends.
-/
def attemptsFrom (p : Plan α) :
    (left attempt : Nat) → Instant → Cancellation → Option (Call (α × AttemptReport))
  | left, attempt, now, caller =>
    if caller.isDue now then some (.given (.error .cancelled) now caller)
    else
      let reply := p.script (attempt - 1)
      match reply.play now caller with
      | none => none
      | some e =>
        match reply.result with
        | .ok v =>
          let r := p.report attempt e.instant none none
          some (ended r (.ok (v, r)) e)
        | .error fault =>
          if fault.isCancellation || e.caller.isDue e.instant then
            some { Call.given (.error .cancelled) e.instant e.caller with calls := 1 }
          else if !fault.isRetryable then
            some (ended (p.report attempt e.instant (some fault.message) none)
              (.error (.fault fault)) e)
          else
            match left with
            | 0 =>
              let r := p.report attempt e.instant (some fault.message) none
              some (ended r (.error (.exhausted attempt r.elapsed fault)) e)
            | left + 1 =>
              let pause := p.backoff.delay (p.draws attempt) attempt
              let r := p.report attempt e.instant (some fault.message) (some pause)
              let wake := e.instant + pause
              match e.caller with
              | some cancelled =>
                if cancelled ≤ wake then
                  some (ended r (.error .cancelled) ⟨cancelled, e.caller⟩)
                else (attemptsFrom p left (attempt + 1) wake e.caller).map (·.after r)
              | none => (attemptsFrom p left (attempt + 1) wake none).map (·.after r)

end Plan

/-- A repeated call; a success comes with the report on its attempt. -/
def runReporting (b : Backoff) (draws : Nat → Nat) (script : Script α) (now : Instant)
    (caller : Cancellation) : Option (Call (α × AttemptReport)) :=
  Plan.attemptsFrom ⟨b, draws, script, now⟩ (b.totalAttempts - 1) 1 now caller

def run (b : Backoff) (draws : Nat → Nat) (script : Script α) (now : Instant)
    (caller : Cancellation) : Option (Call α) :=
  (b.runReporting draws script now caller).map fun c => c.map (·.1)

end Backoff

end ResilientChat
