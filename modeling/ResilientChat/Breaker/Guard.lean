import ResilientChat.Breaker.Basic
import ResilientChat.Retry.Run

/-!
A whole call through a breaker: it is let through or turned away, the action
runs, and its result is counted. A call that is turned away takes no time and
calls nothing.
-/

namespace ResilientChat

namespace Breaker

variable {α : Type}

structure Guarded (α : Type) where
  breaker : Breaker
  /-- The change of phase when the call was let through. -/
  opening : Option Change
  call : Call α
  /-- The change of phase when its result was counted. -/
  closing : Option Change
deriving Repr

/-- Runs an action through the breaker. None stands for an action that never ends. -/
def guard (b : Breaker) (action : Instant → Cancellation → Option (Call α)) (now : Instant)
    (caller : Cancellation) : Option (Guarded α) :=
  match b.start (caller.isDue now) now with
  | (entered, .error failure) =>
    some ⟨entered.breaker, entered.change, .given (.error failure) now caller, none⟩
  | (entered, .ok admission) =>
    (action now caller).map fun c =>
      let finished := entered.breaker.complete admission (Verdict.ofResult c.result) c.endsAt
      ⟨finished.breaker, entered.change, c, finished.change⟩

def callOnce (b : Breaker) (reply : Reply α) (now : Instant) (caller : Cancellation) :
    Option (Guarded α) :=
  b.guard reply.once now caller

/-- A repeated call; it counts once, whatever the number of its attempts. -/
def callRepeated (b : Breaker) (backoff : Backoff) (draws : Nat → Nat) (script : Script α)
    (now : Instant) (caller : Cancellation) : Option (Guarded α) :=
  b.guard (backoff.run draws script) now caller

end Breaker

end ResilientChat
