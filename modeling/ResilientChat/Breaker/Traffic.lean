import ResilientChat.Breaker.Basic

/-!
Calls through one breaker in any order of events. Calls start, and any number of
them may be under way when one of them ends or is dropped, when an operator
isolates or resets the circuit, or when time passes. Each started call has a
ticket, its number in the order of the starts.
-/

namespace ResilientChat

namespace Breaker

/-- A breaker, the clock and the calls under way. -/
structure Traffic where
  breaker : Breaker
  now : Instant := 0
  /-- Calls started so far; the next one has this ticket. -/
  started : Nat := 0
  /-- The calls under way and how each was let through. -/
  inFlight : List (Nat × Admission) := []
deriving Repr, DecidableEq, Inhabited

namespace Traffic

/-- One event; calls are named by their tickets. -/
inductive Event where
  | start (cancelled : Bool)
  | finish (ticket : Nat) (verdict : Verdict)
  | drop (ticket : Nat)
  | isolate
  | reset
  | wait (d : Duration)
deriving Repr, DecidableEq

/-- The traffic after an event, the change of phase, and why a starting call did not start. -/
structure Step where
  traffic : Traffic
  change : Option Change := none
  failure : Option (CallFailure Fault) := none
deriving Repr, DecidableEq

def moved (t : Traffic) (m : Moved) : Step :=
  { traffic := { t with breaker := m.breaker }, change := m.change }

def admission? (t : Traffic) (ticket : Nat) : Option Admission := t.inFlight.lookup ticket

def release (t : Traffic) (ticket : Nat) : Traffic :=
  { t with inFlight := t.inFlight.filter (·.1 ≠ ticket) }

def start (t : Traffic) (cancelled : Bool) : Step :=
  let entered := { t with started := t.started + 1 }
  match t.breaker.start cancelled t.now with
  | (m, .ok admission) =>
    { entered with inFlight := t.inFlight ++ [(t.started, admission)] }.moved m
  | (m, .error failure) => { entered.moved m with failure := some failure }

/-- Events that name no call under way change nothing. -/
def step (t : Traffic) : Event → Step
  | .start cancelled => t.start cancelled
  | .finish ticket verdict =>
    match t.admission? ticket with
    | some admission =>
      (t.release ticket).moved (t.breaker.complete admission verdict t.now)
    | none => { traffic := t }
  | .drop ticket =>
    match t.admission? ticket with
    | some admission => (t.release ticket).moved { breaker := t.breaker.abandon admission }
    | none => { traffic := t }
  | .isolate => t.moved (t.breaker.isolate t.now)
  | .reset => t.moved (t.breaker.reset t.now)
  | .wait d => { traffic := { t with now := t.now + d } }

def run (t : Traffic) (events : List Event) : Traffic :=
  events.foldl (fun t e => (t.step e).traffic) t

end Traffic

end Breaker

end ResilientChat
