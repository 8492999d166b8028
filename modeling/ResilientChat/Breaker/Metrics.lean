import ResilientChat.Breaker.Phase
import ResilientChat.Json.Record

/-!
What a circuit counts, and the last changes of its phase.
-/

namespace ResilientChat

namespace Breaker

/-- A change of phase and when it happened, in milliseconds. -/
structure Transition where
  change : Change
  stampMs : UInt64
deriving Repr, DecidableEq, Inhabited

namespace Transition

def ofJson? (v : Json.Value) : Option Transition := do
  let r ← Json.Record.ofValue? ["from_state", "to_state", "timestamp_ms"] v
  let before ← r.required "from_state" Phase.ofJson?
  let after ← r.required "to_state" Phase.ofJson?
  return ⟨⟨before, after⟩, ← r.required "timestamp_ms" Json.Value.uint64?⟩

def toJson (t : Transition) : Json.Value :=
  .object [("from_state", .string t.change.before.name),
    ("to_state", .string t.change.after.name), ("timestamp_ms", .nat t.stampMs.toNat)]

end Transition

structure Metrics where
  successes : UInt64 := 0
  failures : UInt64 := 0
  /-- Calls refused by the circuit. -/
  rejected : UInt64 := 0
  /-- Calls given up by their callers. -/
  cancelled : UInt64 := 0
  transitions : UInt64 := 0
  /-- When the circuit opened last. -/
  lastOpenedMs : Option UInt64 := none
  /-- The latest transitions, oldest first. -/
  history : List Transition := []
deriving Repr, DecidableEq, Inhabited

namespace Metrics

def historyLimit : Nat := 100

def countSuccess (m : Metrics) : Metrics := { m with successes := m.successes + 1 }

def countFailure (m : Metrics) : Metrics := { m with failures := m.failures + 1 }

def countRejected (m : Metrics) : Metrics := { m with rejected := m.rejected + 1 }

def countCancelled (m : Metrics) : Metrics := { m with cancelled := m.cancelled + 1 }

def pushTransition (t : Transition) (history : List Transition) : List Transition :=
  (if history.length = historyLimit then history.tail else history) ++ [t]

def countTransition (m : Metrics) (t : Transition) : Metrics :=
  { m with
    transitions := m.transitions + 1
    lastOpenedMs := if t.change.after = .opened then some t.stampMs else m.lastOpenedMs
    history := pushTransition t m.history }

/-- Calls that reached the dependency and were not given up. -/
def requests (m : Metrics) : UInt64 := m.successes + m.failures

/-- Failures in a hundred requests. -/
def failureRate (m : Metrics) : Float :=
  if m.requests = 0 then 0.0
  else Float.ofNat m.failures.toNat / Float.ofNat m.requests.toNat * 100.0

def recent (m : Metrics) (n : Nat) : List Transition := m.history.drop (m.history.length - n)

end Metrics

/-- A circuit's counters as the health surface shows them. -/
structure Totals where
  successes : UInt64
  failures : UInt64
  rejected : UInt64
  cancelled : UInt64
  requests : UInt64
  failureRate : Float
  transitions : UInt64
  /-- Zero for a circuit that never opened. -/
  lastOpenedMs : UInt64
deriving Repr, Inhabited

def Metrics.totals (m : Metrics) : Totals where
  successes := m.successes
  failures := m.failures
  rejected := m.rejected
  cancelled := m.cancelled
  requests := m.requests
  failureRate := m.failureRate
  transitions := m.transitions
  lastOpenedMs := m.lastOpenedMs.getD 0

namespace Totals

def ofJson? (v : Json.Value) : Option Totals := do
  let r ← Json.Record.ofValue? ["total_successes", "total_failures", "total_rejected",
    "total_cancelled", "total_requests", "failure_rate", "total_transitions", "last_opened_ms"] v
  return {
    successes := ← r.required "total_successes" Json.Value.uint64?
    failures := ← r.required "total_failures" Json.Value.uint64?
    rejected := ← r.required "total_rejected" Json.Value.uint64?
    cancelled := ← r.required "total_cancelled" Json.Value.uint64?
    requests := ← r.required "total_requests" Json.Value.uint64?
    failureRate := ← r.required "failure_rate" Json.Value.float?
    transitions := ← r.required "total_transitions" Json.Value.uint64?
    lastOpenedMs := ← r.required "last_opened_ms" Json.Value.uint64? }

def toJson (t : Totals) : Json.Value :=
  .object [("total_successes", .nat t.successes.toNat),
    ("total_failures", .nat t.failures.toNat),
    ("total_rejected", .nat t.rejected.toNat),
    ("total_cancelled", .nat t.cancelled.toNat),
    ("total_requests", .nat t.requests.toNat),
    ("failure_rate", .float t.failureRate),
    ("total_transitions", .nat t.transitions.toNat),
    ("last_opened_ms", .nat t.lastOpenedMs.toNat)]

end Totals

end Breaker

end ResilientChat
