import ResilientChat.Settings

/-!
When a circuit opens and how long it stays open.
-/

namespace ResilientChat

namespace Breaker

structure Limits where
  /-- Failures in a row that open the circuit. -/
  threshold : UInt32 := 5
  /-- Time before an open circuit lets a probe through. -/
  cooldown : Duration := Duration.ofSeconds 30
  /-- Whether calls are counted and refused; isolation holds in any case. -/
  enabled : Bool := true
deriving Repr, DecidableEq, Inhabited

namespace Limits

def strict : Limits := { threshold := 3, cooldown := Duration.ofSeconds 10 }

def lenient : Limits := { threshold := 10, cooldown := Duration.ofSeconds 60 }

def disabled : Limits := { enabled := false }

def atLeastOne (n : UInt32) : UInt32 := if n = 0 then 1 else n

def withThreshold (l : Limits) (n : UInt32) : Limits := { l with threshold := atLeastOne n }

def ofTuning (t : Tuning) : Limits where
  threshold := atLeastOne t.failureThreshold
  cooldown := t.breakDuration
  enabled := t.enabled

def ofJson? (v : Json.Value) : Option Limits := do
  let r ← Json.Record.ofValue? ["failure_threshold", "break_duration", "enabled"] v
  return {
    threshold := ← r.required "failure_threshold" Json.Value.uint32?
    cooldown := ← r.required "break_duration" Duration.ofJson?
    enabled := ← r.required "enabled" Json.Value.bool? }

def toJson (l : Limits) : Json.Value :=
  .object [("failure_threshold", .nat l.threshold.toNat),
    ("break_duration", Duration.toJson l.cooldown), ("enabled", .bool l.enabled)]

end Limits

end Breaker

end ResilientChat
