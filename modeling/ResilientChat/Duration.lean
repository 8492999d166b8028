import ResilientChat.Json.Record

/-!
Spans of time in whole nanoseconds. They are natural numbers; `Duration.max` is
the largest span that a caller can configure.
-/

namespace ResilientChat

abbrev Duration := Nat

abbrev Instant := Nat

namespace Duration

def nanosPerSecond : Nat := 1000000000

def nanosPerMilli : Nat := 1000000

/-- 2^64 - 1 seconds and as many nanoseconds as fit below the next one. -/
def max : Duration := UInt64.size * nanosPerSecond - 1

def ofMillis (n : Nat) : Duration := n * nanosPerMilli

def ofSeconds (n : Nat) : Duration := n * nanosPerSecond

def millis (d : Duration) : Nat := d / nanosPerMilli

/-- The two fields of a duration and nothing else; whole seconds carry over. -/
def ofJson? (v : Json.Value) : Option Duration := do
  let known := ["secs", "nanos"]
  let r ← Json.Record.ofValue? known v
  if r.members.any fun m => !known.contains m.1 then none
  let seconds ← r.required "secs" (Json.Value.natBelow? UInt64.size)
  let nanos ← r.required "nanos" (Json.Value.natBelow? UInt32.size)
  let d := ofSeconds seconds + nanos
  if d ≤ max then some d else none

def toJson (d : Duration) : Json.Value :=
  .object [("secs", .nat (d / nanosPerSecond)), ("nanos", .nat (d % nanosPerSecond))]

end Duration

end ResilientChat
