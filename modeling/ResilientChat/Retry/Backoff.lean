import ResilientChat.Settings

/-!
How often a call is repeated and how long the pauses are. The pause after attempt
`n` is `first * factor ^ (n - 1)` up to a ceiling, computed in floating point and
rounded to whole nanoseconds; with jitter a value up to a quarter below is drawn.
-/

namespace ResilientChat

structure Backoff where
  /-- Attempts after the first one. -/
  retries : UInt32 := 2
  /-- The pause after the first attempt. -/
  first : Duration := Duration.ofMillis 200
  factor : Float := 2.0
  ceiling : Option Duration := some (Duration.ofSeconds 5)
  jitter : Bool := true
deriving Repr, Inhabited

namespace Backoff

def single : Backoff := { retries := 0, first := 0, jitter := false }

/-- Pauses that double up to a ceiling. -/
def doubling (retries : UInt32) (first ceiling : Duration) : Backoff :=
  { retries, first, factor := 2.0, ceiling := some ceiling, jitter := false }

def constant (retries : UInt32) (pause : Duration) : Backoff :=
  { retries, first := pause, factor := 1.0, ceiling := none, jitter := false }

/-- A factor of at least one; what is not a number becomes one. -/
def atLeastOne (factor : Float) : Float := if 1.0 ≤ factor then factor else 1.0

def ofTuning (t : Tuning) : Backoff where
  retries := t.maxRetries
  first := t.initialDelay
  factor := atLeastOne t.multiplier
  ceiling := t.maxDelay
  jitter := t.jitter

/-- Attempts are counted in 32 bits. -/
def attemptLimit : Nat := UInt32.size - 1

def totalAttempts (b : Backoff) : Nat := min (b.retries.toNat + 1) attemptLimit

/-- `r * a ^ n` by squaring; the first argument bounds the number of squarings. -/
def powerFrom : Nat → (a : Float) → (n : Nat) → (r : Float) → Float
  | 0, _, _, r => r
  | k + 1, a, n, r =>
    let r := if n % 2 = 1 then r * a else r
    if n / 2 = 0 then r else powerFrom k (a * a) (n / 2) r

def power (a : Float) (n : Nat) : Float := powerFrom (n + 1) a n 1.0

/-- The factor is applied at most this often. -/
def exponentLimit : Nat := 63

/-- Pauses are rounded below this number of nanoseconds, and take the ceiling from it on. -/
def roundingLimit : Float := 18446744073709551616.0

/-- The lesser of a number and a bound; the bound for what is not a number. -/
def atMost (bound x : Float) : Float := if x ≤ bound then x else bound

/-- The pause that grew to `x` nanoseconds, under the ceiling. -/
def settle (ceiling : Option Duration) (x : Float) : Duration :=
  let x :=
    match ceiling with
    | some c => atMost (Float.ofNat c) x
    | none => x
  if x < roundingLimit then
    ((Decimal.Binary.ofFloat x).round?).getD (ceiling.getD Duration.max)
  else ceiling.getD Duration.max

/-- The pause after the failed attempt of that number, before jitter. -/
def pause (b : Backoff) (attempt : Nat) : Duration :=
  if b.first = 0 then 0
  else
    settle b.ceiling
      (Float.ofNat b.first * power b.factor (min (attempt - 1) exponentLimit))

/-- Pauses are drawn among the numbers of 64 bits. -/
def drawLimit : Nat := UInt64.size - 1

/-- The pauses that may be drawn in place of `d`: the least and the greatest. -/
def band (d : Duration) : Duration × Duration :=
  let high := min d drawLimit
  (high - high / 4, high)

def jittered (draw : Nat) (d : Duration) : Duration :=
  let (low, high) := band d
  if high ≤ low then d else low + draw % (high - low + 1)

def delay (b : Backoff) (draw : Nat) (attempt : Nat) : Duration :=
  if b.jitter then jittered draw (b.pause attempt) else b.pause attempt

def ofJson? (v : Json.Value) : Option Backoff := do
  let r ← Json.Record.ofValue?
    ["max_retries", "initial_delay", "backoff_multiplier", "max_delay", "jitter"] v
  return {
    retries := ← r.required "max_retries" Json.Value.uint32?
    first := ← r.required "initial_delay" Duration.ofJson?
    factor := ← r.required "backoff_multiplier" Json.Value.float?
    ceiling := ← r.optional "max_delay" Duration.ofJson?
    jitter := ← r.required "jitter" Json.Value.bool? }

def toJson (b : Backoff) : Json.Value :=
  .object [("max_retries", .nat b.retries.toNat), ("initial_delay", Duration.toJson b.first),
    ("backoff_multiplier", .float b.factor),
    ("max_delay", (b.ceiling.map Duration.toJson).getD .null), ("jitter", .bool b.jitter)]

end Backoff

end ResilientChat
