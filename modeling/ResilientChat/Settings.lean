import ResilientChat.Decimal.Layout
import ResilientChat.Duration
import ResilientChat.NameMap
import ResilientChat.Policy

/-!
The settings document: how each dependency is called, how sensitive requests are
handled and how large the answer cache is. `Settings.validate` finds the first
field that breaks its rule.
-/

namespace ResilientChat

structure Tuning where
  /-- Whether the breaker counts at all. -/
  enabled : Bool := true
  /-- Failures in a row that open the circuit. -/
  failureThreshold : UInt32 := 5
  /-- Time before an open circuit lets a probe through. -/
  breakMs : UInt64 := 30000
  /-- Attempts after the first one. -/
  maxRetries : UInt32 := 2
  initialDelayMs : UInt64 := 200
  multiplier : Float := 2.0
  maxDelayMs : Option UInt64 := some 5000
  jitter : Bool := true
deriving Repr, Inhabited

structure CacheTuning where
  enabled : Bool := true
  ttlSeconds : UInt64 := 3600
  maxEntries : UInt64 := 10000
deriving Repr, DecidableEq, Inhabited

structure Settings where
  /-- Used for every dependency that has no entry of its own. -/
  defaults : Tuning := {}
  dependencies : NameMap Tuning := ∅
  sensitivity : SensitivityRules := {}
  cache : CacheTuning := {}
deriving Inhabited

/-- A field that breaks its rule, and the rule. -/
structure SettingsFault where
  field : String
  reason : String
deriving Repr, DecidableEq

namespace Tuning

def breakDuration (t : Tuning) : Duration := Duration.ofMillis t.breakMs.toNat

def initialDelay (t : Tuning) : Duration := Duration.ofMillis t.initialDelayMs.toNat

def maxDelay (t : Tuning) : Option Duration := t.maxDelayMs.map fun ms => Duration.ofMillis ms.toNat

/-- The first field that breaks its rule; `owner` names the entry. -/
def fault? (owner : String) (t : Tuning) : Option SettingsFault :=
  if t.failureThreshold = 0 then
    some ⟨owner ++ ".failure_threshold", "must be at least 1"⟩
  else if !(t.multiplier.isFinite && 1.0 ≤ t.multiplier) then
    some ⟨owner ++ ".backoff_multiplier",
      "must be >= 1.0, got " ++ (Decimal.Binary.ofFloat t.multiplier).plain⟩
  else if t.maxDelayMs.any (· < t.initialDelayMs) then
    some ⟨owner ++ ".max_delay_ms", "must not be below initial_delay_ms"⟩
  else none

def fieldNames : List String :=
  ["enabled", "failure_threshold", "break_duration_ms", "max_retries", "initial_delay_ms",
   "backoff_multiplier", "max_delay_ms", "jitter"]

def ofJson? (v : Json.Value) : Option Tuning := do
  let r ← Json.Record.ofValue? fieldNames v
  let base : Tuning := {}
  return {
    enabled := ← r.withDefault "enabled" base.enabled Json.Value.bool?
    failureThreshold := ← r.withDefault "failure_threshold" base.failureThreshold
      Json.Value.uint32?
    breakMs := ← r.withDefault "break_duration_ms" base.breakMs Json.Value.uint64?
    maxRetries := ← r.withDefault "max_retries" base.maxRetries Json.Value.uint32?
    initialDelayMs := ← r.withDefault "initial_delay_ms" base.initialDelayMs Json.Value.uint64?
    multiplier := ← r.withDefault "backoff_multiplier" base.multiplier Json.Value.float?
    maxDelayMs := ← r.optionalWithDefault "max_delay_ms" base.maxDelayMs Json.Value.uint64?
    jitter := ← r.withDefault "jitter" base.jitter Json.Value.bool? }

def toJson (t : Tuning) : Json.Value :=
  .object [("enabled", .bool t.enabled),
    ("failure_threshold", .nat t.failureThreshold.toNat),
    ("break_duration_ms", .nat t.breakMs.toNat),
    ("max_retries", .nat t.maxRetries.toNat),
    ("initial_delay_ms", .nat t.initialDelayMs.toNat),
    ("backoff_multiplier", .float t.multiplier),
    ("max_delay_ms", (t.maxDelayMs.map fun ms => Json.Value.nat ms.toNat).getD .null),
    ("jitter", .bool t.jitter)]

end Tuning

namespace CacheTuning

def ttl (t : CacheTuning) : Duration := Duration.ofSeconds t.ttlSeconds.toNat

def fieldNames : List String := ["enabled", "ttl_secs", "max_entries"]

def ofJson? (v : Json.Value) : Option CacheTuning := do
  let r ← Json.Record.ofValue? fieldNames v
  let base : CacheTuning := {}
  return {
    enabled := ← r.withDefault "enabled" base.enabled Json.Value.bool?
    ttlSeconds := ← r.withDefault "ttl_secs" base.ttlSeconds Json.Value.uint64?
    maxEntries := ← r.withDefault "max_entries" base.maxEntries Json.Value.uint64? }

def toJson (t : CacheTuning) : Json.Value :=
  .object [("enabled", .bool t.enabled), ("ttl_secs", .nat t.ttlSeconds.toNat),
    ("max_entries", .nat t.maxEntries.toNat)]

end CacheTuning

namespace Settings

def tuningFor (s : Settings) (name : String) : Tuning :=
  (s.dependencies.get? name).getD s.defaults

/-- The first rule broken when the entries are looked at in the given order. -/
def faultIn (s : Settings) (entries : List (String × Tuning)) : Option SettingsFault :=
  s.defaults.fault? "defaults"
    <|> entries.findSome? (fun e => e.2.fault? ("dependencies." ++ e.1))
    <|> if s.cache.enabled && s.cache.maxEntries = 0 then
        some ⟨"cache.max_entries", "must be at least 1 when the cache is enabled"⟩
      else none

def validate (s : Settings) : Except SettingsFault Unit :=
  match s.faultIn s.dependencies.entries with
  | some fault => .error fault
  | none => .ok ()

def fieldNames : List String := ["defaults", "dependencies", "sensitivity", "cache"]

def dependenciesOfJson? : Json.Value → Option (NameMap Tuning)
  | .object members =>
    members.foldlM (fun m e => (Tuning.ofJson? e.2).map (m.insert e.1)) ∅
  | _ => none

def ofJson? (v : Json.Value) : Option Settings := do
  let r ← Json.Record.ofValue? fieldNames v
  return {
    defaults := ← r.withDefault "defaults" {} Tuning.ofJson?
    dependencies := ← r.withDefault "dependencies" ∅ dependenciesOfJson?
    sensitivity := ← r.withDefault "sensitivity" {} SensitivityRules.ofJson?
    cache := ← r.withDefault "cache" {} CacheTuning.ofJson? }

def toJson (s : Settings) : Json.Value :=
  .object [("defaults", s.defaults.toJson),
    ("dependencies", .object (s.dependencies.entries.map fun e => (e.1, e.2.toJson))),
    ("sensitivity", s.sensitivity.toJson),
    ("cache", s.cache.toJson)]

end Settings

end ResilientChat
