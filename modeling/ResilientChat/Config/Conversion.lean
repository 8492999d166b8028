import ResilientChat.Config.Tree
import ResilientChat.Decimal.Binary
import ResilientChat.Decimal.Reading
import ResilientChat.Settings

/-!
Settings out of a document. Numbers, truth values and words stand for one another
where a field asks for one of them, so that formats which know only strings can
say everything. Null stands only for a value that may be absent.
-/

namespace ResilientChat

namespace Config

open Text

def truthWord? (s : String) : Option Bool :=
  let word := lower s
  if ["true", "on", "yes"].contains word then some true
  else if ["false", "off", "no"].contains word then some false
  else none

/-- Whole numbers of settings lie below this bound. -/
def wholeLimit : Nat := UInt64.size

/-- The whole number in range that is nearest to a float; zero for what is not a number. -/
def nearestWhole (x : Float) : Nat :=
  match Decimal.Binary.ofFloat x with
  | .nan => 0
  | .infinite negative => if negative then 0 else wholeLimit - 1
  | .finite negative magnitude => if negative then 0 else min magnitude.round (wholeLimit - 1)

namespace Tree

def whole? : Tree → Option Nat
  | .int n => if 0 ≤ n && n < wholeLimit then some n.toNat else none
  | .float x => some (nearestWhole x)
  | .bool b => some b.toNat
  | .string s =>
    (truthWord? s).map Bool.toNat <|> (Decimal.nat? s).filter fun n => n < wholeLimit
  | .null | .array _ | .table _ => none

def uint64? (v : Tree) : Option UInt64 := v.whole?.map Nat.toUInt64

/-- A whole number of 32 bits; a larger one is refused. -/
def uint32? (v : Tree) : Option UInt32 :=
  (v.whole?.filter fun n => n < UInt32.size).map Nat.toUInt32

/-- A truth value; every number but zero is true. -/
def truth? : Tree → Option Bool
  | .bool b => some b
  | .int n => some (n ≠ 0)
  | .float x => some (x != 0.0)
  | .string s => if s = "1" then some true else if s = "0" then some false else truthWord? s
  | .null | .array _ | .table _ => none

def float? : Tree → Option Float
  | .float x => some x
  | .int n => some (Float.ofInt n)
  | .bool b => some (if b then 1.0 else 0.0)
  | .string s =>
    (truthWord? s).map (fun b => if b then 1.0 else 0.0) <|> Decimal.float? s
  | .null | .array _ | .table _ => none

def optional? {α : Type} (decode : Tree → Option α) : Tree → Option (Option α)
  | .null => some none
  | v => (decode v).map some

/-- A handling mode by its name, which may also be the only key of a table. -/
def mode? (v : Tree) : Option HandlingMode :=
  let named (s : String) : Option HandlingMode :=
    HandlingMode.all.find? fun mode => mode.name = lower s
  match v with
  | .string s => named s
  | .table [(key, _)] => named key
  | _ => none

/-- The fields of a record, by name or, in an array, by their places. -/
def fields? (names : List String) : Tree → Option Entries
  | .table entries => some entries
  | .array items => some (names.zip items)
  | _ => none

end Tree

def Entries.withDefault {α : Type} (entries : Entries) (name : String) (default : α)
    (decode : Tree → Option α) : Option α :=
  match entries.lookup name with
  | none => some default
  | some v => decode v

def tuningOf? (v : Tree) : Option Tuning := do
  let fields ← v.fields? Tuning.fieldNames
  let base : Tuning := {}
  return {
    enabled := ← fields.withDefault "enabled" base.enabled Tree.truth?
    failureThreshold := ← fields.withDefault "failure_threshold" base.failureThreshold
      Tree.uint32?
    breakMs := ← fields.withDefault "break_duration_ms" base.breakMs Tree.uint64?
    maxRetries := ← fields.withDefault "max_retries" base.maxRetries Tree.uint32?
    initialDelayMs := ← fields.withDefault "initial_delay_ms" base.initialDelayMs Tree.uint64?
    multiplier := ← fields.withDefault "backoff_multiplier" base.multiplier Tree.float?
    maxDelayMs := ← fields.withDefault "max_delay_ms" base.maxDelayMs
      (Tree.optional? Tree.uint64?)
    jitter := ← fields.withDefault "jitter" base.jitter Tree.truth? }

def cacheTuningOf? (v : Tree) : Option CacheTuning := do
  let fields ← v.fields? CacheTuning.fieldNames
  let base : CacheTuning := {}
  return {
    enabled := ← fields.withDefault "enabled" base.enabled Tree.truth?
    ttlSeconds := ← fields.withDefault "ttl_secs" base.ttlSeconds Tree.uint64?
    maxEntries := ← fields.withDefault "max_entries" base.maxEntries Tree.uint64? }

def sensitivityOf? (v : Tree) : Option SensitivityRules := do
  let fields ← v.fields? SensitivityRules.fieldNames
  let base : SensitivityRules := {}
  return {
    mode := ← fields.withDefault "handling_mode" base.mode Tree.mode?
    skipCache := ← fields.withDefault "disable_caching_when_sensitive" base.skipCache Tree.truth?
    skipResultStore := ← fields.withDefault "disable_tool_result_persistence_when_sensitive"
      base.skipResultStore Tree.truth? }

def dependenciesOf? : Tree → Option (NameMap Tuning)
  | .table entries => entries.foldlM (fun m e => (tuningOf? e.2).map (m.insert e.1)) ∅
  | _ => none

def settingsOf? (v : Tree) : Option Settings := do
  let fields ← v.fields? Settings.fieldNames
  return {
    defaults := ← fields.withDefault "defaults" {} tuningOf?
    dependencies := ← fields.withDefault "dependencies" ∅ dependenciesOf?
    sensitivity := ← fields.withDefault "sensitivity" {} sensitivityOf?
    cache := ← fields.withDefault "cache" {} cacheTuningOf? }

end Config

end ResilientChat
