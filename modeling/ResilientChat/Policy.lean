import ResilientChat.Json.Record
import ResilientChat.Json.Variant

/-!
How a request with sensitive content is handled. The policy is derived once from
the signal that came with the request and from the configured rules; caching and
the storing of tool results read it and decide nothing of their own.
-/

namespace ResilientChat

inductive HandlingMode where
  | redact
  | metadataOnly
  | disablePersistence
deriving Repr, DecidableEq, Inhabited

namespace HandlingMode

def name : HandlingMode → String
  | .redact => "redact"
  | .metadataOnly => "metadata_only"
  | .disablePersistence => "disable_persistence"

def all : List HandlingMode := [.redact, .metadataOnly, .disablePersistence]

def ofName? (s : String) : Option HandlingMode := all.find? (·.name = s)

def ofJson? (v : Json.Value) : Option HandlingMode := v.variant?.bind ofName?

def toJson (mode : HandlingMode) : Json.Value := .string mode.name

end HandlingMode

structure SensitivityRules where
  /-- The mode where the signal names none. -/
  mode : HandlingMode := .redact
  skipCache : Bool := true
  skipResultStore : Bool := true
deriving Repr, DecidableEq, Inhabited

namespace SensitivityRules

def fieldNames : List String :=
  ["handling_mode", "disable_caching_when_sensitive",
   "disable_tool_result_persistence_when_sensitive"]

def ofJson? (v : Json.Value) : Option SensitivityRules := do
  let r ← Json.Record.ofValue? fieldNames v
  let base : SensitivityRules := {}
  return {
    mode := ← r.withDefault "handling_mode" base.mode HandlingMode.ofJson?
    skipCache := ← r.withDefault "disable_caching_when_sensitive" base.skipCache Json.Value.bool?
    skipResultStore := ← r.withDefault "disable_tool_result_persistence_when_sensitive"
      base.skipResultStore Json.Value.bool? }

def toJson (rules : SensitivityRules) : Json.Value :=
  .object [("handling_mode", rules.mode.toJson),
    ("disable_caching_when_sensitive", .bool rules.skipCache),
    ("disable_tool_result_persistence_when_sensitive", .bool rules.skipResultStore)]

end SensitivityRules

/-- What is known about the content of one request. -/
structure SensitivitySignal where
  sensitive : Bool := false
  /-- Takes the place of the configured mode. -/
  mode : Option HandlingMode := none
deriving Repr, DecidableEq, Inhabited

namespace SensitivitySignal

def ofJson? (v : Json.Value) : Option SensitivitySignal := do
  let r ← Json.Record.ofValue? ["contains_sensitive", "handling_mode"] v
  return {
    sensitive := ← r.required "contains_sensitive" Json.Value.bool?
    mode := ← r.optional "handling_mode" HandlingMode.ofJson? }

def toJson (signal : SensitivitySignal) : Json.Value :=
  .object [("contains_sensitive", .bool signal.sensitive),
    ("handling_mode", (signal.mode.map HandlingMode.toJson).getD .null)]

end SensitivitySignal

/-- What may be written to the store of tool results. -/
inductive Persistence where
  | full
  | redacted
  | metadataOnly
  | skip
deriving Repr, DecidableEq, Inhabited

namespace Persistence

def name : Persistence → String
  | .full => "full"
  | .redacted => "redacted"
  | .metadataOnly => "metadata_only"
  | .skip => "skip"

def all : List Persistence := [.full, .redacted, .metadataOnly, .skip]

def ofJson? (v : Json.Value) : Option Persistence :=
  v.variant?.bind fun s => all.find? (·.name = s)

def toJson (p : Persistence) : Json.Value := .string p.name

end Persistence

structure Policy where
  sensitive : Bool
  mode : HandlingMode
  skipCache : Bool
  skipResultStore : Bool
deriving Repr, DecidableEq

namespace Policy

def derive (signal : SensitivitySignal) (rules : SensitivityRules) : Policy where
  sensitive := signal.sensitive
  mode := signal.mode.getD rules.mode
  skipCache := rules.skipCache
  skipResultStore := rules.skipResultStore

def standard : Policy := derive {} {}

instance : Inhabited Policy := ⟨standard⟩

/-- The policy of a given sensitivity and mode under the standard rules. -/
def ofMode (sensitive : Bool) (mode : HandlingMode) : Policy := derive ⟨sensitive, some mode⟩ {}

/-- The answer cache is neither read nor written. -/
def bypassesCache (p : Policy) : Bool := p.sensitive && p.skipCache

def disablesResultStore (p : Policy) : Bool := p.sensitive && p.skipResultStore

def redacts (p : Policy) : Bool := p.sensitive && p.mode = .redact

def keepsMetadataOnly (p : Policy) : Bool := p.sensitive && p.mode = .metadataOnly

def disablesPersistence (p : Policy) : Bool := p.sensitive && p.mode = .disablePersistence

/-- The strictest rule wins: nothing, then metadata, then a redacted result. -/
def persistence (p : Policy) : Persistence :=
  if p.disablesResultStore || p.disablesPersistence then .skip
  else if p.keepsMetadataOnly then .metadataOnly
  else if p.redacts then .redacted
  else .full

def ofJson? (v : Json.Value) : Option Policy := do
  let r ← Json.Record.ofValue? ["contains_sensitive", "handling_mode",
    "disable_caching_when_sensitive", "disable_tool_result_persistence_when_sensitive"] v
  return {
    sensitive := ← r.required "contains_sensitive" Json.Value.bool?
    mode := ← r.required "handling_mode" HandlingMode.ofJson?
    skipCache := ← r.required "disable_caching_when_sensitive" Json.Value.bool?
    skipResultStore := ← r.required "disable_tool_result_persistence_when_sensitive"
      Json.Value.bool? }

def toJson (p : Policy) : Json.Value :=
  .object [("contains_sensitive", .bool p.sensitive), ("handling_mode", p.mode.toJson),
    ("disable_caching_when_sensitive", .bool p.skipCache),
    ("disable_tool_result_persistence_when_sensitive", .bool p.skipResultStore)]

end Policy

end ResilientChat
