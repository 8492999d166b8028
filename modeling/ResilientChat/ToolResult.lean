import ResilientChat.Policy
import ResilientChat.RequestId

/-!
What is kept of a tool's result: facts that are safe in any case, and a payload
where the policy allows one.
-/

namespace ResilientChat

namespace ToolResult

/-- Facts about a result that give nothing of it away. -/
structure Metadata where
  tool : String
  procedure : String
  /-- The size of the result's JSON text in bytes. -/
  byteLength : Nat
  elapsedMs : Nat
deriving Repr, DecidableEq, Inhabited

namespace Metadata

def ofJson? (v : Json.Value) : Option Metadata := do
  let r ← Json.Record.ofValue? ["tool", "procedure", "byte_len", "elapsed_ms"] v
  return {
    tool := ← r.required "tool" Json.Value.string?
    procedure := ← r.required "procedure" Json.Value.string?
    byteLength := ← r.required "byte_len" (Json.Value.natBelow? UInt64.size)
    elapsedMs := ← r.required "elapsed_ms" (Json.Value.natBelow? UInt64.size) }

def toJson (m : Metadata) : Json.Value :=
  .object [("tool", .string m.tool), ("procedure", .string m.procedure),
    ("byte_len", .nat m.byteLength), ("elapsed_ms", .nat m.elapsedMs)]

end Metadata

structure Record where
  requestId : RequestId
  tenant : String
  module : String
  decision : Persistence
  metadata : Metadata
  /-- None where only metadata is kept. -/
  payload : Option Json.Value
deriving Repr, Inhabited

namespace Record

def ofJson? (v : Json.Value) : Option Record := do
  let r ← Json.Record.ofValue?
    ["request_id", "tenant", "module", "decision", "metadata", "payload"] v
  return {
    requestId := ← r.required "request_id" fun v => v.string?.bind RequestId.ofText?
    tenant := ← r.required "tenant" Json.Value.string?
    module := ← r.required "module" Json.Value.string?
    decision := ← r.required "decision" Persistence.ofJson?
    metadata := ← r.required "metadata" Metadata.ofJson?
    payload := ← r.optional "payload" Json.Value.untyped? }

def toJson (r : Record) : Json.Value :=
  .object [("request_id", .string r.requestId.text), ("tenant", .string r.tenant),
    ("module", .string r.module), ("decision", r.decision.toJson),
    ("metadata", r.metadata.toJson), ("payload", r.payload.getD .null)]

end Record

end ToolResult

end ResilientChat
