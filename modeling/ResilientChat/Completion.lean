import ResilientChat.Fault
import ResilientChat.Json.Record
import ResilientChat.Json.Variant

/-!
Requests to a language model and its answers, as they travel in JSON.
-/

namespace ResilientChat

namespace Completion

inductive Role where
  | system
  | user
  | assistant
  | tool
deriving Repr, DecidableEq

namespace Role

instance : Inhabited Role := ⟨.user⟩

def all : List Role := [.system, .user, .assistant, .tool]

def name : Role → String
  | .system => "system"
  | .user => "user"
  | .assistant => "assistant"
  | .tool => "tool"

def ofJson? (v : Json.Value) : Option Role := v.variant?.bind fun s => all.find? (·.name = s)

end Role

structure Message where
  role : Role
  content : String
deriving Repr, DecidableEq, Inhabited

namespace Message

def ofJson? (v : Json.Value) : Option Message := do
  let r ← Json.Record.ofValue? ["role", "content"] v
  return {
    role := ← r.required "role" Role.ofJson?
    content := ← r.required "content" Json.Value.string? }

def toJson (m : Message) : Json.Value :=
  .object [("role", .string m.role.name), ("content", .string m.content)]

end Message

structure Request where
  model : String
  messages : List Message := []
  temperature : Option Float32 := none
  maxTokens : Option UInt32 := none
  /-- The names of the tools that the model may call. -/
  tools : List String := []
deriving Repr, Inhabited

namespace Request

def ofJson? (v : Json.Value) : Option Request := do
  let r ← Json.Record.ofValue? ["model", "messages", "temperature", "max_tokens", "tools"] v
  return {
    model := ← r.required "model" Json.Value.string?
    messages := ← r.withDefault "messages" [] fun v => v.items?.bind (·.mapM Message.ofJson?)
    temperature := ← r.optional "temperature" Json.Value.float32?
    maxTokens := ← r.optional "max_tokens" Json.Value.uint32?
    tools := ← r.withDefault "tools" [] fun v => v.items?.bind (·.mapM Json.Value.string?) }

/-- What is not set is left out. -/
def toJson (q : Request) : Json.Value :=
  .object ([("model", .string q.model), ("messages", .array (q.messages.map Message.toJson))]
    ++ (q.temperature.map fun x => ("temperature", Json.Value.single x)).toList
    ++ (q.maxTokens.map fun n => ("max_tokens", Json.Value.nat n.toNat)).toList
    ++ if q.tools.isEmpty then [] else [("tools", .array (q.tools.map Json.Value.string))])

end Request

structure Usage where
  promptTokens : UInt32 := 0
  completionTokens : UInt32 := 0
deriving Repr, DecidableEq, Inhabited

namespace Usage

def total (u : Usage) : UInt32 := u.promptTokens + u.completionTokens

def ofJson? (v : Json.Value) : Option Usage := do
  let r ← Json.Record.ofValue? ["prompt_tokens", "completion_tokens"] v
  return {
    promptTokens := ← r.required "prompt_tokens" Json.Value.uint32?
    completionTokens := ← r.required "completion_tokens" Json.Value.uint32? }

def toJson (u : Usage) : Json.Value :=
  .object [("prompt_tokens", .nat u.promptTokens.toNat),
    ("completion_tokens", .nat u.completionTokens.toNat)]

end Usage

structure Response where
  model : String
  content : String
  usage : Usage := {}
deriving Repr, DecidableEq, Inhabited

namespace Response

def ofJson? (v : Json.Value) : Option Response := do
  let r ← Json.Record.ofValue? ["model", "content", "usage"] v
  return {
    model := ← r.required "model" Json.Value.string?
    content := ← r.required "content" Json.Value.string?
    usage := ← r.withDefault "usage" {} Usage.ofJson? }

def toJson (r : Response) : Json.Value :=
  .object [("model", .string r.model), ("content", .string r.content), ("usage", r.usage.toJson)]

end Response

structure Chunk where
  delta : String := ""
  isLast : Bool := false
deriving Repr, DecidableEq, Inhabited

def Chunk.ofText (delta : String) : Chunk := { delta }

def Chunk.last : Chunk := { isLast := true }

/-- What streaming from a provider that cannot stream comes to. -/
def streamingUnsupported (provider : String) : Fault :=
  .unsupported ("provider " ++ provider ++ " does not support streaming")

end Completion

end ResilientChat
