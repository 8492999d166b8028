import ResilientChat.Cache.Store
import ResilientChat.Chat.Failure
import ResilientChat.Chat.Redact
import ResilientChat.Completion
import ResilientChat.Context
import ResilientChat.Dispatcher
import ResilientChat.ToolResult

/-!
Questions and tools. A question is answered from the cache, if its policy allows
that, or by the language model; a tool runs its stored procedure, and its result
is kept as far as the policy allows. Every call goes out through the dispatcher.
-/

namespace ResilientChat

namespace Chat

/-- The names under which the dependencies are called. -/
def modelDependency : String := "llm"

def sqlDependency : String := "sql"

def storageDependency : String := "storage"

/-- What stays the same between requests. -/
structure Setup where
  tools : Toolbox := ∅
  model : String := "default"
  systemText : Option String := none
deriving Inhabited

/-- What requests change: the circuits and the cached answers. -/
structure State where
  dispatcher : Dispatcher
  cache : AnswerGate
deriving Inhabited

namespace State

def ofSettings (settings : Settings) : State :=
  ⟨Dispatcher.ofSettings settings, AnswerGate.ofTuning settings.cache⟩

end State

structure Answer where
  content : String
  model : String
  /-- It was answered before. -/
  cached : Bool
  /-- None for an answer from the cache. -/
  usage : Option Completion.Usage
deriving Repr, DecidableEq, Inhabited

namespace Answer

def ofResponse (r : Completion.Response) : Answer := ⟨r.content, r.model, false, some r.usage⟩

def ofCached (a : CachedAnswer) : Answer := ⟨a.content, a.model, true, none⟩

def ofJson? (v : Json.Value) : Option Answer := do
  let r ← Json.Record.ofValue? ["content", "model", "cached", "usage"] v
  return {
    content := ← r.required "content" Json.Value.string?
    model := ← r.required "model" Json.Value.string?
    cached := ← r.required "cached" Json.Value.bool?
    usage := ← r.optional "usage" Completion.Usage.ofJson? }

def toJson (a : Answer) : Json.Value :=
  .object [("content", .string a.content), ("model", .string a.model), ("cached", .bool a.cached),
    ("usage", (a.usage.map Completion.Usage.toJson).getD .null)]

end Answer

/-- How the dependencies behave during one request. -/
structure World where
  model : Script Completion.Response
  sql : Script Json.Value
  /-- None if there is no store for tool results. -/
  storage : Option (Script Unit) := none
  /-- The numbers drawn for the pauses after each attempt. -/
  draws : Nat → Nat := fun _ => 0

structure Moment where
  now : Instant
  caller : Cancellation := none
deriving Repr, DecidableEq, Inhabited

/-- A finished request: its result, the state after it and what it did. -/
structure Handled (α : Type) where
  result : Except Failure α
  state : State
  moment : Moment
  events : List Event := []
  /-- The requests that the model was sent. -/
  modelCalls : List Completion.Request := []
  /-- How often the procedure was called. -/
  sqlCalls : Nat := 0
  /-- The records that the store was handed. -/
  stored : List ToolResult.Record := []

namespace Setup

variable {α : Type}

def keyOf (s : Setup) (ctx : RequestContext) (question : String) : AnswerKey :=
  .ofQuestion ctx.tenant ctx.module question (s.tools.offered ctx.module) none

def requestOf (s : Setup) (ctx : RequestContext) (question : String) : Completion.Request where
  model := s.model
  messages := (s.systemText.map (Completion.Message.mk .system)).toList ++ [⟨.user, question⟩]
  tools := s.tools.offered ctx.module

/-- Answers a question. None stands for a model that never answers. -/
def answer (s : Setup) (state : State) (world : World) (ctx : RequestContext)
    (question : String) (m : Moment) : Option (Handled Answer) :=
  let key := s.keyOf ctx question
  let (cache, found) := state.cache.get ctx.policy key m.now
  match found with
  | some hit =>
    some { result := .ok (.ofCached hit), state := { state with cache }, moment := m }
  | none =>
    (state.dispatcher.run modelDependency world.draws world.model m.now m.caller).map fun d =>
      let cache :=
        match d.result with
        | .ok r => (cache.put ctx.policy key ⟨r.content, r.model⟩ d.endsAt).1
        | .error _ => cache
      { result := (d.result.map Answer.ofResponse).mapError (Failure.ofCall modelDependency)
        state := ⟨d.dispatcher, cache⟩
        moment := ⟨d.endsAt, d.caller⟩
        events := d.events
        modelCalls := List.replicate d.calls (s.requestOf ctx question) }

/-- The tool of that name, if it belongs to the module. -/
def toolFor (s : Setup) (module name : String) : Except ToolFault Tool :=
  match s.tools.find name with
  | .ok tool => if tool.module = module then .ok tool else .error (.notFound name)
  | .error fault => .error fault

/-- What may be kept of a result; none if nothing may. -/
def recordOf (ctx : RequestContext) (metadata : ToolResult.Metadata) (result : Json.Value) :
    Option ToolResult.Record :=
  let keep (payload : Option Json.Value) : ToolResult.Record :=
    { requestId := ctx.requestId, tenant := ctx.tenant, module := ctx.module
      decision := ctx.policy.persistence, metadata, payload }
  match ctx.policy.persistence with
  | .skip => none
  | .full => some (keep (some result))
  | .redacted => some (keep (some (redact result)))
  | .metadataOnly => some (keep none)

/-- Hands a record to the store, if there are both; its failure changes nothing for the request. -/
def persist (world : World) (record : Option ToolResult.Record) (h : Handled α) :
    Option (Handled α) :=
  match world.storage, record with
  | some storage, some record =>
    (h.state.dispatcher.run storageDependency world.draws storage h.moment.now
        h.moment.caller).map fun d =>
      { h with
        state := { h.state with dispatcher := d.dispatcher }
        moment := ⟨d.endsAt, d.caller⟩
        events := h.events ++ d.events
        stored := List.replicate d.calls record }
  | _, _ => some h

/-- Runs a tool of the request's module. None stands for a dependency that never answers. -/
def runTool (s : Setup) (state : State) (world : World) (ctx : RequestContext) (name : String)
    (m : Moment) : Option (Handled Json.Value) :=
  match s.toolFor ctx.module name with
  | .error fault => some { result := .error (.tool fault), state, moment := m }
  | .ok tool =>
    match state.dispatcher.run sqlDependency world.draws world.sql m.now m.caller with
    | none => none
    | some d =>
      let handled : Handled Json.Value :=
        { result := d.result.mapError (Failure.ofCall sqlDependency)
          state := { state with dispatcher := d.dispatcher }
          moment := ⟨d.endsAt, d.caller⟩
          events := d.events
          sqlCalls := d.calls }
      match d.result with
      | .error _ => some handled
      | .ok result =>
        let metadata : ToolResult.Metadata :=
          { tool := tool.name
            procedure := tool.procedure
            byteLength := result.text.utf8ByteSize
            elapsedMs := Duration.millis (d.endsAt - m.now) % UInt64.size }
        persist world (recordOf ctx metadata result) handled

end Setup

end Chat

end ResilientChat
