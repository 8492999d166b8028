import ResilientChat.Chat.Service

/-!
A service in use: requests and interventions follow one another, and the
dependencies go on from call to call where they stopped. Each step yields the
session after it and what it did on the way.
-/

namespace ResilientChat

namespace Chat

/-- The dependencies over many requests: how they behave, and how often they were called. -/
structure Backends where
  model : Script Completion.Response
  sql : Script Json.Value
  /-- None if there is no store for tool results. -/
  storage : Option (Script Unit) := none
  draws : Nat → Nat := fun _ => 0
  modelCalls : Nat := 0
  sqlCalls : Nat := 0
  storageCalls : Nat := 0

namespace Backends

def world (b : Backends) : World where
  model := b.model.after b.modelCalls
  sql := b.sql.after b.sqlCalls
  storage := b.storage.map (·.after b.storageCalls)
  draws := b.draws

end Backends

structure Traces where
  events : List Event := []
  modelCalls : List Completion.Request := []
  /-- The procedure calls: the procedure and its arguments. -/
  sqlCalls : List (String × Json.Value) := []
  stored : List ToolResult.Record := []

def Backends.after (b : Backends) (t : Traces) : Backends :=
  { b with
    modelCalls := b.modelCalls + t.modelCalls.length
    sqlCalls := b.sqlCalls + t.sqlCalls.length
    storageCalls := b.storageCalls + t.stored.length }

/-- A service between two requests. -/
structure Session where
  setup : Setup
  state : State
  backends : Backends
  now : Instant := 0

namespace Session

variable {α : Type}

structure Step (α : Type) where
  session : Session
  result : α
  traces : Traces := {}

def finished (s : Session) (h : Handled α) (sqlCall : String × Json.Value) :
    Step (Except Failure α) :=
  let traces : Traces :=
    { events := h.events
      modelCalls := h.modelCalls
      sqlCalls := List.replicate h.sqlCalls sqlCall
      stored := h.stored }
  { session :=
      { s with state := h.state, backends := s.backends.after traces, now := h.moment.now }
    result := h.result
    traces }

/-- Answers a question. None stands for a model that never answers. -/
def answer (s : Session) (ctx : RequestContext) (question : String) (caller : Cancellation) :
    Option (Step (Except Failure Answer)) :=
  (s.setup.answer s.state s.backends.world ctx question ⟨s.now, caller⟩).map
    (s.finished · ("", .null))

/-- Runs a tool. None stands for a dependency that never answers. -/
def runTool (s : Session) (ctx : RequestContext) (name : String) (args : Json.Value)
    (caller : Cancellation) : Option (Step (Except Failure Json.Value)) :=
  let procedure := (s.setup.toolFor ctx.module name).toOption.map Tool.procedure
  (s.setup.runTool s.state s.backends.world ctx name ⟨s.now, caller⟩).map
    (s.finished · (procedure.getD "", args))

def withDispatcher (s : Session) (dispatcher : Dispatcher) : Session :=
  { s with state := { s.state with dispatcher } }

def isolate (s : Session) (name : String) : Step Breaker :=
  let (dispatcher, events) := s.state.dispatcher.isolate name s.now
  ⟨s.withDispatcher dispatcher, dispatcher.breaker name, { events }⟩

def reset (s : Session) (name : String) : Step Bool :=
  match s.state.dispatcher.reset? name s.now with
  | some (dispatcher, events) => ⟨s.withDispatcher dispatcher, true, { events }⟩
  | none => { session := s, result := false }

def invalidate (s : Session) (tenant : String) : Step Nat :=
  let (cache, removed) := s.state.cache.invalidate tenant
  { session := { s with state := { s.state with cache } }, result := removed }

def wait (s : Session) (d : Duration) : Session := { s with now := s.now + d }

end Session

end Chat

end ResilientChat
