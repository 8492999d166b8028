import ResilientChat.Chat.Session
import ResilientChat.Http.Body
import ResilientChat.Http.Failure
import ResilientChat.Http.Message

/-!
The service behind its routes. A request is routed, its parts are read, and only
then does the service act; what cannot be read is refused before that.
-/

namespace ResilientChat

namespace Http

/-- The service: what it is set up for, if it can chat, and its state. -/
structure Site where
  setup : Option Chat.Setup
  state : Chat.State
  startedAt : Instant := 0
deriving Inhabited

structure Served where
  response : Response
  site : Site
  now : Instant
  traces : Chat.Traces := {}

/-- What a request brings along that is not in its text. -/
structure Surroundings where
  now : Instant
  /-- The id that the request is given. -/
  requestId : RequestId
  backends : Chat.Backends

def isBlankText (s : String) : Bool := s.toList.all Text.isBlank

namespace Site

def serviceName : String := "bastion-gateway"

def withName {α : Type} (encoded : String) (refused : α) (act : String → α) : α :=
  match Text.percentDecode? encoded with
  | some name => act name
  | none => refused

def unchanged (s : Site) (env : Surroundings) (response : Response) : Served :=
  { response, site := s, now := env.now }

/-- A request that was not even read. -/
def refused (s : Site) (env : Surroundings) (status : Nat) (reason : String) : Served :=
  s.unchanged env ⟨status, .text reason⟩

def failed (s : Site) (env : Surroundings) (failure : Failure) : Served :=
  s.unchanged env ⟨failure.status, .json failure.body⟩

def health (s : Site) (now : Instant) : Json.Value :=
  let phases := s.state.dispatcher.registry.phases
  let degraded := phases.any fun e => e.2 ≠ .closed
  .object [("status", .string (if degraded then "degraded" else "ok")),
    ("service", .string serviceName),
    ("uptime_secs", .nat ((now - s.startedAt) / Duration.nanosPerSecond)),
    ("circuits", .object (phases.map fun e => (e.1, .string e.2.name)))]

def circuits (s : Site) : Json.Value :=
  .object [("circuits",
    .array (s.state.dispatcher.registry.views.map Breaker.View.toJson))]

def circuitBody (name : String) (phase : Breaker.Phase) : Json.Value :=
  .object [("circuit", .string name), ("state", .string phase.name)]

def withDispatcher (s : Site) (dispatcher : Dispatcher) : Site :=
  { s with state := { s.state with dispatcher } }

def isolate (s : Site) (env : Surroundings) (name : String) : Served :=
  let (dispatcher, events) := s.state.dispatcher.isolate name env.now
  { response := ⟨200, .json (circuitBody name (dispatcher.breaker name).phase)⟩
    site := s.withDispatcher dispatcher
    now := env.now
    traces := { events } }

def reset (s : Site) (env : Surroundings) (name : String) : Served :=
  match s.state.dispatcher.reset? name env.now with
  | some (dispatcher, events) =>
    { response := ⟨200, .json (circuitBody name .closed)⟩
      site := s.withDispatcher dispatcher
      now := env.now
      traces := { events } }
  | none => s.failed env (.circuitNotFound name)

/-- The context of a request whose tenant and module are not blank. -/
def contextOf (s : Site) (env : Surroundings) (scope : Scope) : Except Failure RequestContext :=
  if isBlankText scope.tenant || isBlankText scope.module then .error .blankScope
  else
    .ok { requestId := env.requestId
          tenant := scope.tenant
          module := scope.module
          policy := Policy.derive scope.signal s.state.dispatcher.settings.sensitivity
          token := [] }

def session (s : Site) (env : Surroundings) (setup : Chat.Setup) : Chat.Session :=
  { setup, state := s.state, backends := env.backends, now := env.now }

def answered {α : Type} (s : Site) (step : Chat.Session.Step (Except Chat.Failure α))
    (body : α → Json.Value) : Served where
  response :=
    match step.result with
    | .ok v => ⟨200, .json (body v)⟩
    | .error failure => ⟨(Failure.chat failure).status, .json (Failure.chat failure).body⟩
  site := { s with state := step.session.state }
  now := step.session.now
  traces := step.traces

def chat (s : Site) (env : Surroundings) (scope : Scope) (question : String) : Option Served :=
  match s.setup with
  | none => some (s.failed env .chatNotConfigured)
  | some setup =>
    if isBlankText question then some (s.failed env .blankQuestion)
    else
      match s.contextOf env scope with
      | .error failure => some (s.failed env failure)
      | .ok ctx =>
        ((s.session env setup).answer ctx question none).map fun step =>
          s.answered step fun answer =>
            .object [("request_id", .string ctx.requestId.text), ("answer", answer.toJson)]

def tool (s : Site) (env : Surroundings) (name : String) (scope : Scope) (args : Json.Value) :
    Option Served :=
  match s.setup with
  | none => some (s.failed env .chatNotConfigured)
  | some setup =>
    match s.contextOf env scope with
    | .error failure => some (s.failed env failure)
    | .ok ctx =>
      ((s.session env setup).runTool ctx name args none).map fun step =>
        s.answered step fun result =>
          .object [("request_id", .string ctx.requestId.text), ("tool", .string name),
            ("result", result)]

/-- Reads a body and acts on it; a body that cannot be read is refused. -/
def withBody {α : Type} (s : Site) (env : Surroundings) (q : Request)
    (read : String → Except BodyFault α) (act : α → Option Served) : Option Served :=
  if !(q.contentType.any isJsonType) then
    some (s.refused env 415 "the content type is not JSON")
  else
    match read q.body with
    | .ok body => act body
    | .error .notJson => some (s.refused env 400 "the body is not JSON")
    | .error .wrongShape => some (s.refused env 422 "the body has another shape")

/-- A path part that is no text when decoded. -/
def badName (s : Site) (env : Surroundings) : Served := s.refused env 400 "the path is not text"

/-- Answers a request on a route. None stands for a dependency that never answers. -/
def serveRoute (s : Site) (env : Surroundings) (q : Request) : Route → Option Served
  | .health => some (s.unchanged env ⟨200, .json (s.health env.now)⟩)
  | .circuits => some (s.unchanged env ⟨200, .json s.circuits⟩)
  | .isolate encoded =>
    withName encoded (some (s.badName env)) fun name => some (s.isolate env name)
  | .reset encoded =>
    withName encoded (some (s.badName env)) fun name => some (s.reset env name)
  | .chat => s.withBody env q readQuestion fun (scope, question) => s.chat env scope question
  | .tool encoded =>
    withName encoded (some (s.badName env)) fun name =>
      s.withBody env q readToolCall fun (scope, args) => s.tool env name scope args

def headOnly (served : Served) : Served :=
  { served with response := { served.response with content := .empty } }

/-- Answers a request; unknown paths and methods get empty answers. -/
def serve (s : Site) (env : Surroundings) (q : Request) : Option Served :=
  match Route.ofTarget? q.target with
  | none => some (s.unchanged env ⟨404, .empty⟩)
  | some route =>
    if !(route.methods.contains q.method) then some (s.unchanged env ⟨405, .empty⟩)
    else if q.method = "HEAD" then (s.serveRoute env q route).map headOnly
    else s.serveRoute env q route

end Site

end Http

end ResilientChat
