import ResilientChat.Proofs.Chat.Answer
import ResilientChat.Proofs.Chat.Running
import ResilientChat.Proofs.Http.Asking

/-!
What the service refuses to do. Each refusal has its reason in what is asked and in what the service
is set up for, and is made before anything is called or written. So a request that is answered with
the code of a refusal has left no trace, and neither has a look at the health of the service.
-/

namespace ResilientChat

namespace Http

def Scope.IsBlank (scope : Scope) : Prop :=
  isBlankText scope.tenant = true ∨ isBlankText scope.module = true

def answerBody (ctx : RequestContext) (answer : Chat.Answer) : Json.Value :=
  .object [("request_id", .string ctx.requestId.text), ("answer", answer.toJson)]

def resultBody (ctx : RequestContext) (name : String) (result : Json.Value) : Json.Value :=
  .object [("request_id", .string ctx.requestId.text), ("tool", .string name), ("result", result)]

namespace Site

/-- Why the service refuses to do what it is asked, and what it answers instead. -/
inductive Refusal (s : Site) : Ask → Failure → Prop
  | noChat {scope : Scope} {question : String} (hsetup : s.setup = none) :
      Refusal s (.chat scope question) .chatNotConfigured
  | noTools {name : String} {scope : Scope} {args : Json.Value} (hsetup : s.setup = none) :
      Refusal s (.tool name scope args) .chatNotConfigured
  | blankQuestion {scope : Scope} {question : String} (hsetup : s.setup.isSome)
      (hblank : isBlankText question = true) : Refusal s (.chat scope question) .blankQuestion
  | blankAsker {scope : Scope} {question : String} (hsetup : s.setup.isSome)
      (hquestion : isBlankText question = false) (hblank : scope.IsBlank) :
      Refusal s (.chat scope question) .blankScope
  | blankCaller {name : String} {scope : Scope} {args : Json.Value} (hsetup : s.setup.isSome)
      (hblank : scope.IsBlank) : Refusal s (.tool name scope args) .blankScope
  /-- The tool is not there, or belongs to another module. -/
  | unknownTool {name : String} {scope : Scope} {args : Json.Value} {setup : Chat.Setup}
      (hsetup : s.setup = some setup) (hscope : ¬scope.IsBlank)
      (htool : ∀ tool, setup.tools.tools.get? name = some tool → tool.module ≠ scope.module) :
      Refusal s (.tool name scope args) (.chat (.tool (.notFound name)))
  | unknownCircuit {name : String} (hget : s.state.dispatcher.registry.get? name = none) :
      Refusal s (.reset name) (.circuitNotFound name)

inductive Acting (s : Site) (env : Surroundings) : Ask → Served → Prop
  | refused {ask : Ask} {failure : Failure} (h : s.Refusal ask failure) :
      Acting s env ask (s.failed env failure)
  | isolated {name : String} : Acting s env (.isolate name) (s.isolate env name)
  | reset {name : String} {b : Breaker}
      (hget : s.state.dispatcher.registry.get? name = some b) :
      Acting s env (.reset name) (s.reset env name)
  | asked {scope : Scope} {question : String} {setup : Chat.Setup} {ctx : RequestContext}
      {h : Chat.Handled Chat.Answer} (hsetup : s.setup = some setup)
      (hquestion : isBlankText question = false) (hctx : s.contextOf env scope = .ok ctx)
      (hanswer : setup.Answering s.state env.backends.world ctx question ⟨env.now, none⟩ h) :
      Acting s env (.chat scope question)
        (s.answered ((s.session env setup).finished h ("", .null)) (answerBody ctx))
  | ran {name : String} {scope : Scope} {args : Json.Value} {setup : Chat.Setup}
      {ctx : RequestContext} {tool : Tool} {h : Chat.Handled Json.Value}
      (hsetup : s.setup = some setup) (hctx : s.contextOf env scope = .ok ctx)
      (htool : setup.toolFor ctx.module name = .ok tool)
      (hrun : setup.Running s.state env.backends.world ctx name ⟨env.now, none⟩ h) :
      Acting s env (.tool name scope args)
        (s.answered ((s.session env setup).finished h (tool.procedure, args))
          (resultBody ctx name))

section Act

variable {s : Site} {env : Surroundings} {ask : Ask} {served : Served}

theorem contextOf_of_isBlank {scope : Scope} (h : scope.IsBlank) :
    s.contextOf env scope = .error .blankScope :=
  if_pos (Bool.or_eq_true_iff.mpr h)

theorem contextOf_of_not_isBlank (s : Site) (env : Surroundings) {scope : Scope}
    (h : ¬scope.IsBlank) :
    ∃ ctx, s.contextOf env scope = .ok ctx ∧ ctx.module = scope.module :=
  ⟨_, if_neg (mt Bool.or_eq_true_iff.mp h), rfl⟩

/-- A known tenant and module make a context, with that module. -/
theorem of_contextOf {scope : Scope} {ctx : RequestContext}
    (h : s.contextOf env scope = .ok ctx) : ¬scope.IsBlank ∧ ctx.module = scope.module := by
  by_cases hblank : scope.IsBlank
  · rw [contextOf_of_isBlank hblank] at h
    cases h
  · obtain ⟨ctx', hctx', hmodule⟩ := contextOf_of_not_isBlank s env hblank
    cases hctx'.symm.trans h
    exact ⟨hblank, hmodule⟩

theorem isBlank_of_contextOf {scope : Scope} {failure : Failure}
    (h : s.contextOf env scope = .error failure) : scope.IsBlank ∧ failure = .blankScope := by
  by_cases hblank : scope.IsBlank
  · rw [contextOf_of_isBlank hblank] at h
    cases h
    exact ⟨hblank, rfl⟩
  · obtain ⟨ctx, hctx, -⟩ := contextOf_of_not_isBlank s env hblank
    cases hctx.symm.trans h

/-- A question of a service that chats is answered as the chat service answers it. -/
theorem chat_eq {scope : Scope} {question : String} {setup : Chat.Setup} {ctx : RequestContext}
    (hsetup : s.setup = some setup) (hquestion : isBlankText question = false)
    (hctx : s.contextOf env scope = .ok ctx) :
    s.chat env scope question =
      (setup.answer s.state env.backends.world ctx question ⟨env.now, none⟩).map fun h =>
        s.answered ((s.session env setup).finished h ("", .null)) (answerBody ctx) := by
  simp only [chat, hsetup, hquestion, hctx, Chat.Session.answer, Option.map_map, Bool.false_eq_true,
    if_false]
  rfl

theorem tool_eq {name : String} {scope : Scope} {args : Json.Value} {setup : Chat.Setup}
    {ctx : RequestContext} {tool : Tool} (hsetup : s.setup = some setup)
    (hctx : s.contextOf env scope = .ok ctx) (htool : setup.toolFor ctx.module name = .ok tool) :
    s.tool env name scope args =
      (setup.runTool s.state env.backends.world ctx name ⟨env.now, none⟩).map fun h =>
        s.answered ((s.session env setup).finished h (tool.procedure, args))
          (resultBody ctx name) := by
  have hprocedure : ((s.session env setup).setup.toolFor ctx.module name).toOption.map
      Tool.procedure = some tool.procedure := by
    rw [show (s.session env setup).setup = setup from rfl, htool]
    rfl
  simp only [Site.tool, hsetup, hctx, Chat.Session.runTool, hprocedure, Option.getD_some,
    Option.map_map]
  rfl

/-- A refusal is made whatever the dependencies do. -/
theorem act_of_refusal {failure : Failure} (h : s.Refusal ask failure) :
    s.act env ask = some (s.failed env failure) := by
  cases h with
  | noChat hsetup => simp only [act, chat, hsetup]
  | noTools hsetup => simp only [act, tool, hsetup]
  | blankQuestion hsetup hblank =>
      obtain ⟨setup, hsetup⟩ := Option.isSome_iff_exists.mp hsetup
      simp only [act, chat, hsetup, hblank, if_true]
  | blankAsker hsetup hquestion hblank =>
      obtain ⟨setup, hsetup⟩ := Option.isSome_iff_exists.mp hsetup
      simp only [act, chat, hsetup, hquestion, contextOf_of_isBlank hblank, Bool.false_eq_true,
        if_false]
  | blankCaller hsetup hblank =>
      obtain ⟨setup, hsetup⟩ := Option.isSome_iff_exists.mp hsetup
      simp only [act, tool, hsetup, contextOf_of_isBlank hblank]
  | @unknownTool name scope args setup hsetup hscope htool =>
      obtain ⟨ctx, hctx, hmodule⟩ := contextOf_of_not_isBlank s env hscope
      have hfind : setup.toolFor ctx.module name = .error (.notFound name) :=
        Chat.Setup.toolFor_eq_error_iff.mpr ⟨rfl, hmodule ▸ htool⟩
      have hrun : setup.runTool s.state env.backends.world ctx name ⟨env.now, none⟩ =
          some { result := .error (.tool (.notFound name)), state := s.state,
                 moment := ⟨env.now, none⟩ } := by
        rw [Chat.Setup.runTool, hfind]
      simp only [act, tool, hsetup, hctx, Chat.Session.runTool, session, hrun, Option.map_some]
      rfl
  | unknownCircuit hget =>
      simp only [act, reset, Dispatcher.reset?, Breaker.Registry.reset?, hget, Option.map_none]

/-- Whatever the service is asked, it refuses or does it. -/
theorem acting_of_act (h : s.act env ask = some served) : s.Acting env ask served := by
  -- The cases follow the checks in the order in which they are made; the first that fails refuses.
  cases ask with
  | isolate name =>
      cases h
      exact .isolated
  | reset name =>
      cases hget : s.state.dispatcher.registry.get? name with
      | none =>
          have hact : s.act env (.reset name) = some (s.failed env (.circuitNotFound name)) :=
            act_of_refusal (.unknownCircuit hget)
          cases hact.symm.trans h
          exact .refused (.unknownCircuit hget)
      | some b =>
          cases h
          exact .reset hget
  | chat scope question =>
      cases hsetup : s.setup with
      | none =>
          cases (act_of_refusal (.noChat hsetup)).symm.trans h
          exact .refused (.noChat hsetup)
      | some setup =>
          have hsome : s.setup.isSome := by rw [hsetup]; rfl
          cases hquestion : isBlankText question with
          | true =>
              cases (act_of_refusal (.blankQuestion hsome hquestion)).symm.trans h
              exact .refused (.blankQuestion hsome hquestion)
          | false =>
              cases hctx : s.contextOf env scope with
              | error failure =>
                  have hblank := (isBlank_of_contextOf hctx).1
                  cases (act_of_refusal (.blankAsker hsome hquestion hblank)).symm.trans h
                  exact .refused (.blankAsker hsome hquestion hblank)
              | ok ctx =>
                  rw [act, chat_eq hsetup hquestion hctx] at h
                  obtain ⟨handled, hanswer, rfl⟩ := Option.map_eq_some_iff.mp h
                  exact .asked hsetup hquestion hctx (Chat.Setup.answering_of_answer hanswer)
  | tool name scope args =>
      cases hsetup : s.setup with
      | none =>
          cases (act_of_refusal (.noTools hsetup)).symm.trans h
          exact .refused (.noTools hsetup)
      | some setup =>
          have hsome : s.setup.isSome := by rw [hsetup]; rfl
          cases hctx : s.contextOf env scope with
          | error failure =>
              have hblank := (isBlank_of_contextOf hctx).1
              cases (act_of_refusal (.blankCaller hsome hblank)).symm.trans h
              exact .refused (.blankCaller hsome hblank)
          | ok ctx =>
              obtain ⟨hscope, hmodule⟩ := of_contextOf hctx
              cases htool : setup.toolFor ctx.module name with
              | error fault =>
                  obtain ⟨-, hother⟩ := Chat.Setup.toolFor_eq_error_iff.mp htool
                  have hrefusal : s.Refusal (.tool name scope args) _ :=
                    .unknownTool hsetup hscope (hmodule ▸ hother)
                  cases (act_of_refusal hrefusal).symm.trans h
                  exact .refused hrefusal
              | ok tool =>
                  rw [act, tool_eq hsetup hctx htool] at h
                  obtain ⟨handled, hrun, rfl⟩ := Option.map_eq_some_iff.mp h
                  exact .ran hsetup hctx htool (Chat.Setup.running_of_runTool hrun)

end Act

end Site

/-- The codes of what is refused before the service acts. -/
def refusalCodes : List String :=
  ["CHAT_NOT_CONFIGURED", "INVALID_REQUEST", "TOOL_NOT_FOUND", "CIRCUIT_NOT_FOUND"]

namespace Site

variable {s : Site} {env : Surroundings} {ask : Ask} {served : Served}

theorem Refusal.code_mem {failure : Failure} (h : s.Refusal ask failure) :
    failure.code ∈ refusalCodes := by
  cases h <;>
    simp [Failure.code, Failure.blankQuestion, Failure.blankScope, refusalCodes]

/-- The failure of a call has a code of its own. -/
theorem code_ofCall_not_mem (dependency : String) (failure : CallFailure Fault) :
    (Failure.chat (.ofCall dependency failure)).code ∉ refusalCodes := by
  cases failure <;> simp [Failure.code, Chat.Failure.ofCall, refusalCodes]

/-- Only a refusal has the code of one. -/
theorem Acting.refusal_of_code (h : s.Acting env ask served) {code : String}
    (hmem : code ∈ refusalCodes) (hcode : served.response.errorCode? = some code) :
    ∃ failure, s.Refusal ask failure ∧ served = s.failed env failure := by
  cases h with
  | refused h => exact ⟨_, h, rfl⟩
  | isolated => cases (errorCode?_object 200 (by simp)).symm.trans hcode
  | reset hget =>
      simp only [Site.reset, Dispatcher.reset?, Breaker.Registry.reset?, hget,
        Option.map_some] at hcode
      cases (errorCode?_object 200 (by simp)).symm.trans hcode
  | asked _ _ _ hanswer =>
      cases hanswer with
      | found | obtained =>
          cases (errorCode?_object 200 (by simp)).symm.trans hcode
      | failed =>
          cases (errorCode?_body _ _).symm.trans hcode
          exact absurd hmem (code_ofCall_not_mem _ _)
  | ran _ _ htool hrun =>
      cases hrun with
      | unknown hunknown => cases htool.symm.trans hunknown
      | failed =>
          cases (errorCode?_body _ _).symm.trans hcode
          exact absurd hmem (code_ofCall_not_mem _ _)
      | unkept | stored =>
          cases (errorCode?_object 200 (by simp)).symm.trans hcode

end Site

namespace Session

def surroundings (s : Session) (requestId : RequestId) : Surroundings :=
  ⟨s.now, requestId, s.backends⟩

variable (s : Session) (requestId : RequestId) {q : Request}

/-- A request that is answered without a change leaves the whole session as it is. -/
theorem serve_of_unchanged {response : Response}
    (h : s.site.serve (s.surroundings requestId) q =
      some (s.site.unchanged (s.surroundings requestId) response)) :
    s.serve requestId q = some ⟨s, response, {}⟩ := by
  rw [serve]
  exact congrArg (Option.map _) h

theorem serve_of_refusal {ask : Ask} {failure : Failure} (hask : q.ask? = some ask)
    (h : s.site.Refusal ask failure) :
    s.serve requestId q = some ⟨s, ⟨failure.status, .json failure.body⟩, {}⟩ := by
  apply serve_of_unchanged
  rw [Site.serve_of_ask? _ _ hask, Site.act_of_refusal h]
  rfl

/-- A request that asks for nothing leaves the whole session as it is. -/
theorem serve_of_ask?_eq_none (h : q.ask? = none) :
    ∃ response, s.serve requestId q = some ⟨s, response, {}⟩ ∧ response.errorCode? = none := by
  obtain ⟨response, hserve, hcode⟩ := s.site.serve_of_ask?_eq_none (s.surroundings requestId) h
  exact ⟨response, s.serve_of_unchanged requestId hserve, hcode⟩

end Session

def Request.LooksAtHealth (q : Request) : Prop :=
  Route.ofTarget? q.target = some .health ∨ Route.ofTarget? q.target = some .circuits

theorem Request.LooksAtHealth.ask?_eq_none {q : Request} (h : q.LooksAtHealth) : q.ask? = none := by
  rw [Request.ask?]
  rcases h with hroute | hroute
  · simp [hroute, Request.askOn?]
  · simp [hroute, Request.askOn?]

/-- What is refused leaves no trace, in any state of the service. (1) The code of a refusal is
answered exactly to a request that the service has a reason to refuse, and (2) such a request is
answered, with the failure of that reason, whatever the dependencies do. (3) It leaves the whole
session as it was: every circuit with its counters, the cache with its counters, the clock and the
number of calls of every dependency; no event is recorded, no dependency is called and nothing is
stored. (4) The same holds of every look at the health of the service, which is always answered. -/
theorem refusals_leave_no_trace (s : Session) (requestId : RequestId) (q : Request) :
    (∀ step, s.serve requestId q = some step →
      ((∃ code ∈ refusalCodes, step.response.errorCode? = some code) ↔
        ∃ ask failure, q.ask? = some ask ∧ s.site.Refusal ask failure)) ∧
    (∀ ask failure, q.ask? = some ask → s.site.Refusal ask failure →
      s.serve requestId q = some ⟨s, ⟨failure.status, .json failure.body⟩, {}⟩) ∧
    (∀ step code, s.serve requestId q = some step → code ∈ refusalCodes →
      step.response.errorCode? = some code → step.session = s ∧ step.traces = {}) ∧
    (q.LooksAtHealth → ∃ response, s.serve requestId q = some ⟨s, response, {}⟩) := by
  have hrefused : ∀ step code, s.serve requestId q = some step → code ∈ refusalCodes →
      step.response.errorCode? = some code →
      ∃ ask failure, q.ask? = some ask ∧ s.site.Refusal ask failure := by
    intro step code hserve hmem hcode
    cases hask : q.ask? with
    | none =>
        obtain ⟨response, hnone, hnocode⟩ := s.serve_of_ask?_eq_none requestId hask
        cases hnone.symm.trans hserve
        cases hnocode.symm.trans hcode
    | some ask =>
        obtain ⟨served, hact, rfl⟩ := Option.map_eq_some_iff.mp hserve
        rw [Site.serve_of_ask? _ _ hask] at hact
        obtain ⟨failure, hrefusal, -⟩ := (Site.acting_of_act hact).refusal_of_code hmem hcode
        exact ⟨ask, failure, rfl, hrefusal⟩
  refine ⟨fun step hserve => ⟨?_, ?_⟩, ?_, ?_, ?_⟩
  · rintro ⟨code, hmem, hcode⟩
    exact hrefused step code hserve hmem hcode
  · rintro ⟨ask, failure, hask, hrefusal⟩
    cases (s.serve_of_refusal requestId hask hrefusal).symm.trans hserve
    exact ⟨failure.code, hrefusal.code_mem, errorCode?_body _ _⟩
  · exact fun ask failure hask hrefusal => s.serve_of_refusal requestId hask hrefusal
  · intro step code hserve hmem hcode
    obtain ⟨ask, failure, hask, hrefusal⟩ := hrefused step code hserve hmem hcode
    cases (s.serve_of_refusal requestId hask hrefusal).symm.trans hserve
    exact ⟨rfl, rfl⟩
  · intro hlook
    obtain ⟨response, hserve, -⟩ := s.serve_of_ask?_eq_none requestId hlook.ask?_eq_none
    exact ⟨response, hserve⟩

/-- A service with one tool, which belongs to sales. Its model and its procedure answer at once. -/
def shop : Session where
  site :=
    { setup :=
        some
          { tools :=
              ⟨(∅ : NameMap Tool).insert "report"
                { name := "report", module := "sales", procedure := "sales.report" }⟩ }
      state := .ofSettings {} }
  backends :=
    { model := fun _ => { result := .ok { model := "default", content := "yes" } }
      sql := fun _ => { result := .ok .null } }

def blankQuestion : Request where
  method := "POST"
  target := "/v1/chat"
  contentType := some "application/json"
  body := "\x7b\"tenant\":\"acme\",\"module\":\"sales\",\"question\":\" \"\x7d"

theorem blank_question_leaves_no_trace :
    ∃ step, shop.serve default blankQuestion = some step ∧
      step.response.errorCode? = some "INVALID_REQUEST" ∧ step.session = shop ∧
      step.traces = {} := by
  have hroute : Route.ofTarget? blankQuestion.target = some .chat := by decide +kernel
  have hbody : blankQuestion.body? readQuestion =
      some ({ tenant := "acme", module := "sales" }, " ") := by decide +kernel
  have hask : blankQuestion.ask? =
      some (.chat { tenant := "acme", module := "sales" } " ") := by
    rw [Request.ask?_of_post rfl hroute, Request.askOn?, hbody, Option.map_some]
  obtain ⟨-, hrefused, htrace, -⟩ := refusals_leave_no_trace shop default blankQuestion
  have hserve := hrefused _ _ hask (.blankQuestion rfl (by decide +kernel))
  have hcode := errorCode?_body Failure.blankQuestion.status .blankQuestion
  exact ⟨_, hserve, hcode, htrace _ _ hserve (by decide) hcode⟩

end Http

end ResilientChat
