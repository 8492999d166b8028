import ResilientChat.Proofs.Http.Refusal

/-!
What the status of an answer tells of the dependency behind it. The circuit refuses the call, or the
answers of the dependency decide what comes of it; the failure of the call, that of the chat service
and that of the service say the same in other words, and the status and the code can be read back to
what happened.
-/

namespace ResilientChat

namespace Dispatcher

variable {α : Type} {d : Dispatcher} {name : String} {draws : Nat → Nat} {script : Script α}
  {now : Instant} {done : Dispatched α}

/-- A call is refused by its circuit, or comes to what the answers of its dependency say. -/
theorem comes_of_run (h : d.run name draws script now none = some done)
    (hkeeps : script.KeepsCaller) :
    ((d.breaker name).circuit.Refuses (d.breaker name).limits now ∧ done.calls = 0 ∧
        ∃ circuit phase, done.result = .error (.refused circuit phase)) ∨
      ¬(d.breaker name).circuit.Refuses (d.breaker name).limits now ∧
        Comes script (d.backoffFor name).totalAttempts done.calls done.result := by
  obtain ⟨g, hpassage, rfl⟩ := passage_of_run h
  cases hpassage with
  | givenUp hdue => cases hdue
  | refused _ hrefuses => exact .inl ⟨hrefuses, rfl, _, _, rfl⟩
  | passed _ hentry _ hcall => exact .inr ⟨hentry.not_refuses, Backoff.run_comes hcall hkeeps⟩

end Dispatcher

namespace Http

def Response.Fails (r : Response) (status : Nat) (code : String) : Prop :=
  r.status = status ∧ r.errorCode? = some code

def Response.ofResult {α : Type} (name : String) (body : α → Json.Value) :
    Except (CallFailure Fault) α → Response
  | .ok v => ⟨200, .json (body v)⟩
  | .error failure =>
    ⟨(Failure.chat (.ofCall name failure)).status, .json (Failure.chat (.ofCall name failure)).body⟩

/-- What a response tells of the dependency that was called for it, which answers by `script`. -/
structure Tells {α : Type} (d : Dispatcher) (name : String) (now : Instant) (script : Script α)
    (body : α → Json.Value) (calls : Nat) (r : Response) : Prop where
  refused : r.Fails 503 "CIRCUIT_OPEN" ↔
    (d.breaker name).circuit.Refuses (d.breaker name).limits now ∧ calls = 0
  exhausted : r.Fails 503 "DEPENDENCY_UNAVAILABLE" ↔
    calls = (d.backoffFor name).totalAttempts ∧ ∀ i < calls, (script i).IsRetryable
  failed : r.Fails 502 "DEPENDENCY_FAILED" ↔
    ∃ fault n, calls = n + 1 ∧ (∀ i < n, (script i).IsRetryable) ∧
      (script n).result = .error fault ∧ fault.isRetryable = false ∧ fault ≠ .cancelled
  cancelled : r.status = 408 ↔ ∃ n, calls = n + 1 ∧ (script n).result = .error .cancelled
  answered : r.status = 200 ↔ ∃ v n, calls = n + 1 ∧ (script n).result = .ok v
  /-- An answer carries the last value. -/
  value : ∀ v n, calls = n + 1 → (script n).result = .ok v → r = ⟨200, .json (body v)⟩
  /-- There is no other response. -/
  only : r.status = 200 ∨ r.Fails 408 "REQUEST_CANCELLED" ∨ r.Fails 502 "DEPENDENCY_FAILED" ∨
    r.Fails 503 "CIRCUIT_OPEN" ∨ r.Fails 503 "DEPENDENCY_UNAVAILABLE"

section Result

variable {α : Type} (name : String) (body : α → Json.Value)
  (result : Except (CallFailure Fault) α)

theorem ofResult_error (failure : CallFailure Fault) (status : Nat) (code : String) :
    (Response.ofResult name body (.error failure)).Fails status code ↔
      (Failure.chat (.ofCall name failure)).status = status ∧
        (Failure.chat (.ofCall name failure)).code = code := by
  rw [Response.Fails, Response.ofResult, errorCode?_body, Option.some.injEq]

theorem ofResult_ok (v : α) {status : Nat} (hstatus : status ≠ 200) (code : String) :
    ¬(Response.ofResult name body (.ok v)).Fails status code :=
  fun hfails => hstatus hfails.1.symm

theorem ofResult_refused_iff :
    (Response.ofResult name body result).Fails 503 "CIRCUIT_OPEN" ↔
      ∃ circuit phase, result = .error (.refused circuit phase) := by
  rcases result with failure | v
  · rw [ofResult_error]
    cases failure <;> simp [Chat.Failure.ofCall, Failure.status, Failure.code]
  · simp [ofResult_ok]

theorem ofResult_exhausted_iff :
    (Response.ofResult name body result).Fails 503 "DEPENDENCY_UNAVAILABLE" ↔
      ∃ attempts elapsed fault, result = .error (.exhausted attempts elapsed fault) := by
  rcases result with failure | v
  · rw [ofResult_error]
    cases failure <;> simp [Chat.Failure.ofCall, Failure.status, Failure.code]
  · simp [ofResult_ok]

theorem ofResult_failed_iff :
    (Response.ofResult name body result).Fails 502 "DEPENDENCY_FAILED" ↔
      ∃ fault, result = .error (.fault fault) := by
  rcases result with failure | v
  · rw [ofResult_error]
    cases failure <;> simp [Chat.Failure.ofCall, Failure.status, Failure.code]
  · simp [ofResult_ok]

theorem ofResult_cancelled_iff :
    (Response.ofResult name body result).status = 408 ↔ result = .error .cancelled := by
  rcases result with failure | v
  · cases failure <;> simp [Response.ofResult, Chat.Failure.ofCall, Failure.status]
  · simp [Response.ofResult]

theorem ofResult_answered_iff :
    (Response.ofResult name body result).status = 200 ↔ ∃ v, result = .ok v := by
  rcases result with failure | v
  · cases failure <;> simp [Response.ofResult, Chat.Failure.ofCall, Failure.status]
  · simp [Response.ofResult]

theorem ofResult_only :
    let r := Response.ofResult name body result
    r.status = 200 ∨ r.Fails 408 "REQUEST_CANCELLED" ∨ r.Fails 502 "DEPENDENCY_FAILED" ∨
      r.Fails 503 "CIRCUIT_OPEN" ∨ r.Fails 503 "DEPENDENCY_UNAVAILABLE" := by
  rcases result with failure | v
  · simp only [ofResult_error]
    cases failure <;> simp [Chat.Failure.ofCall, Failure.status, Failure.code]
  · exact .inl rfl

end Result

/-- A response made of the result of a call tells what happened to its dependency. -/
theorem tells_of_run {α : Type} {d : Dispatcher} {name : String} {draws : Nat → Nat}
    {script : Script α} {now : Instant} {done : Dispatcher.Dispatched α}
    (h : d.run name draws script now none = some done) (hkeeps : script.KeepsCaller)
    (body : α → Json.Value) :
    Tells d name now script body done.calls (.ofResult name body done.result) := by
  rcases Dispatcher.comes_of_run h hkeeps with
    ⟨hrefuses, hcalls, circuit, phase, hresult⟩ | ⟨hpasses, hcomes⟩
  · -- A refused call has no last answer, which is what all but the first clause speak of.
    have hnone {n : Nat} : done.calls ≠ n + 1 := by
      rw [hcalls]
      exact nofun
    have hpos := (d.backoffFor name).totalAttempts_pos
    refine ⟨?_, ?_, ?_, ?_, ?_, ?_, ofResult_only ..⟩
    · rw [ofResult_refused_iff]
      exact iff_of_true ⟨circuit, phase, hresult⟩ ⟨hrefuses, hcalls⟩
    · rw [ofResult_exhausted_iff, hresult]
      refine iff_of_false nofun fun hexhausted => ?_
      rw [← hexhausted.1, hcalls] at hpos
      cases hpos
    · rw [ofResult_failed_iff, hresult]
      exact iff_of_false nofun fun ⟨_, n, hsome, _⟩ => hnone hsome
    · rw [ofResult_cancelled_iff, hresult]
      exact iff_of_false nofun fun ⟨n, hsome, _⟩ => hnone hsome
    · rw [ofResult_answered_iff, hresult]
      exact iff_of_false nofun fun ⟨_, n, hsome, _⟩ => hnone hsome
    · exact fun v n hsome => absurd hsome hnone
  · -- The circuit let the call through, so each clause reads one way to end off the answers.
    refine ⟨?_, ?_, ?_, ?_, ?_, ?_, ofResult_only ..⟩
    · rw [ofResult_refused_iff]
      refine iff_of_false ?_ fun hrefused => hpasses hrefused.1
      rintro ⟨circuit, phase, hresult⟩
      exact hcomes.not_refused circuit phase hresult
    · rw [ofResult_exhausted_iff]
      exact hcomes.exhausted_iff
    · rw [ofResult_failed_iff]
      exact exists_congr hcomes.fault_iff
    · rw [ofResult_cancelled_iff]
      exact hcomes.cancelled_iff
    · rw [ofResult_answered_iff]
      exact exists_congr hcomes.ok_iff
    · intro v n hcalls hok
      rw [(hcomes.ok_iff v).mpr ⟨n, hcalls, hok⟩]
      rfl

namespace Session

variable {s : Session} {requestId : RequestId} {q : Request} {setup : Chat.Setup}
  {scope : Scope} {ctx : RequestContext}

theorem serve_chat {question : String} (hask : q.ask? = some (.chat scope question))
    (hsetup : s.site.setup = some setup) (hquestion : isBlankText question = false)
    (hctx : s.site.contextOf (s.surroundings requestId) scope = .ok ctx)
    {h : Chat.Handled Chat.Answer}
    (hanswer : setup.answer s.site.state s.backends.world ctx question ⟨s.now, none⟩ = some h) :
    ∃ step, s.serve requestId q = some step ∧
      step.traces.modelCalls = h.modelCalls ∧
      step.response =
        (s.site.answered (((s.site.session (s.surroundings requestId) setup).finished h
          ("", .null))) (answerBody ctx)).response := by
  have hserve : s.site.serve (s.surroundings requestId) q = some _ :=
    (s.site.serve_of_ask? _ hask).trans
      ((Site.chat_eq hsetup hquestion hctx).trans (congrArg (Option.map _) hanswer))
  exact ⟨_, congrArg (Option.map _) hserve, rfl, rfl⟩

theorem serve_tool {name : String} {args : Json.Value} {tool : Tool}
    (hask : q.ask? = some (.tool name scope args)) (hsetup : s.site.setup = some setup)
    (hctx : s.site.contextOf (s.surroundings requestId) scope = .ok ctx)
    (htool : setup.toolFor ctx.module name = .ok tool) {h : Chat.Handled Json.Value}
    (hrun : setup.runTool s.site.state s.backends.world ctx name ⟨s.now, none⟩ = some h) :
    ∃ step, s.serve requestId q = some step ∧
      step.traces.sqlCalls.length = h.sqlCalls ∧
      step.response =
        (s.site.answered (((s.site.session (s.surroundings requestId) setup).finished h
          (tool.procedure, args))) (resultBody ctx name)).response := by
  have hserve : s.site.serve (s.surroundings requestId) q = some _ :=
    (s.site.serve_of_ask? _ hask).trans
      ((Site.tool_eq hsetup hctx htool).trans (congrArg (Option.map _) hrun))
  exact ⟨_, congrArg (Option.map _) hserve, List.length_replicate, rfl⟩

end Session

/-- The status tells what happened to the dependency, in every state of a service that chats and
whatever the dependencies answer, as long as their calls end and they cancel no caller's token.
(1) A question that is not answered from the cache is answered for what the model did: refused by
the circuit, after no call; exhausted, after all attempts, each with a fault that was worth another;
failed, with the first fault that was not; given up by the model; or with the value of the last
attempt. (2) So is a call of a tool of the request's module, for what the procedure did, whatever
becomes of the record of its result. -/
theorem status_tells_of_dependency (s : Session) (requestId : RequestId) (q : Request)
    (setup : Chat.Setup) (scope : Scope) (ctx : RequestContext)
    (hsetup : s.site.setup = some setup)
    (hctx : s.site.contextOf (s.surroundings requestId) scope = .ok ctx) :
    (∀ question, q.ask? = some (.chat scope question) → isBlankText question = false →
      (s.site.state.cache.get ctx.policy (setup.keyOf ctx question) s.now).2 = none →
      s.backends.world.model.Returns → s.backends.world.model.KeepsCaller →
      ∃ step, s.serve requestId q = some step ∧
        Tells s.site.state.dispatcher Chat.modelDependency s.now s.backends.world.model
          (fun r => answerBody ctx (.ofResponse r)) step.traces.modelCalls.length step.response) ∧
    ∀ name args tool, q.ask? = some (.tool name scope args) →
      setup.tools.tools.get? name = some tool → tool.module = scope.module →
      s.backends.world.sql.Returns → s.backends.world.sql.KeepsCaller →
      (∀ storage, s.backends.world.storage = some storage → storage.Returns) →
      ∃ step, s.serve requestId q = some step ∧
        Tells s.site.state.dispatcher Chat.sqlDependency s.now s.backends.world.sql
          (resultBody ctx name) step.traces.sqlCalls.length step.response := by
  constructor
  · intro question hask hquestion hmiss hreturns hkeeps
    obtain ⟨h, hanswer⟩ := setup.exists_answer hreturns s.site.state ctx question ⟨s.now, none⟩
    obtain ⟨step, hserve, hcalls, hresponse⟩ :=
      Session.serve_chat hask hsetup hquestion hctx hanswer
    refine ⟨step, hserve, ?_⟩
    rw [hcalls, hresponse]
    cases Chat.Setup.answering_of_answer hanswer with
    | found hget =>
        rw [hget] at hmiss
        cases hmiss
    | obtained _ hrun hresult | failed _ hrun hresult =>
        have htells := tells_of_run hrun hkeeps fun r => answerBody ctx (.ofResponse r)
        rw [hresult] at htells
        rw [List.length_replicate]
        exact htells
  · intro name args tool hask hget hmodule hreturns hkeeps hstorage
    have htool : setup.toolFor ctx.module name = .ok tool :=
      Chat.Setup.toolFor_eq_ok_iff.mpr ⟨hget, hmodule.trans (Site.of_contextOf hctx).2.symm⟩
    obtain ⟨h, hrun⟩ :=
      setup.exists_runTool hreturns hstorage s.site.state ctx name ⟨s.now, none⟩
    obtain ⟨step, hserve, hcalls, hresponse⟩ := Session.serve_tool hask hsetup hctx htool hrun
    refine ⟨step, hserve, ?_⟩
    rw [hcalls, hresponse]
    cases Chat.Setup.running_of_runTool hrun with
    | unknown hunknown => cases htool.symm.trans hunknown
    | failed _ hsql hresult | unkept _ hsql hresult | stored _ hsql hresult =>
        have htells := tells_of_run hsql hkeeps (resultBody ctx name)
        rwa [hresult] at htells

def openQuestion : Request where
  method := "POST"
  target := "/v1/chat"
  contentType := some "application/json"
  body := "\x7b\"tenant\":\"acme\",\"module\":\"sales\",\"question\":\"why\"\x7d"

theorem status_of_open_question :
    ∃ step, shop.serve default openQuestion = some step ∧ step.response.status = 200 ∧
      ∃ n, step.traces.modelCalls.length = n + 1 := by
  let scope : Scope := { tenant := "acme", module := "sales" }
  have hroute : Route.ofTarget? openQuestion.target = some .chat := by decide +kernel
  have hbody : openQuestion.body? readQuestion = some (scope, "why") := by decide +kernel
  have hask : openQuestion.ask? = some (.chat scope "why") := by
    rw [Request.ask?_of_post rfl hroute, Request.askOn?, hbody, Option.map_some]
  have hscope : ¬scope.IsBlank := by
    rw [Scope.IsBlank]
    decide +kernel
  obtain ⟨ctx, hctx, -⟩ :=
    Site.contextOf_of_not_isBlank shop.site (shop.surroundings default) hscope
  have hmiss (key : AnswerKey) : (shop.site.state.cache.get ctx.policy key shop.now).2 = none :=
    AnswerGate.get_ofTuning ..
  have hok (n : Nat) : (shop.backends.world.model n).result =
      .ok { model := "default", content := "yes" } := rfl
  have hclosed : ¬(shop.site.state.dispatcher.breaker Chat.modelDependency).circuit.Refuses
      (shop.site.state.dispatcher.breaker Chat.modelDependency).limits shop.now :=
    (Dispatcher.letsThrough_ofSettings {} Chat.modelDependency shop.now).2
  obtain ⟨hchat, -⟩ :=
    status_tells_of_dependency shop default openQuestion _ scope ctx rfl hctx
  obtain ⟨step, hserve, htells⟩ := hchat "why" hask (by decide +kernel) (hmiss _)
    (fun _ _ => Option.some_ne_none _) fun _ => rfl
  have hstatus : step.response.status = 200 := by
    rcases htells.only with hstatus | hcancelled | hfailed | hrefused | hexhausted
    · exact hstatus
    · obtain ⟨n, -, hreply⟩ := htells.cancelled.mp hcancelled.1
      cases (hok n).symm.trans hreply
    · obtain ⟨fault, n, -, -, hreply, -⟩ := htells.failed.mp hfailed
      cases (hok n).symm.trans hreply
    · exact absurd (htells.refused.mp hrefused).1 hclosed
    · obtain ⟨hall, hfaults⟩ := htells.exhausted.mp hexhausted
      have hpos :=
        Backoff.totalAttempts_pos (shop.site.state.dispatcher.backoffFor Chat.modelDependency)
      obtain ⟨fault, hreply, -⟩ := hfaults 0 (hall ▸ hpos)
      cases (hok 0).symm.trans hreply
  obtain ⟨-, n, hcalls, -⟩ := htells.answered.mp hstatus
  exact ⟨step, hserve, hstatus, n, hcalls⟩

end Http

end ResilientChat
