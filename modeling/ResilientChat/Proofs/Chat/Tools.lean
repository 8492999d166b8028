import ResilientChat.Chat.Session
import ResilientChat.Proofs.Chat.Answer
import ResilientChat.Proofs.Chat.Running
import ResilientChat.Proofs.Tool.Registration

/-!
The tools that the model is offered are those that can be run. Both are the tools of the request's
module, although the names to offer are picked out of all tools and the tool to run is looked up
first and then checked.
-/

namespace ResilientChat

namespace Chat

theorem Failure.ofCall_ne_tool (name : String) (failure : CallFailure Fault) (fault : ToolFault) :
    Failure.ofCall name failure ≠ .tool fault := by
  cases failure <;> exact nofun

namespace Setup

variable {s : Setup} {tools : List Tool} {module name : String}

/-- What is offered and what is found are the same tools. -/
theorem mem_offered_iff (h : s.tools.Holds tools) :
    name ∈ s.tools.offered module ↔ ∃ t, s.toolFor module name = .ok t := by
  rw [h.mem_offered]
  refine exists_congr fun t => ?_
  rw [toolFor_eq_ok_iff, h name t, and_assoc]

end Setup

namespace Session

variable {s : Session} {ctx : RequestContext} {name : String}

/-- Every request that the model is sent offers these tools, and it is sent at least one unless the
cache has an answer or the call is not let through. -/
def Offers (s : Session) (names : List String) (ctx : RequestContext) (question : String)
    (caller : Cancellation) (step : Step (Except Failure Answer)) : Prop :=
  (∀ r ∈ step.traces.modelCalls, r.tools = names) ∧
    (step.traces.modelCalls ≠ [] ↔
      (s.state.cache.get ctx.policy (s.setup.keyOf ctx question) s.now).2 = none ∧
        s.state.dispatcher.LetsThrough modelDependency s.now caller)

theorem offers_of_answer {question : String} {caller : Cancellation}
    {step : Step (Except Failure Answer)} (hstep : s.answer ctx question caller = some step) :
    s.Offers (s.setup.tools.offered ctx.module) ctx question caller step := by
  obtain ⟨h, hanswer, rfl⟩ := Option.map_eq_some_iff.mp hstep
  have hanswering := Setup.answering_of_answer hanswer
  refine ⟨fun r hmem => ?_, hanswering.modelCalls_ne_nil_iff⟩
  rw [hanswering.eq_requestOf hmem]
  rfl

theorem exists_answer (hreturns : s.backends.world.model.Returns) (ctx : RequestContext)
    (question : String) (caller : Cancellation) :
    ∃ step, s.answer ctx question caller = some step := by
  obtain ⟨h, hanswer⟩ := s.setup.exists_answer hreturns s.state ctx question ⟨s.now, caller⟩
  exact ⟨_, congrArg (Option.map _) hanswer⟩

theorem exists_runTool (hreturns : s.backends.world.sql.Returns)
    (hstorage : ∀ storage, s.backends.world.storage = some storage → storage.Returns)
    (ctx : RequestContext) (name : String) (args : Json.Value) (caller : Cancellation) :
    ∃ step, s.runTool ctx name args caller = some step := by
  obtain ⟨h, hrun⟩ :=
    s.setup.exists_runTool hreturns hstorage s.state ctx name ⟨s.now, caller⟩
  exact ⟨_, congrArg (Option.map _) hrun⟩

/-- The request is a call of that tool's procedure: it gives what the call gives, and every attempt
is one at this procedure, with these arguments. -/
def CallsFor (s : Session) (t : Tool) (args : Json.Value) (caller : Cancellation)
    (step : Step (Except Failure Json.Value)) : Prop :=
  ∃ d, s.state.dispatcher.run sqlDependency s.backends.world.draws s.backends.world.sql s.now
      caller = some d ∧
    step.result = d.result.mapError (.ofCall sqlDependency) ∧
    step.traces.sqlCalls = List.replicate d.calls (t.procedure, args)

theorem runTool_of_error {fault : ToolFault}
    (htool : s.setup.toolFor ctx.module name = .error fault) (args : Json.Value)
    (caller : Cancellation) :
    s.runTool ctx name args caller = some { session := s, result := .error (.tool fault) } := by
  simp only [runTool, Setup.runTool, htool, Option.map_some]
  rfl

theorem callsFor_of_runTool {t : Tool} {args : Json.Value} {caller : Cancellation}
    {step : Step (Except Failure Json.Value)}
    (htool : s.setup.toolFor ctx.module name = .ok t)
    (hstep : s.runTool ctx name args caller = some step) : s.CallsFor t args caller step := by
  simp only [runTool, htool] at hstep
  obtain ⟨h, hrun, rfl⟩ := Option.map_eq_some_iff.mp hstep
  cases Setup.running_of_runTool hrun with
  | unknown hunknown => cases htool.symm.trans hunknown
  | failed _ hsql hresult | unkept _ hsql hresult | stored _ hsql hresult =>
      exact ⟨_, hsql, by rw [hresult]; rfl, rfl⟩

theorem CallsFor.result_ne {t : Tool} {args : Json.Value} {caller : Cancellation}
    {step : Step (Except Failure Json.Value)} (h : s.CallsFor t args caller step)
    (fault : ToolFault) : step.result ≠ .error (.tool fault) := by
  obtain ⟨d, -, hresult, -⟩ := h
  rw [hresult]
  cases d.result with
  | ok value => exact nofun
  | error failure => exact fun heq => Failure.ofCall_ne_tool _ _ _ (Except.error.inj heq)

/-- The procedure is called exactly if the call is let through. -/
theorem CallsFor.sqlCalls_ne_nil_iff {t : Tool} {args : Json.Value} {caller : Cancellation}
    {step : Step (Except Failure Json.Value)} (h : s.CallsFor t args caller step) :
    step.traces.sqlCalls ≠ [] ↔ s.state.dispatcher.LetsThrough sqlDependency s.now caller := by
  obtain ⟨d, hsql, -, htraces⟩ := h
  rw [htraces, ← Dispatcher.calls_pos_iff_of_run hsql]
  simp [Nat.pos_iff_ne_zero]

/-- A name that is not offered is refused as unknown, and no other name is. -/
theorem not_mem_offered_iff {tools : List Tool} (h : s.setup.tools.Holds tools) (args : Json.Value)
    (caller : Cancellation) :
    name ∉ s.setup.tools.offered ctx.module ↔
      s.runTool ctx name args caller =
        some { session := s, result := .error (.tool (.notFound name)) } := by
  rw [Setup.mem_offered_iff h]
  cases htool : s.setup.toolFor ctx.module name with
  | error fault =>
      obtain ⟨rfl, -⟩ := Setup.toolFor_eq_error_iff.mp htool
      exact iff_of_true (fun ⟨t, ht⟩ => nomatch ht) (runTool_of_error htool args caller)
  | ok t =>
      refine iff_of_false (fun hnone => hnone ⟨t, rfl⟩) fun hstep => ?_
      exact (callsFor_of_runTool htool hstep).result_ne _ rfl

end Session

/-- The tools that the model is offered are those that can be run. The tools of all modules come
together if no two have the same name, and otherwise the first name that comes again is reported.
Once they are together, the order in which they came no longer shows, of the modules or within them,
and under each name there is the one tool that was registered with it. Whatever the service is asked
for a module, the model is offered the names of the module's tools, in ascending order and each
once: every request that it is sent names these, and unless the cache has an answer or the call is
not let through, it is sent one. A run of any other name does nothing but report it as unknown. A
run of one of these names does not, and is a call of the procedure of the module's tool of that
name, and of no other, which reaches the procedure if it is let through. Both come to their end
where the calls of the dependencies do. -/
theorem offered_tools_are_runnable (modules : List (List Tool)) :
    let tools := modules.flatten
    ((∃ box, Toolbox.ofModules modules = .ok box) ↔ (tools.map Tool.name).Nodup) ∧
      (∀ fault, Toolbox.ofModules modules = .error fault ↔
        ∃ name, FirstRepeated tools name ∧ fault = .duplicate name) ∧
      ∀ box, Toolbox.ofModules modules = .ok box →
        (∀ modules', modules'.flatten.Perm tools → Toolbox.ofModules modules' = .ok box) ∧
        (∀ name t, box.find name = .ok t ↔ t ∈ tools ∧ t.name = name) ∧
        ∀ s : Session, s.setup.tools = box → ∀ ctx : RequestContext,
          (box.offered ctx.module).Pairwise (· < ·) ∧
          (∀ question caller,
            (s.backends.world.model.Returns → ∃ step, s.answer ctx question caller = some step) ∧
            ∀ step, s.answer ctx question caller = some step →
              s.Offers (box.offered ctx.module) ctx question caller step) ∧
          ∀ name args caller,
            (name ∈ box.offered ctx.module ↔
              ∃ t ∈ tools, t.name = name ∧ t.module = ctx.module) ∧
            (name ∉ box.offered ctx.module ↔
              s.runTool ctx name args caller =
                some { session := s, result := .error (.tool (.notFound name)) }) ∧
            ∀ t ∈ tools, t.name = name → t.module = ctx.module →
              (s.backends.world.sql.Returns →
                (∀ storage, s.backends.world.storage = some storage → storage.Returns) →
                ∃ step, s.runTool ctx name args caller = some step) ∧
              ∀ step, s.runTool ctx name args caller = some step →
                s.CallsFor t args caller step ∧
                  (step.traces.sqlCalls ≠ [] ↔
                    s.state.dispatcher.LetsThrough sqlDependency s.now caller) := by
  intro tools
  refine ⟨Toolbox.exists_ofModules_iff, fun _ => Toolbox.ofModules_eq_error_iff, fun box hbox => ?_⟩
  have hholds : box.Holds tools := Toolbox.holds_of_ofModules hbox
  refine ⟨fun _ => Toolbox.ofModules_of_perm hbox,
    fun name t => Toolbox.find_eq_ok_iff.trans (hholds name t), ?_⟩
  rintro s rfl ctx
  refine ⟨hholds.pairwise_offered ctx.module,
    fun question caller => ⟨fun hreturns => Session.exists_answer hreturns ctx question caller,
      fun step => Session.offers_of_answer⟩,
    fun name args caller => ⟨hholds.mem_offered, Session.not_mem_offered_iff hholds args caller,
      fun t hmem hname hmodule => ⟨fun hreturns hstorage =>
        Session.exists_runTool hreturns hstorage ctx name args caller, fun step hstep => ?_⟩⟩⟩
  have hget := (hholds name t).mpr ⟨hmem, hname⟩
  have hcalls := Session.callsFor_of_runTool (Setup.toolFor_eq_ok_iff.mpr ⟨hget, hmodule⟩) hstep
  exact ⟨hcalls, hcalls.sqlCalls_ne_nil_iff⟩

/-- Sales brings two tools and staff one. -/
def twoModules : List (List Tool) :=
  [[{ name := "top", module := "sales", procedure := "sp_top" },
      { name := "revenue", module := "sales", procedure := "sp_revenue" }],
    [{ name := "leave", module := "staff", procedure := "sp_leave" }]]

/-- A service with these tools, whose model and procedures answer at once. -/
def promptSession (tools : Toolbox) : Session where
  setup := { tools }
  state := .ofSettings {}
  backends :=
    { model := fun _ => { result := .ok { model := "default", content := "yes" } }
      sql := fun _ => { result := .ok .null } }

theorem sales_runs_what_it_is_offered :
    let ctx : RequestContext :=
      { requestId := default, tenant := "acme", module := "sales", token := [] }
    ∃ box, Toolbox.ofModules twoModules = .ok box ∧
      Toolbox.ofModules twoModules.reverse = .ok box ∧ box.offered "sales" = ["revenue", "top"] ∧
      (∃ step, (promptSession box).answer ctx "why" none = some step ∧
        step.traces.modelCalls ≠ [] ∧
        ∀ r ∈ step.traces.modelCalls, r.tools = ["revenue", "top"]) ∧
      (promptSession box).runTool ctx "leave" .null none =
        some { session := promptSession box, result := .error (.tool (.notFound "leave")) } ∧
      ∃ step, (promptSession box).runTool ctx "top" .null none = some step ∧
        step.traces.sqlCalls = [("sp_top", .null)] := by
  intro ctx
  have hnodup : (twoModules.flatten.map Tool.name).Nodup := by decide
  have hoffers : (Toolbox.ofModules twoModules).toOption.any
      (·.offered "sales" = ["revenue", "top"]) = true := by
    decide +kernel
  have hcalls : ((Dispatcher.ofSettings {}).run sqlDependency (fun _ => 0)
      (fun _ => { result := .ok Json.Value.null }) 0 none).any (·.calls = 1) = true := by
    decide +kernel
  obtain ⟨htogether, -, hall⟩ := offered_tools_are_runnable twoModules
  obtain ⟨box, hbox⟩ := htogether.mpr hnodup
  obtain ⟨horder, -, hserves⟩ := hall box hbox
  obtain ⟨-, hasks, hruns⟩ := hserves (promptSession box) rfl ctx
  rw [hbox] at hoffers
  have hoffered : box.offered "sales" = ["revenue", "top"] := of_decide_eq_true hoffers
  obtain ⟨hanswers, hoffer⟩ := hasks "why" none
  obtain ⟨-, hunknown, -⟩ := hruns "leave" .null none
  obtain ⟨-, -, hknown⟩ := hruns "top" .null none
  have hleave : "leave" ∉ box.offered "sales" := by
    rw [hoffered]
    decide
  have htop : { name := "top", module := "sales", procedure := "sp_top" } ∈ twoModules.flatten := by
    decide
  obtain ⟨asked, hasked⟩ := hanswers fun _ _ => Option.some_ne_none _
  obtain ⟨htools, hsends⟩ := hoffer asked hasked
  -- Nothing has been asked before: the cache is empty and the circuit of the model is closed.
  have hsent : asked.traces.modelCalls ≠ [] :=
    hsends.mpr ⟨AnswerGate.get_ofTuning .., Dispatcher.letsThrough_ofSettings ..⟩
  obtain ⟨hruns, hcalled⟩ := hknown _ htop rfl rfl
  obtain ⟨ran, hran⟩ := hruns (fun _ _ => Option.some_ne_none _) fun _ hsome =>
    absurd hsome.symm (Option.some_ne_none _)
  obtain ⟨⟨d, hsql, -, htraces⟩, -⟩ := hcalled ran hran
  obtain ⟨d', hsql', hd'⟩ := (Option.any_eq_true _ _).mp hcalls
  obtain rfl := Option.some.inj (hsql.symm.trans hsql')
  refine ⟨box, hbox, horder _ (List.reverse_perm _).flatten, hoffered,
    ⟨asked, hasked, hsent, fun r hmem => ?_⟩, hunknown.mp hleave, ran, hran, ?_⟩
  · rw [htools r hmem]
    exact hoffered
  · rw [htraces, of_decide_eq_true hd']
    rfl

end Chat

end ResilientChat
