import ResilientChat.Proofs.Dispatcher.Upkeep
import ResilientChat.Proofs.Http.Refusal

/-!
The health of the service over a sequence of requests. Both views of it list the circuits whose
names were used, in the phases that decide about calls, though one reads what was published and the
other the breakers themselves. What is shown as isolated is refused until it is reset.
-/

namespace ResilientChat

open Breaker (Phase)

namespace Breaker.Registry

variable {r : Registry}

theorem Tidy.phases_eq (h : r.Tidy) :
    r.phases = r.breakers.entries.map fun e => (e.1, e.2.phase) := by
  refine List.map_congr_left fun e he => ?_
  have hpublished := h.published e.1 e.2 ((r.breakers.get?_eq_some_iff_mem).mpr he)
  rw [hpublished.publishedPhase_eq]

theorem Tidy.views_eq (h : r.Tidy) :
    r.views.map (fun view => (view.name, view.phase)) =
      r.breakers.entries.map fun e => (e.1, e.2.phase) := by
  rw [views, NameMap.values, List.map_map, List.map_map]
  refine List.map_congr_left fun e he => ?_
  have hname := h.named e.1 e.2 ((r.breakers.get?_eq_some_iff_mem).mpr he)
  exact congrArg (·, e.2.phase) hname

end Breaker.Registry

namespace Http

namespace Site

/-- The dependencies whose circuits are used for what is asked: one that is isolated, the model if a
question is not answered from the cache, the procedure of a tool, and the store if there is one and
the result of the tool may be kept. -/
inductive Uses (s : Site) (env : Surroundings) : Ask → String → Prop
  | isolated {name : String} : Uses s env (.isolate name) name
  | asked {scope : Scope} {question : String} {setup : Chat.Setup} {ctx : RequestContext}
      (hsetup : s.setup = some setup) (hquestion : isBlankText question = false)
      (hctx : s.contextOf env scope = .ok ctx)
      (hmiss : (s.state.cache.get ctx.policy (setup.keyOf ctx question) env.now).2 = none) :
      Uses s env (.chat scope question) Chat.modelDependency
  | called {name : String} {scope : Scope} {args : Json.Value} {setup : Chat.Setup}
      {ctx : RequestContext} {tool : Tool} (hsetup : s.setup = some setup)
      (hctx : s.contextOf env scope = .ok ctx) (htool : setup.toolFor ctx.module name = .ok tool) :
      Uses s env (.tool name scope args) Chat.sqlDependency
  | kept {name : String} {scope : Scope} {args : Json.Value} {setup : Chat.Setup}
      {ctx : RequestContext} {tool : Tool} {d : Dispatcher.Dispatched Json.Value}
      {result : Json.Value} (hsetup : s.setup = some setup)
      (hctx : s.contextOf env scope = .ok ctx) (htool : setup.toolFor ctx.module name = .ok tool)
      (hsql : s.state.dispatcher.run Chat.sqlDependency env.backends.world.draws
        env.backends.world.sql env.now none = some d)
      (hresult : d.result = .ok result) (hstorage : env.backends.world.storage ≠ none)
      (hpolicy : ctx.policy.persistence ≠ .skip) :
      Uses s env (.tool name scope args) Chat.storageDependency

section Uses

variable {s : Site} {env : Surroundings} {ask : Ask} {served : Served}

/-- What is refused uses no circuit. -/
theorem Refusal.not_uses {failure : Failure} (h : s.Refusal ask failure) (name : String) :
    ¬s.Uses env ask name := by
  intro huses
  cases h with
  | noChat hnone =>
      cases huses with
      | asked hsetup => cases hnone.symm.trans hsetup
  | noTools hnone =>
      cases huses with
      | called hsetup | kept hsetup => cases hnone.symm.trans hsetup
  | blankQuestion _ hblank =>
      cases huses with
      | asked _ hquestion => cases hblank.symm.trans hquestion
  | blankAsker _ _ hblank =>
      cases huses with
      | asked _ _ hctx => exact (of_contextOf hctx).1 hblank
  | blankCaller _ hblank =>
      cases huses with
      | called _ hctx | kept _ hctx => exact (of_contextOf hctx).1 hblank
  | unknownTool hsome _ hother =>
      cases huses with
      | called hsetup hctx htool | kept hsetup hctx htool =>
          cases hsome.symm.trans hsetup
          obtain ⟨hget, hmodule⟩ := Chat.Setup.toolFor_eq_ok_iff.mp htool
          exact hother _ hget (hmodule.trans (of_contextOf hctx).2)
  | unknownCircuit => cases huses

theorem uses_chat_iff {scope : Scope} {question name : String} {setup : Chat.Setup}
    {ctx : RequestContext} (hsetup : s.setup = some setup)
    (hquestion : isBlankText question = false) (hctx : s.contextOf env scope = .ok ctx) :
    s.Uses env (.chat scope question) name ↔ name = Chat.modelDependency ∧
      (s.state.cache.get ctx.policy (setup.keyOf ctx question) env.now).2 = none := by
  constructor
  · intro huses
    cases huses with
    | asked hsetup' _ hctx' hmiss =>
        cases hsetup.symm.trans hsetup'
        cases hctx.symm.trans hctx'
        exact ⟨rfl, hmiss⟩
  · rintro ⟨rfl, hmiss⟩
    exact .asked hsetup hquestion hctx hmiss

theorem uses_tool_iff {name used : String} {scope : Scope} {args : Json.Value}
    {setup : Chat.Setup} {ctx : RequestContext} {tool : Tool}
    {d : Dispatcher.Dispatched Json.Value} (hsetup : s.setup = some setup)
    (hctx : s.contextOf env scope = .ok ctx) (htool : setup.toolFor ctx.module name = .ok tool)
    (hsql : s.state.dispatcher.run Chat.sqlDependency env.backends.world.draws
      env.backends.world.sql env.now none = some d) :
    s.Uses env (.tool name scope args) used ↔ used = Chat.sqlDependency ∨
      used = Chat.storageDependency ∧ (∃ result, d.result = .ok result) ∧
        env.backends.world.storage ≠ none ∧ ctx.policy.persistence ≠ .skip := by
  constructor
  · intro huses
    cases huses with
    | called => exact .inl rfl
    | kept _ hctx' _ hsql' hresult hstorage hpolicy =>
        cases hctx.symm.trans hctx'
        cases hsql.symm.trans hsql'
        exact .inr ⟨rfl, ⟨_, hresult⟩, hstorage, hpolicy⟩
  · rintro (rfl | ⟨rfl, ⟨result, hresult⟩, hstorage, hpolicy⟩)
    · exact .called hsetup hctx htool
    · exact .kept hsetup hctx htool hsql hresult hstorage hpolicy

theorem recordOf_eq_none_iff {ctx : RequestContext} {metadata : ToolResult.Metadata}
    {result : Json.Value} :
    Chat.Setup.recordOf ctx metadata result = none ↔ ctx.policy.persistence = .skip := by
  rw [Chat.Setup.recordOf]
  cases ctx.policy.persistence <;> simp

/-- What is asked changes the circuits of the names that it uses and resets. -/
theorem Acting.evolves (h : s.Acting env ask served) (htidy : s.state.dispatcher.registry.Tidy) :
    s.state.dispatcher.Evolves (s.Uses env ask) (ask = .reset ·) served.site.state.dispatcher := by
  have hself := Dispatcher.evolves_self htidy
  cases h with
  | refused hrefusal =>
      exact hself.congr (fun name => (iff_false_intro (hrefusal.not_uses name)).symm)
        fun _ => False.elim
  | @isolated name =>
      refine (Dispatcher.evolves_isolate htidy name env.now).congr (fun key => ⟨?_, ?_⟩)
        fun _ => False.elim
      · rintro rfl
        exact .isolated
      · rintro ⟨⟩
        rfl
  | @reset name b hget =>
      obtain ⟨⟨d, events⟩, hreset⟩ : ∃ r, s.state.dispatcher.reset? name env.now = some r := by
        rw [Dispatcher.reset?, Breaker.Registry.reset?, hget]
        exact ⟨_, rfl⟩
      have hevolves := Dispatcher.evolves_reset htidy hreset
      simp only [Site.reset, hreset]
      refine hevolves.congr (fun key => iff_of_false id ?_) fun key hkey => congrArg _ hkey.symm
      rintro ⟨⟩
  | asked hsetup hquestion hctx hanswer =>
      have huses (name : String) : s.Uses env _ name ↔ _ :=
        uses_chat_iff hsetup hquestion hctx
      cases hanswer with
      | found hget =>
          refine hself.congr (fun name => ?_) fun _ => False.elim
          rw [huses, hget]
          simp
      | obtained hget hrun | failed hget hrun =>
          refine (Dispatcher.evolves_run htidy hrun).congr (fun name => ?_) fun _ => False.elim
          rw [huses, hget]
          exact (and_iff_left rfl).symm
  | ran hsetup hctx htool hrun =>
      cases hrun with
      | unknown hunknown => cases htool.symm.trans hunknown
      | failed _ hsql hresult =>
          refine (Dispatcher.evolves_run htidy hsql).congr (fun name => ?_) fun _ => False.elim
          rw [uses_tool_iff hsetup hctx htool hsql, hresult]
          simp
      | unkept _ hsql hresult hnone =>
          refine (Dispatcher.evolves_run htidy hsql).congr (fun name => ?_) fun _ => False.elim
          rw [uses_tool_iff hsetup hctx htool hsql]
          rw [recordOf_eq_none_iff] at hnone
          refine ⟨.inl, fun hused => hused.resolve_right ?_⟩
          rintro ⟨-, -, hstorage, hpolicy⟩
          exact hnone.elim hstorage hpolicy
      | stored _ hsql hresult hstorage hrecord hsave =>
          -- Two calls in a row: the procedure's, and that of the store for its result.
          have hfirst := Dispatcher.evolves_run htidy hsql
          refine (hfirst.trans (Dispatcher.evolves_run hfirst.tidy hsave)).congr (fun name => ?_)
            (by simp)
          rw [uses_tool_iff hsetup hctx htool hsql]
          have hpolicy := mt recordOf_eq_none_iff.mpr (hrecord ▸ Option.some_ne_none _)
          have hstore : env.backends.world.storage ≠ none := hstorage ▸ Option.some_ne_none _
          exact or_congr_right (and_iff_left ⟨⟨_, hresult⟩, hstore, hpolicy⟩).symm

end Uses

end Site

inductive Act where
  | request (requestId : RequestId) (q : Request)
  | wait (d : Duration)

def Act.Resets (name : String) : Act → Prop
  | .request _ q => q.ask? = some (.reset name)
  | .wait _ => False

namespace Session

/-- A service that has not been used, whether it chats or not. -/
def fresh (settings : Settings) (setup : Option Chat.Setup) (backends : Chat.Backends)
    (startedAt : Instant) : Session where
  site := { setup, state := .ofSettings settings, startedAt }
  backends := backends
  now := startedAt

/-- None stands for a dependency that never answers. -/
def perform (s : Session) : Act → Option Session
  | .request requestId q => (s.serve requestId q).map Step.session
  | .wait d => some (s.wait d)

def run (s : Session) : List Act → Option Session
  | [] => some s
  | act :: later => (s.perform act).bind (·.run later)

def Uses (s : Session) (name : String) : Act → Prop
  | .request requestId q =>
    ∃ ask, q.ask? = some ask ∧ s.site.Uses (s.surroundings requestId) ask name
  | .wait _ => False

/-- The names whose circuits are ever used when one thing happens after the other. -/
def EverUses (s : Session) (name : String) : List Act → Prop
  | [] => False
  | act :: later => s.Uses name act ∨ ∃ s', s.perform act = some s' ∧ s'.EverUses name later

def dispatcher (s : Session) : Dispatcher := s.site.state.dispatcher

variable {s s' : Session} {act : Act} {acts : List Act}

theorem evolves_perform (h : s.perform act = some s') (htidy : s.dispatcher.registry.Tidy) :
    s.dispatcher.Evolves (s.Uses · act) (act.Resets ·) s'.dispatcher := by
  cases act with
  | wait d =>
      cases h
      exact Dispatcher.evolves_self htidy
  | request requestId q =>
      obtain ⟨step, hserve, rfl⟩ := Option.map_eq_some_iff.mp h
      cases hask : q.ask? with
      | none =>
          obtain ⟨response, hnone, -⟩ := s.serve_of_ask?_eq_none requestId hask
          cases hnone.symm.trans hserve
          exact (Dispatcher.evolves_self htidy).congr (fun name => by simp [Uses, hask])
            fun _ => False.elim
      | some ask =>
          obtain ⟨served, hact, rfl⟩ := Option.map_eq_some_iff.mp hserve
          rw [Site.serve_of_ask? _ _ hask] at hact
          have hevolves := (Site.acting_of_act hact).evolves htidy
          refine hevolves.congr (fun name => ?_) fun name hreset => ?_
          · simp [Uses, hask, surroundings]
          · rw [Act.Resets, hask, hreset]

theorem evolves_run (h : s.run acts = some s') (htidy : s.dispatcher.registry.Tidy) :
    s.dispatcher.Evolves (s.EverUses · acts) (fun name => ∃ act ∈ acts, act.Resets name)
      s'.dispatcher := by
  induction acts generalizing s with
  | nil =>
      cases h
      exact (Dispatcher.evolves_self htidy).congr (fun _ => Iff.rfl) fun _ => False.elim
  | cons act later ih =>
      obtain ⟨middle, hact, hlater⟩ := Option.bind_eq_some_iff.mp h
      have hfirst := evolves_perform hact htidy
      refine (hfirst.trans (ih hlater hfirst.tidy)).congr (fun name => ?_) fun name => ?_
      · simp [EverUses, hact]
      · rintro (hreset | ⟨act', hmem, hreset⟩)
        · exact ⟨act, List.mem_cons_self, hreset⟩
        · exact ⟨act', List.mem_cons_of_mem act hmem, hreset⟩

def shown (s : Session) : List (String × Phase) :=
  s.dispatcher.registry.breakers.entries.map fun e => (e.1, e.2.phase)

theorem mem_shown {name : String} {phase : Phase} :
    (name, phase) ∈ s.shown ↔ ∃ b, s.dispatcher.registry.get? name = some b ∧ b.phase = phase := by
  rw [shown, List.mem_map]
  constructor
  · rintro ⟨⟨key, b⟩, hmem, heq⟩
    cases heq
    exact ⟨b, (NameMap.get?_eq_some_iff_mem _).mpr hmem, rfl⟩
  · rintro ⟨b, hget, rfl⟩
    exact ⟨(name, b), (NameMap.get?_eq_some_iff_mem _).mp hget, rfl⟩

end Session

def stateByName? (member : String × Json.Value) : Option (String × String) :=
  member.2.string?.map (member.1, ·)

def stateOfView? (view : Json.Value) : Option (String × String) := do
  return (← (← view.member? "name").string?, ← (← view.member? "state").string?)

/-- The circuits that a response lists with their states, by name or one after the other. -/
def Response.circuits? (r : Response) : Option (List (String × String)) :=
  match r.content with
  | .json body =>
    (body.member? "circuits").bind fun
      | .object members => members.mapM stateByName?
      | .array views => views.mapM stateOfView?
      | _ => none
  | .empty | .text _ => none

def Response.overall? (r : Response) : Option String :=
  match r.content with
  | .json body => (body.member? "status").bind Json.Value.string?
  | .empty | .text _ => none

theorem mapM_map_eq_some {α β γ : Type} (write : α → β) {read : β → Option γ} (f : α → γ)
    (h : ∀ a, read (write a) = some (f a)) (l : List α) :
    (l.map write).mapM read = some (l.map f) := by
  induction l with
  | nil => rfl
  | cons a l ih => simp [List.mapM_cons, h, ih]

section Looks

variable {s : Session} {q : Request}

theorem serve_health (hmethod : q.method = "GET") (hroute : Route.ofTarget? q.target = some .health)
    (requestId : RequestId) :
    s.serve requestId q = some ⟨s, ⟨200, .json (s.site.health s.now)⟩, {}⟩ := by
  apply s.serve_of_unchanged
  simp [Site.serve, hroute, hmethod, Route.methods, Site.serveRoute, Session.surroundings]

theorem serve_circuits (hmethod : q.method = "GET")
    (hroute : Route.ofTarget? q.target = some .circuits) (requestId : RequestId) :
    s.serve requestId q = some ⟨s, ⟨200, .json s.site.circuits⟩, {}⟩ := by
  apply s.serve_of_unchanged
  simp [Site.serve, hroute, hmethod, Route.methods, Site.serveRoute]

theorem circuits?_health (htidy : s.dispatcher.registry.Tidy) :
    (Response.mk 200 (.json (s.site.health s.now))).circuits? =
      some (s.shown.map fun e => (e.1, e.2.name)) := by
  have hread (e : String × Phase) :
      stateByName? (e.1, .string e.2.name) = some (e.1, e.2.name) := rfl
  have hphases : s.dispatcher.registry.phases = s.shown := htidy.phases_eq
  rw [← hphases]
  exact mapM_map_eq_some (fun e : String × Phase => (e.1, Json.Value.string e.2.name)) _ hread _

theorem circuits?_circuits (htidy : s.dispatcher.registry.Tidy) :
    (Response.mk 200 (.json s.site.circuits)).circuits? =
      some (s.shown.map fun e => (e.1, e.2.name)) := by
  have hread (view : Breaker.View) :
      stateOfView? view.toJson = some (view.name, view.phase.name) := rfl
  have hviews : s.dispatcher.registry.views.map (fun view => (view.name, view.phase)) = s.shown :=
    htidy.views_eq
  rw [← hviews, List.map_map]
  exact mapM_map_eq_some Breaker.View.toJson _ hread _

theorem overall?_health (htidy : s.dispatcher.registry.Tidy) :
    (Response.mk 200 (.json (s.site.health s.now))).overall? =
      some (if ∃ e ∈ s.shown, e.2 ≠ .closed then "degraded" else "ok") := by
  have hphases : s.dispatcher.registry.phases = s.shown := htidy.phases_eq
  have hoverall : (Response.mk 200 (.json (s.site.health s.now))).overall? =
      some (if s.dispatcher.registry.phases.any fun e => e.2 ≠ .closed then "degraded" else "ok") :=
    rfl
  rw [hoverall, hphases]
  simp only [List.any_eq_true, decide_eq_true_eq]

end Looks

/-- The views of the health of the service agree with each other and with what the circuits do, for
every run of requests and waits of a service that starts unused. (1) A look at its health lists the
circuits in the phases that the breakers are in, and says that the service is degraded if one of
them is not closed, and only then. (2) A look at the circuits lists the same ones in the same
states, and (3) in strictly ascending order of their names. (4) The circuits are those whose names
were ever used: isolated by an operator, or called for what was asked. (5) Whatever happens to a
circuit that is shown as isolated, it is so until it is reset, and a call of its dependency never
reaches it, whoever makes it and whenever: the call is refused, or told that it was given up if its
caller had done so. -/
theorem health_agrees_with_circuits (settings : Settings) (setup : Option Chat.Setup)
    (backends : Chat.Backends) (startedAt : Instant) (acts : List Act) (s : Session)
    (hrun : (Session.fresh settings setup backends startedAt).run acts = some s) :
    (∀ requestId q, q.method = "GET" → Route.ofTarget? q.target = some .health →
      ∃ r, s.serve requestId q = some ⟨s, r, {}⟩ ∧ r.status = 200 ∧
        r.circuits? = some (s.shown.map fun e => (e.1, e.2.name)) ∧
        r.overall? = some (if ∃ e ∈ s.shown, e.2 ≠ .closed then "degraded" else "ok")) ∧
    (∀ requestId q, q.method = "GET" → Route.ofTarget? q.target = some .circuits →
      ∃ r, s.serve requestId q = some ⟨s, r, {}⟩ ∧ r.status = 200 ∧
        r.circuits? = some (s.shown.map fun e => (e.1, e.2.name))) ∧
    (∀ name phase, (name, phase) ∈ s.shown ↔
      ∃ b, s.dispatcher.registry.get? name = some b ∧ b.phase = phase) ∧
    (s.shown.map Prod.fst).Pairwise (· < ·) ∧
    (∀ name, name ∈ s.shown.map Prod.fst ↔
      (Session.fresh settings setup backends startedAt).EverUses name acts) ∧
    ∀ name, (name, .isolated) ∈ s.shown → ∀ later s', s.run later = some s' →
      (∀ act ∈ later, ¬act.Resets name) →
      (name, .isolated) ∈ s'.shown ∧
        ∀ {α : Type} (draws : Nat → Nat) (script : Script α) (now : Instant)
          (caller : Cancellation),
          ∃ done, s'.dispatcher.run name draws script now caller = some done ∧ done.calls = 0 ∧
            done.result =
              .error (if caller.isDue now = true then .cancelled else .refused name .isolated) := by
  have hevolves := Session.evolves_run hrun (Dispatcher.tidy_ofSettings settings)
  have htidy := hevolves.tidy
  refine ⟨fun requestId q hmethod hroute => ?_, fun requestId q hmethod hroute => ?_,
    fun name phase => Session.mem_shown, ?_, fun name => ?_, ?_⟩
  · exact ⟨_, serve_health hmethod hroute requestId, rfl, circuits?_health htidy,
      overall?_health htidy⟩
  · exact ⟨_, serve_circuits hmethod hroute requestId, rfl, circuits?_circuits htidy⟩
  · rw [Session.shown, List.map_map, List.pairwise_map]
    exact s.dispatcher.registry.breakers.ascending
  · have hlisted : name ∈ s.shown.map Prod.fst ↔ s.dispatcher.Lists name := by
      simp [Session.mem_shown, Dispatcher.Lists, Option.isSome_iff_exists]
    -- An unused service has no circuits, so those that are there were all used since.
    have hunused : ¬(Dispatcher.ofSettings settings).Lists name := Bool.false_ne_true
    rw [hlisted, hevolves.lists]
    exact or_iff_right hunused
  · intro name hshown later s' hlater hfree
    have hafter := Session.evolves_run hlater htidy
    have hisolated : s'.dispatcher.Isolates name := by
      refine hafter.isolates name ?_ (Session.mem_shown.mp hshown)
      rintro ⟨act, hmem, hreset⟩
      exact hfree act hmem hreset
    exact ⟨Session.mem_shown.mpr hisolated, Dispatcher.run_of_isolates hafter.tidy hisolated⟩

def isolateSql : Request where
  method := "POST"
  target := "/admin/circuits/sql/isolate"

theorem isolated_procedures_shown_and_refused :
    ∃ s, (Session.fresh {} none shop.backends 0).run
        [.request default isolateSql, .wait (.ofSeconds 60)] = some s ∧
      ("sql", Phase.isolated) ∈ s.shown ∧
      ∃ done, s.dispatcher.run "sql" (fun _ => 0) shop.backends.sql s.now none = some done ∧
        done.calls = 0 ∧ done.result = .error (.refused "sql" .isolated) := by
  let unused := Session.fresh {} none shop.backends 0
  have hroute : Route.ofTarget? isolateSql.target = some (.isolate "sql") := by decide +kernel
  have hname : Text.percentDecode? "sql" = some "sql" := by decide +kernel
  have hask : isolateSql.ask? = some (.isolate "sql") := by
    rw [Request.ask?_of_post rfl hroute, Request.askOn?, hname, Option.map_some]
  obtain ⟨s, hrun, hshown⟩ : ∃ s, unused.run [.request default isolateSql, .wait (.ofSeconds 60)] =
      some s ∧ ("sql", Phase.isolated) ∈ s.shown := by
    rw [Session.run, Session.perform, Session.serve, Site.serve_of_ask? _ _ hask]
    exact ⟨_, rfl, List.mem_singleton_self _⟩
  obtain ⟨-, -, -, -, -, hstays⟩ :=
    health_agrees_with_circuits {} none shop.backends 0 _ s hrun
  obtain ⟨-, hrefused⟩ := hstays "sql" hshown [] s rfl (List.forall_mem_nil _)
  obtain ⟨done, hdone, hcalls, hresult⟩ := hrefused (fun _ => 0) shop.backends.sql s.now none
  exact ⟨s, hrun, hshown, done, hdone, hcalls, hresult⟩

end Http

end ResilientChat
