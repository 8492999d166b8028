import ResilientChat.Chat.Service
import ResilientChat.Proofs.Dispatcher.Call

/-!
How a tool is run. The tool may be unknown, its procedure may fail, its result may not be kept, or
a record of it is handed to the store.
-/

namespace ResilientChat

namespace Chat

namespace Setup

section Tools

variable {s : Setup} {module name : String}

theorem toolFor_eq_ok_iff {tool : Tool} :
    s.toolFor module name = .ok tool ↔
      s.tools.tools.get? name = some tool ∧ tool.module = module := by
  rw [toolFor, Toolbox.find]
  cases s.tools.tools.get? name with
  | none => simp
  | some found =>
      by_cases hmodule : found.module = module
      · simp only [hmodule, if_true, Except.ok.injEq, Option.some.injEq]
        exact ⟨fun hsame => ⟨hsame, hsame ▸ hmodule⟩, And.left⟩
      · simp only [hmodule, if_false, reduceCtorEq, Option.some.injEq, false_iff, not_and]
        exact fun hsame => hsame ▸ hmodule

/-- A tool that is not there or belongs to another module cannot be told from one that is not. -/
theorem toolFor_eq_error_iff {fault : ToolFault} :
    s.toolFor module name = .error fault ↔
      fault = .notFound name ∧
        ∀ tool, s.tools.tools.get? name = some tool → tool.module ≠ module := by
  rw [toolFor, Toolbox.find]
  cases s.tools.tools.get? name with
  | none => simp [eq_comm]
  | some found =>
      by_cases hmodule : found.module = module
      · simp [hmodule]
      · simp only [hmodule, if_false, Except.error.injEq, Option.some.injEq, forall_eq', ne_eq,
          not_false_eq_true, and_true]
        exact eq_comm

end Tools

def metadataOf (tool : Tool) (result : Json.Value) (elapsed : Duration) : ToolResult.Metadata where
  tool := tool.name
  procedure := tool.procedure
  byteLength := result.text.utf8ByteSize
  elapsedMs := Duration.millis elapsed % UInt64.size

inductive Running (s : Setup) (state : State) (world : World) (ctx : RequestContext)
    (name : String) (m : Moment) : Handled Json.Value → Prop
  | unknown {fault : ToolFault} (htool : s.toolFor ctx.module name = .error fault) :
      Running s state world ctx name m
        { result := .error (.tool fault), state, moment := m }
  | failed {tool : Tool} {d : Dispatcher.Dispatched Json.Value} {failure : CallFailure Fault}
      (htool : s.toolFor ctx.module name = .ok tool)
      (hsql : state.dispatcher.run sqlDependency world.draws world.sql m.now m.caller = some d)
      (hresult : d.result = .error failure) :
      Running s state world ctx name m
        { result := .error (.ofCall sqlDependency failure)
          state := { state with dispatcher := d.dispatcher }
          moment := ⟨d.endsAt, d.caller⟩
          events := d.events
          sqlCalls := d.calls }
  | unkept {tool : Tool} {d : Dispatcher.Dispatched Json.Value} {result : Json.Value}
      (htool : s.toolFor ctx.module name = .ok tool)
      (hsql : state.dispatcher.run sqlDependency world.draws world.sql m.now m.caller = some d)
      (hresult : d.result = .ok result)
      (hnone : world.storage = none ∨
        recordOf ctx (metadataOf tool result (d.endsAt - m.now)) result = none) :
      Running s state world ctx name m
        { result := .ok result
          state := { state with dispatcher := d.dispatcher }
          moment := ⟨d.endsAt, d.caller⟩
          events := d.events
          sqlCalls := d.calls }
  | stored {tool : Tool} {d : Dispatcher.Dispatched Json.Value} {result : Json.Value}
      {storage : Script Unit} {record : ToolResult.Record} {d' : Dispatcher.Dispatched Unit}
      (htool : s.toolFor ctx.module name = .ok tool)
      (hsql : state.dispatcher.run sqlDependency world.draws world.sql m.now m.caller = some d)
      (hresult : d.result = .ok result) (hstorage : world.storage = some storage)
      (hrecord : recordOf ctx (metadataOf tool result (d.endsAt - m.now)) result = some record)
      (hsave : d.dispatcher.run storageDependency world.draws storage d.endsAt d.caller =
        some d') :
      Running s state world ctx name m
        { result := .ok result
          state := { state with dispatcher := d'.dispatcher }
          moment := ⟨d'.endsAt, d'.caller⟩
          events := d.events ++ d'.events
          sqlCalls := d.calls
          stored := List.replicate d'.calls record }

variable {s : Setup} {state : State} {world : World} {ctx : RequestContext} {name : String}
  {m : Moment} {h : Handled Json.Value}

theorem running_of_runTool (hrun : s.runTool state world ctx name m = some h) :
    s.Running state world ctx name m h := by
  rw [runTool] at hrun
  cases htool : s.toolFor ctx.module name with
  | error fault =>
      simp only [htool, Option.some.injEq] at hrun
      subst hrun
      exact .unknown htool
  | ok tool =>
      cases hsql : state.dispatcher.run sqlDependency world.draws world.sql m.now m.caller with
      | none => simp [htool, hsql] at hrun
      | some d =>
          cases hresult : d.result with
          | error failure =>
              simp only [htool, hsql, hresult, Except.mapError, Option.some.injEq] at hrun
              subst hrun
              exact .failed htool hsql hresult
          | ok result =>
              simp only [htool, hsql, hresult, Except.mapError] at hrun
              change persist world (recordOf ctx
                (metadataOf tool result (d.endsAt - m.now)) result) _ = some h at hrun
              cases hstorage : world.storage with
              | none =>
                  simp only [persist, hstorage, Option.some.injEq] at hrun
                  subst hrun
                  exact .unkept htool hsql hresult (.inl hstorage)
              | some storage =>
                  cases hrecord :
                      recordOf ctx (metadataOf tool result (d.endsAt - m.now)) result with
                  | none =>
                      simp only [persist, hstorage, hrecord, Option.some.injEq] at hrun
                      subst hrun
                      exact .unkept htool hsql hresult (.inr hrecord)
                  | some record =>
                      simp only [persist, hstorage, hrecord] at hrun
                      obtain ⟨d', hsave, rfl⟩ := Option.map_eq_some_iff.mp hrun
                      exact .stored htool hsql hresult hstorage hrecord hsave

theorem exists_persist {α : Type} (hreturns : ∀ storage, world.storage = some storage →
    storage.Returns) (record : Option ToolResult.Record) (handled : Handled α) :
    ∃ h, persist world record handled = some h := by
  cases hstorage : world.storage with
  | none => exact ⟨handled, by simp only [persist, hstorage]⟩
  | some storage =>
      cases record with
      | none => exact ⟨handled, by simp only [persist, hstorage]⟩
      | some record =>
          simp only [persist, hstorage]
          obtain ⟨d, hrun⟩ := Dispatcher.exists_run (hreturns storage hstorage)
            handled.state.dispatcher storageDependency world.draws handled.moment.now
            handled.moment.caller
          exact ⟨_, congrArg (Option.map _) hrun⟩

/-- Once the call of its procedure is over, a tool comes to its end if the calls of the store do. -/
theorem exists_runTool_of_sql {d : Dispatcher.Dispatched Json.Value}
    (hsql : state.dispatcher.run sqlDependency world.draws world.sql m.now m.caller = some d)
    (hstorage : ∀ storage, world.storage = some storage → storage.Returns) (s : Setup)
    (ctx : RequestContext) (name : String) : ∃ h, s.runTool state world ctx name m = some h := by
  rw [runTool]
  cases s.toolFor ctx.module name with
  | error fault => exact ⟨_, rfl⟩
  | ok tool =>
      simp only [hsql]
      cases d.result with
      | error failure => exact ⟨_, rfl⟩
      | ok result => exact exists_persist hstorage _ _

theorem exists_runTool (hreturns : world.sql.Returns)
    (hstorage : ∀ storage, world.storage = some storage → storage.Returns) (s : Setup)
    (state : State) (ctx : RequestContext) (name : String) (m : Moment) :
    ∃ h, s.runTool state world ctx name m = some h := by
  obtain ⟨d, hsql⟩ := Dispatcher.exists_run hreturns state.dispatcher sqlDependency world.draws
    m.now m.caller
  exact exists_runTool_of_sql hsql hstorage s ctx name

/-- Tools have nothing to do with the cache. -/
theorem Running.cache_eq (hrun : s.Running state world ctx name m h) :
    h.state.cache = state.cache := by
  cases hrun <;> rfl

theorem Running.le_now (hrun : s.Running state world ctx name m h) : m.now ≤ h.moment.now := by
  cases hrun with
  | unknown => exact Nat.le_refl _
  | failed _ hsql | unkept _ hsql => exact Dispatcher.le_endsAt_of_run hsql
  | stored _ hsql _ _ _ hsave =>
      exact Nat.le_trans (Dispatcher.le_endsAt_of_run hsql) (Dispatcher.le_endsAt_of_run hsave)

end Setup

end Chat

end ResilientChat
