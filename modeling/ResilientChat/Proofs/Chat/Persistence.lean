import ResilientChat.Proofs.Chat.Apart
import ResilientChat.Proofs.Chat.Records

/-!
Keeping a tool's result does nothing to the tool's call. The call of the procedure decides what a
run of a tool gives and what becomes of every circuit but that of the store; the calls of the store
that follow it may fail, be refused or be given up, and nobody learns of it but its own circuit,
which counts them once.
-/

namespace ResilientChat

namespace Chat

open Dispatcher (Dispatched Traffic)

namespace Setup

/-- The run gives what the call of its procedure gave, and leaves every circuit but that of the
store as this call left it. -/
structure FollowsCall (state : State) (d : Dispatched Json.Value) (h : Handled Json.Value) :
    Prop where
  result : h.result = d.result.mapError (Failure.ofCall sqlDependency)
  sqlCalls : h.sqlCalls = d.calls
  cache : h.state.cache = state.cache
  breakers : ∀ name ≠ storageDependency,
    h.state.dispatcher.registry.get? name = d.dispatcher.registry.get? name
  events : h.events.filter (·.dependency ≠ storageDependency) = d.events

/-- How often the store is handed the record of a run, and how its circuit counts that. -/
structure SavesOnce (before : Dispatcher) (storage : Option (Script Unit))
    (h : Handled Json.Value) : Prop where
  attempts : h.stored.length ≤ (before.backoffFor storageDependency).totalAttempts
  /-- A store that has taken the record is not called again. -/
  last : ∀ script, storage = some script → ∀ n, (script n).result = .ok () →
    h.stored.length ≤ n + 1
  /-- At most one counter of its circuit grows, and by one. -/
  counted : ∃ counted : Option Outcome, ∀ o,
    (h.state.dispatcher.breaker storageDependency).metrics.tally o =
      (before.breaker storageDependency).metrics.tally o + if counted = some o then 1 else 0
  failures : (h.state.dispatcher.breaker storageDependency).failures.toNat ≤
    (before.breaker storageDependency).failures.toNat + 1

variable {s : Setup} {state : State} {world : World} {ctx : RequestContext} {name : String}
  {m : Moment} {h : Handled Json.Value}

section Running

variable {tool : Tool} {d : Dispatched Json.Value}

/-- The store that is not called counts nothing. -/
theorem savesOnce_of_unasked {before : Dispatcher} {storage : Option (Script Unit)}
    (hstored : h.stored = [])
    (hbreaker : h.state.dispatcher.breaker storageDependency = before.breaker storageDependency) :
    SavesOnce before storage h where
  attempts := by simp [hstored]
  last := by simp [hstored]
  counted := ⟨none, fun o => by simp [hbreaker]⟩
  failures := by simp [hbreaker]

theorem Running.savesOnce (hnamed : state.dispatcher.registry.Named)
    (hsql : state.dispatcher.run sqlDependency world.draws world.sql m.now m.caller = some d)
    (hrun : s.Running state world ctx name m h) :
    SavesOnce state.dispatcher world.storage h := by
  have hlater := (confined_of_run hnamed hsql).named
  have hother : storageDependency ≠ sqlDependency := by decide
  obtain ⟨hbreaker, hbackoff⟩ := other_of_run hnamed hsql hother
  cases hrun with
  | unknown => exact savesOnce_of_unasked rfl rfl
  | failed _ hsql' | unkept _ hsql' =>
      obtain rfl := Option.some.inj (hsql.symm.trans hsql')
      exact savesOnce_of_unasked rfl hbreaker
  | @stored _ _ _ _ record d' _ hsql' _ hstorage _ hsave =>
      obtain rfl := Option.some.inj (hsql.symm.trans hsql')
      have hlength : (List.replicate d'.calls record).length = d'.calls := List.length_replicate
      obtain ⟨htally, hfailures⟩ := Dispatcher.counted_of_run hlater hsave
      rw [hbreaker] at htally hfailures
      refine ⟨?_, fun script hscript n hok => ?_, ⟨some (Outcome.ofResult d'.result), ?_⟩,
        hfailures⟩
      · rw [hlength, ← hbackoff]
        exact Dispatcher.calls_le_of_run hsave
      · -- All answers before the last one were faults.
        obtain rfl := Option.some.inj (hstorage.symm.trans hscript)
        rw [hlength]
        by_contra hmore
        exact (Dispatcher.retried_of_run hsave (Nat.not_le.mp hmore)).result_ne.1 () hok
      · intro o
        rw [htally]
        simp only [Option.some.injEq, eq_comm]

theorem Running.followsCall (hnamed : state.dispatcher.registry.Named)
    (htool : s.toolFor ctx.module name = .ok tool)
    (hsql : state.dispatcher.run sqlDependency world.draws world.sql m.now m.caller = some d)
    (hrun : s.Running state world ctx name m h) : FollowsCall state d h := by
  have hlater := (confined_of_run hnamed hsql).named
  have hevents : d.events.filter (·.dependency ≠ storageDependency) = d.events :=
    filter_events_of_run hnamed hsql storageDependency
  cases hrun with
  | unknown hunknown => cases htool.symm.trans hunknown
  | failed _ hsql' hresult | unkept _ hsql' hresult =>
      obtain rfl := Option.some.inj (hsql.symm.trans hsql')
      exact ⟨by rw [hresult]; rfl, rfl, rfl, fun _ _ => rfl, hevents⟩
  | stored _ hsql' hresult _ _ hsave =>
      obtain rfl := Option.some.inj (hsql.symm.trans hsql')
      have hconfined := confined_of_run hlater hsave
      refine ⟨by rw [hresult]; rfl, rfl, rfl, fun key hkey => ?_, ?_⟩
      · exact hconfined.breakers key fun hsame => hkey (Option.some.inj hsame).symm
      · rw [List.filter_append, hevents, filter_events_of_run hlater hsave, if_pos rfl,
          List.append_nil]

end Running

end Setup

/-- Keeping a tool's result never tells on the tool's call, whatever has happened to the circuits
before. A tool that the module does not have is refused whatever store there is, and a procedure
whose call never ends keeps the run from its end. Otherwise the run ends without a store and with
every store whose calls end, whatever they come to: it gives the value or the failure of the
procedure's call, and leaves all circuits but that of the store as this call left them. The store is
handed the record at most as often as its attempts allow, and not again once it has taken it; its
own circuit counts all of that as at most one call. -/
theorem persistence_unfelt (s : Setup) (state : State) (past : List Traffic.Event)
    (hpast : state.dispatcher.registry =
      ((Traffic.fresh state.dispatcher.settings).run past).dispatcher.registry)
    (world : World) (ctx : RequestContext) (name : String) (m : Moment) :
    let run (storage : Option (Script Unit)) := s.runTool state { world with storage } ctx name m
    let call := state.dispatcher.run sqlDependency world.draws world.sql m.now m.caller
    (∀ fault, s.toolFor ctx.module name = .error fault → ∀ storage,
        run storage = some { result := .error (.tool fault), state, moment := m }) ∧
      ∀ tool, s.toolFor ctx.module name = .ok tool →
        (call = none → ∀ storage, run storage = none) ∧
          ∀ d, call = some d →
            ∀ storage, (∀ script, storage = some script → script.Returns) →
              ∃ h, run storage = some h ∧ Setup.FollowsCall state d h ∧
                Setup.SavesOnce state.dispatcher storage h := by
  intro run call
  have hnamed : state.dispatcher.registry.Named := by
    rw [hpast]
    exact (Dispatcher.Traffic.run_regular _ past).named
  refine ⟨fun fault htool storage => ?_, fun tool htool => ⟨fun hcall storage => ?_,
    fun d hcall storage hreturns => ?_⟩⟩
  · simp only [run, Setup.runTool, htool]
  · have hsql : state.dispatcher.run sqlDependency world.draws world.sql m.now m.caller = none :=
      hcall
    simp only [run, Setup.runTool, htool, hsql]
  · let stored : World := { world with storage }
    have hsql :
        state.dispatcher.run sqlDependency stored.draws stored.sql m.now m.caller = some d := hcall
    obtain ⟨h, hrun⟩ := Setup.exists_runTool_of_sql hsql hreturns s ctx name
    have hrunning := Setup.running_of_runTool hrun
    exact ⟨h, hrun, hrunning.followsCall hnamed htool hsql, hrunning.savesOnce hnamed hsql⟩

/-- A store that takes its time and keeps nothing. -/
def brokenStore : Script Unit := fun _ => { result := .error .timeout, takes := 10 }

theorem customers_found_with_broken_store :
    let s : Setup := { tools := ⟨(∅ : NameMap Tool).insert "customers" customersTool⟩ }
    let settings : Settings :=
      { defaults := { failureThreshold := 1, initialDelayMs := 0, jitter := false } }
    let state : State := ⟨.ofSettings settings, ⟨none⟩⟩
    let run (storage : Option (Script Unit)) :=
      s.runTool state { flakyWorld with storage } sensitiveContext "customers" ⟨0, none⟩
    ∃ h h', run none = some h ∧ run (some brokenStore) = some h' ∧
      h'.result = .ok (.object [("name", .string "Ada"), ("orders", .int 3)]) ∧
      h.result = h'.result ∧ h'.sqlCalls = 2 ∧ h'.stored.length = 3 ∧
      (h'.state.dispatcher.breaker storageDependency).phase = .opened ∧
      h'.state.dispatcher.registry.get? sqlDependency =
        h.state.dispatcher.registry.get? sqlDependency := by
  intro s settings state run
  have hcalls : (state.dispatcher.run sqlDependency flakyWorld.draws flakyWorld.sql 0 none).any
      (·.calls = 2) = true := by
    decide +kernel
  have hsaves : (run (some brokenStore)).any (fun h' => h'.stored.length = 3 ∧
      (h'.state.dispatcher.breaker storageDependency).phase = .opened) = true := by
    decide +kernel
  have htool : s.toolFor sensitiveContext.module "customers" = .ok customersTool := by
    decide +kernel
  obtain ⟨d, hsql, hd⟩ := (Option.any_eq_true _ _).mp hcalls
  have hfound : d.result = .ok (.object [("name", .string "Ada"), ("orders", .int 3)]) :=
    (Dispatcher.result_ok_iff_of_run hsql _).mpr ⟨1, of_decide_eq_true hd, rfl⟩
  have hreturns : brokenStore.Returns := fun _ _ => nofun
  obtain ⟨-, hall⟩ :=
    persistence_unfelt s state [] rfl flakyWorld sensitiveContext "customers" ⟨0, none⟩
  obtain ⟨-, hends⟩ := hall customersTool htool
  obtain ⟨h, hrun, hfollows, -⟩ := hends d hsql none nofun
  obtain ⟨h', hrun', hfollows', -⟩ := hends d hsql (some brokenStore) fun script hscript =>
    Option.some.inj hscript ▸ hreturns
  rw [show run (some brokenStore) = some h' from hrun'] at hsaves
  obtain ⟨hlength, hphase⟩ := of_decide_eq_true hsaves
  refine ⟨h, h', hrun, hrun', ?_, hfollows.result.trans hfollows'.result.symm, ?_, hlength, hphase,
    ?_⟩
  · rw [hfollows'.result, hfound]
    rfl
  · exact hfollows'.sqlCalls.trans (of_decide_eq_true hd)
  · have hother : sqlDependency ≠ storageDependency := by decide
    rw [hfollows'.breakers _ hother, hfollows.breakers _ hother]

end Chat

end ResilientChat
