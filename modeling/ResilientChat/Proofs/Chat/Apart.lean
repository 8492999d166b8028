import ResilientChat.Proofs.Chat.Running
import ResilientChat.Proofs.Dispatcher.Apart

/-!
The dependencies of the service kept apart. A run of a tool calls two of them, the procedure and
then the store; what comes of the second is seen by nobody else. Together with what holds of every
dispatcher, no circuit can tell what happens to another dependency.
-/

namespace ResilientChat

namespace Chat

open Dispatcher (Clocked Done Operation Traffic)

section Run

variable {α : Type} {d : Dispatcher} {name : String} {draws : Nat → Nat} {script : Script α}
  {now : Instant} {caller : Cancellation} {done : Dispatcher.Dispatched α}

/-- A call changes the circuit of its own dependency and reports on no other. -/
theorem confined_of_run (hnamed : d.registry.Named)
    (hrun : d.run name draws script now caller = some done) :
    Clocked.Confined ⟨d, now⟩ (some name)
      { state := ⟨done.dispatcher, done.endsAt⟩
        events := done.events
        returned := [⟨name, done.result, done.calls, done.endsAt⟩] } := by
  let op : Operation α := .run name draws script caller
  have hop : Clocked.perform ⟨d, now⟩ op =
      some
        { state := ⟨done.dispatcher, done.endsAt⟩
          events := done.events
          returned := [⟨name, done.result, done.calls, done.endsAt⟩] } := by
    rw [Clocked.perform, hrun]
    rfl
  exact Clocked.confined_of_perform hnamed hop

/-- Another dependency is called after it as it would have been before. -/
theorem other_of_run (hnamed : d.registry.Named)
    (hrun : d.run name draws script now caller = some done) {other : String}
    (hother : other ≠ name) :
    done.dispatcher.breaker other = d.breaker other ∧
      done.dispatcher.backoffFor other = d.backoffFor other := by
  have hconfined := confined_of_run hnamed hrun
  have hsettings : done.dispatcher.settings = d.settings := hconfined.settings
  have hget : done.dispatcher.registry.get? other = d.registry.get? other :=
    hconfined.breakers other fun hsame => hother (Option.some.inj hsame).symm
  constructor
  · rw [Dispatcher.breaker, Dispatcher.breaker, Breaker.Registry.obtain, Breaker.Registry.obtain,
      hget, Dispatcher.limitsFor, Dispatcher.limitsFor, hsettings]
  · rw [Dispatcher.backoffFor, Dispatcher.backoffFor, hsettings]

/-- All events of a call are about its own dependency. -/
theorem filter_events_of_run (hnamed : d.registry.Named)
    (hrun : d.run name draws script now caller = some done) (other : String) :
    done.events.filter (·.dependency ≠ other) = if other = name then [] else done.events := by
  have hevents {e : Event} (he : e ∈ done.events) : e.dependency = name :=
    (Option.some.inj ((confined_of_run hnamed hrun).events e he)).symm
  split
  · next hsame =>
    refine List.filter_eq_nil_iff.mpr fun e he hother => of_decide_eq_true hother ?_
    exact (hevents he).trans hsame.symm
  · next hother =>
    refine List.filter_eq_self.mpr fun e he => decide_eq_true ?_
    rw [hevents he]
    exact fun hsame => hother hsame.symm

end Run

namespace Setup

/-- Two runs of a tool that nobody can tell from each other who does not ask for the store. -/
structure SameButStorage (h h' : Handled Json.Value) : Prop where
  result : h'.result = h.result
  sqlCalls : h'.sqlCalls = h.sqlCalls
  cache : h'.state.cache = h.state.cache
  breakers : ∀ name ≠ storageDependency,
    h'.state.dispatcher.registry.get? name = h.state.dispatcher.registry.get? name
  events : h'.events = h.events.filter (·.dependency ≠ storageDependency)

variable {s : Setup} {state : State} {world : World} {ctx : RequestContext} {tool : String}
  {m : Moment} {h : Handled Json.Value}

/-- Without a store the tool runs in the same way. -/
theorem Running.without_storage (hnamed : state.dispatcher.registry.Named)
    (hrun : s.Running state world ctx tool m h) :
    ∃ h', s.runTool state { world with storage := none } ctx tool m = some h' ∧
      SameButStorage h h' := by
  have hevents {d : Dispatcher.Dispatched Json.Value}
      (hcall : state.dispatcher.run sqlDependency world.draws world.sql m.now m.caller = some d) :
      d.events = d.events.filter (·.dependency ≠ storageDependency) :=
    (filter_events_of_run hnamed hcall storageDependency).symm
  cases hrun with
  | unknown htool => exact ⟨_, by rw [runTool, htool], rfl, rfl, rfl, fun _ _ => rfl, rfl⟩
  | failed htool hcall hresult =>
      refine ⟨_, ?_, rfl, rfl, rfl, fun _ _ => rfl, hevents hcall⟩
      simp only [runTool, htool, hcall, hresult]
      rfl
  | unkept htool hcall hresult =>
      refine ⟨_, ?_, rfl, rfl, rfl, fun _ _ => rfl, hevents hcall⟩
      simp only [runTool, htool, hcall, hresult, persist]
      rfl
  | @stored _ d result _ _ d' htool hcall hresult _ _ hsave =>
      have hlater := (confined_of_run hnamed hcall).named
      have hquiet : s.runTool state { world with storage := none } ctx tool m =
          some
            { result := .ok result
              state := { state with dispatcher := d.dispatcher }
              moment := ⟨d.endsAt, d.caller⟩
              events := d.events
              sqlCalls := d.calls } := by
        simp only [runTool, htool, hcall, hresult, persist]
        rfl
      refine ⟨_, hquiet, rfl, rfl, rfl, fun name hname => ?_, ?_⟩
      · have hother : some storageDependency ≠ some name :=
          fun hsame => hname (Option.some.inj hsame).symm
        exact ((confined_of_run hlater hsave).breakers name hother).symm
      · rw [List.filter_append, filter_events_of_run hlater hsave, if_pos rfl, List.append_nil]
        exact hevents hcall

/-- A tool calls its procedure and the store, and leaves all other circuits alone. -/
theorem Running.breakers (hnamed : state.dispatcher.registry.Named)
    (hrun : s.Running state world ctx tool m h) {name : String} (hsql : name ≠ sqlDependency)
    (hstorage : name ≠ storageDependency) :
    h.state.dispatcher.registry.get? name = state.dispatcher.registry.get? name := by
  have hother {called : String} (hname : name ≠ called) : some called ≠ some name :=
    fun hsame => hname (Option.some.inj hsame).symm
  cases hrun with
  | unknown => rfl
  | failed _ hcall | unkept _ hcall => exact (confined_of_run hnamed hcall).breakers _ (hother hsql)
  | stored _ hcall _ _ _ hsave =>
      have hconfined := confined_of_run hnamed hcall
      have hlater := confined_of_run hconfined.named hsave
      exact (hlater.breakers _ (hother hstorage)).trans (hconfined.breakers _ (hother hsql))

end Setup

/-- No dependency sees what happens to another. (1) Whatever is asked of a dispatcher, its circuit,
its events and its calls are for a dependency those of the run in which the operations on all others
are waits, and so is what comes next. (2) The same holds where calls of many dependencies are under
way at once. (3) In particular a tool runs for all dependencies but the store as if there were no
store, and calls none but the procedure and the store. -/
theorem dependencies_kept_apart {α : Type} (settings : Settings) (ops : List (Operation α))
    (done : Done α) (hrun : Clocked.run ⟨.ofSettings settings, 0⟩ ops = some done) :
    (∀ name, ∃ done',
      Clocked.run ⟨.ofSettings settings, 0⟩ (Clocked.apart name ⟨.ofSettings settings, 0⟩ ops) =
        some done' ∧
      done'.state.now = done.state.now ∧
      done'.state.dispatcher.registry.get? name = done.state.dispatcher.registry.get? name ∧
      done'.events = done.events.filter (·.dependency = name) ∧
      done'.returned = done.returned.filter (·.name = name) ∧
      ∀ op : Operation α, op.name? = some name →
        Option.Rel (Clocked.SameFor name) (done.state.perform op) (done'.state.perform op)) ∧
    (∀ name events, Traffic.Alike name ((Traffic.fresh settings).run events)
      ((Traffic.fresh settings).run (events.filter (Traffic.Event.isSeenBy name)))) ∧
    ∀ (s : Setup) (cache : AnswerGate) (world : World) (ctx : RequestContext) (tool : String)
      (m : Moment) (h : Handled Json.Value),
      s.runTool ⟨done.state.dispatcher, cache⟩ world ctx tool m = some h →
        (∃ h', s.runTool ⟨done.state.dispatcher, cache⟩ { world with storage := none } ctx tool m =
          some h' ∧ Setup.SameButStorage h h') ∧
        ∀ name, name ≠ sqlDependency → name ≠ storageDependency →
          h.state.dispatcher.registry.get? name = done.state.dispatcher.registry.get? name := by
  have hfresh : (Dispatcher.ofSettings settings).registry.Named := nofun
  have hsame (name : String) : Clocked.Alike name ⟨.ofSettings settings, 0⟩
      ⟨.ofSettings settings, 0⟩ := ⟨rfl, rfl, rfl, rfl⟩
  have hnamed := ((hsame "").run_apart hfresh hrun).1
  refine ⟨fun name => ?_, fun name events => Traffic.alike_run_filter settings events name,
    fun s cache world ctx tool m h htool => ?_⟩
  · obtain ⟨-, done', hrun', halike, hevents, hreturned⟩ := (hsame name).run_apart hfresh hrun
    exact ⟨done', hrun', halike.now, halike.breaker, hevents, hreturned,
      fun op hop => halike.perform hop⟩
  · have hrunning := Setup.running_of_runTool htool
    exact ⟨hrunning.without_storage hnamed,
      fun name hsql hstorage => hrunning.breakers hnamed hsql hstorage⟩

/-- The model fails, the store is isolated, the procedure is called, and the model is reset. -/
def troubledRun : List (Operation Unit) :=
  [.run "llm" (fun _ => 0) (fun _ => { result := .error .timeout, takes := 5 }) none,
    .isolate "storage",
    .run "sql" (fun _ => 0) (fun _ => { result := .ok (), takes := 2 }) none,
    .reset "llm"]

def touchy : Settings :=
  { defaults := { failureThreshold := 1, maxRetries := 0, initialDelayMs := 0, jitter := false } }

theorem sql_sees_no_trouble :
    ∃ done done', Clocked.run ⟨.ofSettings touchy, 0⟩ troubledRun = some done ∧
      Clocked.run ⟨.ofSettings touchy, 0⟩
        (Clocked.apart "sql" ⟨.ofSettings touchy, 0⟩ troubledRun) = some done' ∧
      done'.state.now = 7 ∧
      done'.events = [.attempt "sql" ⟨1, 1, none, 2, none⟩, .outcome "sql" .success 2] ∧
      done'.state.dispatcher.registry.get? "sql" = done.state.dispatcher.registry.get? "sql" := by
  have hends : (Clocked.run ⟨.ofSettings touchy, 0⟩ troubledRun).any (fun done =>
      done.state.now = 7 ∧ done.events.filter (·.dependency = "sql") =
        [.attempt "sql" ⟨1, 1, none, 2, none⟩, .outcome "sql" .success 2]) = true := by
    decide +kernel
  obtain ⟨done, hrun, hdone⟩ := (Option.any_eq_true _ _).mp hends
  obtain ⟨hnow, hseen⟩ := of_decide_eq_true hdone
  obtain ⟨done', hrun', hnow', hbreaker, hevents, -⟩ :=
    (dependencies_kept_apart touchy troubledRun done hrun).1 "sql"
  exact ⟨done, done', hrun, hrun', hnow'.trans hnow, hevents.trans hseen, hbreaker⟩

end Chat

end ResilientChat
