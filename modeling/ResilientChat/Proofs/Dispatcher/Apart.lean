import ResilientChat.Proofs.Dispatcher.Call

/-!
The dependencies of a dispatcher kept apart. What an operation does to its dependency is decided by
that dependency's breaker and tuning and by the clock, and it does nothing to any other. So a run
looks to a dependency as if all operations on others had been waits.
-/

namespace ResilientChat

def Event.dependency : Event → String
  | .attempt dependency _ | .outcome dependency _ _ => dependency
  | .transition circuit _ => circuit

namespace Breaker

@[simp] theorem goTo_name (b : Breaker) (phase : Phase) (now : Instant) :
    (b.goTo phase now).breaker.name = b.name := by
  rw [goTo]
  split <;> rfl

@[simp] theorem isolate_name (b : Breaker) (now : Instant) :
    (b.isolate now).breaker.name = b.name := goTo_name _ _ _

@[simp] theorem reset_name (b : Breaker) (now : Instant) :
    (b.reset now).breaker.name = b.name := goTo_name _ _ _

namespace Registry

/-- Every breaker is kept under its own name. -/
def Named (r : Registry) : Prop := ∀ name b, r.get? name = some b → b.name = name

variable {r : Registry}

theorem Named.put (h : r.Named) (b : Breaker) : (r.put b).Named := by
  intro name b' hget
  rw [get?_put] at hget
  split at hget
  · next hname =>
    cases hget
    exact hname.symm
  · exact h name b' hget

theorem Named.obtain_name (h : r.Named) (name : String) (limits : Limits) :
    (r.obtain name limits).name = name := by
  rw [obtain]
  cases hget : r.get? name with
  | none => rfl
  | some b => exact h name b hget

end Registry

end Breaker

namespace Dispatcher

variable {α : Type}

theorem Traffic.Regular.named {t : Traffic} (h : t.Regular) : t.dispatcher.registry.Named := by
  intro name b hget
  have hname := (h.reached name).name_eq
  rwa [Traffic.line, breaker_of_get? hget] at hname

/-- A call is counted once by the breaker of its dependency, and makes at most one failure. -/
theorem counted_of_run {d : Dispatcher} {name : String} {draws : Nat → Nat} {script : Script α}
    {now : Instant} {caller : Cancellation} {done : Dispatched α} (hnamed : d.registry.Named)
    (h : d.run name draws script now caller = some done) :
    (∀ o, (done.dispatcher.breaker name).metrics.tally o =
        (d.breaker name).metrics.tally o + if o = Outcome.ofResult done.result then 1 else 0) ∧
      (done.dispatcher.breaker name).failures.toNat ≤ (d.breaker name).failures.toNat + 1 := by
  obtain ⟨g, hpassage, rfl⟩ := passage_of_run h
  have hname : g.breaker.name = name := hpassage.name_eq.trans (hnamed.obtain_name name _)
  have hbreaker : (d.dispatched name now g).dispatcher.breaker name = g.breaker := by
    rw [breaker, dispatched, Breaker.Registry.obtain_put, if_pos hname.symm]
  rw [hbreaker]
  exact ⟨hpassage.tally fun call hcall => Backoff.run_not_refused hcall, hpassage.failures_le⟩

structure Clocked where
  dispatcher : Dispatcher
  now : Instant := 0

inductive Operation (α : Type) where
  | run (name : String) (draws : Nat → Nat) (script : Script α) (caller : Cancellation)
  /-- A breaker is asked for, and made with those limits if there is none of that name. -/
  | ensure (name : String) (limits : Breaker.Limits)
  | isolate (name : String)
  /-- Isolation by the registry, which does not know the tuning of the dependency. -/
  | isolateUntuned (name : String)
  | reset (name : String)
  | wait (d : Duration)

def Operation.name? : Operation α → Option String
  | .run name .. | .ensure name _ | .isolate name | .isolateUntuned name | .reset name => some name
  | .wait _ => none

structure Returned (α : Type) where
  name : String
  result : Except (CallFailure Fault) α
  /-- How often the dependency was called. -/
  calls : Nat
  endsAt : Instant

/-- What operations did: the state after them, their events and the calls among them. -/
structure Done (α : Type) where
  state : Clocked
  events : List Event := []
  returned : List (Returned α) := []

def Done.followedBy (d later : Done α) : Done α where
  state := later.state
  events := d.events ++ later.events
  returned := d.returned ++ later.returned

namespace Clocked

/-- Does what is asked. None stands for a call that never ends. -/
def perform (s : Clocked) : Operation α → Option (Done α)
  | .run name draws script caller =>
    (s.dispatcher.run name draws script s.now caller).map fun d =>
      { state := ⟨d.dispatcher, d.endsAt⟩
        events := d.events
        returned := [⟨name, d.result, d.calls, d.endsAt⟩] }
  | .ensure name limits =>
    let registry := s.dispatcher.registry.ensure name limits
    some { state := { s with dispatcher := { s.dispatcher with registry } } }
  | .isolate name =>
    let (dispatcher, events) := s.dispatcher.isolate name s.now
    some { state := { s with dispatcher }, events }
  | .isolateUntuned name =>
    let (registry, moved) := s.dispatcher.registry.isolate name s.now
    some
      { state := { s with dispatcher := { s.dispatcher with registry } }
        events := changeEvents name moved.change }
  | .reset name =>
    match s.dispatcher.reset? name s.now with
    | some (dispatcher, events) => some { state := { s with dispatcher }, events }
    | none => some { state := s }
  | .wait d => some { state := { s with now := s.now + d } }

def run (s : Clocked) : List (Operation α) → Option (Done α)
  | [] => some { state := s }
  | op :: ops =>
    (s.perform op).bind fun d => (d.state.run ops).map d.followedBy

/-- The operations with waits in place of those that are not about `name`, each as long as the
operation takes in the run; what comes after an operation that never ends is left out. -/
def apart (name : String) (s : Clocked) : List (Operation α) → List (Operation α)
  | [] => []
  | op :: ops =>
    match s.perform op with
    | some d =>
      (if op.name? = some name then op else .wait (d.state.now - s.now)) :: apart name d.state ops
    | none => []

/-- The two states cannot be told from each other by operations on `name`. -/
structure Alike (name : String) (s s' : Clocked) : Prop where
  now : s'.now = s.now
  settings : s'.dispatcher.settings = s.dispatcher.settings
  defaults : s'.dispatcher.registry.defaults = s.dispatcher.registry.defaults
  breaker : s'.dispatcher.registry.get? name = s.dispatcher.registry.get? name

structure SameFor (name : String) (d d' : Done α) : Prop where
  state : Alike name d.state d'.state
  events : d'.events = d.events
  returned : d'.returned = d.returned

section Alike

variable {name : String} {s s' : Clocked}

theorem Alike.put (h : Alike name s s') (b : Breaker) (now : Instant)
    (backoffs : Backoffs s.dispatcher.settings) (backoffs' : Backoffs s'.dispatcher.settings) :
    Alike name ⟨⟨s.dispatcher.settings, s.dispatcher.registry.put b, backoffs⟩, now⟩
      ⟨⟨s'.dispatcher.settings, s'.dispatcher.registry.put b, backoffs'⟩, now⟩ where
  now := rfl
  settings := h.settings
  defaults := h.defaults
  breaker := by rw [Breaker.Registry.get?_put, Breaker.Registry.get?_put, h.breaker]

theorem Alike.obtain (h : Alike name s s') (limits : Breaker.Limits) :
    s'.dispatcher.registry.obtain name limits = s.dispatcher.registry.obtain name limits := by
  rw [Breaker.Registry.obtain, Breaker.Registry.obtain, h.breaker]

theorem Alike.limitsFor (h : Alike name s s') :
    s'.dispatcher.limitsFor name = s.dispatcher.limitsFor name := by
  rw [Dispatcher.limitsFor, Dispatcher.limitsFor, h.settings]

theorem Alike.backoffFor (h : Alike name s s') :
    s'.dispatcher.backoffFor name = s.dispatcher.backoffFor name := by
  rw [Dispatcher.backoffFor, Dispatcher.backoffFor, h.settings]

/-- An operation on `name` does the same in states that are alike. -/
theorem Alike.perform (h : Alike name s s') {op : Operation α} (hop : op.name? = some name) :
    Option.Rel (SameFor name) (s.perform op) (s'.perform op) := by
  cases op with
  | run dependency draws script caller =>
      cases hop
      simp only [Clocked.perform, Dispatcher.run_eq, Dispatcher.breaker, h.obtain, h.limitsFor,
        h.backoffFor, h.now]
      cases Breaker.callRepeated _ _ draws script s.now caller with
      | none => exact .none
      | some g => exact .some ⟨h.put g.breaker g.call.endsAt _ _, rfl, rfl⟩
  | ensure dependency limits =>
      cases hop
      simp only [Clocked.perform, Breaker.Registry.ensure, h.obtain, h.now]
      exact .some ⟨h.put _ s.now _ _, rfl, rfl⟩
  | isolate dependency =>
      cases hop
      simp only [Clocked.perform, Dispatcher.isolate, Breaker.Registry.isolateWith, h.obtain,
        h.limitsFor, h.now]
      exact .some ⟨h.put _ s.now _ _, rfl, rfl⟩
  | isolateUntuned dependency =>
      cases hop
      simp only [Clocked.perform, Breaker.Registry.isolate, Breaker.Registry.isolateWith, h.obtain,
        h.defaults, h.now]
      exact .some ⟨h.put _ s.now _ _, rfl, rfl⟩
  | reset dependency =>
      cases hop
      simp only [Clocked.perform, Dispatcher.reset?, Breaker.Registry.reset?, h.breaker, h.now]
      cases s.dispatcher.registry.get? name with
      | none => exact .some ⟨h, rfl, rfl⟩
      | some b => exact .some ⟨h.put _ s.now _ _, rfl, rfl⟩
  | wait => cases hop

end Alike

/-- What an operation on `name?` did stays with its dependency. -/
structure Confined (s : Clocked) (name? : Option String) (d : Done α) : Prop where
  le_now : s.now ≤ d.state.now
  settings : d.state.dispatcher.settings = s.dispatcher.settings
  defaults : d.state.dispatcher.registry.defaults = s.dispatcher.registry.defaults
  breakers : ∀ key, name? ≠ some key →
    d.state.dispatcher.registry.get? key = s.dispatcher.registry.get? key
  events : ∀ e ∈ d.events, name? = some e.dependency
  returned : ∀ c ∈ d.returned, name? = some c.name
  named : d.state.dispatcher.registry.Named

section Confined

variable {s : Clocked} {name : String} {d : Done α}

theorem dependency_of_mem_changeEvents {change : Option Breaker.Change} {e : Event}
    (h : e ∈ changeEvents name change) : e.dependency = name := by
  obtain ⟨c, -, rfl⟩ := Option.map_eq_some_iff.mp (Option.mem_toList.mp h)
  rfl

theorem dependency_of_mem_events {started : Instant} {g : Breaker.Guarded α} {e : Event}
    (h : e ∈ events name started g) : e.dependency = name := by
  rw [events_eq, eventsBefore, List.mem_append, List.mem_append, List.mem_append] at h
  rcases h with ((hchange | hreport) | hchange) | houtcome
  · exact dependency_of_mem_changeEvents hchange
  · obtain ⟨report, -, rfl⟩ := List.mem_map.mp hreport
    rfl
  · exact dependency_of_mem_changeEvents hchange
  · cases List.mem_singleton.mp houtcome
    rfl

/-- Another breaker of a name is the only one that changes. -/
theorem confined_put (hnamed : s.dispatcher.registry.Named) {b : Breaker} (hb : b.name = name)
    {backoffs : Backoffs s.dispatcher.settings} {now : Instant} (hle : s.now ≤ now)
    {happened : List Event} {calls : List (Returned α)}
    (hevents : ∀ e ∈ happened, e.dependency = name) (hcalls : ∀ c ∈ calls, c.name = name) :
    Confined s (some name)
      { state := ⟨⟨s.dispatcher.settings, s.dispatcher.registry.put b, backoffs⟩, now⟩
        events := happened
        returned := calls } where
  le_now := hle
  settings := rfl
  defaults := rfl
  breakers := by
    intro key hkey
    rw [Breaker.Registry.get?_put, hb, if_neg]
    exact fun hsame => hkey (congrArg some hsame.symm)
  events := fun e he => congrArg some (hevents e he).symm
  returned := fun c hc => congrArg some (hcalls c hc).symm
  named := hnamed.put b

theorem confined_self (hnamed : s.dispatcher.registry.Named) (name? : Option String) {now : Instant}
    (hle : s.now ≤ now) : Confined s name? ({ state := { s with now } } : Done α) :=
  ⟨hle, rfl, rfl, fun _ _ => rfl, nofun, nofun, hnamed⟩

theorem confined_of_perform (hnamed : s.dispatcher.registry.Named) {op : Operation α}
    (h : s.perform op = some d) : Confined s op.name? d := by
  have hnow := Nat.le_refl s.now
  cases op with
  | run dependency draws script caller =>
      obtain ⟨done, hrun, rfl⟩ := Option.map_eq_some_iff.mp h
      have hle := le_endsAt_of_run hrun
      obtain ⟨g, hpassage, rfl⟩ := passage_of_run hrun
      have hname : g.breaker.name = dependency :=
        hpassage.name_eq.trans (hnamed.obtain_name dependency _)
      exact confined_put hnamed hname hle (fun _ => dependency_of_mem_events)
        fun c hc => congrArg Returned.name (List.mem_singleton.mp hc)
  | ensure dependency limits =>
      cases h
      exact confined_put hnamed (hnamed.obtain_name dependency limits) hnow nofun nofun
  | isolate dependency =>
      cases h
      refine confined_put hnamed ?_ hnow (fun _ => dependency_of_mem_changeEvents) nofun
      rw [Breaker.isolate_name, hnamed.obtain_name]
  | isolateUntuned dependency =>
      cases h
      refine confined_put hnamed ?_ hnow (fun _ => dependency_of_mem_changeEvents) nofun
      rw [Breaker.isolate_name, hnamed.obtain_name]
  | reset dependency =>
      simp only [perform, Dispatcher.reset?, Breaker.Registry.reset?] at h
      cases hget : s.dispatcher.registry.get? dependency with
      | none =>
          simp only [hget, Option.map_none, Option.some.injEq] at h
          cases h
          exact confined_self hnamed _ hnow
      | some b =>
          simp only [hget, Option.map_some, Option.some.injEq] at h
          cases h
          refine confined_put hnamed ?_ hnow (fun _ => dependency_of_mem_changeEvents) nofun
          rw [Breaker.reset_name, hnamed dependency b hget]
  | wait =>
      cases h
      exact confined_self hnamed _ (Nat.le_add_right ..)

end Confined

/-- An operation on another dependency is a wait for `name`. -/
theorem Confined.alike {s s' : Clocked} {name : String} {name? : Option String} {d : Done α}
    (h : Confined s name? d) (hother : name? ≠ some name) (hs : Alike name s s') :
    Alike name d.state { s' with now := s'.now + (d.state.now - s.now) } where
  now := by rw [hs.now, Nat.add_sub_of_le h.le_now]
  settings := hs.settings.trans h.settings.symm
  defaults := hs.defaults.trans h.defaults.symm
  breaker := hs.breaker.trans (h.breakers name hother).symm

/-- Of what an operation did, `name` sees everything or nothing. -/
theorem Confined.filter_eq {s : Clocked} {name? : Option String} {d : Done α}
    (h : Confined s name? d) (name : String) :
    d.events.filter (·.dependency = name) = (if name? = some name then d.events else []) ∧
      d.returned.filter (·.name = name) = if name? = some name then d.returned else [] := by
  by_cases hname : name? = some name
  · rw [if_pos hname, if_pos hname]
    refine ⟨List.filter_eq_self.mpr fun e he => ?_, List.filter_eq_self.mpr fun c hc => ?_⟩
    · exact decide_eq_true (Option.some.inj ((h.events e he).symm.trans hname))
    · exact decide_eq_true (Option.some.inj ((h.returned c hc).symm.trans hname))
  · rw [if_neg hname, if_neg hname]
    refine ⟨List.filter_eq_nil_iff.mpr fun e he hsame => hname ?_,
      List.filter_eq_nil_iff.mpr fun c hc hsame => hname ?_⟩
    · exact (h.events e he).trans (congrArg some (of_decide_eq_true hsame))
    · exact (h.returned c hc).trans (congrArg some (of_decide_eq_true hsame))

/-- A run looks to `name` as if the operations on other dependencies had been waits. -/
theorem Alike.run_apart {s s' : Clocked} {name : String} (h : Alike name s s')
    (hnamed : s.dispatcher.registry.Named) {ops : List (Operation α)} {done : Done α}
    (hrun : s.run ops = some done) :
    done.state.dispatcher.registry.Named ∧
      ∃ done', s'.run (s.apart name ops) = some done' ∧ Alike name done.state done'.state ∧
        done'.events = done.events.filter (·.dependency = name) ∧
        done'.returned = done.returned.filter (·.name = name) := by
  induction ops generalizing s s' done with
  | nil =>
      cases hrun
      exact ⟨hnamed, _, rfl, h, rfl, rfl⟩
  | cons op ops ih =>
      obtain ⟨d, hop, hlater⟩ := Option.bind_eq_some_iff.mp hrun
      obtain ⟨rest, hrest, rfl⟩ := Option.map_eq_some_iff.mp hlater
      have hconfined := confined_of_perform hnamed hop
      obtain ⟨hevents, hreturned⟩ := hconfined.filter_eq name
      simp only [apart, hop, Done.followedBy, List.filter_append, hevents, hreturned]
      by_cases hname : op.name? = some name
      · simp only [hname, if_true]
        have hsame := h.perform hname
        rw [hop] at hsame
        cases hop' : s'.perform op with
        | none => simp [hop'] at hsame
        | some d' =>
            rw [hop', Option.rel_some_some] at hsame
            obtain ⟨hnamed, rest', hrest', hstate, hevents, hreturned⟩ :=
              ih hsame.state hconfined.named hrest
            refine ⟨hnamed, d'.followedBy rest', ?_, hstate, ?_, ?_⟩
            · rw [run, hop', Option.bind_some, hrest', Option.map_some]
            · rw [Done.followedBy, hsame.events, hevents]
            · rw [Done.followedBy, hsame.returned, hreturned]
      · simp only [hname, if_false, List.nil_append]
        obtain ⟨hnamed, rest', hrest', hstate, hevents, hreturned⟩ :=
          ih (hconfined.alike hname h) hconfined.named hrest
        refine ⟨hnamed, rest', ?_, hstate, hevents, hreturned⟩
        rw [run, Clocked.perform, Option.bind_some, hrest', Option.map_some]
        rfl

end Clocked

namespace Traffic

/-- The event is about `name` or about the clock. -/
def Event.isSeenBy (name : String) : Event → Bool
  | .ensure dependency _ | .start dependency _ | .finish dependency _ _ | .drop dependency _
  | .isolate dependency | .reset dependency => dependency = name
  | .wait _ => true

/-- The two states cannot be told from each other by what happens to `name`. -/
structure Alike (name : String) (t t' : Traffic) : Prop where
  now : t'.now = t.now
  settings : t'.dispatcher.settings = t.dispatcher.settings
  breaker : t'.dispatcher.registry.get? name = t.dispatcher.registry.get? name
  calls : t'.calls name = t.calls name

section Alike

variable {name : String} {t t' : Traffic}

theorem Alike.line (h : Alike name t t') : t'.line name = t.line name := by
  simp only [Traffic.line, Dispatcher.breaker, Breaker.Registry.obtain, Dispatcher.limitsFor, h.now,
    h.settings, h.breaker, h.calls]

theorem Alike.file (h : Alike name t t') (l : Breaker.Traffic) :
    Alike name (t.file name l) (t'.file name l) where
  now := h.now
  settings := h.settings
  breaker := by
    simp only [Traffic.file, Breaker.Registry.get?_put, h.breaker]
  calls := by simp only [Traffic.file, Function.update_self]

/-- What happens to `name` has the same effect in states that are alike. -/
theorem Alike.step (h : Alike name t t') {e : Event} (he : e.isSeenBy name = true) :
    Alike name (t.step e) (t'.step e) := by
  cases e with
  | ensure dependency limits =>
      cases of_decide_eq_true he
      refine ⟨h.now, h.settings, ?_, h.calls⟩
      simp only [Traffic.step, Breaker.Registry.ensure, Breaker.Registry.obtain,
        Breaker.Registry.get?_put, h.breaker]
  | start dependency cancelled =>
      cases of_decide_eq_true he
      rw [Traffic.step, Traffic.step, h.line]
      exact h.file _
  | finish dependency ticket verdict =>
      cases of_decide_eq_true he
      rw [Traffic.step, Traffic.step, h.line]
      exact h.file _
  | drop dependency ticket =>
      cases of_decide_eq_true he
      rw [Traffic.step, Traffic.step, h.line]
      exact h.file _
  | isolate dependency =>
      cases of_decide_eq_true he
      rw [step_isolate, step_isolate, h.line]
      exact h.file _
  | reset dependency =>
      cases of_decide_eq_true he
      cases hget : t.dispatcher.registry.get? name with
      | none =>
          rw [step_reset_unused hget, step_reset_unused (h.breaker.trans hget)]
          exact h
      | some b =>
          rw [step_reset hget, step_reset (h.breaker.trans hget), h.line]
          exact h.file _
  | wait d => exact ⟨congrArg (· + d) h.now, h.settings, h.breaker, h.calls⟩

theorem alike_file {other : String} (hother : name ≠ other)
    {l : Breaker.Traffic} (hl : l.breaker.name = other) : Alike name (t.file other l) t where
  now := rfl
  settings := rfl
  breaker := by
    change _ = (t.dispatcher.registry.put l.breaker).get? name
    rw [Breaker.Registry.get?_put, hl, if_neg hother]
  calls := (Function.update_of_ne hother ..).symm

/-- What happens to another dependency leaves `name` alone. -/
theorem Regular.alike_step (h : t.Regular) {e : Event} (he : e.isSeenBy name = false) :
    Alike name (t.step e) t := by
  have hline (other : String) (e : Breaker.Traffic.Event) :
      ((t.line other).step e).traffic.breaker.name = other :=
    ((h.reached other).run [e]).name_eq
  cases e with
  | ensure other limits =>
      refine ⟨rfl, rfl, ?_, rfl⟩
      change _ = (t.dispatcher.registry.put _).get? name
      rw [Breaker.Registry.get?_put, h.obtain_name, if_neg]
      exact fun hsame => of_decide_eq_false he hsame.symm
  | start other cancelled | finish other ticket verdict | drop other ticket =>
      exact alike_file (fun hsame => of_decide_eq_false he hsame.symm) (hline other _)
  | isolate other =>
      rw [step_isolate]
      exact alike_file (fun hsame => of_decide_eq_false he hsame.symm) (hline other _)
  | reset other =>
      cases hget : t.dispatcher.registry.get? other with
      | none =>
          rw [step_reset_unused hget]
          exact ⟨rfl, rfl, rfl, rfl⟩
      | some b =>
          rw [step_reset hget]
          exact alike_file (fun hsame => of_decide_eq_false he hsame.symm) (hline other _)
  | wait d => cases he

end Alike

/-- Calls may be under way in many dependencies at once: `name` sees nothing but its own. -/
theorem alike_run_filter (settings : Settings) (events : List Event) (name : String) :
    Alike name ((fresh settings).run events)
      ((fresh settings).run (events.filter (Event.isSeenBy name))) := by
  induction events using List.reverseRecOn with
  | nil => exact ⟨rfl, rfl, rfl, rfl⟩
  | append_singleton events e ih =>
      have hconcat (events later : List Event) :
          (fresh settings).run (events ++ later) = ((fresh settings).run events).run later :=
        List.foldl_append
      rw [List.filter_append, hconcat, hconcat]
      cases he : e.isSeenBy name with
      | true =>
          rw [List.filter_singleton, he]
          exact ih.step he
      | false =>
          rw [List.filter_singleton, he]
          have hother := (run_regular settings events).alike_step he
          exact ⟨ih.now.trans hother.now, ih.settings.trans hother.settings,
            ih.breaker.trans hother.breaker, ih.calls.trans hother.calls⟩

end Traffic

end Dispatcher

end ResilientChat
