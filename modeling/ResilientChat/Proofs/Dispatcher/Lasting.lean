import ResilientChat.Proofs.Dispatcher.Upkeep

/-!
The one breaker of a name. A dispatcher makes the breaker of a name when this is first used, by its
own tuning, and whatever is asked of the dispatcher afterwards uses that breaker: it is never made
anew, and nothing that it has counted is lost. The breaker that is not there yet is the one that
will be made, so that the first use is no case of its own.
-/

namespace ResilientChat

namespace Breaker

/-- The second breaker is what has become of the first one: calls through it were started, finished
or dropped, and operators isolated and reset it. -/
inductive Becomes (b : Breaker) : Breaker → Prop
  | unused : Becomes b b
  | used {t : Traffic} (h : Becomes b t.breaker) (e : Traffic.Event) :
      Becomes b (t.step e).traffic.breaker

section Becomes

variable {b b' b'' : Breaker}

theorem Becomes.trans (h : b.Becomes b') (h' : b'.Becomes b'') : b.Becomes b'' := by
  induction h' with
  | unused => exact h
  | used _ e ih => exact ih.used e

theorem Becomes.name_eq (h : b.Becomes b') : b'.name = b.name := by
  induction h with
  | unused => rfl
  | @used t _ e ih => exact (Traffic.step_transit t e).name_eq.trans ih

theorem Becomes.limits_eq (h : b.Becomes b') : b'.limits = b.limits := by
  induction h with
  | unused => rfl
  | @used t _ e ih => exact (Traffic.step_transit t e).limits_eq.trans ih

theorem becomes_isolate (b : Breaker) (now : Instant) : b.Becomes (b.isolate now).breaker :=
  Becomes.used (t := ⟨b, now, 0, []⟩) .unused .isolate

theorem becomes_reset (b : Breaker) (now : Instant) : b.Becomes (b.reset now).breaker :=
  Becomes.used (t := ⟨b, now, 0, []⟩) .unused .reset

theorem becomes_complete (b : Breaker) (a : Admission) (v : Verdict) (now : Instant) :
    b.Becomes (b.complete a v now).breaker :=
  Becomes.used (t := ⟨b, now, 1, [(0, a)]⟩) .unused (.finish 0 v)

theorem becomes_start (b : Breaker) (cancelled : Bool) (now : Instant) :
    b.Becomes (b.start (ε := Fault) cancelled now).1.breaker := by
  have h := Becomes.used (t := ⟨b, now, 0, []⟩) .unused (.start cancelled)
  have hsame : ((⟨b, now, 0, []⟩ : Traffic).step (.start cancelled)).traffic.breaker =
      (b.start (ε := Fault) cancelled now).1.breaker := by
    rcases hstart : b.start (ε := Fault) cancelled now with ⟨m, failure | a⟩ <;>
      simp [Traffic.step, Traffic.start, hstart, Traffic.moved]
  rwa [hsame] at h

/-- A whole call is a use of its breaker. -/
theorem becomes_guard {α : Type} {action : Instant → Cancellation → Option (Call α)}
    {now : Instant} {caller : Cancellation} {g : Guarded α}
    (h : b.guard action now caller = some g) : b.Becomes g.breaker := by
  have hstarted := b.becomes_start (caller.isDue now) now
  rw [guard] at h
  rcases hstart : b.start (ε := Fault) (caller.isDue now) now with ⟨m, failure | a⟩
  · rw [hstart] at h hstarted
    cases h
    exact hstarted
  · rw [hstart] at h hstarted
    obtain ⟨call, -, rfl⟩ := Option.map_eq_some_iff.mp h
    exact hstarted.trans (becomes_complete _ a _ _)

theorem isolate_tally (b : Breaker) (now : Instant) (o : Outcome) :
    (b.isolate now).breaker.metrics.tally o = b.metrics.tally o := by
  by_cases hphase : b.phase = .isolated
  · rw [isolate_of_eq now hphase]
    rfl
  · rw [isolate_of_ne now hphase]
    rfl

theorem reset_tally (b : Breaker) (now : Instant) (o : Outcome) :
    (b.reset now).breaker.metrics.tally o = b.metrics.tally o := by
  by_cases hphase : b.phase = .closed
  · rw [reset_of_eq now hphase]
    rfl
  · rw [reset_of_ne now hphase]
    rfl

end Becomes

end Breaker

def Event.Ends (name : String) (o : Outcome) (e : Event) : Prop :=
  ∃ elapsed, e = .outcome name o elapsed

@[simp] theorem Event.outcome_ends_iff {name dependency : String} {o o' : Outcome}
    {elapsed : Duration} :
    (Event.outcome dependency o' elapsed).Ends name o ↔ dependency = name ∧ o' = o := by
  simp [Ends]

instance (name : String) (o : Outcome) (e : Event) : Decidable (e.Ends name o) :=
  match e with
  | .outcome dependency o' _ =>
    decidable_of_iff (dependency = name ∧ o' = o) Event.outcome_ends_iff.symm
  | .attempt .. | .transition .. => .isFalse nofun

namespace Dispatcher

variable {α : Type}

/-- What a change of a dispatcher, in which those events happened, keeps of the breaker of a name.
-/
structure Keeps (name : String) (d : Dispatcher) (happened : List Event) (d' : Dispatcher) :
    Prop where
  settings : d'.settings = d.settings
  named : d'.registry.Named
  /-- A breaker that is there stays. -/
  lists : d.Lists name → d'.Lists name
  /-- The breaker that is there, or that will be made, is not replaced. -/
  becomes : (d.breaker name).Becomes (d'.breaker name)
  /-- Its counters have grown by the calls that ended. -/
  tally : ∀ o, (d'.breaker name).metrics.tally o =
    (d.breaker name).metrics.tally o + .ofNat (happened.countP (·.Ends name o))

section Keeps

variable {name used : String} {d d' d'' : Dispatcher} {happened later : List Event}

theorem Lists.put (h : d.Lists name) (b : Breaker) {backoffs : Backoffs d.settings} :
    Lists ⟨d.settings, d.registry.put b, backoffs⟩ name :=
  lists_put_iff.mpr (.inl h)

theorem keeps_self (name : String) (h : d.registry.Named) : d.Keeps name [] d :=
  ⟨rfl, h, id, .unused, fun _ => (UInt64.add_zero _).symm⟩

theorem Keeps.trans (h : d.Keeps name happened d') (h' : d'.Keeps name later d'') :
    d.Keeps name (happened ++ later) d'' where
  settings := h'.settings.trans h.settings
  named := h'.named
  lists := h'.lists ∘ h.lists
  becomes := h.becomes.trans h'.becomes
  tally := by
    intro o
    rw [h'.tally, h.tally, List.countP_append, UInt64.ofNat_add, UInt64.add_assoc]

theorem countP_changeEvents (name used : String) (change : Option Breaker.Change) (o : Outcome) :
    (changeEvents used change).countP (·.Ends name o) = 0 := by
  cases change <;> rfl

theorem countP_events (name : String) (started : Instant) (g : Breaker.Guarded α) (o : Outcome) :
    (events name started g).countP (·.Ends name o) =
      if o = Outcome.ofResult g.call.result then 1 else 0 := by
  have hreports : (g.call.reports.map (Event.attempt name)).countP (·.Ends name o) = 0 := by
    rw [List.countP_map]
    exact List.countP_eq_zero.mpr fun _ _ => nofun
  simp [events, List.countP_append, countP_changeEvents, hreports, eq_comm]

/-- Another breaker of a name; it matters only to that name where it comes from. -/
theorem keeps_put (h : d.registry.Named) {b : Breaker} {backoffs : Backoffs d.settings}
    (hname : b.name = used) (hevents : ∀ e ∈ happened, e.dependency = used)
    (huse : name = used → (d.breaker name).Becomes b ∧ ∀ o, b.metrics.tally o =
      (d.breaker name).metrics.tally o + .ofNat (happened.countP (·.Ends name o))) :
    d.Keeps name happened ⟨d.settings, d.registry.put b, backoffs⟩ := by
  have hbreaker : Dispatcher.breaker ⟨d.settings, d.registry.put b, backoffs⟩ name =
      if name = used then b else d.breaker name := by
    rw [breaker, Breaker.Registry.obtain_put, hname]
    rfl
  refine ⟨rfl, h.put b, fun hlists => hlists.put b, ?_, fun o => ?_⟩
  · rw [hbreaker]
    split
    · next hkey => exact (huse hkey).1
    · exact .unused
  · rw [hbreaker]
    split
    · next hkey => exact (huse hkey).2 o
    · next hkey =>
      have hnone : happened.countP (·.Ends name o) = 0 := by
        refine List.countP_eq_zero.mpr fun e he hends => ?_
        obtain ⟨elapsed, rfl⟩ := of_decide_eq_true hends
        exact hkey (hevents _ he)
      rw [hnone]
      exact (UInt64.add_zero _).symm

theorem keeps_run {draws : Nat → Nat} {script : Script α} {now : Instant} {caller : Cancellation}
    {done : Dispatched α} (h : d.registry.Named)
    (hrun : d.run used draws script now caller = some done) (name : String) :
    d.Keeps name done.events done.dispatcher := by
  rw [run_eq] at hrun
  obtain ⟨g, hg, rfl⟩ := Option.map_eq_some_iff.mp hrun
  have hbecomes := Breaker.becomes_guard hg
  refine keeps_put h (hbecomes.name_eq.trans (h.obtain_name used _))
    (fun e => Clocked.dependency_of_mem_events) ?_
  rintro rfl
  refine ⟨hbecomes, fun o => ?_⟩
  have htally := (Breaker.guard_passage hg).tally
    (fun call hcall => Backoff.run_not_refused hcall) o
  rw [htally, dispatched, countP_events]
  split <;> rfl

/-- The breaker of a name that is there already, or that is asked for with its own limits. -/
theorem obtain_eq_breaker {limits : Breaker.Limits} (h : d.Lists name ∨ limits = d.limitsFor name) :
    d.registry.obtain name limits = d.breaker name := by
  rcases h with hlists | rfl
  · obtain ⟨b, hget⟩ := Option.isSome_iff_exists.mp hlists
    rw [breaker_of_get? hget, Breaker.Registry.obtain_of_get? hget]
  · rfl

theorem keeps_isolateWith (h : d.registry.Named) {limits : Breaker.Limits} {now : Instant}
    (hown : name = used → d.Lists name ∨ limits = d.limitsFor name) :
    d.Keeps name (changeEvents used (d.registry.isolateWith used limits now).2.change)
      { d with registry := (d.registry.isolateWith used limits now).1 } := by
  have hname : ((d.registry.obtain used limits).isolate now).breaker.name = used := by
    rw [Breaker.isolate_name, h.obtain_name]
  refine keeps_put h hname (fun e => Clocked.dependency_of_mem_changeEvents) ?_
  rintro rfl
  rw [obtain_eq_breaker (hown rfl)]
  refine ⟨Breaker.becomes_isolate _ now, fun o => ?_⟩
  rw [Breaker.isolate_tally, countP_changeEvents]
  exact (UInt64.add_zero _).symm

theorem keeps_ensure (h : d.registry.Named) {limits : Breaker.Limits}
    (hown : name = used → d.Lists name ∨ limits = d.limitsFor name) :
    d.Keeps name [] { d with registry := d.registry.ensure used limits } := by
  refine keeps_put h (h.obtain_name used limits) nofun ?_
  rintro rfl
  rw [obtain_eq_breaker (hown rfl)]
  exact ⟨.unused, fun o => (UInt64.add_zero _).symm⟩

theorem keeps_reset (h : d.registry.Named) {now : Instant} {happened : List Event}
    (hreset : d.reset? used now = some (d', happened)) (name : String) :
    d.Keeps name happened d' := by
  obtain ⟨⟨registry, moved⟩, hmoved, hd⟩ := Option.map_eq_some_iff.mp hreset
  obtain ⟨b, hget, hb⟩ := Option.map_eq_some_iff.mp hmoved
  cases hb
  cases hd
  have hname : (b.reset now).breaker.name = used := by
    rw [Breaker.reset_name]
    exact h used b hget
  refine keeps_put h hname (fun e => Clocked.dependency_of_mem_changeEvents) ?_
  rintro rfl
  rw [breaker_of_get? hget]
  refine ⟨Breaker.becomes_reset b now, fun o => ?_⟩
  rw [Breaker.reset_tally, countP_changeEvents]
  exact (UInt64.add_zero _).symm

end Keeps

/-- The operation makes no breaker of that name with other limits than those of its tuning. -/
def Operation.Tuned (settings : Settings) (name : String) : Operation α → Prop
  | .ensure used limits => used = name → limits = Breaker.Limits.ofTuning (settings.tuningFor name)
  | .isolateUntuned used => used ≠ name
  | .run .. | .isolate _ | .reset _ | .wait _ => True

/-- Limits count only for a breaker that is not there yet. -/
theorem keeps_perform {s : Clocked} {name : String} {op : Operation α} {done : Done α}
    (h : s.dispatcher.registry.Named)
    (hop : s.dispatcher.Lists name ∨ op.Tuned s.dispatcher.settings name)
    (hdone : s.perform op = some done) :
    s.dispatcher.Keeps name done.events done.state.dispatcher := by
  cases op with
  | run used draws script caller =>
      obtain ⟨d, hrun, rfl⟩ := Option.map_eq_some_iff.mp hdone
      exact keeps_run h hrun name
  | ensure used limits =>
      cases hdone
      exact keeps_ensure h fun hname => hop.imp_right fun htuned => htuned hname.symm
  | isolate used =>
      cases hdone
      exact keeps_isolateWith h fun hname => .inr (hname ▸ rfl)
  | isolateUntuned used =>
      cases hdone
      exact keeps_isolateWith h fun hname => hop.imp_right fun htuned => absurd hname.symm htuned
  | reset used =>
      simp only [Clocked.perform] at hdone
      cases hreset : s.dispatcher.reset? used s.now with
      | none =>
          rw [hreset] at hdone
          cases hdone
          exact keeps_self name h
      | some moved =>
          rw [hreset] at hdone
          cases hdone
          exact keeps_reset h hreset name
  | wait d =>
      cases hdone
      exact keeps_self name h

/-- The operation uses the breaker of that name, which is there afterwards. -/
def Operation.Uses (name : String) : Operation α → Prop
  | .run used .. | .ensure used _ | .isolate used | .isolateUntuned used => used = name
  | .reset _ | .wait _ => False

theorem lists_of_perform {s : Clocked} {name : String} {op : Operation α} {done : Done α}
    (h : s.dispatcher.registry.Named) (hdone : s.perform op = some done) (huses : op.Uses name) :
    done.state.dispatcher.Lists name := by
  cases op with
  | run used draws script caller =>
      cases huses
      obtain ⟨d, hrun, rfl⟩ := Option.map_eq_some_iff.mp hdone
      obtain ⟨g, hpassage, rfl⟩ := passage_of_run hrun
      have hname := hpassage.name_eq.trans (h.obtain_name name _)
      exact lists_put_iff.mpr (.inr hname.symm)
  | ensure used limits =>
      cases huses
      cases hdone
      exact lists_put_iff.mpr (.inr (h.obtain_name name limits).symm)
  | isolate used | isolateUntuned used =>
      cases huses
      cases hdone
      refine lists_put_iff.mpr (.inr ?_)
      rw [Breaker.isolate_name, h.obtain_name]
  | reset | wait => cases huses

/-- The only breaker of that name is `b`. It was made by the tuning that those settings have for the
name, and it has served since: its counters tell of all calls in what happened. Calls through it are
repeated by the same tuning. -/
structure Holds (d : Dispatcher) (settings : Settings) (name : String) (happened : List Event)
    (b : Breaker) : Prop where
  get? : d.registry.get? name = some b
  only : ∀ c ∈ d.registry.breakers.values, c.name = name → c = b
  made : Breaker.Becomes { name, limits := .ofTuning (settings.tuningFor name) } b
  limits : b.limits = .ofTuning (settings.tuningFor name)
  tally : ∀ o, b.metrics.tally o = .ofNat (happened.countP (·.Ends name o))
  run : ∀ {α : Type} (draws : Nat → Nat) (script : Script α) (now : Instant)
    (caller : Cancellation), d.run name draws script now caller =
      (b.callRepeated (Backoff.ofTuning (settings.tuningFor name)) draws script now caller).map
        (d.dispatched name now)

theorem Keeps.holds {settings : Settings} {name : String} {happened : List Event} {d : Dispatcher}
    (h : (ofSettings settings).Keeps name happened d) (hlists : d.Lists name) :
    d.Holds settings name happened (d.breaker name) := by
  obtain ⟨b, hget⟩ := Option.isSome_iff_exists.mp hlists
  have hbreaker := breaker_of_get? hget
  refine ⟨hbreaker ▸ hget, fun c hmem hname => ?_, h.becomes, h.becomes.limits_eq, fun o => ?_, ?_⟩
  · obtain ⟨⟨key, c'⟩, he, rfl⟩ := List.mem_map.mp hmem
    have hkey := (d.registry.breakers.get?_eq_some_iff_mem).mpr he
    have hsame : key = name := (h.named key c' hkey).symm.trans hname
    subst hsame
    rw [hbreaker]
    exact Option.some.inj (hkey.symm.trans hget)
  · rw [h.tally]
    cases o <;> exact UInt64.zero_add _
  · intro α draws script now caller
    have hsettings : d.settings = settings := h.settings
    rw [run_eq, backoffFor, hsettings]

namespace Traffic

def Event.on? (name : String) : Event → Option Breaker.Traffic.Event
  | .ensure .. => none
  | .start used cancelled => if used = name then some (.start cancelled) else none
  | .finish used ticket verdict => if used = name then some (.finish ticket verdict) else none
  | .drop used ticket => if used = name then some (.drop ticket) else none
  | .isolate used => if used = name then some .isolate else none
  | .reset used => if used = name then some .reset else none
  | .wait d => some (.wait d)

section Line

variable {t : Traffic} {name : String}

/-- What has not been used is as it will be made. -/
theorem Regular.line_unused (h : t.Regular) (hget : t.dispatcher.registry.get? name = none) :
    t.line name = { breaker := { name, limits := t.dispatcher.limitsFor name }, now := t.now } := by
  simp [line, breaker, Breaker.Registry.obtain, hget, h.unused name hget]

theorem Regular.line_file_step (h : t.Regular) (used : String) {e : Breaker.Traffic.Event}
    (he : ∀ d, e ≠ .wait d) :
    (t.file used ((t.line used).step e).traffic).line name =
      (t.line name).run (if used = name then some e else none).toList := by
  have hname : ((t.line used).step e).traffic.breaker.name = used :=
    ((h.reached used).run [e]).name_eq
  rw [line_file hname (Breaker.Traffic.now_step _ e he)]
  by_cases hused : used = name
  · subst hused
    rw [if_pos rfl, if_pos rfl]
    rfl
  · rw [if_neg hused, if_neg (Ne.symm hused)]
    rfl

/-- An event does to the line of a name what it is to its breaker. -/
theorem Regular.line_step (h : t.Regular) {e : Event}
    (hown : ∀ limits, e = .ensure name limits →
      t.dispatcher.Lists name ∨ limits = t.dispatcher.limitsFor name) :
    (t.step e).line name = (t.line name).run (e.on? name).toList := by
  cases e with
  | ensure used limits =>
      rw [h.line_ensure]
      split
      · next hname =>
        subst hname
        rw [obtain_eq_breaker (hown limits rfl)]
        rfl
      · rfl
  | start used cancelled | finish used ticket verdict | drop used ticket =>
      exact h.line_file_step used nofun
  | isolate used =>
      rw [step_isolate]
      exact h.line_file_step used nofun
  | reset used =>
      cases hget : t.dispatcher.registry.get? used with
      | some b =>
          rw [step_reset hget]
          exact h.line_file_step used nofun
      | none =>
          -- The reset of a breaker that is only going to be made leaves it as it will be made.
          rw [step_reset_unused hget, Event.on?]
          split
          · next hname =>
            subst hname
            rw [h.line_unused hget]
            rfl
          · rfl
  | wait d => rfl

/-- A breaker that is there stays. -/
theorem lists_step (h : t.dispatcher.Lists name) (e : Event) :
    (t.step e).dispatcher.Lists name := by
  cases e with
  | ensure | start | finish | drop | isolate => exact h.put _
  | reset used =>
      cases hget : t.dispatcher.registry.get? used with
      | none => rwa [step_reset_unused hget]
      | some b =>
          rw [step_reset hget]
          exact h.put _
  | wait => exact h

/-- The line of a name sees what happens to the name. Limits that a breaker is asked for with are
its own, unless it is there. -/
theorem Regular.line_run (h : t.Regular) {events : List Event}
    (hown : t.dispatcher.Lists name ∨
      ∀ limits, .ensure name limits ∈ events → limits = t.dispatcher.limitsFor name) :
    (t.run events).line name = (t.line name).run (events.filterMap (Event.on? name)) := by
  induction events generalizing t with
  | nil => rfl
  | cons e events ih =>
      have hfirst := h.line_step (e := e) fun limits he =>
        hown.imp_right fun hown => hown limits (he ▸ List.mem_cons_self)
      have hrest := ih (h.step e) <| hown.imp (lists_step · e) fun hown limits hmem => by
        rw [limitsFor, step_settings]
        exact hown limits (List.mem_cons_of_mem e hmem)
      have hsplit : (e :: events).filterMap (Event.on? name) =
          (e.on? name).toList ++ events.filterMap (Event.on? name) := by
        cases hon : e.on? name <;> simp [hon]
      calc
        (t.run (e :: events)).line name = ((t.step e).run events).line name := rfl
        _ = ((t.line name).run (e.on? name).toList).run (events.filterMap (Event.on? name)) := by
          rw [hrest, hfirst]
        _ = (t.line name).run ((e :: events).filterMap (Event.on? name)) := by
          rw [hsplit, Breaker.Traffic.run, Breaker.Traffic.run, Breaker.Traffic.run,
            List.foldl_append]

end Line

/-- Until a name has a breaker, this is asked for with its own limits only. Its line is then that of
one breaker that was made with these and sees all that happens to the name. -/
theorem line_run_fresh {settings : Settings} {name : String} {earlier later : List Event}
    (htuned : ∀ limits, .ensure name limits ∈ earlier →
      limits = .ofTuning (settings.tuningFor name))
    (hlists : ((fresh settings).run earlier).dispatcher.Lists name) :
    ((fresh settings).run (earlier ++ later)).line name =
      (Breaker.Traffic.fresh name (.ofTuning (settings.tuningFor name))).run
        ((earlier ++ later).filterMap (Event.on? name)) := by
  have hregular := run_regular settings earlier
  have hfirst : ((fresh settings).run earlier).line name =
      (Breaker.Traffic.fresh name (.ofTuning (settings.tuningFor name))).run
        (earlier.filterMap (Event.on? name)) := (fresh_regular settings).line_run (.inr htuned)
  calc
    ((fresh settings).run (earlier ++ later)).line name
        = (((fresh settings).run earlier).run later).line name := by
      rw [run, List.foldl_append]
      rfl
    _ = (((fresh settings).run earlier).line name).run (later.filterMap (Event.on? name)) :=
      hregular.line_run (.inl hlists)
    _ = _ := by
      rw [hfirst, List.filterMap_append, Breaker.Traffic.run, Breaker.Traffic.run,
        Breaker.Traffic.run, List.foldl_append]

end Traffic

end Dispatcher

end ResilientChat
