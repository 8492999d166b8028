import ResilientChat.Proofs.Dispatcher.Lasting
import ResilientChat.Proofs.Http.Health

/-!
The breakers of a service in use. Requests to the gateway and operations on its dispatcher come in
any order; what each of them keeps of the breaker of a name, a sequence of them keeps.
-/

namespace ResilientChat

open Dispatcher (Operation)

namespace Http

theorem Site.Acting.keeps {s : Site} {env : Surroundings} {ask : Ask} {served : Served}
    (h : s.Acting env ask served) (hnamed : s.state.dispatcher.registry.Named) (name : String) :
    s.state.dispatcher.Keeps name served.traces.events served.site.state.dispatcher := by
  cases h with
  | refused => exact Dispatcher.keeps_self name hnamed
  | @isolated used => exact Dispatcher.keeps_isolateWith hnamed fun hname => .inr (hname ▸ rfl)
  | @reset used b hget =>
      obtain ⟨⟨d, events⟩, hreset⟩ : ∃ r, s.state.dispatcher.reset? used env.now = some r := by
        rw [Dispatcher.reset?, Breaker.Registry.reset?, hget]
        exact ⟨_, rfl⟩
      simp only [Site.reset, hreset]
      exact Dispatcher.keeps_reset hnamed hreset name
  | asked hsetup hquestion hctx hanswer =>
      cases hanswer with
      | found => exact Dispatcher.keeps_self name hnamed
      | obtained _ hrun | failed _ hrun => exact Dispatcher.keeps_run hnamed hrun name
  | ran hsetup hctx htool hrun =>
      cases hrun with
      | unknown => exact Dispatcher.keeps_self name hnamed
      | failed _ hsql | unkept _ hsql => exact Dispatcher.keeps_run hnamed hsql name
      | stored _ hsql _ _ _ hsave =>
          -- Two calls in a row: the procedure's, and that of the store for its result.
          have hfirst := Dispatcher.keeps_run hnamed hsql name
          exact hfirst.trans (Dispatcher.keeps_run hfirst.named hsave name)

/-- Something that is done to a service: a request to it, or an operation on its dispatcher. -/
inductive Deed (α : Type) where
  | request (requestId : RequestId) (q : Request)
  | operation (op : Operation α)

namespace Session

variable {α : Type}

/-- The service after a deed, and what happened. None stands for a dependency that never answers. -/
def undergo (s : Session) : Deed α → Option (Session × List Event)
  | .request requestId q =>
    (s.serve requestId q).map fun step => (step.session, step.traces.events)
  | .operation op =>
    (Dispatcher.Clocked.perform ⟨s.dispatcher, s.now⟩ op).map fun done =>
      ({ s with site := s.site.withDispatcher done.state.dispatcher, now := done.state.now },
        done.events)

def undergoAll (s : Session) : List (Deed α) → Option (Session × List Event)
  | [] => some (s, [])
  | deed :: later =>
    (s.undergo deed).bind fun (s', happened) =>
      (s'.undergoAll later).map fun (s'', rest) => (s'', happened ++ rest)

variable {s s' : Session} {name : String} {happened : List Event}

theorem keeps_undergo {deed : Deed α} (h : s.undergo deed = some (s', happened))
    (hnamed : s.dispatcher.registry.Named)
    (hdeed : s.dispatcher.Lists name ∨
      ∀ op, deed = .operation op → op.Tuned s.dispatcher.settings name) :
    s.dispatcher.Keeps name happened s'.dispatcher := by
  cases deed with
  | operation op =>
      obtain ⟨done, hdone, hs⟩ := Option.map_eq_some_iff.mp h
      cases hs
      exact Dispatcher.keeps_perform hnamed (hdeed.imp_right fun htuned => htuned op rfl) hdone
  | request requestId q =>
      obtain ⟨step, hserve, hs⟩ := Option.map_eq_some_iff.mp h
      cases hs
      cases hask : q.ask? with
      | none =>
          obtain ⟨response, hnone, -⟩ := s.serve_of_ask?_eq_none requestId hask
          cases hnone.symm.trans hserve
          exact Dispatcher.keeps_self name hnamed
      | some ask =>
          obtain ⟨served, hact, rfl⟩ := Option.map_eq_some_iff.mp hserve
          rw [Site.serve_of_ask? _ _ hask] at hact
          exact (Site.acting_of_act hact).keeps hnamed name

theorem keeps_undergoAll {deeds : List (Deed α)} (h : s.undergoAll deeds = some (s', happened))
    (hnamed : s.dispatcher.registry.Named)
    (hdeeds : s.dispatcher.Lists name ∨
      ∀ op, .operation op ∈ deeds → op.Tuned s.dispatcher.settings name) :
    s.dispatcher.Keeps name happened s'.dispatcher := by
  induction deeds generalizing s happened with
  | nil =>
      cases h
      exact Dispatcher.keeps_self name hnamed
  | cons deed later ih =>
      obtain ⟨⟨middle, first⟩, hdeed, hlater⟩ := Option.bind_eq_some_iff.mp h
      obtain ⟨⟨last, rest⟩, hrest, hs⟩ := Option.map_eq_some_iff.mp hlater
      cases hs
      have hfirst := keeps_undergo hdeed hnamed <| hdeeds.imp_right fun htuned op hop =>
        htuned op (hop ▸ List.mem_cons_self)
      refine hfirst.trans (ih hrest hfirst.named ?_)
      refine hdeeds.imp hfirst.lists fun htuned op hmem => ?_
      rw [hfirst.settings]
      exact htuned op (List.mem_cons_of_mem deed hmem)

theorem lists_of_undergoAll {deeds : List (Deed α)}
    (h : s.undergoAll deeds = some (s', happened)) (hnamed : s.dispatcher.registry.Named)
    (htuned : ∀ op, .operation op ∈ deeds → op.Tuned s.dispatcher.settings name)
    (huses : ∃ op, .operation op ∈ deeds ∧ op.Uses name) : s'.dispatcher.Lists name := by
  induction deeds generalizing s happened with
  | nil =>
      obtain ⟨op, hmem, -⟩ := huses
      cases hmem
  | cons deed later ih =>
      obtain ⟨⟨middle, first⟩, hdeed, hlater⟩ := Option.bind_eq_some_iff.mp h
      obtain ⟨⟨last, rest⟩, hrest, hs⟩ := Option.map_eq_some_iff.mp hlater
      cases hs
      have hfirst := keeps_undergo hdeed hnamed <| .inr fun op hop =>
        htuned op (hop ▸ List.mem_cons_self)
      have htuned' (op : Operation α) (hmem : .operation op ∈ later) :
          op.Tuned middle.dispatcher.settings name := by
        rw [hfirst.settings]
        exact htuned op (List.mem_cons_of_mem deed hmem)
      obtain ⟨op, hmem, hop⟩ := huses
      rcases List.mem_cons.mp hmem with rfl | hmem
      · obtain ⟨done, hdone, hs⟩ := Option.map_eq_some_iff.mp hdeed
        cases hs
        exact (keeps_undergoAll hrest hfirst.named (.inr htuned')).lists
          (Dispatcher.lists_of_perform hnamed hdone hop)
      · exact ih hrest hfirst.named htuned' ⟨op, hmem, hop⟩

end Session

/-- There is one breaker for each name, made by the tuning of the name, and it lasts. (1) Requests
to the gateway and operations on the dispatcher come in any order. If nobody has asked for the
breaker of the name with other limits than its own before, then the breaker that is there holds what
was said, whether it was made by a call, by a call that was given up before it started, by a lookup
or by an isolation; and whatever follows, with whatever limits the breaker is asked for, it is still
there, has become what it is by being used, and holds the same. (2) Where calls overlap, the breaker
has seen exactly the events of its name, in their order. -/
theorem one_breaker_per_name {α : Type} (settings : Settings) (name : String) :
    (∀ setup backends startedAt (earlier later : List (Deed α)) (s s' : Session)
        (happened happened' : List Event),
      (Session.fresh settings setup backends startedAt).undergoAll earlier = some (s, happened) →
      (∀ op, .operation op ∈ earlier → op.Tuned settings name) →
      s.undergoAll later = some (s', happened') →
      ((∃ op, .operation op ∈ earlier ∧ op.Uses name) → s.dispatcher.Lists name) ∧
        (s.dispatcher.Lists name → ∃ b b', b.Becomes b' ∧
          s.dispatcher.Holds settings name happened b ∧
          s'.dispatcher.Holds settings name (happened ++ happened') b')) ∧
    ∀ earlier later : List Dispatcher.Traffic.Event,
      (∀ limits, .ensure name limits ∈ earlier → limits = .ofTuning (settings.tuningFor name)) →
      ((Dispatcher.Traffic.fresh settings).run earlier).dispatcher.Lists name →
      ((Dispatcher.Traffic.fresh settings).run (earlier ++ later)).line name =
        (Breaker.Traffic.fresh name (.ofTuning (settings.tuningFor name))).run
          ((earlier ++ later).filterMap (Dispatcher.Traffic.Event.on? name)) := by
  refine ⟨?_, fun earlier later => Dispatcher.Traffic.line_run_fresh⟩
  intro setup backends startedAt earlier later s s' happened happened' hearlier htuned hlater
  have hnamed : (Dispatcher.ofSettings settings).registry.Named :=
    (Dispatcher.tidy_ofSettings settings).named
  have hkeeps := Session.keeps_undergoAll hearlier hnamed (.inr htuned)
  refine ⟨Session.lists_of_undergoAll hearlier hnamed htuned, fun hlists => ?_⟩
  have hkeeps' := Session.keeps_undergoAll hlater hkeeps.named (.inl hlists)
  exact ⟨_, _, hkeeps'.becomes, hkeeps.holds hlists,
    (hkeeps.trans hkeeps').holds (hkeeps'.lists hlists)⟩

def wary : Settings :=
  { dependencies := (∅ : NameMap Tuning).insert "llm" { failureThreshold := 2, maxRetries := 0 } }

/-- Calls of a model that times out, each for a caller with that token. -/
def timingOut (callers : List Cancellation) : List (Deed Unit) :=
  callers.map fun caller =>
    .operation (.run "llm" id (fun _ => { result := .error .timeout }) caller)

/-- A model that is first called by a caller who has given up has the breaker of its own tuning,
also when other limits are asked for later: its second failure opens the circuit. -/
theorem given_up_first_call_makes_tuned_breaker :
    ∃ s happened s' happened' b,
      (Session.fresh wary none shop.backends 0).undergoAll (timingOut [some 0]) =
        some (s, happened) ∧
      s.undergoAll (.operation (.ensure "llm" { threshold := 9 }) :: timingOut [none, none]) =
        some (s', happened') ∧
      s'.dispatcher.Holds wary "llm" (happened ++ happened') b ∧ b.limits.threshold = 2 ∧
      b.phase = .opened ∧ b.metrics.tally .cancelled = 1 ∧ b.metrics.tally .failure = 2 := by
  have hruns : ((Session.fresh wary none shop.backends 0).undergoAll (timingOut [some 0])).any
      (fun r => (r.1.undergoAll (.operation (.ensure "llm" { threshold := 9 }) ::
        timingOut [none, none])).any fun r' =>
          (r'.1.dispatcher.registry.get? "llm").any (·.phase = .opened) ∧
          (r.2 ++ r'.2).countP (·.Ends "llm" .cancelled) = 1 ∧
          (r.2 ++ r'.2).countP (·.Ends "llm" .failure) = 2) := by
    decide +kernel
  obtain ⟨⟨s, happened⟩, hearlier, hlater⟩ := (Option.any_eq_true _ _).mp hruns
  obtain ⟨⟨s', happened'⟩, hlater, hends⟩ := (Option.any_eq_true _ _).mp hlater
  obtain ⟨hopened, hcancelled, hfailures⟩ := of_decide_eq_true hends
  obtain ⟨hmakes, hlasts⟩ := (one_breaker_per_name wary "llm").1 none shop.backends 0 _ _ s s'
    happened happened' hearlier (by simp [timingOut, Dispatcher.Operation.Tuned]) hlater
  have hlists : s.dispatcher.Lists "llm" := hmakes ⟨_, List.mem_singleton_self _, rfl⟩
  obtain ⟨-, b, -, -, hholds⟩ := hlasts hlists
  obtain ⟨b', hget, hphase⟩ := (Option.any_eq_true _ _).mp hopened
  obtain rfl := Option.some.inj (hget.symm.trans hholds.get?)
  refine ⟨s, happened, s', happened', b', hearlier, hlater, hholds, ?_,
    of_decide_eq_true hphase, ?_, ?_⟩
  · rw [hholds.limits]
    decide +kernel
  · rw [hholds.tally, hcancelled]
    rfl
  · rw [hholds.tally, hfailures]
    rfl

end Http

end ResilientChat
