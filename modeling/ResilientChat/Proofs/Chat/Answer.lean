import ResilientChat.Chat.Service
import ResilientChat.Proofs.Cache.Store
import ResilientChat.Proofs.Dispatcher.Call

/-!
How a question is answered. There are three ways: the cache has an answer, the model gives one, or
the call of the model fails. Whether the cache has one depends on the cache, the policy and the
clock, and on nothing else.
-/

namespace ResilientChat

namespace Chat

namespace Setup

inductive Answering (s : Setup) (state : State) (world : World) (ctx : RequestContext)
    (question : String) (m : Moment) : Handled Answer → Prop
  | found {cache : AnswerGate} {hit : CachedAnswer}
      (hget : state.cache.get ctx.policy (s.keyOf ctx question) m.now = (cache, some hit)) :
      Answering s state world ctx question m
        { result := .ok (.ofCached hit), state := { state with cache }, moment := m }
  | obtained {cache : AnswerGate} {d : Dispatcher.Dispatched Completion.Response}
      {r : Completion.Response}
      (hget : state.cache.get ctx.policy (s.keyOf ctx question) m.now = (cache, none))
      (hrun : state.dispatcher.run modelDependency world.draws world.model m.now m.caller = some d)
      (hresult : d.result = .ok r) :
      Answering s state world ctx question m
        { result := .ok (.ofResponse r)
          state :=
            ⟨d.dispatcher,
              (cache.put ctx.policy (s.keyOf ctx question) ⟨r.content, r.model⟩ d.endsAt).1⟩
          moment := ⟨d.endsAt, d.caller⟩
          events := d.events
          modelCalls := List.replicate d.calls (s.requestOf ctx question) }
  | failed {cache : AnswerGate} {d : Dispatcher.Dispatched Completion.Response}
      {failure : CallFailure Fault}
      (hget : state.cache.get ctx.policy (s.keyOf ctx question) m.now = (cache, none))
      (hrun : state.dispatcher.run modelDependency world.draws world.model m.now m.caller = some d)
      (hresult : d.result = .error failure) :
      Answering s state world ctx question m
        { result := .error (.ofCall modelDependency failure)
          state := ⟨d.dispatcher, cache⟩
          moment := ⟨d.endsAt, d.caller⟩
          events := d.events
          modelCalls := List.replicate d.calls (s.requestOf ctx question) }

variable {s : Setup} {state : State} {world : World} {ctx : RequestContext} {question : String}
  {m : Moment} {h : Handled Answer}

theorem answering_of_answer (hanswer : s.answer state world ctx question m = some h) :
    s.Answering state world ctx question m h := by
  rw [answer] at hanswer
  rcases hget : state.cache.get ctx.policy (s.keyOf ctx question) m.now with ⟨cache, hit | hit⟩
  · simp only [hget] at hanswer
    obtain ⟨d, hrun, rfl⟩ := Option.map_eq_some_iff.mp hanswer
    cases hresult : d.result with
    | ok r => exact .obtained hget hrun hresult
    | error failure => exact .failed hget hrun hresult
  · simp only [hget, Option.some.injEq] at hanswer
    subst hanswer
    exact .found hget

theorem exists_answer (hreturns : world.model.Returns) (s : Setup) (state : State)
    (ctx : RequestContext) (question : String) (m : Moment) :
    ∃ h, s.answer state world ctx question m = some h := by
  rw [answer]
  rcases state.cache.get ctx.policy (s.keyOf ctx question) m.now with ⟨cache, _ | hit⟩
  · obtain ⟨d, hrun⟩ := Dispatcher.exists_run hreturns state.dispatcher modelDependency world.draws
      m.now m.caller
    exact ⟨_, congrArg (Option.map _) hrun⟩
  · exact ⟨_, rfl⟩

/-- The model is sent something exactly if the cache has no answer that the policy lets it give and
the circuit lets the call through. -/
theorem Answering.modelCalls_ne_nil_iff (hanswer : s.Answering state world ctx question m h) :
    h.modelCalls ≠ [] ↔
      (state.cache.get ctx.policy (s.keyOf ctx question) m.now).2 = none ∧
        state.dispatcher.LetsThrough modelDependency m.now m.caller := by
  cases hanswer with
  | found hget => simp [hget]
  | obtained hget hrun | failed hget hrun =>
      rw [hget, ← Dispatcher.calls_pos_iff_of_run hrun]
      simp [List.replicate_eq_nil_iff, Nat.pos_iff_ne_zero]

theorem Answering.eq_requestOf (hanswer : s.Answering state world ctx question m h)
    {r : Completion.Request} (hmem : r ∈ h.modelCalls) : r = s.requestOf ctx question := by
  cases hanswer with
  | found => cases hmem
  | obtained | failed => exact List.eq_of_mem_replicate hmem

theorem Answering.le_now (hanswer : s.Answering state world ctx question m h) :
    m.now ≤ h.moment.now := by
  cases hanswer with
  | found => exact Nat.le_refl _
  | obtained _ hrun | failed _ hrun => exact Dispatcher.le_endsAt_of_run hrun

/-- A found answer is given whatever the circuits, the model and the caller do. -/
theorem answer_of_found {cache : AnswerGate} {hit : CachedAnswer}
    (hget : state.cache.get ctx.policy (s.keyOf ctx question) m.now = (cache, some hit)) :
    s.answer state world ctx question m =
      some { result := .ok (.ofCached hit), state := { state with cache }, moment := m } := by
  simp only [answer, hget]

end Setup

end Chat

end ResilientChat
