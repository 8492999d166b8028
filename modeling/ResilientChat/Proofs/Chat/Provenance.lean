import ResilientChat.Proofs.Chat.Answer
import ResilientChat.Proofs.Chat.Running

/-!
Where cached answers come from. Over everything that can happen to a service, the entry under a
fingerprint is the latest response that the model gave to a question of that fingerprint whose
policy does not bypass the cache. So where no two of the keys share a fingerprint, a cached answer
is the latest such response to the same question.
-/

namespace ResilientChat

namespace Chat

structure Exchange where
  world : World
  ctx : RequestContext
  question : String
  handled : Handled Answer

namespace Exchange

def key (s : Setup) (e : Exchange) : AnswerKey := s.keyOf e.ctx e.question

def endedAt (e : Exchange) : Instant := e.handled.moment.now

/-- The model was called, and the last call was answered with that response. -/
def Obtained (e : Exchange) (r : Completion.Response) : Prop :=
  ∃ n, e.handled.modelCalls.length = n + 1 ∧ (e.world.model n).result = .ok r

/-- A response was obtained, and the policy does not bypass the cache. -/
def Kept (e : Exchange) (r : Completion.Response) : Prop :=
  e.ctx.policy.bypassesCache = false ∧ e.Obtained r

/-- The same question within the same tenant and module, up to its normal form. -/
def Asks (ctx : RequestContext) (question : String) (e : Exchange) : Prop :=
  e.ctx.tenant = ctx.tenant ∧ e.ctx.module = ctx.module ∧
    Question.normalize e.question = Question.normalize question

end Exchange

open Exchange

/-- What can have become of a service since it was new: the questions that were asked, oldest
first, the state and the time. The dispatcher may be changed in any way between requests. -/
inductive Reached (s : Setup) (ttl : Duration) : List Exchange → State → Instant → Prop
  | fresh {state : State}
      (hnew : ∀ store, state.cache.store = some store → store.ttl = ttl ∧ store.entries = ∅) :
      Reached s ttl [] state 0
  | asked {past : List Exchange} {state : State} {now : Instant} {world : World}
      {ctx : RequestContext} {question : String} {caller : Cancellation} {h : Handled Answer}
      (hpast : Reached s ttl past state now)
      (hanswer : s.answer state world ctx question ⟨now, caller⟩ = some h) :
      Reached s ttl (past ++ [⟨world, ctx, question, h⟩]) h.state h.moment.now
  | ranTool {past : List Exchange} {state : State} {now : Instant} {world : World}
      {ctx : RequestContext} {name : String} {caller : Cancellation} {h : Handled Json.Value}
      (hpast : Reached s ttl past state now)
      (hrun : s.runTool state world ctx name ⟨now, caller⟩ = some h) :
      Reached s ttl past h.state h.moment.now
  | intervened {past : List Exchange} {state : State} {now : Instant}
      (hpast : Reached s ttl past state now) (dispatcher : Dispatcher) :
      Reached s ttl past { state with dispatcher } now
  | invalidated {past : List Exchange} {state : State} {now : Instant}
      (hpast : Reached s ttl past state now) (tenant : String) :
      Reached s ttl past { state with cache := (state.cache.invalidate tenant).1 } now
  | purged {past : List Exchange} {state : State} {now : Instant}
      (hpast : Reached s ttl past state now) :
      Reached s ttl past
        { state with cache := ⟨state.cache.store.map fun store => (store.purge now).1⟩ } now
  | waited {past : List Exchange} {state : State} {now : Instant}
      (hpast : Reached s ttl past state now) (d : Duration) :
      Reached s ttl past state (now + d)

/-- The latest of the exchanges with `p` that obtained a response to be kept is `e`, and that
response is `r`. -/
def Latest (past : List Exchange) (p : Exchange → Prop) (e : Exchange)
    (r : Completion.Response) : Prop :=
  ∃ before after, past = before ++ e :: after ∧ p e ∧ e.Kept r ∧
    ∀ later ∈ after, p later → ∀ r', ¬later.Kept r'

section Latest

variable {past : List Exchange} {p q : Exchange → Prop} {e : Exchange} {r : Completion.Response}

theorem Latest.mem (h : Latest past p e r) : e ∈ past := by
  obtain ⟨before, after, rfl, -⟩ := h
  exact List.mem_append_right _ (List.mem_cons_self ..)

theorem latest_concat (hp : p e) (hkept : e.Kept r) : Latest (past ++ [e]) p e r :=
  ⟨past, [], rfl, hp, hkept, fun _ hnone => absurd hnone List.not_mem_nil⟩

theorem Latest.concat (h : Latest past p e r) {next : Exchange}
    (hnext : p next → ∀ r', ¬next.Kept r') : Latest (past ++ [next]) p e r := by
  obtain ⟨before, after, rfl, hp, hkept, hafter⟩ := h
  refine ⟨before, after ++ [next], by simp, hp, hkept, fun later hlater => ?_⟩
  rcases List.mem_append.mp hlater with hlater | hlater
  · exact hafter later hlater
  · obtain rfl := List.mem_singleton.mp hlater
    exact hnext

theorem Latest.congr (h : Latest past p e r) (hpq : ∀ e ∈ past, p e ↔ q e) :
    Latest past q e r := by
  have hmem := h.mem
  obtain ⟨before, after, rfl, hp, hkept, hafter⟩ := h
  refine ⟨before, after, rfl, (hpq e hmem).mp hp, hkept, fun later hlater hq => ?_⟩
  have hpast : later ∈ before ++ e :: after :=
    List.mem_append_right _ (List.mem_cons_of_mem _ hlater)
  exact hafter later hlater ((hpq later hpast).mpr hq)

end Latest

theorem ofResponse_injective : Function.Injective Answer.ofResponse := by
  intro ⟨model, content, usage⟩ ⟨model', content', usage'⟩ h
  obtain ⟨rfl, rfl, -, husage⟩ := Answer.mk.inj h
  cases husage
  rfl

section Obtained

variable {s : Setup} {state : State} {world : World} {ctx : RequestContext} {question : String}
  {m : Moment} {h : Handled Answer}

/-- An exchange obtains a response exactly when it is answered with it. -/
theorem obtained_iff (hanswer : s.Answering state world ctx question m h)
    (r : Completion.Response) :
    (⟨world, ctx, question, h⟩ : Exchange).Obtained r ↔ h.result = .ok (.ofResponse r) := by
  cases hanswer with
  | found => simp [Obtained, Answer.ofCached, Answer.ofResponse]
  | obtained _ hrun hresult =>
      have hok := Dispatcher.result_ok_iff_of_run hrun r
      rw [hresult] at hok
      simp only [Obtained, List.length_replicate]
      rw [← hok, Except.ok.injEq, Except.ok.injEq, ofResponse_injective.eq_iff]
  | failed _ hrun hresult =>
      have hok := Dispatcher.result_ok_iff_of_run hrun r
      rw [hresult] at hok
      simp only [Obtained, List.length_replicate]
      rw [← hok]
      exact iff_of_false nofun nofun

end Obtained

/-- Every entry of the cache is the latest response to be kept under its fingerprint, filed when it
was obtained. -/
structure Filed (s : Setup) (ttl : Duration) (past : List Exchange) (cache : AnswerGate)
    (now : Instant) : Prop where
  ttl : ∀ limit, cache.ttl? = some limit → limit = ttl
  entry : ∀ fingerprint entry, cache.entryAt? fingerprint = some entry →
    ∃ e r, Latest past (fun e => (e.key s).fingerprint = fingerprint) e r ∧
      entry.answer = ⟨r.content, r.model⟩ ∧ entry.storedAt = e.endedAt
  ended : ∀ e ∈ past, e.endedAt ≤ now

section Filed

variable {s : Setup} {ttl : Duration} {past : List Exchange} {cache cache' : AnswerGate}
  {now later : Instant}

theorem Filed.wait (h : Filed s ttl past cache now) (hle : now ≤ later) :
    Filed s ttl past cache later :=
  ⟨h.ttl, h.entry, fun e he => Nat.le_trans (h.ended e he) hle⟩

/-- Entries may be lost at any time. -/
theorem Filed.lose (h : Filed s ttl past cache now) (hlimit : cache'.ttl? = cache.ttl?)
    (hentry : ∀ fingerprint entry, cache'.entryAt? fingerprint = some entry →
      cache.entryAt? fingerprint = some entry) : Filed s ttl past cache' now where
  ttl := by rw [hlimit]; exact h.ttl
  entry := fun fingerprint entry hmem => h.entry fingerprint entry (hentry fingerprint entry hmem)
  ended := h.ended

/-- An exchange that obtained nothing to be kept changes nothing. -/
theorem Filed.concat (h : Filed s ttl past cache now) {e : Exchange} (hended : e.endedAt ≤ now)
    (hnot : ∀ r, ¬e.Kept r) : Filed s ttl (past ++ [e]) cache now where
  ttl := h.ttl
  entry := by
    intro fingerprint entry hmem
    obtain ⟨found, r, hlatest, hentry⟩ := h.entry fingerprint entry hmem
    exact ⟨found, r, hlatest.concat fun _ => hnot, hentry⟩
  ended := by
    intro e' he'
    rcases List.mem_append.mp he' with hpast | hlast
    · exact h.ended e' hpast
    · obtain rfl := List.mem_singleton.mp hlast
      exact hended

/-- A response that is kept when it is obtained takes the place under its fingerprint. -/
theorem Filed.put (h : Filed s ttl past cache now) {e : Exchange} {r : Completion.Response}
    (hended : e.endedAt = now) (hkept : e.Kept r) :
    Filed s ttl (past ++ [e])
      (cache.put e.ctx.policy (e.key s) ⟨r.content, r.model⟩ now).1 now where
  ttl := by rw [AnswerGate.ttl?_put]; exact h.ttl
  entry := by
    intro fingerprint entry hmem
    have hput := AnswerGate.entryAt?_put hmem
    by_cases hkey : fingerprint = (e.key s).fingerprint
    · rw [if_pos ⟨hkept.1, hkey⟩] at hput
      exact ⟨e, r, latest_concat hkey.symm hkept, hput.1, hput.2.trans hended.symm⟩
    · rw [if_neg fun hboth => hkey hboth.2] at hput
      obtain ⟨found, r', hlatest, hentry⟩ := h.entry fingerprint entry hput
      exact ⟨found, r', hlatest.concat fun hsame => absurd hsame.symm hkey, hentry⟩
  ended := by
    intro e' he'
    rcases List.mem_append.mp he' with hpast | hlast
    · exact h.ended e' hpast
    · obtain rfl := List.mem_singleton.mp hlast
      exact hended.le

theorem Filed.get (h : Filed s ttl past cache now) (policy : Policy) (key : AnswerKey) :
    Filed s ttl past (cache.get policy key now).1 now :=
  h.lose (AnswerGate.ttl?_get cache policy key now) fun _ _ => AnswerGate.entryAt?_get

/-- One more question. -/
theorem Filed.answer {state : State} {world : World} {ctx : RequestContext} {question : String}
    {caller : Cancellation} {h : Handled Answer} (hfiled : Filed s ttl past state.cache now)
    (hanswer : s.Answering state world ctx question ⟨now, caller⟩ h) :
    Filed s ttl (past ++ [⟨world, ctx, question, h⟩]) h.state.cache h.moment.now := by
  have hobtained := obtained_iff hanswer
  have hlater := hanswer.le_now
  cases hanswer with
  | @found cache hit hget =>
      have hlost := hfiled.get ctx.policy (s.keyOf ctx question)
      rw [hget] at hlost
      refine hlost.concat (Nat.le_refl _) fun r hkept => ?_
      have hfresh := (hobtained r).mp hkept.2
      simp [Answer.ofCached, Answer.ofResponse] at hfresh
  | @obtained cache d r hget hrun hresult =>
      have hlost := hfiled.get ctx.policy (s.keyOf ctx question)
      rw [hget] at hlost
      have hgot := (hobtained r).mpr rfl
      -- The look-up was at the start, the write is at the end of the model's call.
      cases hpolicy : ctx.policy.bypassesCache with
      | true =>
          rw [AnswerGate.put_of_bypasses hpolicy]
          refine (hlost.wait hlater).concat (Nat.le_refl _) fun r' hkept => ?_
          rw [hkept.1] at hpolicy
          cases hpolicy
      | false => exact (hlost.wait hlater).put rfl ⟨hpolicy, hgot⟩
  | @failed cache d failure hget hrun hresult =>
      have hlost := hfiled.get ctx.policy (s.keyOf ctx question)
      rw [hget] at hlost
      refine (hlost.wait hlater).concat (Nat.le_refl _) fun r hkept => ?_
      have hfresh := (hobtained r).mp hkept.2
      cases hfresh

theorem Reached.filed {state : State} (h : Reached s ttl past state now) :
    Filed s ttl past state.cache now := by
  -- Of everything that can happen, only a question can bring a new entry in.
  induction h with
  | @fresh state hnew =>
      refine ⟨?_, ?_, fun e he => absurd he List.not_mem_nil⟩
      · intro limit hlimit
        obtain ⟨store, hstore, rfl⟩ := Option.map_eq_some_iff.mp hlimit
        exact (hnew store hstore).1
      · intro fingerprint entry hentry
        obtain ⟨store, hstore, hmem⟩ := Option.bind_eq_some_iff.mp hentry
        rw [(hnew store hstore).2] at hmem
        cases hmem
  | asked _ hanswer ih => exact ih.answer (Setup.answering_of_answer hanswer)
  | ranTool _ hrun ih =>
      have hrunning := Setup.running_of_runTool hrun
      rw [hrunning.cache_eq]
      exact ih.wait hrunning.le_now
  | intervened _ _ ih => exact ih
  | invalidated _ tenant ih =>
      rw [AnswerGate.invalidate_eq]
      exact ih.lose (AnswerGate.ttl?_retain _ _) fun _ _ => AnswerGate.entryAt?_retain
  | purged _ ih =>
      exact ih.lose (AnswerGate.ttl?_retain _ _) fun _ _ => AnswerGate.entryAt?_retain
  | waited _ d ih => exact ih.wait (Nat.le_add_right _ d)

end Filed

/-- Within one service the tools of a question are those of its module, so the same question has
the same key, and no other has. -/
theorem key_eq_iff (s : Setup) (e : Exchange) (ctx : RequestContext) (question : String) :
    e.key s = s.keyOf ctx question ↔ e.Asks ctx question := by
  constructor
  · intro h
    obtain ⟨htenant, hmodule, hquestion, -, -⟩ := AnswerKey.mk.inj h
    exact ⟨htenant, hmodule, hquestion⟩
  · rintro ⟨htenant, hmodule, hquestion⟩
    simp only [key, Setup.keyOf, AnswerKey.ofQuestion, htenant, hmodule, hquestion]

section Answers

variable {s : Setup} {ttl : Duration} {past : List Exchange} {state : State} {now : Instant}
  {world : World} {ctx : RequestContext} {question : String} {caller : Cancellation}
  {h : Handled Answer}

/-- A found answer is the latest response to a question of the same fingerprint. -/
theorem Filed.latest_of_get (hfiled : Filed s ttl past state.cache now) {cache : AnswerGate}
    {hit : CachedAnswer}
    (hget : state.cache.get ctx.policy (s.keyOf ctx question) now = (cache, some hit))
    (hkeys : ∀ e ∈ past, (e.key s).fingerprint = (s.keyOf ctx question).fingerprint →
      e.key s = s.keyOf ctx question) :
    ∃ e r, Latest past (Asks ctx question) e r ∧ hit = ⟨r.content, r.model⟩ ∧
      e.endedAt ≤ now ∧ now < e.endedAt + ttl := by
  obtain ⟨-, entry, limit, hentry, rfl, hlimit, hage⟩ := AnswerGate.get_eq_some hget
  obtain ⟨e, r, hlatest, hanswer, hstored⟩ := hfiled.entry _ entry hentry
  obtain rfl := hfiled.ttl limit hlimit
  have hsame : ∀ e ∈ past, (e.key s).fingerprint = (s.keyOf ctx question).fingerprint ↔
      e.Asks ctx question := by
    intro e he
    rw [← key_eq_iff s]
    exact ⟨hkeys e he, congrArg AnswerKey.fingerprint⟩
  have hended := hfiled.ended e hlatest.mem
  rw [hstored] at hage
  exact ⟨e, r, hlatest.congr hsame, hanswer, hended, (Nat.sub_lt_iff_lt_add' hended).mp hage⟩

/-- An answer from the cache carries the latest response to the same question that was obtained
under a policy which does not bypass the cache, and it is younger than the limit. It takes no time,
calls nothing and touches no circuit; whatever the circuits, the dependencies and the caller, the
answer is the same. A request that bypasses the cache is never answered from it and leaves it as it
is, and a request that fails files nothing. -/
theorem cached_answer_is_latest_response (hreached : Reached s ttl past state now)
    (hkeys : ∀ e ∈ past, (e.key s).fingerprint = (s.keyOf ctx question).fingerprint →
      e.key s = s.keyOf ctx question)
    (hanswer : s.answer state world ctx question ⟨now, caller⟩ = some h) :
    (∀ a, h.result = .ok a → a.cached = true →
      (∃ e r, Latest past (Asks ctx question) e r ∧ a.content = r.content ∧ a.model = r.model ∧
        e.endedAt ≤ now ∧ now < e.endedAt + ttl) ∧
      h.modelCalls = [] ∧ h.events = [] ∧ h.state.dispatcher = state.dispatcher ∧
      h.moment = ⟨now, caller⟩ ∧
      ∀ dispatcher world' caller',
        s.answer { state with dispatcher } world' ctx question ⟨now, caller'⟩ =
          some
            { result := .ok a, state := { h.state with dispatcher }, moment := ⟨now, caller'⟩ }) ∧
    (ctx.policy.bypassesCache = true →
      (∀ a, h.result = .ok a → a.cached = false) ∧ h.state.cache = state.cache) ∧
    (∀ failure, h.result = .error failure →
      h.state.cache = (state.cache.get ctx.policy (s.keyOf ctx question) now).1 ∧
        ∀ fingerprint entry, h.state.cache.entryAt? fingerprint = some entry →
          state.cache.entryAt? fingerprint = some entry) := by
  have hanswering := Setup.answering_of_answer hanswer
  refine ⟨fun a hresult hcached => ?_, fun hpolicy => ?_, fun failure hresult => ?_⟩
  · cases hanswering with
    | @found cache hit hget =>
        obtain ⟨e, r, hlatest, hhit, hended, hage⟩ := hreached.filed.latest_of_get hget hkeys
        cases hresult
        refine ⟨⟨e, r, hlatest, ?_, ?_, hended, hage⟩, rfl, rfl, rfl, rfl, ?_⟩
        · rw [Answer.ofCached, hhit]
        · rw [Answer.ofCached, hhit]
        · intro dispatcher world' caller'
          exact Setup.answer_of_found hget
    | obtained =>
        cases hresult
        cases hcached
    | failed => cases hresult
  · have hnone : state.cache.get ctx.policy (s.keyOf ctx question) now = (state.cache, none) :=
      AnswerGate.get_of_bypasses hpolicy
    cases hanswering with
    | found hget =>
        rw [hnone] at hget
        cases hget
    | obtained hget =>
        rw [hnone] at hget
        cases hget
        refine ⟨fun a hresult => ?_, AnswerGate.put_of_bypasses hpolicy⟩
        cases hresult
        rfl
    | failed hget =>
        rw [hnone] at hget
        cases hget
        exact ⟨nofun, rfl⟩
  · cases hanswering with
    | found => cases hresult
    | obtained => cases hresult
    | failed hget =>
        refine ⟨by rw [hget], fun fingerprint entry hentry => ?_⟩
        have hread : (state.cache.get ctx.policy (s.keyOf ctx question) now).1.entryAt?
            fingerprint = some entry := by
          rw [hget]
          exact hentry
        exact AnswerGate.entryAt?_get hread

/-- A question to a service without tools, and the same question in another form. -/
def salesContext : RequestContext where
  requestId := default
  tenant := "acme"
  module := "sales"
  token := []

def answeringWorld : World where
  model := fun _ => { result := .ok ⟨"m", "one", {}⟩, takes := 5 }
  sql := fun _ => { result := .ok .null }

def newState : State := ⟨.ofSettings {}, ⟨some (.new 60 10)⟩⟩

theorem cached_while_isolated :
    ∃ past state h,
      Reached {} 60 past state 55 ∧ (state.dispatcher.breaker "llm").phase = .isolated ∧
      Setup.answer {} state answeringWorld salesContext "top customers" ⟨55, some 0⟩ = some h ∧
      h.result = .ok ⟨"one", "m", true, none⟩ ∧ h.modelCalls = [] ∧
      ∃ e r, Latest past (Asks salesContext "top customers") e r ∧ r.content = "one" := by
  have hrun : (newState.dispatcher.run modelDependency answeringWorld.draws answeringWorld.model 0
      none).any (fun d => d.result = .ok ⟨"m", "one", {}⟩ ∧ d.endsAt = 5 ∧
        ((d.dispatcher.isolate "llm" 5).1.breaker "llm").phase = .isolated) = true := by
    decide +kernel
  obtain ⟨d, hrun, hd⟩ := (Option.any_eq_true _ _).mp hrun
  obtain ⟨hresult, hends, hisolated⟩ := of_decide_eq_true hd
  let key := Setup.keyOf {} salesContext "Top  customers?"
  let emptied : AnswerStore := { AnswerStore.new 60 10 with misses := 1 }
  let first : Handled Answer :=
    { result := .ok (.ofResponse ⟨"m", "one", {}⟩)
      state := ⟨d.dispatcher, ⟨some (emptied.put key ⟨"one", "m"⟩ 5)⟩⟩
      moment := ⟨5, d.caller⟩
      events := d.events
      modelCalls := List.replicate d.calls (Setup.requestOf {} salesContext "Top  customers?") }
  have hfirst : Setup.answer {} newState answeringWorld salesContext "Top  customers?" ⟨0, none⟩ =
      some first := by
    have hget : newState.cache.get salesContext.policy key 0 = (⟨some emptied⟩, none) := rfl
    simp only [Setup.answer, key] at hget ⊢
    rw [hget, hrun]
    simp only [Option.map_some, hresult, hends]
    rfl
  have hreached : Reached {} 60 [⟨answeringWorld, salesContext, "Top  customers?", first⟩]
      { first.state with dispatcher := (d.dispatcher.isolate "llm" 5).1 } 55 := by
    have hnew : ∀ store, newState.cache.store = some store →
        store.ttl = 60 ∧ store.entries = ∅ := by
      intro store hstore
      cases hstore
      exact ⟨rfl, rfl⟩
    exact (((Reached.fresh hnew).asked hfirst).intervened _).waited 50
  have hkey : Setup.keyOf {} salesContext "top customers" = key := by
    have hnormal : Question.normalize "top customers" = Question.normalize "Top  customers?" := by
      decide +kernel
    simp only [Setup.keyOf, AnswerKey.ofQuestion, hnormal, key]
  have hfound : ((emptied.put key ⟨"one", "m"⟩ 5).get key 55).2 = some ⟨"one", "m"⟩ := by
    refine emptied.get_put key ⟨"one", "m"⟩ 5 ?_ (by decide)
    change 1 ≤ 10
    decide
  let state : State := { first.state with dispatcher := (d.dispatcher.isolate "llm" 5).1 }
  let cache : AnswerGate := ⟨some ((emptied.put key ⟨"one", "m"⟩ 5).get key 55).1⟩
  have hsecond : Setup.answer {} state answeringWorld salesContext "top customers" ⟨55, some 0⟩ =
      some
        { result := .ok (.ofCached ⟨"one", "m"⟩), state := { state with cache },
          moment := ⟨55, some 0⟩ } := by
    refine Setup.answer_of_found ?_
    rw [hkey, AnswerGate.get_of_store rfl rfl, hfound]
  have hkeys : ∀ e ∈ [(⟨answeringWorld, salesContext, "Top  customers?", first⟩ : Exchange)],
      (e.key {}).fingerprint = (Setup.keyOf {} salesContext "top customers").fingerprint →
        e.key {} = Setup.keyOf {} salesContext "top customers" := by
    intro e he _
    obtain rfl := List.mem_singleton.mp he
    exact hkey.symm
  obtain ⟨⟨e, r, hlatest, hcontent, -⟩, hcalls, -⟩ :=
    (cached_answer_is_latest_response hreached hkeys hsecond).1 _ rfl rfl
  exact ⟨_, _, _, hreached, hisolated, hsecond, rfl, hcalls, e, r, hlatest, hcontent.symm⟩

end Answers

end Chat

end ResilientChat
