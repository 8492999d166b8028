import ResilientChat.Proofs.Chat.Redact
import ResilientChat.Proofs.Chat.Running

/-!
What the store is handed of a tool's results. The rules for the request say what a record may hold;
a result that may not be kept leaves the store and its circuit alone. What is stored of a sensitive
result says nothing of its texts: results that differ in nothing else are stored alike, except for
their size.
-/

namespace ResilientChat

namespace Chat

/-- What the rules let be stored of a result, for a request with that signal. -/
inductive Permitted (signal : SensitivitySignal) (rules : SensitivityRules)
    (result : Json.Value) : Persistence → Option Json.Value → Prop
  | raw (hclean : signal.sensitive = false) : Permitted signal rules result .full (some result)
  | redacted (hsensitive : signal.sensitive = true) (hstore : rules.skipResultStore = false)
      (hmode : signal.mode.getD rules.mode = .redact) :
      Permitted signal rules result .redacted (some (redact result))
  | metadata (hsensitive : signal.sensitive = true) (hstore : rules.skipResultStore = false)
      (hmode : signal.mode.getD rules.mode = .metadataOnly) :
      Permitted signal rules result .metadataOnly none

/-- The rules forbid to store any result of a request with that signal. -/
def Withheld (signal : SensitivitySignal) (rules : SensitivityRules) : Prop :=
  signal.sensitive = true ∧
    (rules.skipResultStore = true ∨ signal.mode.getD rules.mode = .disablePersistence)

def withoutSize (record : ToolResult.Record) : ToolResult.Record :=
  { record with metadata := { record.metadata with byteLength := 0 } }

/-- The procedure takes the same course, and its results differ at most in their texts. -/
structure RepliesSameButTexts (r other : Reply Json.Value) : Prop where
  course : r.map (fun _ => ()) = other.map (fun _ => ())
  answers : ∀ v w, r.result = .ok v → other.result = .ok w → SameButTexts v w

theorem RepliesSameButTexts.map_redact {r other : Reply Json.Value}
    (h : RepliesSameButTexts r other) : r.map redact = other.map redact := by
  obtain ⟨hcourse, hanswers⟩ := h
  obtain ⟨result, takes, cancelsAttempt, cancelsCaller, hangs⟩ := r
  obtain ⟨result', takes', cancelsAttempt', cancelsCaller', hangs'⟩ := other
  simp only [Reply.map, Reply.mk.injEq] at hcourse ⊢
  refine ⟨?_, hcourse.2⟩
  cases result with
  | ok v =>
      cases result' with
      | ok w => exact congrArg Except.ok ((redact_eq_iff v w).mpr (hanswers v w rfl rfl))
      | error fault => cases hcourse.1
  | error fault =>
      cases result' with
      | ok w => cases hcourse.1
      | error fault' => exact congrArg Except.error (Except.error.inj hcourse.1)

section Records

variable {signal : SensitivitySignal} {rules : SensitivityRules} {ctx : RequestContext}
  {metadata : ToolResult.Metadata} {result : Json.Value}

theorem persistence_derive :
    (Policy.derive signal rules).persistence =
      if signal.sensitive then
        if rules.skipResultStore then .skip
        else
          match signal.mode.getD rules.mode with
          | .redact => .redacted
          | .metadataOnly => .metadataOnly
          | .disablePersistence => .skip
      else .full := by
  obtain ⟨sensitive, mode⟩ := signal
  obtain ⟨configured, skipCache, skipResultStore⟩ := rules
  change Policy.persistence ⟨sensitive, mode.getD configured, skipCache, skipResultStore⟩ = _
  cases sensitive <;> cases skipResultStore <;> cases mode.getD configured <;> rfl

/-- Either the result is withheld, or there is a record of it as the rules permit. -/
theorem recordOf_cases (hpolicy : ctx.policy = .derive signal rules) :
    (Withheld signal rules ∧ Setup.recordOf ctx metadata result = none) ∨
      ∃ decision payload, Permitted signal rules result decision payload ∧
        Setup.recordOf ctx metadata result =
          some ⟨ctx.requestId, ctx.tenant, ctx.module, decision, metadata, payload⟩ := by
  rw [Setup.recordOf, hpolicy, persistence_derive]
  cases hsensitive : signal.sensitive with
  | false => exact .inr ⟨_, _, .raw hsensitive, rfl⟩
  | true =>
      cases hstore : rules.skipResultStore with
      | true => exact .inl ⟨⟨hsensitive, .inl hstore⟩, rfl⟩
      | false =>
          cases hmode : signal.mode.getD rules.mode with
          | redact => exact .inr ⟨_, _, .redacted hsensitive hstore hmode, rfl⟩
          | metadataOnly => exact .inr ⟨_, _, .metadata hsensitive hstore hmode, rfl⟩
          | disablePersistence => exact .inl ⟨⟨hsensitive, .inr hmode⟩, rfl⟩

theorem Permitted.not_withheld {decision : Persistence} {payload : Option Json.Value}
    (h : Permitted signal rules result decision payload) : ¬Withheld signal rules := by
  rintro ⟨hsensitive, hwithheld⟩
  cases h with
  | raw hclean => simp [hclean] at hsensitive
  | redacted _ hstore hmode | metadata _ hstore hmode => simp [hstore, hmode] at hwithheld

/-- Of a sensitive result a blacked-out copy would be stored alike. -/
theorem recordOf_redact (hpolicy : ctx.policy = .derive signal rules)
    (hsensitive : signal.sensitive = true) (tool : Tool) (v : Json.Value) (elapsed : Duration) :
    (Setup.recordOf ctx (Setup.metadataOf tool (redact v) elapsed) (redact v)).map withoutSize =
      (Setup.recordOf ctx (Setup.metadataOf tool v elapsed) v).map withoutSize := by
  rw [Setup.recordOf, Setup.recordOf, hpolicy, persistence_derive, if_pos hsensitive]
  cases rules.skipResultStore with
  | true => rfl
  | false =>
      cases signal.mode.getD rules.mode with
      | redact =>
          simp only [redact_redact]
          rfl
      | metadataOnly | disablePersistence => rfl

end Records

section RunTool

variable {s : Setup} {state : State} {world : World} {ctx : RequestContext} {name : String}
  {m : Moment} {h : Handled Json.Value} {signal : SensitivitySignal} {rules : SensitivityRules}

/-- What is stored is a record of the procedure's last answer, as the rules permit it. -/
theorem Setup.Running.permitted (hrun : s.Running state world ctx name m h)
    (hpolicy : ctx.policy = .derive signal rules) {record : ToolResult.Record}
    (hmem : record ∈ h.stored) :
    ∃ tool result last elapsed decision payload,
      s.toolFor ctx.module name = .ok tool ∧ h.sqlCalls = last + 1 ∧
        (world.sql last).result = .ok result ∧ h.result = .ok result ∧
        Permitted signal rules result decision payload ∧
        record = ⟨ctx.requestId, ctx.tenant, ctx.module, decision,
          Setup.metadataOf tool result elapsed, payload⟩ := by
  cases hrun with
  | unknown | failed | unkept => cases hmem
  | @stored tool d result storage kept _ htool hsql hresult _ hrecord =>
      obtain rfl := List.eq_of_mem_replicate hmem
      obtain ⟨last, hcalls, hlast⟩ := (Dispatcher.result_ok_iff_of_run hsql result).mp hresult
      rcases recordOf_cases hpolicy with ⟨-, hnone⟩ | ⟨decision, payload, hpermitted, hsome⟩
      · rw [hnone] at hrecord
        cases hrecord
      · rw [hsome] at hrecord
        exact ⟨tool, result, last, _, decision, payload, htool, hcalls, hlast, rfl, hpermitted,
          (Option.some.inj hrecord).symm⟩

/-- Every store is handed the same record, at every attempt. -/
theorem Setup.Running.eq_of_mem_stored {h' : Handled Json.Value} {storage : Option (Script Unit)}
    (hrun : s.Running state world ctx name m h)
    (hrun' : s.Running state { world with storage } ctx name m h')
    {record other : ToolResult.Record} (hrecord : record ∈ h.stored) (hother : other ∈ h'.stored) :
    record = other := by
  cases hrun with
  | unknown | failed | unkept => cases hrecord
  | stored htool hsql hresult _ hkept =>
      cases hrun' with
      | unknown | failed | unkept => cases hother
      | stored htool' hsql' hresult' _ hkept' =>
          -- Up to the record the two runs are one and the same.
          obtain rfl := Except.ok.inj (htool.symm.trans htool')
          obtain rfl := Option.some.inj (hsql.symm.trans hsql')
          obtain rfl := Except.ok.inj (hresult.symm.trans hresult')
          obtain rfl := Option.some.inj (hkept.symm.trans hkept')
          exact (List.eq_of_mem_replicate hrecord).trans (List.eq_of_mem_replicate hother).symm

/-- There is one record for the run, whatever store it is handed to. -/
theorem exists_record (s : Setup) (state : State) (world : World) (ctx : RequestContext)
    (name : String) (m : Moment) :
    ∃ record, ∀ storage h, s.runTool state { world with storage } ctx name m = some h →
      ∀ other ∈ h.stored, other = record := by
  by_cases hstored : ∃ storage h record,
      s.runTool state { world with storage } ctx name m = some h ∧ record ∈ h.stored
  · obtain ⟨_, _, record, hrun, hrecord⟩ := hstored
    refine ⟨record, fun storage h hrun' other hother => ?_⟩
    exact ((Setup.running_of_runTool hrun).eq_of_mem_stored (Setup.running_of_runTool hrun')
      hrecord hother).symm
  · exact ⟨default, fun storage h hrun other hother =>
      absurd ⟨storage, h, other, hrun, hother⟩ hstored⟩

/-- Where nothing may be stored, or there is nothing to store, the run ends with the procedure's
call, whatever store there is. -/
theorem Setup.Running.unstored (hrun : s.Running state world ctx name m h)
    (hpolicy : ctx.policy = .derive signal rules)
    (hnone : Withheld signal rules ∨ ∃ failure, h.result = .error failure) :
    h.stored = [] ∧
      (h.state.dispatcher = state.dispatcher ∨
        ∃ d, state.dispatcher.run sqlDependency world.draws world.sql m.now m.caller = some d ∧
          h.state.dispatcher = d.dispatcher) ∧
      ∀ storage, s.runTool state { world with storage } ctx name m = some h := by
  have hwithheld {result : Json.Value} (hresult : h.result = .ok result)
      (metadata : ToolResult.Metadata) : Setup.recordOf ctx metadata result = none := by
    rcases recordOf_cases hpolicy with ⟨-, hrecord⟩ | ⟨_, _, hpermitted, -⟩
    · exact hrecord
    · rcases hnone with hwithheld | ⟨failure, herror⟩
      · exact absurd hwithheld hpermitted.not_withheld
      · rw [hresult] at herror
        cases herror
  cases hrun with
  | unknown htool => exact ⟨rfl, .inl rfl, fun storage => by rw [Setup.runTool, htool]⟩
  | failed htool hsql hresult =>
      refine ⟨rfl, .inr ⟨_, hsql, rfl⟩, fun storage => ?_⟩
      simp only [Setup.runTool, htool, hsql, hresult, Except.mapError]
  | @unkept tool d result htool hsql hresult =>
      refine ⟨rfl, .inr ⟨_, hsql, rfl⟩, fun storage => ?_⟩
      have hrecord := hwithheld rfl (Setup.metadataOf tool result (d.endsAt - m.now))
      simp only [Setup.metadataOf] at hrecord
      cases storage <;>
        simp only [Setup.runTool, htool, hsql, hresult, Except.mapError, hrecord, Setup.persist]
  | stored _ _ _ _ hrecord =>
      rw [hwithheld rfl] at hrecord
      cases hrecord

/-- A result that is not withheld is offered to the store: the store is called, and unless that
call fails it is handed the record. -/
theorem Setup.Running.offered (hrun : s.Running state world ctx name m h)
    (hpolicy : ctx.policy = .derive signal rules) (hkept : ¬Withheld signal rules)
    {result : Json.Value} (hresult : h.result = .ok result) (hstorage : world.storage ≠ none) :
    ∃ outcome elapsed, .outcome storageDependency outcome elapsed ∈ h.events ∧
      (outcome = .success → h.stored ≠ []) := by
  cases hrun with
  | unknown | failed => cases hresult
  | unkept _ _ _ hnone =>
      rcases hnone with hnone | hnone
      · exact absurd hnone hstorage
      · rcases recordOf_cases hpolicy with ⟨hwithheld, -⟩ | ⟨_, _, -, hsome⟩
        · exact absurd hwithheld hkept
        · rw [hnone] at hsome
          cases hsome
  | @stored _ _ _ _ record d' _ _ _ _ _ hsave =>
      refine ⟨_, _, List.mem_append_right _ (Dispatcher.outcome_mem_events_of_run hsave), ?_⟩
      intro hsuccess
      obtain ⟨v, hok⟩ := Outcome.ok_of_success hsuccess
      obtain ⟨last, hcalls, -⟩ := (Dispatcher.result_ok_iff_of_run hsave v).mp hok
      rw [hcalls]
      exact List.cons_ne_nil _ _

/-- What the store is handed during a run, without the sizes; none if the run never ends. -/
def shown (run : Option (Handled Json.Value)) : Option (List ToolResult.Record) :=
  run.map fun h => h.stored.map withoutSize

/-- Of two records that differ at most in a size the store is shown the same. -/
theorem shown_persist {h h' : Handled Json.Value} {record record' : Option ToolResult.Record}
    (hrecord : record.map withoutSize = record'.map withoutSize)
    (hstate : h.state = h'.state) (hmoment : h.moment = h'.moment)
    (hstored : h.stored = h'.stored) :
    shown (Setup.persist world record h) = shown (Setup.persist world record' h') := by
  cases hstorage : world.storage with
  | none => simp only [Setup.persist, hstorage, shown, Option.map_some, hstored]
  | some storage =>
      cases record with
      | none =>
          cases record' with
          | none => simp only [Setup.persist, hstorage, shown, Option.map_some, hstored]
          | some record' => cases hrecord
      | some record =>
          cases record' with
          | none => cases hrecord
          | some record' =>
              have hsame : withoutSize record = withoutSize record' := Option.some.inj hrecord
              simp only [Setup.persist, hstorage, shown, Option.map_map, hstate, hmoment,
                Function.comp_def, List.map_replicate, hsame]

/-- A procedure that blacks its answers out itself shows the store the same. -/
theorem shown_runTool_redact (hpolicy : ctx.policy = .derive signal rules)
    (hsensitive : signal.sensitive = true) :
    shown (s.runTool state { world with sql := fun n => (world.sql n).map redact } ctx name m) =
      shown (s.runTool state world ctx name m) := by
  rw [Setup.runTool, Setup.runTool]
  cases s.toolFor ctx.module name with
  | error fault => rfl
  | ok tool =>
      simp only [Dispatcher.run_map]
      cases hsql : state.dispatcher.run sqlDependency world.draws world.sql m.now m.caller with
      | none => rfl
      | some d =>
          cases hresult : d.result with
          | error failure =>
              simp only [Option.map_some, Dispatcher.Dispatched.map, hresult, Except.map]
          | ok v =>
              simp only [Option.map_some, Dispatcher.Dispatched.map, hresult, Except.map]
              exact shown_persist (recordOf_redact hpolicy hsensitive tool v _) rfl rfl rfl

/-- The store cannot tell apart what differs only in texts. -/
theorem shown_runTool_congr (hpolicy : ctx.policy = .derive signal rules)
    (hsensitive : signal.sensitive = true) {sql : Script Json.Value}
    (halike : ∀ n, RepliesSameButTexts (world.sql n) (sql n)) :
    shown (s.runTool state { world with sql } ctx name m) =
      shown (s.runTool state world ctx name m) := by
  -- Blacked out, the answers of both procedures are the same.
  let blacked (script : Script Json.Value) : World :=
    { world with sql := fun n => (script n).map redact }
  have hblacked : blacked sql = blacked world.sql := by
    have hscript : (fun n => (sql n).map redact) = fun n => (world.sql n).map redact :=
      funext fun n => (halike n).map_redact.symm
    simp only [blacked, hscript]
  calc
    shown (s.runTool state { world with sql } ctx name m)
        = shown (s.runTool state (blacked sql) ctx name m) :=
      (shown_runTool_redact hpolicy hsensitive).symm
    _ = shown (s.runTool state (blacked world.sql) ctx name m) := by rw [hblacked]
    _ = shown (s.runTool state world ctx name m) := shown_runTool_redact hpolicy hsensitive

end RunTool

/-- What is stored of a tool's result is what the rules permit for the request: all of it if the
request is not sensitive, else a blacked-out copy, or no payload at all. The store is handed the
same record at every attempt, and any other store would be too. If the rules withhold the result
or there is none, then the store is not called, its circuit is neither made nor changed, and the
run is the same with any other store; else it is called, and is handed the record unless that call
fails. Of a sensitive result the store learns nothing that the contents of its strings decide, but
for its size. -/
theorem tool_records_permitted {s : Setup} {settings : Settings}
    {past : List Dispatcher.Traffic.Event} {cache : AnswerGate} {world : World}
    {ctx : RequestContext} {name : String} {m : Moment} {signal : SensitivitySignal}
    {rules : SensitivityRules} {h : Handled Json.Value}
    (hpolicy : ctx.policy = .derive signal rules)
    (hrun : s.runTool ⟨((Dispatcher.Traffic.fresh settings).run past).dispatcher, cache⟩ world ctx
      name m = some h) :
    let state : State := ⟨((Dispatcher.Traffic.fresh settings).run past).dispatcher, cache⟩
    (∀ record ∈ h.stored, ∃ tool result last elapsed decision payload,
        s.toolFor ctx.module name = .ok tool ∧ h.sqlCalls = last + 1 ∧
          (world.sql last).result = .ok result ∧ h.result = .ok result ∧
          Permitted signal rules result decision payload ∧
          record = ⟨ctx.requestId, ctx.tenant, ctx.module, decision,
            Setup.metadataOf tool result elapsed, payload⟩) ∧
      (∃ record, ∀ storage h', s.runTool state { world with storage } ctx name m = some h' →
        ∀ other ∈ h'.stored, other = record) ∧
      (Withheld signal rules ∨ (∃ failure, h.result = .error failure) →
        h.stored = [] ∧
          h.state.dispatcher.registry.get? storageDependency =
            state.dispatcher.registry.get? storageDependency ∧
          ∀ storage, s.runTool state { world with storage } ctx name m = some h) ∧
      (∀ result, ¬Withheld signal rules → h.result = .ok result → world.storage ≠ none →
        ∃ outcome elapsed, .outcome storageDependency outcome elapsed ∈ h.events ∧
          (outcome = .success → h.stored ≠ [])) ∧
      (signal.sensitive = true →
        ∀ sql, (∀ n, RepliesSameButTexts (world.sql n) (sql n)) →
          ∃ h', s.runTool state { world with sql } ctx name m = some h' ∧
            h'.stored.map withoutSize = h.stored.map withoutSize) := by
  intro state
  have hrunning := Setup.running_of_runTool hrun
  refine ⟨fun record hmem => hrunning.permitted hpolicy hmem,
    exists_record s state world ctx name m, fun hnone => ?_,
    fun result hkept hresult hstorage => hrunning.offered hpolicy hkept hresult hstorage,
    fun hsensitive sql halike => ?_⟩
  · obtain ⟨hstored, hdispatcher, hany⟩ := hrunning.unstored hpolicy hnone
    refine ⟨hstored, ?_, hany⟩
    rcases hdispatcher with hsame | ⟨d, hsql, hd⟩
    · rw [hsame]
    · rw [hd]
      exact (Dispatcher.Traffic.run_regular settings past).get?_dispatched hsql (by decide)
  · have hshown : shown (s.runTool state { world with sql } ctx name m) = shown (some h) := by
      rw [shown_runTool_congr hpolicy hsensitive halike, hrun]
    exact Option.map_eq_some_iff.mp hshown

/-- A sensitive request whose results may be kept blacked out. -/
def sensitiveContext : RequestContext where
  requestId := default
  tenant := "acme"
  module := "sales"
  policy := .derive ⟨true, none⟩ { skipResultStore := false }
  token := []

def customersTool : Tool := { name := "customers", module := "sales", procedure := "sp_customers" }

/-- A procedure that finds one customer of that name, at the second attempt. -/
def customerNamed (name : String) : Script Json.Value := fun n =>
  if n = 0 then { result := .error .timeout, takes := 5 }
  else { result := .ok (.object [("name", .string name), ("orders", .int 3)]) }

def flakyWorld : World where
  model := fun _ => { result := .error .timeout }
  sql := customerNamed "Ada"
  storage := some fun n => { result := if n = 0 then .error .timeout else .ok () }

theorem customer_name_not_stored :
    let s : Setup := { tools := ⟨(∅ : NameMap Tool).insert "customers" customersTool⟩ }
    let settings : Settings := { defaults := { initialDelayMs := 0, jitter := false } }
    let state : State := ⟨((Dispatcher.Traffic.fresh settings).run []).dispatcher, ⟨none⟩⟩
    ∃ h h' record,
      s.runTool state flakyWorld sensitiveContext "customers" ⟨0, none⟩ = some h ∧
      s.runTool state { flakyWorld with sql := customerNamed "Grace Hopper" } sensitiveContext
        "customers" ⟨0, none⟩ = some h' ∧
      h.stored = [record, record] ∧
      record.payload = some (.object [("name", .string blackout), ("orders", .int 3)]) ∧
      h'.stored.map withoutSize = h.stored.map withoutSize := by
  intro s settings state
  have hends : (s.runTool state flakyWorld sensitiveContext "customers" ⟨0, none⟩).any (fun h =>
      h.stored.length = 2 ∧ h.sqlCalls = 2) = true := by
    decide +kernel
  obtain ⟨h, hrun, hh⟩ := (Option.any_eq_true _ _).mp hends
  obtain ⟨hlength, hcalls⟩ := of_decide_eq_true hh
  obtain ⟨hrecords, ⟨kept, hkept⟩, -, -, hshown⟩ := tool_records_permitted rfl hrun
  obtain ⟨record, other, hstored⟩ := List.length_eq_two.mp hlength
  have halike (n : Nat) :
      RepliesSameButTexts (customerNamed "Ada" n) (customerNamed "Grace Hopper" n) := by
    cases n with
    | zero => exact ⟨rfl, fun v w hv => by cases hv⟩
    | succ n =>
        refine ⟨rfl, fun v w hv hw => ?_⟩
        cases hv
        cases hw
        exact ⟨rfl, trivial, rfl, rfl, trivial⟩
  obtain ⟨h', hrun', hshown⟩ := hshown rfl _ halike
  obtain ⟨tool, result, last, elapsed, decision, payload, -, hlast, hresult, -, hpermitted, heq⟩ :=
    hrecords record (by simp [hstored])
  have hother : other = record :=
    (hkept _ h hrun other (by simp [hstored])).trans
      (hkept _ h hrun record (by simp [hstored])).symm
  refine ⟨h, h', record, hrun, hrun', by rw [hstored, hother], ?_, hshown⟩
  obtain rfl : last = 1 := by omega
  cases hresult
  cases hpermitted with
  | raw hclean => cases hclean
  | redacted => rw [heq]; rfl
  | metadata _ _ hmode => cases hmode

end Chat

end ResilientChat
