import ResilientChat.Proofs.Breaker.Run
import Mathlib.Data.List.DropRight

/-!
The changes of phase of a circuit. The recorder is told of them one by one, the counters keep the
latest of them, and readers that do not wait for calls see where the last one led. Over every run
the three agree: the changes form one chain that begins in the closed phase, and what the counters
and the published code say is read off that chain.
-/

namespace ResilientChat

namespace Breaker

/-- Changes that lead from one phase to another: each begins where the one before it ended, and
none ends where it began. -/
inductive Leads (first : Phase) : List Change → Phase → Prop
  | stay : Leads first [] first
  | change {changes : List Change} {phase next : Phase} (h : Leads first changes phase)
      (hne : phase ≠ next) : Leads first (changes ++ [⟨phase, next⟩]) next

theorem Leads.last {first last : Phase} {changes : List Change} (h : Leads first changes last) :
    (changes.getLast?.map Change.after).getD first = last := by
  cases h <;> simp

theorem Phase.ofCode_code (phase : Phase) : Phase.ofCode phase.code = phase := by
  cases phase <;> decide

/-- What a circuit that does not count lets through ends without touching it. -/
theorem Ending.eq_of_bypass {l : Limits} {c c' : Circuit} {v : Verdict} {now : Instant}
    {change : Option Change} (h : Ending l c .bypass v now c' change) : c' = c := by
  cases h with
  | ignored => rfl
  | freed hprobe | recovered hprobe | reopened hprobe => cases hprobe.2
  | cleared ha | counted ha | tripped ha => exact absurd rfl ha

def Published (b : Breaker) : Prop := b.published = b.phase.code

theorem Published.publishedPhase_eq {b : Breaker} (h : b.Published) :
    b.publishedPhase = b.phase := by
  rw [publishedPhase, h, Phase.ofCode_code]

namespace Metrics

/-- What the counters know about changes of phase. -/
structure Ledger where
  transitions : UInt64
  lastOpenedMs : Option UInt64
  history : List Transition

def ledger (m : Metrics) : Ledger := ⟨m.transitions, m.lastOpenedMs, m.history⟩

theorem ledger_countVerdict (m : Metrics) (v : Verdict) :
    (m.countVerdict v).ledger = m.ledger := by
  cases v <;> rfl

theorem ledger_countTransition {m m' : Metrics} (h : m.ledger = m'.ledger) (t : Transition) :
    (m.countTransition t).ledger = (m'.countTransition t).ledger := by
  simp only [ledger, Ledger.mk.injEq] at h
  obtain ⟨htransitions, hopened, hhistory⟩ := h
  simp only [ledger, countTransition, htransitions, hopened, hhistory]

theorem ledger_noteChange {m m' : Metrics} (h : m.ledger = m'.ledger) (now : Instant)
    (change : Option Change) :
    (m.noteChange now change).ledger = (m'.noteChange now change).ledger := by
  cases change with
  | none => exact h
  | some change => exact ledger_countTransition h _

/-- One more transition pushes the oldest out once the history is full. -/
theorem pushTransition_rtake (t : Transition) (log : List Transition) :
    pushTransition t (log.rtake historyLimit) = (log ++ [t]).rtake historyLimit := by
  have hkept : (if (log.rtake historyLimit).length = historyLimit then
      (log.rtake historyLimit).tail else log.rtake historyLimit) = log.rtake 99 := by
    simp only [List.rtake, historyLimit, List.length_drop, List.tail_drop]
    split
    · exact congrArg (log.drop ·) (by omega)
    · exact congrArg (log.drop ·) (by omega)
  rw [pushTransition, hkept]
  exact (List.rtake_concat_succ log 99 t).symm

theorem rtake_rtake {α : Type} (log : List α) (n k : Nat) :
    (log.rtake n).rtake k = log.rtake (min k (min n log.length)) := by
  simp only [List.rtake, List.length_drop, List.drop_drop]
  exact congrArg (log.drop ·) (by omega)

def sent (log : List Transition) : Metrics := log.foldl countTransition {}

theorem sent_concat (log : List Transition) (t : Transition) :
    sent (log ++ [t]) = (sent log).countTransition t := List.foldl_concat ..

theorem sent_transitions (log : List Transition) : (sent log).transitions = .ofNat log.length := by
  induction log using List.reverseRecOn with
  | nil => rfl
  | append_singleton log t ih =>
      rw [sent_concat, List.length_append, UInt64.ofNat_add, ← ih]
      rfl

theorem sent_history (log : List Transition) : (sent log).history = log.rtake historyLimit := by
  induction log using List.reverseRecOn with
  | nil => rfl
  | append_singleton log t ih =>
      rw [sent_concat, ← pushTransition_rtake, ← ih]
      rfl

end Metrics

namespace Traffic

inductive Makes : Event → Change → Prop
  /-- A failure opens a closed circuit. -/
  | trips (ticket : Nat) : Makes (.finish ticket .failure) ⟨.closed, .opened⟩
  /-- The first call after the break is the probe. -/
  | probes : Makes (.start false) ⟨.opened, .halfOpen⟩
  | recovers (ticket : Nat) : Makes (.finish ticket .success) ⟨.halfOpen, .closed⟩
  | reopens (ticket : Nat) : Makes (.finish ticket .failure) ⟨.halfOpen, .opened⟩
  | isolates {before : Phase} (h : before ≠ .isolated) : Makes .isolate ⟨before, .isolated⟩
  | resets {before : Phase} (h : before ≠ .closed) : Makes .reset ⟨before, .closed⟩

def transitions (t : Traffic) (events : List Event) : List Transition :=
  (t.trace events).filterMap fun met =>
    (met.1.step met.2).change.map (⟨·, (Duration.millis met.1.now).toUInt64⟩)

theorem transitions_concat (t : Traffic) (events : List Event) (e : Event) :
    t.transitions (events ++ [e]) = t.transitions events ++
      (((t.run events).step e).change.map
        (⟨·, (Duration.millis (t.run events).now).toUInt64⟩)).toList := by
  cases h : ((t.run events).step e).change <;> simp [transitions, trace_concat, h]

theorem transitions_changes (t : Traffic) (events : List Event) :
    (t.transitions events).map Transition.change = t.changes events := by
  simp [transitions, changes, List.map_filterMap, Function.comp_def]

section Step

variable {t : Traffic} {e : Event} {s : Step}

/-- A change of phase is one that its event can make, from the phase that the event met. -/
theorem Transit.makes (h : Transit t e s) {change : Change} (hchange : s.change = some change) :
    Makes e change ∧ change.before = t.breaker.phase := by
  cases h with
  | admitted hentry =>
      cases hentry with
      | bypass | normal | probe => cases hchange
      | halfOpen _ hphase =>
          cases hchange
          exact ⟨.probes, hphase.symm⟩
  | finished _ hending =>
      cases hending with
      | ignored | freed | cleared | counted => cases hchange
      | tripped _ hphase hv =>
          cases hchange
          exact ⟨hv ▸ .trips _, hphase.symm⟩
      | recovered hprobe hv =>
          cases hchange
          exact ⟨hv ▸ .recovers _, hprobe.1.symm⟩
      | reopened hprobe hv =>
          cases hchange
          exact ⟨hv ▸ .reopens _, hprobe.1.symm⟩
  | isolated hphase =>
      cases hchange
      exact ⟨.isolates hphase, rfl⟩
  | closed hphase =>
      cases hchange
      exact ⟨.resets hphase, rfl⟩
  | _ => cases hchange

/-- An event sends the counters the change of phase that it tells the recorder, and no other. -/
theorem Transit.ledger_eq (h : Transit t e s) :
    s.traffic.breaker.metrics.ledger = (t.breaker.metrics.noteChange t.now s.change).ledger := by
  cases h with
  | finished => exact Metrics.ledger_noteChange (Metrics.ledger_countVerdict _ _) _ _
  | _ => rfl

/-- Every event that changes the phase publishes the new one. -/
theorem Transit.published (h : Transit t e s) (hpublished : t.breaker.Published) :
    s.traffic.breaker.Published := by
  cases h with
  | admitted hentry =>
      cases hentry with
      | bypass | normal | probe => exact hpublished
      | halfOpen => rfl
  | @finished ticket v a c change hflight hending =>
      -- What was let through uncounted publishes nothing, but leaves the circuit as it was.
      by_cases ha : a = .bypass
      · subst ha
        rw [hending.eq_of_bypass]
        exact hpublished
      · exact publishedAfter_of_ne _ c ha
  | isolatedAgain hphase => exact congrArg Phase.code hphase.symm
  | isolated | closed | closedAgain => rfl
  | _ => exact hpublished

theorem Transit.leads (h : Transit t e s) {first : Phase} {changes : List Change}
    (hleads : Leads first changes t.breaker.phase) :
    Leads first (changes ++ s.change.toList) s.traffic.breaker.phase := by
  rw [h.change_eq]
  split
  · next hsame => simpa [← hsame] using hleads
  · next hne => exact hleads.change hne

end Step

theorem run_ledger (name : String) (limits : Limits) (events : List Event) :
    ((fresh name limits).run events).breaker.metrics.ledger =
      (Metrics.sent ((fresh name limits).transitions events)).ledger := by
  induction events using List.reverseRecOn with
  | nil => rfl
  | append_singleton events e ih =>
      -- The last event notes the change that it tells the recorder, so both logs grow by it.
      rw [run_concat, transitions_concat, (step_transit _ e).ledger_eq,
        Metrics.ledger_noteChange ih]
      cases ((fresh name limits).run events |>.step e).change with
      | none => simp [Metrics.noteChange]
      | some change => simp [Metrics.noteChange, Metrics.sent_concat]

theorem run_leads (name : String) (limits : Limits) (events : List Event) :
    Leads .closed ((fresh name limits).changes events)
      ((fresh name limits).run events).breaker.phase := by
  induction events using List.reverseRecOn with
  | nil => exact .stay
  | append_singleton events e ih =>
      rw [run_concat, changes_concat]
      exact (step_transit _ e).leads ih

theorem run_published (name : String) (limits : Limits) (events : List Event) :
    ((fresh name limits).run events).breaker.Published :=
  run_induction (motive := fun t => t.breaker.Published) (fun _ _ _ _ h ih => h.published ih) rfl

/-- One log of changes over every run. (1) The counters were sent the changes that the recorder was
told, in this order, and (2) the next event sends both the same. (3) The changes lead from the
closed phase to that of the circuit, with no gap and with none that stays in its phase, and (4) each
is one that its event can make. (5) Where the last one led is the phase of the circuit and the one
that was published. (6) The counters count the changes, modulo their size, and (7) keep the latest
hundred, from which a reader gets as many as it asks for, oldest first. -/
theorem one_log_of_changes (name : String) (limits : Limits) (events : List Event) :
    let t := (fresh name limits).run events
    let m := t.breaker.metrics
    let log := (fresh name limits).changes events
    let sent := (fresh name limits).transitions events
    (sent.map Transition.change = log ∧ m.ledger = (Metrics.sent sent).ledger) ∧
    (∀ e, (t.step e).traffic.breaker.metrics.ledger =
      (m.noteChange t.now (t.step e).change).ledger) ∧
    Leads .closed log t.breaker.phase ∧
    (∀ met ∈ (fresh name limits).trace events, ∀ change,
      (met.1.step met.2).change = some change → Makes met.2 change) ∧
    ((log.getLast?.map Change.after).getD .closed = t.breaker.phase ∧
      t.breaker.publishedPhase = t.breaker.phase) ∧
    (m.transitions = .ofNat log.length ∧
      (log.length < UInt64.size → m.transitions.toNat = log.length)) ∧
    ∀ k, m.recent k = sent.rtake (min k (min 100 log.length)) := by
  intro t m log sent
  have hchanges : sent.map Transition.change = log := transitions_changes _ events
  have hlength : sent.length = log.length := by rw [← hchanges, List.length_map]
  have hledger : m.ledger = (Metrics.sent sent).ledger := run_ledger name limits events
  have hleads := run_leads name limits events
  have htransitions : m.transitions = .ofNat log.length :=
    (congrArg Metrics.Ledger.transitions hledger).trans
      ((Metrics.sent_transitions sent).trans (congrArg UInt64.ofNat hlength))
  have hhistory : m.history = sent.rtake 100 :=
    (congrArg Metrics.Ledger.history hledger).trans (Metrics.sent_history sent)
  refine ⟨⟨hchanges, hledger⟩, fun e => (step_transit t e).ledger_eq, hleads, ?_,
    ⟨hleads.last, (run_published name limits events).publishedPhase_eq⟩,
    ⟨htransitions, fun hfew => ?_⟩, fun k => ?_⟩
  · exact fun met _ change hchange => ((step_transit met.1 met.2).makes hchange).1
  · rw [htransitions, UInt64.toNat_ofNat']
    exact Nat.mod_eq_of_lt hfew
  · rw [← hlength, ← Metrics.rtake_rtake, ← hhistory]
    rfl

/-- A circuit opens, is probed, recovers, is isolated twice and reset twice. -/
def upsAndDowns : List Event :=
  [.start false, .finish 0 .failure, .wait (.ofSeconds 30), .start false, .finish 1 .success,
    .isolate, .isolate, .reset, .reset]

theorem one_log_of_ups_and_downs :
    let t := (fresh "llm" { threshold := 1 }).run upsAndDowns
    let log := (fresh "llm" { threshold := 1 }).changes upsAndDowns
    log.length < UInt64.size ∧
      log = [⟨.closed, .opened⟩, ⟨.opened, .halfOpen⟩, ⟨.halfOpen, .closed⟩, ⟨.closed, .isolated⟩,
        ⟨.isolated, .closed⟩] ∧
      t.breaker.metrics.transitions.toNat = log.length ∧
      (t.breaker.metrics.recent 2).map Transition.change =
        [⟨.closed, .isolated⟩, ⟨.isolated, .closed⟩] := by
  intro t log
  have hfew : log.length < UInt64.size := by decide
  obtain ⟨-, -, -, -, -, ⟨-, hcounted⟩, -⟩ :=
    one_log_of_changes "llm" { threshold := 1 } upsAndDowns
  exact ⟨hfew, by decide, hcounted hfew, by decide⟩

end Traffic

end Breaker

end ResilientChat
