import ResilientChat.Breaker.Guard
import ResilientChat.Proofs.Breaker.Tripping

/-!
A whole call through a breaker. It is given up, refused or let through as one rule of `Passage`
says, and it is counted once, under the outcome that its result stands for.
-/

namespace ResilientChat

namespace Breaker

variable {α : Type}

inductive Passage (b : Breaker) (action : Instant → Cancellation → Option (Call α))
    (now : Instant) (caller : Cancellation) : Guarded α → Prop
  | givenUp (hdue : caller.isDue now = true) :
      Passage b action now caller
        ⟨b.withCircuit b.circuit b.metrics.countCancelled b.published, none,
          .given (.error .cancelled) now caller, none⟩
  | refused (hlive : caller.isDue now = false) (hrefuses : b.circuit.Refuses b.limits now) :
      Passage b action now caller
        ⟨b.withCircuit b.circuit b.metrics.countRejected b.published, none,
          .given (.error (.refused b.name b.phase)) now caller, none⟩
  | passed {a : Admission} {c c' : Circuit} {opening closing : Option Change} {call : Call α}
      (hlive : caller.isDue now = false) (hentry : Entry b.limits b.circuit now a c opening)
      (henter : b.enter now = (b.movedTo c b.metrics opening now (b.publishedOn opening), .ok a))
      (hcall : action now caller = some call)
      (hending : Ending b.limits c a (Verdict.ofResult call.result) call.endsAt c' closing) :
      Passage b action now caller
        ⟨b.withCircuit c'
            (((b.metrics.noteChange now opening).countVerdict
              (Verdict.ofResult call.result)).noteChange call.endsAt closing)
            (if a = .bypass then b.publishedOn opening else c'.phase.code),
          opening, call, closing⟩

theorem guard_passage {b : Breaker} {action : Instant → Cancellation → Option (Call α)}
    {now : Instant} {caller : Cancellation} {g : Guarded α}
    (h : b.guard action now caller = some g) : b.Passage action now caller g := by
  cases hdue : caller.isDue now with
  | true =>
      simp only [guard, start, hdue, if_true, Option.some.injEq] at h
      subst h
      exact .givenUp hdue
  | false =>
      rcases enter_spec b now with ⟨hrefuses, henter⟩ | ⟨a, c, opening, hentry, henter⟩
      · simp only [guard, start, hdue, henter, refuse] at h
        cases h
        exact .refused hdue hrefuses
      · simp only [guard, start, hdue, henter] at h
        obtain ⟨call, hcall, rfl⟩ := Option.map_eq_some_iff.mp h
        obtain ⟨c', closing, hending, hcomplete⟩ :=
          complete_spec (b.movedTo c b.metrics opening now (b.publishedOn opening)).breaker a
            (Verdict.ofResult call.result) call.endsAt
        rw [hcomplete]
        exact .passed hdue hentry henter hcall hending

def Guarded.map {β : Type} (f : α → β) (g : Guarded α) : Guarded β :=
  ⟨g.breaker, g.opening, g.call.map f, g.closing⟩

/-- What a success carries decides nothing about how its call is counted. -/
theorem guard_map {β : Type} (f : α → β) (b : Breaker)
    (action : Instant → Cancellation → Option (Call α)) (now : Instant) (caller : Cancellation) :
    b.guard (fun now caller => (action now caller).map (Call.map f)) now caller =
      (b.guard action now caller).map (Guarded.map f) := by
  have hverdict (result : Except (CallFailure Fault) α) :
      Verdict.ofResult (result.map f) = Verdict.ofResult result := by
    cases result with
    | ok v => rfl
    | error failure => cases failure <;> rfl
  rw [guard, guard]
  cases b.start (ε := Fault) (caller.isDue now) now with
  | mk entered admitted =>
      cases admitted with
      | error failure => rfl
      | ok admission =>
          cases action now caller with
          | none => rfl
          | some call => simp [Guarded.map, Call.map, hverdict]

def Metrics.tally (m : Metrics) : Outcome → UInt64
  | .success => m.successes
  | .failure => m.failures
  | .rejected => m.rejected
  | .cancelled => m.cancelled

def Verdict.outcome : Verdict → Outcome
  | .success => .success
  | .failure => .failure
  | .neutral => .cancelled

theorem Metrics.tally_noteChange (m : Metrics) (now : Instant) (change : Option Change) :
    (m.noteChange now change).tally = m.tally := by
  cases change <;> rfl

theorem Metrics.tally_countVerdict (m : Metrics) (v : Verdict) (o : Outcome) :
    (m.countVerdict v).tally o = m.tally o + if o = v.outcome then 1 else 0 := by
  cases v <;> cases o <;>
    simp [countVerdict, countSuccess, countFailure, countCancelled, tally, Verdict.outcome]

/-- Unless it was refused further on, a call is counted under the outcome that it has. -/
theorem Verdict.outcome_ofResult {result : Except (CallFailure Fault) α}
    (h : ∀ circuit phase, result ≠ .error (.refused circuit phase)) :
    (Verdict.ofResult result).outcome = Outcome.ofResult result := by
  rcases result with (⟨circuit, phase⟩ | _ | _ | _) | _
  · exact absurd rfl (h circuit phase)
  all_goals rfl

theorem Entry.failures_eq {l : Limits} {c c' : Circuit} {now : Instant} {a : Admission}
    {change : Option Change} (h : Entry l c now a c' change) : c'.failures = c.failures := by
  cases h <;> rfl

theorem Ending.probing_of_neutral {l : Limits} {c c' : Circuit} {now : Instant} {a : Admission}
    {change : Option Change} (h : Ending l c a .neutral now c' change) :
    c'.probing = true ↔ c.probing = true ∧ ¬c.Holds a := by
  cases h with
  | ignored hprobe => simp [hprobe]
  | freed hprobe => simp [hprobe]
  | cleared _ _ hv | counted _ _ hv | tripped _ _ hv | recovered _ hv | reopened _ hv => cases hv

/-- A call is let through only while the probe's place is free. -/
theorem Entry.probing_eq_false {l : Limits} {c c' : Circuit} {now : Instant} {a : Admission}
    {change : Option Change} (h : Entry l c now a c' change) (hsound : c.Sound l)
    (hplace : c.probing = true → c.phase = .halfOpen) : c.probing = false := by
  cases hprobing : c.probing with
  | false => rfl
  | true =>
      have hphase := hplace hprobing
      cases h with
      | bypass hdisabled =>
          have hidle := (hsound.disabled hdisabled).1
          simp [hphase] at hidle
      | normal _ hclosed => simp [hphase] at hclosed
      | probe _ _ hfree => exact hprobing.symm.trans hfree
      | halfOpen _ hopened => simp [hphase] at hopened

/-- A call that is let through and then given up leaves the probe's place as it found it. -/
theorem Entry.probing_of_given_up {l : Limits} {c c' c'' : Circuit} {now later : Instant}
    {a : Admission} {opening closing : Option Change} (hentry : Entry l c now a c' opening)
    (hending : Ending l c' a .neutral later c'' closing)
    (hplace : c.probing = true → c.phase = .halfOpen) : c''.probing = c.probing := by
  rw [Bool.eq_iff_iff, hending.probing_of_neutral]
  cases hentry with
  | bypass | normal => simp [Circuit.Holds]
  | probe _ hphase hfree => simp [Circuit.Holds, hphase, hfree]
  | halfOpen _ hphase =>
      have hfree : ¬c.probing = true := fun hprobing => by simp [hplace hprobing] at hphase
      simp [Circuit.Holds, hfree]

section Rules

variable {b : Breaker} {action : Instant → Cancellation → Option (Call α)} {now : Instant}
  {caller : Cancellation} {g : Guarded α}

theorem Passage.name_eq (h : b.Passage action now caller g) : g.breaker.name = b.name := by
  cases h <;> rfl

/-- A call is counted once, under its outcome, and nothing else is counted. -/
theorem Passage.tally (h : b.Passage action now caller g)
    (haction : ∀ call, action now caller = some call →
      ∀ circuit phase, call.result ≠ .error (.refused circuit phase)) (o : Outcome) :
    g.breaker.metrics.tally o =
      b.metrics.tally o + if o = Outcome.ofResult g.call.result then 1 else 0 := by
  cases h with
  | givenUp =>
      cases o <;> simp [Metrics.countCancelled, Metrics.tally, Call.given, Outcome.ofResult]
  | refused =>
      cases o <;> simp [Metrics.countRejected, Metrics.tally, Call.given, Outcome.ofResult]
  | passed _ _ _ hcall =>
      simp only [withCircuit_metrics, Metrics.tally_noteChange, Metrics.tally_countVerdict,
        Verdict.outcome_ofResult (haction _ hcall)]

theorem Ending.failures_le {l : Limits} {c c' : Circuit} {a : Admission} {v : Verdict}
    {change : Option Change} (h : Ending l c a v now c' change) :
    c'.failures.toNat ≤ c.failures.toNat + 1 := by
  have hmore : (increase c.failures).toNat ≤ c.failures.toNat + 1 := by
    rw [increase_toNat]
    exact Nat.min_le_left _ _
  cases h with
  | ignored | freed => exact Nat.le_succ _
  | cleared | recovered => exact Nat.zero_le _
  | counted | tripped | reopened => exact hmore

theorem Passage.failures_le (h : b.Passage action now caller g) :
    g.breaker.failures.toNat ≤ b.failures.toNat + 1 := by
  cases h with
  | givenUp | refused => exact Nat.le_succ _
  | passed _ hentry _ _ hending =>
      have hle := hending.failures_le
      rwa [hentry.failures_eq] at hle

/-- A call is refused exactly when this breaker turns it away. -/
theorem Passage.refused_iff (h : b.Passage action now caller g)
    (haction : ∀ call, action now caller = some call →
      ∀ circuit phase, call.result ≠ .error (.refused circuit phase)) :
    (∃ circuit phase, g.call.result = .error (.refused circuit phase)) ↔
      caller.isDue now = false ∧ b.circuit.Refuses b.limits now := by
  cases h with
  | givenUp hdue => simp [Call.given, hdue]
  | refused hlive hrefuses => simp [Call.given, hlive, hrefuses]
  | passed _ hentry _ hcall => simp [haction _ hcall, hentry.not_refuses]

/-- A refused call is told by which circuit, and calls nothing. -/
theorem Passage.of_refused (h : b.Passage action now caller g)
    (haction : ∀ call, action now caller = some call →
      ∀ circuit phase, call.result ≠ .error (.refused circuit phase))
    {circuit : String} {phase : Phase} (hresult : g.call.result = .error (.refused circuit phase)) :
    (circuit = b.name ∧ phase = b.phase) ∧ g.call.calls = 0 ∧ g.call.reports = [] := by
  cases h with
  | givenUp => cases hresult
  | refused =>
      cases hresult
      exact ⟨⟨rfl, rfl⟩, rfl, rfl⟩
  | passed _ _ _ hcall => exact absurd hresult (haction _ hcall circuit phase)

/-- A call that is given up leaves the circuit as it was once the call was let through, and the
probe's place as it was before. -/
theorem Passage.of_cancelled (h : b.Passage action now caller g)
    (hplace : b.probing = true → b.phase = .halfOpen)
    (hresult : g.call.result = .error .cancelled) :
    g.breaker.circuit =
      { (b.start (ε := Fault) (caller.isDue now) now).1.breaker.circuit with
        probing := b.probing } := by
  cases h with
  | givenUp hdue => simp [start, hdue, circuit]
  | refused => cases hresult
  | @passed a c c' opening closing call hlive hentry henter _ hending =>
      have hstart : (b.start (ε := Fault) (caller.isDue now) now).1.breaker.circuit = c := by
        simp [start, hlive, henter, movedTo]
      rw [hstart, withCircuit_circuit]
      change call.result = _ at hresult
      rw [hresult] at hending
      have hprobing : c'.probing = b.probing := hentry.probing_of_given_up hending hplace
      rw [hending.of_neutral, hprobing]

/-- Once a call of a live caller is given up, the probe's place is free. -/
theorem Passage.probing_of_cancelled (h : b.Passage action now caller g)
    (hsound : b.circuit.Sound b.limits) (hplace : b.probing = true → b.phase = .halfOpen)
    (hlive : caller.isDue now = false) (hresult : g.call.result = .error .cancelled) :
    g.breaker.probing = false := by
  have hcircuit := h.of_cancelled hplace hresult
  have hprobing : g.breaker.circuit.probing = b.probing := by rw [hcircuit]
  rw [← circuit_probing, hprobing]
  cases h with
  | givenUp hdue => exact absurd (hdue.symm.trans hlive) Bool.noConfusion
  | refused => cases hresult
  | passed _ hentry => exact hentry.probing_eq_false hsound hplace

end Rules

end Breaker

end ResilientChat
