import ResilientChat.Breaker.Basic

/-!
What the operations of a breaker do to its circuit. Entering and completing a
call are each described by one inductive relation, with one rule for each way
in which the operation can turn out. Proofs about runs of calls argue from
these rules and do not open the operations.
-/

namespace ResilientChat

namespace Breaker

/-- The part of a breaker that decides about calls. -/
structure Circuit where
  phase : Phase
  failures : UInt32
  openedAt : Option Instant
  probing : Bool
  generation : UInt64
deriving DecidableEq

def circuit (b : Breaker) : Circuit :=
  ⟨b.phase, b.failures, b.openedAt, b.probing, b.generation⟩

def withCircuit (b : Breaker) (c : Circuit) (m : Metrics) (published : UInt8) : Breaker :=
  { b with
    phase := c.phase
    failures := c.failures
    openedAt := c.openedAt
    probing := c.probing
    generation := c.generation
    published
    metrics := m }

/-- The counters once a change of phase, if there was one, is noted in them. -/
def Metrics.noteChange (m : Metrics) (now : Instant) : Option Change → Metrics
  | none => m
  | some change => m.countTransition ⟨change, (Duration.millis now).toUInt64⟩

/-- The breaker after an operation that counted `m` and turned its circuit into `c`. -/
def movedTo (b : Breaker) (c : Circuit) (m : Metrics) (change : Option Change)
    (now : Instant) (published : UInt8) : Moved where
  breaker := b.withCircuit c (m.noteChange now change) published
  change := change

/-- What is published once a call was let through: the new phase, if it changed. -/
def publishedOn (b : Breaker) : Option Change → UInt8
  | none => b.published
  | some change => change.after.code

/-- What is published once a call ended in the circuit `c`: its phase, if the circuit counts. -/
def publishedAfter (b : Breaker) (a : Admission) (c : Circuit) : UInt8 :=
  if a = .bypass then b.published else c.phase.code

section Fields

variable (b : Breaker) (c : Circuit) (m : Metrics) (published : UInt8) (change : Option Change)
  (now : Instant)

@[simp] theorem circuit_phase : b.circuit.phase = b.phase := rfl

@[simp] theorem circuit_failures : b.circuit.failures = b.failures := rfl

@[simp] theorem circuit_openedAt : b.circuit.openedAt = b.openedAt := rfl

@[simp] theorem circuit_probing : b.circuit.probing = b.probing := rfl

@[simp] theorem circuit_generation : b.circuit.generation = b.generation := rfl

@[simp] theorem withCircuit_self : b.withCircuit b.circuit b.metrics b.published = b := rfl

@[simp] theorem withCircuit_circuit : (b.withCircuit c m published).circuit = c := rfl

@[simp] theorem withCircuit_name : (b.withCircuit c m published).name = b.name := rfl

@[simp] theorem withCircuit_limits : (b.withCircuit c m published).limits = b.limits := rfl

@[simp] theorem withCircuit_metrics : (b.withCircuit c m published).metrics = m := rfl

@[simp] theorem withCircuit_phase : (b.withCircuit c m published).phase = c.phase := rfl

@[simp] theorem withCircuit_failures : (b.withCircuit c m published).failures = c.failures := rfl

@[simp] theorem withCircuit_openedAt : (b.withCircuit c m published).openedAt = c.openedAt := rfl

@[simp] theorem withCircuit_probing : (b.withCircuit c m published).probing = c.probing := rfl

@[simp] theorem withCircuit_generation :
    (b.withCircuit c m published).generation = c.generation := rfl

@[simp] theorem withCircuit_published :
    (b.withCircuit c m published).published = published := rfl

@[simp] theorem noteChange_none : m.noteChange now none = m := rfl

@[simp] theorem publishedOn_none : b.publishedOn none = b.published := rfl

@[simp] theorem publishedOn_some (change : Change) :
    b.publishedOn (some change) = change.after.code := rfl

@[simp] theorem publishedAfter_bypass : b.publishedAfter .bypass c = b.published := rfl

theorem publishedAfter_of_ne {a : Admission} (h : a ≠ .bypass) :
    b.publishedAfter a c = c.phase.code := if_neg h

theorem publish_movedTo :
    (b.movedTo c m change now published).publish = b.movedTo c m change now c.phase.code := rfl

end Fields

theorem goTo_of_eq {b : Breaker} {phase : Phase} (now : Instant) (h : b.phase = phase) :
    b.goTo phase now = b.movedTo b.circuit b.metrics none now b.published := by
  simp [goTo, h, movedTo]

theorem goTo_of_ne {b : Breaker} {phase : Phase} (now : Instant) (h : b.phase ≠ phase) :
    b.goTo phase now =
      b.movedTo { b.circuit with phase, generation := b.generation + 1 } b.metrics
        (some ⟨b.phase, phase⟩) now b.published := by
  simp only [goTo, h, if_false]
  rfl

theorem trip_of_ne {b : Breaker} (now : Instant) (h : b.phase ≠ .opened) :
    b.trip now =
      b.movedTo
        { b.circuit with
          phase := .opened, openedAt := some now, generation := b.generation + 1 }
        b.metrics (some ⟨b.phase, .opened⟩) now b.published :=
  goTo_of_ne (b := { b with openedAt := some now }) now h

theorem isolate_of_eq {b : Breaker} (now : Instant) (h : b.phase = .isolated) :
    b.isolate now =
      b.movedTo { b.circuit with probing := false } b.metrics none now Phase.isolated.code := by
  have hgo := goTo_of_eq (b := { b with probing := false }) now h
  rw [isolate, hgo, publish_movedTo]
  simp [movedTo, withCircuit, circuit, h]

theorem isolate_of_ne {b : Breaker} (now : Instant) (h : b.phase ≠ .isolated) :
    b.isolate now =
      b.movedTo
        { b.circuit with
          phase := .isolated, probing := false, generation := b.generation + 1 }
        b.metrics (some ⟨b.phase, .isolated⟩) now Phase.isolated.code :=
  congrArg Moved.publish (goTo_of_ne (b := { b with probing := false }) now h)

theorem reset_of_eq {b : Breaker} (now : Instant) (h : b.phase = .closed) :
    b.reset now =
      b.movedTo ⟨.closed, 0, none, false, b.generation⟩ b.metrics none now
        Phase.closed.code := by
  have hgo := goTo_of_eq
    (b := { b with failures := 0, openedAt := none, probing := false }) now h
  rw [reset, hgo, publish_movedTo]
  simp [movedTo, withCircuit, circuit, h]

theorem reset_of_ne {b : Breaker} (now : Instant) (h : b.phase ≠ .closed) :
    b.reset now =
      b.movedTo ⟨.closed, 0, none, false, b.generation + 1⟩ b.metrics
        (some ⟨b.phase, .closed⟩) now Phase.closed.code :=
  congrArg Moved.publish
    (goTo_of_ne (b := { b with failures := 0, openedAt := none, probing := false }) now h)

namespace Circuit

def Cooled (c : Circuit) (l : Limits) (now : Instant) : Prop :=
  ∀ opened, c.openedAt = some opened → l.cooldown ≤ now - opened

/-- Calls that start now are turned away. -/
def Refuses (c : Circuit) (l : Limits) (now : Instant) : Prop :=
  c.phase = .isolated ∨ l.enabled = true ∧
    (c.phase = .halfOpen ∧ c.probing = true ∨ c.phase = .opened ∧ ¬c.Cooled l now)

def Holds (c : Circuit) (a : Admission) : Prop :=
  c.phase = .halfOpen ∧ a = .probe c.generation

end Circuit

/-- The ways in which a call is let through: how, what becomes of the circuit, and the change
of phase. -/
inductive Entry (l : Limits) (c : Circuit) (now : Instant) :
    Admission → Circuit → Option Change → Prop
  | bypass (hdisabled : l.enabled = false) (hphase : c.phase ≠ .isolated) :
      Entry l c now .bypass c none
  | normal (henabled : l.enabled = true) (hphase : c.phase = .closed) :
      Entry l c now .normal c none
  | probe (henabled : l.enabled = true) (hphase : c.phase = .halfOpen)
      (hfree : c.probing = false) :
      Entry l c now (.probe c.generation) { c with probing := true } none
  | halfOpen (henabled : l.enabled = true) (hphase : c.phase = .opened)
      (hcooled : c.Cooled l now) :
      Entry l c now (.probe (c.generation + 1))
        { c with phase := .halfOpen, probing := true, generation := c.generation + 1 }
        (some ⟨.opened, .halfOpen⟩)

/-- The ways in which a call that was let through ends: what becomes of the circuit, and the
change of phase. -/
inductive Ending (l : Limits) (c : Circuit) (a : Admission) (v : Verdict) (now : Instant) :
    Circuit → Option Change → Prop
  | ignored (hprobe : ¬c.Holds a)
      (h : a = .bypass ∨ v = .neutral ∨ c.phase ≠ .closed) :
      Ending l c a v now c none
  | freed (hprobe : c.Holds a) (hv : v = .neutral) :
      Ending l c a v now { c with probing := false } none
  | cleared (ha : a ≠ .bypass) (hphase : c.phase = .closed) (hv : v = .success) :
      Ending l c a v now { c with failures := 0 } none
  | counted (ha : a ≠ .bypass) (hphase : c.phase = .closed) (hv : v = .failure)
      (hbelow : ¬l.threshold ≤ increase c.failures) :
      Ending l c a v now { c with failures := increase c.failures } none
  | tripped (ha : a ≠ .bypass) (hphase : c.phase = .closed) (hv : v = .failure)
      (hreached : l.threshold ≤ increase c.failures) :
      Ending l c a v now
        { c with
          phase := .opened
          failures := increase c.failures
          openedAt := some now
          generation := c.generation + 1 }
        (some ⟨.closed, .opened⟩)
  | recovered (hprobe : c.Holds a) (hv : v = .success) :
      Ending l c a v now ⟨.closed, 0, none, false, c.generation + 1⟩
        (some ⟨.halfOpen, .closed⟩)
  | reopened (hprobe : c.Holds a) (hv : v = .failure) :
      Ending l c a v now ⟨.opened, increase c.failures, some now, false, c.generation + 1⟩
        (some ⟨.halfOpen, .opened⟩)

section Rules

variable {l : Limits} {c c' : Circuit} {now : Instant} {a : Admission} {change : Option Change}

theorem Entry.bypass_iff (h : Entry l c now a c' change) :
    a = .bypass ↔ l.enabled = false := by
  cases h <;> simp_all

theorem Entry.not_refuses (h : Entry l c now a c' change) : ¬c.Refuses l now := by
  rintro (hisolated | ⟨henabled, ⟨hphase, hprobing⟩ | ⟨hphase, hhot⟩⟩) <;>
    cases h <;> simp_all

/-- A success closes the circuit and clears its failures wherever it counts. -/
theorem Ending.of_success (h : Ending l c a .success now c' change) :
    (c'.phase = .closed ∧ c'.failures = 0) ∨
      c' = c ∧ ¬c.Holds a ∧ (a = .bypass ∨ c.phase ≠ .closed) := by
  cases h with
  | ignored hprobe h =>
      rcases h with h | h | h
      · exact .inr ⟨rfl, hprobe, .inl h⟩
      · cases h
      · exact .inr ⟨rfl, hprobe, .inr h⟩
  | cleared _ hphase => exact .inl ⟨hphase, rfl⟩
  | recovered => exact .inl ⟨rfl, rfl⟩
  | freed _ hv | counted _ _ hv | tripped _ _ hv | reopened _ hv => cases hv

end Rules

theorem isCooled_iff (b : Breaker) (now : Instant) :
    b.isCooled now = true ↔ b.circuit.Cooled b.limits now := by
  unfold isCooled Circuit.Cooled
  cases h : b.openedAt <;> simp [h]

theorem isProbe_iff (b : Breaker) (a : Admission) :
    b.isProbe a = true ↔ b.circuit.Holds a := by
  cases a <;> simp [isProbe, Circuit.Holds, and_comm]

/-- A call is turned away, or let through by one of the rules. -/
theorem enter_spec (b : Breaker) (now : Instant) :
    (b.circuit.Refuses b.limits now ∧ b.enter now = b.refuse) ∨
      ∃ a c change, Entry b.limits b.circuit now a c change ∧
        b.enter now = (b.movedTo c b.metrics change now (b.publishedOn change), .ok a) := by
  by_cases hisolated : b.phase = .isolated
  · exact .inl ⟨.inl hisolated, by simp [enter, hisolated]⟩
  cases henabled : b.limits.enabled with
  | false =>
      refine .inr ⟨_, _, _, .bypass henabled hisolated, ?_⟩
      simp [enter, hisolated, henabled, movedTo]
  | true =>
      cases hphase : b.phase with
      | isolated => exact absurd hphase hisolated
      | closed =>
          refine .inr ⟨_, _, _, .normal henabled hphase, ?_⟩
          simp [enter, henabled, hphase, movedTo]
      | halfOpen =>
          cases hprobing : b.probing with
          | true =>
              refine .inl ⟨.inr ⟨henabled, .inl ⟨hphase, hprobing⟩⟩, ?_⟩
              simp [enter, henabled, hphase, hprobing]
          | false =>
              refine .inr ⟨_, _, _, .probe henabled hphase hprobing, ?_⟩
              simp [enter, henabled, hphase, hprobing, admitProbe, movedTo, withCircuit]
      | opened =>
          by_cases hcooled : b.isCooled now = true
          · refine .inr ⟨_, _, _,
              .halfOpen henabled hphase ((isCooled_iff b now).mp hcooled), ?_⟩
            have hne : b.phase ≠ .halfOpen := by simp [hphase]
            simp [enter, henabled, hphase, hcooled, goTo_of_ne now hne, admitProbe, movedTo,
              withCircuit, publish]
          · refine .inl ⟨.inr ⟨henabled, .inr ⟨hphase, ?_⟩⟩, ?_⟩
            · rwa [isCooled_iff] at hcooled
            · simp [enter, henabled, hphase, hcooled]

/-- A verdict that is no probe's counts in a closed circuit only. -/
theorem judge_spec {b : Breaker} {a : Admission} (v : Verdict) (now : Instant)
    (ha : a ≠ .bypass) (hprobe : ¬b.circuit.Holds a) :
    ∃ c change, Ending b.limits b.circuit a v now c change ∧
      b.judge false v now = b.movedTo c b.metrics change now b.published := by
  by_cases hneutral : v = .neutral
  · refine ⟨_, _, .ignored hprobe (.inr (.inl hneutral)), ?_⟩
    subst hneutral
    cases hphase : b.phase <;> simp [judge, hphase, movedTo]
  by_cases hclosed : b.phase = .closed
  · cases v with
    | neutral => contradiction
    | success =>
        refine ⟨_, _, .cleared ha hclosed rfl, ?_⟩
        simp [judge, hclosed, movedTo, withCircuit]
    | failure =>
        by_cases hreached : b.limits.threshold ≤ increase b.failures
        · refine ⟨_, _, .tripped ha hclosed rfl hreached, ?_⟩
          have htrip := trip_of_ne (b := { b with failures := increase b.failures }) now
            (by simp [hclosed])
          simpa [judge, hclosed, hreached, movedTo, withCircuit, circuit] using htrip
        · refine ⟨_, _, .counted ha hclosed rfl hreached, ?_⟩
          simp [judge, hclosed, hreached, movedTo, withCircuit]
  · refine ⟨_, _, .ignored hprobe (.inr (.inr hclosed)), ?_⟩
    cases hphase : b.phase with
    | closed => contradiction
    | opened | halfOpen | isolated => cases v <;> simp [judge, hphase, movedTo]

/-- A probe's verdict decides the half-open period. -/
theorem judge_probe_spec {b : Breaker} {a : Admission} (v : Verdict) (now : Instant)
    (hprobe : b.circuit.Holds a) :
    ∃ c change, Ending b.limits b.circuit a v now c change ∧
      { b with probing := false }.judge true v now =
        b.movedTo c b.metrics change now b.published := by
  have hphase : b.phase = .halfOpen := hprobe.1
  cases v with
  | neutral =>
      refine ⟨_, _, .freed hprobe rfl, ?_⟩
      simp [judge, hphase, movedTo, withCircuit]
  | success =>
      refine ⟨_, _, .recovered hprobe rfl, ?_⟩
      have hne : b.phase ≠ .closed := by simp [hphase]
      have hgo := goTo_of_ne
        (b := { b with failures := 0, openedAt := none, probing := false }) now hne
      simpa [judge, hphase, movedTo, withCircuit, circuit] using hgo
  | failure =>
      refine ⟨_, _, .reopened hprobe rfl, ?_⟩
      have htrip := trip_of_ne
        (b := { b with failures := increase b.failures, probing := false }) now (by simp [hphase])
      simpa [judge, hphase, movedTo, withCircuit, circuit] using htrip

/-- A call that was let through ends by one of the rules. -/
theorem complete_spec (b : Breaker) (a : Admission) (v : Verdict) (now : Instant) :
    ∃ c change, Ending b.limits b.circuit a v now c change ∧
      b.complete a v now =
        b.movedTo c (b.metrics.countVerdict v) change now (b.publishedAfter a c) := by
  -- The verdict is counted before the circuit is judged, which leaves the circuit as it is.
  let counted : Breaker := { b with metrics := b.metrics.countVerdict v }
  by_cases ha : a = .bypass
  · subst ha
    exact ⟨_, _, .ignored (by simp [Circuit.Holds]) (.inl rfl), by
      simp [complete, movedTo, withCircuit]⟩
  have hcomplete : b.complete a v now =
      ((if counted.isProbe a then { counted with probing := false } else counted).judge
        (counted.isProbe a) v now).publish := by
    simp only [complete, ha, if_false]
    rfl
  by_cases hprobe : b.circuit.Holds a
  · obtain ⟨c, change, hending, hjudge⟩ := judge_probe_spec (b := counted) v now hprobe
    have his : counted.isProbe a = true := (isProbe_iff counted a).mpr hprobe
    rw [his] at hcomplete
    refine ⟨c, change, hending, ?_⟩
    rw [publishedAfter_of_ne b c ha]
    exact hcomplete.trans (congrArg Moved.publish hjudge)
  · obtain ⟨c, change, hending, hjudge⟩ := judge_spec (b := counted) v now ha hprobe
    have his : counted.isProbe a = false := by
      simpa using mt (isProbe_iff counted a).mp hprobe
    rw [his] at hcomplete
    refine ⟨c, change, hending, ?_⟩
    rw [publishedAfter_of_ne b c ha]
    exact hcomplete.trans (congrArg Moved.publish hjudge)

theorem abandon_of_holds {b : Breaker} {a : Admission} (hprobe : b.circuit.Holds a) :
    b.abandon a = b.withCircuit { b.circuit with probing := false } b.metrics b.published := by
  simp [abandon, (isProbe_iff b a).mpr hprobe, withCircuit]

theorem abandon_of_not_holds {b : Breaker} {a : Admission} (hprobe : ¬b.circuit.Holds a) :
    b.abandon a = b := by
  simp [abandon, mt (isProbe_iff b a).mp hprobe]

end Breaker

end ResilientChat
