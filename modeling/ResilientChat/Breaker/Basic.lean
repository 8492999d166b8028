import ResilientChat.Breaker.Limits
import ResilientChat.Breaker.Metrics
import ResilientChat.CallFailure

/-!
The circuit breaker of one dependency. Every operation is a function of the
breaker and the instant at which it happens; it yields the new breaker and the
change of phase that it made, if it made one.

A breaker counts its changes of phase in `generation`. A probe carries the
generation that admitted it, so that a probe of an earlier half-open period is
told from the current one.
-/

namespace ResilientChat

/-- The circuit of one dependency. -/
structure Breaker where
  name : String
  limits : Breaker.Limits := {}
  phase : Breaker.Phase := .closed
  /-- Failures in a row. -/
  failures : UInt32 := 0
  openedAt : Option Instant := none
  /-- The one probe of this half-open period is on its way. -/
  probing : Bool := false
  generation : UInt64 := 0
  /-- The code of the phase for readers that do not wait for calls. -/
  published : UInt8 := Breaker.Phase.closed.code
  metrics : Breaker.Metrics := {}
deriving Repr, DecidableEq, Inhabited

namespace Breaker

/-- How a call was let through. -/
inductive Admission where
  /-- The circuit does not count. -/
  | bypass
  | normal
  | probe (generation : UInt64)
deriving Repr, DecidableEq, Inhabited

/-- What a finished call says about the dependency. -/
inductive Verdict where
  | success
  | failure
  /-- Nothing: the call was given up, or refused further on. -/
  | neutral
deriving Repr, DecidableEq, Inhabited

def Verdict.ofResult {α ε : Type} : Except (CallFailure ε) α → Verdict
  | .ok _ => .success
  | .error .cancelled | .error (.refused _ _) => .neutral
  | .error (.exhausted _ _ _) | .error (.fault _) => .failure

/-- A breaker after an operation, and the change of phase made by it. -/
structure Moved where
  breaker : Breaker
  change : Option Change := none
deriving Repr, DecidableEq

/-- One more, up to the largest number. -/
def increase (n : UInt32) : UInt32 := if n = 0xFFFFFFFF then n else n + 1

/-- Goes over to `phase`; staying in a phase is no change. -/
def goTo (b : Breaker) (phase : Phase) (now : Instant) : Moved :=
  if b.phase = phase then { breaker := b }
  else
    let change : Change := ⟨b.phase, phase⟩
    { breaker :=
        { b with
          phase
          generation := b.generation + 1
          metrics := b.metrics.countTransition ⟨change, (Duration.millis now).toUInt64⟩ }
      change := some change }

def publish (b : Breaker) : Breaker := { b with published := b.phase.code }

def publishedPhase (b : Breaker) : Phase := .ofCode b.published

def Moved.publish (m : Moved) : Moved := { m with breaker := m.breaker.publish }

/-- Refuses every call until a reset. -/
def isolate (b : Breaker) (now : Instant) : Moved :=
  ({ b with probing := false }.goTo .isolated now).publish

/-- Closes the circuit and forgets its failures. -/
def reset (b : Breaker) (now : Instant) : Moved :=
  ({ b with failures := 0, openedAt := none, probing := false }.goTo .closed now).publish

/-- The break of an open circuit is over. -/
def isCooled (b : Breaker) (now : Instant) : Bool :=
  match b.openedAt with
  | none => true
  | some opened => b.limits.cooldown ≤ now - opened

/-- Takes the probe's place in the current half-open period. -/
def admitProbe (b : Breaker) : Breaker × Admission :=
  ({ b with probing := true }, .probe b.generation)

/-- Counts a call that is turned away. -/
def refuse (b : Breaker) : Moved × Except Phase Admission :=
  ({ breaker := { b with metrics := b.metrics.countRejected } }, .error b.phase)

/-- Lets a call through or turns it away; an isolated circuit turns it away even when it does
not count. -/
def enter (b : Breaker) (now : Instant) : Moved × Except Phase Admission :=
  if b.phase = .isolated then b.refuse
  else if !b.limits.enabled then ({ breaker := b }, .ok .bypass)
  else
    match b.phase with
    | .closed => ({ breaker := b }, .ok .normal)
    | .halfOpen =>
      if b.probing then b.refuse
      else
        let (probed, admission) := b.admitProbe
        ({ breaker := probed }, .ok admission)
    | .opened =>
      if b.isCooled now then
        let moved := b.goTo .halfOpen now
        let (probed, admission) := moved.breaker.admitProbe
        ({ moved with breaker := probed.publish }, .ok admission)
      else b.refuse
    | .isolated => b.refuse

/-- The start of a call: a caller that has given up already is counted and not admitted. -/
def start {ε : Type} (b : Breaker) (cancelled : Bool) (now : Instant) :
    Moved × Except (CallFailure ε) Admission :=
  if cancelled then
    ({ breaker := { b with metrics := b.metrics.countCancelled } }, .error .cancelled)
  else
    match b.enter now with
    | (moved, .ok admission) => (moved, .ok admission)
    | (moved, .error phase) => (moved, .error (.refused b.name phase))

def Metrics.countVerdict (m : Metrics) : Verdict → Metrics
  | .success => m.countSuccess
  | .failure => m.countFailure
  | .neutral => m.countCancelled

/-- The call is the probe of the current half-open period. -/
def isProbe (b : Breaker) : Admission → Bool
  | .probe generation => generation = b.generation && b.phase = .halfOpen
  | .bypass | .normal => false

def trip (b : Breaker) (now : Instant) : Moved :=
  { b with openedAt := some now }.goTo .opened now

def judge (b : Breaker) (probe : Bool) (verdict : Verdict) (now : Instant) : Moved :=
  match b.phase, verdict with
  | .closed, .success => { breaker := { b with failures := 0 } }
  | .closed, .failure =>
    let counted := { b with failures := increase b.failures }
    if counted.limits.threshold ≤ counted.failures then counted.trip now
    else { breaker := counted }
  | .halfOpen, .success =>
    if probe then { b with failures := 0, openedAt := none }.goTo .closed now
    else { breaker := b }
  | .halfOpen, .failure =>
    if probe then { b with failures := increase b.failures }.trip now
    else { breaker := b }
  | _, _ => { breaker := b }

def complete (b : Breaker) (admission : Admission) (verdict : Verdict) (now : Instant) : Moved :=
  let counted := { b with metrics := b.metrics.countVerdict verdict }
  if admission = .bypass then { breaker := counted }
  else
    let probe := counted.isProbe admission
    let freed := if probe then { counted with probing := false } else counted
    (freed.judge probe verdict now).publish

/-- The end of a call that was let through and then dropped: a probe's place becomes free. -/
def abandon (b : Breaker) (admission : Admission) : Breaker :=
  if b.isProbe admission then { b with probing := false } else b

/-- A circuit as the health surface shows it. -/
structure View where
  name : String
  phase : Phase
  failures : UInt32
  totals : Totals
deriving Repr, Inhabited

def view (b : Breaker) : View := ⟨b.name, b.phase, b.failures, b.metrics.totals⟩

namespace View

def ofJson? (v : Json.Value) : Option View := do
  let r ← Json.Record.ofValue? ["name", "state", "consecutive_failures", "metrics"] v
  return {
    name := ← r.required "name" Json.Value.string?
    phase := ← r.required "state" Phase.ofJson?
    failures := ← r.required "consecutive_failures" Json.Value.uint32?
    totals := ← r.required "metrics" Totals.ofJson? }

def toJson (v : View) : Json.Value :=
  .object [("name", .string v.name), ("state", .string v.phase.name),
    ("consecutive_failures", .nat v.failures.toNat), ("metrics", v.totals.toJson)]

end View

end Breaker

end ResilientChat
