import ResilientChat.Breaker.Guard
import ResilientChat.Breaker.Registry

/-!
The way out to every dependency. A call of a named dependency goes through the
circuit of that name and is repeated by its backoff, both set up from its own
tuning. An open circuit spends no attempts, and a repeated call that fails counts
once.
-/

namespace ResilientChat

open Breaker

/-- Backoffs by the name of their dependency, each made from its tuning. -/
abbrev Backoffs (settings : Settings) : Type :=
  Kept fun name => Backoff.ofTuning (settings.tuningFor name)

structure Dispatcher where
  settings : Settings
  registry : Registry
  /-- The backoffs of the dependencies that were called. -/
  backoffs : Backoffs settings := ∅

instance : Inhabited Dispatcher := ⟨{ settings := default, registry := default }⟩

namespace Dispatcher

variable {α : Type}

def ofSettings (settings : Settings) : Dispatcher :=
  { settings, registry := { defaults := Limits.ofTuning settings.defaults } }

def limitsFor (d : Dispatcher) (name : String) : Limits :=
  Limits.ofTuning (d.settings.tuningFor name)

def backoffFor (d : Dispatcher) (name : String) : Backoff :=
  Backoff.ofTuning (d.settings.tuningFor name)

/-- The breaker of that name, as it is or as it will be made on first use. -/
def breaker (d : Dispatcher) (name : String) : Breaker :=
  d.registry.obtain name (d.limitsFor name)

def ensure (d : Dispatcher) (name : String) : Dispatcher :=
  { d with registry := d.registry.ensure name (d.limitsFor name) }

def changeEvents (name : String) (change : Option Change) : List Event :=
  (change.map (Event.transition name)).toList

def isolate (d : Dispatcher) (name : String) (now : Instant) : Dispatcher × List Event :=
  let (registry, moved) := d.registry.isolateWith name (d.limitsFor name) now
  ({ d with registry }, changeEvents name moved.change)

/-- Resets a name that was used before; none for an unknown one. -/
def reset? (d : Dispatcher) (name : String) (now : Instant) : Option (Dispatcher × List Event) :=
  (d.registry.reset? name now).map fun (registry, moved) =>
    ({ d with registry }, changeEvents name moved.change)

structure Dispatched (α : Type) where
  dispatcher : Dispatcher
  result : Except (CallFailure Fault) α
  endsAt : Instant
  /-- The caller's token after the call. -/
  caller : Cancellation
  /-- How often the dependency was called. -/
  calls : Nat
  events : List Event

def events (name : String) (started : Instant) (g : Guarded α) : List Event :=
  changeEvents name g.opening
    ++ g.call.reports.map (Event.attempt name)
    ++ changeEvents name g.closing
    ++ [.outcome name (Outcome.ofResult g.call.result) (g.call.endsAt - started)]

/-- Calls the dependency `name`. None stands for a call that never ends. -/
def run (d : Dispatcher) (name : String) (draws : Nat → Nat) (script : Script α)
    (now : Instant) (caller : Cancellation) : Option (Dispatched α) :=
  ((d.breaker name).callRepeated (d.backoffs.obtain name) draws script now caller).map fun g =>
    { dispatcher :=
        { d with registry := d.registry.put g.breaker, backoffs := d.backoffs.keep name }
      result := g.call.result
      endsAt := g.call.endsAt
      caller := g.call.caller
      calls := g.call.calls
      events := events name now g }

end Dispatcher

end ResilientChat
