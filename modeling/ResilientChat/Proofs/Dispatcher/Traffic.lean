import ResilientChat.Dispatcher
import ResilientChat.Proofs.Breaker.ProbeSlot
import Mathlib.Logic.Function.Basic

/-!
A dispatcher in use. Calls of many dependencies may be under way at once while operators step in
and time passes. Each dependency has a line of its own: its breaker, the common clock and its
calls under way. Whatever happens, every line is one that calls through a single breaker can
bring about, so what holds of every such run holds of every breaker of a dispatcher.
-/

namespace ResilientChat

namespace Dispatcher

open Breaker (Limits Verdict Admission)

/-- The calls of one dependency: how many were started, and those under way. -/
structure Calls where
  started : Nat := 0
  inFlight : List (Nat × Admission) := []

structure Traffic where
  dispatcher : Dispatcher
  now : Instant := 0
  calls : String → Calls := fun _ => {}

namespace Traffic

/-- One event; calls are named by their dependency and ticket. -/
inductive Event where
  /-- A breaker is asked for, and made with those limits if there is none of that name. -/
  | ensure (name : String) (limits : Limits)
  | start (name : String) (cancelled : Bool)
  | finish (name : String) (ticket : Nat) (verdict : Verdict)
  | drop (name : String) (ticket : Nat)
  | isolate (name : String)
  | reset (name : String)
  | wait (d : Duration)

def fresh (settings : Settings) : Traffic := { dispatcher := .ofSettings settings }

def line (t : Traffic) (name : String) : Breaker.Traffic where
  breaker := t.dispatcher.breaker name
  now := t.now
  started := (t.calls name).started
  inFlight := (t.calls name).inFlight

/-- The traffic with another line of that dependency. -/
def file (t : Traffic) (name : String) (line : Breaker.Traffic) : Traffic :=
  { t with
    dispatcher := { t.dispatcher with registry := t.dispatcher.registry.put line.breaker }
    calls := Function.update t.calls name ⟨line.started, line.inFlight⟩ }

/-- What happens to the calls of one dependency happens on its line; the reset of a dependency
that was never used changes nothing. -/
def step (t : Traffic) : Event → Traffic
  | .ensure name limits =>
    { t with
      dispatcher :=
        { t.dispatcher with registry := t.dispatcher.registry.ensure name limits } }
  | .start name cancelled => t.file name ((t.line name).step (.start cancelled)).traffic
  | .finish name ticket verdict =>
    t.file name ((t.line name).step (.finish ticket verdict)).traffic
  | .drop name ticket => t.file name ((t.line name).step (.drop ticket)).traffic
  | .isolate name => { t with dispatcher := (t.dispatcher.isolate name t.now).1 }
  | .reset name =>
    match t.dispatcher.reset? name t.now with
    | some (dispatcher, _) => { t with dispatcher }
    | none => t
  | .wait d => { t with now := t.now + d }

def run (t : Traffic) (events : List Event) : Traffic := events.foldl step t

end Traffic

end Dispatcher

namespace Breaker

namespace Registry

variable (r : Registry)

theorem get?_put (b : Breaker) (key : String) :
    (r.put b).get? key = if key = b.name then some b else r.get? key :=
  r.breakers.get?_insert b.name key b

theorem obtain_of_get? {r : Registry} {b : Breaker} {key : String} (h : r.get? key = some b)
    (limits : Limits) : r.obtain key limits = b := by
  rw [obtain, h]
  rfl

theorem obtain_put (b : Breaker) (key : String) (limits : Limits) :
    (r.put b).obtain key limits = if key = b.name then b else r.obtain key limits := by
  rw [obtain, get?_put]
  split <;> rfl

end Registry

namespace Traffic

/-- The traffic can come about by calls through one breaker of that name. -/
def Reached (name : String) (t : Traffic) : Prop :=
  ∃ limits events, t = (fresh name limits).run events

theorem Reached.run {name : String} {t : Traffic} (h : t.Reached name) (later : List Event) :
    (t.run later).Reached name := by
  obtain ⟨limits, events, rfl⟩ := h
  exact ⟨limits, events ++ later, by simp [Traffic.run]⟩

theorem Reached.name_eq {name : String} {t : Traffic} (h : t.Reached name) :
    t.breaker.name = name := by
  obtain ⟨limits, events, rfl⟩ := h
  exact run_name (fresh name limits) events

theorem Reached.sound {name : String} {t : Traffic} (h : t.Reached name) : t.Sound := by
  obtain ⟨limits, events, rfl⟩ := h
  exact run_sound name limits events

theorem Reached.held {name : String} {t : Traffic} (h : t.Reached name) : t.Held := by
  obtain ⟨limits, events, rfl⟩ := h
  exact run_held name limits events

/-- A breaker that was made just now. -/
theorem reached_new (name : String) (limits : Limits) (now : Instant) :
    Reached name { breaker := { name, limits }, now } :=
  ⟨limits, [.wait now], by simp [fresh, step]⟩

theorem now_step (t : Traffic) (e : Event) (h : ∀ d, e ≠ .wait d) :
    (t.step e).traffic.now = t.now := by
  have hstep := step_transit t e
  generalize t.step e = s at hstep ⊢
  cases hstep with
  | waited d => exact absurd rfl (h d)
  | _ => rfl

end Traffic

end Breaker

namespace Dispatcher

theorem breaker_of_get? {d : Dispatcher} {name : String} {b : Breaker}
    (h : d.registry.get? name = some b) :
    d.breaker name = b :=
  Breaker.Registry.obtain_of_get? h _

namespace Traffic

/-- Every line can come about by calls through one breaker, and a dependency without a breaker
has no calls. -/
structure Regular (t : Traffic) : Prop where
  unused : ∀ name, t.dispatcher.registry.get? name = none → t.calls name = {}
  reached : ∀ name, (t.line name).Reached name

theorem fresh_regular (settings : Settings) : (fresh settings).Regular where
  unused := fun _ _ => rfl
  reached := fun name => Breaker.Traffic.reached_new name _ 0

section File

variable {t : Traffic} {name : String}

theorem line_file {l : Breaker.Traffic} (hname : l.breaker.name = name) (hnow : l.now = t.now)
    (key : String) : (t.file name l).line key = if key = name then l else t.line key := by
  subst hname
  by_cases hkey : key = l.breaker.name
  · subst hkey
    simp [line, file, breaker, Breaker.Registry.obtain_put, ← hnow]
  · simp [line, file, breaker, hkey, Breaker.Registry.obtain_put, limitsFor]

theorem step_isolate (t : Traffic) (name : String) :
    t.step (.isolate name) = t.file name ((t.line name).step .isolate).traffic := by
  simp [step, file, line, Dispatcher.isolate, Breaker.Registry.isolateWith, Breaker.Traffic.step,
    Breaker.Traffic.moved, breaker]

theorem step_reset {b : Breaker} (h : t.dispatcher.registry.get? name = some b) :
    t.step (.reset name) = t.file name ((t.line name).step .reset).traffic := by
  simp [step, file, line, Dispatcher.reset?, Breaker.Registry.reset?, Breaker.Traffic.step,
    Breaker.Traffic.moved, h, breaker_of_get? h]

theorem step_reset_unused (h : t.dispatcher.registry.get? name = none) :
    t.step (.reset name) = t := by
  simp [step, Dispatcher.reset?, Breaker.Registry.reset?, h]

end File

theorem Regular.file {t : Traffic} (h : t.Regular) (name : String) {e : Breaker.Traffic.Event}
    (he : ∀ d, e ≠ .wait d) : (t.file name ((t.line name).step e).traffic).Regular where
  unused := by
    intro key hkey
    have hname : ((t.line name).step e).traffic.breaker.name = name :=
      ((h.reached name).run [e]).name_eq
    change (t.dispatcher.registry.put _).get? key = none at hkey
    rw [Breaker.Registry.get?_put, hname] at hkey
    split at hkey
    · cases hkey
    · next hne => exact (Function.update_of_ne hne _ _).trans (h.unused key hkey)
  reached := by
    intro key
    have hreached : (((t.line name).step e).traffic).Reached name := (h.reached name).run [e]
    rw [line_file hreached.name_eq (Breaker.Traffic.now_step _ e he)]
    split
    · next hkey => exact hkey ▸ hreached
    · exact h.reached key

theorem Regular.obtain_name {t : Traffic} (h : t.Regular) (name : String)
    (limits : Breaker.Limits) : (t.dispatcher.registry.obtain name limits).name = name := by
  cases hget : t.dispatcher.registry.get? name with
  | none => simp [Breaker.Registry.obtain, hget]
  | some b =>
      have hbreaker := (h.reached name).name_eq
      rw [line, breaker_of_get? hget] at hbreaker
      rwa [Breaker.Registry.obtain_of_get? hget]

theorem Regular.line_ensure {t : Traffic} (h : t.Regular) (name : String)
    (limits : Breaker.Limits) (key : String) :
    (t.step (.ensure name limits)).line key =
      if key = name then { t.line name with breaker := t.dispatcher.registry.obtain name limits }
      else t.line key := by
  simp only [line, step, breaker, Breaker.Registry.ensure, Breaker.Registry.obtain_put,
    h.obtain_name]
  split
  · next hkey => rw [hkey]
  · rfl

/-- The limits that a breaker is asked for with count only where there is none yet. -/
theorem Regular.ensure {t : Traffic} (h : t.Regular) (name : String) (limits : Breaker.Limits) :
    (t.step (.ensure name limits)).Regular := by
  refine ⟨fun key hkey => ?_, fun key => ?_⟩
  · change (t.dispatcher.registry.ensure name limits).get? key = none at hkey
    rw [Breaker.Registry.ensure, Breaker.Registry.get?_put] at hkey
    split at hkey
    · cases hkey
    · exact h.unused key hkey
  · rw [h.line_ensure]
    split
    · next hkey =>
      subst hkey
      cases hget : t.dispatcher.registry.get? key with
      | none =>
          -- No call of it was ever started, so its line begins with the new breaker.
          simp only [line, h.unused key hget, Breaker.Registry.obtain, hget, Option.getD_none]
          exact Breaker.Traffic.reached_new key limits t.now
      | some b =>
          have hsame := h.reached key
          rw [line, breaker_of_get? hget] at hsame
          simpa only [line, Breaker.Registry.obtain_of_get? hget] using hsame
    · exact h.reached key

theorem Regular.step {t : Traffic} (h : t.Regular) (e : Event) : (t.step e).Regular := by
  cases e with
  | ensure name limits => exact h.ensure name limits
  | start name cancelled => exact h.file name nofun
  | finish name ticket verdict => exact h.file name nofun
  | drop name ticket => exact h.file name nofun
  | isolate name =>
      rw [step_isolate]
      exact h.file name nofun
  | reset name =>
      cases hget : t.dispatcher.registry.get? name with
      | none => rwa [step_reset_unused hget]
      | some b =>
          rw [step_reset hget]
          exact h.file name nofun
  | wait d => exact ⟨h.unused, fun name => (h.reached name).run [.wait d]⟩

theorem run_regular (settings : Settings) (events : List Event) :
    ((fresh settings).run events).Regular :=
  List.foldlRecOn events step (fresh_regular settings) fun _ h e _ => h.step e

theorem step_settings (t : Traffic) (e : Event) :
    (t.step e).dispatcher.settings = t.dispatcher.settings := by
  cases e with
  | reset name =>
      cases hget : t.dispatcher.registry.get? name with
      | none => rw [step_reset_unused hget]
      | some b => rw [step_reset hget, file]
  | _ => rfl

theorem run_settings (settings : Settings) (events : List Event) :
    ((fresh settings).run events).dispatcher.settings = settings :=
  List.foldlRecOn (motive := fun t => t.dispatcher.settings = settings) events step rfl
    fun _ h e _ => (step_settings _ e).trans h

end Traffic

end Dispatcher

end ResilientChat
