import ResilientChat.Proofs.Breaker.Changes
import ResilientChat.Proofs.Dispatcher.Apart

/-!
The circuits of a dispatcher over time. A circuit is there once its name was used, and stays. Every
breaker is kept under its own name and has published its phase, and one that is isolated is left
only by a reset of its name. All of this is said of one change of a dispatcher and follows for any
number of them, since what two changes do in a row is a change of the same kind.
-/

namespace ResilientChat

namespace Breaker

section Passage

variable {α : Type} {b : Breaker} {action : Instant → Cancellation → Option (Call α)}
  {now : Instant} {caller : Cancellation} {g : Guarded α}

theorem Passage.published (h : b.Passage action now caller g) (hpublished : b.Published) :
    g.breaker.Published := by
  cases h with
  | givenUp | refused => exact hpublished
  | @passed a c c' opening closing call hlive hentry henter hcall hending =>
      by_cases ha : a = .bypass
      · subst ha
        cases hentry
        rw [hending.eq_of_bypass]
        exact hpublished
      · exact if_neg ha

theorem Passage.of_isolated (h : b.Passage action now caller g) (hphase : b.phase = .isolated) :
    g.breaker.phase = .isolated ∧ g.call.calls = 0 ∧ g.call.result =
      .error (if caller.isDue now = true then .cancelled else .refused b.name .isolated) := by
  cases h with
  | givenUp hdue => exact ⟨hphase, rfl, by rw [if_pos hdue, Call.given]⟩
  | refused hlive =>
      have hwanted : ¬caller.isDue now = true := Bool.not_eq_true _ ▸ hlive
      exact ⟨hphase, rfl, by rw [if_neg hwanted, Call.given, hphase]⟩
  | passed _ hentry => exact absurd (.inl hphase) hentry.not_refuses

end Passage

@[simp] theorem goTo_phase (b : Breaker) (phase : Phase) (now : Instant) :
    (b.goTo phase now).breaker.phase = phase := by
  rw [goTo]
  split
  · next h => exact h
  · rfl

theorem isolate_phase (b : Breaker) (now : Instant) : (b.isolate now).breaker.phase = .isolated :=
  goTo_phase _ _ _

namespace Registry

/-- Every breaker is kept under its own name and has published its phase. -/
structure Tidy (r : Registry) : Prop where
  named : r.Named
  published : ∀ name b, r.get? name = some b → b.Published

variable {r : Registry}

theorem Tidy.put (h : r.Tidy) {b : Breaker} (hb : b.Published) : (r.put b).Tidy where
  named := h.named.put b
  published := by
    intro name b' hget
    rw [get?_put] at hget
    split at hget
    · cases hget
      exact hb
    · exact h.published name b' hget

theorem Tidy.obtain_published (h : r.Tidy) (name : String) (limits : Limits) :
    (r.obtain name limits).Published := by
  rw [obtain]
  cases hget : r.get? name with
  | none => rfl
  | some b => exact h.published name b hget

end Registry

end Breaker

namespace Dispatcher

def Lists (d : Dispatcher) (name : String) : Prop := (d.registry.get? name).isSome = true

def Isolates (d : Dispatcher) (name : String) : Prop :=
  ∃ b, d.registry.get? name = some b ∧ b.phase = .isolated

/-- A change of a dispatcher that uses some names and resets some. -/
structure Evolves (d : Dispatcher) (used reset : String → Prop) (d' : Dispatcher) : Prop where
  tidy : d'.registry.Tidy
  lists : ∀ name, d'.Lists name ↔ d.Lists name ∨ used name
  isolates : ∀ name, ¬reset name → d.Isolates name → d'.Isolates name

section Evolves

variable {d d' d'' : Dispatcher} {used used' reset reset' : String → Prop} {name : String}

theorem evolves_self (h : d.registry.Tidy) : d.Evolves (fun _ => False) (fun _ => False) d :=
  ⟨h, fun _ => (or_iff_left id).symm, fun _ _ => id⟩

theorem Evolves.trans (h : d.Evolves used reset d') (h' : d'.Evolves used' reset' d'') :
    d.Evolves (fun name => used name ∨ used' name) (fun name => reset name ∨ reset' name) d'' where
  tidy := h'.tidy
  lists := fun name => by rw [h'.lists, h.lists, or_assoc]
  isolates := fun name hreset hisolated =>
    h'.isolates name (hreset ∘ .inr) (h.isolates name (hreset ∘ .inl) hisolated)

theorem Evolves.congr (h : d.Evolves used reset d') (hused : ∀ name, used name ↔ used' name)
    (hreset : ∀ name, reset name → reset' name) : d.Evolves used' reset' d' where
  tidy := h.tidy
  lists := fun name => by rw [h.lists, hused]
  isolates := fun name hfree => h.isolates name (hfree ∘ hreset name)

theorem lists_put_iff {b : Breaker} {backoffs : Backoffs d.settings} :
    Lists ⟨d.settings, d.registry.put b, backoffs⟩ name ↔ d.Lists name ∨ name = b.name := by
  simp only [Lists, Breaker.Registry.get?_put]
  split
  · next hname => simp [hname]
  · next hname => simp [hname]

/-- Another breaker of a name that is used; only a reset takes it out of isolation. -/
theorem evolves_put (h : d.registry.Tidy) {b : Breaker} {backoffs : Backoffs d.settings}
    (hname : b.name = name)
    (hpublished : b.Published) (hisolated : d.Isolates name → reset name ∨ b.phase = .isolated) :
    d.Evolves (· = name) reset ⟨d.settings, d.registry.put b, backoffs⟩ where
  tidy := h.put hpublished
  lists := fun key => hname ▸ lists_put_iff
  isolates := by
    rintro key hreset ⟨b', hget, hphase⟩
    simp only [Isolates, Breaker.Registry.get?_put, hname]
    split
    · next hkey =>
      subst hkey
      exact ⟨b, rfl, (hisolated ⟨b', hget, hphase⟩).resolve_left hreset⟩
    · exact ⟨b', hget, hphase⟩

theorem breaker_of_isolates (h : d.Isolates name) : (d.breaker name).phase = .isolated := by
  obtain ⟨b, hget, hphase⟩ := h
  rwa [breaker_of_get? hget]

section Run

variable {α : Type} {draws : Nat → Nat} {script : Script α} {now : Instant}
  {caller : Cancellation} {done : Dispatched α}

theorem evolves_run (h : d.registry.Tidy)
    (hrun : d.run name draws script now caller = some done) :
    d.Evolves (· = name) (fun _ => False) done.dispatcher := by
  obtain ⟨g, hpassage, rfl⟩ := passage_of_run hrun
  exact evolves_put h (hpassage.name_eq.trans (h.named.obtain_name name _))
    (hpassage.published (h.obtain_published name _))
    fun hisolated => .inr (hpassage.of_isolated (breaker_of_isolates hisolated)).1

/-- A call of an isolated dependency is refused without calling it, unless it was given up. -/
theorem run_of_isolates (h : d.registry.Tidy) (hisolated : d.Isolates name) (draws : Nat → Nat)
    (script : Script α) (now : Instant) (caller : Cancellation) :
    ∃ done, d.run name draws script now caller = some done ∧ done.calls = 0 ∧ done.result =
      .error (if caller.isDue now = true then .cancelled else .refused name .isolated) := by
  have hphase := breaker_of_isolates hisolated
  have henter : (d.breaker name).enter now = (d.breaker name).refuse := if_pos hphase
  obtain ⟨g, hg⟩ : ∃ g,
      (d.breaker name).callRepeated (d.backoffFor name) draws script now caller = some g := by
    cases hdue : caller.isDue now <;>
      simp [Breaker.callRepeated, Breaker.guard, Breaker.start, hdue, henter, Breaker.refuse]
  have hname : (d.breaker name).name = name := h.named.obtain_name name _
  obtain ⟨-, hcalls, hresult⟩ := (Breaker.guard_passage hg).of_isolated hphase
  rw [hname] at hresult
  refine ⟨d.dispatched name now g, ?_, hcalls, hresult⟩
  rw [run_eq, hg, Option.map_some]

end Run

theorem evolves_isolate (h : d.registry.Tidy) (name : String) (now : Instant) :
    d.Evolves (· = name) (fun _ => False) (d.isolate name now).1 := by
  have hname : ((d.breaker name).isolate now).breaker.name = name := by
    rw [Breaker.isolate_name]
    exact h.named.obtain_name name _
  exact evolves_put h hname rfl fun _ => .inr (Breaker.isolate_phase _ _)

/-- A reset makes no circuit. -/
theorem evolves_reset (h : d.registry.Tidy) {now : Instant} {events : List Event}
    (hreset : d.reset? name now = some (d', events)) :
    d.Evolves (fun _ => False) (· = name) d' := by
  obtain ⟨⟨registry, moved⟩, hmoved, hd⟩ := Option.map_eq_some_iff.mp hreset
  obtain ⟨b, hget, hb⟩ := Option.map_eq_some_iff.mp hmoved
  cases hb
  cases hd
  have hname : (b.reset now).breaker.name = name := by
    rw [Breaker.reset_name]
    exact h.named name b hget
  have hput : d.Evolves (· = name) (· = name)
      { d with registry := d.registry.put (b.reset now).breaker } :=
    evolves_put h hname rfl fun _ => .inl rfl
  -- The name that is reset was there before, so putting its breaker back adds none.
  refine ⟨hput.tidy, fun key => ?_, hput.isolates⟩
  rw [hput.lists, or_false, or_iff_left_iff_imp]
  rintro rfl
  rw [Lists, hget]
  rfl

end Evolves

theorem get?_ofSettings (settings : Settings) (name : String) :
    (ofSettings settings).registry.get? name = none := rfl

theorem tidy_ofSettings (settings : Settings) : (ofSettings settings).registry.Tidy where
  named := fun name b hget => by cases (get?_ofSettings settings name).symm.trans hget
  published := fun name b hget => by cases (get?_ofSettings settings name).symm.trans hget

end Dispatcher

end ResilientChat
