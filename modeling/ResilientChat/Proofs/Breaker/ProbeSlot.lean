import ResilientChat.Proofs.Breaker.Sound
import Mathlib.Data.List.Induction

/-!
The probe's place of a half-open circuit. Probes of earlier half-open periods
may still be under way and end at any later time; they carry lower generations
than the present one. The place is therefore taken exactly when one call under
way carries the present generation, and whenever no such call is left a
successful call closes the circuit.
-/

namespace ResilientChat

namespace Breaker

/-- The calls among these that were let through as probes of that generation. -/
def probesOf (generation : UInt64) (calls : List (Nat × Admission)) : List (Nat × Admission) :=
  calls.filter fun call => call.2 = .probe generation

/-- The circuit and the calls under way after `n` changes of phase. -/
structure Slot (c : Circuit) (calls : List (Nat × Admission)) (n : Nat) : Prop where
  generation : c.generation.toNat = n
  old : ∀ call ∈ calls, ∀ g, call.2 = .probe g → g.toNat ≤ n
  halfOpen : c.probing = true → c.phase = .halfOpen
  count : (probesOf c.generation calls).length = c.probing.toNat

namespace Slot

variable {c c' : Circuit} {calls rest : List (Nat × Admission)} {n : Nat}

theorem generation_succ (h : Slot c calls n) (hn : n + 1 < UInt64.size) :
    (c.generation + 1).toNat = n + 1 := by
  have hone : (1 : UInt64).toNat = 1 := rfl
  rw [UInt64.toNat_add, h.generation, hone]
  exact Nat.mod_eq_of_lt hn

/-- No call carries a generation that the circuit has yet to reach. -/
theorem probesOf_succ (h : Slot c calls n) (hn : n + 1 < UInt64.size) :
    probesOf (c.generation + 1) calls = [] := by
  refine List.filter_eq_nil_iff.mpr fun call hmem => ?_
  simp only [decide_eq_true_eq]
  intro hprobe
  have hle := h.old call hmem _ hprobe
  rw [h.generation_succ hn] at hle
  omega

/-- A call that carries the present generation holds the probe's place. -/
theorem holds_of_mem (h : Slot c calls n) {ticket : Nat}
    (hmem : (ticket, .probe c.generation) ∈ calls) :
    c.probing = true ∧ c.Holds (.probe c.generation) := by
  have hprobing : c.probing = true := by
    have hcount := h.count
    have hin : (ticket, Admission.probe c.generation) ∈ probesOf c.generation calls := by
      simp [probesOf, hmem]
    have hpos := List.length_pos_of_mem hin
    cases hp : c.probing with
    | true => rfl
    | false => simp [hcount, hp] at hpos
  exact ⟨hprobing, h.halfOpen hprobing, rfl⟩

/-- A change of phase leaves every call that is under way behind. -/
theorem bump (h : Slot c calls n) (hn : n + 1 < UInt64.size) (hsub : rest ⊆ calls)
    (hgeneration : c'.generation = c.generation + 1) (hprobing : c'.probing = false) :
    Slot c' rest (n + 1) where
  generation := by rw [hgeneration, h.generation_succ hn]
  old := fun call hmem g hg => Nat.le_succ_of_le (h.old call (hsub hmem) g hg)
  halfOpen := by simp [hprobing]
  count := by
    have hnone := List.filter_eq_nil_iff.mp (h.probesOf_succ hn)
    rw [hgeneration, hprobing]
    exact congrArg List.length
      (List.filter_eq_nil_iff.mpr fun call hmem => hnone call (hsub hmem))

/-- The counter and the instant of opening do not matter. -/
theorem congr (h : Slot c calls n) (hphase : c'.phase = c.phase)
    (hprobing : c'.probing = c.probing) (hgeneration : c'.generation = c.generation) :
    Slot c' calls n where
  generation := hgeneration ▸ h.generation
  old := h.old
  halfOpen := by rw [hphase, hprobing]; exact h.halfOpen
  count := by rw [hgeneration, hprobing]; exact h.count

/-- The end of a call that does not hold the probe's place. -/
theorem leave (h : Slot c calls n) {ticket : Nat} {a : Admission}
    (hperm : calls.Perm ((ticket, a) :: rest)) (hprobe : ¬c.Holds a) : Slot c rest n where
  generation := h.generation
  old := fun call hmem => h.old call (hperm.mem_iff.mpr (List.mem_cons_of_mem _ hmem))
  halfOpen := h.halfOpen
  count := by
    have hother : a ≠ .probe c.generation := by
      rintro rfl
      exact hprobe (h.holds_of_mem (hperm.mem_iff.mpr (List.mem_cons_self ..))).2
    rw [← h.count, probesOf, probesOf, ← List.countP_eq_length_filter,
      ← List.countP_eq_length_filter, hperm.countP_eq, List.countP_cons]
    simp [hother]

/-- The end of the call that holds the probe's place frees it. -/
theorem free (h : Slot c calls n) {ticket : Nat} {a : Admission}
    (hperm : calls.Perm ((ticket, a) :: rest)) (hprobe : c.Holds a) :
    Slot { c with probing := false } rest n where
  generation := h.generation
  old := fun call hmem => h.old call (hperm.mem_iff.mpr (List.mem_cons_of_mem _ hmem))
  halfOpen := by simp
  count := by
    obtain ⟨hphase, rfl⟩ := hprobe
    have hheld := (h.holds_of_mem (hperm.mem_iff.mpr (List.mem_cons_self ..))).1
    have hcount := h.count
    rw [probesOf, ← List.countP_eq_length_filter, hperm.countP_eq, List.countP_cons,
      hheld] at hcount
    rw [probesOf, ← List.countP_eq_length_filter]
    simpa using hcount

variable {l : Limits} {a : Admission} {v : Verdict} {now : Instant} {change : Option Change}

/-- A call that takes the probe's place is the only one that carries its generation. -/
theorem take (h : Slot c calls n) (hphase : c.phase = .halfOpen) (hfree : c.probing = false)
    (ticket : Nat) :
    Slot { c with probing := true } (calls ++ [(ticket, .probe c.generation)]) n where
  generation := h.generation
  old := by
    intro call hmem g hg
    rcases List.mem_append.mp hmem with hmem | hmem
    · exact h.old call hmem g hg
    · rw [List.mem_singleton.mp hmem] at hg
      cases hg
      exact Nat.le_of_eq h.generation
  halfOpen := fun _ => hphase
  count := by
    have hnone := h.count
    simp only [hfree, Bool.toNat_false, probesOf, List.length_eq_zero_iff] at hnone
    simp [probesOf, hnone]

theorem pass (h : Slot c calls n) (ticket : Nat) (ha : a = .bypass ∨ a = .normal) :
    Slot c (calls ++ [(ticket, a)]) n where
  generation := h.generation
  old := by
    intro call hmem g hg
    rcases List.mem_append.mp hmem with hmem | hmem
    · exact h.old call hmem g hg
    · rw [List.mem_singleton.mp hmem] at hg
      rcases ha with rfl | rfl <;> cases hg
  halfOpen := h.halfOpen
  count := by
    rw [← h.count, probesOf, List.filter_append]
    rcases ha with rfl | rfl <;> simp [probesOf]

theorem entry (h : Slot c calls n) (hentry : Entry l c now a c' change) (ticket : Nat)
    (hn : n + change.toList.length < UInt64.size) :
    Slot c' (calls ++ [(ticket, a)]) (n + change.toList.length) := by
  cases hentry with
  | bypass => exact h.pass ticket (.inl rfl)
  | normal => exact h.pass ticket (.inr rfl)
  | probe henabled hphase hfree => exact h.take hphase hfree ticket
  | halfOpen =>
      -- First the phase changes, which leaves older probes behind, then the place is taken.
      have hbumped : Slot
          { c with phase := .halfOpen, probing := false, generation := c.generation + 1 }
          calls (n + 1) :=
        h.bump hn (List.Subset.refl calls) rfl rfl
      exact hbumped.take rfl rfl ticket

theorem ending (h : Slot c calls n) {ticket : Nat} (hperm : calls.Perm ((ticket, a) :: rest))
    (hending : Ending l c a v now c' change) (hn : n + change.toList.length < UInt64.size) :
    Slot c' rest (n + change.toList.length) := by
  have hsub : rest ⊆ calls :=
    fun call hmem => hperm.mem_iff.mpr (List.mem_cons_of_mem _ hmem)
  -- A closed circuit has no probe, neither the ending call nor one in the place.
  have hclosed (hphase : c.phase = .closed) : ¬c.Holds a ∧ c.probing = false := by
    refine ⟨fun hprobe => by simp [hprobe.1] at hphase, ?_⟩
    exact Bool.eq_false_iff.mpr fun hprobing => by simp [h.halfOpen hprobing] at hphase
  cases hending with
  | ignored hprobe => exact h.leave hperm hprobe
  | freed hprobe => exact h.free hperm hprobe
  | cleared _ hphase => exact (h.leave hperm (hclosed hphase).1).congr rfl rfl rfl
  | counted _ hphase => exact (h.leave hperm (hclosed hphase).1).congr rfl rfl rfl
  | tripped _ hphase => exact h.bump hn hsub rfl (hclosed hphase).2
  | recovered => exact h.bump hn hsub rfl rfl
  | reopened => exact h.bump hn hsub rfl rfl

end Slot

namespace Traffic

theorem slot_step {t : Traffic} {e : Event} {s : Step} {n : Nat} (ht : t.Ticketed)
    (h : Slot t.breaker.circuit t.inFlight n) (hstep : Transit t e s)
    (hn : n + s.change.toList.length < UInt64.size) :
    Slot s.traffic.breaker.circuit s.traffic.inFlight (n + s.change.toList.length) := by
  have hidle (hphase : t.breaker.phase ≠ .halfOpen) : t.breaker.circuit.probing = false :=
    Bool.eq_false_iff.mpr fun hprobing => hphase (h.halfOpen hprobing)
  cases hstep with
  | givenUp | refused | unknownFinished | unknownDropped | waited => exact h
  | admitted hentry => exact h.entry hentry _ hn
  | finished hflight hending => exact h.ending (ht.perm_release hflight) hending hn
  | droppedProbe hflight hprobe => exact h.free (ht.perm_release hflight) hprobe
  | dropped hflight hprobe => exact h.leave (ht.perm_release hflight) hprobe
  | isolated => exact h.bump hn (List.Subset.refl _) rfl rfl
  | isolatedAgain hphase => exact h.congr rfl (hidle (by simp [hphase])).symm rfl
  | closed => exact h.bump hn (List.Subset.refl _) rfl rfl
  | closedAgain hphase => exact h.congr hphase.symm (hidle (by simp [hphase])).symm rfl

/-- The place and its holder agree after every run with fewer than 2^64 changes of phase. -/
theorem run_slot (name : String) (limits : Limits) (events : List Event)
    (hn : ((fresh name limits).changes events).length < UInt64.size) :
    Slot ((fresh name limits).run events).breaker.circuit
      ((fresh name limits).run events).inFlight
      ((fresh name limits).changes events).length := by
  induction events using List.reverseRecOn with
  | nil => exact ⟨rfl, by simp [fresh], by simp [fresh], rfl⟩
  | append_singleton events e ih =>
      rw [changes_concat, List.length_append] at hn ⊢
      rw [run_concat]
      have hbefore := ih (by omega)
      exact slot_step (run_ticketed name limits events) hbefore (step_transit _ e) hn

/-- The probe's place is taken only in a half-open circuit, by a call under way. Unlike `Slot`
this holds however often the phase has changed. -/
def Held (t : Traffic) : Prop :=
  t.breaker.probing = true →
    t.breaker.phase = .halfOpen ∧ ∃ call ∈ t.inFlight, call.2 = .probe t.breaker.generation

/-- A call that does not hold the place leaves it to its holder. -/
theorem Held.leave {t : Traffic} (h : t.Held) (ht : t.Ticketed) {ticket : Nat} {a : Admission}
    (hflight : t.admission? ticket = some a) (hprobe : ¬t.breaker.circuit.Holds a) :
    (t.release ticket).Held := by
  intro hprobing
  obtain ⟨hphase, call, hmem, hcall⟩ := h hprobing
  refine ⟨hphase, call, ?_, hcall⟩
  rcases List.mem_cons.mp ((ht.perm_release hflight).mem_iff.mp hmem) with rfl | hrest
  · exact absurd ⟨hphase, hcall⟩ hprobe
  · exact hrest

theorem Held.step {t : Traffic} {e : Event} {s : Step} (h : t.Held) (ht : t.Ticketed)
    (hstep : Transit t e s) : s.traffic.Held := by
  -- A circuit that is not half-open has nobody in the place.
  have hidle {p : Prop} (hphase : t.breaker.phase ≠ .halfOpen)
      (hprobing : t.breaker.probing = true) : p := absurd (h hprobing).1 hphase
  cases hstep with
  | givenUp | refused | unknownFinished | unknownDropped | waited => exact h
  | admitted hentry =>
      cases hentry with
      | bypass | normal =>
          intro hprobing
          obtain ⟨hphase, call, hmem, hcall⟩ := h hprobing
          exact ⟨hphase, call, List.mem_append_left _ hmem, hcall⟩
      | probe _ hphase =>
          exact fun _ => ⟨hphase, _, List.mem_append_right _ (List.mem_singleton_self _), rfl⟩
      | halfOpen =>
          exact fun _ => ⟨rfl, _, List.mem_append_right _ (List.mem_singleton_self _), rfl⟩
  | finished hflight hending =>
      cases hending with
      | ignored hprobe => exact h.leave ht hflight hprobe
      | freed | recovered | reopened => exact nofun
      | cleared _ hphase | counted _ hphase | tripped _ hphase =>
          exact hidle (by simp [← circuit_phase, hphase])
  | droppedProbe => exact nofun
  | dropped hflight hprobe => exact h.leave ht hflight hprobe
  | isolated | isolatedAgain | closed | closedAgain => exact nofun

theorem run_held (name : String) (limits : Limits) (events : List Event) :
    ((fresh name limits).run events).Held :=
  (run_induction (motive := fun t => t.Ticketed ∧ t.Held)
    (fun _ _ _ _ hstep h => ⟨h.1.step hstep, h.2.step h.1 hstep⟩)
    ⟨fresh_ticketed name limits, nofun⟩).2

def currentProbes (t : Traffic) : List (Nat × Admission) :=
  probesOf t.breaker.generation t.inFlight

/-- A call that is let through and succeeds leaves the circuit closed, without failures. -/
theorem closed_of_success {t : Traffic} {c c' : Circuit} {a : Admission} {now later : Instant}
    {change change' : Option Change} (ht : t.Sound)
    (hentry : Entry t.breaker.limits t.breaker.circuit now a c change)
    (hending : Ending t.breaker.limits c a .success later c' change') :
    c'.phase = .closed ∧ c'.failures = 0 := by
  rcases hending.of_success with hdone | ⟨rfl, hprobe, hcounts⟩
  · exact hdone
  cases hentry with
  | bypass hdisabled hphase =>
      obtain ⟨hclosed | hisolated, hfailures⟩ := ht.circuit.disabled hdisabled
      · exact ⟨hclosed, hfailures⟩
      · exact absurd hisolated hphase
  | normal _ hphase =>
      rcases hcounts with h | h
      · cases h
      · exact absurd hphase h
  | probe _ hphase => exact absurd ⟨hphase, rfl⟩ hprobe
  | halfOpen => exact absurd ⟨rfl, rfl⟩ hprobe

/-- With its place free and its break over, a circuit lets a call through, and the success of
that call closes it. -/
theorem success_closes {t : Traffic} (ht : t.Ticketed) (hsound : t.Sound)
    (hisolated : t.breaker.phase ≠ .isolated) (hfree : t.breaker.probing = false)
    (pause service : Duration)
    (hcooled : t.breaker.phase = .opened →
      t.breaker.circuit.Cooled t.breaker.limits (t.now + pause)) :
    (∃ a, (t.step (.wait pause)).traffic.Admits a) ∧
      let done := t.run [.wait pause, .start false, .wait service, .finish t.started .success]
      done.breaker.phase = .closed ∧ done.breaker.failures = 0 := by
  let ready := (t.step (.wait pause)).traffic
  have hrefuses : ¬ready.breaker.circuit.Refuses ready.breaker.limits ready.now := by
    rintro (h | ⟨_, ⟨_, h⟩ | ⟨hphase, h⟩⟩)
    · exact hisolated h
    · exact absurd (hfree.symm.trans h) Bool.false_ne_true
    · exact h (hcooled hphase)
  obtain ⟨a, hadmits, hentry⟩ := start_entry hrefuses
  refine ⟨⟨a, hadmits⟩, ?_⟩
  have hticketed : ready.Ticketed := ht.step (step_transit t (.wait pause))
  let begun := (ready.step (.start false)).traffic
  let busy := (begun.step (.wait service)).traffic
  have hlimits : busy.breaker.limits = t.breaker.limits :=
    (step_transit ready (.start false)).limits_eq
  have hflight : busy.admission? t.started = some a := hticketed.admission?_of_admits hadmits
  have hending := finish_ending hflight .success
  rw [hlimits] at hending
  exact closed_of_success hsound hentry hending

/-- The probe's place of a half-open circuit is neither doubled nor lost. Over every run it is
taken exactly when one call under way is a probe of the present half-open period, and there are
never two such calls. From every state that the run can reach, unless the circuit is isolated or
such a probe is under way, a call that starts once the break is over is let through, and its
success closes the circuit. -/
theorem probing_iff_one_current_probe (name : String) (limits : Limits) (events : List Event)
    (hchanges : ((fresh name limits).changes events).length < UInt64.size) :
    let t := (fresh name limits).run events
    (t.breaker.probing = true ↔ t.breaker.phase = .halfOpen ∧ t.currentProbes.length = 1) ∧
      t.currentProbes.length ≤ 1 ∧
      (∀ opened, t.breaker.openedAt = some opened → opened ≤ t.now) ∧
      (t.breaker.phase ≠ .isolated → t.currentProbes = [] → ∀ pause service : Duration,
        (t.breaker.phase = .opened → ∀ opened, t.breaker.openedAt = some opened →
          opened + limits.cooldown ≤ t.now + pause) →
        (∃ a, (t.step (.wait pause)).traffic.Admits a) ∧
          let done :=
            t.run [.wait pause, .start false, .wait service, .finish t.started .success]
          done.breaker.phase = .closed ∧ done.breaker.failures = 0) := by
  intro t
  have hslot : Slot t.breaker.circuit t.inFlight _ := run_slot name limits events hchanges
  have hsound : t.Sound := run_sound name limits events
  have hcount : t.currentProbes.length = t.breaker.probing.toNat := hslot.count
  refine ⟨⟨fun hprobing => ?_, fun ⟨_, hone⟩ => ?_⟩, ?_, hsound.opened, ?_⟩
  · exact ⟨hslot.halfOpen hprobing, by rw [hcount, hprobing]; rfl⟩
  · rw [hcount] at hone
    exact Bool.toNat_eq_one.mp hone
  · rw [hcount]
    exact Bool.toNat_le t.breaker.probing
  · intro hisolated hnone pause service hbreak
    have hfree : t.breaker.probing = false := by
      rw [hnone] at hcount
      exact Bool.toNat_eq_zero.mp hcount.symm
    have hlimits : t.breaker.limits = limits := run_limits (fresh name limits) events
    refine success_closes (run_ticketed name limits events) hsound hisolated hfree pause service ?_
    intro hphase opened hopened
    rw [hlimits]
    exact Nat.le_sub_of_add_le' (hbreak hphase opened hopened)

/-- Two half-open periods. A call of the first closed period and the probe of the first
half-open one stay under way, and the probe of the second is dropped. -/
def twoPeriods : List Event :=
  [.start false, .start false, .finish 0 .failure, .wait 30, .start false, .isolate, .reset,
    .start false, .finish 3 .failure, .wait 30, .start false, .drop 4]

def afterTwoPeriods : Traffic :=
  (fresh "llm" { threshold := 1, cooldown := 30 }).run twoPeriods

theorem dropped_probe_leaves_place :
    ((fresh "llm" { threshold := 1, cooldown := 30 }).changes twoPeriods).length < UInt64.size ∧
      afterTwoPeriods.inFlight = [(1, .normal), (2, .probe 2)] ∧
      afterTwoPeriods.breaker.phase = .halfOpen ∧ afterTwoPeriods.breaker.probing = false ∧
      (afterTwoPeriods.run [.wait 0, .start false, .wait 7,
        .finish afterTwoPeriods.started .success]).breaker.phase = .closed := by
  have hchanges :
      ((fresh "llm" { threshold := 1, cooldown := 30 }).changes twoPeriods).length <
        UInt64.size := by decide
  have hplace := (probing_iff_one_current_probe "llm" _ twoPeriods hchanges).2.2.2
  have hcloses := hplace (by decide) (by decide) 0 7 (by decide)
  exact ⟨hchanges, by decide, by decide, by decide, hcloses.2.1⟩

end Traffic

end Breaker

end ResilientChat
