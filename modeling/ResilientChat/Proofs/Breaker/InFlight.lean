import ResilientChat.Proofs.Breaker.Run
import Mathlib.Data.List.Nodup

/-!
The calls under way. Their tickets are distinct and below the next one, so a
ticket names one call from its start to its end, and the end of a call takes
exactly that call out.
-/

namespace ResilientChat

namespace Breaker

namespace Traffic

structure Ticketed (t : Traffic) : Prop where
  nodup : (t.inFlight.map Prod.fst).Nodup
  lt : ∀ call ∈ t.inFlight, call.1 < t.started

theorem mem_of_admission? {t : Traffic} {ticket : Nat} {a : Admission}
    (h : t.admission? ticket = some a) : (ticket, a) ∈ t.inFlight := by
  obtain ⟨before, after, hcalls, _⟩ := List.lookup_eq_some_iff.mp h
  simp [hcalls]

@[simp] theorem release_breaker (t : Traffic) (ticket : Nat) :
    (t.release ticket).breaker = t.breaker := rfl

@[simp] theorem release_started (t : Traffic) (ticket : Nat) :
    (t.release ticket).started = t.started := rfl

@[simp] theorem mem_release {t : Traffic} {ticket : Nat} {call : Nat × Admission} :
    call ∈ (t.release ticket).inFlight ↔ call ∈ t.inFlight ∧ call.1 ≠ ticket := by
  simp [release]

/-- The end of a call takes that call out and no other. -/
theorem Ticketed.perm_release {t : Traffic} {ticket : Nat} {a : Admission}
    (ht : t.Ticketed) (h : t.admission? ticket = some a) :
    t.inFlight.Perm ((ticket, a) :: (t.release ticket).inFlight) := by
  obtain ⟨before, after, hcalls, _⟩ := List.lookup_eq_some_iff.mp h
  have hnodup := ht.nodup
  rw [hcalls, List.map_append, List.map_cons, List.nodup_middle, List.nodup_cons] at hnodup
  have hothers : ∀ call ∈ before ++ after, call.1 ≠ ticket := by
    intro call hmem heq
    have hkey : call.1 ∈ (before ++ after).map Prod.fst := List.mem_map_of_mem hmem
    rw [heq, List.map_append] at hkey
    exact hnodup.1 hkey
  have hrelease : (t.release ticket).inFlight = before ++ after := by
    have hkeep : (before ++ after).filter (·.1 ≠ ticket) = before ++ after :=
      List.filter_eq_self.mpr (by simpa using hothers)
    rw [List.filter_append] at hkeep
    simp only [release, hcalls, List.filter_append, List.filter_cons]
    simpa using hkeep
  rw [hrelease, hcalls]
  exact List.perm_middle

theorem fresh_ticketed (name : String) (limits : Limits) : (fresh name limits).Ticketed where
  nodup := List.nodup_nil
  lt := by simp [fresh]

theorem Ticketed.admit {t : Traffic} (ht : t.Ticketed) (a : Admission) (b : Breaker) :
    Ticketed
      { t with
        breaker := b, started := t.started + 1, inFlight := t.inFlight ++ [(t.started, a)] } where
  nodup := by
    have hnew : t.started ∉ t.inFlight.map Prod.fst := by
      intro hmem
      obtain ⟨call, hcall, heq⟩ := List.mem_map.mp hmem
      exact absurd (ht.lt call hcall) (by omega)
    rw [List.map_append, List.map_singleton, ← List.concat_eq_append]
    exact ht.nodup.concat hnew
  lt := by
    intro call hmem
    rcases List.mem_append.mp hmem with hmem | hmem
    · exact Nat.lt_succ_of_lt (ht.lt call hmem)
    · rw [List.mem_singleton.mp hmem]
      exact Nat.lt_succ_self t.started

theorem Ticketed.release {t : Traffic} (ht : t.Ticketed) (ticket : Nat) (b : Breaker) :
    Ticketed { t with breaker := b, inFlight := (t.release ticket).inFlight } where
  nodup := ht.nodup.sublist (List.filter_sublist.map Prod.fst)
  lt := fun call hmem => ht.lt call (mem_release.mp hmem).1

theorem Ticketed.step {t : Traffic} {e : Event} {s : Step} (ht : t.Ticketed)
    (h : Transit t e s) : s.traffic.Ticketed := by
  cases h with
  | admitted hentry => exact ht.admit _ _
  | finished | droppedProbe | dropped => exact ht.release _ _
  | givenUp | refused => exact ⟨ht.nodup, fun call hmem => Nat.lt_succ_of_lt (ht.lt call hmem)⟩
  | _ => exact ⟨ht.nodup, ht.lt⟩

/-- The next ticket names no call under way. -/
theorem Ticketed.admission?_started {t : Traffic} (ht : t.Ticketed) :
    t.admission? t.started = none := by
  refine List.lookup_eq_none_iff.mpr fun call hmem => ?_
  have hlt := ht.lt call hmem
  simp only [bne_iff_ne]
  omega

/-- A call that was let through is found under its ticket. -/
theorem Ticketed.admission?_of_admits {t : Traffic} {a : Admission} (ht : t.Ticketed)
    (h : t.Admits a) : (t.step (.start false)).traffic.admission? t.started = some a := by
  have hnew : t.inFlight.lookup t.started = none := ht.admission?_started
  rw [admission?, h.2, List.lookup_append, hnew]
  simp

theorem run_ticketed (name : String) (limits : Limits) (events : List Event) :
    ((fresh name limits).run events).Ticketed :=
  run_induction (fun _ _ _ _ h ht => ht.step h) (fresh_ticketed name limits)

end Traffic

end Breaker

end ResilientChat
