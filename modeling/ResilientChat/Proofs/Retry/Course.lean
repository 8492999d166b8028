import ResilientChat.Retry.Run

/-!
The course of a repeated call. The attempts go as one rule of `Course` says, with one rule for
each way in which the loop is left and one for another attempt; what holds of every repeated call
is an induction over these rules.
-/

namespace ResilientChat

namespace Backoff

namespace Plan

variable {α : Type}

/-- The attempt is made and ends as `e` says. -/
structure Made (p : Plan α) (attempt : Nat) (now : Instant) (caller : Cancellation)
    (e : Reply.End) : Prop where
  live : caller.isDue now = false
  ends : (p.script (attempt - 1)).play now caller = some e

/-- The attempt is made and fails while its caller goes on waiting. -/
structure Faulted (p : Plan α) (attempt : Nat) (now : Instant) (caller : Cancellation)
    (e : Reply.End) (fault : Fault) : Prop extends Made p attempt now caller e where
  result : (p.script (attempt - 1)).result = .error fault
  own : fault.isCancellation = false
  wanted : e.caller.isDue e.instant = false

/-- An attempt that passes the checks of the loop has failed while its caller goes on waiting. -/
theorem faulted_of {p : Plan α} {attempt : Nat} {now : Instant} {caller : Cancellation}
    {e : Reply.End} {fault : Fault} (hlive : ¬caller.isDue now = true)
    (hend : (p.script (attempt - 1)).play now caller = some e)
    (hfault : (p.script (attempt - 1)).result = .error fault)
    (hwanted : ¬(fault.isCancellation || e.caller.isDue e.instant) = true) :
    p.Faulted attempt now caller e fault := by
  rw [Bool.not_eq_true] at hlive hwanted
  obtain ⟨hown, hstays⟩ := Bool.or_eq_false_iff.mp hwanted
  exact ⟨⟨hlive, hend⟩, hfault, hown, hstays⟩

def pauseAfter (p : Plan α) (attempt : Nat) : Duration :=
  p.backoff.delay (p.draws attempt) attempt

/-- The ways in which the attempts from number `attempt` on can go, with `left` more to follow
it. -/
inductive Course (p : Plan α) :
    (left attempt : Nat) → Instant → Cancellation → Call (α × AttemptReport) → Prop
  | givenUp {left attempt : Nat} {now : Instant} {caller : Cancellation}
      (hdue : caller.isDue now = true) :
      Course p left attempt now caller (.given (.error .cancelled) now caller)
  | succeeded {left attempt : Nat} {now : Instant} {caller : Cancellation} {e : Reply.End} {v : α}
      (hmade : p.Made attempt now caller e) (hok : (p.script (attempt - 1)).result = .ok v) :
      Course p left attempt now caller
        (ended (p.report attempt e.instant none none)
          (.ok (v, p.report attempt e.instant none none)) e)
  | abandoned {left attempt : Nat} {now : Instant} {caller : Cancellation} {e : Reply.End}
      {fault : Fault} (hmade : p.Made attempt now caller e)
      (hfault : (p.script (attempt - 1)).result = .error fault)
      (hgone : fault.isCancellation = true ∨ e.caller.isDue e.instant = true) :
      Course p left attempt now caller
        { Call.given (.error .cancelled) e.instant e.caller with calls := 1 }
  | failed {left attempt : Nat} {now : Instant} {caller : Cancellation} {e : Reply.End}
      {fault : Fault} (hfault : p.Faulted attempt now caller e fault)
      (hfinal : fault.isRetryable = false) :
      Course p left attempt now caller
        (ended (p.report attempt e.instant (some fault.message) none) (.error (.fault fault)) e)
  | exhausted {attempt : Nat} {now : Instant} {caller : Cancellation} {e : Reply.End}
      {fault : Fault} (hfault : p.Faulted attempt now caller e fault)
      (hretry : fault.isRetryable = true) :
      Course p 0 attempt now caller
        (ended (p.report attempt e.instant (some fault.message) none)
          (.error (.exhausted attempt (e.instant - p.started) fault)) e)
  | interrupted {left attempt : Nat} {now : Instant} {caller : Cancellation} {e : Reply.End}
      {fault : Fault} {cancelled : Instant} (hfault : p.Faulted attempt now caller e fault)
      (hretry : fault.isRetryable = true) (hcaller : e.caller = some cancelled)
      (hpause : cancelled ≤ e.instant + p.pauseAfter attempt) :
      Course p (left + 1) attempt now caller
        (ended (p.report attempt e.instant (some fault.message) (some (p.pauseAfter attempt)))
          (.error .cancelled) ⟨cancelled, e.caller⟩)
  | repeated {left attempt : Nat} {now : Instant} {caller : Cancellation} {e : Reply.End}
      {fault : Fault} {c : Call (α × AttemptReport)}
      (hfault : p.Faulted attempt now caller e fault)
      (hretry : fault.isRetryable = true)
      (hpause : e.caller.isDue (e.instant + p.pauseAfter attempt) = false)
      (hrest : Course p left (attempt + 1) (e.instant + p.pauseAfter attempt) e.caller c) :
      Course p (left + 1) attempt now caller
        (c.after (p.report attempt e.instant (some fault.message) (some (p.pauseAfter attempt))))

/-- Attempts that end go by one of the rules. -/
theorem course_of_attemptsFrom {p : Plan α} {left attempt : Nat} {now : Instant}
    {caller : Cancellation} {c : Call (α × AttemptReport)}
    (h : p.attemptsFrom left attempt now caller = some c) :
    p.Course left attempt now caller c := by
  fun_induction attemptsFrom p left attempt now caller generalizing c with
  | case1 left attempt now caller hdue =>
      cases h
      exact .givenUp hdue
  | case2 => cases h
  | case3 left attempt now caller hlive reply e hend v hok =>
      cases h
      exact .succeeded ⟨by simpa using hlive, hend⟩ hok
  | case4 left attempt now caller hlive reply e hend fault hfault =>
      rename_i hgone
      cases h
      exact .abandoned ⟨by simpa using hlive, hend⟩ hfault (by simpa using hgone)
  | case5 left attempt now caller hlive reply e hend fault hfault hwanted =>
      rename_i hfinal
      cases h
      have hfault := faulted_of hlive hend hfault hwanted
      exact .failed hfault (by simpa using hfinal)
  | case6 attempt now caller hlive reply e hend fault hfault hwanted hretry =>
      cases h
      have hfault := faulted_of hlive hend hfault hwanted
      exact .exhausted hfault (by simpa using hretry)
  | case7 attempt now caller hlive reply e hend fault hfault hwanted hretry left pause r wake
      cancelled hcaller =>
      rename_i hpause
      cases h
      have hfault := faulted_of hlive hend hfault hwanted
      exact .interrupted hfault (by simpa using hretry) hcaller hpause
  | case8 attempt now caller hlive reply e hend fault hfault hwanted hretry left pause r wake
      cancelled hcaller hpause =>
      rename_i ih
      obtain ⟨rest, hrest, rfl⟩ := Option.map_eq_some_iff.mp h
      have hfault := faulted_of hlive hend hfault hwanted
      have hlater : e.caller.isDue (e.instant + p.pauseAfter attempt) = false := by
        rw [Cancellation.isDue, hcaller]
        exact decide_eq_false hpause
      exact .repeated hfault (by simpa using hretry) hlater (ih hrest)
  | case9 attempt now caller hlive reply e hend fault hfault hwanted hretry left pause r wake
      hcaller =>
      rename_i ih
      obtain ⟨rest, hrest, rfl⟩ := Option.map_eq_some_iff.mp h
      have hfault := faulted_of hlive hend hfault hwanted
      have hlater : e.caller.isDue (e.instant + p.pauseAfter attempt) = false := by
        simp [Cancellation.isDue, hcaller]
      refine .repeated hfault (by simpa using hretry) hlater ?_
      rw [hcaller]
      exact ih hrest

section Rules

variable {p : Plan α} {left attempt : Nat} {now : Instant} {caller : Cancellation}
  {c : Call (α × AttemptReport)}

/-- A call does not end before it starts. -/
theorem le_of_play {r : Reply α} {now : Instant} {caller : Cancellation} {e : Reply.End}
    (h : r.play now caller = some e) : now ≤ e.instant := by
  simp only [Reply.play] at h
  split at h
  · obtain ⟨cancelled, -, rfl⟩ := Option.map_eq_some_iff.mp h
    exact Nat.le_trans (Nat.le_add_right now r.takes) (Nat.le_max_left _ _)
  · cases h
    exact Nat.le_add_right now r.takes

theorem Course.le_endsAt (h : p.Course left attempt now caller c) : now ≤ c.endsAt := by
  induction h with
  | givenUp => exact Nat.le_refl _
  | succeeded hmade | abandoned hmade => exact le_of_play hmade.ends
  | failed hfault | exhausted hfault => exact le_of_play hfault.ends
  | interrupted hfault _ hcaller =>
      have hle := le_of_play hfault.ends
      have hwanted := hfault.wanted
      rw [Cancellation.isDue, hcaller, Option.any_some, decide_eq_false_iff_not] at hwanted
      exact Nat.le_trans hle (Nat.le_of_not_le hwanted)
  | repeated hfault _ _ _ ih =>
      exact Nat.le_trans (le_of_play hfault.ends) (Nat.le_trans (Nat.le_add_right _ _) ih)

/-- Attempts are never refused; that is for the circuit around them. -/
theorem Course.not_refused (h : p.Course left attempt now caller c) (circuit : String)
    (phase : Breaker.Phase) : c.result ≠ .error (.refused circuit phase) := by
  induction h with
  | repeated _ _ _ _ ih => exact ih
  | _ => exact nofun

theorem Course.calls_le (h : p.Course left attempt now caller c) : c.calls ≤ left + 1 := by
  induction h with
  | givenUp => exact Nat.zero_le _
  | repeated _ _ _ _ ih => exact Nat.succ_le_succ ih
  | _ => exact Nat.succ_le_succ (Nat.zero_le _)

/-- A call succeeds exactly when the last answer to it is a success, and with that value. -/
theorem Course.ok_iff (h : p.Course left attempt now caller c) (v : α) :
    (∃ r, c.result = .ok (v, r)) ↔
      ∃ n, c.calls = n + 1 ∧ (p.script (attempt + n - 1)).result = .ok v := by
  -- An attempt that fails is the last one only of a call that fails.
  have hlast {attempt : Nat} {fault : Fault}
      (hfault : (p.script (attempt - 1)).result = .error fault) {n : Nat} (hcalls : 1 = n + 1) :
      (p.script (attempt + n - 1)).result ≠ .ok v := by
    obtain rfl : n = 0 := by omega
    rw [Nat.add_zero, hfault]
    exact nofun
  induction h with
  | givenUp => simp [Call.given]
  | @succeeded _ attempt _ _ _ w _ hok =>
      constructor
      · rintro ⟨r, hresult⟩
        cases hresult
        exact ⟨0, rfl, hok⟩
      · rintro ⟨n, hcalls, hreply⟩
        obtain rfl : n = 0 := Nat.succ.inj hcalls.symm
        rw [Nat.add_zero, hok] at hreply
        cases hreply
        exact ⟨_, rfl⟩
  | abandoned _ hfault =>
      refine iff_of_false (by simp [Call.given]) ?_
      rintro ⟨n, hcalls, hreply⟩
      exact hlast hfault hcalls hreply
  | failed hfault | exhausted hfault | interrupted hfault =>
      refine iff_of_false (by simp [ended, Call.given, Call.after]) ?_
      rintro ⟨n, hcalls, hreply⟩
      exact hlast hfault.result hcalls hreply
  | @repeated left attempt _ _ _ _ c hfault _ _ hrest ih =>
      refine Iff.trans ih ?_
      constructor
      · rintro ⟨n, hcalls, hreply⟩
        refine ⟨n + 1, congrArg (· + 1) hcalls, ?_⟩
        rwa [Nat.add_right_comm] at hreply
      · rintro ⟨n, hcalls, hreply⟩
        cases n with
        | zero =>
            rw [Nat.add_zero, hfault.result] at hreply
            cases hreply
        | succ n =>
            refine ⟨n, Nat.succ.inj hcalls, ?_⟩
            rwa [Nat.add_right_comm]

end Rules

def map {β : Type} (f : α → β) (p : Plan α) : Plan β :=
  ⟨p.backoff, p.draws, fun n => (p.script n).map f, p.started⟩

section Map

variable {β : Type} (f : α → β) (p : Plan α)

@[simp] theorem map_backoff : (p.map f).backoff = p.backoff := rfl

@[simp] theorem map_draws : (p.map f).draws = p.draws := rfl

@[simp] theorem map_play (n : Nat) : ((p.map f).script n).play = (p.script n).play := rfl

@[simp] theorem map_result (n : Nat) :
    ((p.map f).script n).result = (p.script n).result.map f := rfl

@[simp] theorem map_report : (p.map f).report = p.report := rfl

/-- What a success carries decides nothing about the attempts. -/
theorem attemptsFrom_map (left attempt : Nat) (now : Instant) (caller : Cancellation) :
    (p.map f).attemptsFrom left attempt now caller =
      (p.attemptsFrom left attempt now caller).map (Call.map (Prod.map f id)) := by
  fun_induction attemptsFrom p left attempt now caller with
  -- Where the attempts go on after a pause, what is left is whether the caller waits so long.
  | case8 attempt now caller hlive reply e hend fault hfault hwanted hretry left pause r wake
      cancelled hcaller hpause =>
      rw [attemptsFrom]
      simp_all +zetaDelta [Except.map]
      exact if_neg (Nat.not_le.mpr hpause)
  | case9 =>
      rw [attemptsFrom]
      simp_all +zetaDelta [Except.map]
      rfl
  | _ =>
      rw [attemptsFrom]
      simp_all +zetaDelta [Call.map, Call.given, Call.after, Except.map, ended]

end Map

end Plan

section Run

variable {b : Backoff} {draws : Nat → Nat} {script : Script α} {now : Instant}
  {caller : Cancellation} {c : Call α}

theorem run_course (h : b.run draws script now caller = some c) :
    ∃ full, Plan.Course ⟨b, draws, script, now⟩ (b.totalAttempts - 1) 1 now caller full ∧
      c = full.map Prod.fst := by
  obtain ⟨full, hfull, rfl⟩ := Option.map_eq_some_iff.mp h
  exact ⟨full, Plan.course_of_attemptsFrom hfull, rfl⟩

theorem totalAttempts_pos (b : Backoff) : 0 < b.totalAttempts :=
  Nat.lt_min.mpr ⟨Nat.succ_pos _, by decide⟩

theorem run_calls_le (h : b.run draws script now caller = some c) :
    c.calls ≤ b.totalAttempts := by
  obtain ⟨full, hcourse, rfl⟩ := run_course h
  have hpos := b.totalAttempts_pos
  have hcalls := hcourse.calls_le
  simp only [Call.map]
  omega

theorem run_le_endsAt (h : b.run draws script now caller = some c) : now ≤ c.endsAt := by
  obtain ⟨full, hcourse, rfl⟩ := run_course h
  exact hcourse.le_endsAt

theorem run_not_refused (h : b.run draws script now caller = some c) (circuit : String)
    (phase : Breaker.Phase) : c.result ≠ .error (.refused circuit phase) := by
  obtain ⟨full, hcourse, rfl⟩ := run_course h
  have hresult := hcourse.not_refused circuit phase
  cases hfull : full.result with
  | ok v => simp [Call.map, hfull, Except.map]
  | error failure => simpa [Call.map, hfull, Except.map] using hresult

theorem run_ok_iff (h : b.run draws script now caller = some c) (v : α) :
    c.result = .ok v ↔ ∃ n, c.calls = n + 1 ∧ (script n).result = .ok v := by
  obtain ⟨full, hcourse, rfl⟩ := run_course h
  have hok := hcourse.ok_iff v
  simp only [Nat.add_sub_cancel_left] at hok
  change _ ↔ ∃ n, full.calls = n + 1 ∧ _
  rw [← hok]
  cases hfull : full.result with
  | ok pair => simp [Call.map, hfull, Except.map, Prod.ext_iff]
  | error failure => simp [Call.map, hfull, Except.map]

theorem run_map {β : Type} (f : α → β) (b : Backoff) (draws : Nat → Nat) (script : Script α)
    (now : Instant) (caller : Cancellation) :
    b.run draws (fun n => (script n).map f) now caller =
      (b.run draws script now caller).map (Call.map f) := by
  have hmap := Plan.attemptsFrom_map f ⟨b, draws, script, now⟩ (b.totalAttempts - 1) 1 now caller
  simp only [run, runReporting]
  rw [Plan.map] at hmap
  rw [hmap, Option.map_map, Option.map_map]
  congr 1
  funext c
  cases hresult : c.result <;> simp [Call.map, Except.map, hresult]

end Run

end Backoff

end ResilientChat
