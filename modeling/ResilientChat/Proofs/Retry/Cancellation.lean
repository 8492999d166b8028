import ResilientChat.Proofs.Retry.Course

/-!
Repeated calls whose caller gives up. What an attempt finds and leaves behind does not depend on
the checks of the loop: `Plan.turn?` is the state in which an attempt would be made after those
before it. What the loop does about a token that is cancelled before, in or after an attempt is read
off the first rule of its course; a course from a later attempt on is a course of its own.
-/

namespace ResilientChat

namespace Cancellation

variable {c : Cancellation} {s t : Instant}

theorem isDue_iff : c.isDue s = true ↔ ∃ t, c = some t ∧ t ≤ s := by
  simp [isDue, Option.any_eq_true]

theorem isDue_mono (h : c.isDue s = true) {s' : Instant} (hle : s ≤ s') : c.isDue s' = true := by
  obtain ⟨t, hc, ht⟩ := isDue_iff.mp h
  exact isDue_iff.mpr ⟨t, hc, Nat.le_trans ht hle⟩

theorem isDue_either_some : (c.either (some t)).isDue s = (c.isDue s || decide (t ≤ s)) := by
  cases c with
  | none => simp [either, isDue]
  | some t' =>
      have hmin (m n k : Nat) : min m n ≤ k ↔ m ≤ k ∨ n ≤ k := by omega
      simp [either, isDue, hmin]

end Cancellation

namespace Reply

variable {α : Type} {r : Reply α} {now : Instant} {caller : Cancellation} {e : End}

/-- The caller's token after a call does not depend on what the call waited for. -/
theorem caller_of_play (h : r.play now caller = some e) :
    e.caller = if r.cancelsCaller then caller.either (some (now + r.takes)) else caller := by
  simp only [play] at h
  split at h
  · obtain ⟨_, -, rfl⟩ := Option.map_eq_some_iff.mp h
    rfl
  · cases h
    rfl

/-- A call cancels no token in the past. -/
theorem isDue_of_play (h : r.play now caller = some e) {s : Instant} (hs : s < now) :
    e.caller.isDue s = caller.isDue s := by
  have hlater : ¬now + r.takes ≤ s := Nat.not_le.mpr (Nat.lt_of_lt_of_le hs (Nat.le_add_right ..))
  rw [caller_of_play h]
  cases r.cancelsCaller <;> simp [Cancellation.isDue_either_some, hlater]

/-- A call that never ends waits for a token that nobody cancels. -/
theorem caller_of_play_eq_none (h : r.play now caller = none) : caller = none := by
  obtain ⟨result, takes, cancelsAttempt, cancelsCaller, hangs⟩ := r
  cases caller with
  | none => rfl
  | some t => cases cancelsAttempt <;> cases cancelsCaller <;> cases hangs <;> cases h

/-- The behaviour that cancels the token of the attempt in the end. -/
def cuttingOwn (r : Reply α) : Reply α := { r with cancelsAttempt := true }

def unhanging (r : Reply α) : Reply α := { r with hangs := false }

/-- Who cancels the attempt's own token waits for it no longer, and does nothing else by it. -/
theorem play_cuttingOwn (r : Reply α) : r.cuttingOwn.play = r.unhanging.play := by
  funext now caller
  obtain ⟨result, takes, cancelsAttempt, cancelsCaller, hangs⟩ := r
  -- A token that is cancelled in the end keeps nobody waiting beyond.
  have hown (caller : Cancellation) (served : Instant) :
      (caller.either (some served)).map (fun cancelled => (⟨max served cancelled, caller⟩ : End)) =
        some ⟨served, caller⟩ := by
    cases caller with
    | none => simp [Cancellation.either]
    | some t =>
        have hmax : max served (min t served) = served := Nat.max_eq_left (Nat.min_le_right ..)
        simp only [Cancellation.either, Option.map_some, hmax]
  cases hangs with
  | true => exact hown _ _
  | false => rfl

end Reply

namespace Backoff

namespace Plan

variable {α : Type}

/-- What an attempt finds when it starts. -/
structure Turn where
  start : Instant
  caller : Cancellation
deriving DecidableEq

/-- What the `k`-th attempt after number `attempt` would find if it and those between are made, each
after the pause that follows the one before; none if one of those never ends. -/
def turn? (p : Plan α) : (attempt : Nat) → Instant → Cancellation → (k : Nat) → Option Turn
  | _, now, caller, 0 => some ⟨now, caller⟩
  | attempt, now, caller, k + 1 =>
    ((p.script (attempt - 1)).play now caller).bind fun e =>
      p.turn? (attempt + 1) (e.instant + p.pauseAfter attempt) e.caller k

/-- What the loop does about its caller's token around attempt number `attempt`, which starts as `t`
says and ends as `e` says, in a call that goes as `c` says. -/
structure Heeds (p : Plan α) (c : Call (α × AttemptReport)) (attempt : Nat) (t : Turn)
    (e : Reply.End) : Prop where
  /-- The attempt starts while its caller goes on waiting. -/
  live : t.caller.isDue t.start = false
  /-- The token is not cancelled earlier. -/
  before : ∀ cancelled, c.caller = some cancelled → t.start ≤ cancelled
  /-- If the token is cancelled until the attempt ends, the call ends with it: with its value, or as
  given up and without a report on it. -/
  during : e.caller.isDue e.instant = true →
    attempt = c.calls ∧ c.endsAt = e.instant ∧ c.caller = e.caller ∧
      match (p.script (attempt - 1)).result with
      | .ok v => ∃ r, c.result = .ok (v, r) ∧ r.attempt = attempt
      | .error _ => c.result = .error .cancelled ∧
          c.reports.map (·.attempt) = List.range' 1 (attempt - 1)
  /-- If the token is cancelled in the pause after the attempt, the call ends then. -/
  pausing : ∀ cancelled fault, e.caller = some cancelled → e.instant < cancelled →
    cancelled ≤ e.instant + p.pauseAfter attempt →
    (p.script (attempt - 1)).result = .error fault → fault.isRetryable = true →
    attempt < p.backoff.totalAttempts →
    attempt = c.calls ∧ c.endsAt = cancelled ∧ c.caller = e.caller ∧ c.result = .error .cancelled

section Rules

variable {p : Plan α} {left attempt : Nat} {now : Instant} {caller : Cancellation}
  {c : Call (α × AttemptReport)}

/-- A call cancels no token in the past. -/
theorem Course.isDue_eq (h : p.Course left attempt now caller c) {s : Instant} (hs : s < now) :
    c.caller.isDue s = caller.isDue s := by
  induction h with
  | givenUp => rfl
  | succeeded hmade | abandoned hmade => exact Reply.isDue_of_play hmade.ends hs
  | failed hfault | exhausted hfault | interrupted hfault =>
      exact Reply.isDue_of_play hfault.ends hs
  | repeated hfault _ _ _ ih =>
      have hle := le_of_play hfault.ends
      have hlater := Nat.lt_of_lt_of_le hs hle
      have hrest := ih (Nat.lt_of_lt_of_le hlater (Nat.le_add_right ..))
      exact hrest.trans (Reply.isDue_of_play hfault.ends hs)

/-- A call in which no attempt cancels the caller's token leaves it as it was. -/
theorem Course.caller_eq (h : p.Course left attempt now caller c)
    (hkeep : ∀ k < c.calls, (p.script (attempt + k - 1)).cancelsCaller = false) :
    c.caller = caller := by
  have hplay {attempt : Nat} {now : Instant} {caller : Cancellation} {e : Reply.End}
      (hend : (p.script (attempt - 1)).play now caller = some e)
      (hkeep : (p.script (attempt + 0 - 1)).cancelsCaller = false) : e.caller = caller := by
    rw [Reply.caller_of_play hend]
    exact if_neg (by simpa using hkeep)
  induction h with
  | givenUp => rfl
  | succeeded hmade | abandoned hmade => exact hplay hmade.ends (hkeep 0 (Nat.succ_pos _))
  | failed hfault | exhausted hfault | interrupted hfault =>
      exact hplay hfault.ends (hkeep 0 (Nat.succ_pos _))
  | repeated hfault _ _ _ ih =>
      refine (ih fun k hk => ?_).trans (hplay hfault.ends (hkeep 0 (Nat.succ_pos _)))
      have hnext := hkeep (k + 1) (Nat.succ_lt_succ hk)
      rwa [Nat.add_right_comm]

/-- A cancelled token ends the call as given up, unless the last attempt brought a value. -/
theorem Course.result_of_isDue (h : p.Course left attempt now caller c)
    (hdue : c.caller.isDue c.endsAt = true) :
    c.result = .error .cancelled ∨ ∃ v r, c.result = .ok (v, r) := by
  induction h with
  | givenUp | abandoned | interrupted => exact .inl rfl
  | succeeded => exact .inr ⟨_, _, rfl⟩
  | failed hfault | exhausted hfault => exact absurd (hfault.wanted.symm.trans hdue) nofun
  | repeated _ _ _ _ ih => exact ih hdue

/-- A call is given up for its token, or because its last attempt says so. -/
theorem Course.isDue_or_of_cancelled (h : p.Course left attempt now caller c)
    (hresult : c.result = .error .cancelled) :
    c.caller.isDue c.endsAt = true ∨
      (p.script (attempt + c.calls - 2)).result = .error .cancelled := by
  induction h with
  | givenUp hdue => exact .inl hdue
  | abandoned hmade hfault hgone =>
      rcases hgone with hown | hdue
      · cases of_decide_eq_true hown
        exact .inr hfault
      · exact .inl hdue
  | interrupted _ _ hcaller =>
      exact .inl (Cancellation.isDue_iff.mpr ⟨_, hcaller, Nat.le_refl _⟩)
  | @repeated _ attempt _ _ _ _ c _ _ _ _ ih =>
      have hlast : attempt + (c.calls + 1) - 2 = attempt + 1 + c.calls - 2 := by omega
      refine (ih hresult).imp id fun hlater => ?_
      rwa [← hlast] at hlater
  | succeeded | failed | exhausted => cases hresult

/-- From an attempt on, the attempts of a call are a course of their own; those before are
reported. -/
theorem Course.rest (h : p.Course left attempt now caller c) {k : Nat} (hk : k < c.calls) :
    ∃ t before rest, p.turn? attempt now caller k = some t ∧
      p.Course (left - k) (attempt + k) t.start t.caller rest ∧ k ≤ left ∧
      c = { rest with calls := rest.calls + k, reports := before ++ rest.reports } ∧
      before.map (·.attempt) = List.range' attempt k := by
  induction k generalizing left attempt now caller c with
  | zero => exact ⟨⟨now, caller⟩, [], c, rfl, h, Nat.zero_le _, rfl, rfl⟩
  | succ k ih =>
      cases h with
      | givenUp => cases hk
      | repeated hfault _ _ hrest =>
          obtain ⟨t, before, rest, hturn, hcourse, hle, rfl, hbefore⟩ :=
            ih hrest (Nat.lt_of_succ_lt_succ hk)
          refine ⟨t, _ :: before, rest, ?_, ?_, Nat.succ_le_succ hle, rfl, ?_⟩
          · rw [turn?, hfault.ends]
            exact hturn
          · rwa [Nat.succ_sub_succ, ← Nat.add_assoc, Nat.add_right_comm]
          · rw [List.map_cons, hbefore]
            rfl
      | _ => exact absurd (Nat.lt_of_succ_lt_succ hk) (Nat.not_lt_zero _)

/-- A call with an attempt makes the first one. -/
theorem Course.made (h : p.Course left attempt now caller c) (hcalls : 0 < c.calls) :
    ∃ e, p.Made attempt now caller e := by
  cases h with
  | givenUp => cases hcalls
  | succeeded hmade | abandoned hmade => exact ⟨_, hmade⟩
  | failed hfault | exhausted hfault | interrupted hfault | repeated hfault =>
      exact ⟨_, hfault.toMade⟩

/-- A call whose caller waits makes an attempt. -/
theorem Course.calls_pos (h : p.Course left attempt now caller c)
    (hlive : caller.isDue now = false) : 0 < c.calls := by
  cases h with
  | givenUp hdue => exact absurd (hlive.symm.trans hdue) nofun
  | _ => exact Nat.succ_pos _

theorem Made.end_eq {e e' : Reply.End} (h : p.Made attempt now caller e)
    (h' : p.Made attempt now caller e') : e = e' :=
  Option.some.inj (h.ends.symm.trans h'.ends)

variable {e : Reply.End}

/-- A token that is cancelled until the first attempt ends makes it the last one. -/
theorem Course.during (h : p.Course left attempt now caller c) (hmade : p.Made attempt now caller e)
    (hdue : e.caller.isDue e.instant = true) :
    c.calls = 1 ∧ c.endsAt = e.instant ∧ c.caller = e.caller ∧
      match (p.script (attempt - 1)).result with
      | .ok v => ∃ r, c.result = .ok (v, r) ∧ r.attempt = attempt
      | .error _ => c.result = .error .cancelled ∧ c.reports = [] := by
  cases h with
  | givenUp hgone => exact absurd (hmade.live.symm.trans hgone) nofun
  | succeeded hmade' hok =>
      obtain rfl := hmade.end_eq hmade'
      rw [hok]
      exact ⟨rfl, rfl, rfl, _, rfl, rfl⟩
  | abandoned hmade' hfault =>
      obtain rfl := hmade.end_eq hmade'
      rw [hfault]
      exact ⟨rfl, rfl, rfl, rfl, rfl⟩
  | failed hfault | exhausted hfault | interrupted hfault | repeated hfault =>
      obtain rfl := hmade.end_eq hfault.toMade
      exact absurd (hfault.wanted.symm.trans hdue) nofun

/-- A token that is cancelled in the pause after the first attempt makes it the last one, and the
call does not wait for the end of the pause. -/
theorem Course.pausing (h : p.Course left attempt now caller c)
    (hmade : p.Made attempt now caller e) {cancelled : Instant} {fault : Fault}
    (hcaller : e.caller = some cancelled) (hlater : e.instant < cancelled)
    (hpause : cancelled ≤ e.instant + p.pauseAfter attempt)
    (hresult : (p.script (attempt - 1)).result = .error fault) (hretry : fault.isRetryable = true)
    (hleft : 0 < left) :
    c.calls = 1 ∧ c.endsAt = cancelled ∧ c.caller = e.caller ∧ c.result = .error .cancelled := by
  cases h with
  | givenUp hgone => exact absurd (hmade.live.symm.trans hgone) nofun
  | succeeded _ hok => cases hresult.symm.trans hok
  | abandoned hmade' hfault hgone =>
      obtain rfl := hmade.end_eq hmade'
      cases hresult.symm.trans hfault
      rcases hgone with hown | hdue
      · cases of_decide_eq_true hown
        cases hretry
      · obtain ⟨t, ht, hle⟩ := Cancellation.isDue_iff.mp hdue
        cases hcaller.symm.trans ht
        exact absurd hlater (Nat.not_lt.mpr hle)
  | failed hfault hfinal =>
      cases hresult.symm.trans hfault.result
      exact absurd (hretry.symm.trans hfinal) nofun
  | exhausted => cases hleft
  | interrupted hfault _ hcaller' =>
      obtain rfl := hmade.end_eq hfault.toMade
      cases hcaller.symm.trans hcaller'
      exact ⟨rfl, rfl, rfl, rfl⟩
  | repeated hfault _ hwaits =>
      obtain rfl := hmade.end_eq hfault.toMade
      have hdue := Cancellation.isDue_iff.mpr ⟨cancelled, hcaller, hpause⟩
      exact absurd (hwaits.symm.trans hdue) nofun

/-- Whichever attempt of a whole call the token is cancelled around, the loop heeds it. -/
theorem Course.heeds (h : p.Course (p.backoff.totalAttempts - 1) 1 now caller c) {k : Nat}
    (hk : k < c.calls) :
    ∃ t e, p.turn? 1 now caller k = some t ∧ (p.script k).play t.start t.caller = some e ∧
      p.Heeds c (k + 1) t e := by
  obtain ⟨t, before, rest, hturn, hcourse, hle, rfl, hbefore⟩ := h.rest hk
  have hcalls : 0 < rest.calls := Nat.pos_of_lt_add_left hk
  obtain ⟨e, hmade⟩ := hcourse.made hcalls
  rw [Nat.add_comm 1 k] at hcourse hmade
  refine ⟨t, e, hturn, hmade.ends, hmade.live, fun cancelled hcaller => ?_, fun hdue => ?_, ?_⟩
  · refine Nat.le_of_not_lt fun hearly => ?_
    have hdue := hcourse.isDue_eq hearly
    rw [Cancellation.isDue_iff.mpr ⟨cancelled, hcaller, Nat.le_refl _⟩] at hdue
    have hgone := Cancellation.isDue_mono hdue.symm (Nat.le_of_lt hearly)
    exact absurd (hmade.live.symm.trans hgone) nofun
  · obtain ⟨hlast, hends, hafter, hresult⟩ := hcourse.during hmade hdue
    refine ⟨?_, hends, hafter, ?_⟩
    · simp only [hlast]
      exact Nat.add_comm ..
    · cases hreply : (p.script (k + 1 - 1)).result with
      | ok v =>
          rw [hreply] at hresult
          exact hresult
      | error fault =>
          rw [hreply] at hresult
          refine ⟨hresult.1, ?_⟩
          simp [hresult.2, hbefore]
  · intro cancelled fault hcaller hlater hpause hresult hretry htotal
    obtain ⟨hlast, hends, hafter, hgone⟩ :=
      hcourse.pausing hmade hcaller hlater hpause hresult hretry (by omega)
    refine ⟨?_, hends, hafter, hgone⟩
    simp only [hlast]
    exact Nat.add_comm ..

/-- A call that never ends hangs in an attempt whose token nobody cancels. -/
theorem hangs_of_attemptsFrom_eq_none (h : p.attemptsFrom left attempt now caller = none) :
    ∃ k start, p.turn? attempt now caller k = some ⟨start, none⟩ ∧
      (p.script (attempt + k - 1)).play start none = none := by
  fun_induction attemptsFrom p left attempt now caller with
  | case2 left attempt now caller hlive reply hend =>
      obtain rfl := Reply.caller_of_play_eq_none hend
      exact ⟨0, now, rfl, hend⟩
  | case8 attempt now caller hlive reply e hend fault hfault hwanted hretry left pause r wake
      cancelled hcaller hpause =>
      rename_i ih
      obtain ⟨k, start, hturn, hhangs⟩ := ih (Option.map_eq_none_iff.mp h)
      refine ⟨k + 1, start, ?_, ?_⟩
      · rw [turn?, hend]
        exact hturn
      · rwa [Nat.add_right_comm] at hhangs
  | case9 attempt now caller hlive reply e hend fault hfault hwanted hretry left pause r wake
      hcaller =>
      rename_i ih
      obtain ⟨k, start, hturn, hhangs⟩ := ih (Option.map_eq_none_iff.mp h)
      refine ⟨k + 1, start, ?_, ?_⟩
      · rw [turn?, hend]
        exact hcaller ▸ hturn
      · rwa [Nat.add_right_comm] at hhangs
  | _ => cases h

/-- A token that will be cancelled is not taken back. -/
theorem caller_of_turn? {k : Nat} {t : Turn} (h : p.turn? attempt now caller k = some t)
    (hcaller : caller.isSome = true) : t.caller.isSome = true := by
  induction k generalizing attempt now caller with
  | zero =>
      cases h
      exact hcaller
  | succ k ih =>
      obtain ⟨e, hend, hrest⟩ := Option.bind_eq_some_iff.mp h
      refine ih hrest ?_
      rw [Reply.caller_of_play hend]
      obtain ⟨cancelled, rfl⟩ := Option.isSome_iff_exists.mp hcaller
      split <;> rfl

/-- Attempts that answer the same and end the same go the same way. -/
theorem attemptsFrom_congr (p : Plan α) {script : Script α}
    (hplay : ∀ n, (script n).play = (p.script n).play)
    (hresult : ∀ n, (script n).result = (p.script n).result) (left attempt : Nat) (now : Instant)
    (caller : Cancellation) :
    attemptsFrom { p with script } left attempt now caller =
      p.attemptsFrom left attempt now caller := by
  induction left generalizing attempt now caller with
  | zero =>
      rw [attemptsFrom, attemptsFrom]
      simp only [hplay, hresult]
      rfl
  | succ left ih =>
      rw [attemptsFrom, attemptsFrom]
      simp only [hplay, hresult, ih]
      rfl

end Rules

end Plan

variable {α : Type}

def changed (change : Reply α → Reply α) (chosen : Nat → Bool) (script : Script α) : Script α :=
  fun n => if chosen n then change (script n) else script n

/-- Cancelling the tokens of attempts, whichever, ends their waiting for them and does nothing
else. -/
theorem runReporting_cuttingOwn (b : Backoff) (draws : Nat → Nat) (script : Script α)
    (now : Instant) (caller : Cancellation) (chosen : Nat → Bool) :
    b.runReporting draws (changed Reply.cuttingOwn chosen script) now caller =
      b.runReporting draws (changed Reply.unhanging chosen script) now caller := by
  refine Plan.attemptsFrom_congr ⟨b, draws, changed Reply.unhanging chosen script, now⟩
    (fun n => ?_) (fun n => ?_) _ _ _ _
  · simp only [changed]
    split
    · exact Reply.play_cuttingOwn _
    · rfl
  · simp only [changed]
    split <;> rfl

/-- A repeated call heeds its caller's token, whatever the attempts answer and whenever the token is
cancelled. (1) The call ends unless an attempt hangs and nobody cancels the token. (2) A token that
is cancelled before ends the call at once, without it an attempt is made, and (3) a token that is
cancelled later ends the call with the attempt or in the pause in which it is cancelled. (4) A call
whose token is cancelled by its end is given up or succeeds, and no other call is given up unless
its last attempt is. (5) Nobody but the caller and the attempts cancels the token. (6) The tokens of
attempts are no concern of the caller's token nor of other attempts: cancelling some of them only
ends the waiting for them. -/
theorem cancelled_call_ends (b : Backoff) (draws : Nat → Nat) (script : Script α) (now : Instant)
    (caller : Cancellation) :
    let p : Plan α := ⟨b, draws, script, now⟩
    let run := b.runReporting draws script now caller
    ((run = none → ∃ k start, p.turn? 1 now caller k = some ⟨start, none⟩ ∧
        (script k).play start none = none) ∧
      (caller.isSome = true → run.isSome = true)) ∧
    (∀ c, run = some c →
      (caller.isDue now = true → c = .given (.error .cancelled) now caller) ∧
      (caller.isDue now = false → 0 < c.calls) ∧
      (∀ k < c.calls, ∃ t e, p.turn? 1 now caller k = some t ∧
        (script k).play t.start t.caller = some e ∧ p.Heeds c (k + 1) t e) ∧
      (c.caller.isDue c.endsAt = true →
        c.result = .error .cancelled ∨ ∃ v r, c.result = .ok (v, r)) ∧
      (c.result = .error .cancelled →
        c.caller.isDue c.endsAt = true ∨ (script (c.calls - 1)).result = .error .cancelled) ∧
      ((∀ k < c.calls, (script k).cancelsCaller = false) → c.caller = caller)) ∧
    ∀ chosen, b.runReporting draws (changed Reply.cuttingOwn chosen script) now caller =
      b.runReporting draws (changed Reply.unhanging chosen script) now caller := by
  intro p run
  have hhangs (hnone : run = none) : ∃ k start, p.turn? 1 now caller k = some ⟨start, none⟩ ∧
      (script k).play start none = none := by
    obtain ⟨k, start, hturn, hend⟩ := Plan.hangs_of_attemptsFrom_eq_none hnone
    rw [Nat.add_sub_cancel_left] at hend
    exact ⟨k, start, hturn, hend⟩
  refine ⟨⟨hhangs, fun hcaller => ?_⟩, fun c hrun => ?_,
    runReporting_cuttingOwn b draws script now caller⟩
  · refine Option.isSome_iff_ne_none.mpr fun hnone => ?_
    obtain ⟨k, start, hturn, -⟩ := hhangs hnone
    cases Plan.caller_of_turn? hturn hcaller
  · have hcourse := Plan.course_of_attemptsFrom hrun
    refine ⟨fun hdue => ?_, hcourse.calls_pos, fun k hk => hcourse.heeds hk,
      hcourse.result_of_isDue, fun hresult => ?_, fun hkeep => ?_⟩
    · have hgiven : run = some (.given (.error .cancelled) now caller) := by
        simp only [run, runReporting]
        rw [Plan.attemptsFrom, if_pos hdue]
      exact Option.some.inj (hrun.symm.trans hgiven)
    · have hcancelled := hcourse.isDue_or_of_cancelled hresult
      have hlast : 1 + c.calls - 2 = c.calls - 1 := by omega
      rwa [hlast] at hcancelled
    · refine hcourse.caller_eq fun k hk => ?_
      rw [Nat.add_sub_cancel_left]
      exact hkeep k hk

/-- A first attempt that fails in time, and others that wait for their token. -/
def timeoutThenHangs : Script Unit
  | 0 => { result := .error .timeout, takes := 2 }
  | _ => { result := .error .timeout, hangs := true }

def fourAttempts : Backoff := { retries := 3, first := 0, jitter := false }

theorem cancelled_in_second_attempt :
    ∃ c, fourAttempts.runReporting (fun _ => 0) timeoutThenHangs 0 (some 7) = some c ∧
      2 = c.calls ∧ c.endsAt = 7 ∧ c.result = .error .cancelled ∧
      c.reports.map (·.attempt) = [1] := by
  obtain ⟨⟨-, hends⟩, hcancelled, -⟩ :=
    cancelled_call_ends fourAttempts (fun _ => 0) timeoutThenHangs 0 (some 7)
  obtain ⟨c, hrun⟩ := Option.isSome_iff_exists.mp (hends rfl)
  obtain ⟨-, -, hheeds, -⟩ := hcancelled c hrun
  have hcalls : c.calls = 2 := by
    have hcalls : (fourAttempts.runReporting (fun _ => 0) timeoutThenHangs 0 (some 7)).map
        Call.calls = some 2 := by decide +kernel
    simpa [hrun] using hcalls
  obtain ⟨t, e, hturn, hend, hheeds⟩ := hheeds 1 (by omega)
  have hsecond : Plan.turn? ⟨fourAttempts, fun _ => 0, timeoutThenHangs, 0⟩ 1 0 (some 7) 1 =
      some ⟨2, some 7⟩ := by decide +kernel
  cases hturn.symm.trans hsecond
  cases hend
  obtain ⟨hlast, hends, -, hresult, hreports⟩ := hheeds.during rfl
  exact ⟨c, hrun, hlast, hends, hresult, hreports⟩

end Backoff

end ResilientChat
