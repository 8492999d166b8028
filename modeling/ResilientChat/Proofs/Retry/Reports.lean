import ResilientChat.Proofs.Retry.Exact
import Mathlib.Algebra.BigOperators.Intervals

/-!
The reports on the attempts of a repeated call. What a call reports whose caller waits for it is a
function of the script: each attempt takes the time of its answer, and the pause after it is the one
that its report announces. A caller who gives up cuts the reports off and changes none of them.
-/

namespace ResilientChat

variable {α : Type}

theorem Cancellation.le_of_either_eq_some {c : Cancellation} {s t : Instant}
    (h : c.either (some s) = some t) : t ≤ s := by
  cases c with
  | none =>
      cases h
      exact Nat.le_refl _
  | some _ =>
      cases h
      exact Nat.min_le_right ..

namespace Reply

def faultText (r : Reply α) : Option String :=
  match r.result with
  | .ok _ => none
  | .error fault => some fault.message

theorem faultText_of_ok {r : Reply α} {v : α} (h : r.result = .ok v) : r.faultText = none := by
  simp only [faultText, h]

theorem faultText_of_error {r : Reply α} {fault : Fault} (h : r.result = .error fault) :
    r.faultText = some fault.message := by
  simp only [faultText, h]

/-- A call that ends while its caller goes on waiting takes the time of its answer. -/
theorem instant_of_play {r : Reply α} {now : Instant} {caller : Cancellation} {e : End}
    (h : r.play now caller = some e) (hwaits : e.caller.isDue e.instant = false) :
    e.instant = now + r.takes := by
  simp only [play] at h
  split at h
  · obtain ⟨cancelled, hown, rfl⟩ := Option.map_eq_some_iff.mp h
    refine Nat.max_eq_left ?_
    split at hown
    · exact Cancellation.le_of_either_eq_some hown
    · -- The attempt has waited for the token of its caller.
      have hdue := Cancellation.isDue_iff.mpr ⟨cancelled, hown, Nat.le_max_right (now + r.takes) _⟩
      cases hdue.symm.trans hwaits
  · cases h
    rfl

end Reply

namespace Script

/-- No attempt waits for the token of its caller. -/
def Timed (script : Script α) : Prop :=
  ∀ n, (script n).hangs = true → (script n).cancelsAttempt = true

/-- The same answers in the same time; none of them cancels the token of the caller. -/
def keeping (script : Script α) : Script α := fun n => { script n with cancelsCaller := false }

/-- None of the first `k` answers says that the call was given up. -/
def Uncancelled (script : Script α) (k : Nat) : Prop :=
  ∀ i < k, (script i).result ≠ .error .cancelled

/-- An attempt that waits for nobody ends with its answer. -/
theorem Timed.play_eq {script : Script α} (h : script.Timed) (n : Nat) (now : Instant)
    (caller : Cancellation) :
    (script n).play now caller = some ⟨now + (script n).takes,
      if (script n).cancelsCaller then caller.either (some (now + (script n).takes))
      else caller⟩ := by
  have hplay : (script n).play = (script n).unhanging.play := by
    cases hhangs : (script n).hangs with
    | false => rw [Reply.unhanging, ← hhangs]
    | true =>
        have hcutting : (script n).cuttingOwn = script n := by rw [Reply.cuttingOwn, ← h n hhangs]
        rw [← Reply.play_cuttingOwn, hcutting]
  rw [hplay]
  rfl

theorem Timed.keeping {script : Script α} (h : script.Timed) : script.keeping.Timed := h

theorem Timed.returns {script : Script α} (h : script.Timed) : script.Returns := by
  intro n now hnone
  cases (h.play_eq n now none).symm.trans hnone

end Script

namespace Backoff

namespace Plan

/-- The report on the `i`-th of the `k` attempts that are made from number `attempt` on, the first
one at `now`. -/
def entry (p : Plan α) (attempt : Nat) (now : Instant) (k i : Nat) : AttemptReport where
  attempt := attempt + i
  total := p.backoff.totalAttempts
  lastError := (p.script (attempt + i - 1)).faultText
  elapsed := now - p.started + ∑ j ∈ Finset.range (i + 1), (p.script (attempt + j - 1)).takes +
    ∑ j ∈ Finset.range i, p.pauseAfter (attempt + j)
  nextDelay := if i + 1 < k then some (p.pauseAfter (attempt + i)) else none

section Rules

variable {p : Plan α} {left attempt : Nat} {now : Instant} {caller : Cancellation}
  {c : Call (α × AttemptReport)}

theorem entry_last (h : p.started ≤ now) {e : Reply.End}
    (hinstant : e.instant = now + (p.script (attempt - 1)).takes) :
    p.entry attempt now 1 0 =
      p.report attempt e.instant (p.script (attempt - 1)).faultText none := by
  simp [entry, report, hinstant, Nat.sub_add_comm h]

theorem entry_first (h : p.started ≤ now) {e : Reply.End}
    (hinstant : e.instant = now + (p.script (attempt - 1)).takes) {k : Nat} (hk : 0 < k) :
    p.entry attempt now (k + 1) 0 =
      p.report attempt e.instant (p.script (attempt - 1)).faultText
        (some (p.pauseAfter attempt)) := by
  simp [entry, report, hinstant, hk, Nat.sub_add_comm h]

/-- The later attempts are reported like those of a call that starts with them. -/
theorem entry_succ (h : p.started ≤ now) (k i : Nat) :
    p.entry attempt now (k + 1) (i + 1) =
      p.entry (attempt + 1) (now + (p.script (attempt - 1)).takes + p.pauseAfter attempt) k i := by
  have hshift (j : Nat) : attempt + (j + 1) = attempt + 1 + j := by omega
  have hsum (f : Nat → Nat) (n : Nat) : ∑ j ∈ Finset.range (n + 1), f (attempt + j) =
      f attempt + ∑ j ∈ Finset.range n, f (attempt + 1 + j) := by
    rw [Finset.sum_range_succ', Nat.add_comm, Nat.add_zero]
    exact congrArg _ (Finset.sum_congr rfl fun j _ => congrArg f (hshift j))
  rw [entry, entry, hsum (fun j => (p.script (j - 1)).takes) (i + 1), hsum p.pauseAfter i, hshift i]
  have hsums (a d d' b b' : Nat) : a + (d + d') + (b + b') = a + (d + b) + d' + b' := by omega
  rw [hsums, Nat.add_assoc now, Nat.sub_add_comm h]
  simp only [Nat.add_lt_add_iff_right]

/-- Attempts whose caller waits are reported as the script has them. -/
theorem Course.reports_eq (h : p.Course left attempt now caller c) (hstarted : p.started ≤ now)
    (hwaits : c.caller.isDue c.endsAt = false)
    (hown : ∀ i < c.calls, (p.script (attempt + i - 1)).result ≠ .error .cancelled) :
    c.reports = (List.range c.calls).map (p.entry attempt now c.calls) := by
  induction h with
  | givenUp hdue => cases hdue.symm.trans hwaits
  | succeeded hmade hok =>
      have hentry := entry_last hstarted (Reply.instant_of_play hmade.ends hwaits)
      rw [Reply.faultText_of_ok hok] at hentry
      exact congrArg (fun r => [r]) hentry.symm
  | abandoned hmade hfault hgone =>
      rcases hgone with hgone | hdue
      · cases of_decide_eq_true hgone
        exact absurd hfault (hown 0 (Nat.succ_pos _))
      · cases hdue.symm.trans hwaits
  | failed hfault | exhausted hfault =>
      have hentry := entry_last hstarted (Reply.instant_of_play hfault.ends hfault.wanted)
      rw [Reply.faultText_of_error hfault.result] at hentry
      exact congrArg (fun r => [r]) hentry.symm
  | interrupted _ _ hcaller =>
      have hdue := Cancellation.isDue_iff.mpr ⟨_, hcaller, Nat.le_refl _⟩
      cases hdue.symm.trans hwaits
  | @repeated left attempt now _ e _ c hfault _ hpause hrest ih =>
      have hinstant := Reply.instant_of_play hfault.ends hfault.wanted
      have hlater : p.started ≤ e.instant + p.pauseAfter attempt :=
        Nat.le_trans hstarted (Nat.le_trans (le_of_play hfault.ends) (Nat.le_add_right ..))
      have hrestOwn : ∀ i < c.calls,
          (p.script (attempt + 1 + i - 1)).result ≠ .error .cancelled := by
        intro i hi
        rw [Nat.add_right_comm]
        exact hown (i + 1) (Nat.succ_lt_succ hi)
      have hcalls : 0 < c.calls := hrest.calls_pos hpause
      have hentry := entry_first hstarted hinstant hcalls
      rw [Reply.faultText_of_error hfault.result] at hentry
      have htail : (fun i => p.entry attempt now (c.calls + 1) (i + 1)) =
          p.entry (attempt + 1) (e.instant + p.pauseAfter attempt) c.calls := by
        funext i
        rw [entry_succ hstarted, hinstant]
      simp only [Call.after]
      rw [List.range_succ_eq_map, List.map_cons, List.map_map, hentry, ih hlater hwaits hrestOwn,
        ← htail]
      rfl

/-- What a call says that has used its attempts up is what its last report says. -/
theorem Course.elapsed_of_exhausted (h : p.Course left attempt now caller c) {attempts : Nat}
    {elapsed : Duration} {fault : Fault}
    (hresult : c.result = .error (.exhausted attempts elapsed fault)) :
    c.reports.getLast?.map (·.elapsed) = some elapsed := by
  induction h with
  | exhausted => cases hresult; rfl
  | repeated _ _ _ _ ih =>
    have hlast := ih hresult
    obtain ⟨r, hr, -⟩ := Option.map_eq_some_iff.mp hlast
    rw [Call.after, List.getLast?_cons, hr]
    rw [hr] at hlast
    exact hlast
  | _ => cases hresult

/-- A call whose caller may give up reports what it reports if nobody does, from the first attempt
on. -/
theorem Course.reports_cut (h : p.Course left attempt now caller c) (htimed : p.script.Timed)
    {whole : Call (α × AttemptReport)}
    (hwhole : attemptsFrom { p with script := p.script.keeping } left attempt now none =
      some whole) :
    c.reports <+: whole.reports := by
  have hinstant {n : Nat} {now : Instant} {caller : Cancellation} {e : Reply.End}
      (hend : (p.script n).play now caller = some e) : e.instant = now + (p.script n).takes := by
    cases (htimed.play_eq n now caller).symm.trans hend
    rfl
  have hplay (n : Nat) (now : Instant) :
      (p.script.keeping n).play now none = some ⟨now + (p.script n).takes, none⟩ :=
    htimed.keeping.play_eq n now none
  have hanswer (n : Nat) : (p.script.keeping n).result = (p.script n).result := rfl
  have hlive (now : Instant) : Cancellation.isDue none now = false := rfl
  rw [attemptsFrom] at hwhole
  simp only [hlive, hplay, hanswer, Bool.or_false, Bool.false_eq_true, if_false] at hwhole
  induction h generalizing whole with
  | givenUp | abandoned => exact List.nil_prefix
  | succeeded hmade hok =>
      simp only [hok] at hwhole
      cases hwhole
      rw [hinstant hmade.ends]
      exact List.prefix_rfl
  | failed hfault hfinal =>
      simp only [hfault.result, hfault.own, hfinal] at hwhole
      cases hwhole
      rw [hinstant hfault.ends]
      exact List.prefix_rfl
  | exhausted hfault hretry =>
      simp only [hfault.result, hfault.own, hretry] at hwhole
      cases hwhole
      rw [hinstant hfault.ends]
      exact List.prefix_rfl
  | interrupted hfault hretry =>
      simp only [hfault.result, hfault.own, hretry] at hwhole
      obtain ⟨rest, -, rfl⟩ := Option.map_eq_some_iff.mp hwhole
      rw [hinstant hfault.ends]
      exact List.cons_prefix_cons.mpr ⟨rfl, List.nil_prefix⟩
  | repeated hfault hretry _ _ ih =>
      simp only [hfault.result, hfault.own, hretry] at hwhole
      obtain ⟨rest, hrest, rfl⟩ := Option.map_eq_some_iff.mp hwhole
      rw [hinstant hfault.ends] at ih ⊢
      rw [attemptsFrom] at hrest
      simp only [hlive, hplay, hanswer, Bool.or_false, Bool.false_eq_true, if_false] at hrest
      exact List.cons_prefix_cons.mpr ⟨rfl, ih hrest⟩

end Rules

end Plan

def log (b : Backoff) (script : Script α) (k : Nat) : List AttemptReport :=
  (List.range' 1 k).map fun i =>
    { attempt := i
      total := b.totalAttempts
      lastError := (script (i - 1)).faultText
      elapsed := ∑ j ∈ Finset.range i, (script j).takes + ∑ j ∈ Finset.Ico 1 i, b.pause j
      nextDelay := if i < k then some (b.pause i) else none }

section Whole

variable {b : Backoff} {draws : Nat → Nat} {script : Script α} {now : Instant}
  {caller : Cancellation} {c : Call (α × AttemptReport)}

theorem map_entry_eq_log (hjitter : b.jitter = false) (k : Nat) :
    (List.range k).map (Plan.entry ⟨b, draws, script, now⟩ 1 now k) = b.log script k := by
  have hpause : Plan.pauseAfter ⟨b, draws, script, now⟩ = b.pause := by
    funext attempt
    rw [Plan.pauseAfter, delay, hjitter]
    rfl
  rw [log, List.range'_eq_map_range, List.map_map]
  refine List.map_congr_left fun i _ => ?_
  simp [Plan.entry, hpause, Finset.sum_Ico_eq_sum_range, Nat.add_comm 1 i]

theorem reports_eq_log (hjitter : b.jitter = false)
    (h : b.runReporting draws script now caller = some c)
    (hwaits : c.caller.isDue c.endsAt = false) (hown : script.Uncancelled c.calls) :
    c.reports = b.log script c.calls := by
  rw [← @map_entry_eq_log _ b draws script now hjitter]
  refine (Plan.course_of_attemptsFrom h).reports_eq (Nat.le_refl now) hwaits fun i hi => ?_
  rw [Nat.add_sub_cancel_left]
  exact hown i hi

/-- What a repeated call without jitter reports. A call whose caller waits for it, and none of whose
attempts gives it up, reports each attempt, in order and once: its number, the time of the attempts
until then and of the pauses between them, and the pause that follows it, which comes after every
attempt but the last. A call that has used its attempts up says how long they took as its last
report does. Where the attempts do not depend on the token, a call with a caller who may give up
reports what it would report otherwise, up to some attempt. -/
theorem attempts_reported (hjitter : b.jitter = false) (draws : Nat → Nat) (script : Script α)
    (now : Instant) (caller : Cancellation) :
    (∀ c, b.runReporting draws script now caller = some c →
      (c.caller.isDue c.endsAt = false → script.Uncancelled c.calls →
        c.reports = b.log script c.calls) ∧
      (∀ attempts elapsed fault, c.result = .error (.exhausted attempts elapsed fault) →
        c.reports.getLast?.map (·.elapsed) = some elapsed)) ∧
    (script.Timed → ∃ c whole, b.runReporting draws script now caller = some c ∧
      b.runReporting draws script.keeping now none = some whole ∧
      c.reports <+: whole.reports ∧
      (script.Uncancelled whole.calls → whole.reports = b.log script whole.calls)) := by
  refine ⟨fun c hrun => ⟨reports_eq_log hjitter hrun, fun attempts elapsed fault => ?_⟩,
    fun htimed => ?_⟩
  · exact (Plan.course_of_attemptsFrom hrun).elapsed_of_exhausted
  · obtain ⟨c, hrun⟩ := exists_runReporting htimed.returns b draws now caller
    obtain ⟨whole, hwhole⟩ := exists_runReporting htimed.keeping.returns b draws now none
    refine ⟨c, whole, hrun, hwhole, ?_, fun hown => ?_⟩
    · exact (Plan.course_of_attemptsFrom hrun).reports_cut htimed hwhole
    · have hcaller : whole.caller = none :=
        (Plan.course_of_attemptsFrom hwhole).caller_eq fun _ _ => rfl
      have hwaits : whole.caller.isDue whole.endsAt = false := by
        rw [hcaller]
        rfl
      have hlog := reports_eq_log hjitter hwhole hwaits hown
      exact hlog

def shortPauses : Backoff :=
  { retries := 3, first := 10, factor := 2.0, ceiling := some 15, jitter := false }

/-- Two attempts that fail in time, and one that succeeds. -/
def twoTimeouts : Script String
  | 0 => { result := .error .timeout, takes := 2 }
  | 1 => { result := .error .timeout, takes := 3 }
  | _ => { result := .ok "done", takes := 4 }

theorem two_timeouts_reported :
    shortPauses.jitter = false ∧
      ∃ c whole, shortPauses.runReporting id twoTimeouts 100 (some 120) = some c ∧
        shortPauses.runReporting id twoTimeouts 100 none = some whole ∧
        c.reports <+: whole.reports ∧
        whole.reports =
          [⟨1, 4, some "dependency call timed out", 2, some 10⟩,
            ⟨2, 4, some "dependency call timed out", 15, some 15⟩, ⟨3, 4, none, 34, none⟩] := by
  have htimed : twoTimeouts.Timed := by
    rintro (_ | _ | _) hhangs <;> cases hhangs
  obtain ⟨-, hcut⟩ := attempts_reported rfl id twoTimeouts 100 (some 120) (b := shortPauses)
  obtain ⟨c, whole, hrun, hwhole, hprefix, hlog⟩ := hcut htimed
  have hkeeping : twoTimeouts.keeping = twoTimeouts := by
    funext n
    rcases n with _ | _ | _ <;> rfl
  rw [hkeeping] at hwhole
  have hown : twoTimeouts.Uncancelled whole.calls := by
    rintro (_ | _ | _) _ <;> exact nofun
  have hcalls : whole.calls = 3 := by
    have hcalls : (shortPauses.runReporting id twoTimeouts 100 none).map Call.calls = some 3 := by
      decide +kernel
    simpa [hwhole] using hcalls
  refine ⟨rfl, c, whole, hrun, hwhole, hprefix, ?_⟩
  rw [hlog hown, hcalls]
  decide +kernel

end Whole

end Backoff

end ResilientChat
