import ResilientChat.Proofs.Cache.Shelf

/-!
Answers that are too old. The answers of a shelf stand in the order of their age, so throwing out
those that are too old makes no difference to what is found later: a purge before a request and one
after it leave the same. Room is made by taking away the oldest answer, so none goes that is young
enough while one is there that is not.
-/

namespace ResilientChat

namespace AnswerStore

def withoutPurges (requests : List Request) : List Request :=
  requests.filter fun r => !r matches .purge

namespace Shelf

/-- The answers stand in the order of their age, there is one under each fingerprint, and there is
room for them. -/
structure Tidy (s : Shelf) : Prop where
  byAge : s.row.Pairwise fun a b => a.putAt ≤ b.putAt
  past : ∀ e ∈ s.row, e.putAt ≤ s.now
  distinct : s.row.Pairwise fun a b => a.fingerprint ≠ b.fingerprint
  fits : s.row.length ≤ s.capacity

def purged (s : Shelf) : Shelf := s.keep s.isFresh

section Row

variable {row : List Shelved}

/-- What satisfies `p` stands at the end of the row and is taken away last. -/
theorem filter_rtake {p : Shelved → Bool} (h : row.Pairwise fun a b => p a = true → p b = true)
    (n : Nat) : (row.rtake n).filter p = (row.filter p).rtake n := by
  induction row using List.reverseRecOn generalizing n with
  | nil => rw [List.rtake_nil, List.filter_nil, List.rtake_nil]
  | append_singleton row e ih =>
      obtain ⟨hrow, -, hlast⟩ := List.pairwise_append.mp h
      cases n with
      | zero => rw [List.rtake_zero, List.rtake_zero, List.filter_nil]
      | succ n =>
          rw [List.rtake_concat_succ, List.filter_append, List.filter_append, ih hrow n]
          cases hp : p e with
          | true => rw [List.filter_singleton, hp, cond_true, List.rtake_concat_succ]
          | false =>
              have hnone : row.filter p = [] := by
                refine List.filter_eq_nil_iff.mpr fun a ha hpa => ?_
                cases hp.symm.trans (hlast a ha e List.mem_cons_self hpa)
              rw [hnone, List.filter_singleton, hp, cond_false, List.append_nil, List.rtake_nil,
                List.append_nil, List.rtake_nil]

theorem find?_filter_of_distinct (h : row.Pairwise fun a b => a.fingerprint ≠ b.fingerprint)
    (p : Shelved → Bool) (fingerprint : String) :
    (row.filter p).find? (·.fingerprint = fingerprint) =
      (row.find? (·.fingerprint = fingerprint)).filter p := by
  induction row with
  | nil => rfl
  | cons a row ih =>
      obtain ⟨hfirst, hrest⟩ := List.pairwise_cons.mp h
      by_cases hname : a.fingerprint = fingerprint
      · have hothers : (row.filter p).find? (·.fingerprint = fingerprint) = none := by
          refine List.find?_eq_none.mpr fun e he hsame => ?_
          exact hfirst e (List.mem_filter.mp he).1 (hname.trans (of_decide_eq_true hsame).symm)
        cases hp : p a <;> simp [hp, hname, hothers, Option.filter]
      · rw [List.find?_cons_of_neg (by simpa using hname), ← ih hrest, List.filter_cons]
        split
        · rw [List.find?_cons_of_neg (by simpa using hname)]
        · rfl

end Row

section Step

variable {s : Shelf}

theorem isFresh_of_le {a b : Shelved} (hle : a.putAt ≤ b.putAt) (h : s.isFresh a = true) :
    s.isFresh b = true := by
  rw [isFresh, decide_eq_true_eq] at h ⊢
  exact Nat.lt_of_le_of_lt (Nat.sub_le_sub_left hle s.now) h

/-- Throwing answers away leaves the others as they were. -/
theorem Tidy.keep (h : s.Tidy) (p : Shelved → Bool) : (s.keep p).Tidy where
  byAge := h.byAge.filter p
  past := fun e he => h.past e (List.mem_filter.mp he).1
  distinct := h.distinct.filter p
  fits := (List.length_filter_le ..).trans h.fits

/-- The row with an answer put at its end, before it is seen whether there is room. -/
def rowWith (s : Shelf) (key : AnswerKey) (answer : CachedAnswer) : List Shelved :=
  s.row.filter (·.fingerprint ≠ key.fingerprint) ++ [⟨key.fingerprint, key.tenant, answer, s.now⟩]

theorem Tidy.byAge_rowWith (h : s.Tidy) (key : AnswerKey) (answer : CachedAnswer) :
    (s.rowWith key answer).Pairwise fun a b => a.putAt ≤ b.putAt := by
  refine List.pairwise_append.mpr ⟨h.byAge.filter _, List.pairwise_singleton .., ?_⟩
  intro a ha b hb
  rw [List.mem_singleton.mp hb]
  exact h.past a (List.mem_filter.mp ha).1

theorem Tidy.put (h : s.Tidy) (key : AnswerKey) (answer : CachedAnswer) :
    (s.step (.put key answer)).1.Tidy := by
  have hage := h.byAge_rowWith key answer
  refine ⟨hage.drop, fun e he => ?_, ?_, ?_⟩
  · rcases List.mem_append.mp (List.mem_of_mem_drop he) with he | he
    · exact h.past e (List.mem_filter.mp he).1
    · rw [List.mem_singleton.mp he]
      exact Nat.le_refl _
  · refine List.Pairwise.drop (List.pairwise_append.mpr ⟨h.distinct.filter _,
      List.pairwise_singleton .., ?_⟩)
    intro a ha b hb
    rw [List.mem_singleton.mp hb]
    exact of_decide_eq_true (List.mem_filter.mp ha).2
  · show (List.rtake _ _).length ≤ s.capacity
    rw [List.rtake, List.length_drop]
    omega

theorem Tidy.step (h : s.Tidy) (r : Request) : (s.step r).1.Tidy := by
  cases r with
  | put key answer => exact h.put key answer
  | get key =>
      rw [Shelf.step]
      split
      · split
        · exact ⟨h.byAge, h.past, h.distinct, h.fits⟩
        · obtain ⟨hage, hpast, hdistinct, hfits⟩ := h.keep (·.fingerprint ≠ key.fingerprint)
          exact ⟨hage, hpast, hdistinct, hfits⟩
      · exact ⟨h.byAge, h.past, h.distinct, h.fits⟩
  | purge => exact h.keep _
  | invalidate tenant => exact h.keep _
  | wait d =>
      exact ⟨h.byAge, fun e he => Nat.le_trans (h.past e he) (Nat.le_add_right ..), h.distinct,
        h.fits⟩

theorem Tidy.run (h : s.Tidy) (requests : List Request) : (s.run requests).Tidy := by
  induction requests using List.reverseRecOn with
  | nil => exact h
  | append_singleton requests r ih =>
      rw [run_concat]
      exact ih.step r

/-- What is found on a shelf does not depend on whether it has been purged. -/
theorem Tidy.find?_purged (h : s.Tidy) (fingerprint : String) :
    s.purged.row.find? (·.fingerprint = fingerprint) =
      (s.row.find? (·.fingerprint = fingerprint)).filter s.isFresh :=
  find?_filter_of_distinct h.distinct _ _

theorem step_get_of_none {key : AnswerKey}
    (h : s.row.find? (·.fingerprint = key.fingerprint) = none) :
    s.step (.get key) = ({ s with misses := s.misses + 1 }, .found none) := by
  simp only [Shelf.step, h]

theorem step_get_of_fresh {key : AnswerKey} {e : Shelved}
    (h : s.row.find? (·.fingerprint = key.fingerprint) = some e) (hfresh : s.isFresh e = true) :
    s.step (.get key) = ({ s with hits := s.hits + 1 }, .found (some e.answer)) := by
  simp only [Shelf.step, h, hfresh, if_true]

theorem step_get_of_stale {key : AnswerKey} {e : Shelved}
    (h : s.row.find? (·.fingerprint = key.fingerprint) = some e) (hstale : s.isFresh e = false) :
    s.step (.get key) =
      ({ s.keep (·.fingerprint ≠ key.fingerprint) with misses := s.misses + 1 }, .found none) := by
  simp only [Shelf.step, h, hstale, Bool.false_eq_true, if_false]

/-- Shelves that differ in nothing but old answers are the same when they are purged. -/
theorem purged_congr {s t : Shelf} (hsame : { s with row := [] } = { t with row := [] })
    (hrow : s.row.filter s.isFresh = t.row.filter s.isFresh) : s.purged = t.purged := by
  obtain ⟨ttl, capacity, row, now, hits, misses⟩ := s
  obtain ⟨ttl', capacity', row', now', hits', misses'⟩ := t
  cases hsame
  exact congrArg (fun row => (⟨ttl, capacity, row, now, hits, misses⟩ : Shelf)) hrow

/-- Only what is young enough is left of a purged row. -/
theorem filter_purged (s : Shelf) (p : Shelved → Bool) (hp : ∀ e, p e = true → s.isFresh e = true) :
    s.purged.row.filter p = s.row.filter p := by
  rw [purged, keep, List.filter_filter]
  congr 1
  funext e
  cases hpe : p e with
  | true => rw [hp e hpe, Bool.and_self]
  | false => rw [Bool.false_and]

theorem filter_filter_purged (s : Shelf) (p : Shelved → Bool) :
    (s.purged.row.filter p).filter s.isFresh = (s.row.filter p).filter s.isFresh := by
  rw [List.filter_filter, List.filter_filter, filter_purged]
  exact fun e he => (Bool.and_eq_true_iff.mp he).1

theorem purged_purged (s : Shelf) : s.purged.purged = s.purged :=
  purged_congr rfl (s.filter_purged _ fun _ => id)

/-- Nobody who asks for an answer can tell whether there was a purge before. -/
theorem Tidy.get_purged (h : s.Tidy) (key : AnswerKey) :
    (s.step (.get key)).1.purged = (s.purged.step (.get key)).1.purged ∧
      (s.step (.get key)).2 = (s.purged.step (.get key)).2 := by
  have hfound := h.find?_purged key.fingerprint
  cases hfind : s.row.find? (·.fingerprint = key.fingerprint) with
  | none =>
      rw [hfind] at hfound
      rw [step_get_of_none hfind, step_get_of_none hfound]
      exact ⟨purged_congr rfl (s.filter_purged _ fun _ => id).symm, rfl⟩
  | some e =>
      rw [hfind] at hfound
      cases hfresh : s.isFresh e with
      | true =>
          rw [Option.filter_some_pos hfresh] at hfound
          rw [step_get_of_fresh hfind hfresh, step_get_of_fresh hfound hfresh]
          exact ⟨purged_congr rfl (s.filter_purged _ fun _ => id).symm, rfl⟩
      | false =>
          rw [Option.filter_some_neg (by simp [hfresh])] at hfound
          rw [step_get_of_stale hfind hfresh, step_get_of_none hfound]
          -- No answer that is young enough stands under the fingerprint.
          have hnone : s.purged.row.filter (·.fingerprint ≠ key.fingerprint) = s.purged.row := by
            refine List.filter_eq_self.mpr fun a ha => ?_
            simpa using List.find?_eq_none.mp hfound a ha
          have hrow := s.filter_filter_purged (·.fingerprint ≠ key.fingerprint)
          rw [hnone] at hrow
          exact ⟨purged_congr rfl hrow.symm, rfl⟩

/-- A purge before a request and one after it leave the same. -/
theorem Tidy.purged_step (h : s.Tidy) (r : Request) :
    (s.step r).1.purged = (s.purged.step r).1.purged := by
  have hpurged : s.purged.Tidy := h.keep _
  cases r with
  | put key answer =>
      have hrtake {t : Shelf} (ht : t.Tidy) (hfresh : t.isFresh = s.isFresh) :
          ((t.rowWith key answer).rtake t.capacity).filter s.isFresh =
            ((t.rowWith key answer).filter s.isFresh).rtake t.capacity := by
        refine filter_rtake ?_ _
        rw [← hfresh]
        exact (ht.byAge_rowWith key answer).imp isFresh_of_le
      have hrow : (s.rowWith key answer).filter s.isFresh =
          (s.purged.rowWith key answer).filter s.isFresh := by
        rw [rowWith, rowWith, List.filter_append, List.filter_append, filter_filter_purged]
        rfl
      refine purged_congr rfl ?_
      have hkept := (hrtake h rfl).trans (congrArg (List.rtake · s.capacity) hrow)
      exact hkept.trans (hrtake hpurged rfl).symm
  | get key => exact (h.get_purged key).1
  | purge => exact congrArg purged s.purged_purged.symm
  | invalidate tenant => exact purged_congr rfl (s.filter_filter_purged _).symm
  | wait d =>
      refine purged_congr rfl (s.filter_purged _ fun e he => ?_).symm
      have hage : s.now - e.putAt ≤ s.now + d - e.putAt :=
        Nat.sub_le_sub_right (Nat.le_add_right ..) _
      exact decide_eq_true (Nat.lt_of_le_of_lt hage (of_decide_eq_true he))

/-- A put that takes an answer away which is young enough finds no other. -/
theorem Tidy.all_fresh_of_taken (h : s.Tidy) (key : AnswerKey) (answer : CachedAnswer)
    {e : Shelved} (he : e ∈ s.rowWith key answer) (hfresh : s.isFresh e = true)
    (hgone : e ∉ (s.rowWith key answer).rtake s.capacity) :
    ∀ e' ∈ s.rowWith key answer, s.isFresh e' = true := by
  have hage := h.byAge_rowWith key answer
  have hlength : (s.rowWith key answer).length ≤ s.capacity + 1 := by
    rw [rowWith, List.length_append]
    exact Nat.succ_le_succ ((List.length_filter_le ..).trans h.fits)
  cases hrow : s.rowWith key answer with
  | nil => exact nofun
  | cons first rest =>
      rw [hrow] at he hgone hage hlength
      -- One answer at most is taken away, and that is the first.
      have hkept : ∀ a ∈ rest, a ∈ (first :: rest).rtake s.capacity := by
        intro a ha
        have hdrop : (first :: rest).length - s.capacity ≤ 1 := by omega
        exact List.drop_subset_drop_left (first :: rest) hdrop ha
      rcases List.mem_cons.mp he with rfl | he
      · refine List.forall_mem_cons.mpr ⟨hfresh, fun e' he' => ?_⟩
        exact isFresh_of_le (List.rel_of_pairwise_cons hage he') hfresh
      · exact absurd (hkept e he) hgone

end Step

/-- Purges on the way leave nothing but old answers undone. -/
theorem Tidy.purged_run {s : Shelf} (h : s.Tidy) (requests : List Request) :
    (s.run requests).purged = (s.run (withoutPurges requests)).purged := by
  induction requests using List.reverseRecOn with
  | nil => rfl
  | append_singleton requests r ih =>
      have hstep (r : Request) : ((s.run requests).step r).1.purged =
          ((s.run (withoutPurges requests)).step r).1.purged := by
        rw [(h.run _).purged_step, ih, ← (h.run _).purged_step]
      rw [run_concat, withoutPurges, List.filter_append]
      cases r with
      | purge =>
          show (s.run requests).purged.purged = (s.run (withoutPurges requests ++ [])).purged
          rw [purged_purged, List.append_nil, ih]
      | _ => exact (hstep _).trans (congrArg purged (run_concat ..).symm)

end Shelf

namespace Use

theorem tidy_fresh (ttl : Duration) (maxEntries : Nat) :
    (shelf ⟨AnswerStore.new ttl maxEntries, 0⟩).Tidy := by
  have hrow : (shelf ⟨AnswerStore.new ttl maxEntries, 0⟩).row = [] := by
    simp [shelf, AnswerStore.new, inOrder, EmptyCollection.emptyCollection]
  refine ⟨?_, ?_, ?_, ?_⟩ <;> rw [hrow]
  · exact .nil
  · exact fun _ hmem => absurd hmem List.not_mem_nil
  · exact .nil
  · exact Nat.zero_le _

section Row

variable {u : Use} {fingerprint : String} {e : StoredAnswer}

theorem mem_shelf (h : u.store.entries.get? fingerprint = some e) :
    shelved (fingerprint, e) ∈ u.shelf.row :=
  List.mem_map_of_mem (mem_inOrder.mpr (u.store.entries.get?_eq_some_iff_mem.mp h))

theorem not_mem_shelf {e : Shelved} (h : u.store.entries.get? e.fingerprint = none) :
    e ∉ u.shelf.row := by
  intro hmem
  have hfind := u.find?_shelf e.fingerprint
  rw [h] at hfind
  exact absurd (decide_eq_true rfl) (List.find?_eq_none.mp hfind e hmem)

/-- The entries of a store into which an answer is written, before room is made. -/
theorem mem_rowWith {key : AnswerKey} {answer : CachedAnswer}
    (h : (u.store.entries.insert key.fingerprint
      ⟨key.tenant, answer, u.now, u.store.serial⟩).get? fingerprint = some e) :
    shelved (fingerprint, e) ∈ u.shelf.rowWith key answer := by
  rw [NameMap.get?_insert] at h
  split at h
  · next hkey =>
    cases h
    rw [hkey]
    exact List.mem_append_right _ (List.mem_singleton_self _)
  · next hother =>
    exact List.mem_append_left _ (List.mem_filter.mpr ⟨mem_shelf h, decide_eq_true hother⟩)

end Row

/-- Purges make no difference to what is found. Whatever has been asked of a store, with purges
anywhere in between, the next answer asked for is found or not as it would be without the purges,
and as many answers have been found and not found. If a put takes away an answer of another key that
is young enough, all answers among which it makes room are young enough. -/
theorem purges_unobserved (ttl : Duration) (maxEntries : Nat) (requests : List Request)
    (hfew : requests.countP (· matches .put ..) < UInt64.size) :
    let u := run ⟨AnswerStore.new ttl maxEntries, 0⟩ requests
    let v := run ⟨AnswerStore.new ttl maxEntries, 0⟩ (withoutPurges requests)
    (∀ key, (u.step (.get key)).2 = (v.step (.get key)).2) ∧
    u.store.hits = v.store.hits ∧ u.store.misses = v.store.misses ∧
    ∀ key answer fingerprint e, u.store.entries.get? fingerprint = some e →
      fingerprint ≠ key.fingerprint → u.store.isFresh e u.now = true →
      (u.step (.put key answer)).1.store.entries.get? fingerprint = none →
      ∀ fingerprint' e', (u.store.entries.insert key.fingerprint
          ⟨key.tenant, answer, u.now, u.store.serial⟩).get? fingerprint' = some e' →
        u.store.isFresh e' u.now = true := by
  intro u v
  have hfresh : Ordered ⟨AnswerStore.new ttl maxEntries, 0⟩ 0 :=
    ⟨numbered_empty, rfl, Nat.zero_le _⟩
  have htidy := tidy_fresh ttl maxEntries
  have hfew' : (withoutPurges requests).countP (· matches .put ..) < UInt64.size :=
    Nat.lt_of_le_of_lt (List.Sublist.countP_le List.filter_sublist) hfew
  obtain ⟨hordered, hshelf⟩ := hfresh.run requests hfew
  obtain ⟨hordered', hshelf'⟩ := hfresh.run (withoutPurges requests) hfew'
  have hpurged : u.shelf.purged = v.shelf.purged := by
    rw [hshelf, hshelf', htidy.purged_run]
  have htidyU : u.shelf.Tidy := hshelf ▸ htidy.run requests
  have htidyV : v.shelf.Tidy := hshelf' ▸ htidy.run (withoutPurges requests)
  refine ⟨fun key => ?_, congrArg Shelf.hits hpurged, congrArg Shelf.misses hpurged, ?_⟩
  · have hu := congrArg Prod.snd (shelf_step hordered hfew (.get key))
    have hv := congrArg Prod.snd (shelf_step hordered' hfew' (.get key))
    rw [← hu, ← hv, (htidyU.get_purged key).2, hpurged, ← (htidyV.get_purged key).2]
  · intro key answer fingerprint e hentry hother hyoung hgone fingerprint' e' hentry'
    have hstep := congrArg (fun result => result.1.row) (shelf_step hordered hfew (.put key answer))
    have hmem : shelved (fingerprint, e) ∈ u.shelf.rowWith key answer :=
      List.mem_append_left _ (List.mem_filter.mpr ⟨mem_shelf hentry, decide_eq_true hother⟩)
    have htaken : shelved (fingerprint, e) ∉
        (u.shelf.rowWith key answer).rtake u.shelf.capacity := by
      have hnone := not_mem_shelf (e := shelved (fingerprint, e)) hgone
      exact fun hkept => hnone (hstep ▸ hkept)
    exact htidyU.all_fresh_of_taken key answer hmem hyoung htaken _ (mem_rowWith hentry')

def askedAbout (question : String) : AnswerKey := ⟨"acme", "sales", question, "", ""⟩

/-- An answer that gets too old and goes with a purge, and another one. -/
def purgedTwice : List Request :=
  [.put (askedAbout "total") ⟨"42", "small"⟩, .wait 6, .purge,
    .put (askedAbout "mean") ⟨"7", "small"⟩, .wait 1, .purge, .get (askedAbout "total")]

theorem purged_twice_unobserved :
    let u := run ⟨AnswerStore.new 5 1, 0⟩ purgedTwice
    let later := (u.step (.put (askedAbout "sum") ⟨"50", "small"⟩)).1
    purgedTwice.countP (· matches .put ..) < UInt64.size ∧
      (u.step (.get (askedAbout "mean"))).2 = .found (some ⟨"7", "small"⟩) ∧
      u.store.hits = 0 ∧ u.store.misses = 1 ∧
      later.store.entries.get? (askedAbout "mean").fingerprint = none ∧
      u.store.isFresh ⟨"acme", ⟨"50", "small"⟩, u.now, u.store.serial⟩ u.now = true := by
  intro u later
  have hfew : purgedTwice.countP (· matches .put ..) < UInt64.size := by decide
  obtain ⟨hfound, hhits, hmisses, hroom⟩ := purges_unobserved 5 1 purgedTwice hfew
  let v := run ⟨AnswerStore.new 5 1, 0⟩ (withoutPurges purgedTwice)
  have hwithout : (v.step (.get (askedAbout "mean"))).2 = .found (some ⟨"7", "small"⟩) ∧
      v.store.hits = 0 ∧ v.store.misses = 1 := by decide +kernel
  have hwith : u.store.entries.get? (askedAbout "mean").fingerprint =
        some ⟨"acme", ⟨"7", "small"⟩, 6, 1⟩ ∧
      (askedAbout "mean").fingerprint ≠ (askedAbout "sum").fingerprint ∧
      u.store.isFresh ⟨"acme", ⟨"7", "small"⟩, 6, 1⟩ u.now = true ∧
      later.store.entries.get? (askedAbout "mean").fingerprint = none ∧
      (u.store.entries.insert (askedAbout "sum").fingerprint
        ⟨"acme", ⟨"50", "small"⟩, u.now, u.store.serial⟩).get? (askedAbout "sum").fingerprint =
          some ⟨"acme", ⟨"50", "small"⟩, u.now, u.store.serial⟩ := by decide +kernel
  obtain ⟨hentry, hother, hyoung, hgone, hentry'⟩ := hwith
  refine ⟨hfew, (hfound _).trans hwithout.1, hhits.trans hwithout.2.1, hmisses.trans hwithout.2.2,
    hgone, ?_⟩
  exact hroom (askedAbout "sum") ⟨"50", "small"⟩ _ _ hentry hother hyoung hgone _ _ hentry'

end Use

end AnswerStore

end ResilientChat
