import Mathlib.Data.List.Chain
import Mathlib.Data.List.DropRight
import ResilientChat.Cache.Key
import ResilientChat.Proofs.Text.LowerCase

/-!
The normal form of a question. It is a text of words in lower case with one space between them. The
marks at its end are dropped once, and so are the blanks before them; marks that stand before those
blanks stay. So the form is final, and free of marks at its end, for the questions that end in at
most one run of marks, and among those it depends on the words only.
-/

namespace ResilientChat

namespace Question

open Text

/-! Ends of texts. -/

section Ends

variable {p : Char → Bool} {cs ds : List Char} {c : Char}

@[simp] theorem endsIn_nil : endsIn p [] = false := rfl

theorem endsIn_append (h : ds ≠ []) : endsIn p (cs ++ ds) = endsIn p ds := by
  rw [endsIn, List.getLast?_append, endsIn, List.getLast?_eq_some_getLast h]
  rfl

theorem endsIn_of_forall (hne : cs ≠ []) {b : Bool} (h : ∀ c ∈ cs, p c = b) :
    endsIn p cs = b := by
  rw [endsIn, List.getLast?_eq_some_getLast hne]
  exact h _ (List.getLast_mem hne)

theorem endsIn_or (p q : Char → Bool) (cs : List Char) :
    endsIn (fun c => p c || q c) cs = (endsIn p cs || endsIn q cs) := by
  unfold endsIn
  cases cs.getLast? <;> rfl

theorem dropTrailing_append (h : ∀ d ∈ ds, p d = true) :
    dropTrailing p (cs ++ ds) = dropTrailing p cs := by
  rw [dropTrailing, List.reverse_append, List.dropWhile_append_of_pos, dropTrailing]
  simpa using h

theorem dropTrailing_of_endsIn (h : endsIn p cs = false) : dropTrailing p cs = cs := by
  refine List.rdropWhile_eq_self_iff.mpr fun hne => ?_
  rw [endsIn, List.getLast?_eq_some_getLast hne] at h
  exact Bool.eq_false_iff.mp h

theorem endsIn_dropTrailing (p : Char → Bool) (cs : List Char) :
    endsIn p (dropTrailing p cs) = false := by
  by_cases hne : dropTrailing p cs = []
  · rw [hne, endsIn_nil]
  · rw [endsIn, List.getLast?_eq_some_getLast hne]
    exact Bool.eq_false_iff.mpr (List.rdropWhile_last_not p cs hne)

/-- What was dropped. -/
theorem exists_eq_dropTrailing_append (p : Char → Bool) (cs : List Char) :
    ∃ ds, cs = dropTrailing p cs ++ ds ∧ ∀ d ∈ ds, p d = true :=
  ⟨cs.rtakeWhile p, List.rdropWhile_append_rtakeWhile.symm, fun _ => List.mem_rtakeWhile_imp⟩

theorem length_dropTrailing_le (p : Char → Bool) (cs : List Char) :
    (dropTrailing p cs).length ≤ cs.length :=
  (List.rdropWhile_prefix p cs).length_le

theorem length_dropTrailing_lt (h : endsIn p cs = true) :
    (dropTrailing p cs).length < cs.length := by
  refine Nat.lt_of_le_of_ne (length_dropTrailing_le p cs) fun hlen => ?_
  have hsame : dropTrailing p cs = cs := (List.rdropWhile_prefix p cs).eq_of_length hlen
  rw [← hsame, endsIn_dropTrailing] at h
  cases h

end Ends

theorem isSentenceEnd_of_isBlank {c : Char} (h : isBlank c = true) : isSentenceEnd c = false := by
  rw [Bool.eq_false_iff]
  intro hmark
  simp only [isSentenceEnd, Bool.or_eq_true, decide_eq_true_eq] at hmark
  rcases hmark with (rfl | rfl) | rfl <;> revert h <;> decide

theorem isBlank_of_isSentenceEnd {c : Char} (h : isSentenceEnd c = true) : isBlank c = false := by
  rw [Bool.eq_false_iff]
  intro hblank
  rw [isSentenceEnd_of_isBlank hblank] at h
  cases h

/-! Words with one space between them. -/

section Collapse

variable {c : Char} {cs ds : List Char}

def startsIn (p : Char → Bool) (cs : List Char) : Bool := cs.head?.any p

/-- The pieces between blanks, the first of which may be empty. -/
theorem exists_pieces (cs : List Char) : ∃ pieces,
    cs.foldr consWord [[]] = cs.takeWhile (fun c => !isBlank c) :: pieces ∧
      (cs = [] → pieces = []) := by
  cases cs with
  | nil => exact ⟨[], rfl, fun _ => rfl⟩
  | cons c rest =>
      obtain ⟨pieces, hpieces, -⟩ := exists_pieces rest
      rw [List.foldr_cons, hpieces, consWord]
      cases hblank : isBlank c
      · exact ⟨pieces, by simp [hblank], nofun⟩
      · exact ⟨rest.takeWhile (fun c => !isBlank c) :: pieces, by simp [hblank], nofun⟩

theorem words_cons_of_isBlank (h : isBlank c = true) : words (c :: cs) = words cs := by
  obtain ⟨pieces, hpieces, -⟩ := exists_pieces cs
  rw [words, List.foldr_cons, hpieces, consWord, if_pos h, words, hpieces]
  rfl

@[simp] theorem collapse_nil : collapse [] = [] := rfl

theorem collapse_cons_of_isBlank (h : isBlank c = true) : collapse (c :: cs) = collapse cs := by
  rw [collapse, words_cons_of_isBlank h, collapse]

/-- The space that is left in front of a text, if the text starts a new word. -/
def gap (cs : List Char) : List Char :=
  if startsIn isBlank cs && !(collapse cs).isEmpty then [' '] else []

theorem intercalate_cons_char (c : Char) (word : List Char) (others : List (List Char)) :
    [' '].intercalate ((c :: word) :: others) = c :: [' '].intercalate (word :: others) := by
  cases others <;> simp [List.intercalate_cons_cons]

theorem gap_eq_nil (h : startsIn isBlank cs = false) : gap cs = [] := by rw [gap, h]; rfl

theorem collapse_cons (h : isBlank c = false) :
    collapse (c :: cs) = c :: (gap cs ++ collapse cs) := by
  obtain ⟨pieces, hpieces, hnil⟩ := exists_pieces cs
  have hwords : words (c :: cs) =
      (c :: cs.takeWhile fun c => !isBlank c) :: pieces.filter fun word => !word.isEmpty := by
    rw [words, List.foldr_cons, hpieces, consWord, h]
    rfl
  have hrest : words cs = (cs.takeWhile (fun c => !isBlank c) :: pieces).filter
      fun word => !word.isEmpty := by rw [words, hpieces]
  cases cs with
  | nil =>
      rw [collapse, hwords, hnil rfl]
      rfl
  | cons b rest =>
      cases hb : isBlank b
      · -- The character belongs to the word that follows.
        have hgap : gap (b :: rest) = [] := gap_eq_nil hb
        have htake : (b :: rest).takeWhile (fun c => !isBlank c) =
            b :: rest.takeWhile fun c => !isBlank c := by simp [hb]
        rw [htake] at hwords hrest
        rw [hgap, List.nil_append, collapse, collapse, hwords, hrest, intercalate_cons_char]
        rfl
      · have htake : (b :: rest).takeWhile (fun c => !isBlank c) = [] := by simp [hb]
        rw [htake] at hwords hrest
        have hrest : words (b :: rest) = pieces.filter fun word => !word.isEmpty := hrest
        rw [collapse, hwords, ← hrest, gap, collapse]
        cases hothers : words (b :: rest) with
        | nil => simp
        | cons word others =>
            have hword : word ≠ [] := by
              have hmem : word ∈ words (b :: rest) := hothers ▸ List.mem_cons_self ..
              rw [hrest] at hmem
              simpa using (List.mem_filter.mp hmem).2
            have hfull : (List.intercalate [' '] (word :: others)).isEmpty = false := by
              cases others with
              | nil => simpa using hword
              | cons => simp [List.intercalate_cons_cons]
            have hstarts : startsIn isBlank (b :: rest) = true := hb
            rw [hfull, hstarts, List.intercalate_cons_cons]
            rfl

theorem collapse_eq_nil_iff : collapse cs = [] ↔ ∀ c ∈ cs, isBlank c = true := by
  induction cs with
  | nil => simp
  | cons c rest ih =>
      cases hblank : isBlank c
      · simp [collapse_cons hblank, hblank]
      · simp [collapse_cons_of_isBlank hblank, hblank, ih]

/-- A text that ends in no blank has a word in it. -/
theorem collapse_ne_nil (h : endsIn isBlank cs = false) (hne : cs ≠ []) : collapse cs ≠ [] := by
  intro hnil
  rw [endsIn_of_forall hne (collapse_eq_nil_iff.mp hnil)] at h
  cases h

/-- Words of the first text stay apart from those of the second. -/
theorem collapse_append (h : endsIn isBlank cs = false) (hne : cs ≠ []) (ds : List Char) :
    collapse (cs ++ ds) = collapse cs ++ (gap ds ++ collapse ds) := by
  induction cs with
  | nil => exact absurd rfl hne
  | cons c rest ih =>
      cases rest with
      | nil =>
          have hblank : isBlank c = false := h
          rw [List.singleton_append, collapse_cons hblank, collapse_cons hblank]
          rfl
      | cons b rest =>
          have hne : b :: rest ≠ [] := List.cons_ne_nil b rest
          have hlast : endsIn isBlank (b :: rest) = false := h
          have hwhole := ih hlast hne
          cases hblank : isBlank c
          · have hgap : gap (b :: rest ++ ds) = gap (b :: rest) := by
              have hcollapse := collapse_ne_nil hlast hne
              have hstarts : startsIn isBlank (b :: rest ++ ds) =
                  startsIn isBlank (b :: rest) := rfl
              rw [gap, gap, hstarts, hwhole]
              simp [hcollapse]
            rw [List.cons_append, collapse_cons hblank, hgap, hwhole, collapse_cons hblank]
            simp
          · rw [List.cons_append, collapse_cons_of_isBlank hblank, hwhole,
              collapse_cons_of_isBlank hblank]

theorem collapse_append_blanks (h : ∀ d ∈ ds, isBlank d = true) :
    collapse (cs ++ ds) = collapse cs := by
  induction cs with
  | nil => exact collapse_eq_nil_iff.mpr h
  | cons c rest ih =>
      cases hblank : isBlank c
      · have hgap : gap (rest ++ ds) = gap rest := by
          rw [gap, gap, ih]
          cases rest with
          | nil => simp
          | cons b rest => rfl
        rw [List.cons_append, collapse_cons hblank, hgap, ih, collapse_cons hblank]
      · rw [List.cons_append, collapse_cons_of_isBlank hblank, ih, collapse_cons_of_isBlank hblank]

theorem collapse_blanks_append (h : ∀ d ∈ ds, isBlank d = true) :
    collapse (ds ++ cs) = collapse cs := by
  induction ds with
  | nil => rfl
  | cons d rest ih =>
      rw [List.cons_append, collapse_cons_of_isBlank (h d (List.mem_cons_self ..)),
        ih fun d hd => h d (List.mem_cons_of_mem _ hd)]

theorem endsIn_collapse {p : Char → Bool} (h : endsIn isBlank cs = false) :
    endsIn p (collapse cs) = endsIn p cs := by
  induction cs with
  | nil => rfl
  | cons c rest ih =>
      cases rest with
      | nil =>
          have hblank : isBlank c = false := h
          rw [collapse_cons hblank]
          rfl
      | cons b rest =>
          have hlast : endsIn isBlank (b :: rest) = false := h
          have hwhole : endsIn p (c :: b :: rest) = endsIn p (b :: rest) := rfl
          have hne := collapse_ne_nil hlast (List.cons_ne_nil b rest)
          rw [hwhole, ← ih hlast]
          cases hblank : isBlank c
          · rw [collapse_cons hblank, ← List.cons_append, endsIn_append hne]
          · rw [collapse_cons_of_isBlank hblank]

/-- White space is one space between words and nothing else. -/
structure Spaced (cs : List Char) : Prop where
  first : startsIn isBlank cs = false
  last : endsIn isBlank cs = false
  apart : cs.IsChain fun a b => isBlank a = true → isBlank b = false
  plain : ∀ c ∈ cs, isBlank c = true → c = ' '

/-- A blank-free start and a spaced text. -/
theorem Spaced.cons (h : isBlank c = false) (hs : Spaced cs) : Spaced (c :: cs) := by
  refine ⟨h, ?_, List.isChain_cons.mpr ⟨fun b _ hc => absurd hc (by simp [h]), hs.apart⟩, ?_⟩
  · cases cs with
    | nil => exact h
    | cons => exact hs.last
  · intro b hb hblank
    rcases List.mem_cons.mp hb with rfl | hb
    · rw [h] at hblank
      cases hblank
    · exact hs.plain b hb hblank

theorem Spaced.cons_space (h : isBlank c = false) (hs : Spaced cs) (hne : cs ≠ []) :
    Spaced (c :: ' ' :: cs) := by
  obtain ⟨b, rest, rfl⟩ := List.exists_cons_of_ne_nil hne
  have hb : isBlank b = false := hs.first
  refine ⟨h, hs.last, ?_, ?_⟩
  · exact .cons_cons (fun hc => absurd hc (by simp [h])) (.cons_cons (fun _ => hb) hs.apart)
  · intro a ha hblank
    rcases List.mem_cons.mp ha with rfl | ha
    · rw [h] at hblank
      cases hblank
    · rcases List.mem_cons.mp ha with rfl | ha
      · rfl
      · exact hs.plain a ha hblank

theorem spaced_of_forall (h : ∀ c ∈ cs, isBlank c = false) : Spaced cs := by
  induction cs with
  | nil => exact ⟨rfl, rfl, .nil, nofun⟩
  | cons c rest ih =>
      exact (ih fun c hc => h c (List.mem_cons_of_mem _ hc)).cons (h c (List.mem_cons_self ..))

theorem spaced_collapse (cs : List Char) : Spaced (collapse cs) := by
  induction cs with
  | nil => exact ⟨rfl, rfl, .nil, nofun⟩
  | cons c rest ih =>
      cases hblank : isBlank c
      · rw [collapse_cons hblank, gap]
        split
        · next hgap => exact ih.cons_space hblank (by simpa using (Bool.and_eq_true_iff.mp hgap).2)
        · exact ih.cons hblank
      · rw [collapse_cons_of_isBlank hblank]
        exact ih

/-- In a text whose blanks are single spaces only the one at the front can go. -/
theorem collapse_eq_dropWhile (hlast : endsIn isBlank cs = false)
    (hapart : cs.IsChain fun a b => isBlank a = true → isBlank b = false)
    (hplain : ∀ c ∈ cs, isBlank c = true → c = ' ') :
    collapse cs = cs.dropWhile isBlank := by
  induction cs with
  | nil => rfl
  | cons c rest ih =>
      obtain ⟨hnext, hapart⟩ := List.isChain_cons.mp hapart
      have hplain' := fun b hb => hplain b (List.mem_cons_of_mem c hb)
      have hlast' : endsIn isBlank rest = false := by
        cases rest with
        | nil => rfl
        | cons => exact hlast
      have hrest := ih hlast' hapart hplain'
      cases hblank : isBlank c
      · rw [collapse_cons hblank, hrest, List.dropWhile_cons_of_neg (by simp [hblank])]
        cases rest with
        | nil => rfl
        | cons b rest =>
            cases hb : isBlank b
            · have hgap : gap (b :: rest) = [] := gap_eq_nil hb
              rw [hgap, List.dropWhile_cons_of_neg (by simp [hb])]
              rfl
            · obtain rfl := hplain' b (List.mem_cons_self ..) hb
              have hgap : gap (' ' :: rest) = [' '] := by
                have hne := collapse_ne_nil hlast' (List.cons_ne_nil ' ' rest)
                have hstarts : startsIn isBlank (' ' :: rest) = true := hb
                simp [gap, hstarts, hne]
              have hnext : rest.dropWhile isBlank = rest := by
                cases rest with
                | nil => rfl
                | cons d rest =>
                    have hd := (List.isChain_cons.mp hapart).1 d rfl hb
                    exact List.dropWhile_cons_of_neg (by simp [hd])
              rw [hgap, List.dropWhile_cons_of_pos hb, hnext]
              rfl
      · rw [collapse_cons_of_isBlank hblank, hrest, List.dropWhile_cons_of_pos hblank]

theorem Spaced.collapse_eq (hs : Spaced cs) : collapse cs = cs := by
  rw [collapse_eq_dropWhile hs.last hs.apart hs.plain]
  cases cs with
  | nil => rfl
  | cons c rest =>
      have hblank : isBlank c = false := hs.first
      rw [List.dropWhile_cons_of_neg (by simp [hblank])]

end Collapse

/-! The passes over a text. -/

section Passes

variable {cs ds : List Char}

theorem caseless_isSentenceEnd : Caseless isSentenceEnd := by
  have hranges : Caseless (Ranges.holds [(33, 33), (46, 46), (63, 63)]) :=
    Ranges.caseless (by decide +kernel)
  intro c hcase
  have hmiss := hranges c hcase
  rw [Bool.eq_false_iff]
  intro hmark
  simp only [isSentenceEnd, Bool.or_eq_true, decide_eq_true_eq] at hmark
  rcases hmark with (rfl | rfl) | rfl <;> revert hmiss <;> decide

theorem startsIn_lowerFrom {p : Char → Bool} (hp : Caseless p) (before : List Char) :
    startsIn p (lowerFrom before cs) = startsIn p cs := by
  cases cs with
  | nil => rfl
  | cons c rest =>
      rw [lowerFrom_cons]
      obtain ⟨d, ds, hds⟩ := List.exists_cons_of_ne_nil
        (loweredAt_ne_nil : loweredAt before c rest ≠ [])
      have hclass : p d = p c := hp.of_mem_loweredAt (hds ▸ List.mem_cons_self ..)
      rw [hds]
      exact hclass

theorem chain_lowerFrom (before : List Char)
    (h : cs.IsChain fun a b => isBlank a = true → isBlank b = false) :
    (lowerFrom before cs).IsChain fun a b => isBlank a = true → isBlank b = false := by
  induction cs generalizing before with
  | nil => exact .nil
  | cons c rest ih =>
      obtain ⟨hnext, hrest⟩ := List.isChain_cons.mp h
      have hclass {d : Char} (hd : d ∈ loweredAt before c rest) : isBlank d = isBlank c :=
        caseless_isBlank.of_mem_loweredAt hd
      rw [lowerFrom_cons, List.isChain_append]
      refine ⟨?_, ih _ hrest, ?_⟩
      · cases hblank : isBlank c
        · refine List.Pairwise.isChain (List.pairwise_of_forall_mem_list fun a _ b hb _ => ?_)
          rw [hclass hb, hblank]
        · rw [loweredAt_of_settled (caseless_isBlank.settled hblank)]
          exact .singleton c
      · intro a ha b hb hblank
        rw [hclass (List.mem_of_mem_getLast? ha)] at hblank
        have hstart : startsIn isBlank rest = false := by
          cases rest with
          | nil => rfl
          | cons d _ => exact hnext d rfl hblank
        rw [← startsIn_lowerFrom caseless_isBlank (c :: before), startsIn, hb] at hstart
        exact hstart

/-- A blank is left as it is. -/
theorem mem_of_mem_lowerFrom {before : List Char} {d : Char} (h : d ∈ lowerFrom before cs)
    (hblank : isBlank d = true) : d ∈ cs := by
  induction cs generalizing before with
  | nil => cases h
  | cons c rest ih =>
      rw [lowerFrom_cons] at h
      rcases List.mem_append.mp h with hhead | hrest
      · have hc : isBlank c = true := caseless_isBlank.of_mem_loweredAt hhead ▸ hblank
        rw [loweredAt_of_settled (caseless_isBlank.settled hc)] at hhead
        exact List.mem_singleton.mp hhead ▸ List.mem_cons_self ..
      · exact List.mem_cons_of_mem c (ih hrest)

theorem Spaced.lowerFrom (hs : Spaced cs) (before : List Char) : Spaced (lowerFrom before cs) where
  first := (startsIn_lowerFrom caseless_isBlank before).trans hs.first
  last := caseless_isBlank.endsIn_lowerFrom.trans hs.last
  apart := chain_lowerFrom before hs.apart
  plain d hd hblank := hs.plain d (mem_of_mem_lowerFrom hd hblank) hblank

def normalChars (cs : List Char) : List Char :=
  dropTrailing isBlank (dropTrailing isSentenceEnd (Text.lowerFrom [] (collapse cs)))

theorem toList_normalize (q : String) : (normalize q).toList = normalChars q.toList := by
  simp [normalize, lower, normalChars]

/-- A question without the blanks, then marks, then blanks at its end. -/
def stripped (cs : List Char) : List Char :=
  dropTrailing isBlank (dropTrailing isSentenceEnd (dropTrailing isBlank cs))

theorem endsIn_stripped (cs : List Char) : endsIn isBlank (stripped cs) = false :=
  endsIn_dropTrailing isBlank _

/-- What was stripped. -/
theorem exists_ending (cs : List Char) : ∃ blanks marks others : List Char,
    cs = stripped cs ++ blanks ++ marks ++ others ∧ (∀ c ∈ blanks, isBlank c = true) ∧
      (∀ c ∈ marks, isSentenceEnd c = true) ∧ (∀ c ∈ others, isBlank c = true) ∧
      endsIn isSentenceEnd (stripped cs ++ blanks) = false ∧
      endsIn isBlank (stripped cs ++ blanks ++ marks) = false := by
  obtain ⟨others, hcs, hothers⟩ := exists_eq_dropTrailing_append isBlank cs
  obtain ⟨marks, htext, hmarks⟩ :=
    exists_eq_dropTrailing_append isSentenceEnd (dropTrailing isBlank cs)
  obtain ⟨blanks, hunmarked, hblanks⟩ := exists_eq_dropTrailing_append isBlank
    (dropTrailing isSentenceEnd (dropTrailing isBlank cs))
  rw [← stripped] at hunmarked
  refine ⟨blanks, marks, others, ?_, hblanks, hmarks, hothers, ?_, ?_⟩
  · rw [← hunmarked, ← htext, ← hcs]
  · rw [← hunmarked]
    exact endsIn_dropTrailing ..
  · rw [← hunmarked, ← htext]
    exact endsIn_dropTrailing ..

/-- Lower case leaves alone what stands without case at the end. -/
theorem lowerFrom_append_marks {before space marks : List Char} (hspace : ∀ c ∈ space, c = ' ')
    (hmarks : ∀ c ∈ marks, isSentenceEnd c = true) :
    Text.lowerFrom before (cs ++ (space ++ marks)) =
      Text.lowerFrom before cs ++ (space ++ marks) := by
  have hforms : ∀ c ∈ space ++ marks, c = ' ' ∨ c = '?' ∨ c = '!' ∨ c = '.' := by
    intro c hc
    rcases List.mem_append.mp hc with hc | hc
    · exact .inl (hspace c hc)
    · exact .inr (by simpa [isSentenceEnd, or_assoc] using hmarks c hc)
  refine lowerFrom_append (fun c hc => ?_) (fun c hc => ?_)
  · rcases hforms c hc with rfl | rfl | rfl | rfl <;> decide +kernel
  · rcases hforms c hc with rfl | rfl | rfl | rfl <;> decide +kernel

theorem gap_spaces (cs : List Char) : ∀ c ∈ gap cs, c = ' ' := by
  intro c hc
  unfold gap at hc
  split at hc
  · exact List.mem_singleton.mp hc
  · cases hc

/-- A collapsed text ends in its marks, with a space before them if they stand on their own. -/
theorem exists_gap {core blanks marks : List Char} (hblanks : ∀ c ∈ blanks, isBlank c = true)
    (hmarks : ∀ c ∈ marks, isSentenceEnd c = true) (hcore : endsIn isBlank core = false)
    (hunmarked : endsIn isSentenceEnd (core ++ blanks) = false)
    (hlast : endsIn isBlank (core ++ blanks ++ marks) = false) :
    ∃ space : List Char, collapse (core ++ blanks ++ marks) = collapse core ++ (space ++ marks) ∧
      (∀ c ∈ space, c = ' ') ∧ (space = [] → endsIn isSentenceEnd core = false) := by
  have hwords : collapse (blanks ++ marks) = marks := by
    rw [collapse_blanks_append hblanks]
    exact (spaced_of_forall fun c hc => isBlank_of_isSentenceEnd (hmarks c hc)).collapse_eq
  rw [List.append_assoc]
  by_cases hne : core = []
  · subst hne
    exact ⟨[], hwords, nofun, fun _ => rfl⟩
  · refine ⟨gap (blanks ++ marks), ?_, gap_spaces _, fun hgap => ?_⟩
    · rw [collapse_append hcore hne, hwords]
    · cases blanks with
      | nil => rwa [List.append_nil] at hunmarked
      | cons b rest =>
          -- Blanks without marks after them would have been dropped.
          have hb : isBlank b = true := hblanks b (List.mem_cons_self ..)
          have hmarks : marks = [] := by
            have hstarts : startsIn isBlank (b :: rest ++ marks) = true := hb
            rw [gap, hstarts, hwords] at hgap
            simpa using hgap
          rw [hmarks, List.append_nil, endsIn_append (List.cons_ne_nil b rest),
            endsIn_of_forall (List.cons_ne_nil b rest) hblanks] at hlast
          cases hlast

/-- What is dropped at the end may as well be dropped first. -/
theorem normalChars_eq (cs : List Char) :
    normalChars cs = Text.lowerFrom [] (collapse (stripped cs)) := by
  obtain ⟨blanks, marks, others, hcs, hblanks, hmarks, hothers, hunmarked, hlast⟩ :=
    exists_ending cs
  have hcore := endsIn_stripped cs
  rw [normalChars]
  conv_lhs => rw [hcs, collapse_append_blanks hothers]
  generalize stripped cs = core at hcore hunmarked hlast ⊢
  obtain ⟨space, hcollapse, hspace, hnone⟩ := exists_gap hblanks hmarks hcore hunmarked hlast
  have hblank : endsIn isBlank (Text.lowerFrom [] (collapse core)) = false := by
    rw [caseless_isBlank.endsIn_lowerFrom, endsIn_collapse hcore, hcore]
  rw [hcollapse, lowerFrom_append_marks hspace hmarks, ← List.append_assoc,
    dropTrailing_append hmarks]
  by_cases hempty : space = []
  · have hmark : endsIn isSentenceEnd (Text.lowerFrom [] (collapse core)) = false := by
      rw [caseless_isSentenceEnd.endsIn_lowerFrom, endsIn_collapse hcore, hnone hempty]
    rw [hempty, List.append_nil, dropTrailing_of_endsIn hmark, dropTrailing_of_endsIn hblank]
  · -- Marks before the space are out of reach.
    have hmark : endsIn isSentenceEnd (Text.lowerFrom [] (collapse core) ++ space) = false := by
      rw [endsIn_append hempty]
      exact endsIn_of_forall hempty fun c hc => by rw [hspace c hc]; rfl
    rw [dropTrailing_of_endsIn hmark, dropTrailing_append fun c hc => by rw [hspace c hc]; rfl,
      dropTrailing_of_endsIn hblank]

theorem spaced_normalChars (cs : List Char) : Spaced (normalChars cs) := by
  rw [normalChars_eq]
  exact (spaced_collapse _).lowerFrom []

theorem endsIn_normalChars (cs : List Char) :
    endsIn isSentenceEnd (normalChars cs) = endsIn isSentenceEnd (stripped cs) := by
  rw [normalChars_eq, caseless_isSentenceEnd.endsIn_lowerFrom,
    endsIn_collapse (endsIn_stripped cs)]

/-- Of what is spaced and in lower case only marks can be dropped. -/
theorem normalChars_normalChars (cs : List Char) :
    normalChars (normalChars cs) = normalChars cs ↔
      endsIn isSentenceEnd (normalChars cs) = false := by
  have hspaced := spaced_normalChars cs
  have hlower : Text.lowerFrom [] (normalChars cs) = normalChars cs := by
    rw [normalChars_eq, lowerFrom_lowerFrom]
  have hpasses : normalChars (normalChars cs) =
      dropTrailing isBlank (dropTrailing isSentenceEnd (normalChars cs)) := by
    conv_lhs => rw [normalChars, hspaced.collapse_eq, hlower]
  rw [hpasses]
  constructor
  · intro hsame
    rw [Bool.eq_false_iff]
    intro hmark
    have hshort := (length_dropTrailing_le isBlank _).trans_lt (length_dropTrailing_lt hmark)
    rw [hsame] at hshort
    exact hshort.false
  · intro hmark
    rw [dropTrailing_of_endsIn hmark, dropTrailing_of_endsIn hspaced.last]

end Passes

/-! Questions that end once. -/

section Endings

variable {cs ds : List Char}

def body (cs : List Char) : List Char := dropTrailing (fun c => isBlank c || isSentenceEnd c) cs

/-- The marks at the end of a question stand together. -/
def EndsOnce (cs : List Char) : Prop :=
  ∃ blanks marks others : List Char, cs = body cs ++ (blanks ++ marks ++ others) ∧
    (∀ c ∈ blanks, isBlank c = true) ∧ (∀ c ∈ marks, isSentenceEnd c = true) ∧
      ∀ c ∈ others, isBlank c = true

/-- The words are the same up to the capitals of ASCII. -/
def SameWords (cs ds : List Char) : Prop :=
  (words cs).map (List.map Char.toLower) = (words ds).map (List.map Char.toLower)

instance : Decidable (SameWords cs ds) := inferInstanceAs (Decidable (_ = _))

theorem endsIn_body (cs : List Char) :
    endsIn isBlank (body cs) = false ∧ endsIn isSentenceEnd (body cs) = false := by
  have hlast := endsIn_dropTrailing (fun c => isBlank c || isSentenceEnd c) cs
  rwa [← body, endsIn_or, Bool.or_eq_false_iff] at hlast

theorem EndsOnce.stripped_eq (h : EndsOnce cs) : stripped cs = body cs := by
  obtain ⟨blanks, marks, others, hcs, hblanks, hmarks, hothers⟩ := h
  obtain ⟨hblank, hmark⟩ := endsIn_body cs
  generalize body cs = core at hcs hblank hmark ⊢
  have hcore : dropTrailing isBlank (dropTrailing isSentenceEnd (core ++ blanks)) = core := by
    by_cases hempty : blanks = []
    · rw [hempty, List.append_nil, dropTrailing_of_endsIn hmark, dropTrailing_of_endsIn hblank]
    · have hend : endsIn isSentenceEnd (core ++ blanks) = false := by
        rw [endsIn_append hempty]
        exact endsIn_of_forall hempty fun c hc => isSentenceEnd_of_isBlank (hblanks c hc)
      rw [dropTrailing_of_endsIn hend, dropTrailing_append hblanks, dropTrailing_of_endsIn hblank]
  rw [stripped, hcs, ← List.append_assoc, dropTrailing_append hothers, ← List.append_assoc]
  by_cases hempty : marks = []
  · rw [hempty, List.append_nil, dropTrailing_append hblanks, dropTrailing_of_endsIn hblank,
      dropTrailing_of_endsIn hmark, dropTrailing_of_endsIn hblank]
  · have hend : endsIn isBlank (core ++ blanks ++ marks) = false := by
      rw [endsIn_append hempty]
      exact endsIn_of_forall hempty fun c hc => isBlank_of_isSentenceEnd (hmarks c hc)
    rw [dropTrailing_of_endsIn hend, dropTrailing_append hmarks, hcore]

theorem endsOnce_iff : EndsOnce cs ↔ endsIn isSentenceEnd (stripped cs) = false := by
  constructor
  · intro h
    rw [h.stripped_eq]
    exact (endsIn_body cs).2
  · intro hmark
    obtain ⟨blanks, marks, others, hcs, hblanks, hmarks, hothers, -, -⟩ := exists_ending cs
    have hwhole : cs = stripped cs ++ (blanks ++ marks ++ others) := by
      rw [← List.append_assoc, ← List.append_assoc, ← hcs]
    have hmixed : ∀ c ∈ blanks ++ marks ++ others, (isBlank c || isSentenceEnd c) = true := by
      intro c hc
      simp only [List.mem_append] at hc
      rcases hc with (hc | hc) | hc
      · simp [hblanks c hc]
      · simp [hmarks c hc]
      · simp [hothers c hc]
    have hbody : body cs = stripped cs := by
      have hend : endsIn (fun c => isBlank c || isSentenceEnd c) (stripped cs) = false := by
        rw [endsIn_or, endsIn_stripped, hmark]
        rfl
      conv_lhs => rw [body, hwhole, dropTrailing_append hmixed, dropTrailing_of_endsIn hend]
    exact ⟨blanks, marks, others, hbody ▸ hwhole, hblanks, hmarks, hothers⟩

theorem SameWords.collapse_eq (h : SameWords cs ds) :
    (collapse cs).map Char.toLower = (collapse ds).map Char.toLower := by
  have hmap : ∀ ws : List (List Char), ([' '].intercalate ws).map Char.toLower =
      [' '].intercalate (ws.map (List.map Char.toLower)) := by
    intro ws
    induction ws with
    | nil => rfl
    | cons word others ih =>
        cases others with
        | nil => simp
        | cons next others =>
            rw [List.intercalate_cons_cons, List.map_append, List.map_append, ih]
            exact List.intercalate_cons_cons.symm
  rw [collapse, collapse, hmap, hmap, h]

theorem SameWords.normalChars_eq (h : SameWords (body cs) (body ds)) (hcs : EndsOnce cs)
    (hds : EndsOnce ds) : normalChars cs = normalChars ds := by
  rw [Question.normalChars_eq, Question.normalChars_eq, hcs.stripped_eq, hds.stripped_eq,
    ← lowerFrom_map_toLower, h.collapse_eq, lowerFrom_map_toLower]

theorem question_ofQuestion (tenant module q : String) (tools : List String)
    (plan : Option Json.Value) :
    (AnswerKey.ofQuestion tenant module q tools plan).question = normalize q := rfl

/-- The normal form of a question is one of words with one space between them. It is final, and
ends in no mark, exactly if the marks at the end of the question stand together. A question has
the key of such a question with the same words exactly if its own marks stand together. -/
theorem normal_form_final_iff (q : String) :
    Spaced (normalize q).toList ∧
      (endsIn isSentenceEnd (normalize q).toList = false ↔ EndsOnce q.toList) ∧
      (normalize (normalize q) = normalize q ↔ EndsOnce q.toList) ∧
      ∀ (r tenant module : String) (tools : List String) (plan : Option Json.Value),
        SameWords (body q.toList) (body r.toList) → EndsOnce r.toList →
          (AnswerKey.ofQuestion tenant module q tools plan =
              AnswerKey.ofQuestion tenant module r tools plan ↔ EndsOnce q.toList) := by
  have hmark : endsIn isSentenceEnd (normalize q).toList = false ↔ EndsOnce q.toList := by
    rw [toList_normalize, endsIn_normalChars, endsOnce_iff]
  refine ⟨?_, hmark, ?_, fun r tenant module tools plan hwords hr => ⟨fun hkey => ?_, fun hq => ?_⟩⟩
  · rw [toList_normalize]
    exact spaced_normalChars _
  · rw [← hmark, ← String.toList_inj, toList_normalize, toList_normalize, normalChars_normalChars]
  · have hform := congrArg AnswerKey.question hkey
    rw [question_ofQuestion, question_ofQuestion] at hform
    rw [← hmark, hform, toList_normalize, endsIn_normalChars]
    exact endsOnce_iff.mp hr
  · have hform : normalize q = normalize r := by
      rw [← String.toList_inj, toList_normalize, toList_normalize, hwords.normalChars_eq hq hr]
    rw [AnswerKey.ofQuestion, hform, AnswerKey.ofQuestion]

/-- Marks on both sides of a blank: only those after it are dropped, so the form ends in a mark and
is not final, and the question has not the key of its one word. -/
theorem parted_marks_stay :
    normalize "a ? !" = "a ?" ∧ normalize (normalize "a ? !") = "a" ∧
      SameWords (body "a ? !".toList) (body "a".toList) ∧
      AnswerKey.ofQuestion "t" "m" "a ? !" [] none ≠ AnswerKey.ofQuestion "t" "m" "a" [] none := by
  have hform : normalize "a ? !" = "a ?" := by decide +kernel
  have hword : normalize "a" = "a" := by decide +kernel
  refine ⟨hform, by decide +kernel, by decide +kernel, fun hkey => ?_⟩
  have hquestion := congrArg AnswerKey.question hkey
  rw [question_ofQuestion, question_ofQuestion, hform, hword] at hquestion
  exact absurd hquestion (by decide)

theorem customers_asked_for_twice :
    SameWords (body "Top\tcustomers ?! ".toList) (body "top  Customers.".toList) ∧
      EndsOnce "top  Customers.".toList ∧ EndsOnce "Top\tcustomers ?! ".toList ∧
      AnswerKey.ofQuestion "acme" "sales" "Top\tcustomers ?! " ["orders"] none =
        AnswerKey.ofQuestion "acme" "sales" "top  Customers." ["orders"] none := by
  have hwords : SameWords (body "Top\tcustomers ?! ".toList) (body "top  Customers.".toList) := by
    decide +kernel
  have hq : EndsOnce "Top\tcustomers ?! ".toList :=
    ⟨[' '], ['?', '!'], [' '], by decide +kernel, List.forall_mem_singleton.mpr rfl,
      by simp [isSentenceEnd], List.forall_mem_singleton.mpr rfl⟩
  have hr : EndsOnce "top  Customers.".toList :=
    ⟨[], ['.'], [], by decide +kernel, nofun, List.forall_mem_singleton.mpr rfl, nofun⟩
  obtain ⟨-, -, -, hkey⟩ := normal_form_final_iff "Top\tcustomers ?! "
  exact ⟨hwords, hr, hq, (hkey _ "acme" "sales" ["orders"] none hwords hr).mpr hq⟩

end Endings

end Question

end ResilientChat
