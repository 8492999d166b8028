import Mathlib.Data.List.Chain
import Mathlib.Data.List.TakeWhile
import ResilientChat.Config.Substitute

/-!
What the substitution of environment variables gives. A text is read in exactly one way as
references in braces, bare references and other characters. One pass replaces the references of one
form and leaves the rest as it is; bare references are looked for in what the pass over the braces
leaves. The two passes give what one would give that replaces references of both forms at once, if
the values put in for braces make no bare reference and break none.
-/

namespace ResilientChat

namespace Config

open Text

def IsName : List Char → Prop
  | [] => False
  | c :: cs => startsVariable c = true ∧ ∀ d ∈ cs, isVariableChar d = true

def NoWord (cs : List Char) : Prop := cs.head?.any isWord = false

instance (cs : List Char) : Decidable (NoWord cs) := inferInstanceAs (Decidable (_ = _))

/-- Behind a dollar sign, a name in braces and then `rest`. -/
structure BracedAt (cs name rest : List Char) : Prop where
  isName : IsName name
  eq : cs = '\x7b' :: (name ++ '\x7d' :: rest)

/-- Behind a dollar sign, a name that ends where a word ends and then `rest`. -/
structure BareAt (cs name rest : List Char) : Prop where
  isName : IsName name
  eq : cs = name ++ rest
  stops : NoWord rest

inductive Piece
  | plain (c : Char)
  | braced (name : List Char)
  | bare (name : List Char)
deriving DecidableEq

/-- A text as a sequence of pieces. A dollar sign that could stand for itself or start a reference
starts the reference. -/
inductive Reading : List Char → List Piece → Prop
  | done : Reading [] []
  | braced {cs name rest : List Char} {ps : List Piece} :
      BracedAt cs name rest → Reading rest ps → Reading ('$' :: cs) (.braced name :: ps)
  | bare {cs name rest : List Char} {ps : List Piece} :
      BareAt cs name rest → Reading rest ps → Reading ('$' :: cs) (.bare name :: ps)
  | plain {c : Char} {rest : List Char} {ps : List Piece} :
      (c = '$' → ∀ name after, ¬ BracedAt rest name after ∧ ¬ BareAt rest name after) →
        Reading rest ps → Reading (c :: rest) (.plain c :: ps)

/-! Names. -/

section Names

variable {c : Char} {cs name rest : List Char}

theorem isVariableChar_of_startsVariable (h : startsVariable c = true) :
    isVariableChar c = true := by
  simp only [startsVariable, isVariableChar, Char.isAlphanum, Bool.or_eq_true] at h ⊢
  tauto

theorem IsName.isVariableChar (h : IsName name) : ∀ c ∈ name, isVariableChar c = true := by
  cases name with
  | nil => nofun
  | cons c cs =>
      intro d hd
      rcases List.mem_cons.mp hd with rfl | hd
      · exact isVariableChar_of_startsVariable h.1
      · exact h.2 d hd

theorem isWord_of_isVariableChar (h : isVariableChar c = true) : isWord c = true := by
  have hall : ∀ n ∈ List.range 128, isVariableChar (Char.ofNat n) = true →
      isWord (Char.ofNat n) = true := by decide +kernel
  have hascii : c.toNat < 128 := by
    unfold Config.isVariableChar Char.isAlphanum Char.isAlpha Char.isUpper Char.isLower
      Char.isDigit at h
    simp only [Bool.or_eq_true, Bool.and_eq_true, decide_eq_true_eq, UInt32.le_iff_toNat_le,
      ge_iff_le] at h
    have hc : c.val.toNat = c.toNat := rfl
    have hZ : 'Z'.val.toNat = 90 := rfl
    have hz : 'z'.val.toNat = 122 := rfl
    have h9 : '9'.val.toNat = 57 := rfl
    rcases h with h | rfl
    · omega
    · decide
  have := hall c.toNat (List.mem_range.mpr hascii)
  rw [Char.ofNat_toNat] at this
  exact this h

theorem IsName.dollar_not_mem (h : IsName name) : '$' ∉ name := fun hmem =>
  absurd (h.isVariableChar _ hmem) (by decide)

theorem name?_append (hname : IsName name) (hrest : ∀ c ∈ rest.head?, isVariableChar c = false) :
    name? (name ++ rest) = some (name, rest) := by
  cases name with
  | nil => exact hname.elim
  | cons c cs =>
      have hstop : rest.takeWhile isVariableChar = [] ∧ rest.dropWhile isVariableChar = rest := by
        cases rest with
        | nil => exact ⟨rfl, rfl⟩
        | cons d rest =>
            have hd : isVariableChar d = false := hrest d rfl
            simp [hd]
      rw [List.cons_append, name?, if_pos hname.1, List.takeWhile_append_of_pos hname.2,
        List.dropWhile_append_of_pos hname.2, hstop.1, hstop.2, List.append_nil]

theorem of_name?_eq_some (h : name? cs = some (name, rest)) :
    IsName name ∧ cs = name ++ rest := by
  cases cs with
  | nil => cases h
  | cons c cs =>
      rw [name?] at h
      split at h
      · next hstart =>
        obtain ⟨rfl, rfl⟩ := Prod.mk.inj (Option.some.inj h)
        exact ⟨⟨hstart, fun _ => List.mem_takeWhile_imp⟩, by simp⟩
      · cases h

theorem bracedAt_iff : BracedAt cs name rest ↔ braced cs = some (name, rest) := by
  constructor
  · rintro ⟨hname, rfl⟩
    have hstop : ∀ c ∈ ('\x7d' :: rest).head?, isVariableChar c = false := by
      intro c hc
      obtain rfl := Option.some.inj hc
      decide
    simp only [braced, name?_append hname hstop]
  · intro h
    unfold braced at h
    split at h
    · split at h
      · next hread =>
        obtain ⟨rfl, rfl⟩ := Prod.mk.inj (Option.some.inj h)
        obtain ⟨hname, heq⟩ := of_name?_eq_some hread
        exact ⟨hname, by rw [heq]⟩
      · cases h
    · cases h

theorem bareAt_iff : BareAt cs name rest ↔ bare cs = some (name, rest) := by
  constructor
  · rintro ⟨hname, rfl, hstops⟩
    have hvariable : ∀ c ∈ rest.head?, isVariableChar c = false := by
      intro c hc
      rw [NoWord, hc, Option.any_some] at hstops
      rw [Bool.eq_false_iff]
      intro hvariable
      rw [isWord_of_isVariableChar hvariable] at hstops
      cases hstops
    simp only [bare, name?_append hname hvariable, show rest.head?.any isWord = false from hstops]
    rfl
  · intro h
    unfold bare at h
    split at h
    · next hread =>
      split at h
      · cases h
      · next hstops =>
        obtain ⟨rfl, rfl⟩ := Prod.mk.inj (Option.some.inj h)
        obtain ⟨hname, heq⟩ := of_name?_eq_some hread
        exact ⟨hname, heq, Bool.eq_false_iff.mpr hstops⟩
    · cases h

theorem braced_eq_none_of_name (h : IsName name) : braced (name ++ rest) = none := by
  cases name with
  | nil => exact h.elim
  | cons c cs =>
      have hc : c ≠ '\x7b' := by
        rintro rfl
        exact absurd h.1 (by decide)
      simp [braced, hc]

theorem bare_eq_none_of_brace : bare ('\x7b' :: rest) = none := rfl

end Names

/-! One pass. -/

section Pass

variable {form : ReferenceForm} {env : Environment}
  {cs name rest : List Char} {c : Char}

/-- How much is left bounds the pass; any greater bound will do. -/
theorem replace_bound
    (hform : ∀ cs name rest, form cs = some (name, rest) → rest.length ≤ cs.length)
    {bound bound' : Nat} (h : cs.length ≤ bound) (h' : cs.length ≤ bound') :
    replace form env bound cs = replace form env bound' cs := by
  induction bound generalizing bound' cs with
  | zero =>
      obtain rfl := List.length_eq_zero_iff.mp (Nat.le_zero.mp h)
      simp [replace]
  | succ bound ih =>
      cases cs with
      | nil => simp [replace]
      | cons c cs =>
          cases bound' with
          | zero => cases h'
          | succ bound' =>
              have hcs : cs.length ≤ bound := Nat.le_of_succ_le_succ h
              have hcs' : cs.length ≤ bound' := Nat.le_of_succ_le_succ h'
              rw [replace, replace, ih hcs hcs']
              split
              · split
                · next hread =>
                  have hle := hform _ _ _ hread
                  rw [ih (hle.trans hcs) (hle.trans hcs')]
                · rfl
              · rfl

@[simp] theorem replaceAll_nil : replaceAll form env [] = [] := rfl

/-- A character that starts no reference stays. -/
theorem replaceAll_cons (h : c = '$' → form cs = none) :
    replaceAll form env (c :: cs) = c :: replaceAll form env cs := by
  rw [replaceAll, List.length_cons, replace]
  split
  · next hc =>
    rw [h hc]
    rfl
  · rfl

theorem replaceAll_append_of_not_mem (h : '$' ∉ cs) :
    replaceAll form env (cs ++ rest) = cs ++ replaceAll form env rest := by
  induction cs with
  | nil => rfl
  | cons c cs ih =>
      obtain ⟨hc, hcs⟩ := List.ne_and_not_mem_of_not_mem_cons h
      rw [List.cons_append, replaceAll_cons fun h => absurd h.symm hc, ih hcs, List.cons_append]

def inserted (env : Environment) (name written : List Char) : List Char :=
  match env (String.ofList name) with
  | some v => v.toList
  | none => written

/-- The pass goes on behind a reference, whatever was inserted. -/
theorem replaceAll_reference (written : List Char → List Char)
    (hform : ∀ cs name rest, form cs = some (name, rest) → cs = written name ++ rest)
    (h : form cs = some (name, rest)) :
    replaceAll form env ('$' :: cs) =
      inserted env name ('$' :: written name) ++ replaceAll form env rest := by
  have hshort : ∀ cs name rest, form cs = some (name, rest) → rest.length ≤ cs.length := by
    intro cs name rest hread
    rw [hform cs name rest hread, List.length_append]
    exact Nat.le_add_left ..
  have htake : cs.take (cs.length - rest.length) = written name := by
    rw [hform cs name rest h, List.length_append, Nat.add_sub_cancel, List.take_left]
  have hrest : replace form env cs.length rest = replaceAll form env rest :=
    replace_bound hshort (hshort cs name rest h) le_rfl
  rw [replaceAll, List.length_cons, replace, if_pos rfl, h]
  cases hset : env (String.ofList name) with
  | some v => simp only [inserted, hset, hrest]
  | none => simp only [inserted, hset, htake, hrest]

theorem replaceAll_braced_reference (h : BracedAt cs name rest) :
    replaceAll braced env ('$' :: cs) =
      inserted env name ('$' :: '\x7b' :: (name ++ ['\x7d'])) ++ replaceAll braced env rest := by
  refine replaceAll_reference (fun name => '\x7b' :: (name ++ ['\x7d']))
    (fun cs name rest hread => ?_) (bracedAt_iff.mp h)
  simpa using (bracedAt_iff.mpr hread).eq

theorem replaceAll_bare_reference (h : BareAt cs name rest) :
    replaceAll bare env ('$' :: cs) =
      inserted env name ('$' :: name) ++ replaceAll bare env rest :=
  replaceAll_reference id (fun _ _ _ hread => (bareAt_iff.mpr hread).eq) (bareAt_iff.mp h)

end Pass

/-! Readings. -/

section Readings

variable {cs name rest : List Char} {ps qs : List Piece} {env : Environment}

theorem exists_reading (cs : List Char) : ∃ ps, Reading cs ps := by
  match cs with
  | [] => exact ⟨[], .done⟩
  | c :: cs =>
      by_cases hreference : ∃ name after, c = '$' ∧ (BracedAt cs name after ∨ BareAt cs name after)
      · obtain ⟨name, after, rfl, hat⟩ := hreference
        have hshort : after.length < cs.length + 1 := by
          rcases hat with hat | hat <;> rw [hat.eq] <;> grind
        obtain ⟨ps, hps⟩ := exists_reading after
        rcases hat with hat | hat
        · exact ⟨_, .braced hat hps⟩
        · exact ⟨_, .bare hat hps⟩
      · obtain ⟨ps, hps⟩ := exists_reading cs
        refine ⟨_, .plain (fun hc name after => ⟨fun hat => ?_, fun hat => ?_⟩) hps⟩
        · exact hreference ⟨name, after, hc, .inl hat⟩
        · exact hreference ⟨name, after, hc, .inr hat⟩
termination_by cs.length

theorem BracedAt.not_bareAt {name' rest' : List Char} (h : BracedAt cs name rest) :
    ¬ BareAt cs name' rest' := by
  intro h'
  have hnone : bare ('\x7b' :: (name ++ '\x7d' :: rest)) = none := bare_eq_none_of_brace
  rw [← h.eq, bareAt_iff.mp h'] at hnone
  cases hnone

theorem Reading.unique (hps : Reading cs ps) (hqs : Reading cs qs) : ps = qs := by
  induction hps generalizing qs with
  | done => cases hqs; rfl
  | braced hat _ ih =>
      cases hqs with
      | braced hat' hrest =>
          have hsame := (bracedAt_iff.mp hat).symm.trans (bracedAt_iff.mp hat')
          obtain ⟨rfl, rfl⟩ := Prod.mk.inj (Option.some.inj hsame)
          rw [ih hrest]
      | bare hat' _ => exact absurd hat' hat.not_bareAt
      | plain hnone _ => exact absurd hat (hnone rfl _ _).1
  | bare hat _ ih =>
      cases hqs with
      | braced hat' _ => exact absurd hat hat'.not_bareAt
      | bare hat' hrest =>
          have hsame := (bareAt_iff.mp hat).symm.trans (bareAt_iff.mp hat')
          obtain ⟨rfl, rfl⟩ := Prod.mk.inj (Option.some.inj hsame)
          rw [ih hrest]
      | plain hnone _ => exact absurd hat (hnone rfl _ _).2
  | plain hnone _ ih =>
      cases hqs with
      | braced hat _ => exact absurd hat (hnone rfl _ _).1
      | bare hat _ => exact absurd hat (hnone rfl _ _).2
      | plain _ hrest => rw [ih hrest]

end Readings

namespace Piece

def written : Piece → List Char
  | .plain c => [c]
  | .braced name => '$' :: '\x7b' :: (name ++ ['\x7d'])
  | .bare name => '$' :: name

/-- What stands for a piece, with one environment for references in braces and one for bare ones. -/
def shown (inBraces onTheirOwn : Environment) (p : Piece) : List Char :=
  match p with
  | .plain _ => p.written
  | .braced name => inserted inBraces name p.written
  | .bare name => inserted onTheirOwn name p.written

end Piece

def unset : Environment := fun _ => none

def textOf (inBraces onTheirOwn : Environment) (ps : List Piece) : List Char :=
  ps.flatMap (·.shown inBraces onTheirOwn)

theorem textOf_cons (inBraces onTheirOwn : Environment) (p : Piece) (ps : List Piece) :
    textOf inBraces onTheirOwn (p :: ps) =
      p.shown inBraces onTheirOwn ++ textOf inBraces onTheirOwn ps := List.flatMap_cons

section Passes

variable {cs : List Char} {ps : List Piece} {env : Environment}

/-- The pass over the references in braces. -/
theorem replaceAll_braced (h : Reading cs ps) :
    replaceAll braced env cs = textOf env unset ps := by
  induction h with
  | done => rfl
  | braced hat _ ih => rw [replaceAll_braced_reference hat, ih]; rfl
  | bare hat _ ih =>
      rw [hat.eq, replaceAll_cons fun _ => braced_eq_none_of_name hat.isName,
        replaceAll_append_of_not_mem hat.isName.dollar_not_mem, ih]
      rfl
  | @plain c rest ps hnone _ ih =>
      have hform : c = '$' → braced rest = none := by
        refine fun hc => Option.eq_none_iff_forall_ne_some.mpr ?_
        rintro ⟨name, after⟩ hread
        exact (hnone hc name after).1 (bracedAt_iff.mpr hread)
      rw [replaceAll_cons hform, ih]
      rfl

/-- The pass over the bare references. -/
theorem replaceAll_bare (h : Reading cs ps) :
    replaceAll bare env cs = textOf unset env ps := by
  induction h with
  | done => rfl
  | @braced cs name rest ps hat _ ih =>
      have hbrace : '$' ∉ '\x7b' :: (name ++ ['\x7d']) := by
        simpa using hat.isName.dollar_not_mem
      have hsplit : cs = '\x7b' :: (name ++ ['\x7d']) ++ rest := by simpa using hat.eq
      rw [hat.eq, replaceAll_cons fun _ => bare_eq_none_of_brace, ← hat.eq, hsplit,
        replaceAll_append_of_not_mem hbrace, ih]
      rfl
  | bare hat _ ih => rw [replaceAll_bare_reference hat, ih]; rfl
  | @plain c rest ps hnone _ ih =>
      have hform : c = '$' → bare rest = none := by
        refine fun hc => Option.eq_none_iff_forall_ne_some.mpr ?_
        rintro ⟨name, after⟩ hread
        exact (hnone hc name after).2 (bareAt_iff.mpr hread)
      rw [replaceAll_cons hform, ih]
      rfl

/-! Bare references before and after the pass over the braces. -/

/-- A variable that is set is named here. -/
def NamesSet (env : Environment) (cs : List Char) : Prop :=
  ∃ name rest v, BareAt cs name rest ∧ env (String.ofList name) = some v

/-- No dollar sign of `cs` stands before the name of a variable that is set. -/
def Quiet (env : Environment) (cs after : List Char) : Prop :=
  ∀ before rest, cs = before ++ '$' :: rest → ¬ NamesSet env (rest ++ after)

/-- A bare reference to a variable that is set is still one when `after` comes next, and nothing
else is one. -/
def Piece.Kept (env : Environment) (after : List Char) (p : Piece) : Prop :=
  match p with
  | .bare name =>
    if (env (String.ofList name)).isSome then NoWord after else Quiet env p.written after
  | _ => Quiet env (p.shown env unset) after

/-- Replacing the references in braces makes no bare reference to a variable that is set, and
breaks none. -/
def Kept (env : Environment) : List Piece → Prop
  | [] => True
  | p :: ps => p.Kept env (textOf env unset ps) ∧ Kept env ps

theorem replaceAll_bare_of_quiet {after : List Char} (h : Quiet env cs after) :
    replaceAll bare env (cs ++ after) = cs ++ replaceAll bare env after := by
  induction cs with
  | nil => rfl
  | cons c cs ih =>
      have hcs : Quiet env cs after := fun before rest heq =>
        h (c :: before) rest (by rw [heq, List.cons_append])
      by_cases hc : c = '$'
      · subst hc
        have hquiet : ¬ NamesSet env (cs ++ after) := h [] cs rfl
        cases hread : bare (cs ++ after) with
        | none => rw [List.cons_append, replaceAll_cons fun _ => hread, ih hcs, List.cons_append]
        | some found =>
            obtain ⟨name, rest⟩ := found
            have hat := bareAt_iff.mpr hread
            have hunset : env (String.ofList name) = none := by
              refine Option.eq_none_iff_forall_ne_some.mpr fun v hv => ?_
              exact hquiet ⟨name, rest, v, hat, hv⟩
            -- A name that stays holds no dollar sign, so the pass copies it.
            rw [List.cons_append, replaceAll_bare_reference hat, inserted, hunset, List.cons_append,
              List.cons_append, ← ih hcs, hat.eq,
              replaceAll_append_of_not_mem hat.isName.dollar_not_mem]
      · rw [List.cons_append, replaceAll_cons fun h => absurd h hc, ih hcs, List.cons_append]

theorem replaceAll_bare_of_kept (h : Reading cs ps) (hkept : Kept env ps) :
    replaceAll bare env (textOf env unset ps) = textOf env env ps := by
  induction h with
  | done => rfl
  | braced _ _ ih =>
      rw [textOf_cons, replaceAll_bare_of_quiet hkept.1, ih hkept.2]
      rfl
  | @bare cs name rest ps hat _ ih =>
      have hfirst := hkept.1
      have hleft : (Piece.bare name).shown env unset = '$' :: name := rfl
      cases hset : env (String.ofList name) with
      | some v =>
          have hstops : NoWord (textOf env unset ps) := by simpa [Piece.Kept, hset] using hfirst
          rw [textOf_cons, hleft, List.cons_append,
            replaceAll_bare_reference ⟨hat.isName, rfl, hstops⟩, ih hkept.2]
          rfl
      | none =>
          have hquiet : Quiet env (Piece.bare name).written (textOf env unset ps) := by
            simpa [Piece.Kept, hset] using hfirst
          have hshown : (Piece.bare name).shown env env = (Piece.bare name).written := by
            rw [Piece.shown, inserted, hset]
          rw [textOf_cons, hleft, ← Piece.written, replaceAll_bare_of_quiet hquiet, ih hkept.2,
            textOf_cons, hshown]
  | plain _ _ ih =>
      rw [textOf_cons, replaceAll_bare_of_quiet hkept.1, ih hkept.2]
      rfl

/-! Texts that are read one after the other. -/

/-- A front without a dollar sign does not reach over one. -/
theorem exists_of_append_eq {cs xs front rest : List Char} (hfront : '$' ∉ front)
    (h : cs ++ '$' :: xs = front ++ rest) :
    ∃ between, cs = front ++ between ∧ rest = between ++ '$' :: xs := by
  rcases List.append_eq_append_iff.mp h with ⟨beyond, rfl, hbeyond⟩ | ⟨between, hcs, hrest⟩
  · cases beyond with
    | nil => exact ⟨[], by simp, by simpa using hbeyond.symm⟩
    | cons c beyond =>
        obtain ⟨rfl, -⟩ := List.cons.inj hbeyond
        exact absurd (List.mem_append_right _ (List.mem_cons_self ..)) hfront
  · exact ⟨between, hcs, hrest⟩

theorem noWord_dollar (cs : List Char) : NoWord ('$' :: cs) := by
  have hdollar : isWord '$' = false := by decide +kernel
  rw [NoWord, List.head?_cons, Option.any_some, hdollar]

theorem noWord_append {cs xs : List Char} : NoWord (cs ++ '$' :: xs) ↔ NoWord cs := by
  cases cs with
  | nil => exact ⟨fun _ => rfl, fun _ => noWord_dollar xs⟩
  | cons => rfl

theorem BareAt.of_append {cs xs name rest : List Char} (h : BareAt (cs ++ '$' :: xs) name rest) :
    ∃ rest', BareAt cs name rest' := by
  obtain ⟨between, hcs, hrest⟩ := exists_of_append_eq h.isName.dollar_not_mem h.eq
  exact ⟨between, h.isName, hcs, noWord_append.mp (hrest ▸ h.stops)⟩

theorem BracedAt.of_append {cs xs name rest : List Char}
    (h : BracedAt (cs ++ '$' :: xs) name rest) : ∃ rest', BracedAt cs name rest' := by
  have hbrace : '$' ∉ '\x7b' :: (name ++ ['\x7d']) := by simpa using h.isName.dollar_not_mem
  have heq : cs ++ '$' :: xs = '\x7b' :: (name ++ ['\x7d']) ++ rest := by simpa using h.eq
  obtain ⟨between, hcs, -⟩ := exists_of_append_eq hbrace heq
  exact ⟨between, h.isName, by simpa using hcs⟩

theorem Reading.append {xs : List Char} {qs : List Piece} (h : Reading cs ps)
    (hxs : Reading ('$' :: xs) qs) : Reading (cs ++ '$' :: xs) (ps ++ qs) := by
  induction h with
  | done => exact hxs
  | braced hat _ ih => exact .braced ⟨hat.isName, by simp [hat.eq]⟩ ih
  | bare hat _ ih => exact .bare ⟨hat.isName, by simp [hat.eq], noWord_append.mpr hat.stops⟩ ih
  | plain hnone _ ih =>
      refine .plain (fun hc name after => ⟨fun hat => ?_, fun hat => ?_⟩) ih
      · obtain ⟨rest', hat'⟩ := hat.of_append
        exact (hnone hc _ _).1 hat'
      · obtain ⟨rest', hat'⟩ := hat.of_append
        exact (hnone hc _ _).2 hat'

end Passes

/-! Values that can do no harm. -/

section Values

variable {cs after : List Char} {ps : List Piece} {env : Environment}

/-- No value that is put in for braces holds a dollar sign, and no reference in braces stands right
behind a dollar sign or a bare reference. -/
structure Separate (env : Environment) (ps : List Piece) : Prop where
  values : ∀ name v, .braced name ∈ ps → env (String.ofList name) = some v → '$' ∉ v.toList
  places : ps.IsChain fun p q =>
    (p = .plain '$' ∨ ∃ name, p = .bare name) → ∀ name, q ≠ .braced name

theorem quiet_of_not_mem (h : '$' ∉ cs) : Quiet env cs after := by
  rintro before rest rfl
  exact absurd (List.mem_append_right before (List.mem_cons_self ..)) h

theorem quiet_dollar (h : '$' ∉ cs) (hnames : ¬ NamesSet env (cs ++ after)) :
    Quiet env ('$' :: cs) after := by
  intro before rest heq
  cases before with
  | nil => rwa [← (List.cons.inj heq).2]
  | cons c before =>
      rw [(List.cons.inj heq).2] at h
      exact absurd (List.mem_append_right before (List.mem_cons_self ..)) h

theorem IsName.of_front {front name : List Char} (h : IsName name) (hfront : front <+: name)
    (hne : front ≠ []) : IsName front := by
  obtain ⟨rest, rfl⟩ := hfront
  cases front with
  | nil => exact absurd rfl hne
  | cons c front => exact ⟨h.1, fun d hd => h.2 d (List.mem_append_left rest hd)⟩

theorem noWord_of_textOf (h : Reading cs ps) (htext : NoWord (textOf env unset ps)) :
    NoWord cs := by
  cases h with
  | done => rfl
  | braced => exact noWord_dollar _
  | bare => exact noWord_dollar _
  | plain => exact htext

theorem noWord_textOf (h : Reading cs ps) (hnext : ∀ name, ps.head? ≠ some (.braced name))
    (hcs : NoWord cs) : NoWord (textOf env unset ps) := by
  cases h with
  | done => rfl
  | braced => exact absurd rfl (hnext _)
  | bare => exact noWord_dollar _
  | plain => exact hcs

/-- A name in the new text was in the old one, or at least its front before the next reference. -/
theorem exists_front {front rest : List Char} (h : Reading cs ps)
    (hfront : ∀ c ∈ front, isVariableChar c = true)
    (htext : textOf env unset ps = front ++ rest) (hstops : NoWord rest) :
    ∃ front' behind, cs = front' ++ behind ∧ front' <+: front ∧ NoWord behind ∧
      (front' = [] → front = [] ∨ ∃ name, ps.head? = some (.braced name)) := by
  induction h generalizing front with
  | done =>
      obtain ⟨rfl, -⟩ := List.append_eq_nil_iff.mp htext.symm
      exact ⟨[], [], rfl, List.nil_prefix, rfl, fun _ => .inl rfl⟩
  | braced => exact ⟨[], _, rfl, List.nil_prefix, noWord_dollar _, fun _ => .inr ⟨_, rfl⟩⟩
  | bare =>
      cases front with
      | nil => exact ⟨[], _, rfl, List.nil_prefix, noWord_dollar _, fun _ => .inl rfl⟩
      | cons c front =>
          have hc : '$' = c := (List.cons.inj htext).1
          have hvariable := hfront c (List.mem_cons_self ..)
          rw [← hc] at hvariable
          exact absurd hvariable (by decide)
  | @plain c rest' ps hnone hrest ih =>
      cases front with
      | nil =>
          have htext : textOf env unset (.plain c :: ps) = rest := htext
          refine ⟨[], _, rfl, List.nil_prefix, ?_, fun _ => .inl rfl⟩
          exact noWord_of_textOf (.plain hnone hrest) (htext ▸ hstops)
      | cons d front =>
          obtain ⟨rfl, htail⟩ := List.cons.inj htext
          obtain ⟨front', behind, hcs, hbegins, hbehind, -⟩ :=
            ih (fun c hc => hfront c (List.mem_cons_of_mem _ hc)) htail
          exact ⟨_ :: front', behind, by rw [hcs]; rfl, (List.prefix_cons_inj _).mpr hbegins,
            hbehind, nofun⟩

theorem kept_braced {name : List Char} (hname : IsName name)
    (hvalue : ∀ v, env (String.ofList name) = some v → '$' ∉ v.toList) :
    (Piece.braced name).Kept env after := by
  have hbrace : '$' ∉ '\x7b' :: (name ++ ['\x7d']) := by simpa using hname.dollar_not_mem
  change Quiet env (inserted env name ('$' :: '\x7b' :: (name ++ ['\x7d']))) after
  rw [inserted]
  split
  · next v hset => exact quiet_of_not_mem (hvalue v hset)
  · refine quiet_dollar hbrace ?_
    rintro ⟨_, _, _, hat, -⟩
    have hnone := bareAt_iff.mp hat
    rw [List.cons_append, bare_eq_none_of_brace] at hnone
    cases hnone

theorem kept_bare {name : List Char} (hname : IsName name) (hstops : NoWord after) :
    (Piece.bare name).Kept env after := by
  rw [Piece.Kept]
  split
  · exact hstops
  · next hunset =>
    refine quiet_dollar hname.dollar_not_mem ?_
    rintro ⟨name', rest', v, hat, hset⟩
    have hsame := (bareAt_iff.mp hat).symm.trans (bareAt_iff.mp ⟨hname, rfl, hstops⟩)
    obtain ⟨rfl, -⟩ := Prod.mk.inj (Option.some.inj hsame)
    rw [hset] at hunset
    exact hunset rfl

theorem kept_plain {c : Char} (hnone : c = '$' → ∀ name after, ¬ BareAt cs name after)
    (h : Reading cs ps) (hnext : c = '$' → ∀ name, ps.head? ≠ some (.braced name)) :
    (Piece.plain c).Kept env (textOf env unset ps) := by
  change Quiet env [c] _
  by_cases hc : c = '$'
  · subst hc
    refine quiet_dollar List.not_mem_nil ?_
    rintro ⟨name, rest, v, hat, -⟩
    obtain ⟨front, behind, hcs, hbegins, hbehind, hempty⟩ :=
      exists_front h hat.isName.isVariableChar hat.eq hat.stops
    have hne : front ≠ [] := by
      intro hnil
      rcases hempty hnil with hname | ⟨name', hbraced⟩
      · have hisName := hat.isName
        rw [hname] at hisName
        exact hisName
      · exact hnext rfl name' hbraced
    exact hnone rfl front behind ⟨hat.isName.of_front hbegins hne, hcs, hbehind⟩
  · exact quiet_of_not_mem fun hmem => hc (List.mem_singleton.mp hmem).symm

theorem Separate.tail {p : Piece} (h : Separate env (p :: ps)) : Separate env ps :=
  ⟨fun name v hmem => h.values name v (List.mem_cons_of_mem p hmem),
    (List.isChain_cons.mp h.places).2⟩

theorem Separate.next {p : Piece} (h : Separate env (p :: ps))
    (hp : p = .plain '$' ∨ ∃ name, p = .bare name) (name : List Char) :
    ps.head? ≠ some (.braced name) := fun hhead =>
  (List.isChain_cons.mp h.places).1 _ hhead hp name rfl

theorem kept_of_separate (h : Reading cs ps) (hseparate : Separate env ps) : Kept env ps := by
  induction h with
  | done => trivial
  | braced hat _ ih =>
      exact ⟨kept_braced hat.isName fun v => hseparate.values _ v (List.mem_cons_self ..),
        ih hseparate.tail⟩
  | bare hat hrest ih =>
      have hnext := hseparate.next (.inr ⟨_, rfl⟩)
      exact ⟨kept_bare hat.isName (noWord_textOf hrest hnext hat.stops), ih hseparate.tail⟩
  | plain hnone hrest ih =>
      refine ⟨kept_plain (fun hc name after => (hnone hc name after).2) hrest fun hc => ?_,
        ih hseparate.tail⟩
      exact hseparate.next (.inl (congrArg Piece.plain hc))

end Values

/-- As the text is read, the pass over the braces makes no bare reference and breaks none. -/
def Undisturbed (env : Environment) (text : List Char) : Prop :=
  ∀ ps, Reading text ps → Kept env ps

theorem substitute_of_kept {env : Environment} {content : String} {ps : List Piece}
    (h : Reading content.toList ps) (hkept : Kept env ps) :
    substitute env content = String.ofList (textOf env env ps) := by
  rw [substitute, replaceAll_braced h, replaceAll_bare_of_kept h hkept]

theorem substitute_of_undisturbed {env : Environment} {text : List Char} {ps : List Piece}
    (h : Reading text ps) (hkept : Undisturbed env text) :
    substitute env (String.ofList text) = String.ofList (textOf env env ps) :=
  substitute_of_kept (by rwa [String.toList_ofList]) (hkept ps h)

/-- A text is read in one way, and what comes of its references in braces is read in one way; the
substitution puts the values in for the former and then for the bare references of the latter. If
that makes no bare reference and breaks none, all values are put in at once; a variable then has
the same value in braces as without them. -/
theorem substitute_replaces_references (env : Environment) :
    (∀ content : String, ∃ ps mid,
      (∀ qs, Reading content.toList qs ↔ qs = ps) ∧
        (∀ qs, Reading (textOf env unset ps) qs ↔ qs = mid) ∧
          substitute env content = String.ofList (textOf unset env mid) ∧
            (Kept env ps → substitute env content = String.ofList (textOf env env ps))) ∧
      ∀ (before name after : List Char) (v : String), IsName name → NoWord after →
        env (String.ofList name) = some v →
          Undisturbed env (before ++ (Piece.braced name).written ++ after) →
            Undisturbed env (before ++ (Piece.bare name).written ++ after) →
              substitute env (String.ofList (before ++ (Piece.braced name).written ++ after)) =
                substitute env (String.ofList (before ++ (Piece.bare name).written ++ after)) := by
  have hreads {cs : List Char} {ps : List Piece} (h : Reading cs ps) (qs : List Piece) :
      Reading cs qs ↔ qs = ps := ⟨fun hqs => hqs.unique h, fun heq => heq ▸ h⟩
  constructor
  · intro content
    obtain ⟨ps, hps⟩ := exists_reading content.toList
    obtain ⟨mid, hmid⟩ := exists_reading (textOf env unset ps)
    refine ⟨ps, mid, hreads hps, hreads hmid, ?_, substitute_of_kept hps⟩
    rw [substitute, replaceAll_braced hps, replaceAll_bare hmid]
  · intro before name after v hname hstops hset hbraced hbare
    obtain ⟨front, hfront⟩ := exists_reading before
    obtain ⟨back, hback⟩ := exists_reading after
    have hleft := hfront.append (.braced ⟨hname, rfl⟩ hback)
    have hright := hfront.append (.bare ⟨hname, rfl, hstops⟩ hback)
    rw [substitute_of_undisturbed (by simpa [Piece.written] using hleft) hbraced,
      substitute_of_undisturbed (by simpa [Piece.written] using hright) hbare]
    simp [textOf, Piece.shown, inserted, hset]

/-- One variable whose value looks like a reference to the other. -/
def nested : Environment := fun name => [("A", "$B"), ("B", "x")].lookup name

/-- The value put in for braces is read again. The same value put in for a bare reference is not. -/
theorem value_read_again :
    Reading "$\x7bA\x7d".toList [.braced ['A']] ∧ Reading "$A".toList [.bare ['A']] ∧
      textOf nested nested [.braced ['A']] = "$B".toList ∧
      substitute nested "$\x7bA\x7d" = "x" ∧ substitute nested "$A" = "$B" := by
  have hname : IsName ['A'] := ⟨rfl, nofun⟩
  exact ⟨.braced ⟨hname, rfl⟩ .done, .bare ⟨hname, rfl, rfl⟩ .done, by decide, by decide +kernel,
    by decide +kernel⟩

def address : Environment := fun name => [("H", "db.internal"), ("P", "5432")].lookup name

theorem address_separate (ps : List Piece)
    (hplaces : ps.IsChain fun p q =>
      (p = .plain '$' ∨ ∃ name, p = .bare name) → ∀ name, q ≠ .braced name) :
    Separate address ps := by
  refine ⟨fun name v _ hset => ?_, hplaces⟩
  rw [address, List.lookup_cons] at hset
  split at hset
  · obtain rfl := Option.some.inj hset
    decide
  · rw [List.lookup_cons] at hset
    split at hset
    · obtain rfl := Option.some.inj hset
      decide
    · cases hset

theorem address_put_in :
    ∃ ps, Reading "$\x7bH\x7d:$P".toList ps ∧ Kept address ps ∧
      substitute address "$\x7bH\x7d:$P" = "db.internal:5432" ∧
        substitute address "$\x7bH\x7d:" = substitute address "$H:" := by
  have hcolon {rest : List Char} : ':' = '$' → ∀ name after,
      ¬ BracedAt rest name after ∧ ¬ BareAt rest name after := fun h => absurd h (by decide)
  have hH : IsName ['H'] := ⟨rfl, nofun⟩
  have hP : IsName ['P'] := ⟨rfl, nofun⟩
  have hstops : NoWord [':'] := by decide +kernel
  have hreading : Reading "$\x7bH\x7d:$P".toList [.braced ['H'], .plain ':', .bare ['P']] :=
    .braced ⟨hH, rfl⟩ (.plain hcolon (.bare ⟨hP, rfl, rfl⟩ .done))
  have hkept : Kept address [.braced ['H'], .plain ':', .bare ['P']] :=
    kept_of_separate hreading (address_separate _ (by simp))
  obtain ⟨hwhole, hforms⟩ := substitute_replaces_references address
  obtain ⟨ps, -, hps, -, -, hatOnce⟩ := hwhole "$\x7bH\x7d:$P"
  obtain rfl := (hps _).mp hreading
  have hbraced : Undisturbed address "$\x7bH\x7d:".toList := fun ps hps => by
    have hreads : Reading "$\x7bH\x7d:".toList [.braced ['H'], .plain ':'] :=
      .braced ⟨hH, rfl⟩ (.plain hcolon .done)
    rw [hps.unique hreads]
    exact kept_of_separate hreads (address_separate _ (by simp))
  have hbare : Undisturbed address "$H:".toList := fun ps hps => by
    have hreads : Reading "$H:".toList [.bare ['H'], .plain ':'] :=
      .bare ⟨hH, rfl, hstops⟩ (.plain hcolon .done)
    rw [hps.unique hreads]
    exact kept_of_separate hreads (address_separate _ (by simp))
  refine ⟨_, hreading, hkept, hatOnce hkept, ?_⟩
  exact hforms [] ['H'] [':'] "db.internal" hH hstops (by decide) hbraced hbare

end Config

end ResilientChat
