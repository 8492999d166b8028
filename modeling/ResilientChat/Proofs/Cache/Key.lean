import ResilientChat.Cache.Key
import ResilientChat.Proofs.Digest.Terminated
import ResilientChat.Proofs.Json.Text
import Mathlib.Data.Set.Function
import Mathlib.Data.List.Sort

/-!
When two questions are filed under one fingerprint. The digest is taken of parts that end with a
zero byte each. It tells the tools and the plan apart in any case, and the tenant, the module and
the question when no tenant and no module holds a zero character; otherwise the end of a part can
be taken for a character of it.
-/

namespace ResilientChat

section ToolSets

variable {names : List String}

theorem mem_eraseReps_loop (name a : String) (names before : List String) :
    name ∈ List.eraseRepsBy.loop (· == ·) a names before ↔ name ∈ a :: names ∨ name ∈ before := by
  induction names generalizing a before with
  | nil => simp [List.eraseRepsBy.loop, or_comm]
  | cons b names ih =>
      rw [List.eraseRepsBy.loop]
      split
      · next heq =>
        rw [ih, beq_iff_eq.mp heq]
        simp
      · rw [ih]
        simp only [List.mem_cons]
        tauto

/-- Repetitions of a sorted list stand side by side, so none is left. -/
theorem eraseReps_loop_ascending (a : String) (names before : List String)
    (hsorted : (a :: names).Pairwise (· ≤ ·))
    (hbefore : (a :: before).Pairwise (fun x y => y < x)) :
    (List.eraseRepsBy.loop (· == ·) a names before).Pairwise (· < ·) := by
  induction names generalizing a before with
  | nil =>
      rw [List.eraseRepsBy.loop, List.pairwise_reverse]
      exact hbefore
  | cons b names ih =>
      obtain ⟨hle, hrest⟩ := List.pairwise_cons.mp hsorted
      rw [List.eraseRepsBy.loop]
      split
      · next heq =>
        refine ih a before ?_ hbefore
        rwa [beq_iff_eq.mp heq]
      · next hne =>
        have hlt : a < b := by
          refine Std.lt_of_le_of_ne (hle b (List.mem_cons_self ..)) ?_
          simpa using hne
        refine ih b (a :: before) hrest (List.pairwise_cons.mpr ⟨fun x hx => ?_, hbefore⟩)
        rcases List.mem_cons.mp hx with rfl | hx
        · exact hlt
        · exact String.lt_trans ((List.pairwise_cons.mp hbefore).1 x hx) hlt

theorem mem_canonicalNames (name : String) : name ∈ canonicalNames names ↔ name ∈ names := by
  have hsort : name ∈ (names.mergeSort fun a b => decide (a ≤ b)) ↔ name ∈ names :=
    List.mem_mergeSort
  rw [canonicalNames, List.eraseReps, ← hsort]
  cases names.mergeSort fun a b => decide (a ≤ b) with
  | nil => rfl
  | cons a rest => simp [List.eraseRepsBy, mem_eraseReps_loop]

theorem canonicalNames_ascending (names : List String) :
    (canonicalNames names).Pairwise (· < ·) := by
  have hsorted : (names.mergeSort fun a b => decide (a ≤ b)).Pairwise (· ≤ ·) := by
    have h := @List.pairwise_mergeSort String (fun a b => decide (a ≤ b))
      (fun a b c hab hbc => by
        simp only [decide_eq_true_eq] at *
        exact String.le_trans hab hbc)
      (fun a b => by simpa using String.le_total a b) names
    simpa using h
  rw [canonicalNames, List.eraseReps]
  cases hnames : names.mergeSort fun a b => decide (a ≤ b) with
  | nil => exact .nil
  | cons a rest =>
      rw [hnames] at hsorted
      exact eraseReps_loop_ascending a rest [] hsorted (List.pairwise_singleton _ a)

/-- The canonical form is the same for the same set of names and for no other. -/
theorem canonicalNames_eq_iff (names others : List String) :
    canonicalNames names = canonicalNames others ↔ ∀ name, name ∈ names ↔ name ∈ others := by
  constructor
  · intro h name
    rw [← mem_canonicalNames, h, mem_canonicalNames]
  · intro h
    refine (canonicalNames_ascending names).eq_of_mem_iff (canonicalNames_ascending others) ?_
    intro name
    rw [mem_canonicalNames, mem_canonicalNames, h]

theorem canonicalNames_of_ascending (h : names.Pairwise (· < ·)) : canonicalNames names = names :=
  (canonicalNames_ascending names).eq_of_mem_iff h fun name => mem_canonicalNames name

theorem toolSetDigest_zeroFree (names : List String) : Digest.ZeroFree (toolSetDigest names) :=
  Digest.sha256_zeroFree _

end ToolSets

namespace AnswerKey

structure Source where
  tenant : String
  module : String
  question : String
  tools : List String
  plan : Option Json.Value

namespace Source

def key (s : Source) : AnswerKey := .ofQuestion s.tenant s.module s.question s.tools s.plan

def fingerprint (s : Source) : String := s.key.fingerprint

def normalQuestion (s : Source) : String := Question.normalize s.question

def planText (s : Source) : String := (s.plan.map Json.Value.text).getD ""

def toolBytes (s : Source) : List UInt8 := Digest.terminated (canonicalNames s.tools)

def heading (s : Source) : List UInt8 := Digest.terminated [s.tenant, s.module, s.normalQuestion]

def messages (s : Source) : Set (List UInt8) := {s.toolBytes, s.key.bytes}

/-- No name holds the character that looks like the end of a name. -/
structure ZeroFree (s : Source) : Prop where
  tenant : Digest.ZeroFree s.tenant
  module : Digest.ZeroFree s.module
  tools : ∀ name ∈ s.tools, Digest.ZeroFree name

theorem planText_zeroFree (s : Source) : Digest.ZeroFree s.planText := by
  intro hzero
  rw [planText] at hzero
  cases hplan : s.plan with
  | none => simp [hplan] at hzero
  | some plan =>
      rw [hplan] at hzero
      exact absurd (plan.visible_text _ hzero) (by decide)

theorem bytes_eq (s : Source) :
    s.key.bytes = Digest.terminated
      ([s.tenant, s.module, s.normalQuestion] ++ [toolSetDigest s.tools] ++ [s.planText]) := rfl

/-- Tools and plan are told apart by any message; what is left are the bytes before them. -/
theorem bytes_eq_iff (s t : Source) :
    s.key.bytes = t.key.bytes ↔
      (s.heading = t.heading ∧ toolSetDigest s.tools = toolSetDigest t.tools) ∧
        s.planText = t.planText := by
  rw [bytes_eq, bytes_eq,
    Digest.terminated_concat_inj (by simp) (by simp) s.planText_zeroFree t.planText_zeroFree,
    Digest.terminated_concat_inj (by simp) (by simp) (toolSetDigest_zeroFree s.tools)
      (toolSetDigest_zeroFree t.tools)]
  rfl

theorem heading_eq_iff {s t : Source} (hs : s.ZeroFree) (ht : t.ZeroFree) :
    s.heading = t.heading ↔
      s.tenant = t.tenant ∧ s.module = t.module ∧ s.normalQuestion = t.normalQuestion := by
  rw [heading, heading, Digest.terminated_cons_inj hs.tenant ht.tenant,
    Digest.terminated_cons_inj hs.module ht.module]
  refine and_congr_right' (and_congr_right' ?_)
  simp [Digest.terminated, Digest.bytesOf_injective.eq_iff]

theorem toolBytes_eq_iff {s t : Source} (hs : s.ZeroFree) (ht : t.ZeroFree) :
    s.toolBytes = t.toolBytes ↔ ∀ name, name ∈ s.tools ↔ name ∈ t.tools := by
  rw [toolBytes, toolBytes, Digest.terminated_inj, canonicalNames_eq_iff]
  · intro name hname
    exact hs.tools name ((mem_canonicalNames name).mp hname)
  · intro name hname
    exact ht.tools name ((mem_canonicalNames name).mp hname)

/-- Where the digest tells the messages of two questions apart, the questions have one fingerprint
exactly when their plans are the same text and the bytes of their tools and those of tenant,
module and normal question are the same. If no tenant, module or tool has a zero character in its
name, that is to have the same tenant, the same module, the same normal question, the same set of
tools and the same plan. -/
theorem fingerprint_eq_iff (s t : Source)
    (hdigest : (s.messages ∪ t.messages).InjOn Digest.sha256) :
    (s.fingerprint = t.fingerprint ↔
        s.heading = t.heading ∧ s.toolBytes = t.toolBytes ∧ s.planText = t.planText) ∧
      (s.ZeroFree → t.ZeroFree →
        (s.fingerprint = t.fingerprint ↔
          s.tenant = t.tenant ∧ s.module = t.module ∧ s.normalQuestion = t.normalQuestion ∧
            (∀ name, name ∈ s.tools ↔ name ∈ t.tools) ∧ s.planText = t.planText)) := by
  have hbytes : s.fingerprint = t.fingerprint ↔ s.key.bytes = t.key.bytes :=
    hdigest.eq_iff (.inl (.inr rfl)) (.inr (.inr rfl))
  have htools : toolSetDigest s.tools = toolSetDigest t.tools ↔ s.toolBytes = t.toolBytes :=
    hdigest.eq_iff (.inl (.inl rfl)) (.inr (.inl rfl))
  have hparts : s.fingerprint = t.fingerprint ↔
      s.heading = t.heading ∧ s.toolBytes = t.toolBytes ∧ s.planText = t.planText := by
    rw [hbytes, bytes_eq_iff, htools, and_assoc]
  refine ⟨hparts, fun hs ht => ?_⟩
  rw [hparts, heading_eq_iff hs ht, toolBytes_eq_iff hs ht, and_assoc, and_assoc]

/-- Three messages whose digests differ. -/
theorem injOn_of_apart {a b c : List UInt8} (hab : Digest.sha256 a ≠ Digest.sha256 b)
    (hac : Digest.sha256 a ≠ Digest.sha256 c) (hbc : Digest.sha256 b ≠ Digest.sha256 c) :
    ({a, b} ∪ {a, c} : Set (List UInt8)).InjOn Digest.sha256 := by
  rintro x ((rfl | rfl) | (rfl | rfl)) y ((rfl | rfl) | (rfl | rfl)) heq <;>
    first | rfl | exact absurd heq (by assumption) | exact absurd heq.symm (by assumption)

/-- A question of one tenant, and the same question of another with its tools named in another
order. -/
def ofAcme : Source := ⟨"acme", "sales", "Top  customers?", ["orders", "customers"], none⟩

def ofGlobex : Source := ⟨"globex", "sales", "top customers", ["customers", "orders"], none⟩

theorem tenants_told_apart :
    (ofAcme.messages ∪ ofGlobex.messages).InjOn Digest.sha256 ∧ ofAcme.ZeroFree ∧
      ofGlobex.ZeroFree ∧ ofAcme.normalQuestion = ofGlobex.normalQuestion ∧
      (∀ name, name ∈ ofAcme.tools ↔ name ∈ ofGlobex.tools) ∧
      ofAcme.fingerprint ≠ ofGlobex.fingerprint := by
  let tools := Digest.terminated ["customers", "orders"]
  let message (tenant : String) :=
    Digest.terminated [tenant, "sales", "top customers", Digest.sha256 tools, ""]
  have hnames : canonicalNames ["customers", "orders"] = ["customers", "orders"] :=
    canonicalNames_of_ascending (by decide)
  have hsame : ∀ name, name ∈ ofAcme.tools ↔ name ∈ ofGlobex.tools := by
    simp [ofAcme, ofGlobex, or_comm]
  have htools : ofGlobex.toolBytes = tools := congrArg Digest.terminated hnames
  have htools' : ofAcme.toolBytes = tools := by
    rw [← htools, toolBytes, (canonicalNames_eq_iff _ _).mpr hsame, toolBytes]
  have hquestion : ofAcme.normalQuestion = "top customers" := by decide +kernel
  have hquestion' : ofGlobex.normalQuestion = "top customers" := by decide +kernel
  have hkey : ofAcme.key.bytes = message "acme" := by
    rw [bytes_eq, hquestion, toolSetDigest, ← toolBytes, htools']
    rfl
  have hkey' : ofGlobex.key.bytes = message "globex" := by
    rw [bytes_eq, hquestion', toolSetDigest, ← toolBytes, htools]
    rfl
  have hdigest : (ofAcme.messages ∪ ofGlobex.messages).InjOn Digest.sha256 := by
    rw [messages, messages, htools, htools', hkey, hkey']
    exact injOn_of_apart (by decide +kernel) (by decide +kernel) (by decide +kernel)
  have hs : ofAcme.ZeroFree := ⟨by decide, by decide, by decide⟩
  have ht : ofGlobex.ZeroFree := ⟨by decide, by decide, by decide⟩
  refine ⟨hdigest, hs, ht, hquestion.trans hquestion'.symm, hsame, fun heq => ?_⟩
  have htenant := (((fingerprint_eq_iff ofAcme ofGlobex hdigest).2 hs ht).mp heq).1
  exact absurd htenant (by decide)

/-- The tenant `a`, a zero and `b` with the module `c` reads like the tenant `a` with the module
`b`, a zero and `c`. The messages are the same, so no digest could tell these questions apart. -/
theorem zero_shifts_tenant :
    let s : Source := ⟨"a\x00b", "c", "q", [], none⟩
    let t : Source := ⟨"a", "b\x00c", "q", [], none⟩
    s.tenant ≠ t.tenant ∧ s.module ≠ t.module ∧ s.messages = t.messages ∧
      s.fingerprint = t.fingerprint := by
  intro s t
  have hheading : s.heading = t.heading := by decide +kernel
  have hbytes : s.key.bytes = t.key.bytes := (bytes_eq_iff s t).mpr ⟨⟨hheading, rfl⟩, rfl⟩
  have hmessages : s.messages = t.messages := by
    rw [messages, messages, hbytes]
    rfl
  exact ⟨by decide, by decide, hmessages, congrArg Digest.sha256 hbytes⟩

end Source

end AnswerKey

end ResilientChat
