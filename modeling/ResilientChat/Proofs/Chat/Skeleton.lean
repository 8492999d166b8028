import ResilientChat.Proofs.Chat.Redact
import Mathlib.Data.List.Basic

/-!
The skeleton of a value is what stands at each of its places, apart from the contents of strings. A
result is blacked out to its skeleton and nothing less: two results that are blacked out to the same
value have the same skeleton, and whatever the skeleton says is still there.
-/

namespace ResilientChat

namespace Json.Value

def parts : Value → List Value
  | .array items => items
  | .object members => members.map (·.2)
  | _ => []

/-- The value at the end of a path; each step says which part comes next. -/
def at? : List Nat → Value → Option Value
  | [], v => some v
  | i :: path, v => v.parts[i]?.bind (at? path)

/-- What is seen of a value without its parts and without the contents of a string. -/
inductive Shape where
  | null
  | bool (b : Bool)
  | number (n : Number)
  | text
  | array (size : Nat)
  | object (keys : List String)

def shape : Value → Shape
  | .null => .null
  | .bool b => .bool b
  | .number n => .number n
  | .string _ => .text
  | .array items => .array items.length
  | .object members => .object (members.map (·.1))

/-- The values have the same places, and the same shape at each of them. -/
def SameSkeleton (v w : Value) : Prop :=
  ∀ path, (v.at? path).map shape = (w.at? path).map shape

section Parts

variable {v w : Value}

theorem sizeOf_lt_of_mem_parts {part : Value} (h : part ∈ v.parts) : sizeOf part < sizeOf v := by
  cases v with
  | array items =>
      have hlt : sizeOf part < sizeOf items := List.sizeOf_lt_of_mem h
      simp only [array.sizeOf_spec]
      omega
  | object members =>
      obtain ⟨⟨key, w⟩, hmem, rfl⟩ := List.mem_map.mp h
      have hlt := List.sizeOf_lt_of_mem hmem
      simp only [object.sizeOf_spec, Prod.mk.sizeOf_spec] at *
      omega
  | _ => exact (List.not_mem_nil h).elim

/-- A value is settled once its parts are. -/
theorem induction_on_parts {p : Value → Prop} (h : ∀ v, (∀ part ∈ v.parts, p part) → p v) :
    ∀ v, p v := fun v =>
  h v fun part hmem =>
    have : sizeOf part < sizeOf v := sizeOf_lt_of_mem_parts hmem
    induction_on_parts h part
termination_by v => sizeOf v

theorem length_parts_of_shape (h : v.shape = w.shape) : v.parts.length = w.parts.length := by
  cases v <;> cases w <;>
    simp only [shape, reduceCtorEq, Shape.array.injEq, Shape.object.injEq] at h <;>
    simp only [parts, List.length_map, List.length_nil]
  · exact h
  · simpa using congrArg List.length h

theorem SameSkeleton.shape_eq (h : SameSkeleton v w) : v.shape = w.shape :=
  Option.some.inj (h [])

/-- Parts at the same place have the same skeleton. -/
theorem SameSkeleton.part (h : SameSkeleton v w) {i : Nat} {a b : Value}
    (ha : v.parts[i]? = some a) (hb : w.parts[i]? = some b) : SameSkeleton a b := by
  intro path
  have := h (i :: path)
  simpa only [at?, ha, hb, Option.bind_some] using this

end Parts

end Json.Value

namespace Chat

open Json (Value)
open Json.Value (SameSkeleton)

variable {v w : Value}

theorem redactItems_eq_map (items : List Value) : redactItems items = items.map redact := by
  induction items with
  | nil => rfl
  | cons v rest ih => rw [redactItems, List.map_cons, ih]

theorem redactMembers_eq_map (members : List (String × Value)) :
    redactMembers members = members.map fun m => (m.1, redact m.2) := by
  induction members with
  | nil => rfl
  | cons m rest ih => rw [redactMembers, List.map_cons, ih]

section Shape

theorem shape_redact (v : Value) : (redact v).shape = v.shape := by
  cases v <;>
    simp [redact, Json.Value.shape, redactItems_eq_map, redactMembers_eq_map, Function.comp_def]

theorem parts_redact (v : Value) : (redact v).parts = v.parts.map redact := by
  cases v <;>
    simp [redact, Json.Value.parts, redactItems_eq_map, redactMembers_eq_map, Function.comp_def]

theorem at?_redact (path : List Nat) (v : Value) :
    (redact v).at? path = (v.at? path).map redact := by
  induction path generalizing v with
  | nil => rfl
  | cons i path ih =>
      rw [Json.Value.at?, Json.Value.at?, parts_redact, List.getElem?_map]
      cases v.parts[i]? with
      | none => rfl
      | some part => exact ih part

theorem sameSkeleton_redact (v : Value) : SameSkeleton (redact v) v := by
  intro path
  rw [at?_redact, Option.map_map]
  exact congrArg (Option.map · _) (funext shape_redact)

/-- A blacked-out value is put together from its shape and its blacked-out parts. -/
theorem redact_eq_of_parts (hshape : v.shape = w.shape)
    (hparts : v.parts.map redact = w.parts.map redact) : redact v = redact w := by
  cases v <;> cases w <;> simp only [Json.Value.shape, reduceCtorEq] at hshape
  case array.array items others =>
    rw [redact, redact, redactItems_eq_map, redactItems_eq_map]
    exact congrArg Value.array hparts
  case object.object members others =>
    have hkeys : members.map (·.1) = others.map (·.1) := Json.Value.Shape.object.inj hshape
    simp only [Json.Value.parts, List.map_map] at hparts
    rw [redact, redact, redactMembers_eq_map, redactMembers_eq_map, ← List.zip_map', hkeys,
      ← List.zip_map']
    exact congrArg (fun parts => Value.object ((others.map (·.1)).zip parts)) hparts
  all_goals cases hshape; rfl

theorem redact_eq_of_sameSkeleton (h : SameSkeleton v w) : redact v = redact w := by
  induction v using Json.Value.induction_on_parts generalizing w with
  | h v ih =>
      refine redact_eq_of_parts h.shape_eq (List.ext_getElem ?_ fun i hv hw => ?_)
      · simpa using Json.Value.length_parts_of_shape h.shape_eq
      · rw [List.length_map] at hv hw
        rw [List.getElem_map, List.getElem_map]
        exact ih _ (List.getElem_mem hv)
          (h.part (List.getElem?_eq_getElem hv) (List.getElem?_eq_getElem hw))

theorem redact_eq_iff_sameSkeleton (v w : Value) : redact v = redact w ↔ SameSkeleton v w := by
  refine ⟨fun h path => ?_, redact_eq_of_sameSkeleton⟩
  rw [← sameSkeleton_redact v path, h, sameSkeleton_redact w path]

end Shape

section Canonical

theorem redactMembers_insertMember (key : String) (v : Value) (members : List (String × Value)) :
    redactMembers (Json.insertMember key v members) =
      Json.insertMember key (redact v) (redactMembers members) := by
  induction members with
  | nil => rfl
  | cons m rest ih =>
      simp only [redactMembers, Json.insertMember]
      split_ifs <;> simp only [redactMembers, ih]

theorem any_redactMembers (key : String) (members : List (String × Value)) :
    (redactMembers members).any (·.1 = key) = members.any (·.1 = key) := by
  rw [redactMembers_eq_map, List.any_map]
  rfl

mutual

/-- Members are blacked out in their places: sorting them and dropping repeated keys afterwards
gives what it gives before. -/
theorem canonical_redact : ∀ v : Value, (redact v).canonical = redact v.canonical
  | .null | .bool _ | .number _ | .string _ => rfl
  | .array items => by
      rw [redact, Value.canonical, Value.canonical, redact, canonicalItems_redactItems items]
  | .object members => by
      rw [redact, Value.canonical, Value.canonical, redact, canonicalMembers_redactMembers members]

theorem canonicalItems_redactItems :
    ∀ items, Value.canonicalItems (redactItems items) = redactItems (Value.canonicalItems items)
  | [] => rfl
  | v :: rest => by
      simp only [redactItems, Value.canonicalItems, canonical_redact v,
        canonicalItems_redactItems rest]

theorem canonicalMembers_redactMembers :
    ∀ members, Value.canonicalMembers (redactMembers members) =
      redactMembers (Value.canonicalMembers members)
  | [] => rfl
  | (key, v) :: rest => by
      simp only [redactMembers, Value.canonicalMembers, canonical_redact v,
        canonicalMembers_redactMembers rest, any_redactMembers]
      split_ifs
      · rfl
      · rw [redactMembers_insertMember]

end

end Canonical

/-- Two values are blacked out to the same value exactly if they have the same skeleton: the same
nesting, lengths, keys, numbers, truth values and nulls, and strings in the same places. In what is
made of a value there is a string wherever the value has one, and it says nothing; the skeleton is
that of the value; and there is nothing left to black out. All of this holds as well of objects as
maps, with their members in the order of the keys and the last one of each key, since members
are put in order and dropped alike before and after. -/
theorem redact_keeps_exactly_skeleton (v w : Value) :
    (redact v = redact w ↔ SameSkeleton v w) ∧
      (∀ path s, (redact v).at? path = some (.string s) ↔
        s = blackout ∧ ∃ text, v.at? path = some (.string text)) ∧
      SameSkeleton (redact v) v ∧ redact (redact v) = redact v ∧
      (redact v).canonical = redact v.canonical ∧
      ((redact v).canonical = (redact w).canonical ↔ SameSkeleton v.canonical w.canonical) := by
  refine ⟨redact_eq_iff_sameSkeleton v w, fun path s => ?_, sameSkeleton_redact v,
    redact_redact v, canonical_redact v, ?_⟩
  · rw [at?_redact, Option.map_eq_some_iff]
    constructor
    · rintro ⟨part, hpart, hredact⟩
      cases part <;> simp only [redact, reduceCtorEq, Value.string.injEq] at hredact
      exact ⟨hredact.symm, _, hpart⟩
    · rintro ⟨rfl, text, htext⟩
      exact ⟨.string text, htext, rfl⟩
  · rw [canonical_redact, canonical_redact]
    exact redact_eq_iff_sameSkeleton v.canonical w.canonical

end Chat

end ResilientChat
