import ResilientChat.Chat.Redact

/-!
What a blacked-out result still tells: everything but its texts. Two results are blacked out to the
same value exactly when they differ in nothing but the contents of their strings.
-/

namespace ResilientChat

namespace Chat

mutual

/-- The values differ at most in the contents of their strings. -/
def SameButTexts : Json.Value → Json.Value → Prop
  | .string _, .string _ => True
  | .array items, .array others => ItemsSameButTexts items others
  | .object members, .object others => MembersSameButTexts members others
  | v, w => v = w

def ItemsSameButTexts : List Json.Value → List Json.Value → Prop
  | [], [] => True
  | v :: rest, w :: others => SameButTexts v w ∧ ItemsSameButTexts rest others
  | _, _ => False

/-- Keys are no texts: they are the same. -/
def MembersSameButTexts :
    List (String × Json.Value) → List (String × Json.Value) → Prop
  | [], [] => True
  | (key, v) :: rest, (other, w) :: others =>
      key = other ∧ SameButTexts v w ∧ MembersSameButTexts rest others
  | _, _ => False

end

mutual

theorem redact_eq_iff : ∀ v w : Json.Value, redact v = redact w ↔ SameButTexts v w
  | .string _, w => by cases w <;> simp [redact, SameButTexts]
  | .array items, w => by
      cases w with
      | array others => simpa [redact, SameButTexts] using redactItems_eq_iff items others
      | _ => simp [redact, SameButTexts]
  | .object members, w => by
      cases w with
      | object others => simpa [redact, SameButTexts] using redactMembers_eq_iff members others
      | _ => simp [redact, SameButTexts]
  | .null, w | .bool _, w | .number _, w => by cases w <;> simp [redact, SameButTexts]

theorem redactItems_eq_iff :
    ∀ items others, redactItems items = redactItems others ↔ ItemsSameButTexts items others
  | [], others => by cases others <;> simp [redactItems, ItemsSameButTexts]
  | v :: rest, [] => by simp [redactItems, ItemsSameButTexts]
  | v :: rest, w :: others => by
      simp only [redactItems, ItemsSameButTexts, List.cons.injEq]
      rw [redact_eq_iff v w, redactItems_eq_iff rest others]

theorem redactMembers_eq_iff :
    ∀ members others,
      redactMembers members = redactMembers others ↔ MembersSameButTexts members others
  | [], others => by cases others <;> simp [redactMembers, MembersSameButTexts]
  | (key, v) :: rest, [] => by simp [redactMembers, MembersSameButTexts]
  | (key, v) :: rest, (other, w) :: others => by
      simp only [redactMembers, MembersSameButTexts, List.cons.injEq, Prod.mk.injEq, and_assoc]
      rw [redact_eq_iff v w, redactMembers_eq_iff rest others]

end

mutual

/-- Nothing is left to black out. -/
theorem redact_redact : ∀ v : Json.Value, redact (redact v) = redact v
  | .null | .bool _ | .number _ | .string _ => by simp [redact]
  | .array items => by simp [redact, redactItems_redactItems items]
  | .object members => by simp [redact, redactMembers_redactMembers members]

theorem redactItems_redactItems :
    ∀ items, redactItems (redactItems items) = redactItems items
  | [] => by simp [redactItems]
  | v :: rest => by simp [redactItems, redact_redact v, redactItems_redactItems rest]

theorem redactMembers_redactMembers :
    ∀ members, redactMembers (redactMembers members) = redactMembers members
  | [] => by simp [redactMembers]
  | (key, v) :: rest => by
      simp [redactMembers, redact_redact v, redactMembers_redactMembers rest]

end

end Chat

end ResilientChat
