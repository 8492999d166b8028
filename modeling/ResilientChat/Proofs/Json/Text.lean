import ResilientChat.Json.Writer
import Mathlib.Data.List.Basic

/-!
The characters of JSON text. None of them is a control character, whatever the strings of the
value hold: in a string they are escaped, and nothing else of the text comes from the value but
digits and signs.
-/

namespace ResilientChat.Json

/-- No character of the text stands below the blank. -/
def Visible (s : String) : Prop := ∀ c ∈ s.toList, 0x20 ≤ c.toNat

instance (s : String) : Decidable (Visible s) :=
  List.decidableBAll (fun c : Char => 0x20 ≤ c.toNat) s.toList

theorem Visible.append {s t : String} (hs : Visible s) (ht : Visible t) : Visible (s ++ t) := by
  intro c hc
  rw [String.toList_append, List.mem_append] at hc
  exact hc.elim (hs c) (ht c)

theorem mem_of_mem_intercalate {sep : List Char} {parts : List (List Char)} {c : Char}
    (h : c ∈ sep.intercalate parts) : c ∈ sep ∨ ∃ part ∈ parts, c ∈ part := by
  induction parts with
  | nil => simp at h
  | cons part rest ih =>
      cases rest with
      | nil => exact .inr ⟨part, List.mem_singleton_self part, by simpa using h⟩
      | cons next rest =>
          rw [List.intercalate_cons_cons, List.append_assoc, List.mem_append, List.mem_append] at h
          rcases h with h | h | h
          · exact .inr ⟨part, List.mem_cons_self .., h⟩
          · exact .inl h
          · refine (ih h).imp_right fun ⟨other, hmem, hc⟩ => ?_
            exact ⟨other, List.mem_cons_of_mem _ hmem, hc⟩

theorem visible_intercalate (sep : String) {parts : List String} (hsep : Visible sep)
    (h : ∀ s ∈ parts, Visible s) : Visible (String.intercalate sep parts) := by
  intro c hc
  rw [String.toList_intercalate] at hc
  rcases mem_of_mem_intercalate hc with hc | ⟨part, hpart, hc⟩
  · exact hsep c hc
  · obtain ⟨s, hs, rfl⟩ := List.mem_map.mp hpart
    exact h s hs c hc

section Numbers

theorem le_of_isDigit {c : Char} (h : c.isDigit = true) : 0x20 ≤ c.toNat := by
  simp only [Char.isDigit, Bool.and_eq_true, decide_eq_true_eq] at h
  have hlow : '0'.toNat ≤ c.toNat := h.1
  exact Nat.le_trans (by decide) hlow

theorem le_of_mem_digits {n : Nat} {c : Char} (h : c ∈ Nat.toDigits 10 n) : 0x20 ≤ c.toNat :=
  le_of_isDigit (Nat.isDigit_of_mem_toDigits (by decide) (by decide) h)

theorem visible_int (n : Int) : Visible (toString n) := by
  have hnat (m : Nat) : Visible m.repr := by
    intro c hc
    rw [Nat.toList_repr] at hc
    exact le_of_mem_digits hc
  cases n with
  | ofNat m => exact hnat m
  | negSucc m => exact Visible.append (s := "-") (by decide) (hnat m.succ)

open Decimal

theorem le_of_mem_positional {d : Digits} {c : Char} (h : c ∈ d.positional) : 0x20 ≤ c.toNat := by
  have hmem : c ∈ d.text ∨ c = '0' ∨ c = '.' := by
    simp only [Digits.positional] at h
    split_ifs at h
    · exact .inr (.inl (List.mem_singleton.mp h))
    · exact (List.mem_append.mp h).imp_right fun hzero => .inl (List.eq_of_mem_replicate hzero)
    · rcases List.mem_append.mp h with hbefore | hafter
      · exact .inl (List.mem_of_mem_take hbefore)
      · exact (List.mem_cons.mp hafter).elim (fun hpoint => .inr (.inr hpoint))
          fun hdigit => .inl (List.mem_of_mem_drop hdigit)
    · simp only [List.cons_append, List.mem_cons, List.mem_append, List.mem_replicate] at h
      rcases h with hzero | hpoint | ⟨-, hzero⟩ | hdigit
      · exact .inr (.inl hzero)
      · exact .inr (.inr hpoint)
      · exact .inr (.inl hzero)
      · exact .inl hdigit
  rcases hmem with hdigit | rfl | rfl
  · exact le_of_mem_digits hdigit
  · decide
  · decide

theorem le_of_mem_scientific {d : Digits} {c : Char} (h : c ∈ d.scientific) : 0x20 ≤ c.toNat := by
  have hmem : c ∈ d.text ∨ c = '.' ∨ c = 'e' ∨ c = '-' ∨ c = '+' ∨
      c ∈ Nat.toDigits 10 d.leading.natAbs := by
    simp only [Digits.scientific] at h
    split at h <;> split at h <;> simp_all <;> tauto
  rcases hmem with hdigit | rfl | rfl | rfl | rfl | hdigit
  · exact le_of_mem_digits hdigit
  · decide
  · decide
  · decide
  · decide
  · exact le_of_mem_digits hdigit

theorem visible_numeral {range : PlainRange} {x : Binary} {s : String}
    (h : x.numeral? range = some s) : Visible s := by
  cases x with
  | nan => cases h
  | infinite => cases h
  | finite negative x =>
      have hsign {c : Char} (hc : c ∈ if negative then ['-'] else []) : 0x20 ≤ c.toNat := by
        cases negative with
        | true => exact List.mem_singleton.mp hc ▸ (by decide)
        | false => cases hc
      have hpoint {c : Char} (hc : c ∈ ['.', '0']) : 0x20 ≤ c.toNat := by
        rcases List.mem_pair.mp hc with rfl | rfl <;> decide
      cases h
      intro c hc
      rw [String.toList_ofList, List.mem_append] at hc
      refine hc.elim hsign fun hc => ?_
      split_ifs at hc
      · exact le_of_mem_scientific hc
      · exact (List.mem_append.mp hc).elim le_of_mem_positional hpoint
      · exact le_of_mem_positional hc

theorem visible_number (n : Number) : Visible n.text := by
  have hfloat (range : PlainRange) (x : Binary) : Visible ((x.numeral? range).getD "null") := by
    cases h : x.numeral? range with
    | none => decide
    | some s => exact visible_numeral h
  cases n with
  | int n => exact visible_int n
  | float x => exact hfloat _ _
  | single x => exact hfloat _ _

end Numbers

section Strings

theorem le_of_mem_escapeChar {c d : Char} (h : d ∈ escapeChar c) : 0x20 ≤ d.toNat := by
  let visible (d : Char) : Bool := 0x20 ≤ d.toNat
  have hcode : ∀ n < 0x20, ('\\' :: 'u' :: Text.hexChars 4 n).all visible = true := by decide
  have hall : (escapeChar c).all visible = true := by
    unfold escapeChar
    split
    case h_8 c =>
      split
      · next hlow => exact hcode _ hlow
      · next hhigh => simpa [visible] using Nat.le_of_not_lt hhigh
    all_goals decide
  exact of_decide_eq_true (List.all_eq_true.mp hall d h)

theorem visible_quote (s : String) : Visible (quote s) := by
  have hquote : Visible "\"" := by decide
  refine (hquote.append fun d hd => ?_).append hquote
  rw [String.toList_ofList, List.mem_flatMap] at hd
  obtain ⟨c, -, hd⟩ := hd
  exact le_of_mem_escapeChar hd

end Strings

namespace Value

mutual

/-- The text of a value holds no control characters. -/
theorem visible_text : ∀ v : Value, Visible v.text
  | .null => by decide
  | .bool true => by decide
  | .bool false => by decide
  | .number n => visible_number n
  | .string s => visible_quote s
  | .array items => by
      have hitems := visible_intercalate "," (by decide) (visible_itemTexts items)
      exact (Visible.append (by decide) hitems).append (by decide)
  | .object members => by
      have hmembers := visible_intercalate "," (by decide) (visible_memberTexts members)
      exact (Visible.append (by decide) hmembers).append (by decide)

theorem visible_itemTexts : ∀ items : List Value, ∀ s ∈ itemTexts items, Visible s
  | [] => by simp [itemTexts]
  | v :: rest => by
      rw [itemTexts, List.forall_mem_cons]
      exact ⟨visible_text v, visible_itemTexts rest⟩

theorem visible_memberTexts :
    ∀ members : List (String × Value), ∀ s ∈ memberTexts members, Visible s
  | [] => by simp [memberTexts]
  | (key, v) :: rest => by
      rw [memberTexts, List.forall_mem_cons]
      have hmember := ((visible_quote key).append (t := ":") (by decide)).append (visible_text v)
      exact ⟨hmember, visible_memberTexts rest⟩

end

end Value

end ResilientChat.Json
