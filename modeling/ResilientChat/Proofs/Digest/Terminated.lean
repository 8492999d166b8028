import ResilientChat.Digest.Sha256
import Mathlib.Data.List.Basic

/-!
Texts as parts of a digested message. A part ends with a zero byte, and a text has a zero byte
wherever it has the character of code zero. So a message tells parts apart that are free of that
character, and one that is not can pass for two.
-/

namespace ResilientChat.Digest

/-- The text does not hold the character that looks like the end of a part. -/
def ZeroFree (s : String) : Prop := '\x00' ∉ s.toList

instance (s : String) : Decidable (ZeroFree s) := inferInstanceAs (Decidable (¬_))

section Bytes

theorem byteArray_loop_eq (bs : ByteArray) (i : Nat) (before : List UInt8) :
    ByteArray.toList.loop bs i before = before.reverse ++ bs.data.toList.drop i := by
  fun_induction ByteArray.toList.loop bs i before with
  | case1 i before hlt ih =>
      have hi : i < bs.data.toList.length := by simpa using hlt
      have hget : bs.get! i = bs.data.toList[i] := getElem!_pos bs.data i hlt
      rw [ih, List.drop_eq_getElem_cons hi, hget]
      simp
  | case2 i before hge =>
      have hlength : bs.data.toList.length ≤ i := by simpa using hge
      rw [List.drop_eq_nil_of_le hlength, List.append_nil]

/-- The bytes of a text are those of its characters. -/
theorem bytesOf_eq (s : String) : bytesOf s = s.toList.flatMap String.utf8EncodeChar := by
  rw [bytesOf, ByteArray.toList, byteArray_loop_eq, String.toUTF8, ← String.utf8Encode_toList,
    List.utf8Encode, List.data_toByteArray]
  simp

theorem bytesOf_injective : Function.Injective bytesOf := by
  intro s t h
  have hdata : s.toByteArray.data.toList = t.toByteArray.data.toList := by
    simpa [bytesOf, ByteArray.toList, byteArray_loop_eq] using h
  exact String.toByteArray_inj.mp (ByteArray.ext (Array.toList_inj.mp hdata))

theorem ofNat_eq_zero_iff (n : Nat) : UInt8.ofNat n = 0 ↔ n % 256 = 0 := by
  rw [← UInt8.toNat_inj, UInt8.toNat_ofNat']
  rfl

/-- Only the character of code zero has a zero among its bytes; the bytes of longer encodings have
their highest bit set. -/
theorem zero_mem_utf8EncodeChar (c : Char) : 0 ∈ String.utf8EncodeChar c ↔ c = '\x00' := by
  have hcode : c = '\x00' ↔ c.val.toNat = 0 := by
    rw [Char.ext_iff, ← UInt32.toNat_inj]
    rfl
  have hlt := c.val.toNat_lt
  simp only [String.utf8EncodeChar, hcode]
  split_ifs <;>
    simp only [List.mem_cons, List.not_mem_nil, or_false, eq_comm (a := (0 : UInt8)),
      ofNat_eq_zero_iff] <;>
    omega

theorem zero_mem_bytesOf (s : String) : 0 ∈ bytesOf s ↔ ¬ZeroFree s := by
  simp [bytesOf_eq, ZeroFree, zero_mem_utf8EncodeChar]

end Bytes

section Parts

variable {p q : String} {ps qs : List String}

/-- The first zero byte of a message ends its first part. -/
theorem append_zero_inj {a b r s : List UInt8} (ha : 0 ∉ a) (hb : 0 ∉ b) :
    a ++ 0 :: r = b ++ 0 :: s ↔ a = b ∧ r = s := by
  refine ⟨fun h => ?_, fun ⟨hab, hrs⟩ => by rw [hab, hrs]⟩
  induction a generalizing b with
  | nil =>
      cases b with
      | nil => exact ⟨rfl, List.cons.inj h |>.2⟩
      | cons y b =>
          obtain ⟨rfl, -⟩ := List.cons.inj h
          exact absurd (List.mem_cons_self ..) hb
  | cons x a ih =>
      cases b with
      | nil =>
          obtain ⟨rfl, -⟩ := List.cons.inj h
          exact absurd (List.mem_cons_self ..) ha
      | cons y b =>
          obtain ⟨rfl, htail⟩ := List.cons.inj h
          obtain ⟨rfl, rfl⟩ :=
            ih (fun h => ha (List.mem_cons_of_mem _ h)) (fun h => hb (List.mem_cons_of_mem _ h))
              htail
          exact ⟨rfl, rfl⟩

/-- The last zero byte of a message stands before its last part. -/
theorem append_zero_inj_right {a b r s : List UInt8} (hr : 0 ∉ r) (hs : 0 ∉ s) :
    a ++ 0 :: r = b ++ 0 :: s ↔ a = b ∧ r = s := by
  rw [← List.reverse_inj]
  simp only [List.reverse_append, List.reverse_cons, List.append_assoc, List.singleton_append]
  rw [append_zero_inj (by simpa using hr) (by simpa using hs), List.reverse_inj, List.reverse_inj,
    and_comm]

theorem terminated_cons (p : String) (ps : List String) :
    terminated (p :: ps) = bytesOf p ++ 0 :: terminated ps := by
  simp [terminated]

theorem terminated_append (ps qs : List String) :
    terminated (ps ++ qs) = terminated ps ++ terminated qs := by
  simp [terminated]

theorem terminated_cons_inj (hp : ZeroFree p) (hq : ZeroFree q) :
    terminated (p :: ps) = terminated (q :: qs) ↔ p = q ∧ terminated ps = terminated qs := by
  have hp' : 0 ∉ bytesOf p := fun h => (zero_mem_bytesOf p).mp h hp
  have hq' : 0 ∉ bytesOf q := fun h => (zero_mem_bytesOf q).mp h hq
  rw [terminated_cons, terminated_cons, append_zero_inj hp' hq', bytesOf_injective.eq_iff]

theorem terminated_inj (hps : ∀ p ∈ ps, ZeroFree p) (hqs : ∀ q ∈ qs, ZeroFree q) :
    terminated ps = terminated qs ↔ ps = qs := by
  induction ps generalizing qs with
  | nil =>
      cases qs with
      | nil => exact iff_of_true rfl rfl
      | cons q qs => simp [terminated]
  | cons p ps ih =>
      cases qs with
      | nil => simp [terminated]
      | cons q qs =>
          obtain ⟨hp, hps⟩ := List.forall_mem_cons.mp hps
          obtain ⟨hq, hqs⟩ := List.forall_mem_cons.mp hqs
          rw [terminated_cons_inj hp hq, ih hps hqs, List.cons.injEq]

/-- A last part that is free of zeros is told from those before it, whatever they hold. -/
theorem terminated_concat_inj (hps : ps ≠ []) (hqs : qs ≠ []) (hp : ZeroFree p)
    (hq : ZeroFree q) :
    terminated (ps ++ [p]) = terminated (qs ++ [q]) ↔
      terminated ps = terminated qs ∧ p = q := by
  have hends {rs : List String} (h : rs ≠ []) : ∃ x, terminated rs = x ++ [0] :=
    ⟨terminated rs.dropLast ++ bytesOf (rs.getLast h), by
      conv_lhs => rw [← List.dropLast_append_getLast h]
      simp [terminated]⟩
  obtain ⟨x, hx⟩ := hends hps
  obtain ⟨y, hy⟩ := hends hqs
  have hp' : 0 ∉ bytesOf p := fun h => (zero_mem_bytesOf p).mp h hp
  have hq' : 0 ∉ bytesOf q := fun h => (zero_mem_bytesOf q).mp h hq
  have hsplit (z : List UInt8) (r : String) :
      z ++ [0] ++ terminated [r] = (z ++ 0 :: bytesOf r) ++ [0] := by
    simp [terminated]
  rw [terminated_append, terminated_append, hx, hy, hsplit, hsplit, List.append_left_inj,
    append_zero_inj_right hp' hq', bytesOf_injective.eq_iff, List.append_left_inj]

end Parts

/-- Hexadecimal digits are free of zeros. -/
theorem hex_zeroFree (bytes : List UInt8) : ZeroFree (hex bytes) := by
  have hdigit (n : Nat) : '\x00' ≠ hexDigits.getD n '0' := by
    intro heq
    have hmem : hexDigits.getD n '0' ∈ '0' :: hexDigits := by
      rw [List.getD_eq_getElem?_getD]
      cases hget : hexDigits[n]? with
      | none => exact List.mem_cons_self ..
      | some d => exact List.mem_cons_of_mem _ (List.mem_of_getElem? hget)
    rw [← heq] at hmem
    exact absurd hmem (by decide)
  simp only [ZeroFree, hex, String.toList_ofList, List.mem_flatMap, List.mem_cons,
    List.not_mem_nil, or_false, hdigit, and_false, exists_false, not_false_eq_true]

theorem sha256_zeroFree (message : List UInt8) : ZeroFree (sha256 message) := hex_zeroFree _

end ResilientChat.Digest
