import ResilientChat.Proofs.Cache.Key

/-!
The message that stands for a set of tools. Names are put in the order of their bytes, which is the
order of their characters, and each one once; so the message depends on the set alone. It also
determines the set, as long as no name holds the character that ends a name.
-/

namespace ResilientChat

namespace Digest

section ByteOrder

variable {s t : String}

theorem ofNat_lt_ofNat_iff (m n : Nat) :
    UInt8.ofNat m < UInt8.ofNat n ↔ m % 256 < n % 256 := by
  rw [UInt8.lt_iff_toNat_lt, UInt8.toNat_ofNat', UInt8.toNat_ofNat']

theorem ofNat_eq_ofNat_iff (m n : Nat) :
    UInt8.ofNat m = UInt8.ofNat n ↔ m % 256 = n % 256 := by
  rw [← UInt8.toNat_inj, UInt8.toNat_ofNat', UInt8.toNat_ofNat']

theorem toNat_val_lt (c : Char) : c.val.toNat < 0x110000 := by
  rcases c.valid with hlow | ⟨-, hhigh⟩
  · exact hlow.trans (by decide)
  · exact hhigh

/-- A lower character has lower bytes, whatever follows: a longer encoding starts with a higher
byte, and encodings of one length are numbers to the base 64. -/
theorem utf8EncodeChar_append_lt {c d : Char} (h : c < d) (x y : List UInt8) :
    String.utf8EncodeChar c ++ x < String.utf8EncodeChar d ++ y := by
  have hlt : c.val.toNat < d.val.toNat := h
  have hbound := toNat_val_lt d
  have hdigits : ∀ v, v / 4096 = v / 64 / 64 ∧ v / 262144 = v / 64 / 64 / 64 := by omega
  simp only [String.utf8EncodeChar, hdigits]
  generalize c.val.toNat = m at *
  generalize d.val.toNat = n at *
  split_ifs <;>
    simp only [List.cons_append, List.nil_append, List.cons_lt_cons_iff, ofNat_lt_ofNat_iff,
      ofNat_eq_ofNat_iff] <;>
    omega

theorem flatMap_utf8EncodeChar_lt {cs ds : List Char} (h : cs < ds) :
    cs.flatMap String.utf8EncodeChar < ds.flatMap String.utf8EncodeChar := by
  induction cs generalizing ds with
  | nil =>
      cases ds with
      | nil => exact absurd h (List.lt_irrefl [])
      | cons d ds =>
          obtain ⟨b, bs, hbytes⟩ :=
            List.exists_cons_of_ne_nil (String.utf8EncodeChar_ne_nil (c := d))
          rw [List.flatMap_nil, List.flatMap_cons, hbytes]
          exact List.nil_lt_cons b _
  | cons c cs ih =>
      cases ds with
      | nil => exact absurd h (List.not_lt_nil _)
      | cons d ds =>
          rw [List.flatMap_cons, List.flatMap_cons]
          rcases List.cons_lt_cons_iff.mp h with hlt | ⟨rfl, htail⟩
          · exact utf8EncodeChar_append_lt hlt _ _
          · exact List.append_left_lt (ih htail)

/-- Texts are in the order of their bytes. -/
theorem bytesOf_lt_iff : bytesOf s < bytesOf t ↔ s < t := by
  have hlt {s t : String} (h : s < t) : bytesOf s < bytesOf t := by
    rw [bytesOf_eq, bytesOf_eq]
    exact flatMap_utf8EncodeChar_lt h
  refine ⟨fun h => ?_, hlt⟩
  rcases Std.lt_trichotomy s t with hst | rfl | hts
  · exact hst
  · exact absurd h (List.lt_irrefl _)
  · exact absurd (hlt hts) (List.lt_asymm h)

end ByteOrder

end Digest

section ToolMessage

def toolMessage (names : List String) : List UInt8 := Digest.terminated (canonicalNames names)

theorem canonicalNames_in_byte_order (names : List String) :
    (canonicalNames names).Pairwise fun a b => Digest.bytesOf a < Digest.bytesOf b :=
  (canonicalNames_ascending names).imp Digest.bytesOf_lt_iff.mpr

theorem zeroFree_of_mem_canonicalNames {names : List String}
    (h : ∀ name ∈ names, Digest.ZeroFree name) :
    ∀ name ∈ canonicalNames names, Digest.ZeroFree name :=
  fun name hname => h name ((mem_canonicalNames name).mp hname)

/-- What is digested for some tools are their names, each with a zero byte behind it: exactly the
names that were given, each once, in the strict order of their bytes. If the names are free of
zeros, the message is made from no other list of that kind, and two lists give one message exactly
if they hold the same names, in whatever order and however often. -/
theorem same_tool_message_iff_same_names (names others : List String)
    (hnames : ∀ name ∈ names, Digest.ZeroFree name)
    (hothers : ∀ name ∈ others, Digest.ZeroFree name) :
    toolSetDigest names = Digest.sha256 (toolMessage names) ∧
      toolMessage names = (canonicalNames names).flatMap (Digest.bytesOf · ++ [0]) ∧
      (canonicalNames names).Pairwise (fun a b => Digest.bytesOf a < Digest.bytesOf b) ∧
      (∀ name, name ∈ canonicalNames names ↔ name ∈ names) ∧
      (∀ list : List String,
        ((∀ name ∈ list, Digest.ZeroFree name) ∧ Digest.terminated list = toolMessage names) ↔
          list = canonicalNames names) ∧
      (toolMessage names = toolMessage others ↔ ∀ name, name ∈ names ↔ name ∈ others) := by
  have hfree := zeroFree_of_mem_canonicalNames hnames
  have hdetermined (list : List String) (hlist : ∀ name ∈ list, Digest.ZeroFree name) :
      Digest.terminated list = toolMessage names ↔ list = canonicalNames names :=
    Digest.terminated_inj hlist hfree
  refine ⟨rfl, rfl, canonicalNames_in_byte_order names, fun name => mem_canonicalNames name,
    fun list => ⟨fun ⟨hlist, heq⟩ => (hdetermined list hlist).mp heq, ?_⟩, ?_⟩
  · rintro rfl
    exact ⟨hfree, rfl⟩
  · calc
      toolMessage names = toolMessage others
      _ ↔ canonicalNames names = canonicalNames others :=
        Digest.terminated_inj hfree (zeroFree_of_mem_canonicalNames hothers)
      _ ↔ ∀ name, name ∈ names ↔ name ∈ others := canonicalNames_eq_iff names others

/-- An empty name and one that another begins with are told apart from the names that the same
characters would give with the ends of the names elsewhere. -/
theorem ends_of_names_kept :
    let names := ["ab", "", "a", "ab"]
    (∀ name ∈ names, Digest.ZeroFree name) ∧ (∀ name ∈ ["a", "ab", ""], Digest.ZeroFree name) ∧
      (∀ name ∈ ["aab", ""], Digest.ZeroFree name) ∧
      toolMessage names = toolMessage ["a", "ab", ""] ∧
      toolMessage names ≠ toolMessage ["aab", ""] := by
  intro names
  have hnames : ∀ name ∈ names, Digest.ZeroFree name := by decide
  have hothers : ∀ name ∈ ["a", "ab", ""], Digest.ZeroFree name := by decide
  have hjoined : ∀ name ∈ ["aab", ""], Digest.ZeroFree name := by decide
  obtain ⟨-, -, -, -, -, hsame⟩ := same_tool_message_iff_same_names names _ hnames hothers
  obtain ⟨-, -, -, -, -, hapart⟩ := same_tool_message_iff_same_names names _ hnames hjoined
  refine ⟨hnames, hothers, hjoined, hsame.mpr fun name => ?_, fun heq => ?_⟩
  · simp only [names, List.mem_cons, List.not_mem_nil, or_false]
    tauto
  · exact absurd ((hapart.mp heq "a").mp (by decide)) (by decide)

end ToolMessage

end ResilientChat
