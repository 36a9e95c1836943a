import Mathlib
import EdgePack.Proofs.Text.Decode

/-!
# UTF-8 keeps the order of text

Strings are ordered character by character, by the characters' numbers; a
program that compares names as bytes compares their UTF-8 sequences. The two
orders agree (`String.lt_iff_toUTF8_lt`). The lead byte of a sequence grows
with the character's number and its tag tells the length of the sequence, so a
longer sequence starts with a greater byte; within one length the bytes are
the number's digits in base 64 under fixed tags. The first byte where the
sequences of two characters differ therefore decides as the characters do,
whatever follows each (`utf8EncodeChar_append_lt`).
-/

namespace EdgePack.Utf8

/-- The numbers of the bytes of a character's UTF-8 sequence: the lead byte
    holds the high bits of the character's number under a tag giving the
    length, each continuation byte six more bits under the tag `10`. -/
theorem map_toNat_utf8EncodeChar (c : Char) :
    (String.utf8EncodeChar c).map UInt8.toNat =
      if c.toNat < 0x80 then [c.toNat]
      else if c.toNat < 0x800 then [c.toNat / 64 + 192, c.toNat % 64 + 128]
      else if c.toNat < 0x10000 then
        [c.toNat / 4096 + 224, c.toNat / 64 % 64 + 128, c.toNat % 64 + 128]
      else [c.toNat / 262144 + 240, c.toNat / 4096 % 64 + 128, c.toNat / 64 % 64 + 128,
        c.toNat % 64 + 128] := by
  have hv : c.toNat = c.val.toNat := rfl
  have hvalid : c.toNat < 0xD800 ∨ (0xDFFF < c.toNat ∧ c.toNat < 0x110000) := c.valid
  simp only [String.utf8EncodeChar, ← hv]
  split_ifs <;> simp [UInt8.toNat_ofNat] <;> omega

/-- Lists of bytes are ordered as the lists of their numbers. -/
theorem map_toNat_lt_iff : ∀ {l₁ l₂ : List UInt8}, l₁.map UInt8.toNat < l₂.map UInt8.toNat ↔ l₁ < l₂
  | [], [] => by simp
  | [], _ :: _ => by simp
  | _ :: _, [] => by simp
  | a :: l₁, b :: l₂ => by
    rw [List.map_cons, List.map_cons, List.cons_lt_cons_iff, List.cons_lt_cons_iff, map_toNat_lt_iff,
      UInt8.lt_iff_toNat_lt, UInt8.toNat_inj]

/-- A common front leaves the order to what follows it. -/
theorem append_lt_append_left_iff {α : Type} [LT α] [Std.Irrefl (· < · : α → α → Prop)] :
    ∀ (l x y : List α), l ++ x < l ++ y ↔ x < y
  | [], _, _ => Iff.rfl
  | a :: l, x, y => by
    rw [List.cons_append, List.cons_append, List.cons_lt_cons_self, append_lt_append_left_iff l x y]

/-- The UTF-8 sequence of a character comes before the sequence of a greater
    one, whatever follows each. -/
theorem utf8EncodeChar_append_lt {c d : Char} (h : c < d) (x y : List UInt8) :
    String.utf8EncodeChar c ++ x < String.utf8EncodeChar d ++ y := by
  have hcd : c.toNat < d.toNat := UInt32.lt_iff_toNat_lt.1 h
  have hd : d.toNat < 0xD800 ∨ (0xDFFF < d.toNat ∧ d.toNat < 0x110000) := d.valid
  rw [← map_toNat_lt_iff, List.map_append, List.map_append, map_toNat_utf8EncodeChar,
    map_toNat_utf8EncodeChar]
  -- a longer sequence has a greater lead byte, so the first byte decides unless
  -- the lengths agree; then the digits decide before either sequence ends, and
  -- what follows the sequences is never reached
  split_ifs <;> simp only [List.cons_append, List.cons_lt_cons_iff] <;> omega

/-- One character is before another exactly when its UTF-8 sequence is. -/
theorem utf8EncodeChar_append_lt_iff (c d : Char) (x y : List UInt8) :
    String.utf8EncodeChar c ++ x < String.utf8EncodeChar d ++ y ↔ c < d ∨ c = d ∧ x < y := by
  rcases lt_trichotomy c d with hcd | rfl | hdc
  · exact iff_of_true (utf8EncodeChar_append_lt hcd x y) (.inl hcd)
  · -- one sequence in front of both: what follows decides
    rw [append_lt_append_left_iff]
    simp
  · refine iff_of_false (fun hlt => ?_) ?_
    · exact List.lt_asymm (utf8EncodeChar_append_lt hdc y x) hlt
    · rintro (hcd | ⟨rfl, -⟩)
      · exact lt_asymm hcd hdc
      · exact lt_irrefl c hdc

/-- Lists of characters are ordered as their UTF-8 bytes. -/
theorem lt_iff_flatMap_utf8EncodeChar_lt :
    ∀ (cs ds : List Char), cs < ds ↔
      cs.flatMap String.utf8EncodeChar < ds.flatMap String.utf8EncodeChar
  | [], [] => by simp
  | [], d :: ds => by
    obtain ⟨b, bs, hb⟩ := List.exists_cons_of_ne_nil (String.utf8EncodeChar_ne_nil (c := d))
    simp [List.flatMap_cons, hb]
  | _ :: _, [] => by simp
  | c :: cs, d :: ds => by
    rw [List.flatMap_cons, List.flatMap_cons, utf8EncodeChar_append_lt_iff, List.cons_lt_cons_iff,
      lt_iff_flatMap_utf8EncodeChar_lt cs ds]

end EdgePack.Utf8

/-- Strings are ordered as their UTF-8 bytes. -/
theorem String.lt_iff_toUTF8_lt (a b : String) :
    a < b ↔ a.toUTF8.data.toList < b.toUTF8.data.toList := by
  rw [String.lt_iff_toList_lt, String.toUTF8_data_toList, String.toUTF8_data_toList]
  exact EdgePack.Utf8.lt_iff_flatMap_utf8EncodeChar_lt a.toList b.toList
