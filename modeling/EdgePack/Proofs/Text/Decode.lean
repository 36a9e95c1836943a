import Mathlib
import EdgePack.Text.Utf8
import EdgePack.Text.Cp437
import EdgePack.Proofs.Bytes

/-!
# Text read back from its bytes

The UTF-8 bytes of a string read back as the string, both leniently as UTF-8
(`Utf8.decodeLossy_toUTF8`) and, for a string of ASCII characters, as code page
437 (`Cp437.decode_toUTF8`).

A character's UTF-8 sequence is a lead byte and up to three continuation bytes
(`String.utf8EncodeChar`). Its lead byte names how many continuation bytes
follow and the range of the first (`Utf8.lead`), and the encoding of a
character always falls in that range: an overlong form, a surrogate or a
number past `0x10FFFF` would leave it, and a character is none of these. So
the reader takes each sequence whole (`Utf8.decodeList_lead`) and rebuilds the
character's number from the low bits of its bytes.
-/

/-- The UTF-8 bytes of a string are the sequences of its characters. -/
theorem String.toUTF8_data_toList (s : String) :
    s.toUTF8.data.toList = s.toList.flatMap String.utf8EncodeChar := by
  conv_lhs => rw [← String.ofList_toList (s := s)]
  rw [String.toUTF8_eq_toByteArray, String.toByteArray_ofList]
  induction s.toList with
  | nil => simp
  | cons c cs ih =>
    rw [List.utf8Encode_cons, ByteArray.toList_data_append, ih, List.utf8Encode_singleton,
      List.toList_data_toByteArray, List.flatMap_cons]

namespace EdgePack

/-! ## Bytes with a tag -/

/-- The low `k` bits of a number, tagged with high bits `t`. -/
theorem and_or_tag (x k t : Nat) (ht : t % 2 ^ k = 0) :
    (x &&& (2 ^ k - 1)) ||| t = x % 2 ^ k + t := by
  obtain ⟨a, rfl⟩ : ∃ a, t = 2 ^ k * a := ⟨t / 2 ^ k, (Nat.mul_div_cancel' (Nat.dvd_of_mod_eq_zero ht)).symm⟩
  rw [Nat.and_two_pow_sub_one_eq_mod, Nat.lor_comm,
    ← Nat.two_pow_add_eq_or_of_lt (Nat.mod_lt _ (Nat.two_pow_pos k))]
  omega

/-- A continuation byte: six bits, tagged `10`. -/
theorem cont_bits (x : Nat) : (x &&& 63) ||| 128 = x % 64 + 128 := and_or_tag x 6 128 rfl

/-- The lead byte of two: five bits, tagged `110`. -/
theorem lead_two_bits (x : Nat) : (x &&& 31) ||| 192 = x % 32 + 192 := and_or_tag x 5 192 rfl

/-- The lead byte of three: four bits, tagged `1110`. -/
theorem lead_three_bits (x : Nat) : (x &&& 15) ||| 224 = x % 16 + 224 := and_or_tag x 4 224 rfl

/-- The lead byte of four: three bits, tagged `11110`. -/
theorem lead_four_bits (x : Nat) : (x &&& 7) ||| 240 = x % 8 + 240 := and_or_tag x 3 240 rfl

namespace Utf8

/-! ## Sequences -/

/-- Continuation bytes: the first in `lo..hi`, the others in `0x80..0xBF`. -/
def Continues (lo hi : UInt8) : List UInt8 → Prop
  | [] => True
  | c :: cs => lo ≤ c ∧ c ≤ hi ∧ Continues 0x80 0xBF cs

/-- Continuation bytes that are all well formed are all taken. -/
theorem wellFormed_of_continues : ∀ (lo hi : UInt8) (cont rest : List UInt8),
    Continues lo hi cont → wellFormed lo hi cont.length (cont ++ rest) = cont.length
  | _, _, [], rest, _ => by cases rest <;> rfl
  | lo, hi, c :: cs, rest, ⟨hlo, hhi, hcs⟩ => by
    rw [List.length_cons, List.cons_append, wellFormed, if_pos ⟨hlo, hhi⟩,
      wellFormed_of_continues 0x80 0xBF cs rest hcs, Nat.add_comm]

/-- A lead byte followed by the continuation bytes it asks for, all well formed,
    is read as one character. -/
theorem decodeList_lead {b : UInt8} {cont : List UInt8} {lo hi : UInt8} (hb : ¬ b < 0x80)
    (hlead : lead b = some (cont.length, lo, hi)) (hcont : Continues lo hi cont)
    (rest : List UInt8) :
    decodeList (b :: (cont ++ rest)) = Char.ofNat (codePoint b cont) :: decodeList rest := by
  rw [decodeList]
  simp only [hb, if_false, hlead, wellFormed_of_continues lo hi cont rest hcont, if_true,
    List.take_left, List.drop_left]

/-- A sequence that a character is encoded as, well formed and with the
    character's number in its low bits, reads back as the character. -/
theorem decodeList_of_sequence {c : Char} {b : UInt8} {cont : List UInt8}
    (henc : String.utf8EncodeChar c = b :: cont) (hb : ¬ b < 0x80)
    (hseq : ∃ lo hi, lead b = some (cont.length, lo, hi) ∧ Continues lo hi cont)
    (hcp : codePoint b cont = c.toNat) (rest : List UInt8) :
    decodeList (String.utf8EncodeChar c ++ rest) = c :: decodeList rest := by
  obtain ⟨lo, hi, hlead, hcont⟩ := hseq
  rw [henc, List.cons_append, decodeList_lead hb hlead hcont, hcp, Char.ofNat_toNat]

/-- The UTF-8 sequence of a character reads back as the character. -/
theorem decodeList_utf8EncodeChar (c : Char) (rest : List UInt8) :
    decodeList (String.utf8EncodeChar c ++ rest) = c :: decodeList rest := by
  have hv : c.toNat = c.val.toNat := rfl
  have hvalid : c.toNat < 0xD800 ∨ (0xDFFF < c.toNat ∧ c.toNat < 0x110000) := c.valid
  rcases c.utf8Size_eq with h | h | h | h
  · -- one byte: ASCII, read as it stands
    have hlt : c.toNat ≤ 0x7F := by
      rw [Char.utf8Size_eq_one_iff, UInt32.le_iff_toNat_le] at h
      exact h
    have hb : c.val.toUInt8.toNat = c.toNat := by
      rw [UInt32.toNat_toUInt8, ← hv]
      omega
    rw [String.utf8EncodeChar_eq_singleton h, List.singleton_append, decodeList,
      if_pos (by rw [UInt8.lt_iff_toNat_lt, hb]; exact Nat.lt_succ_of_le hlt), hb, Char.ofNat_toNat]
  · -- two bytes: a lead byte in `0xC2..0xDF`
    have hr : 0x7F < c.toNat ∧ c.toNat ≤ 0x7FF := by
      rw [Char.utf8Size_eq_two_iff, UInt32.lt_iff_toNat_lt, UInt32.le_iff_toNat_le] at h
      exact h
    obtain ⟨b₀, b₁, henc, hb₀, hb₁⟩ : ∃ b₀ b₁ : UInt8, String.utf8EncodeChar c = [b₀, b₁] ∧
        b₀.toNat = c.toNat / 64 + 192 ∧ b₁.toNat = c.toNat % 64 + 128 := by
      refine ⟨_, _, String.utf8EncodeChar_eq_cons_cons h, ?_, ?_⟩ <;>
        simp only [UInt8.toNat_or, UInt8.toNat_and, UInt32.toNat_toUInt8, UInt32.toNat_shiftRight,
          UInt8.reduceToNat, UInt32.reduceToNat, Nat.reduceMod, Nat.shiftRight_eq_div_pow,
          cont_bits, lead_two_bits, ← hv] <;> omega
    refine decodeList_of_sequence henc (by rw [UInt8.lt_iff_toNat_lt, hb₀]; simp)
      ⟨0x80, 0xBF, ?_, ?_⟩ ?_ rest
    · unfold lead
      simp only [UInt8.lt_iff_toNat_lt, UInt8.reduceToNat, hb₀]
      rw [if_neg (by omega), if_pos (by omega)]
      rfl
    · simp only [Continues, UInt8.le_iff_toNat_le, UInt8.reduceToNat, hb₁, and_true]
      omega
    · simp only [codePoint, List.foldl, UInt8.lt_iff_toNat_lt, UInt8.reduceToNat, hb₀, hb₁]
      rw [if_pos (by omega)]
      omega
  · -- three bytes: the lead byte `0xE0` asks for no overlong form, `0xED` for no surrogate
    have hr : 0x7FF < c.toNat ∧ c.toNat ≤ 0xFFFF := by
      rw [Char.utf8Size_eq_three_iff, UInt32.lt_iff_toNat_lt, UInt32.le_iff_toNat_le] at h
      exact h
    obtain ⟨b₀, b₁, b₂, henc, hb₀, hb₁, hb₂⟩ : ∃ b₀ b₁ b₂ : UInt8,
        String.utf8EncodeChar c = [b₀, b₁, b₂] ∧ b₀.toNat = c.toNat / 4096 + 224 ∧
        b₁.toNat = c.toNat / 64 % 64 + 128 ∧ b₂.toNat = c.toNat % 64 + 128 := by
      refine ⟨_, _, _, String.utf8EncodeChar_eq_cons_cons_cons h, ?_, ?_, ?_⟩ <;>
        simp only [UInt8.toNat_or, UInt8.toNat_and, UInt32.toNat_toUInt8, UInt32.toNat_shiftRight,
          UInt8.reduceToNat, UInt32.reduceToNat, Nat.reduceMod, Nat.shiftRight_eq_div_pow,
          cont_bits, lead_three_bits, ← hv] <;> omega
    refine decodeList_of_sequence henc (by rw [UInt8.lt_iff_toNat_lt, hb₀]; simp) ?_ ?_ rest
    · unfold lead
      simp only [UInt8.lt_iff_toNat_lt, UInt8.reduceToNat, beq_iff_eq, ← UInt8.toNat_inj, hb₀,
        List.length_cons, List.length_nil]
      by_cases hE0 : c.toNat / 4096 = 0
      · refine ⟨0xA0, 0xBF, ?_, ?_⟩
        · rw [if_neg (by omega), if_neg (by omega), if_pos (by omega)]
        · simp only [Continues, UInt8.le_iff_toNat_le, UInt8.reduceToNat, hb₁, hb₂, and_true]
          omega
      by_cases hED : c.toNat / 4096 = 13
      · refine ⟨0x80, 0x9F, ?_, ?_⟩
        · rw [if_neg (by omega), if_neg (by omega), if_neg (by omega), if_pos (by omega)]
        · simp only [Continues, UInt8.le_iff_toNat_le, UInt8.reduceToNat, hb₁, hb₂, and_true]
          omega
      · refine ⟨0x80, 0xBF, ?_, ?_⟩
        · rw [if_neg (by omega), if_neg (by omega), if_neg (by omega), if_neg (by omega),
            if_pos (by omega)]
        · simp only [Continues, UInt8.le_iff_toNat_le, UInt8.reduceToNat, hb₁, hb₂, and_true]
          omega
    · simp only [codePoint, List.foldl, UInt8.lt_iff_toNat_lt, UInt8.reduceToNat, hb₀, hb₁, hb₂]
      rw [if_neg (by omega), if_pos (by omega)]
      omega
  · -- four bytes: the lead byte `0xF0` asks for no overlong form, `0xF4` for nothing past `0x10FFFF`
    have hr : 0xFFFF < c.toNat ∧ c.toNat < 0x110000 := by
      rw [Char.utf8Size_eq_four_iff, UInt32.lt_iff_toNat_lt] at h
      exact ⟨h, by omega⟩
    obtain ⟨b₀, b₁, b₂, b₃, henc, hb₀, hb₁, hb₂, hb₃⟩ : ∃ b₀ b₁ b₂ b₃ : UInt8,
        String.utf8EncodeChar c = [b₀, b₁, b₂, b₃] ∧ b₀.toNat = c.toNat / 262144 + 240 ∧
        b₁.toNat = c.toNat / 4096 % 64 + 128 ∧ b₂.toNat = c.toNat / 64 % 64 + 128 ∧
        b₃.toNat = c.toNat % 64 + 128 := by
      refine ⟨_, _, _, _, String.utf8EncodeChar_eq_cons_cons_cons_cons h, ?_, ?_, ?_, ?_⟩ <;>
        simp only [UInt8.toNat_or, UInt8.toNat_and, UInt32.toNat_toUInt8, UInt32.toNat_shiftRight,
          UInt8.reduceToNat, UInt32.reduceToNat, Nat.reduceMod, Nat.shiftRight_eq_div_pow,
          cont_bits, lead_four_bits, ← hv] <;> omega
    refine decodeList_of_sequence henc (by rw [UInt8.lt_iff_toNat_lt, hb₀]; simp) ?_ ?_ rest
    · unfold lead
      simp only [UInt8.lt_iff_toNat_lt, UInt8.reduceToNat, beq_iff_eq, ← UInt8.toNat_inj, hb₀,
        List.length_cons, List.length_nil]
      by_cases hF0 : c.toNat / 262144 = 0
      · refine ⟨0x90, 0xBF, ?_, ?_⟩
        · rw [if_neg (by omega), if_neg (by omega), if_neg (by omega), if_neg (by omega),
            if_neg (by omega), if_pos (by omega)]
        · simp only [Continues, UInt8.le_iff_toNat_le, UInt8.reduceToNat, hb₁, hb₂, hb₃, and_true]
          omega
      by_cases hF4 : c.toNat / 262144 = 4
      · refine ⟨0x80, 0x8F, ?_, ?_⟩
        · rw [if_neg (by omega), if_neg (by omega), if_neg (by omega), if_neg (by omega),
            if_neg (by omega), if_neg (by omega), if_neg (by omega), if_pos (by omega)]
        · simp only [Continues, UInt8.le_iff_toNat_le, UInt8.reduceToNat, hb₁, hb₂, hb₃, and_true]
          omega
      · refine ⟨0x80, 0xBF, ?_, ?_⟩
        · rw [if_neg (by omega), if_neg (by omega), if_neg (by omega), if_neg (by omega),
            if_neg (by omega), if_neg (by omega), if_pos (by omega)]
        · simp only [Continues, UInt8.le_iff_toNat_le, UInt8.reduceToNat, hb₁, hb₂, hb₃, and_true]
          omega
    · simp only [codePoint, List.foldl, UInt8.lt_iff_toNat_lt, UInt8.reduceToNat, hb₀, hb₁, hb₂,
        hb₃]
      rw [if_neg (by omega), if_neg (by omega)]
      omega

/-- The UTF-8 sequences of characters read back as the characters. -/
theorem decodeList_flatMap (cs : List Char) :
    decodeList (cs.flatMap String.utf8EncodeChar) = cs := by
  induction cs with
  | nil => simp [decodeList]
  | cons c cs ih =>
    rw [List.flatMap_cons, decodeList_utf8EncodeChar, ih]

/-- The UTF-8 bytes of a string read back as the string. -/
theorem decodeLossy_toUTF8 (s : String) : decodeLossy s.toUTF8 = s := by
  rw [decodeLossy, ByteArray.toList_eq, String.toUTF8_data_toList, decodeList_flatMap,
    String.ofList_toList]

end Utf8

/-- The UTF-8 byte of an ASCII character is its code. -/
theorem utf8EncodeChar_of_lt {c : Char} (hc : c.toNat < 128) :
    String.utf8EncodeChar c = [c.val.toUInt8] := by
  apply String.utf8EncodeChar_eq_singleton
  rw [Char.utf8Size_eq_one_iff, UInt32.le_iff_toNat_le]
  exact Nat.le_of_lt_succ hc

/-- The bytes of an ASCII string read back as the string in code page 437,
    whose lower half is ASCII. -/
theorem Cp437.decode_toUTF8 {s : String} (hs : ∀ c ∈ s.toList, c.toNat < 128) :
    Cp437.decode s.toUTF8 = s := by
  have hbytes : ∀ cs : List Char, (∀ c ∈ cs, c.toNat < 128) →
      (cs.flatMap String.utf8EncodeChar).map Cp437.char = cs := by
    intro cs hcs
    induction cs with
    | nil => rfl
    | cons c cs ih =>
      have hc := hcs c List.mem_cons_self
      have hb : c.val.toUInt8.toNat = c.toNat := by
        rw [UInt32.toNat_toUInt8]
        exact Nat.mod_eq_of_lt (by change c.toNat < 256; omega)
      rw [List.flatMap_cons, utf8EncodeChar_of_lt hc, List.singleton_append, List.map_cons,
        ih fun d hd => hcs d (List.mem_cons_of_mem c hd), Cp437.char,
        if_pos (by rw [UInt8.lt_iff_toNat_lt, hb]; exact hc), hb, Char.ofNat_toNat]
  rw [Cp437.decode, ByteArray.toList_eq, String.toUTF8_data_toList, hbytes _ hs,
    String.ofList_toList]

end EdgePack
