/-!
# Reading UTF-8 leniently

Bytes that should be UTF-8 but need not be are read with each ill-formed part
replaced by U+FFFD: a lead byte with the continuation bytes that still fit a
well-formed sequence is one ill-formed part, so that the byte which breaks the
sequence is read again as the start of the next one (the replacement of
maximal subparts).

* `Utf8.lead`: the ranges the second byte of a sequence must fall in, by lead byte;
* `Utf8.decodeLossy`: the text of a byte string.
-/

namespace EdgePack.Utf8

/-- The replacement character. -/
def replacement : Char := '�'

/-- For a lead byte, the number of continuation bytes and the range of the first
    of them; none for a byte that starts no sequence. -/
def lead (b : UInt8) : Option (Nat × UInt8 × UInt8) :=
  if b < 0xC2 then none
  else if b < 0xE0 then some (1, 0x80, 0xBF)
  else if b == 0xE0 then some (2, 0xA0, 0xBF)
  else if b == 0xED then some (2, 0x80, 0x9F)
  else if b < 0xF0 then some (2, 0x80, 0xBF)
  else if b == 0xF0 then some (3, 0x90, 0xBF)
  else if b < 0xF4 then some (3, 0x80, 0xBF)
  else if b == 0xF4 then some (3, 0x80, 0x8F)
  else none

/-- How many of the `need` continuation bytes at the front of `bs` are well
    formed, the first in `lo..hi` and the others in `0x80..0xBF`. -/
def wellFormed (lo hi : UInt8) : Nat → List UInt8 → Nat
  | 0, _ => 0
  | _, [] => 0
  | need + 1, b :: bs => if lo ≤ b ∧ b ≤ hi then 1 + wellFormed 0x80 0xBF need bs else 0

/-- The code point of a lead byte and its continuation bytes. -/
def codePoint (b : UInt8) (cont : List UInt8) : Nat :=
  let bits := if b < 0xE0 then b.toNat % 32 else if b < 0xF0 then b.toNat % 16 else b.toNat % 8
  cont.foldl (fun acc c => acc * 64 + c.toNat % 64) bits

/-- The characters of `bs`, one pass per sequence. -/
def decodeList : List UInt8 → List Char
  | [] => []
  | b :: bs =>
    if b < 0x80 then Char.ofNat b.toNat :: decodeList bs
    else
      match lead b with
      | none => replacement :: decodeList bs
      | some (need, lo, hi) =>
        let k := wellFormed lo hi need bs
        if k = need then Char.ofNat (codePoint b (bs.take need)) :: decodeList (bs.drop need)
        else replacement :: decodeList (bs.drop k)
termination_by bs => bs.length
decreasing_by all_goals simp only [List.length_drop, List.length_cons]; all_goals omega

/-- The text of a byte string, each ill-formed part replaced by U+FFFD. -/
def decodeLossy (data : ByteArray) : String := String.ofList (decodeList data.toList)

end EdgePack.Utf8
