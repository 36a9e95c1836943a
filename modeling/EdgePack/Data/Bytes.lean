/-!
# Byte strings

Little-endian words and singles in byte strings, and the hexadecimal text of
bytes (two lower-case digits each; reading accepts either case).

A single stored in bytes is kept as its 32 bits (`Single`): copying it keeps
every bit, the payload of a NaN included, while a `Float32` stands for the
number only and has one NaN. Arithmetic reads a single as a `Float32`.
-/

namespace EdgePack

/-- A single-precision float as the 32 bits that store it. -/
structure Single where
  bits : UInt32
  deriving DecidableEq, Inhabited, Repr

namespace Single

/-- The bits of a `Float32`. -/
def ofFloat32 (x : Float32) : Single := ⟨x.toBits⟩

/-- The number the bits stand for, as a `Float32`. -/
def toFloat32 (x : Single) : Float32 := Float32.ofBits x.bits

end Single

namespace Bytes

/-- The little-endian bytes of the low `n` bytes of a number. -/
def leBytes (n : Nat) (v : Nat) : List UInt8 :=
  (List.range n).map fun i => (v / Nat.pow 2 (8 * i) % 256).toUInt8

/-- The number held little-endian in a list of bytes. -/
def leValue (bs : List UInt8) : Nat :=
  bs.foldr (fun b acc => acc * 256 + b.toNat) 0

/-- The little-endian bytes of a single. -/
def ofSingle (x : Single) : List UInt8 := leBytes 4 x.bits.toNat

/-- The singles held in a byte string, four bytes each; a shorter tail is ignored. -/
def singles (d : ByteArray) : List Single :=
  (List.range (d.size / 4)).map fun i => ⟨(leValue (d.extract (4 * i) (4 * i + 4)).toList).toUInt32⟩

/-- A byte string of singles. -/
def ofSingles (xs : List Single) : ByteArray := ⟨(xs.flatMap ofSingle).toArray⟩

/-- The hexadecimal digits. -/
def hexDigits : List Char := "0123456789abcdef".toList

/-- The text of bytes in hexadecimal, two lower-case digits each. -/
def toHex (d : ByteArray) : String :=
  String.ofList (d.toList.flatMap fun b => [hexDigits.getD (b.toNat / 16) '0', hexDigits.getD (b.toNat % 16) '0'])

/-- The value of a hexadecimal digit of either case. -/
def hexDigit? (c : Char) : Option Nat :=
  if '0' ≤ c ∧ c ≤ '9' then some (c.toNat - '0'.toNat)
  else if 'a' ≤ c ∧ c ≤ 'f' then some (c.toNat - 'a'.toNat + 10)
  else if 'A' ≤ c ∧ c ≤ 'F' then some (c.toNat - 'A'.toNat + 10)
  else none

/-- Reads bytes from hexadecimal text: `none` for an odd length or a character
    that is not a hex digit. -/
def ofHex? (s : String) : Option ByteArray :=
  let rec go : List Char → Array UInt8 → Option (Array UInt8)
    | [], acc => some acc
    | [_], _ => none
    | a :: b :: rest, acc => do
      let x ← hexDigit? a
      let y ← hexDigit? b
      go rest (acc.push (x * 16 + y).toUInt8)
  (go s.toList #[]).map ByteArray.mk

end Bytes

end EdgePack
