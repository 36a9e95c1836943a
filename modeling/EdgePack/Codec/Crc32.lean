/-!
# CRC-32

The cyclic redundancy check of ZIP and PNG: the bits of each byte enter lowest
first, the register starts with every bit set and is inverted at the end, and
the generator is the reflected polynomial `0xEDB88320`.

* `Crc32.step`: one byte into the register, eight shifts of one bit;
* `Crc32.ofBytes`: the check of a whole byte string, so that
  `Crc32.ofBytes "123456789".toUTF8 = 0xCBF43926`.
-/

namespace EdgePack.Crc32

/-- The generator polynomial, bits reflected. -/
def polynomial : UInt32 := 0xEDB88320

/-- One shift of the register: out goes the lowest bit, and the generator is
    added when that bit was set. -/
def shift (r : UInt32) : UInt32 :=
  if r &&& 1 == 1 then (r >>> 1) ^^^ polynomial else r >>> 1

/-- The register after eight shifts from `r`: the contribution of one byte. -/
def shift8 (r : UInt32) : UInt32 :=
  shift (shift (shift (shift (shift (shift (shift (shift r)))))))

/-- The contribution of each byte value, computed once. -/
def table : Array UInt32 :=
  (List.range 256).toArray.map fun i => shift8 i.toUInt32

/-- The register after one more byte. -/
def step (r : UInt32) (b : UInt8) : UInt32 :=
  let i := ((r ^^^ b.toUInt32) &&& 0xFF).toNat
  (table.getD i 0) ^^^ (r >>> 8)

/-- The register after the bytes of `data`, from `r`. -/
def update (r : UInt32) (data : ByteArray) : UInt32 := data.foldl step r

/-- The check of a byte string. -/
def ofBytes (data : ByteArray) : UInt32 := update 0xFFFFFFFF data ^^^ 0xFFFFFFFF

end EdgePack.Crc32
