import Mathlib
import EdgePack.Codec.Deflate

/-!
# Stored blocks read back

A stream of stored blocks reads back as the bytes it was made from
(`inflate_storedBlocks`).

The reader is run on its input from a cursor (`BitM.exec`). From a bit
position, `bits n` reads the number that the next `n` bits spell, lowest first
(`bitsAt`); at a byte boundary eight bits are the byte there and sixteen the
little-endian word of two bytes. A stored block at a byte boundary is then read
whole: its header byte marks it as stored and says whether it is the last, its
length and the length's complement agree, and its bytes are appended to the
output (`exec_blocks_stored`). `storedBlocks` writes the data in blocks of at
most `storedMax` bytes, only the last one marked, so the reader goes through
them in order and stops after the last (`exec_blocks_go`).
-/

namespace EdgePack.Deflate

/-! ## Running the reader -/

/-- A reader run on `data` from the cursor `c`: its answer and the cursor after. -/
def BitM.exec {α : Type} (x : BitM α) (data : ByteArray) (c : Cursor) :
    Except InflateError α × Cursor :=
  (x.run data).run.run c

namespace BitM

variable {α β : Type} (data : ByteArray) (c : Cursor)

theorem exec_bind_ok {x : BitM α} (f : α → BitM β) {data : ByteArray} {c c' : Cursor} {a : α}
    (hx : x.exec data c = (.ok a, c')) : (x >>= f).exec data c = (f a).exec data c' := by
  simp only [exec] at hx ⊢
  simp only [ReaderT.run_bind, ExceptT.run_bind, StateT.run_bind, hx]
  rfl

theorem exec_read : (read : BitM ByteArray).exec data c = (.ok data, c) := rfl
theorem exec_get : (get : BitM Cursor).exec data c = (.ok c, c) := rfl
theorem exec_set (c' : Cursor) : (set c' : BitM Unit).exec data c = (.ok (), c') := rfl
theorem exec_modify (f : Cursor → Cursor) : (modify f : BitM Unit).exec data c = (.ok (), f c) :=
  rfl
theorem exec_pure (a : α) : (pure a : BitM α).exec data c = (.ok a, c) := rfl
theorem exec_throw (e : InflateError) : (throw e : BitM α).exec data c = (.error e, c) := rfl

end BitM

open BitM

/-! ## Bits -/

/-- The bit at position `p` of a byte string, the lowest bit of each byte first;
    past the end, zero. -/
def bitAt (data : ByteArray) (p : Nat) : Nat :=
  ((data.data.toList.getD (p / 8) 0).toNat >>> (p % 8)) % 2

/-- The number spelt by the `n` bits from position `p`, the first one lowest. -/
def bitsAt (data : ByteArray) (p : Nat) : Nat → Nat
  | 0 => 0
  | n + 1 => bitAt data p + 2 * bitsAt data (p + 1) n

variable {data : ByteArray}

theorem exec_bit (c : Cursor) (h : c.pos < 8 * data.size) :
    bit.exec data c = (.ok (bitAt data c.pos), { c with pos := c.pos + 1 }) := by
  have hlt : c.pos / 8 < data.size := by omega
  have hget : data[c.pos / 8]? = some (data.data.toList.getD (c.pos / 8) 0) := by
    rw [getElem?_pos data (c.pos / 8) hlt, ByteArray.getElem_eq_getElem_data,
      List.getD_eq_getElem _ _ (by simpa using hlt), Array.getElem_toList]
  unfold bit
  rw [exec_bind_ok _ (exec_read data c), exec_bind_ok _ (exec_get data c)]
  simp only [hget]
  rw [exec_bind_ok _ (exec_set data c _)]
  rfl

/-- Reading `n` bits that are all there reads the number they spell. -/
theorem exec_bits : ∀ (n : Nat) (c : Cursor), c.pos + n ≤ 8 * data.size →
    (bits n).exec data c = (.ok (bitsAt data c.pos n), { c with pos := c.pos + n })
  | 0, c, _ => rfl
  | n + 1, c, h => by
    unfold bits
    rw [exec_bind_ok _ (exec_bit c (by omega)),
      exec_bind_ok _ (exec_bits n { c with pos := c.pos + 1 } (by simp only; omega))]
    simp only [exec_pure, bitsAt, Nat.add_assoc, Nat.add_comm 1 n]

/-- Reading `m + n` bits is reading `m`, then `n` worth `2 ^ m` each. -/
theorem bitsAt_add (p m n : Nat) :
    bitsAt data p (m + n) = bitsAt data p m + 2 ^ m * bitsAt data (p + m) n := by
  induction m generalizing p with
  | zero => simp [bitsAt]
  | succ m ih =>
    have hpos : p + 1 + m = p + (m + 1) := by omega
    rw [show m + 1 + n = (m + n) + 1 by omega, bitsAt, ih, bitsAt, hpos, Nat.pow_succ]
    ring

/-- Bits within one byte, from its `r`-th on. -/
theorem bitsAt_within_byte (q : Nat) : ∀ (i r : Nat), r + i ≤ 8 →
    bitsAt data (8 * q + r) i = ((data.data.toList.getD q 0).toNat >>> r) % 2 ^ i
  | 0, r, _ => by simp [bitsAt, Nat.mod_one]
  | i + 1, r, h => by
    have hbit : bitAt data (8 * q + r) = ((data.data.toList.getD q 0).toNat >>> r) % 2 := by
      have hdiv : (8 * q + r) / 8 = q := by omega
      have hmod : (8 * q + r) % 8 = r := by omega
      simp only [bitAt, hdiv, hmod]
    rw [bitsAt, hbit, Nat.add_assoc, bitsAt_within_byte q i (r + 1) (by omega),
      Nat.shiftRight_succ, Nat.pow_succ', Nat.mod_mul]

/-- At a byte boundary, eight bits are the byte. -/
theorem bitsAt_byte (q : Nat) : bitsAt data (8 * q) 8 = (data.data.toList.getD q 0).toNat := by
  have h := @bitsAt_within_byte data q 8 0 le_rfl
  rw [Nat.add_zero, Nat.shiftRight_zero] at h
  rw [h]
  exact Nat.mod_eq_of_lt (UInt8.toNat_lt _)

/-- At a byte boundary, sixteen bits are the little-endian word of two bytes. -/
theorem bitsAt_word (q : Nat) : bitsAt data (8 * q) 16 =
    (data.data.toList.getD q 0).toNat + 256 * (data.data.toList.getD (q + 1) 0).toNat := by
  rw [show (16 : Nat) = 8 + 8 from rfl, bitsAt_add, bitsAt_byte,
    show 8 * q + 8 = 8 * (q + 1) by ring, bitsAt_byte]
  rfl

/-! ## One stored block -/

/-- The header of a stored block of `len` bytes, marked last or not. -/
def storedHeader (last : Bool) (len : Nat) : List UInt8 :=
  [if last then 1 else 0, (len % 256).toUInt8, (len / 256).toUInt8,
    ((0xFFFF - len) % 256).toUInt8, ((0xFFFF - len) / 256).toUInt8]

/-- The two bytes of a header word read back as the word. -/
theorem word_toUInt8 {n : Nat} (hn : n ≤ 0xFFFF) :
    (n % 256).toUInt8.toNat + 256 * (n / 256).toUInt8.toNat = n := by
  have hlo : (n % 256).toUInt8.toNat = n % 256 := by simp [Nat.toUInt8]
  have hhi : (n / 256).toUInt8.toNat = n / 256 := by
    simp only [Nat.toUInt8]
    exact Nat.mod_eq_of_lt (by omega)
  rw [hlo, hhi]
  omega

theorem exec_align (c : Cursor) :
    align.exec data c = (.ok (), { c with pos := (c.pos + 7) / 8 * 8 }) := rfl

section Block

variable {X rest : List UInt8} {chunk : ByteArray} {last : Bool}

theorem size_of_stored (hdata : data.data.toList = X ++ storedHeader last chunk.size ++ chunk.data.toList ++ rest) :
    data.size = X.length + 5 + chunk.size + rest.length := by
  rw [← ByteArray.size_data, ← Array.length_toList, hdata]
  simp [storedHeader]
  omega

theorem getD_of_stored (hdata : data.data.toList = X ++ storedHeader last chunk.size ++ chunk.data.toList ++ rest)
    (i : Nat) (hi : i < 5) :
    data.data.toList.getD (X.length + i) 0 = (storedHeader last chunk.size).getD i 0 := by
  rw [hdata, List.append_assoc, List.append_assoc, List.getD_append_right _ _ _ _ (by omega),
    Nat.add_sub_cancel_left, List.getD_append _ _ _ _ (by simp [storedHeader]; omega)]

theorem extract_of_stored (hdata : data.data.toList = X ++ storedHeader last chunk.size ++ chunk.data.toList ++ rest) :
    data.extract (X.length + 5) (X.length + 5 + chunk.size) = chunk := by
  apply ByteArray.ext
  apply Array.toList_inj.1
  rw [ByteArray.data_extract, Array.toList_extract, hdata]
  simp [List.extract_eq_take_drop, storedHeader, List.drop_append, List.take_append]

/-- The body of a stored block, after its header's first three bits: its
    length and the length's complement, then its bytes, appended to the output. -/
theorem exec_storedBlock (hlen : chunk.size ≤ storedMax)
    (hdata : data.data.toList = X ++ storedHeader last chunk.size ++ chunk.data.toList ++ rest)
    (o : ByteArray) :
    storedBlock.exec data ⟨8 * X.length + 3, o⟩ =
      (.ok (), ⟨8 * (X.length + 5 + chunk.size), o ++ chunk⟩) := by
  have hmax : chunk.size ≤ 0xFFFF := hlen
  have hsize := size_of_stored hdata
  have hbyte := getD_of_stored hdata
  have hlenw : bitsAt data (8 * (X.length + 1)) 16 = chunk.size := by
    rw [bitsAt_word, hbyte 1 (by omega), show X.length + 1 + 1 = X.length + 2 by omega,
      hbyte 2 (by omega)]
    exact word_toUInt8 hlen
  have hnlenw : bitsAt data (8 * (X.length + 3)) 16 = 0xFFFF - chunk.size := by
    rw [bitsAt_word, hbyte 3 (by omega), show X.length + 3 + 1 = X.length + 4 by omega,
      hbyte 4 (by omega)]
    exact word_toUInt8 (by omega)
  have hal : (8 * X.length + 3 + 7) / 8 * 8 = 8 * (X.length + 1) := by omega
  have hsum : (chunk.size + (65535 - chunk.size) != 65535) = false := by
    simp only [bne_eq_false_iff_eq]
    omega
  unfold storedBlock
  rw [exec_bind_ok _ (exec_align _)]
  dsimp only
  rw [hal, exec_bind_ok _ (exec_bits 16 ⟨8 * (X.length + 1), o⟩ (by dsimp only; omega))]
  dsimp only
  rw [hlenw, show 8 * (X.length + 1) + 16 = 8 * (X.length + 3) by omega,
    exec_bind_ok _ (exec_bits 16 ⟨8 * (X.length + 3), o⟩ (by dsimp only; omega))]
  dsimp only
  rw [hnlenw, hsum]
  simp only [Bool.false_eq_true, if_false]
  rw [exec_bind_ok _ (exec_read _ _), exec_bind_ok _ (exec_get _ _), exec_bind_ok _ (exec_set _ _ _)]
  -- the bytes start at a byte boundary and are all there
  have hstart : (8 * (X.length + 3) + 16) / 8 = X.length + 5 := by omega
  have hstop : min (X.length + 5 + chunk.size) data.size = X.length + 5 + chunk.size := by
    omega
  dsimp only
  rw [hstart, hstop, extract_of_stored hdata, if_neg (by omega), exec_pure, Nat.mul_comm]

/-- A stored block at a byte boundary is read whole: its bytes are appended to
    the output, and the reader goes on after it unless it is the last. -/
theorem exec_blocks_stored (fuel : Nat) (hlen : chunk.size ≤ storedMax)
    (hdata : data.data.toList = X ++ storedHeader last chunk.size ++ chunk.data.toList ++ rest)
    (o : ByteArray) :
    (blocks (fuel + 1)).exec data ⟨8 * X.length, o⟩ =
      if last then (.ok (), ⟨8 * (X.length + 5 + chunk.size), o ++ chunk⟩)
      else (blocks fuel).exec data ⟨8 * (X.length + 5 + chunk.size), o ++ chunk⟩ := by
  have hsize := size_of_stored hdata
  -- the header byte is one or zero: its lowest bit marks the last block, the next two are zero
  have hhead : (data.data.toList.getD X.length 0).toNat = if last then 1 else 0 := by
    have h := getD_of_stored hdata 0 (by omega)
    rw [Nat.add_zero] at h
    rw [h]
    cases last <;> rfl
  have hlast : bitAt data (8 * X.length) = if last then 1 else 0 := by
    simp only [bitAt, show 8 * X.length / 8 = X.length by omega,
      show 8 * X.length % 8 = 0 by omega, hhead]
    cases last <;> rfl
  have hkind : bitsAt data (8 * X.length + 1) 2 = 0 := by
    rw [bitsAt_within_byte X.length 2 1 (by omega), hhead]
    cases last <;> rfl
  rw [blocks, exec_bind_ok _ (exec_bit _ (by dsimp only; omega))]
  dsimp only
  rw [exec_bind_ok _ (exec_bits 2 ⟨8 * X.length + 1, o⟩ (by dsimp only; omega))]
  dsimp only
  rw [hkind, hlast, show 8 * X.length + 1 + 2 = 8 * X.length + 3 by omega]
  simp only
  rw [exec_bind_ok _ (exec_storedBlock hlen hdata o)]
  cases last
  · rfl
  · rfl

end Block

/-! ## A stream of stored blocks -/

namespace storedBlocks

variable (d : ByteArray)

/-- The stream from `pos` on follows what is written so far. -/
theorem go_append : ∀ (fuel pos : Nat) (acc : ByteArray), go d fuel pos acc = acc ++ go d fuel pos .empty
  | 0, _, acc => by simp [go]
  | fuel + 1, pos, acc => by
    simp only [go]
    split
    · simp [ByteArray.append_assoc]
    · rw [go_append fuel _ (acc ++ _ ++ _), go_append fuel _ (ByteArray.empty ++ _ ++ _)]
      simp [ByteArray.append_assoc]

/-- One more block of the stream from `pos`: at most `storedMax` bytes, marked last
    when they reach the end. -/
theorem go_succ (fuel pos : Nat) :
    (go d (fuel + 1) pos .empty).data.toList =
      storedHeader (decide (pos + min storedMax (d.size - pos) ≥ d.size)) (min storedMax (d.size - pos)) ++
        (d.extract pos (pos + min storedMax (d.size - pos))).data.toList ++
        (if pos + min storedMax (d.size - pos) ≥ d.size then []
          else (go d fuel (pos + min storedMax (d.size - pos)) .empty).data.toList) := by
  simp only [go]
  split
  · rename_i hlast
    simp [storedHeader, hlast]
  · rename_i hlast
    rw [go_append]
    simp [storedHeader, hlast]

/-- The stream from `pos` on holds at least the data from there and a header. -/
theorem le_size_go : ∀ (fuel pos : Nat), pos ≤ d.size → d.size < pos + storedMax * fuel →
    d.size - pos + 5 ≤ (go d fuel pos .empty).size
  | 0, _, _, hlt => absurd hlt (by omega)
  | fuel + 1, pos, hpos, hlt => by
    have hmax : storedMax = 0xFFFF := rfl
    have hgo := congrArg List.length (go_succ d fuel pos)
    rw [Array.length_toList, ByteArray.size_data] at hgo
    rw [hgo]
    split
    · simp [storedHeader]
      omega
    · rename_i hlast
      have hrest := le_size_go fuel (pos + min storedMax (d.size - pos)) (by omega)
        (by rw [hmax] at hlt ⊢; omega)
      simp [storedHeader]
      omega

/-- The blocks of the stream from `pos` on, standing at a byte boundary of the
    input, are read one by one up to the last: the output gains the data from
    `pos` on, and the reader stops right after the stream. -/
theorem exec_blocks_go : ∀ (fuel fuel' pos : Nat) (X rest : List UInt8) (o : ByteArray),
    fuel ≤ fuel' → pos ≤ d.size → d.size < pos + storedMax * fuel →
    data.data.toList = X ++ (go d fuel pos .empty).data.toList ++ rest →
    (blocks fuel').exec data ⟨8 * X.length, o⟩ =
      (.ok (), ⟨8 * (X.length + (go d fuel pos .empty).size), o ++ d.extract pos d.size⟩)
  | 0, _, pos, _, _, _, _, hpos, hlt, _ => absurd hlt (by omega)
  | fuel + 1, fuel', pos, X, rest, o, hfuel, hpos, hlt, hdata => by
    obtain ⟨fuel', rfl⟩ : ∃ f, fuel' = f + 1 := ⟨fuel' - 1, by omega⟩
    -- the next block holds `len` bytes from `pos`, all of them there
    have hmax : storedMax = 0xFFFF := rfl
    have hgo := go_succ d fuel pos
    set len := min storedMax (d.size - pos) with hlen
    rw [hmax] at hlen hlt
    have hchunk : (d.extract pos (pos + len)).size = len := by
      rw [ByteArray.size_extract]
      omega
    have hsize : (go d (fuel + 1) pos .empty).size = 5 + len +
        (if pos + len ≥ d.size then 0 else (go d fuel (pos + len) .empty).size) := by
      rw [← ByteArray.size_data, ← Array.length_toList, hgo]
      split <;> simp [storedHeader] <;> omega
    rw [hgo] at hdata
    by_cases hlast : pos + len ≥ d.size
    · -- the last block: it holds the data up to its end
      simp only [hlast, decide_true, if_true, List.append_nil] at hdata hsize
      have hblock : data.data.toList = X ++ storedHeader true (d.extract pos (pos + len)).size ++
          (d.extract pos (pos + len)).data.toList ++ rest := by
        rw [hchunk, hdata]
        simp only [List.append_assoc]
      rw [exec_blocks_stored fuel' (by rw [hchunk, hmax]; omega) hblock, if_pos rfl, hsize, hchunk,
        show pos + len = d.size by omega]
      simp only [Nat.add_zero, Nat.add_assoc]
    · -- a block before the last: the rest of the stream follows it
      simp only [hlast, decide_false, if_false] at hdata hsize
      have hblock : data.data.toList = X ++ storedHeader false (d.extract pos (pos + len)).size ++
          (d.extract pos (pos + len)).data.toList ++
            ((go d fuel (pos + len) .empty).data.toList ++ rest) := by
        rw [hchunk, hdata]
        simp only [List.append_assoc]
      rw [exec_blocks_stored fuel' (by rw [hchunk, hmax]; omega) hblock, if_neg Bool.false_ne_true]
      have hrest := exec_blocks_go fuel fuel' (pos + len)
        (X ++ storedHeader false (d.extract pos (pos + len)).size ++
          (d.extract pos (pos + len)).data.toList) rest (o ++ d.extract pos (pos + len))
        (by omega) (by omega) (by rw [hmax]; omega) (by rw [hblock]; simp only [List.append_assoc])
      have hlen₁ : (X ++ storedHeader false (d.extract pos (pos + len)).size ++
          (d.extract pos (pos + len)).data.toList).length = X.length + 5 + len := by
        simp [storedHeader, hchunk]
        omega
      rw [hlen₁] at hrest
      rw [hchunk, hrest, hsize, ByteArray.append_assoc, ByteArray.extract_append_extract,
        Nat.min_eq_left (by omega), Nat.max_eq_right (by omega)]
      simp only [Nat.add_assoc]

end storedBlocks

/-- A stream of stored blocks spends enough blocks on its data. -/
theorem storedBlocks_fuel (d : ByteArray) : d.size < 0 + storedMax * (d.size / storedMax + 1) := by
  have hmax : storedMax = 0xFFFF := rfl
  rw [hmax]
  omega

/-- A stream of stored blocks is longer than its data, by one header at least. -/
theorem size_add_five_le_storedBlocks (d : ByteArray) : d.size + 5 ≤ (storedBlocks d).size :=
  storedBlocks.le_size_go d _ 0 (Nat.zero_le _) (storedBlocks_fuel d)

/-- A stream of stored blocks reads back as the bytes it was made from, and
    ends where the stream does. -/
theorem inflate_storedBlocks (d : ByteArray) :
    inflate (storedBlocks d) 0 = .ok (d, (storedBlocks d).size) := by
  have hmax : storedMax = 0xFFFF := rfl
  have hlt := storedBlocks_fuel d
  have hS : storedBlocks d = storedBlocks.go d (d.size / storedMax + 1) 0 .empty := rfl
  have hge := size_add_five_le_storedBlocks d
  have hrun := @storedBlocks.exec_blocks_go (storedBlocks d) d (d.size / storedMax + 1)
    (8 * (storedBlocks d).size + 8) 0 [] [] .empty (by rw [hmax]; omega) (Nat.zero_le _) hlt
    (by rw [hS, List.nil_append, List.append_nil])
  rw [← hS] at hrun
  simp only [BitM.exec, List.length_nil, Nat.mul_zero, Nat.zero_add] at hrun
  unfold inflate inflatePrefix
  simp only [Nat.mul_zero, hrun, ByteArray.empty_append, ByteArray.extract_zero_size]
  congr
  omega

end EdgePack.Deflate
