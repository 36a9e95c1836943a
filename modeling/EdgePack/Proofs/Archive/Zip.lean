import Mathlib
import EdgePack.Archive.Zip
import EdgePack.Archive.Format
import EdgePack.Proofs.Bytes
import EdgePack.Proofs.Codec.Stored
import EdgePack.Proofs.Text.Decode

/-!
# Written ZIP files read back

`write` lays out a ZIP file as the local records of its members, their
directory entries, and the end records. Reading that file finds every member
again, in order, with the method and timestamp it was written with, and each
member's bytes read back as those written (`read_write`), provided the writer
takes the members in: a method it knows, a timestamp and a name that fit their
fields, and a compressed stream below the saturated size. So the library the
program runs is lawful (`ZipFormat.standard_lawful`): it reads back what it
writes, which is all the packager relies on.

The proof reads each field the reader consults off the layout of the file:

* `fieldD_of_eq`: a field read inside a record known to stand at a place;
* `readEntry_of_eq`, `readMember_of_eq`: a directory entry and a local record;
* `findEnd_of_eq`, `zip64End_of_eq`: the end records, plain and ZIP64.
-/

namespace EdgePack.Zip

/-! ## Fields inside known bytes -/

@[simp] theorem data_le (n v : Nat) : (le n v).data.toList = Bytes.leBytes n v := rfl

@[simp] theorem size_le (n v : Nat) : (le n v).size = n := by
  rw [le, ByteArray.size, List.size_toArray, Bytes.length_leBytes]

theorem length_data (d : ByteArray) : d.data.toList.length = d.size := Array.length_toList

theorem drop_append_of_length_le {l₁ l₂ : List UInt8} {i : Nat} (h : l₁.length ≤ i) :
    (l₁ ++ l₂).drop i = l₂.drop (i - l₁.length) := by
  rw [List.drop_append, List.drop_eq_nil_of_le h, List.nil_append]

section Known

variable {data : ByteArray} {A R B : List UInt8}

theorem size_of_eq (h : data.data.toList = A ++ R ++ B) :
    data.size = A.length + R.length + B.length := by
  rw [← length_data, h]
  simp only [List.length_append]

/-- The field of `n` bytes at `k` in a record `R` that stands after `A`. -/
theorem field_of_eq {k n : Nat} (h : data.data.toList = A ++ R ++ B) (hk : k + n ≤ R.length) :
    field data (A.length + k) n = some (Bytes.leValue ((R.drop k).take n)) := by
  have hsize := size_of_eq h
  rw [field, if_pos (by omega)]
  congr 2
  rw [ByteArray.toList_eq, ByteArray.data_extract, Array.toList_extract, List.extract_eq_take_drop,
    Nat.add_sub_cancel_left, h, List.append_assoc, List.drop_length_add_append,
    List.drop_append_of_le_length (by omega), List.take_append_of_le_length (by simp; omega)]

theorem fieldD_of_eq {k n : Nat} (h : data.data.toList = A ++ R ++ B) (hk : k + n ≤ R.length) :
    fieldD data (A.length + k) n = Bytes.leValue ((R.drop k).take n) := by
  rw [fieldD, field_of_eq h hk, Option.getD_some]

/-- A field of a record `R` after `A` reads as the value written there. -/
theorem fieldD_of_take (h : data.data.toList = A ++ R ++ B) (k : Nat) {n v : Nat}
    (hv : (R.drop k).take n = Bytes.leBytes n v) (hlt : v < 256 ^ n) (hk : k + n ≤ R.length) :
    fieldD data (A.length + k) n = v := by
  rw [fieldD_of_eq h hk, hv, Bytes.leValue_leBytes_of_lt hlt]

/-- The bytes `R` that stand after `A`. -/
theorem extract_of_eq (h : data.data.toList = A ++ R ++ B) :
    data.extract A.length (A.length + R.length) = ⟨R.toArray⟩ := by
  apply ByteArray.ext
  apply Array.ext'
  rw [ByteArray.data_extract, Array.toList_extract, List.extract_eq_take_drop,
    Nat.add_sub_cancel_left, h, List.append_assoc, List.drop_left, List.take_left]

end Known

theorem size_toUTF8 (s : String) : s.toUTF8.size = s.utf8ByteSize := by
  rw [String.toUTF8_eq_toByteArray, String.size_toByteArray]

theorem mk_data_toList (d : ByteArray) : (⟨d.data.toList.toArray⟩ : ByteArray) = d := by
  cases d
  simp

/-! ## Names -/

/-- A name written with its flags reads back as itself: as UTF-8 when it is
    marked so, and otherwise as ASCII, which code page 437 agrees with. -/
theorem decodeName_nameFlags (s : String) : decodeName (nameFlags s) s.toUTF8 = s := by
  unfold decodeName nameFlags
  by_cases hs : s.toList.all (fun c => c.toNat < 128) = true
  · rw [if_pos hs]
    rw [List.all_eq_true] at hs
    exact Cp437.decode_toUTF8 fun c hc => by simpa using hs c hc
  · rw [if_neg hs]
    exact Utf8.decodeLossy_toUTF8 s

theorem nameFlags_lt (s : String) : nameFlags s < 256 ^ 2 := by
  unfold nameFlags
  split <;> decide

theorem nameFlags_mod_two (s : String) : nameFlags s % 2 = 0 := by
  unfold nameFlags
  split <;> decide

/-! ## Records -/

/-- What an entry needs to be written within the fields of the format: a method
    the reader knows, a timestamp its two fields hold, a name that its length
    field holds, and sizes below the saturated value, which therefore need no
    ZIP64 block. -/
structure Entry.Fits (e : Entry) : Prop where
  method : e.method = .stored ∨ e.method = .deflated
  date : e.modified.date < 0x10000
  time : e.modified.time < 0x10000
  name : e.name.utf8ByteSize ≤ maxNameLength
  size : e.size < maxSize
  packed : e.packed.size < maxSize

/-- The directory entry that an entry written with its local header at `offset`
    reads as. -/
def Entry.member (e : Entry) (offset : Nat) : Member :=
  ⟨e.name, nameFlags e.name, e.method, e.modified, e.crc, e.packed.size, e.size, offset⟩

/-- The two methods the writer uses read back from their numbers. -/
theorem Method.ofCode_code {m : Method} (h : m = .stored ∨ m = .deflated) : Method.ofCode m.code = m := by
  rcases h with rfl | rfl <;> rfl

theorem Method.code_lt {m : Method} (h : m = .stored ∨ m = .deflated) : m.code < 256 ^ 2 := by
  rcases h with rfl | rfl <;> decide

theorem directoryHeader_fields (e : Entry) (o : Nat) :
    let H := (e.directoryHeader o).data.toList
    H.length = 46 ∧ H.take 4 = Bytes.leBytes 4 entrySignature ∧
      (H.drop 8).take 2 = Bytes.leBytes 2 (nameFlags e.name) ∧
      (H.drop 10).take 2 = Bytes.leBytes 2 e.method.code ∧
      (H.drop 12).take 2 = Bytes.leBytes 2 e.modified.time ∧
      (H.drop 14).take 2 = Bytes.leBytes 2 e.modified.date ∧
      (H.drop 16).take 4 = Bytes.leBytes 4 e.crc.toNat ∧
      (H.drop 20).take 4 = Bytes.leBytes 4 e.packed.size ∧
      (H.drop 24).take 4 = Bytes.leBytes 4 e.size ∧
      (H.drop 28).take 2 = Bytes.leBytes 2 e.name.utf8ByteSize ∧
      (H.drop 30).take 2 = Bytes.leBytes 2 (offsetExtra o).size ∧
      (H.drop 32).take 2 = Bytes.leBytes 2 0 ∧
      (H.drop 42).take 4 = Bytes.leBytes 4 (min o maxSize) := by
  simp only [Entry.directoryHeader, Entry.common, ByteArray.data_append, Array.toList_append,
    data_le, List.append_assoc, List.length_append, Bytes.length_leBytes, drop_append_of_length_le,
    Nat.reduceLeDiff, Nat.reduceSub, Nat.reduceAdd, List.drop_zero, List.take_append_of_le_length,
    List.take_of_length_le, Nat.le_refl, and_self]

theorem localHeader_fields (e : Entry) :
    let H := e.localHeader.data.toList
    H.length = 30 ∧ H.take 4 = Bytes.leBytes 4 localSignature ∧
      (H.drop 26).take 2 = Bytes.leBytes 2 e.name.utf8ByteSize ∧
      (H.drop 28).take 2 = Bytes.leBytes 2 0 := by
  simp only [Entry.localHeader, Entry.common, ByteArray.data_append, Array.toList_append,
    data_le, List.append_assoc, List.length_append, Bytes.length_leBytes, drop_append_of_length_le,
    Nat.reduceLeDiff, Nat.reduceSub, Nat.reduceAdd, List.drop_zero, List.take_append_of_le_length,
    List.take_of_length_le, Nat.le_refl, and_self]

theorem endRecord_fields (c s o : Nat) :
    let H := (endRecord c s o).data.toList
    H.length = 22 ∧ (H.drop 0).take 4 = Bytes.leBytes 4 endSignature ∧
      (H.drop 4).take 2 = Bytes.leBytes 2 0 ∧ (H.drop 6).take 2 = Bytes.leBytes 2 0 ∧
      (H.drop 10).take 2 = Bytes.leBytes 2 c ∧ (H.drop 12).take 4 = Bytes.leBytes 4 s ∧
      (H.drop 16).take 4 = Bytes.leBytes 4 o ∧ (H.drop 20).take 2 = Bytes.leBytes 2 0 := by
  simp only [endRecord, ByteArray.data_append, Array.toList_append,
    data_le, List.append_assoc, List.length_append, Bytes.length_leBytes, drop_append_of_length_le,
    Nat.reduceLeDiff, Nat.reduceSub, Nat.reduceAdd, List.drop_zero, List.take_append_of_le_length,
    List.take_of_length_le, Nat.le_refl, and_self]

theorem zip64Tail_fields (c s o : Nat) :
    let H := (zip64EndRecord c s o ++ zip64Locator (o + s)).data.toList
    H.length = 76 ∧ (H.drop 0).take 4 = Bytes.leBytes 4 end64Signature ∧
      (H.drop 16).take 4 = Bytes.leBytes 4 0 ∧ (H.drop 20).take 4 = Bytes.leBytes 4 0 ∧
      (H.drop 32).take 8 = Bytes.leBytes 8 c ∧ (H.drop 40).take 8 = Bytes.leBytes 8 s ∧
      (H.drop 48).take 8 = Bytes.leBytes 8 o ∧
      (H.drop 56).take 4 = Bytes.leBytes 4 locatorSignature ∧
      (H.drop 64).take 8 = Bytes.leBytes 8 (o + s) := by
  simp only [zip64EndRecord, zip64Locator, ByteArray.data_append, Array.toList_append,
    data_le, List.append_assoc, List.length_append, Bytes.length_leBytes, drop_append_of_length_le,
    Nat.reduceLeDiff, Nat.reduceSub, Nat.reduceAdd, List.drop_zero, List.take_append_of_le_length,
    List.take_of_length_le, Nat.le_refl, and_self]

theorem size_directoryHeader (e : Entry) (o : Nat) : (e.directoryHeader o).size = 46 := by
  rw [← length_data]
  exact (directoryHeader_fields e o).1

theorem size_directoryRecord (e : Entry) (o : Nat) :
    (e.directoryRecord o).size = 46 + e.name.utf8ByteSize + (offsetExtra o).size := by
  rw [Entry.directoryRecord, ByteArray.size_append, ByteArray.size_append, size_directoryHeader,
    size_toUTF8]

theorem size_offsetExtra (o : Nat) : (offsetExtra o).size = if o < maxSize then 0 else 12 := by
  unfold offsetExtra
  split <;> simp

section Known

variable {data : ByteArray} {A B : List UInt8}

/-- The offsets of an entry, with the ZIP64 block that holds its offset when the
    offset field is saturated. -/
theorem zip64Values_offsetExtra {s c o : Nat} (hs : s < maxSize) (hc : c < maxSize)
    (ho : o < 2 ^ 64) (h : data.data.toList = A ++ (offsetExtra o).data.toList ++ B) :
    zip64Values data A.length (A.length + (offsetExtra o).size) [s, c, min o maxSize] = [s, c, o] := by
  by_cases hlt : o < maxSize
  · rw [size_offsetExtra, if_pos hlt, Nat.add_zero, Nat.min_eq_left hlt.le, zip64Values,
      if_neg (by omega)]
  · -- the block: its tag, its length, and the offset in eight bytes
    have hX : (offsetExtra o).data.toList = Bytes.leBytes 2 1 ++ Bytes.leBytes 2 8 ++
        Bytes.leBytes 8 o := by
      simp [offsetExtra, hlt]
    have hXlen : (offsetExtra o).data.toList.length = 12 := by simp [hX]
    have htag : fieldD data A.length 2 = 1 :=
      fieldD_of_take h 0 (by simp [hX]) (by decide) (by omega)
    have hlen : fieldD data (A.length + 2) 2 = 8 :=
      fieldD_of_take h 2 (by simp [hX]) (by decide) (by omega)
    have hoff : fieldD data (A.length + 4) 8 = o :=
      fieldD_of_take h 4 (by simp [hX, drop_append_of_length_le]) ho (by omega)
    have hmax : maxSize = 4294967295 := rfl
    rw [size_offsetExtra, if_neg hlt, Nat.min_eq_right (by omega), zip64Values, if_pos (by omega)]
    simp only [htag, hlen, beq_self_eq_true, if_true, readSaturated, hoff,
      show (s == maxSize) = false from beq_false_of_ne (by omega),
      show (c == maxSize) = false from beq_false_of_ne (by omega),
      show A.length + 4 + 8 ≤ A.length + 12 from by omega, decide_true, Bool.and_true,
      Bool.false_eq_true, if_false]
    rw [zip64Values, if_neg (by omega)]

/-- A directory entry reads back as the member it was written for, and the next
    entry starts right after it. -/
theorem readEntry_of_eq {e : Entry} {o : Nat} (he : e.Fits) (ho : o < 2 ^ 64)
    (h : data.data.toList = A ++ (e.directoryRecord o).data.toList ++ B) :
    readEntry data 0 A.length = .ok (e.member o, A.length + (e.directoryRecord o).size) := by
  obtain ⟨hlen, hsig, hflags, hmethod, htime, hdate, hcrc, hpacked, hsize, hname, hextra, hcomment,
    hoffset⟩ := directoryHeader_fields e o
  have hH : data.data.toList = A ++ (e.directoryHeader o).data.toList ++
      (e.name.toUTF8.data.toList ++ (offsetExtra o).data.toList ++ B) := by
    rw [h, Entry.directoryRecord]
    simp only [ByteArray.data_append, Array.toList_append, List.append_assoc]
  have hmax : maxSize = 4294967295 := rfl
  have hnameLen : e.name.utf8ByteSize < 256 ^ 2 := by
    have := he.name
    unfold maxNameLength at this
    omega
  have hextraLen : (offsetExtra o).size < 256 ^ 2 := by
    rw [size_offsetExtra]
    split <;> decide
  have hsize' := size_of_eq hH
  simp only [List.length_append, hlen, length_data, size_toUTF8] at hsize'
  -- the name after the header, and the extra field after the name
  have hN : data.data.toList = (A ++ (e.directoryHeader o).data.toList) ++
      e.name.toUTF8.data.toList ++ ((offsetExtra o).data.toList ++ B) := by
    rw [hH]
    simp only [List.append_assoc]
  have hX : data.data.toList = (A ++ (e.directoryHeader o).data.toList ++
      e.name.toUTF8.data.toList) ++ (offsetExtra o).data.toList ++ B := by
    rw [hH]
    simp only [List.append_assoc]
  have hnameBytes := extract_of_eq hN
  rw [List.length_append, hlen, length_data, size_toUTF8, mk_data_toList] at hnameBytes
  have hvs := zip64Values_offsetExtra (s := e.size) (c := e.packed.size) he.size he.packed ho hX
  simp only [List.length_append, hlen, length_data, size_toUTF8] at hvs
  have hsig' : fieldD data A.length 4 = entrySignature :=
    fieldD_of_take hH 0 (by simpa using hsig) (by decide) (by omega)
  have hsize₁ : ¬ A.length + 46 > data.size := by omega
  have hsize₂ : ¬ A.length + 46 + e.name.utf8ByteSize + (offsetExtra o).size + 0 > data.size := by
    omega
  rw [readEntry]
  simp only [hsig', fieldD_of_take hH 8 hflags (nameFlags_lt _) (by omega),
    fieldD_of_take hH 10 hmethod (Method.code_lt he.method) (by omega),
    fieldD_of_take hH 12 htime (by have := he.time; omega) (by omega),
    fieldD_of_take hH 14 hdate (by have := he.date; omega) (by omega),
    fieldD_of_take hH 16 hcrc (by simpa using e.crc.toNat_lt) (by omega),
    fieldD_of_take hH 20 hpacked (by have := he.packed; omega) (by omega),
    fieldD_of_take hH 24 hsize (by have := he.size; omega) (by omega),
    fieldD_of_take hH 28 hname hnameLen (by omega), fieldD_of_take hH 30 hextra hextraLen (by omega),
    fieldD_of_take hH 32 hcomment (by decide) (by omega),
    fieldD_of_take hH 42 hoffset (by omega) (by omega), if_neg hsize₁, if_neg hsize₂, bne_self_eq_false,
    Bool.false_eq_true, if_false, hnameBytes, decodeName_nameFlags, hvs, Method.ofCode_code he.method]
  simp only [size_directoryRecord, UInt32.ofNat_toNat, Nat.zero_add, Nat.add_zero, Nat.add_assoc]
  rfl

/-- The local record of a member reads back as the member's bytes, through the
    directory entry written for it, whether stored or deflated. -/
theorem readMember_of_eq {o : Options} {n : String} {d : ByteArray}
    (hm : o.method = .stored ∨ o.method = .deflated) (hn : n.utf8ByteSize ≤ maxNameLength)
    (h : data.data.toList = A ++ (Entry.ofBytes o n d).localRecord.data.toList ++ B) :
    Directory.readMember data ((Entry.ofBytes o n d).member A.length) = .ok d := by
  obtain ⟨hlen, hsig, hname, hextra⟩ := localHeader_fields (Entry.ofBytes o n d)
  have hH : data.data.toList = A ++ (Entry.ofBytes o n d).localHeader.data.toList ++
      (n.toUTF8.data.toList ++ (pack o.method d).data.toList ++ B) := by
    rw [h, Entry.localRecord]
    simp only [ByteArray.data_append, Array.toList_append, List.append_assoc]
    rfl
  have hsig' : fieldD data A.length 4 = localSignature :=
    fieldD_of_take hH 0 (by simpa using hsig) (by decide) (by omega)
  have hname' : fieldD data (A.length + 26) 2 = n.utf8ByteSize :=
    fieldD_of_take hH 26 hname (by unfold maxNameLength at hn; omega) (by omega)
  have hextra' : fieldD data (A.length + 28) 2 = 0 := fieldD_of_take hH 28 hextra (by decide) (by omega)
  -- the compressed bytes follow the header and the name
  have hraw : data.data.toList = (A ++ (Entry.ofBytes o n d).localHeader.data.toList ++
      n.toUTF8.data.toList) ++ (pack o.method d).data.toList ++ B := by
    rw [hH]
    simp only [List.append_assoc]
  have hrawBytes := extract_of_eq hraw
  simp only [List.length_append, hlen, length_data, size_toUTF8, mk_data_toList] at hrawBytes
  have hsize := size_of_eq hH
  simp only [List.length_append, hlen] at hsize
  rw [Directory.readMember]
  simp only [Entry.member, nameFlags_mod_two, hsig', hname', hextra', Nat.add_zero,
    if_neg (show ¬ A.length + 30 > data.size by omega), bne_self_eq_false, Bool.false_eq_true,
    if_false, Entry.ofBytes, hrawBytes]
  -- the method gives the bytes back: as they are, or inflated from the stored blocks
  rcases hm with hm | hm <;>
    simp only [hm, pack, Deflate.inflate_storedBlocks, Nat.reduceBEq, Bool.false_eq_true, if_false,
      pure_bind, bne_self_eq_false] <;> rfl

/-- A member whose name is new joins the directory at its end. -/
theorem insertMember_of_fresh {ms : List Member} {m : Member} (h : m.name ∉ ms.map (·.name)) :
    insertMember ms m = ms ++ [m] := by
  rw [insertMember, if_neg]
  simpa using h

/-- Directory entries written one after another read back as their members, in
    order, when their names are distinct. -/
theorem readEntries_of_eq : ∀ (ps : List (Entry × Nat)) (A : List UInt8) (acc : List Member),
    data.data.toList = A ++ ps.flatMap (fun eo => (eo.1.directoryRecord eo.2).data.toList) ++ B →
    (∀ eo ∈ ps, eo.1.Fits ∧ eo.2 < 2 ^ 64) → (acc.map (·.name) ++ ps.map (·.1.name)).Nodup →
    Directory.readEntries data 0 ps.length A.length acc =
      .ok (acc ++ ps.map fun eo => eo.1.member eo.2)
  | [], _, acc, _, _, _ => by simp [Directory.readEntries]
  | (e, o) :: ps, A, acc, h, hfit, hnd => by
    obtain ⟨he, ho⟩ := hfit (e, o) List.mem_cons_self
    have hrec : data.data.toList = A ++ (e.directoryRecord o).data.toList ++
        (ps.flatMap (fun eo => (eo.1.directoryRecord eo.2).data.toList) ++ B) := by
      rw [h]
      simp only [List.flatMap_cons, List.append_assoc]
    have hfresh : (e.member o).name ∉ acc.map (·.name) := by
      intro hmem
      exact (List.nodup_append.1 hnd).2.2 _ hmem _ List.mem_cons_self rfl
    -- the rest of the directory starts right after this entry
    have hrest := readEntries_of_eq ps (A ++ (e.directoryRecord o).data.toList) (acc ++ [e.member o])
      (by rw [hrec]; simp only [List.append_assoc])
      (fun eo heo => hfit eo (List.mem_cons_of_mem _ heo))
      (by simpa [Entry.member] using hnd)
    rw [List.length_append, length_data] at hrest
    rw [List.length_cons, Directory.readEntries, readEntry_of_eq he ho hrec]
    simp only [bind, Except.bind, insertMember_of_fresh hfresh, hrest, List.map_cons,
      List.append_assoc, List.singleton_append]

/-! ## The end of the file -/

/-- An end record at the very end of the file reads whole. -/
theorem EndRecord.read_of_eq {c s o : Nat} (hc : c < 256 ^ 2) (hs : s < 256 ^ 4)
    (ho : o < 256 ^ 4) (h : data.data.toList = A ++ (endRecord c s o).data.toList) :
    EndRecord.read data A.length = .ok ⟨0, 0, c, s, o, 0⟩ := by
  obtain ⟨hlen, hsig, hdisk, hdisk', hcount, hsize, hoffset, hcomment⟩ := endRecord_fields c s o
  have h' : data.data.toList = A ++ (endRecord c s o).data.toList ++ [] := by
    rw [h, List.append_nil]
  have hsize' := size_of_eq h'
  rw [hlen, List.length_nil] at hsize'
  rw [EndRecord.read, if_neg (by unfold endLength; omega)]
  simp only [fieldD_of_take h' 4 hdisk (by decide) (by omega),
    fieldD_of_take h' 6 hdisk' (by decide) (by omega), fieldD_of_take h' 10 hcount hc (by omega),
    fieldD_of_take h' 12 hsize hs (by omega), fieldD_of_take h' 16 hoffset ho (by omega),
    fieldD_of_take h' 20 hcomment (by decide) (by omega), if_neg (show ¬ 0 + A.length + endLength >
      data.size by unfold endLength; omega)]

/-- The search for the end record, among candidates nearest the end first,
    gives the first that reads: at `p`, when every later place fails. -/
theorem findEnd_go {p : Nat} {r : EndRecord} (hr : EndRecord.read data p = .ok r)
    (hlate : ∀ q, p < q → ∃ e, EndRecord.read data q = .error e) :
    ∀ (ps : List Nat) (f : Option ZipError), p ∈ ps → ps.Pairwise (· > ·) →
      findEnd.go data ps f = .ok (r, p)
  | [], _, hp, _ => absurd hp List.not_mem_nil
  | q :: ps, f, hp, hs => by
    rw [findEnd.go]
    rcases List.mem_cons.1 hp with rfl | hp'
    · rw [hr]
    · -- a candidate after `p` fails to read, and the search goes on
      obtain ⟨e, he⟩ := hlate q (List.rel_of_pairwise_cons hs hp')
      rw [he]
      exact findEnd_go hr hlate ps _ hp' hs.of_cons

/-- The end record written last is the one found. -/
theorem findEnd_of_eq {c s o : Nat} (hc : c < 256 ^ 2) (hs : s < 256 ^ 4) (ho : o < 256 ^ 4)
    (h : data.data.toList = A ++ (endRecord c s o).data.toList) :
    findEnd data = .ok (⟨0, 0, c, s, o, 0⟩, A.length) := by
  have hsig := (endRecord_fields c s o).2.1
  have h' : data.data.toList = A ++ (endRecord c s o).data.toList ++ [] := by
    rw [h, List.append_nil]
  have hsize := size_of_eq h'
  rw [(endRecord_fields c s o).1, List.length_nil] at hsize
  have hsig' : fieldD data A.length 4 = endSignature :=
    fieldD_of_take h' 0 hsig (by decide) (by rw [(endRecord_fields c s o).1]; omega)
  refine findEnd_go (EndRecord.read_of_eq hc hs ho h) (fun q hq => ⟨.truncated, ?_⟩) _ none ?_ ?_
  · -- past the last end record, no record fits before the end of the file
    rw [EndRecord.read, if_pos (by unfold endLength; omega)]
  · simp only [endCandidates, List.mem_filter, List.mem_reverse, List.mem_range, hsig',
      beq_self_eq_true, and_true]
    omega
  · exact (List.pairwise_reverse.2 List.pairwise_lt_range).filter _

/-- A locator just before the end record leads to the ZIP64 end record it
    names, which is read in place of the end record. -/
theorem zip64End_of_eq {c s o : Nat} (hc : c < 256 ^ 8) (hs : s < 256 ^ 8) (ho : o < 256 ^ 8)
    (hos : o + s < 256 ^ 8) (hA : A.length = o + s)
    (h : data.data.toList = A ++ (zip64EndRecord c s o ++ zip64Locator (o + s)).data.toList ++ B)
    (r : EndRecord) :
    zip64End data r (A.length + 76) = .ok (⟨0, 0, c, s, o, r.commentLength⟩, A.length) := by
  obtain ⟨hlen, hsig, hdisk, hdisk', hcount, hsize, hoffset, hlocator, hwhere⟩ :=
    zip64Tail_fields c s o
  have hwhere' : fieldD data (A.length + 64) 8 = A.length := by
    rw [fieldD_of_take h 64 hwhere hos (by omega), hA]
  rw [zip64End, show A.length + 76 - 20 = A.length + 56 by omega,
    show A.length + 76 - 12 = A.length + 64 by omega, hwhere',
    fieldD_of_take h 56 hlocator (by decide) (by omega)]
  simp only [show ¬ A.length + 76 < 20 by omega, decide_false, bne_self_eq_false, Bool.or_false,
    Bool.false_eq_true, if_false, if_neg (show ¬ A.length + 56 > A.length + 56 by omega),
    show fieldD data A.length 4 = end64Signature from fieldD_of_take h 0 hsig (by decide) (by omega),
    fieldD_of_take h 16 hdisk (by decide) (by omega), fieldD_of_take h 20 hdisk' (by decide) (by omega),
    fieldD_of_take h 32 hcount hc (by omega), fieldD_of_take h 40 hsize hs (by omega),
    fieldD_of_take h 48 hoffset ho (by omega)]

/-- Once the end records give the directory's count, size and offset, the
    directory is read from there. -/
theorem read_of_end {c s o : Nat} {r : EndRecord} {p : Nat} {members : List Member}
    (hfind : findEnd data = .ok (r, p))
    (hend : (if r.mayBeZip64 then zip64End data r p else pure (r, p)) =
      .ok (⟨0, 0, c, s, o, 0⟩, o + s))
    (hsig : o + 4 ≤ data.size) (hent : Directory.readEntries data 0 c o [] = .ok members) :
    Directory.read data = .ok ⟨members⟩ := by
  obtain ⟨sig, hsig'⟩ : ∃ sig, field data o 4 = some sig := ⟨_, by rw [field, if_pos hsig]⟩
  have hfind' : findEnd data = pure (r, p) := hfind
  -- the end record, or the ZIP64 end record it stands for, gives the same values
  have hmid : ∀ K : EndRecord × Nat → Except ZipError Directory,
      (if r.mayBeZip64 = true then zip64End data r p >>= K else pure (r, p) >>= K) =
        K (⟨0, 0, c, s, o, 0⟩, o + s) := by
    intro K
    by_cases hz : r.mayBeZip64 = true
    · rw [if_pos hz] at hend ⊢
      rw [show zip64End data r p = pure (⟨0, 0, c, s, o, 0⟩, o + s) from hend, pure_bind]
    · rw [if_neg hz] at hend ⊢
      rw [show (pure (r, p) : Except ZipError _) = pure (⟨0, 0, c, s, o, 0⟩, o + s) from hend,
        pure_bind]
  rw [Directory.read, hfind', pure_bind]
  dsimp only
  rw [hmid]
  simp only [bne_self_eq_false, Bool.false_eq_true, if_false,
    if_neg (show ¬ s + o > o + s by omega), hsig', show o + s - s - o = 0 by omega, ite_self,
    pure_bind, Nat.add_zero, hent]
  rfl

end Known

/-! ## The layout of a written file -/

/-- Where the local records of entries start, laid one after another from `start`. -/
def recordOffsets : List Entry → Nat → List Nat
  | [], _ => []
  | e :: es, start => start :: recordOffsets es (start + e.localRecord.size)

theorem length_recordOffsets : ∀ (es : List Entry) (start : Nat),
    (recordOffsets es start).length = es.length
  | [], _ => rfl
  | e :: es, start => by
    rw [recordOffsets, List.length_cons, length_recordOffsets es, List.length_cons]

/-- The body of the file: the local records, and where each starts. -/
theorem foldl_localRecords : ∀ (es : List Entry) (acc : ByteArray) (os : List Nat),
    es.foldl (fun (acc : ByteArray × List Nat) e => (acc.1 ++ e.localRecord, acc.2 ++ [acc.1.size]))
      (acc, os) =
      (⟨(acc.data.toList ++ es.flatMap (·.localRecord.data.toList)).toArray⟩,
        os ++ recordOffsets es acc.size)
  | [], acc, os => by
    simp only [List.foldl_nil, List.flatMap_nil, List.append_nil, recordOffsets, mk_data_toList]
  | e :: es, acc, os => by
    rw [List.foldl_cons, foldl_localRecords es, ByteArray.size_append]
    simp only [ByteArray.data_append, Array.toList_append, List.flatMap_cons, List.append_assoc,
      recordOffsets, List.singleton_append]

/-- The directory: the entries' records one after another. -/
theorem foldl_directoryRecords : ∀ (ps : List (Entry × Nat)) (acc : ByteArray),
    (ps.foldl (fun (acc : ByteArray) (eo : Entry × Nat) => acc ++ eo.1.directoryRecord eo.2)
      acc).data.toList =
      acc.data.toList ++ ps.flatMap (fun eo => (eo.1.directoryRecord eo.2).data.toList)
  | [], acc => by simp
  | eo :: ps, acc => by
    rw [List.foldl_cons, foldl_directoryRecords ps]
    simp only [ByteArray.data_append, Array.toList_append, List.flatMap_cons, List.append_assoc]

/-- Each local record stands at its offset in the body. -/
theorem localRecord_at : ∀ (es : List Entry) (A B : List UInt8),
    ∀ eo ∈ es.zip (recordOffsets es A.length), ∃ A' B',
      A ++ es.flatMap (·.localRecord.data.toList) ++ B = A' ++ eo.1.localRecord.data.toList ++ B' ∧
        A'.length = eo.2
  | [], _, _, _, heo => absurd heo List.not_mem_nil
  | e :: es, A, B, eo, heo => by
    rw [recordOffsets, List.zip_cons_cons] at heo
    rcases List.mem_cons.1 heo with rfl | heo
    · exact ⟨A, es.flatMap (·.localRecord.data.toList) ++ B, by simp, rfl⟩
    · -- a later record: the body from the next record on
      have hA : (A ++ e.localRecord.data.toList).length = A.length + e.localRecord.size := by
        rw [List.length_append, length_data]
      rw [← hA] at heo
      obtain ⟨A', B', h, hlen⟩ := localRecord_at es (A ++ e.localRecord.data.toList) B eo heo
      exact ⟨A', B', by rw [← h]; simp, hlen⟩

/-- The bytes of a written file: the local records, the directory entries with
    the offsets of the local records, and the end records. -/
theorem write_data (o : Options) (ms : List (String × ByteArray)) :
    let es := ms.map fun x => Entry.ofBytes o x.1 x.2
    let L := es.flatMap (·.localRecord.data.toList)
    let D := (es.zip (recordOffsets es 0)).flatMap fun eo => (eo.1.directoryRecord eo.2).data.toList
    (write o ms).data.toList = L ++ D ++ (endRecords es.length D.length L.length).data.toList := by
  intro es L D
  simp only [write, foldl_localRecords]
  simp only [ByteArray.data_append, Array.toList_append, ← length_data, foldl_directoryRecords]
  simp [es, L, D]

/-- A named file the writer takes in with the options: it refuses neither its
    name nor its bytes. -/
structure Writable (o : Options) (m : String × ByteArray) : Prop where
  name : refuseName o m.1 = none
  bytes : refuseBytes o m.2 = none

/-- The writer starts a member exactly for a method it knows, a timestamp its
    fields hold and a name its length field holds. -/
theorem refuseName_eq_none {o : Options} {n : String} : refuseName o n = none ↔
    (o.method = .stored ∨ o.method = .deflated) ∧ o.modified.date < 0x10000 ∧
      o.modified.time < 0x10000 ∧ n.utf8ByteSize ≤ maxNameLength := by
  obtain ⟨m, t⟩ := o
  unfold refuseName
  cases m <;> split_ifs with h₁ h₂ <;> simp_all <;> omega

/-- The writer takes in bytes exactly when they and their packed form fit the
    size fields. -/
theorem refuseBytes_eq_none {o : Options} {d : ByteArray} : refuseBytes o d = none ↔
    d.size ≤ maxSize ∧ (pack o.method d).size < maxSize := by
  unfold refuseBytes
  split_ifs <;> simp_all

theorem Writable.fits {o : Options} {n : String} {d : ByteArray} (h : Writable o (n, d)) :
    (Entry.ofBytes o n d).Fits := by
  obtain ⟨hm, hdate, htime, hlen⟩ := refuseName_eq_none.1 h.name
  obtain ⟨-, hpacked⟩ := refuseBytes_eq_none.1 h.bytes
  -- the packed bytes are at least as many as the bytes
  have hbound : d.size < maxSize := by
    rcases hm with hm | hm
    · simp only [hm, pack] at hpacked
      exact hpacked
    · simp only [hm, pack] at hpacked
      have := Deflate.size_add_five_le_storedBlocks d
      omega
  exact ⟨hm, hdate, htime, hlen, hbound, hpacked⟩

/-- The directory entries of written members name them in order, each with the
    method and timestamp of the options, and each reads back as the member's
    bytes. -/
theorem forall₂_members {o : Options} {data : ByteArray} {B : List UInt8} :
    ∀ (ms : List (String × ByteArray)) (A : List UInt8),
      data.data.toList = A ++ (ms.map fun x => Entry.ofBytes o x.1 x.2).flatMap
        (·.localRecord.data.toList) ++ B →
      (∀ m ∈ ms, (Entry.ofBytes o m.1 m.2).Fits) →
      List.Forall₂ (fun m x => m.name = x.1 ∧ m.method = o.method ∧ m.modified = o.modified ∧
          Directory.readMember data m = .ok x.2)
        ((((ms.map fun x => Entry.ofBytes o x.1 x.2).zip
          (recordOffsets (ms.map fun x => Entry.ofBytes o x.1 x.2) A.length)).map
            fun eo => eo.1.member eo.2)) ms
  | [], _, _, _ => .nil
  | x :: ms, A, h, hfit => by
    have hrec : data.data.toList = A ++ (Entry.ofBytes o x.1 x.2).localRecord.data.toList ++
        ((ms.map fun x => Entry.ofBytes o x.1 x.2).flatMap (·.localRecord.data.toList) ++ B) := by
      rw [h]
      simp only [List.map_cons, List.flatMap_cons, List.append_assoc]
    -- the rest of the body starts right after this record
    have hA : (A ++ (Entry.ofBytes o x.1 x.2).localRecord.data.toList).length =
        A.length + (Entry.ofBytes o x.1 x.2).localRecord.size := by
      rw [List.length_append, length_data]
    have hrest := forall₂_members (B := B) ms
      (A ++ (Entry.ofBytes o x.1 x.2).localRecord.data.toList)
      (by rw [hrec]; simp only [List.append_assoc]) fun m hm => hfit m (List.mem_cons_of_mem _ hm)
    rw [hA] at hrest
    simp only [List.map_cons, recordOffsets, List.zip_cons_cons]
    have hx := hfit x List.mem_cons_self
    exact .cons ⟨rfl, rfl, rfl, readMember_of_eq hx.method hx.name hrec⟩ hrest

theorem length_le_flatMap_directoryRecord : ∀ ps : List (Entry × Nat),
    ps.length ≤ (ps.flatMap fun eo => (eo.1.directoryRecord eo.2).data.toList).length
  | [] => le_rfl
  | eo :: ps => by
    have := length_le_flatMap_directoryRecord ps
    rw [List.flatMap_cons, List.length_append, length_data, size_directoryRecord, List.length_cons]
    omega

/-- A file written of members with distinct names that the writer takes in with
    the options, and not too large for eight-byte offsets, reads back as its
    members: in order, each with the method and timestamp of the options, and
    each holding the bytes it was written with. -/
theorem read_write (o : Options) (ms : List (String × ByteArray))
    (hfit : ∀ m ∈ ms, Writable o m) (hnodup : (ms.map Prod.fst).Nodup)
    (hsize : (write o ms).size < 2 ^ 64) :
    ∃ d : Directory, Directory.read (write o ms) = .ok d ∧
      List.Forall₂ (fun m x => m.name = x.1 ∧ m.method = o.method ∧ m.modified = o.modified ∧
        Directory.readMember (write o ms) m = .ok x.2) d.members ms := by
  set es := ms.map fun x => Entry.ofBytes o x.1 x.2 with hes
  set ps := es.zip (recordOffsets es 0) with hps
  set L := es.flatMap (·.localRecord.data.toList) with hL
  set D := ps.flatMap (fun eo => (eo.1.directoryRecord eo.2).data.toList) with hD
  set E := (endRecords es.length D.length L.length).data.toList with hE
  have hdata : (write o ms).data.toList = L ++ D ++ E := write_data o ms
  have hsize' : (write o ms).size = L.length + D.length + E.length := by
    rw [← length_data, hdata]
    simp only [List.length_append]
  -- the directory entries, read from the end of the body
  have hlen : ps.length = es.length := by
    rw [hps, List.length_zip, length_recordOffsets, Nat.min_self]
  have hent : Directory.readEntries (write o ms) 0 es.length L.length [] =
      .ok (ps.map fun eo => eo.1.member eo.2) := by
    have hfst : ps.map (·.1) = es := List.map_fst_zip (by rw [length_recordOffsets])
    rw [← hlen]
    refine readEntries_of_eq ps L [] hdata (fun eo heo => ⟨?_, ?_⟩) ?_
    · obtain ⟨x, hx, hex⟩ : ∃ x ∈ ms, Entry.ofBytes o x.1 x.2 = eo.1 := by
        rw [← List.mem_map, ← hes, ← hfst]
        exact List.mem_map_of_mem heo
      rw [← hex]
      exact (hfit x hx).fits
    · obtain ⟨A', B', hAB, hlen'⟩ := localRecord_at es [] (D ++ E) eo heo
      have := congrArg List.length hAB
      simp only [List.length_append, List.nil_append, length_data, ← hL] at this
      omega
    · rw [List.map_nil, List.nil_append,
        show ps.map (fun x => x.1.name) = (ps.map (·.1)).map Entry.name from (List.map_map ..).symm,
        hfst, hes, List.map_map]
      exact hnodup
  -- each member reads back from its local record in the body
  have hmembers := forall₂_members (B := D ++ E) ms []
    (by rw [hdata, List.nil_append, List.append_assoc]) fun m hm => (hfit m hm).fits
  refine ⟨⟨ps.map fun eo => eo.1.member eo.2⟩, ?_, hmembers⟩
  have hlenE : 22 ≤ E.length := by
    rw [hE, length_data, endRecords]
    split
    · rw [← length_data, (endRecord_fields _ _ _).1]
    · rw [ByteArray.size_append, ← length_data (endRecord _ _ _), (endRecord_fields _ _ _).1]
      omega
  have hmax : maxSize = 4294967295 := rfl
  have hmaxEntries : maxEntries = 65535 := rfl
  by_cases hplain : es.length < maxEntries ∧ D.length < maxSize ∧ L.length < maxSize
  · -- the end record holds the directory's count, size and offset as they are
    have hE' : E = (endRecord es.length D.length L.length).data.toList := by
      rw [hE, endRecords,
        if_pos (by simpa [Bool.and_eq_true, decide_eq_true_eq, and_assoc] using hplain)]
    have hfind := findEnd_of_eq (A := L ++ D) (c := es.length) (s := D.length) (o := L.length)
      (by norm_num; omega) (by norm_num; omega) (by norm_num; omega) (by rw [hdata, hE'])
    refine read_of_end (s := D.length) hfind ?_ (by omega) hent
    rw [if_neg (by simp [EndRecord.mayBeZip64]; omega), List.length_append]
    rfl
  · -- the end record is saturated, and the ZIP64 end record before it holds them
    have hE' : E = (zip64EndRecord es.length D.length L.length ++
        zip64Locator (L.length + D.length)).data.toList ++
          (endRecord maxEntries maxSize maxSize).data.toList := by
      rw [hE, endRecords,
        if_neg (by simpa [Bool.and_eq_true, decide_eq_true_eq, and_assoc] using hplain)]
      simp only [ByteArray.data_append, Array.toList_append]
    have hcount := length_le_flatMap_directoryRecord ps
    rw [← hD, hlen] at hcount
    have hfind := findEnd_of_eq
      (A := L ++ D ++ (zip64EndRecord es.length D.length L.length ++
        zip64Locator (L.length + D.length)).data.toList) (c := maxEntries) (s := maxSize)
      (o := maxSize) (by decide) (by decide) (by decide)
      (by rw [hdata, hE']; simp only [List.append_assoc])
    refine read_of_end (s := D.length) hfind ?_ (by omega) hent
    rw [if_pos (by simp [EndRecord.mayBeZip64]), List.length_append,
      (zip64Tail_fields _ _ _).1, ← List.length_append]
    exact zip64End_of_eq (c := es.length) (s := D.length) (o := L.length) (by norm_num; omega)
      (by norm_num; omega) (by norm_num; omega) (by norm_num; omega) (List.length_append ..)
      (B := (endRecord maxEntries maxSize maxSize).data.toList)
      (by rw [hdata, hE']; simp only [List.append_assoc]) _
end EdgePack.Zip

namespace EdgePack

/-- What the packager relies on of a ZIP library: a file written of members it
    does not refuse, under distinct names, and not too large for eight-byte
    offsets, lists them in order, each with its name and the method and
    timestamp it was written with, and reads back the bytes each was written
    with. -/
structure ZipFormat.Lawful (f : ZipFormat) : Prop where
  read_write : ∀ (o : Zip.Options) (ms : List (String × ByteArray)),
    (∀ m ∈ ms, f.refuseName o m.1 = none ∧ f.refuseBytes o m.2 = none) →
    (ms.map Prod.fst).Nodup → (f.write o ms).size < 2 ^ 64 →
    ∃ d, f.read (f.write o ms) = .ok d ∧
      List.Forall₂ (fun m x => m.name = x.1 ∧ m.method = o.method ∧ m.modified = o.modified ∧
        f.readMember (f.write o ms) m = .ok x.2) d.members ms

/-- The library the program runs reads back what it writes. -/
theorem ZipFormat.standard_lawful : ZipFormat.standard.Lawful := by
  refine ⟨fun o ms hfit hnodup hsize => ?_⟩
  simp only [ZipFormat.standard] at hfit hsize ⊢
  exact Zip.read_write o ms (fun m hm => ⟨(hfit m hm).1, (hfit m hm).2⟩) hnodup hsize

end EdgePack

