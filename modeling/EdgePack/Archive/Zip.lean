import EdgePack.Codec.Crc32
import EdgePack.Codec.Deflate
import EdgePack.Text.Cp437
import EdgePack.Data.Bytes
import EdgePack.Text.Utf8
import EdgePack.Text.Pad
import EdgePack.Host.Fs

/-!
# ZIP containers

A ZIP file ends with a record that says where its central directory is and how
many entries it holds; each entry of the directory names a member, how its
bytes are compressed, their check and sizes, and where the member's local
header stands; the member's bytes follow that local header.

Reading looks for the end record from the end of the file backwards, and takes
the first candidate that can be read whole; the directory is then read entry
by entry. A member name marked as UTF-8 is read so, any other as code page
437. Of two entries with one name the later one is kept, in the place of the
first. Reading a member checks its CRC-32 once it has been decompressed.

Counts, sizes and offsets too large for their fields (ZIP64): an end record
whose entry count or directory offset is saturated may have a locator just
before it, which points to a ZIP64 end record that holds them in full; an
entry's saturated sizes and offset are held in a ZIP64 block of its extra
field.

Writing produces members with the method and timestamp its options give:
stored as they are, or deflated (as a stream of stored blocks), so that the
same members and options always give the same file. A directory of 65535
entries or more, or one that reaches four gigabytes, gets the ZIP64 end
records, and an entry whose local header starts there its ZIP64 block; members
themselves must fit their fields.

* `Directory.read`: the members of a file, or why it is no ZIP file;
* `Directory.readMember`: the bytes of a member;
* `write`: the file holding the given members in order;
* `refuseName`, `refuseBytes`: why a member cannot be written, if it cannot.
-/

namespace EdgePack.Zip

/-- Why a ZIP file or one of its members cannot be read. -/
inductive ZipError where
  /-- Reading failed: the file ended before a record that had to be read
      whole, or could not be read at all. -/
  | io (cause : IoError)
  /-- The file is not a well-formed ZIP file, for the reason given. -/
  | invalid (reason : String)
  /-- The file uses a feature that is not supported, named. -/
  | unsupported (reason : String)
  /-- No member has the name asked for. -/
  | fileNotFound
  /-- A member's bytes could not be decompressed or failed their check. -/
  | data (detail : String)
  deriving DecidableEq, Repr, Inhabited

/-- The words for a failure. -/
def ZipError.message : ZipError → String
  | .io _ => "i/o error"
  | .invalid r => s!"invalid Zip archive: {r}"
  | .unsupported r => s!"unsupported Zip archive: {r}"
  | .fileNotFound => "specified file not found in archive"
  | .data d => d

/-- A record cut short by the end of the file: a read that could not be filled. -/
def ZipError.truncated : ZipError := .io (.other "failed to fill whole buffer")

/-- How a member's bytes are kept. -/
inductive Method where
  | stored
  | deflated
  /-- A method other than these two, by its number. -/
  | other (code : Nat)
  deriving DecidableEq, Repr, Inhabited

namespace Method

/-- The method's number in the headers. -/
def code : Method → Nat
  | .stored => 0
  | .deflated => 8
  | .other c => c

/-- The method a number stands for. -/
def ofCode : Nat → Method
  | 0 => .stored
  | 8 => .deflated
  | c => .other c

/-- The method's name. -/
def name : Method → String
  | .stored => "Stored"
  | .deflated => "Deflated"
  | .other c => s!"Unsupported({c})"

end Method

/-- A date and time as the headers keep them: a date word (years since 1980,
    month, day) and a time word (hours, minutes, seconds halved). -/
structure DosTime where
  date : Nat
  time : Nat
  deriving DecidableEq, Repr, Inhabited

namespace DosTime

/-- The first moment the format can name, 1980-01-01 00:00:00. -/
def epoch : DosTime := ⟨(1 <<< 5) ||| 1, 0⟩

/-- A number with zeros on the left up to `width` digits. -/
def pad (width n : Nat) : String := Text.zeroPad width n

/-- The text `YYYY-MM-DD hh:mm:ss`. -/
def text (t : DosTime) : String :=
  s!"{pad 4 (1980 + (t.date >>> 9))}-{pad 2 ((t.date >>> 5) % 16)}-{pad 2 (t.date % 32)} " ++
    s!"{pad 2 (t.time >>> 11)}:{pad 2 ((t.time >>> 5) % 64)}:{pad 2 (2 * (t.time % 32))}"

end DosTime

/-- One entry of the central directory. -/
structure Member where
  name : String
  flags : Nat
  method : Method
  modified : DosTime
  crc : UInt32
  compressedSize : Nat
  size : Nat
  /-- Where the member's local header starts. -/
  headerOffset : Nat
  deriving Inhabited

/-- The little-endian number of `n` bytes at `pos`, when they are all there. -/
def field (data : ByteArray) (pos n : Nat) : Option Nat :=
  if pos + n ≤ data.size then some (Bytes.leValue (data.extract pos (pos + n)).toList) else none

/-- The little-endian number of `n` bytes at `pos` of a record known to be whole. -/
def fieldD (data : ByteArray) (pos n : Nat) : Nat := (field data pos n).getD 0

/-- Record signatures. -/
def endSignature : Nat := 0x06054b50
def entrySignature : Nat := 0x02014b50
def localSignature : Nat := 0x04034b50
def end64Signature : Nat := 0x06064b50
def locatorSignature : Nat := 0x07064b50

/-- The largest size or offset that a four-byte field holds as it is: from
    this value on, the field is saturated and the value is kept in a ZIP64
    record. -/
def maxSize : Nat := 0xFFFFFFFF

/-- The count of entries of a saturated end record. -/
def maxEntries : Nat := 0xFFFF

/-- The longest name, in bytes, that a two-byte field holds. -/
def maxNameLength : Nat := 0xFFFF

/-- The length of the end record without its comment. -/
def endLength : Nat := 22

/-- The end record. -/
structure EndRecord where
  disk : Nat
  directoryDisk : Nat
  entries : Nat
  directorySize : Nat
  directoryOffset : Nat
  commentLength : Nat

/-- The places where the end record's signature stands, nearest the end first. -/
def endCandidates (data : ByteArray) : List Nat :=
  ((List.range (data.size + 1 - 4)).reverse).filter fun p => fieldD data p 4 == endSignature

/-- Reads the end record at `p`, which must fit in the file with its comment. -/
def EndRecord.read (data : ByteArray) (p : Nat) : Except ZipError EndRecord :=
  if p + endLength > data.size then .error .truncated
  else
    let r : EndRecord := ⟨fieldD data (p + 4) 2, fieldD data (p + 6) 2, fieldD data (p + 10) 2,
      fieldD data (p + 12) 4, fieldD data (p + 16) 4, fieldD data (p + 20) 2⟩
    if r.commentLength + p + endLength > data.size then .error (.invalid "Invalid EOCD comment length")
    else .ok r

/-- The first candidate end record that reads, with its place; else the first
    failure met, or none found at all. -/
def findEnd (data : ByteArray) : Except ZipError (EndRecord × Nat) :=
  go (endCandidates data) none
where
  go : List Nat → Option ZipError → Except ZipError (EndRecord × Nat)
    | [], failure => .error (failure.getD (.invalid "Could not find EOCD"))
    | p :: ps, failure =>
      match EndRecord.read data p with
      | .ok r => .ok (r, p)
      | .error e => go ps (failure.orElse fun _ => some e)

/-- The ZIP64 end record that a locator just before the end record at `p`
    points to, read in place of the end record, with where it starts: the
    directory ends before it. Without a locator the end record is kept. -/
def zip64End (data : ByteArray) (r : EndRecord) (p : Nat) : Except ZipError (EndRecord × Nat) :=
  if p < 20 || fieldD data (p - 20) 4 != locatorSignature then .ok (r, p)
  else
    let q := fieldD data (p - 12) 8
    if q + 56 > p - 20 then .error .truncated
    else if fieldD data q 4 != end64Signature then
      .error (.invalid "Invalid ZIP64 end of central directory record")
    else
      .ok (⟨fieldD data (q + 16) 4, fieldD data (q + 20) 4, fieldD data (q + 32) 8,
        fieldD data (q + 40) 8, fieldD data (q + 48) 8, r.commentLength⟩, q)

/-- Whether an end record may stand for a ZIP64 end record: its entry count or
    its directory offset is saturated. -/
def EndRecord.mayBeZip64 (r : EndRecord) : Bool :=
  r.entries == maxEntries || r.directoryOffset == maxSize

/-- Reads the saturated ones of `vs` from `pos` on, eight bytes each, while they
    fit before `stop`. -/
def readSaturated (data : ByteArray) (stop : Nat) : List Nat → Nat → List Nat × Nat
  | [], pos => ([], pos)
  | v :: vs, pos =>
    if v == maxSize && pos + 8 ≤ stop then
      let (rest, next) := readSaturated data stop vs (pos + 8)
      (fieldD data pos 8 :: rest, next)
    else
      let (rest, next) := readSaturated data stop vs pos
      (v :: rest, next)

/-- An entry's size, compressed size and header offset, in this order, those
    that are saturated replaced from the ZIP64 blocks of the extra field that
    runs from `pos` to `stop`. -/
def zip64Values (data : ByteArray) (pos stop : Nat) (vs : List Nat) : List Nat :=
  if pos + 4 ≤ stop then
    let len := fieldD data (pos + 2) 2
    if fieldD data pos 2 == 1 then
      let (vs, next) := readSaturated data stop vs (pos + 4)
      zip64Values data (max (pos + 4 + len) next) stop vs
    else zip64Values data (pos + 4 + len) stop vs
  else vs
termination_by stop - pos

/-- The text of a member name as stored: UTF-8 when the flags say so, code page
    437 otherwise. -/
def decodeName (flags : Nat) (raw : ByteArray) : String :=
  if (flags >>> 11) % 2 == 1 then Utf8.decodeLossy raw else Cp437.decode raw

/-- Reads the directory entry at `pos`, giving the member and where the next entry starts. -/
def readEntry (data : ByteArray) (base pos : Nat) : Except ZipError (Member × Nat) := do
  if pos + 46 > data.size then throw .truncated
  if fieldD data pos 4 != entrySignature then throw (.invalid "Invalid Central Directory header")
  let flags := fieldD data (pos + 8) 2
  let nameLen := fieldD data (pos + 28) 2
  let extraLen := fieldD data (pos + 30) 2
  let commentLen := fieldD data (pos + 32) 2
  let stop := pos + 46 + nameLen + extraLen + commentLen
  if stop > data.size then throw .truncated
  let name := decodeName flags (data.extract (pos + 46) (pos + 46 + nameLen))
  let vs := zip64Values data (pos + 46 + nameLen) (pos + 46 + nameLen + extraLen)
    [fieldD data (pos + 24) 4, fieldD data (pos + 20) 4, fieldD data (pos + 42) 4]
  pure (⟨name, flags, Method.ofCode (fieldD data (pos + 10) 2),
    ⟨fieldD data (pos + 14) 2, fieldD data (pos + 12) 2⟩,
    (fieldD data (pos + 16) 4).toUInt32, vs.getD 1 0, vs.getD 0 0, base + vs.getD 2 0⟩, stop)

/-- Adds a member to a directory: a name already there keeps its place and takes
    the new entry. -/
def insertMember (ms : List Member) (m : Member) : List Member :=
  if ms.any (·.name == m.name) then ms.map fun x => if x.name == m.name then m else x
  else ms ++ [m]

/-- The members of a ZIP file, in directory order. -/
structure Directory where
  members : List Member
  deriving Inhabited

namespace Directory

/-- Reads `n` directory entries from `pos`. -/
def readEntries (data : ByteArray) (base : Nat) :
    Nat → Nat → List Member → Except ZipError (List Member)
  | 0, _, acc => .ok acc
  | n + 1, pos, acc => do
    let (m, next) ← readEntry data base pos
    readEntries data base n next (insertMember acc m)

/-- The directory of a ZIP file. The directory's offset is taken as written when
    an entry signature stands there, and otherwise as counted back from the end
    record, for files with data before the archive. -/
def read (data : ByteArray) : Except ZipError Directory := do
  let (r, p) ← findEnd data
  let (r, p) ← if r.mayBeZip64 then zip64End data r p else pure (r, p)
  if r.disk != r.directoryDisk then
    throw (.unsupported "Support for multi-disk files is not implemented")
  if r.directorySize + r.directoryOffset > p then
    throw (.invalid "Invalid central directory size or offset")
  let shift := p - r.directorySize - r.directoryOffset
  let base ← match field data r.directoryOffset 4 with
    | none => throw .truncated
    | some sig => pure (if sig == entrySignature then 0 else shift)
  let members ← readEntries data base r.entries (r.directoryOffset + base) []
  pure ⟨members⟩

/-- The member names, in order. -/
def names (d : Directory) : List String := d.members.map (·.name)

/-- The member of a name. -/
def find? (d : Directory) (name : String) : Option Member := d.members.find? (·.name == name)

/-- The decompressed bytes of a member, checked against its CRC-32. -/
def readMember (data : ByteArray) (m : Member) : Except ZipError ByteArray := do
  if m.flags % 2 == 1 then throw (.unsupported "Password required to decrypt file")
  let h := m.headerOffset
  if h + 30 > data.size then throw .truncated
  if fieldD data h 4 != localSignature then throw (.invalid "Invalid local file header")
  let start := h + 30 + fieldD data (h + 26) 2 + fieldD data (h + 28) 2
  let raw := data.extract start (start + m.compressedSize)
  let out ← match m.method with
    | .stored => pure raw
    | .deflated =>
      match Deflate.inflate raw 0 with
      | .ok (out, _) => pure out
      | .error .truncated => throw (.data "Invalid checksum")
      | .error _ => throw (.data "corrupt deflate stream")
    | .other _ => throw (.unsupported "Compression method not supported")
  if Crc32.ofBytes out != m.crc then throw (.data "Invalid checksum")
  pure out

end Directory

/-! ## Writing -/

/-- The little-endian bytes of a number of `n` bytes. -/
def le (n v : Nat) : ByteArray := ⟨(Bytes.leBytes n v).toArray⟩

/-- The general-purpose flags of a name: the UTF-8 mark when it is not ASCII. -/
def nameFlags (name : String) : Nat := if name.toList.all (fun c => c.toNat < 128) then 0 else 1 <<< 11

/-- How the members of a file are written: their compression method and their
    timestamp. -/
structure Options where
  method : Method
  modified : DosTime
  deriving DecidableEq, Repr, Inhabited

/-- Why a writer refuses a member. -/
inductive Refusal where
  /-- The options name a method the writer lacks, or a time the fields cannot hold. -/
  | unsupported
  /-- The name does not fit its two-byte length field. -/
  | nameTooLong
  /-- The bytes do not fit a four-byte size field. -/
  | tooLarge
  /-- The compressed bytes do not fit a four-byte size field. -/
  | packedTooLarge
  deriving DecidableEq, Repr, Inhabited

/-- The bytes of a member as its method keeps them: as they are, or as a DEFLATE
    stream of stored blocks. -/
def pack (m : Method) (data : ByteArray) : ByteArray :=
  match m with
  | .stored => data
  | _ => Deflate.storedBlocks data

/-- Why a member cannot be started under a name with the options, if it cannot:
    a method other than storing and deflating, a timestamp beyond its two-byte
    fields, or a name too long. -/
def refuseName (o : Options) (name : String) : Option Refusal :=
  if !(o.method == .stored || o.method == .deflated) || 0x10000 ≤ o.modified.date ||
    0x10000 ≤ o.modified.time then some .unsupported
  else if name.utf8ByteSize > maxNameLength then some .nameTooLong
  else none

/-- Why the bytes of a member cannot be taken in, if they cannot: they, or what
    the method makes of them, do not fit a four-byte size field. -/
def refuseBytes (o : Options) (data : ByteArray) : Option Refusal :=
  if data.size > maxSize then some .tooLarge
  else if (pack o.method data).size ≥ maxSize then some .packedTooLarge
  else none

/-- A member ready to be written: its name, method, timestamp, check, sizes and
    compressed bytes. -/
structure Entry where
  name : String
  method : Method
  modified : DosTime
  crc : UInt32
  size : Nat
  packed : ByteArray

/-- The fields that the local header and the directory entry share, from the
    version needed on, for an extra field of `extra` bytes. -/
def Entry.common (e : Entry) (extra : Nat) : ByteArray :=
  le 2 20 ++ le 2 (nameFlags e.name) ++ le 2 e.method.code ++
    le 2 e.modified.time ++ le 2 e.modified.date ++ le 4 e.crc.toNat ++
    le 4 e.packed.size ++ le 4 e.size ++ le 2 e.name.utf8ByteSize ++ le 2 extra

/-- The fixed part of a member's local header, before its name. -/
def Entry.localHeader (e : Entry) : ByteArray := le 4 localSignature ++ e.common 0

/-- The local header and the bytes of a member. -/
def Entry.localRecord (e : Entry) : ByteArray := e.localHeader ++ e.name.toUTF8 ++ e.packed

/-- The extra field of a directory entry whose local header starts at `offset`:
    a ZIP64 block holding the offset when the offset field is saturated. -/
def offsetExtra (offset : Nat) : ByteArray :=
  if offset < maxSize then ByteArray.empty else le 2 1 ++ le 2 8 ++ le 8 offset

/-- The fixed part of the directory entry of a member whose local header starts
    at `offset`, before its name. -/
def Entry.directoryHeader (e : Entry) (offset : Nat) : ByteArray :=
  le 4 entrySignature ++ le 2 0x031E ++ e.common (offsetExtra offset).size ++
    le 2 0 ++ le 2 0 ++ le 2 0 ++ le 4 (0o100644 <<< 16) ++ le 4 (min offset maxSize)

/-- The directory entry of a member whose local header starts at `offset`. -/
def Entry.directoryRecord (e : Entry) (offset : Nat) : ByteArray :=
  e.directoryHeader offset ++ e.name.toUTF8 ++ offsetExtra offset

/-- A member compressed for writing with the options. -/
def Entry.ofBytes (o : Options) (name : String) (data : ByteArray) : Entry :=
  ⟨name, o.method, o.modified, Crc32.ofBytes data, data.size, pack o.method data⟩

/-- The end record of a directory of `count` entries in `size` bytes from `offset`. -/
def endRecord (count size offset : Nat) : ByteArray :=
  le 4 endSignature ++ le 2 0 ++ le 2 0 ++ le 2 count ++ le 2 count ++
    le 4 size ++ le 4 offset ++ le 2 0

/-- The ZIP64 end record of a directory of `count` entries in `size` bytes from
    `offset`. -/
def zip64EndRecord (count size offset : Nat) : ByteArray :=
  le 4 end64Signature ++ le 8 44 ++ le 2 0x031E ++ le 2 45 ++ le 4 0 ++ le 4 0 ++
    le 8 count ++ le 8 count ++ le 8 size ++ le 8 offset

/-- The locator of a ZIP64 end record that starts at `offset`. -/
def zip64Locator (offset : Nat) : ByteArray :=
  le 4 locatorSignature ++ le 4 0 ++ le 8 offset ++ le 4 1

/-- The end of a ZIP file whose directory holds `count` entries in `size` bytes
    from `offset`: the end record alone when the three fit it unsaturated, and
    otherwise the ZIP64 end record, its locator, and the end record saturated. -/
def endRecords (count size offset : Nat) : ByteArray :=
  if count < maxEntries && size < maxSize && offset < maxSize then endRecord count size offset
  else
    zip64EndRecord count size offset ++ zip64Locator (offset + size) ++
      endRecord maxEntries maxSize maxSize

/-- The ZIP file holding the members in order, each written with the options. -/
def write (o : Options) (members : List (String × ByteArray)) : ByteArray :=
  let entries := members.map fun (n, d) => Entry.ofBytes o n d
  let (body, offsets) := entries.foldl
    (fun (acc : ByteArray × List Nat) e => (acc.1 ++ e.localRecord, acc.2 ++ [acc.1.size]))
    (ByteArray.empty, [])
  let directory := (entries.zip offsets).foldl
    (fun (acc : ByteArray) (eo : Entry × Nat) => acc ++ eo.1.directoryRecord eo.2) ByteArray.empty
  body ++ directory ++ endRecords entries.length directory.size body.size

end EdgePack.Zip
