/-!
# DEFLATE streams

The compressed format of ZIP members and PNG image data: a sequence of blocks,
each stored, or coded with the fixed Huffman codes, or with codes the block
describes itself; codes stand for literal bytes, for the end of the block, and
for copies of earlier output given by a length and a distance.

Reading follows the format's definition directly. A Huffman code is kept as
its canonical form, the number of codes of each length and the symbols in code
order, and a symbol is decoded one bit at a time: the codes of one length are
consecutive numbers, so a code read so far is one of that length exactly when
it falls in their range. Every step of the reader consumes at least one bit,
so the input's length in bits bounds the work.

* `inflate`: the bytes a stream stands for, and where in the input it ends;
* `storedBlocks`: a stream of stored blocks, which `inflate` reads back as the
  bytes it was made from.
-/

namespace EdgePack.Deflate

/-- Why a stream cannot be read. -/
inductive InflateError where
  /-- The input ended inside the stream. -/
  | truncated
  /-- A block header names the reserved block type. -/
  | badBlockType
  /-- A stored block's length and its complement disagree. -/
  | storedLength
  /-- Code lengths that describe no prefix code, or a code that stands for nothing. -/
  | badCode
  /-- A repeat of code lengths with no length before it, or past the end. -/
  | badLengths
  /-- A copy that reaches before the start of the output. -/
  | badDistance
  deriving DecidableEq, Repr, Inhabited

/-- The words for a failure. -/
def InflateError.message : InflateError → String
  | .truncated => "unexpected end of compressed data"
  | .badBlockType => "invalid block type"
  | .storedLength => "invalid stored block lengths"
  | .badCode => "invalid Huffman code"
  | .badLengths => "invalid code lengths"
  | .badDistance => "invalid distance too far back"

/-- Where a reader stands: the number of bits read so far, and the bytes the
    stream has stood for so far. -/
structure Cursor where
  pos : Nat
  out : ByteArray

/-- A reader of the input's bits, lowest bit of each byte first. Its cursor
    survives a failure, so that the bytes produced before it stay known. -/
abbrev BitM := ReaderT ByteArray (ExceptT InflateError (StateM Cursor))

/-- The next bit. -/
def bit : BitM Nat := do
  let data ← read
  let c ← get
  match data[c.pos / 8]? with
  | some b => set { c with pos := c.pos + 1 }; pure ((b.toNat >>> (c.pos % 8)) % 2)
  | none => throw .truncated

/-- The next `n` bits as a number, the first bit lowest. -/
def bits : Nat → BitM Nat
  | 0 => pure 0
  | n + 1 => do
    let low ← bit
    let high ← bits n
    pure (low + 2 * high)

/-- Skips to the next byte boundary. -/
def align : BitM Unit := modify fun c => { c with pos := (c.pos + 7) / 8 * 8 }

/-- A canonical Huffman code: how many codes each length has (index 0 unused),
    and the symbols ordered by code length and then by value. -/
structure Huffman where
  counts : Array Nat
  symbols : Array Nat
  deriving Inhabited

/-- The longest code. -/
def maxBits : Nat := 15

/-- The canonical code with the given code length of each symbol, a length of
    zero leaving the symbol out; lengths that would need more codes of some
    length than there are are refused. -/
def Huffman.ofLengths (lengths : Array Nat) : Except InflateError Huffman := do
  let counts : Array Nat :=
    lengths.foldl (fun cs l => cs.modify l (· + 1)) (Array.replicate (maxBits + 1) 0)
  -- the codes still free after each length, as twice the count left by the shorter ones
  let oversubscribed := (List.range maxBits).foldl
    (fun (st : Int × Bool) i =>
      let left := st.1 * 2 - (counts.getD (i + 1) 0 : Nat)
      (left, st.2 || left < 0)) (1, false)
  if oversubscribed.2 then throw .badCode
  let order := (List.range lengths.size).filter (fun s => lengths.getD s 0 != 0)
  let sorted := order.mergeSort fun a b => lengths.getD a 0 ≤ lengths.getD b 0
  pure ⟨counts.set! 0 0, sorted.toArray⟩

/-- Reads one symbol of a code: `len` is the length of the code read so far,
    `code` its value, `first` the first code of that length and `index` the
    place of that code's symbol. -/
def Huffman.decode (h : Huffman) : BitM Nat := go maxBits 1 0 0 0
where
  go : Nat → Nat → Nat → Nat → Nat → BitM Nat
    | 0, _, _, _, _ => throw .badCode
    | fuel + 1, len, code, first, index => do
      let code := code + (← bit)
      let count := h.counts.getD len 0
      if code < first + count then
        match h.symbols[index + (code - first)]? with
        | some s => pure s
        | none => throw .badCode
      else go fuel (len + 1) (code * 2) ((first + count) * 2) (index + count)

/-- The length of a copy: the base of each length symbol from 257 on, and how
    many extra bits follow it. -/
def lengthBase : Array Nat :=
  #[3, 4, 5, 6, 7, 8, 9, 10, 11, 13, 15, 17, 19, 23, 27, 31,
    35, 43, 51, 59, 67, 83, 99, 115, 131, 163, 195, 227, 258]

/-- The extra bits after each length symbol. -/
def lengthExtra : Array Nat :=
  #[0, 0, 0, 0, 0, 0, 0, 0, 1, 1, 1, 1, 2, 2, 2, 2, 3, 3, 3, 3, 4, 4, 4, 4, 5, 5, 5, 5, 0]

/-- The distance of a copy: the base of each distance symbol. -/
def distanceBase : Array Nat :=
  #[1, 2, 3, 4, 5, 7, 9, 13, 17, 25, 33, 49, 65, 97, 129, 193,
    257, 385, 513, 769, 1025, 1537, 2049, 3073, 4097, 6145, 8193, 12289, 16385, 24577]

/-- The extra bits after each distance symbol. -/
def distanceExtra : Array Nat :=
  #[0, 0, 0, 0, 1, 1, 2, 2, 3, 3, 4, 4, 5, 5, 6, 6, 7, 7, 8, 8, 9, 9, 10, 10, 11, 11, 12, 12, 13, 13]

/-- The fixed code for literals and lengths. -/
def fixedLiterals : Array Nat :=
  (List.range 288).toArray.map fun s =>
    if s < 144 then 8 else if s < 256 then 9 else if s < 280 then 7 else 8

/-- The fixed code for distances. -/
def fixedDistances : Array Nat := Array.replicate 30 5

/-- Appends a byte to the output. -/
def emit (b : UInt8) : BitM Unit := modify fun c => { c with out := c.out.push b }

/-- Appends a copy of `len` bytes that starts `dist` bytes before the end of
    `out`, byte by byte, so that a copy may overlap what it writes. -/
def copyBack (out : ByteArray) (dist : Nat) : Nat → ByteArray
  | 0 => out
  | len + 1 => copyBack (out.push (out[out.size - dist]?.getD 0)) dist len

/-- The symbols of a coded block, until its end symbol, appended to the output. -/
def codedBlock (lit dist : Huffman) : Nat → BitM Unit
  | 0 => throw .truncated
  | fuel + 1 => do
    let s ← lit.decode
    if s < 256 then do
      emit s.toUInt8
      codedBlock lit dist fuel
    else if s == 256 then pure ()
    else
      let i := s - 257
      if h : i < lengthBase.size then
        let len := lengthBase[i] + (← bits (lengthExtra.getD i 0))
        let d ← dist.decode
        if hd : d < distanceBase.size then
          let back := distanceBase[d] + (← bits (distanceExtra.getD d 0))
          let c ← get
          if back > c.out.size then throw .badDistance
          set { c with out := copyBack c.out back len }
          codedBlock lit dist fuel
        else throw .badCode
      else throw .badCode

/-- The order in which the lengths of the code-length code are given. -/
def lengthOrder : List Nat := [16, 17, 18, 0, 8, 7, 9, 6, 10, 5, 11, 4, 12, 3, 13, 2, 14, 1, 15]

/-- Reads `n` code lengths with the code-length code, expanding repeats. -/
def codeLengths (h : Huffman) (n : Nat) : Nat → Array Nat → BitM (Array Nat)
  | 0, _ => throw .truncated
  | fuel + 1, acc =>
    if acc.size ≥ n then
      if acc.size > n then throw .badLengths else pure acc
    else do
      let s ← h.decode
      if s < 16 then codeLengths h n fuel (acc.push s)
      else if s == 16 then
        match acc.back? with
        | none => throw .badLengths
        | some prev => do
          let r := 3 + (← bits 2)
          codeLengths h n fuel (acc ++ Array.replicate r prev)
      else if s == 17 then do
        let r := 3 + (← bits 3)
        codeLengths h n fuel (acc ++ Array.replicate r 0)
      else do
        let r := 11 + (← bits 7)
        codeLengths h n fuel (acc ++ Array.replicate r 0)

/-- A result computed outside the reader, brought into it. -/
def lift {α : Type} : Except InflateError α → BitM α
  | .ok a => pure a
  | .error e => throw e

/-- The two codes a dynamic block describes in its header. -/
def dynamicCodes (fuel : Nat) : BitM (Huffman × Huffman) := do
  let nlit := 257 + (← bits 5)
  let ndist := 1 + (← bits 5)
  let ncode := 4 + (← bits 4)
  let given ← (lengthOrder.take ncode).mapM fun s => do pure (s, ← bits 3)
  let lens := given.foldl (fun a (s, l) => a.set! s l) (Array.replicate 19 0)
  let lenCode ← lift (Huffman.ofLengths lens)
  let all ← codeLengths lenCode (nlit + ndist) fuel #[]
  if all.getD 256 0 == 0 then throw .badCode
  let lit ← lift (Huffman.ofLengths (all.extract 0 nlit))
  let dist ← lift (Huffman.ofLengths (all.extract nlit (nlit + ndist)))
  pure (lit, dist)

/-- A stored block: its length, the length's complement, and the bytes; the
    bytes that are there are kept when the input ends inside them. -/
def storedBlock : BitM Unit := do
  align
  let len ← bits 16
  let nlen ← bits 16
  if len + nlen != 0xFFFF then throw .storedLength
  let data ← read
  let c ← get
  let start := c.pos / 8
  let stop := min (start + len) data.size
  set { c with pos := stop * 8, out := c.out ++ data.extract start stop }
  if start + len > data.size then throw .truncated

/-- The blocks of a stream, up to and including the one marked last. -/
def blocks : Nat → BitM Unit
  | 0 => throw .truncated
  | fuel + 1 => do
    let last ← bit
    let kind ← bits 2
    match kind with
      | 0 => storedBlock
      | 1 => do
        let lit ← lift (Huffman.ofLengths fixedLiterals)
        let dist ← lift (Huffman.ofLengths fixedDistances)
        codedBlock lit dist fuel
      | 2 => do
        let (lit, dist) ← dynamicCodes fuel
        codedBlock lit dist fuel
      | _ => throw .badBlockType
    if last == 1 then pure () else blocks fuel

/-- What reading a stream gave: the bytes produced, the byte after the last one
    read, and the failure that stopped the reading, if one did. -/
structure Inflated where
  out : ByteArray
  stop : Nat
  failure : Option InflateError

/-- Reads the stream that starts at byte `start` of `data`, as far as it goes. -/
def inflatePrefix (data : ByteArray) (start : Nat) : Inflated :=
  let fuel := 8 * data.size + 8
  let (r, c) := ((blocks fuel).run data).run.run ⟨8 * start, ByteArray.empty⟩
  ⟨c.out, (c.pos + 7) / 8, match r with | .ok () => none | .error e => some e⟩

/-- The bytes of the stream that starts at byte `start` of `data`, and the
    byte just after its end. -/
def inflate (data : ByteArray) (start : Nat) : Except InflateError (ByteArray × Nat) :=
  let r := inflatePrefix data start
  match r.failure with
  | none => .ok (r.out, r.stop)
  | some e => .error e

/-- The largest stored block. -/
def storedMax : Nat := 65535

/-- A stream of stored blocks holding `data`, one block for each `storedMax`
    bytes and at least one, the last marked as such. -/
def storedBlocks (data : ByteArray) : ByteArray :=
  go (data.size / storedMax + 1) 0 ByteArray.empty
where
  go : Nat → Nat → ByteArray → ByteArray
    | 0, _, acc => acc
    | fuel + 1, pos, acc =>
      let len := min storedMax (data.size - pos)
      let last := pos + len ≥ data.size
      let header : ByteArray := ⟨#[if last then 1 else 0,
        (len % 256).toUInt8, (len / 256).toUInt8,
        ((0xFFFF - len) % 256).toUInt8, ((0xFFFF - len) / 256).toUInt8]⟩
      let acc := acc ++ header ++ data.extract pos (pos + len)
      if last then acc else go fuel (pos + len) acc

end EdgePack.Deflate
