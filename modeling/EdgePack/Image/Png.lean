import EdgePack.Codec.Crc32
import EdgePack.Codec.Deflate
import EdgePack.Data.Bytes
import EdgePack.Image.Picture
import EdgePack.Text.Hex

/-!
# PNG pictures

A PNG file is an eight-byte signature and a sequence of chunks, each a length,
a four-letter kind, the data and a CRC-32 of kind and data. The header chunk
`IHDR` comes first and gives the size, the bit depth, the colour type and the
interlacing; `PLTE` and `tRNS` give a palette and transparency; the `IDAT`
chunks hold one zlib stream of filtered rows.

Decoding reads chunks up to the end of the `IDAT` run and the header of the
chunk after it, inflates the stream, undoes each row's filter and expands the
samples to a `Picture`:

* grey of 1, 2 or 4 bits is scaled to 8 bits, a palette index becomes its
  colour, and sixteen bits stay sixteen;
* a `tRNS` chunk turns grey into grey with alpha and colour into colour with
  alpha: the key colour becomes transparent, every other opaque; for a palette
  it gives each entry's alpha;
* interlaced files are read pass by pass and the pixels put in place.

A file that ends before all of this has been read is cut short
(`PngError.unexpectedEnd`), whatever else is wrong with it.
-/

namespace EdgePack.Png

/-- Why a PNG file cannot be decoded. -/
inductive PngError where
  /-- The file ended before the decoder had read what it needs. -/
  | unexpectedEnd
  /-- The file does not start with the PNG signature. -/
  | signature
  /-- A chunk's CRC-32 is not that of its kind and data. -/
  | crc (kind : String) (expected actual : Nat)
  /-- The stream of image data ended before every row was complete. -/
  | noMoreData
  /-- The zlib stream of image data is broken. -/
  | corruptStream
  /-- Another violation of the format, in words. -/
  | format (text : String)
  deriving DecidableEq, Repr, Inhabited

/-- The words for a failure. -/
def PngError.message : PngError → String
  | .unexpectedEnd => "unexpected end of file"
  | .signature => "Invalid PNG signature."
  | .crc kind e a =>
    let eh := Text.hexLower e
    let ah := Text.hexLower a
    s!"CRC error: expected 0x{eh} have 0x{ah} while decoding {kind} chunk."
  | .noMoreData => "IDAT or fdAT chunk does not have enough data for image."
  | .corruptStream => "Corrupt deflate stream."
  | .format t => t

/-- The eight bytes every PNG file starts with. -/
def signatureBytes : List Nat := [137, 80, 78, 71, 13, 10, 26, 10]

/-- The big-endian number of `n` bytes at `pos`. -/
def beValue (data : ByteArray) (pos n : Nat) : Nat :=
  (List.range n).foldl (fun acc i => acc * 256 + (data[pos + i]?.getD 0).toNat) 0

/-- A chunk: its kind and data. -/
structure Chunk where
  kind : String
  data : ByteArray

/-- Reads the whole chunk at `pos`, checking its CRC, and gives where the next starts. -/
def readChunk (data : ByteArray) (pos : Nat) : Except PngError (Chunk × Nat) := do
  if pos + 8 > data.size then throw .unexpectedEnd
  let len := beValue data pos 4
  let kindBytes := data.extract (pos + 4) (pos + 8)
  let kind := String.ofList (kindBytes.toList.map fun b => Char.ofNat b.toNat)
  if pos + 12 + len > data.size then throw .unexpectedEnd
  let body := data.extract (pos + 8) (pos + 8 + len)
  let expected := beValue data (pos + 8 + len) 4
  let actual := (Crc32.ofBytes (kindBytes ++ body)).toNat
  if expected != actual then throw (.crc kind expected actual)
  pure (⟨kind, body⟩, pos + 12 + len)

/-- What the header says. -/
structure Header where
  width : Nat
  height : Nat
  depth : Nat
  colorType : Nat
  interlaced : Bool

/-- The samples per pixel of a colour type. -/
def samplesPerPixel : Nat → Nat
  | 0 => 1
  | 2 => 3
  | 3 => 1
  | 4 => 2
  | 6 => 4
  | _ => 1

/-- Whether a bit depth is allowed with a colour type. -/
def depthAllowed (colorType depth : Nat) : Bool :=
  match colorType with
  | 0 => [1, 2, 4, 8, 16].contains depth
  | 3 => [1, 2, 4, 8].contains depth
  | _ => [8, 16].contains depth

/-- Reads and checks the header chunk's data. -/
def Header.read (d : ByteArray) : Except PngError Header := do
  if d.size < 13 then throw .unexpectedEnd
  let w := beValue d 0 4
  let h := beValue d 4 4
  if w == 0 || h == 0 then throw (.format "Invalid image dimensions")
  let depth := beValue d 8 1
  if !([1, 2, 4, 8, 16].contains depth) then throw (.format s!"invalid bit depth {depth}")
  let ct := beValue d 9 1
  if !([0, 2, 3, 4, 6].contains ct) then throw (.format s!"invalid colour type {ct}")
  if !depthAllowed ct depth then
    throw (.format s!"invalid colour type and bit depth combination {ct}/{depth}")
  let cm := beValue d 10 1
  if cm != 0 then throw (.format s!"unknown compression method {cm}")
  let fm := beValue d 11 1
  if fm != 0 then throw (.format s!"unknown filter method {fm}")
  let im := beValue d 12 1
  if im > 1 then throw (.format s!"unknown interlace method {im}")
  pure ⟨w, h, depth, ct, im == 1⟩

/-- Bytes per pixel for filtering: at least one. -/
def Header.filterStep (h : Header) : Nat := max 1 (samplesPerPixel h.colorType * h.depth / 8)

/-- Bytes of one row of `w` pixels, without its filter byte. -/
def Header.rowBytes (h : Header) (w : Nat) : Nat := (w * samplesPerPixel h.colorType * h.depth + 7) / 8

/-- The chunks that matter, read up to the end of the image data: the header,
    palette and transparency, and the joined image data. -/
structure Parts where
  header : Header
  palette : Option ByteArray
  transparency : Option ByteArray
  imageData : ByteArray

/-- Reads the chunks after the signature. The first must be the header; the
    run of image-data chunks ends at the header of the next chunk, which must
    be there. -/
def readParts (data : ByteArray) : Except PngError Parts := do
  let (first, next) ← readChunk data 8
  if first.kind != "IHDR" then throw (.format "IHDR chunk missing")
  let header ← Header.read first.data
  go header (data.size + 1) next none none
where
  go (header : Header) : Nat → Nat → Option ByteArray → Option ByteArray → Except PngError Parts
    | 0, _, _, _ => throw .unexpectedEnd
    | fuel + 1, pos, plte, trns => do
      let (c, next) ← readChunk data pos
      if c.kind == "IDAT" then
        if header.colorType == 3 && plte.isNone then throw (.format "Missing palette of indexed image.")
        let body ← idatRun fuel next c.data
        pure ⟨header, plte, trns, body⟩
      else if c.kind == "IEND" then throw (.format "IDAT or fdAT chunk is missing.")
      else if c.kind == "PLTE" then go header fuel next (some c.data) trns
      else if c.kind == "tRNS" then go header fuel next plte (some c.data)
      else go header fuel next plte trns
  /-- The data of the image-data chunks from `pos` on, joined, once the header
      of the chunk after them has been seen. -/
  idatRun : Nat → Nat → ByteArray → Except PngError ByteArray
    | 0, _, _ => throw .unexpectedEnd
    | fuel + 1, pos, acc => do
      if pos + 8 > data.size then throw .unexpectedEnd
      if data.extract (pos + 4) (pos + 8) == "IDAT".toUTF8 then
        let (c, next) ← readChunk data pos
        idatRun fuel next (acc ++ c.data)
      else pure acc

/-! ## Filters -/

/-- The predictor that is nearest to `a + b - c` of the left, upper and
    upper-left bytes, ties going in that order. -/
def paeth (a b c : Nat) : Nat :=
  let p : Int := (a : Int) + b - c
  let pa := (p - a).natAbs
  let pb := (p - b).natAbs
  let pc := (p - c).natAbs
  if pa ≤ pb ∧ pa ≤ pc then a else if pb ≤ pc then b else c

/-- A row with its filter undone, given the row above (unfiltered) and the
    bytes per pixel. -/
def unfilter (kind step : Nat) (prev row : Array Nat) : Except PngError (Array Nat) :=
  if kind > 4 then .error (.format s!"unknown filter method {kind}")
  else
    .ok ((List.range row.size).foldl (fun (out : Array Nat) i =>
      let x := row.getD i 0
      let left := if i ≥ step then out.getD (i - step) 0 else 0
      let up := prev.getD i 0
      let upLeft := if i ≥ step then prev.getD (i - step) 0 else 0
      let pred := match kind with
        | 1 => left
        | 2 => up
        | 3 => (left + up) / 2
        | 4 => paeth left up upLeft
        | _ => 0
      out.push ((x + pred) % 256)) #[])

/-- The samples of an unfiltered row of `w` pixels. -/
def rowSamples (h : Header) (w : Nat) (row : Array Nat) : List Nat :=
  let n := w * samplesPerPixel h.colorType
  if h.depth == 8 then (row.toList.take n)
  else if h.depth == 16 then
    (List.range n).map fun i => row.getD (2 * i) 0 * 256 + row.getD (2 * i + 1) 0
  else
    (List.range n).map fun i =>
      let bit := i * h.depth
      let byte := row.getD (bit / 8) 0
      (byte >>> (8 - h.depth - bit % 8)) % (Nat.pow 2 h.depth)

/-- The rows of one pass of `w` by `rows` pixels from byte `pos` of the
    inflated data, and where the pass ends. -/
def passSamples (h : Header) (inflated : ByteArray) (w rows pos : Nat) :
    Except PngError (List (List Nat) × Nat) :=
  if w == 0 || rows == 0 then .ok ([], pos)
  else
    let len := h.rowBytes w
    go rows pos (Array.replicate len 0) []
where
  go : Nat → Nat → Array Nat → List (List Nat) → Except PngError (List (List Nat) × Nat)
    | 0, pos, _, acc => .ok (acc.reverse, pos)
    | k + 1, pos, prev, acc => do
      let len := h.rowBytes w
      if pos + 1 + len > inflated.size then throw .noMoreData
      let kind := (inflated[pos]?.getD 0).toNat
      let raw := (inflated.extract (pos + 1) (pos + 1 + len)).toList.toArray.map (·.toNat)
      let row ← unfilter kind h.filterStep prev raw
      go k (pos + 1 + len) row (rowSamples h w row :: acc)

/-- The seven passes of interlacing: first column and row, and their steps. -/
def adam7 : List (Nat × Nat × Nat × Nat) :=
  [(0, 0, 8, 8), (4, 0, 8, 8), (0, 4, 4, 8), (2, 0, 4, 4), (0, 2, 2, 4), (1, 0, 2, 2), (0, 1, 1, 2)]

/-- How many of `0..n` a pass starting at `start` with step `step` visits. -/
def passCount (n start step : Nat) : Nat := if n > start then (n - start + step - 1) / step else 0

/-- The raw samples of every pixel in row-major order, each pixel its list of
    samples before expansion. -/
def rawPixels (h : Header) (inflated : ByteArray) : Except PngError (List (List Nat)) := do
  let spp := samplesPerPixel h.colorType
  if !h.interlaced then
    let (rows, _) ← passSamples h inflated h.width h.height 0
    pure (rows.flatMap (chunks spp))
  else
    -- each pass's pixels, tagged with their place
    let (placed, _) ← adam7.foldlM (fun (st : List ((Nat × Nat) × List Nat) × Nat) pass => do
      let (x0, y0, dx, dy) := pass
      let w := passCount h.width x0 dx
      let rows := passCount h.height y0 dy
      let (rs, next) ← passSamples h inflated w rows st.2
      let here := rs.zipIdx.flatMap fun (r, j) =>
        (chunks spp r).zipIdx.map fun (px, i) => ((y0 + j * dy, x0 + i * dx), px)
      pure (st.1 ++ here, next)) ([], 0)
    let key (p : (Nat × Nat) × List Nat) : Nat := p.1.1 * h.width + p.1.2
    pure ((placed.mergeSort fun a b => key a ≤ key b).map (·.2))

/-- Scales a grey sample of fewer than 8 bits to 8 bits. -/
def scaleUp (depth x : Nat) : Nat := if depth < 8 then x * (255 / (Nat.pow 2 depth - 1)) else x

/-- The picture the parts stand for. -/
def expand (parts : Parts) (pixels : List (List Nat)) : Picture :=
  let h := parts.header
  let wide := h.depth == 16
  let top := if wide then 65535 else 255
  let key (n : Nat) : Option (List Nat) := parts.transparency.map fun t =>
    (List.range n).map fun i => beValue t (2 * i) 2
  let mk (layout : PixelLayout) (samples : List Nat) : Picture :=
    ⟨h.width, h.height, layout, wide, samples⟩
  match h.colorType with
  | 0 =>
    match key 1 with
    | none => mk .luma (pixels.flatMap fun px => px.map (scaleUp h.depth))
    | some k => mk .lumaAlpha (pixels.flatMap fun px =>
        px.map (scaleUp h.depth) ++ [if px == k then 0 else top])
  | 2 =>
    match key 3 with
    | none => mk .rgb pixels.flatten
    | some k => mk .rgba (pixels.flatMap fun px => px ++ [if px == k then 0 else top])
  | 3 =>
    let pal := parts.palette.getD ByteArray.empty
    let colour (i : Nat) : List Nat :=
      if 3 * i + 3 ≤ pal.size then [beValue pal (3 * i) 1, beValue pal (3 * i + 1) 1, beValue pal (3 * i + 2) 1]
      else [0, 0, 0]
    match parts.transparency with
    | none => mk .rgb (pixels.flatMap fun px => colour (px.getD 0 0))
    | some t => mk .rgba (pixels.flatMap fun px =>
        let i := px.getD 0 0
        colour i ++ [if i < t.size then beValue t i 1 else 255])
  | 4 => mk .lumaAlpha pixels.flatten
  | _ => mk .rgba pixels.flatten

/-- Decodes a PNG file. -/
def decode (data : ByteArray) : Except PngError Picture := do
  -- the signature is compared byte by byte: a wrong byte is found before a missing one
  let given := (data.extract 0 8).toList.map (·.toNat)
  if given != signatureBytes.take given.length then throw .signature
  if given.length < 8 then throw .unexpectedEnd
  let parts ← readParts data
  let stream := parts.imageData
  if stream.size < 2 then throw .noMoreData
  let cmf := (stream[0]?.getD 0).toNat
  let flg := (stream[1]?.getD 0).toNat
  if cmf % 16 != 8 || (cmf * 256 + flg) % 31 != 0 then throw .corruptStream
  let r := Deflate.inflatePrefix stream 2
  match r.failure with
  | some .truncated | none => pure ()
  | some _ => throw .corruptStream
  let pixels ← rawPixels parts.header r.out
  pure (expand parts pixels)

end EdgePack.Png
