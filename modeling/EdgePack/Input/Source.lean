import EdgePack.Input.Raster
import EdgePack.Image.Open

/-!
# Input sources

What an input is encoded from: a picture file, decoded and converted to the
channel count the input wants (grey for one, RGB for three, RGBA for four); a
raw file of exactly one byte per value; or intensities already in memory. A
file is a raw file when its extension is `raw` in any case, and a picture file
otherwise.

Encoding a source refuses an element type without a cast rule before it
touches the file, then loads the source, then checks its geometry and casts.

* `Source.load`: the intensities of a source, as a raster;
* `Source.encode`: the tensor a source becomes, reported on the debug log.
-/

namespace EdgePack

/-- Where an input's intensities come from. -/
inductive Source where
  | imageFile (path : Path)
  | rawFile (path : Path)
  | pixels (r : Raster)
  deriving Inhabited

namespace Source

/-- The source a path names: raw by its extension, else a picture. -/
def ofPath (p : Path) : Source :=
  match p.extension? with
  | some e => if String.ofList (e.toList.map Char.toLower) == "raw" then .rawFile p else .imageFile p
  | none => .imageFile p

/-- The name of a source in complaints and reports. -/
def origin : Source → String
  | .imageFile p | .rawFile p => p.text
  | .pixels _ => "<memory>"

/-- The intensity of a sample: the single nearest to it, which for the 8-bit
    samples of pictures and raw files is the sample exactly. -/
def Single.ofNat (n : Nat) : Single := ⟨(Float.Format.binary32.ofDecimal false n 0).toUInt32⟩

/-- The raster of a picture, converted to `channels` channels of 8 bits. -/
def pictureRaster (origin : String) (pic : Picture) (channels : Nat) : Except EncodeError Raster :=
  match pic.withChannels channels with
  | some samples =>
    .ok ⟨pic.height, pic.width, channels,
      samples.map Single.ofNat⟩
  | none =>
    .error (.shapeMismatch origin (.hwc pic.height pic.width channels)
      (.hwc pic.height pic.width pic.layout.channels))

/-- The intensities of a source, with the channel count of the input. -/
def load (s : Source) (spec : InputSpec) : HostM (Except EncodeError Raster) := do
  match s with
  | .imageFile p =>
    match ← openPicture p with
    | .error e => pure (.error (.sourceRead p.text e.message))
    | .ok pic => pure (pictureRaster p.text pic spec.channels)
  | .rawFile p =>
    match ← Host.readBytes p with
    | .error e => pure (.error (.sourceRead p.text e.message))
    | .ok data =>
      let expected := spec.imageShape
      if data.size ≠ expected.numElements then
        pure (.error (.shapeMismatch p.text expected (.vector data.size)))
      else
        pure (.ok ⟨spec.height, spec.width, spec.channels,
          data.toList.map fun b => Single.ofNat b.toNat⟩)
  | .pixels r => pure (.ok r)

/-- The tensor a source becomes for an input specification. -/
def encode (s : Source) (spec : InputSpec) : HostM (Except EncodeError RawTensor) := do
  if !spec.dtype.hasCastRule then pure (.error (.unsupportedDtype spec.dtype))
  else
    match ← s.load spec with
    | .error e => pure (.error e)
    | .ok r => logEncoded s.origin spec (r.encodeAs spec s.origin)

end Source

end EdgePack
