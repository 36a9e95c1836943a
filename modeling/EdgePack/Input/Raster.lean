import EdgePack.Input.Spec
import EdgePack.Input.Error
import EdgePack.Tensor.Activation
import EdgePack.Host.Basic

/-!
# Rasters and their encoding

A raster is an image as intensities: `height × width × channels` singles,
row-major with the channels innermost. Encoding it for an input
specification checks its geometry against the declared one and casts each
intensity into the element type:

* into `u8` and `i8`, an intensity is rounded to the nearest integer (a half
  away from zero) and clipped into the type's range, never wrapped; a value
  that is not finite has no integer and is refused;
* into `f32`, the single is stored as it is, little-endian;
* the half-precision types have no rule and are refused.

The checks come in a fixed order: the element type's rule, the declared
`[H, W, C]`, the number of values, then the cast.
-/

namespace EdgePack

/-- An image as intensities. -/
structure Raster where
  height : Nat
  width : Nat
  channels : Nat
  /-- The intensities, row-major with the channels innermost. -/
  values : List Single
  deriving Inhabited

namespace Raster

/-- The shape `[H, W, C]` the raster claims. -/
def shape (r : Raster) : Shape := .hwc r.height r.width r.channels

/-- A raster whose values must be exactly as many as its geometry needs. -/
def new (height width channels : Nat) (values : List Single) : Except EncodeError Raster :=
  let expected := Shape.hwc height width channels
  if values.length = expected.numElements then .ok ⟨height, width, channels, values⟩
  else .error (.shapeMismatch "<memory>" expected (.vector values.length))

/-- A raster of one intensity everywhere. -/
def filled (height width channels : Nat) (value : Single) : Raster :=
  ⟨height, width, channels, List.replicate (height * width * channels % wordModulus) value⟩

end Raster

/-- The byte of an intensity in an integer type whose range is `lo` to `hi`:
    rounded, a half away from zero, clipped, and written in two's complement. -/
def castByte (lo hi : Int) (x : Single) : UInt8 :=
  let n := ((Float.Format.binary32.decode x.bits.toNat).roundAway).getD 0
  let clipped := max lo (min hi n)
  (clipped % 256).toNat.toUInt8

/-- The bytes of intensities cast into an element type; `origin` names the
    source in a complaint. -/
def castValues (values : List Single) (dtype : DType) (origin : String) :
    Except EncodeError ByteArray :=
  match dtype.clipRange with
  | some (lo, hi) =>
    match firstNonFinite (values.map Single.toFloat32) with
    | some (i, v) =>
      .error (.sourceRead origin s!"non-finite value {Float.showSingle v} at element {i}")
    | none => .ok ⟨(values.map (castByte lo hi)).toArray⟩
  | none =>
    if dtype = .f32 then .ok (Bytes.ofSingles values) else .error (.unsupportedDtype dtype)

/-- The tensor a raster becomes for an input specification, after the checks
    of geometry and count; `origin` names the source in a complaint. -/
def Raster.encodeAs (r : Raster) (spec : InputSpec) (origin : String) :
    Except EncodeError RawTensor := do
  let expected := spec.imageShape
  if r.shape ≠ expected then throw (.shapeMismatch origin expected r.shape)
  if r.values.length ≠ expected.numElements then
    throw (.shapeMismatch origin expected (.vector r.values.length))
  let bytes ← castValues r.values spec.dtype origin
  match RawTensor.ofBytes spec.tensorShape spec.dtype bytes with
  | .ok t => pure t
  | .error e => throw (.tensor e)

/-- The tensor a raster from memory becomes; an element type without a cast
    rule is refused first. -/
def Raster.encode (r : Raster) (spec : InputSpec) : Except EncodeError RawTensor :=
  if spec.dtype.hasCastRule then r.encodeAs spec "<memory>" else .error (.unsupportedDtype spec.dtype)

/-- The debug line that reports an encoded tensor. -/
def encodedLine (origin : String) (t : RawTensor) (spec : InputSpec) : String :=
  s!"encoded '{origin}' as {t.shape} {t.dtype.name} ({t.size} bytes, batch_dim={spec.batchDim})"

/-- Reports an encoding on the host's log when it succeeded. -/
def logEncoded (origin : String) (spec : InputSpec) :
    Except EncodeError RawTensor → HostM (Except EncodeError RawTensor)
  | .ok t => do
    Host.log .debug "raw_encoder::encode" (encodedLine origin t spec)
    pure (.ok t)
  | .error e => pure (.error e)

end EdgePack
