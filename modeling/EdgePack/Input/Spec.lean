import EdgePack.Tensor.Shape

/-!
# Input specifications

What a model expects as its input: an image of `height × width × channels`
values, row-major with the channels innermost, in one element type, and
whether the tensor carries a leading batch dimension of 1. The batch dimension
changes the shape, never the bytes: both shapes hold `height · width ·
channels` elements.

The default describes a 28 × 28 grayscale byte image with a batch dimension.
In a document a specification is a struct with the fields `height`, `width`,
`channels`, `dtype` and `batch_dim`, the last false when absent.
-/

namespace EdgePack

/-- The input a model expects. -/
structure InputSpec where
  height : Nat
  width : Nat
  channels : Nat
  dtype : DType
  /-- Whether the tensor shape is `[1, H, W, C]` rather than `[H, W, C]`. -/
  batchDim : Bool
  deriving DecidableEq, Repr

namespace InputSpec

/-- A 28 × 28 grayscale byte image with a batch dimension. -/
def default : InputSpec := ⟨28, 28, 1, .u8, true⟩

instance : Inhabited InputSpec := ⟨default⟩

/-- The image shape `[H, W, C]`. -/
def imageShape (t : InputSpec) : Shape := .hwc t.height t.width t.channels

/-- The shape of the tensor written: `[1, H, W, C]` or `[H, W, C]`. -/
def tensorShape (t : InputSpec) : Shape :=
  if t.batchDim then t.imageShape.withBatch else t.imageShape

/-- The exact byte length of an encoded input, as a machine word. -/
def sizeBytes (t : InputSpec) : Nat := t.tensorShape.sizeBytes t.dtype

/-- The pixels of one channel plane, as a machine word. -/
def pixels (t : InputSpec) : Nat := t.height * t.width % wordModulus

open Serde Decoder in
/-- Reads a specification, by name or by position. -/
def decoder : Decoder InputSpec :=
  record "TargetSpec"
    [("height", check usize), ("width", check usize), ("channels", check usize),
      ("dtype", check DType.decoder), ("batch_dim", check bool)]
    fun fs => do
      let height ← fs.need "height" usize
      let width ← fs.need "width" usize
      let channels ← fs.need "channels" usize
      let dtype ← fs.need "dtype" DType.decoder
      let batchDim ← fs.getD "batch_dim" bool false
      pure ⟨height, width, channels, dtype, batchDim⟩

/-- The specification as data, its fields in declaration order. -/
def toDatum (t : InputSpec) : Serde.Datum :=
  .map [("height", .int t.height), ("width", .int t.width), ("channels", .int t.channels),
    ("dtype", .str t.dtype.name), ("batch_dim", .bool t.batchDim)]

end InputSpec

end EdgePack
