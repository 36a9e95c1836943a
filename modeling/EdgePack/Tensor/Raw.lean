import EdgePack.Tensor.Shape
import EdgePack.Data.Bytes
import EdgePack.Float.Text

/-!
# Raw tensors

A raw tensor is a shape, an element type and the bytes of its elements; the
number of bytes is always what the shape needs in that type (`RawTensor.size_eq`).
Singles are stored little-endian.

`TensorError` gathers the ways building a tensor or running an activation
fails; `TensorError.message` words them.
-/

namespace EdgePack

/-- Why a tensor could not be built or an activation run. -/
inductive TensorError where
  /-- A buffer whose size is not what the shape needs. -/
  | bufferSizeMismatch (expected actual : Nat)
  /-- An output whose length differs from its input's. -/
  | lengthMismatch (op : String) (input output : Nat)
  /-- An operation that does not handle the element type. -/
  | unsupportedDType (op : String) (dtype : DType)
  /-- An operation that needs at least one element. -/
  | emptyInput (op : String)
  /-- A numeric failure, in words. -/
  | numeric (op : String) (detail : String)
  deriving Inhabited

namespace TensorError

/-- The text of the error. -/
def message : TensorError → String
  | .bufferSizeMismatch e a => s!"buffer size mismatch: expected {e} bytes, got {a}"
  | .lengthMismatch op i o => s!"length mismatch for {op}: input has {i} elements, output has {o}"
  | .unsupportedDType op d => s!"unsupported dtype {d.debugName} for operation {op}"
  | .emptyInput op => s!"empty input for {op}"
  | .numeric op detail => s!"numeric error in {op}: {detail}"

/-- The name of the kind of error. -/
def tag : TensorError → String
  | .bufferSizeMismatch .. => "BufferSizeMismatch"
  | .lengthMismatch .. => "LengthMismatch"
  | .unsupportedDType .. => "UnsupportedDType"
  | .emptyInput .. => "EmptyInput"
  | .numeric .. => "Numeric"

end TensorError

/-- A tensor: shape, element type and the bytes of its elements. -/
structure RawTensor where
  shape : Shape
  dtype : DType
  data : ByteArray
  size_eq : data.size = shape.sizeBytes dtype

namespace RawTensor

/-- A tensor from bytes, which must be exactly what the shape needs. -/
def ofBytes (shape : Shape) (dtype : DType) (data : ByteArray) : Except TensorError RawTensor :=
  if h : data.size = shape.sizeBytes dtype then .ok ⟨shape, dtype, data, h⟩
  else .error (.bufferSizeMismatch (shape.sizeBytes dtype) data.size)

/-- A tensor of zero bytes. -/
def zeros (shape : Shape) (dtype : DType) : RawTensor :=
  ⟨shape, dtype, ⟨Array.replicate (shape.sizeBytes dtype) 0⟩, by simp [ByteArray.size]⟩

/-- A tensor of singles; the count must be the shape's, and a mismatch is
    reported in bytes. -/
def ofSingles (shape : Shape) (values : List Single) : Except TensorError RawTensor :=
  if values.length = shape.numElements then
    ofBytes shape .f32 (Bytes.ofSingles values)
  else .error (.bufferSizeMismatch (shape.numElements * 4 % wordModulus) (values.length * 4 % wordModulus))

/-- The bytes of the tensor. -/
def size (t : RawTensor) : Nat := t.data.size

/-- The same bytes under another shape, which must need as many. -/
def reshape (t : RawTensor) (shape : Shape) : Except TensorError RawTensor :=
  ofBytes shape t.dtype t.data

/-- The elements of a single-precision tensor. -/
def singles (t : RawTensor) : Except TensorError (List Single) :=
  if t.dtype == .f32 then .ok (Bytes.singles t.data)
  else .error (.unsupportedDType "to_f32_vec" t.dtype)

end RawTensor

end EdgePack
