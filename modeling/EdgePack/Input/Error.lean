import EdgePack.Tensor.Raw
import EdgePack.Host.Fs

/-!
# Encoding errors

Why a source could not be turned into an input tensor: its geometry differs
from the one declared, the element type has no rule for casting intensities,
the source could not be read, the tensor could not be written, or the bytes
did not make a tensor.
-/

namespace EdgePack

/-- Why an input could not be encoded or written. -/
inductive EncodeError where
  /-- The source's shape is not the declared one. -/
  | shapeMismatch (origin : String) (expected actual : Shape)
  /-- The element type has no rule for casting intensities. -/
  | unsupportedDtype (dtype : DType)
  /-- The source is missing, unreadable or corrupt. -/
  | sourceRead (path : String) (detail : String)
  /-- Writing an encoded tensor failed. -/
  | write (path : String) (cause : IoError)
  /-- The encoded bytes did not make a tensor. -/
  | tensor (e : TensorError)
  deriving Inhabited

namespace EncodeError

/-- The text of the error. -/
def message : EncodeError → String
  | .shapeMismatch o e a => s!"shape mismatch for '{o}': expected {e}, got {a}"
  | .unsupportedDtype d => s!"unsupported target dtype {d.name}: no cast rule defined"
  | .sourceRead p d => s!"cannot read source '{p}': {d}"
  | .write p c => s!"cannot write '{p}': {c.message}"
  | .tensor e => s!"tensor error: {e.message}"

/-- The name of the kind of error. -/
def tag : EncodeError → String
  | .shapeMismatch .. => "ShapeMismatch"
  | .unsupportedDtype .. => "UnsupportedDtype"
  | .sourceRead .. => "SourceRead"
  | .write .. => "Write"
  | .tensor .. => "Tensor"

/-- The errors underneath this one, outermost first, each in its own words. -/
def sources : EncodeError → List String
  | .write _ c => [c.message]
  | .tensor e => [e.message]
  | .shapeMismatch .. | .unsupportedDtype .. | .sourceRead .. => []

end EncodeError

end EdgePack
