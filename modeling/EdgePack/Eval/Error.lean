import EdgePack.Tensor.Raw
import EdgePack.Host.Basic

/-!
# Evaluation errors

The ways interpreting a model's output or scoring a sample fails.
-/

namespace EdgePack

/-- Why a sample could not be scored. -/
inductive EvalError where
  /-- The model gave no output values. -/
  | emptyOutput
  /-- An output value is NaN or infinite. -/
  | nonFiniteOutput (index : Nat) (value : Float32)
  /-- The sample's file name carries no label. -/
  | invalidLabelFormat (name : String)
  /-- The inference backend failed, in its words. -/
  | backend (text : String)
  /-- Listing or reading samples failed. -/
  | io (path : Path) (e : IoError)
  /-- An activation failed. -/
  | tensor (e : TensorError)
  deriving Inhabited

namespace EvalError

/-- The text of the error. -/
def message : EvalError → String
  | .emptyOutput => "model output is empty"
  | .nonFiniteOutput i v => s!"model output value {Float.showSingle v} at index {i} is not finite"
  | .invalidLabelFormat n => s!"cannot parse a label from '{n}' (expected <id>_<label>.<ext>)"
  | .backend t => s!"inference backend failed: {t}"
  | .io p e => s!"I/O error on '{p}': {e.message}"
  | .tensor e => s!"tensor error: {e.message}"

/-- The name of the kind of error. -/
def tag : EvalError → String
  | .emptyOutput => "EmptyOutput"
  | .nonFiniteOutput .. => "NonFiniteOutput"
  | .invalidLabelFormat .. => "InvalidLabelFormat"
  | .backend .. => "Backend"
  | .io .. => "Io"
  | .tensor .. => "Tensor"

/-- The errors underneath this one, outermost first, each in its own words:
    a backend's failure is the error under it. -/
def sources : EvalError → List String
  | .backend t => [t]
  | .io _ e => [e.message]
  | .tensor e => [e.message]
  | .emptyOutput | .nonFiniteOutput .. | .invalidLabelFormat .. => []

end EvalError

end EdgePack
