import EdgePack.Tensor.DType
import EdgePack.Float.Text

/-!
# Compiler options

What the model compiler is told: the source format, the target chip, the
input's shape and element types, the quantisation types, the range the
quantised input is mapped onto with its mean and deviation, whether to
preprocess, and the size above which a compiled model no longer fits the
board. The defaults describe a 28 × 28 grayscale classifier for the K210 with
`int8` quantisation.

`CompileOptions.args` is the compiler's command line; singles on it are
written with their shortest digits, positionally.
-/

namespace EdgePack

/-- Options for the model compiler. -/
structure CompileOptions where
  inputFormat : String
  target : String
  /-- The input shape with its batch dimension. -/
  inputShape : List Nat
  inputType : DType
  outputType : DType
  quantType : DType
  weightQuantType : DType
  /-- The range the quantised input is mapped onto. -/
  inputRange : Float32 × Float32
  mean : Float32
  std : Float32
  preprocess : Bool
  /-- The size above which a compiled model is reported as too large. -/
  maxModelBytes : Nat
  deriving Inhabited, BEq

namespace CompileOptions

/-- A 28 × 28 grayscale classifier for the K210, quantised to `int8`. -/
def default : CompileOptions where
  inputFormat := "tflite"
  target := "k210"
  inputShape := [1, 28, 28, 1]
  inputType := .u8
  outputType := .f32
  quantType := .i8
  weightQuantType := .i8
  inputRange := (-128, 127)
  mean := 127.5
  std := 127.5
  preprocess := true
  maxModelBytes := 435000

/-- The compiler's command line for compiling `model` into `output`, with a
    directory of calibration samples when one is given. -/
def args (o : CompileOptions) (model output : String) (calibration : Option String) : List String :=
  ["compile", model, output, "-i", o.inputFormat, "-t", o.target,
    "--input-shape", ",".intercalate (o.inputShape.map toString),
    "--input-type", o.inputType.toolName, "--output-type", o.outputType.toolName,
    "--quant-type", o.quantType.toolName, "--w-quant-type", o.weightQuantType.toolName,
    "--input-range", Float.showSingle o.inputRange.1 ++ "," ++ Float.showSingle o.inputRange.2,
    "--mean", Float.showSingle o.mean, "--std", Float.showSingle o.std] ++
  (if o.preprocess then ["--preprocess"] else []) ++
  (match calibration with
    | some dir => ["--dataset", dir, "--dataset-format", "raw"]
    | none => [])

open Serde Decoder in
/-- Reads options; every field defaults to `default`'s. -/
def decoder : Decoder CompileOptions :=
  let d := default
  record "CompileOptions"
    [("input_format", check string), ("target", check string), ("input_shape", check (seq usize)),
      ("input_type", check DType.decoder), ("output_type", check DType.decoder),
      ("quant_type", check DType.decoder), ("w_quant_type", check DType.decoder),
      ("input_range", check (pair single single)), ("mean", check single), ("std", check single),
      ("preprocess", check bool), ("max_kmodel_bytes", check u64)]
    fun fs => do
      pure {
        inputFormat := ← fs.getD "input_format" string d.inputFormat
        target := ← fs.getD "target" string d.target
        inputShape := ← fs.getD "input_shape" (seq usize) d.inputShape
        inputType := ← fs.getD "input_type" DType.decoder d.inputType
        outputType := ← fs.getD "output_type" DType.decoder d.outputType
        quantType := ← fs.getD "quant_type" DType.decoder d.quantType
        weightQuantType := ← fs.getD "w_quant_type" DType.decoder d.weightQuantType
        inputRange := ← fs.getD "input_range" (pair single single) d.inputRange
        mean := ← fs.getD "mean" single d.mean
        std := ← fs.getD "std" single d.std
        preprocess := ← fs.getD "preprocess" bool d.preprocess
        maxModelBytes := ← fs.getD "max_kmodel_bytes" u64 d.maxModelBytes }

/-- The options as data, their fields in declaration order. -/
def toDatum (o : CompileOptions) : Serde.Datum :=
  .map [("input_format", .str o.inputFormat), ("target", .str o.target),
    ("input_shape", .seq (o.inputShape.map fun (n : Nat) => Serde.Datum.int n)),
    ("input_type", .str o.inputType.name), ("output_type", .str o.outputType.name),
    ("quant_type", .str o.quantType.name), ("w_quant_type", .str o.weightQuantType.name),
    ("input_range",
      .seq [.float (Float.doubleOfSingle o.inputRange.1), .float (Float.doubleOfSingle o.inputRange.2)]),
    ("mean", .float (Float.doubleOfSingle o.mean)), ("std", .float (Float.doubleOfSingle o.std)),
    ("preprocess", .bool o.preprocess), ("max_kmodel_bytes", .int o.maxModelBytes)]

end CompileOptions

end EdgePack
