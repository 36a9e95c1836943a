import EdgePack.Serde.Decode

/-!
# Element types

The element types of model tensors: unsigned and signed bytes, and three
floating-point widths. Integer types clip values into their range; the three
that intensity values can be cast into are `u8`, `i8` and `f32`.

A type is named in three spellings: its short name (`u8`), its name on the
model compiler's command line (`uint8`), and a capitalised one in diagnostics
(`U8`). `DType.parse?` reads any case of the short and long names; a
configuration file accepts the lower-case short names and `uint8`, `int8`,
`float32` only (`DType.decoder`).
-/

namespace EdgePack

/-- An element type of a tensor. -/
inductive DType where
  | u8
  | i8
  | f32
  | f16
  | bf16
  deriving DecidableEq, Repr, Inhabited

namespace DType

/-- The bytes of one element. -/
def size : DType → Nat
  | .u8 | .i8 => 1
  | .f16 | .bf16 => 2
  | .f32 => 4

/-- The short name. -/
def name : DType → String
  | .u8 => "u8"
  | .i8 => "i8"
  | .f32 => "f32"
  | .f16 => "f16"
  | .bf16 => "bf16"

/-- The capitalised name used in diagnostics. -/
def debugName : DType → String
  | .u8 => "U8"
  | .i8 => "I8"
  | .f32 => "F32"
  | .f16 => "F16"
  | .bf16 => "BF16"

/-- The name on the model compiler's command line. -/
def toolName : DType → String
  | .u8 => "uint8"
  | .i8 => "int8"
  | .f32 => "float32"
  | .f16 => "float16"
  | .bf16 => "bfloat16"

/-- The range integer types clip into; floating-point types are not clipped. -/
def clipRange : DType → Option (Int × Int)
  | .u8 => some (0, 255)
  | .i8 => some (-128, 127)
  | _ => none

/-- Whether intensity values can be cast into the type. -/
def hasCastRule : DType → Bool
  | .u8 | .i8 | .f32 => true
  | _ => false

/-- Reads a type name in any case of ASCII letters: `u8`/`uint8`, `i8`/`int8`,
    `f32`/`float32`/`float`, `f16`/`float16`, `bf16`/`bfloat16`. -/
def parse? (s : String) : Option DType :=
  match s.toLower with
  | "u8" | "uint8" => some .u8
  | "i8" | "int8" => some .i8
  | "f32" | "float32" | "float" => some .f32
  | "f16" | "float16" => some .f16
  | "bf16" | "bfloat16" => some .bf16
  | _ => none

/-- Reads a type name, with the complaint `unknown dtype '…'`. -/
def ofString (s : String) : Except String DType :=
  match parse? s with
  | some d => .ok d
  | none => .error s!"unknown dtype '{s}'"

/-- Reads a type name as a configuration spells it, exactly: the lower-case
    short names, and `uint8`, `int8`, `float32`. -/
def decoder : Serde.Decoder DType :=
  Serde.Decoder.choice [("u8", .u8), ("uint8", .u8), ("i8", .i8), ("int8", .i8),
    ("f32", .f32), ("float32", .f32), ("f16", .f16), ("bf16", .bf16)]

end DType

end EdgePack
