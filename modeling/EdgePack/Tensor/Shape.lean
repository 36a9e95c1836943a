import EdgePack.Tensor.DType

/-!
# Shapes

The dimensions of a tensor, outermost first. Image inputs are `[H, W, C]`, or
`[1, H, W, C]` when the model declares a batch dimension; both describe the
same bytes. Element and byte counts are machine words: their products wrap
around at `2^64`, and the empty product is 1.
-/

namespace EdgePack

/-- The size of a machine word: counts are taken modulo this. -/
def wordModulus : Nat := Nat.pow 2 64

/-- The dimensions of a tensor. -/
structure Shape where
  dims : List Nat
  deriving DecidableEq, Repr, Inhabited

namespace Shape

/-- A flat shape of `n` elements. -/
def vector (n : Nat) : Shape := ⟨[n]⟩

/-- `[height, width, channels]`. -/
def hwc (h w c : Nat) : Shape := ⟨[h, w, c]⟩

/-- The shape with a leading batch dimension of 1. -/
def withBatch (s : Shape) : Shape := ⟨1 :: s.dims⟩

/-- Whether the shape is `[1, H, W, C]`. -/
def hasBatch (s : Shape) : Bool :=
  match s.dims with
  | [1, _, _, _] => true
  | _ => false

/-- The number of elements, as a machine word. -/
def numElements (s : Shape) : Nat := s.dims.foldl (fun acc d => acc * d % wordModulus) 1

/-- The bytes needed for the shape in a type, as a machine word. -/
def sizeBytes (s : Shape) (d : DType) : Nat := s.numElements * d.size % wordModulus

/-- The text of a shape: `[a, b, c]`. -/
def text (s : Shape) : String := "[" ++ ", ".intercalate (s.dims.map toString) ++ "]"

instance : ToString Shape := ⟨text⟩

end Shape

end EdgePack
