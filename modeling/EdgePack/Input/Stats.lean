import EdgePack.Tensor.Raw
import EdgePack.Data.Chunks

/-!
# Statistics of an input tensor

The least, greatest and mean element of a tensor of bytes or singles, how
many elements are not zero, and a picture of it in text. Bytes are read as
their integers (signed for `i8`).

* The least and greatest are folds over singles that skip NaNs, starting from
  the infinities; of two equal elements (a zero of either sign) the later one
  is kept.
* The mean is summed and divided in double precision, then rounded to a single.
* The picture cuts the elements into rows of `width · channels` and each row
  into pixels of `channels`; a pixel is `o` when one of its elements is not
  zero, `.` otherwise, and every row ends with a line break. The row length
  is a product of machine words, so it wraps, and the program divides by it
  before it cuts: a row length that wraps to zero stops it.
-/

namespace EdgePack

/-- The elements of a byte or single tensor, as singles. -/
def elementValues (t : RawTensor) : Except TensorError (List Float32) :=
  match t.dtype with
  | .u8 => .ok (t.data.toList.map fun b => Float.singleOfDecimal false b.toNat 0)
  | .i8 => .ok (t.data.toList.map fun b =>
      if b.toNat < 128 then Float.singleOfDecimal false b.toNat 0
      else Float.singleOfDecimal true (256 - b.toNat) 0)
  | .f32 => t.singles.map (·.map Single.toFloat32)
  | d => .error (.unsupportedDType "stats" d)

/-- The lesser of two singles, a NaN giving way to the other; of two equal ones
    the second. -/
def lesser (a b : Float32) : Float32 :=
  if b.isNaN then a else if a.isNaN then b else if a < b then a else b

/-- The greater of two singles, a NaN giving way to the other; of two equal ones
    the second. -/
def greater (a b : Float32) : Float32 :=
  if b.isNaN then a else if a.isNaN then b else if a > b then a else b

/-- Summary figures of a tensor's elements. -/
structure TensorStats where
  min : Float32
  max : Float32
  mean : Float32
  /-- The elements that are not zero (NaN among them). -/
  nonZero : Nat
  total : Nat
  deriving Inhabited

namespace TensorStats

/-- The figures of a tensor, which must hold at least one element. -/
def ofTensor (t : RawTensor) : Except TensorError TensorStats := do
  let values ← elementValues t
  if values.isEmpty then throw (.emptyInput "stats")
  let sum := values.foldl (fun acc v => acc + v.toFloat) (-0.0)
  pure {
    min := values.foldl lesser (1.0 / 0.0)
    max := values.foldl greater (-(1.0 / 0.0))
    mean := (sum / Float.doubleOfNat values.length).toFloat32
    nonZero := (values.filter fun v => v != 0).length
    total := values.length }

/-- The share of non-zero elements, in percent. -/
def nonZeroPct (s : TensorStats) : Float :=
  if s.total = 0 then 0.0
  else Float.doubleOfNat s.nonZero * 100.0 / Float.doubleOfNat s.total

/-- One line of figures: least and greatest to whole numbers, the mean to two
    places, the share to one. -/
def summary (s : TensorStats) : String :=
  "min " ++ Float.fixedSingle 0 s.min ++ ", max " ++ Float.fixedSingle 0 s.max ++
    ", mean " ++ Float.fixedSingle 2 s.mean ++ ", non-zero " ++ toString s.nonZero ++
    " (" ++ Float.fixedDouble 1 s.nonZeroPct ++ "%)"

end TensorStats

/-- Why a tensor gives no picture. -/
inductive PreviewError where
  /-- Its elements are not bytes or singles. -/
  | tensor (e : TensorError)
  /-- The row length wrapped to zero, and the program stopped dividing by it. -/
  | divideByZero

/-- The text of a failure: the tensor's error, or the stop. -/
def PreviewError.message : PreviewError → String
  | .tensor e => e.message
  | .divideByZero => "attempt to divide by zero"

/-- A picture of a tensor in text, `width` pixels of `channels` elements a row.
    The row length `width · channels` (each at least one) is a product of
    machine words. -/
def asciiPreview (t : RawTensor) (width channels : Nat) : Except PreviewError String := do
  let values ← (elementValues t).mapError .tensor
  let pixel := max channels 1
  let rowLen := max width 1 * pixel % wordModulus
  -- the room set aside for the text divides the element count by the row length
  if rowLen = 0 then throw .divideByZero
  pure <| String.join <| (chunks rowLen values).map fun row =>
    String.ofList ((chunks pixel row).map fun px =>
      if px.any (fun v => v != 0) then 'o' else '.') ++ "\n"

end EdgePack
