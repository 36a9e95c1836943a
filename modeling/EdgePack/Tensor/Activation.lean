import EdgePack.Tensor.Raw

/-!
# Activations

The two functions that turn a model's raw outputs into a prediction.

* `softmax`: `exp(x - max)` for every element, summed in index order, then each
  multiplied by the reciprocal of the sum, all in single precision. The input
  must be non-empty, as long as the output asked for, and finite (checked in
  that order, the first non-finite element named).
* `argmax`: the index of the greatest element, the lowest index winning a tie;
  a NaN never wins, and a list of NaNs alone has none.

The running maximum keeps its value when the next element is not greater, and
passes over a NaN.
-/

namespace EdgePack

/-- The greater of a running maximum and the next value; a NaN is passed over
    and the running value is kept on a tie. -/
def runningMax (acc v : Float32) : Float32 := if v > acc then v else if acc.isNaN then v else acc

/-- The lesser of a running minimum and the next value; a NaN is passed over
    and the running value is kept on a tie. -/
def runningMin (acc v : Float32) : Float32 := if v < acc then v else if acc.isNaN then v else acc

/-- Negative infinity in single precision. -/
def negInfinity : Float32 := -(1.0 / 0.0)

/-- Positive infinity in single precision. -/
def posInfinity : Float32 := 1.0 / 0.0

/-- The first non-finite element and its index. -/
def firstNonFinite (xs : List Float32) : Option (Nat × Float32) :=
  (xs.zipIdx.find? fun (v, _) => !v.isFinite).map fun (v, i) => (i, v)

/-- The softmax of `input` into an output of `outLen` elements. -/
def softmaxInto (input : List Float32) (outLen : Nat) : Except TensorError (List Float32) := do
  if input.isEmpty then throw (.emptyInput "softmax")
  if input.length ≠ outLen then throw (.lengthMismatch "softmax" input.length outLen)
  if let some (i, v) := firstNonFinite input then
    throw (.numeric "softmax" s!"non-finite value {Float.showSingle v} at index {i}")
  let top := input.foldl runningMax negInfinity
  let exps := input.map fun s => Float32.exp (s - top)
  let sum := exps.foldl (· + ·) 0
  let inv := 1 / sum
  pure (exps.map (· * inv))

/-- The softmax of a non-empty finite list. -/
def softmax (input : List Float32) : Except TensorError (List Float32) :=
  softmaxInto input input.length

/-- One step of `argmax`: the best index and value so far, and the next value
    with its index. The next value wins only when it is greater; a NaN never wins. -/
def argmaxStep (best : Option (Nat × Float32)) (iv : Float32 × Nat) : Option (Nat × Float32) :=
  let (v, i) := iv
  match best with
  | some (j, b) => if v ≤ b || v.isNaN then some (j, b) else some (i, v)
  | none => if v.isNaN then none else some (i, v)

/-- The index of the greatest element: the lowest index on a tie; NaNs never win. -/
def argmax (values : List Float32) : Option Nat :=
  (values.zipIdx.foldl argmaxStep none).map (·.1)

end EdgePack
