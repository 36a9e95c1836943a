import EdgePack.Eval.Error
import EdgePack.Tensor.Activation

/-!
# Reading a prediction

A model's raw outputs become a prediction: the class with the greatest raw
value (ranked on the raw values, since nearly equal values can become equal
probabilities), the softmax probabilities, and the confidence — the predicted
class's probability in percent. An empty output, or one with a NaN or an
infinity, is refused, the empty one first.
-/

namespace EdgePack

/-- What a model's output says about one sample. -/
structure Interpretation where
  predicted : Nat
  confidencePct : Float32
  correct : Bool
  probabilities : List Float32

namespace Interpretation

/-- One line per class: `<class>: <percent, two places>%`. -/
def distribution (i : Interpretation) : String :=
  String.join (i.probabilities.zipIdx.map fun (p, c) => s!"{c}: {Float.fixedSingle 2 (p * 100)}%\n")

end Interpretation

/-- Interprets raw outputs for a sample whose label is `expected`. -/
def interpret (raw : List Float32) (expected : Nat) : Except EvalError Interpretation := do
  if raw.isEmpty then throw .emptyOutput
  if let some (i, v) := firstNonFinite raw then throw (.nonFiniteOutput i v)
  let some predicted := argmax raw | throw .emptyOutput
  let probabilities ← (softmax raw).mapError .tensor
  pure { predicted, probabilities, correct := predicted == expected,
         confidencePct := probabilities.getD predicted 0 * 100 }

end EdgePack
