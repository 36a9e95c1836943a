import EdgePack.Tool.Run
import EdgePack.Eval.Evaluator
import EdgePack.Data.Bytes

/-!
# Inference by the model compiler

The compiler runs a compiled model on one sample at a time:

```text
ncc infer <kmodel> <dir> --dataset <sample.raw> --dataset-format raw \
    --input-mean <m> --input-std <s>
<dir>/<single file>  ──► little-endian singles, one per class
```

Each run gets a fresh empty directory for its output under the temporary
directory, removed afterwards. `readSingleOutput` reads the one regular file
the tool leaves there; no file, several, or a length that is not a whole
number of singles is a failure of the run, and so is any failure of the tool.
As an evaluation backend, a failure is the backend's, in the tool's words.
-/

namespace EdgePack

/-- The singles of the one regular file in a directory, or why there are none. -/
def readSingleOutput (dir : Path) : HostM (Except String (List Single)) := do
  match ← Host.listDir dir with
  | .error e => pure (.error s!"{dir.text}: {e.message}")
  | .ok names =>
    let files ← (names.map fun (n : String) => dir / (⟨n⟩ : Path)).filterM Host.isFile
    match files with
    | [] => pure (.error s!"no output file in {dir.text}")
    | [only] =>
      match ← Host.readBytes only with
      | .error e => pure (.error s!"{only.text}: {e.message}")
      | .ok bytes =>
        if bytes.size % 4 != 0 then
          pure (.error s!"{only.text} is {bytes.size} bytes, not a whole number of f32 values")
        else pure (.ok (Bytes.singles bytes))
    | many => pure (.error s!"expected one output file in {dir.text}, found {many.length}")

/-- A compiled model run by the compiler's `infer`, with the normalisation of its input. -/
structure NccInference where
  tool : ToolCommand
  kmodel : String
  inputMean : Float32 := 0
  inputStd : Float32 := 255
  deriving Inhabited

namespace NccInference

/-- The model's raw output for a sample. -/
def run (n : NccInference) (sample : Path) : HostM (Except ToolError (List Float32)) := do
  let tmp ← Host.tmpPath
  let dir ← Host.freshName tmp "kdeploy-infer-" ""
  match ← Host.createDir dir with
  | .error e => pure (.error (.io tmp.text e))
  | .ok () =>
    let args := ["infer", n.kmodel, dir.text, "--dataset", sample.text, "--dataset-format", "raw",
      "--input-mean", Float.showSingle n.inputMean, "--input-std", Float.showSingle n.inputStd]
    let result ← match ← n.tool.run args with
      | .error e => pure (.error e)
      | .ok _ =>
        match ← readSingleOutput dir with
        | .ok values => pure (.ok (values.map Single.toFloat32))
        | .error detail => pure (.error (.failed n.tool.name detail))
    discard <| Host.removeAll dir
    pure result

/-- The inference as an evaluation backend. -/
def backend (n : NccInference) : Backend := fun sample => do
  match ← n.run sample with
  | .ok values => pure (.ok values)
  | .error e => pure (.error (.backend e.message))

end NccInference

end EdgePack
