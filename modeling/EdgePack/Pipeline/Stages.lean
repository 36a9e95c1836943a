import EdgePack.Pipeline.Error
import EdgePack.Pipeline.Config
import EdgePack.Input.Convert
import EdgePack.Flash.Image
import EdgePack.Flash.Slots
import EdgePack.Archive.Builder
import EdgePack.Eval.Evaluator
import EdgePack.Tool.CalibrationFile
import EdgePack.Tool.Inference
import EdgePack.Tool.Compiler

/-!
# Pipeline stages

Each stage works on one target, inside the target's example directory
`<root>/<examples_dir>/<target>` (`PipelineConfig.exampleDir`):

```text
images/test/*.png ──convert──► raw_images/*.raw ──evaluate──► report
{0..9}.{png,jpg,raw} ──pack──► mnist_images.bin ─┐
model.tflite ──compile──► <target>.kmodel ───────┼──package──► <target>.kfpkg
flash-list.json, kernel ─────────────────────────┘
```

A stage whose input directory (or, for evaluation by the compiler, the
compiled model) is missing fails with `missingInput` before it does anything;
otherwise the failure of the step it drives is kept whole.

Compilation takes the compiler as a parameter, in any monad that can reach
the host: with a `[calibration]` source, the table is standardised and written
as raw samples into a fresh directory under the temporary directory, which the
compiler reads and which is removed after it has run.
-/

namespace EdgePack

/-- A packed flash image and the file it was written to. -/
structure PackOutcome where
  image : FlashImage
  path : Path

/-- A model compiler: the model, the output, and the calibration directory if any. -/
abbrev ModelCompiler (m : Type → Type) := Path → Path → Option Path → m (Except ToolError CompiledModel)

namespace PipelineConfig

/-- `path` when it is a directory, else a missing input named `what`. -/
def existingDir (what : String) (path : Path) : HostM (Except PipelineError Path) := do
  if ← Host.isDir path then pure (.ok path) else pure (.error (.missingInput what path))

/-- Converts the target's test images into raw model inputs. -/
def convertStage (c : PipelineConfig) (target : String) :
    HostM (Except PipelineError (List Converted)) := do
  let dir := c.exampleDir target
  match ← existingDir "image directory" (dir / c.convert.inputDir) with
  | .error e => pure (.error e)
  | .ok input =>
    let output := dir / c.convert.outputDir
    match ← convertDir input output c.input.spec c.convert.limit with
    | .error e => pure (.error (.encode e))
    | .ok done =>
      Host.log .info "pipeline::stages" s!"{target}: converted {done.length} images into {output.text}"
      pure (.ok done)

/-- Packs the target's slot sources into its flash image file. -/
def packStage (c : PipelineConfig) (target : String) : HostM (Except PipelineError PackOutcome) := do
  let dir := c.exampleDir target
  match ← existingDir "slot source directory" (dir / c.flash.slotDir) with
  | .error e => pure (.error e)
  | .ok slotDir =>
    let layout := c.flash.layout
    let slots ← resolveSlots slotDir layout c.input.spec
    match ← packLogged slots layout with
    | .error e => pure (.error (.pack e))
    | .ok image =>
      let path := dir / c.flash.imageFile
      match ← image.writeTo path with
      | .error e => pure (.error (.pack e))
      | .ok () =>
        image.populated.forM fun s =>
          Host.log .debug "pipeline::stages" s!"slot {s} at {Text.hexMarked (layout.address s)}"
        pure (.ok ⟨image, path⟩)

/-- Builds `<target>.kfpkg` in the target's example directory. -/
def packageStage (c : PipelineConfig) (target : String) : HostM (Except PipelineError Package) := do
  let dir := c.exampleDir target
  match ← ({ outputDir := dir } : Packager).buildTarget (c.policy target) dir c.kernelPath with
  | .error e => pure (.error (.archive e))
  | .ok pkg => pure (.ok pkg)

/-- The compiled model of a target: its policy's model file in its example directory. -/
def kmodelPath (c : PipelineConfig) (target : String) : Path :=
  c.exampleDir target / (c.policy target).modelFile

/-- Evaluates the target's samples with any backend. -/
def evaluateWith (c : PipelineConfig) (target : String) (backend : Backend) :
    HostM (Except PipelineError EvaluationReport) := do
  match ← evaluateDir backend (c.exampleDir target / c.evaluate.samplesDir) c.evaluate.limit with
  | .error e => pure (.error (.eval e))
  | .ok r => pure (.ok r)

/-- The inference of the target's compiled model by the configured tool. -/
def inference (c : PipelineConfig) (target : String) : NccInference :=
  { tool := c.ncc, kmodel := (c.kmodelPath target).text, inputMean := c.input.mean,
    inputStd := c.input.std }

/-- Evaluates the target's compiled model, which must exist, by the model tool. -/
def evaluateStage (c : PipelineConfig) (target : String) :
    HostM (Except PipelineError EvaluationReport) := do
  let kmodel := c.kmodelPath target
  if !(← Host.isFile kmodel) then return .error (.missingInput "compiled model" kmodel)
  c.evaluateWith target (c.inference target).backend

/-- Writes the configured calibration samples into a fresh temporary directory,
    when there is a calibration source. -/
def calibrationDir (c : PipelineConfig) (target : String) :
    HostM (Except PipelineError (Option Path)) := do
  match c.calibration with
  | none => pure (.ok none)
  | some cal =>
    match ← CalibrationSet.load (c.exampleDir target / cal.csv) cal.columns with
    | .error e => pure (.error (.tool e))
    | .ok set =>
      let tmp ← Host.tmpPath
      let dir ← Host.freshName tmp "kdeploy-calib-" ""
      match ← Host.createDir dir with
      | .error e => pure (.error (.io tmp e))
      | .ok () =>
        match ← set.writeRawDir dir with
        | .error e =>
          discard <| Host.removeAll dir
          pure (.error (.tool e))
        | .ok _ => pure (.ok (some dir))

/-- Compiles `model` into the target's compiled model with any compiler; the
    calibration directory lives as long as the compiler runs. -/
def compileWith {m : Type → Type} [Monad m] [MonadLiftT HostM m] (c : PipelineConfig)
    (target : String) (model : Path) (compiler : ModelCompiler m) :
    m (Except PipelineError CompiledModel) := do
  match ← (c.calibrationDir target : HostM _) with
  | .error e => pure (.error e)
  | .ok dataset =>
    let result ← compiler model (c.kmodelPath target) dataset
    if let some dir := dataset then
      discard <| (Host.removeAll dir : HostM _)
    match result with
    | .error e => pure (.error (.tool e))
    | .ok compiled => pure (.ok compiled)

/-- Compiles `model` into the target's compiled model with the model tool. -/
def compileStage (c : PipelineConfig) (target : String) (model : Path) :
    HostM (Except PipelineError CompiledModel) :=
  c.compileWith target model (NccCompiler.mk c.ncc c.compile).compile

end PipelineConfig

end EdgePack
