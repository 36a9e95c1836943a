import EdgePack.Toml.Complaint
import EdgePack.Toml.Printer
import EdgePack.Flash.Layout
import EdgePack.Archive.Policy
import EdgePack.Tool.Command
import EdgePack.Tool.Compile
import EdgePack.Host.Basic

/-!
# Pipeline configurations

Everything the deployment pipeline needs to know, read from a TOML document in
which every section may be left out:

* `[workspace]`: the root, the directory of the examples under it, and the
  kernel binary;
* `[input]`: the model's input (as an `InputSpec`, its fields inline) and the
  mean and deviation the inference tool normalises with;
* `[convert]`, `[evaluate]`: where images and samples are read and written,
  and how many;
* `[flash]`: the sector layout (its fields inline), where slot sources are and
  where the packed image goes;
* `[tools.ncc]`: the model tool; `[compile]`: the compiler's options;
* `[calibration]`: tabular calibration data, when there is any;
* `[[targets]]`: the packaging policies, which replace the built-in ones.

The defaults describe the MNIST example. A configuration read from a document
is checked (`PipelineConfig.validate`): its layout must be usable, the input
deviation non-zero, and no target declared twice; an input tensor larger than a
flash sector only draws a warning.
-/

namespace EdgePack

open Serde Decoder

/-- Where examples and the kernel live. -/
structure Workspace where
  root : Path
  examplesDir : Path
  kernel : Path
  deriving DecidableEq

/-- The model's input and the normalisation the inference tool applies. -/
structure InputSettings where
  spec : InputSpec
  mean : Float32
  std : Float32
  deriving BEq

/-- Where images are converted from and to, and how many at most. -/
structure ConvertSettings where
  inputDir : Path
  outputDir : Path
  limit : Option Nat
  deriving DecidableEq

/-- The sector layout, where slot sources are, and the packed image's file. -/
structure FlashSettings where
  layout : SectorLayout
  slotDir : Path
  imageFile : Path
  deriving DecidableEq

/-- Where evaluation samples are, and how many to use at most. -/
structure EvaluateSettings where
  samplesDir : Path
  limit : Option Nat
  deriving DecidableEq

/-- A CSV file of calibration rows and the number of feature columns. -/
structure CalibrationSource where
  csv : Path
  columns : Nat
  deriving DecidableEq

/-- The configuration of the deployment pipeline. -/
structure PipelineConfig where
  workspace : Workspace
  input : InputSettings
  convert : ConvertSettings
  flash : FlashSettings
  evaluate : EvaluateSettings
  /-- The model tool. -/
  ncc : ToolCommand
  compile : CompileOptions
  calibration : Option CalibrationSource
  targets : List PackagePolicy
  deriving BEq

namespace Workspace

/-- The current directory, `example` and `build/acoral-kernel.bin`. -/
def default : Workspace := ⟨⟨"."⟩, ⟨"example"⟩, ⟨"build/acoral-kernel.bin"⟩⟩

/-- Reads a workspace; each field defaults to `default`'s. -/
def decoder : Decoder Workspace :=
  record "WorkspaceConfig"
    [("root", check path), ("examples_dir", check path), ("kernel", check path)]
    fun fs => do
      let root ← fs.getD "root" path default.root.text
      let examples ← fs.getD "examples_dir" path default.examplesDir.text
      let kernel ← fs.getD "kernel" path default.kernel.text
      pure ⟨⟨root⟩, ⟨examples⟩, ⟨kernel⟩⟩

/-- The workspace as data. -/
def toDatum (w : Workspace) : Datum :=
  .map [("root", .str w.root.text), ("examples_dir", .str w.examplesDir.text),
    ("kernel", .str w.kernel.text)]

end Workspace

namespace InputSettings

/-- The default input, mean 0 and deviation 255. -/
def default : InputSettings := ⟨InputSpec.default, 0, 255⟩

/-- Reads input settings: the specification's fields inline, mean 0 and
    deviation 255 when absent. -/
def decoder : Decoder InputSettings :=
  recordWith "InputConfig" [("mean", check single), ("std", check single)] InputSpec.decoder
    fun fs spec => do
      let mean ← fs.getD "mean" single 0
      let std ← fs.getD "std" single 255
      pure ⟨spec, mean, std⟩

/-- The settings as data, the specification's fields first. -/
def toDatum (s : InputSettings) : Datum :=
  match s.spec.toDatum with
  | .map es => .map (es ++ [("mean", .float (Float.doubleOfSingle s.mean)),
    ("std", .float (Float.doubleOfSingle s.std))])
  | d => d

end InputSettings

namespace ConvertSettings

/-- `images/test` into `raw_images`, thirty at most. -/
def default : ConvertSettings := ⟨⟨"images/test"⟩, ⟨"raw_images"⟩, some 30⟩

/-- Reads conversion settings; each field defaults to `default`'s. -/
def decoder : Decoder ConvertSettings :=
  record "ConvertConfig"
    [("input_dir", check path), ("output_dir", check path), ("limit", check (option usize))]
    fun fs => do
      let input ← fs.getD "input_dir" path default.inputDir.text
      let output ← fs.getD "output_dir" path default.outputDir.text
      let limit ← fs.getD "limit" (option usize) default.limit
      pure ⟨⟨input⟩, ⟨output⟩, limit⟩

/-- The settings as data; an absent limit is null. -/
def toDatum (s : ConvertSettings) : Datum :=
  .map [("input_dir", .str s.inputDir.text), ("output_dir", .str s.outputDir.text),
    ("limit", match s.limit with | some n => .int n | none => .null)]

end ConvertSettings

namespace FlashSettings

/-- The default layout, slot sources in the example directory, `mnist_images.bin`. -/
def default : FlashSettings := ⟨SectorLayout.default, ⟨"."⟩, ⟨"mnist_images.bin"⟩⟩

/-- Reads flash settings: the layout's fields inline, then the slot directory and
    image file, which default to `default`'s. -/
def decoder : Decoder FlashSettings :=
  recordWith "FlashConfig" [("slot_dir", check path), ("image_file", check path)]
    SectorLayout.decoder
    fun fs layout => do
      let slots ← fs.getD "slot_dir" path default.slotDir.text
      let image ← fs.getD "image_file" path default.imageFile.text
      pure ⟨layout, ⟨slots⟩, ⟨image⟩⟩

/-- The settings as data, the layout's fields first. -/
def toDatum (s : FlashSettings) : Datum :=
  match s.layout.toDatum with
  | .map es => .map (es ++ [("slot_dir", .str s.slotDir.text), ("image_file", .str s.imageFile.text)])
  | d => d

end FlashSettings

namespace EvaluateSettings

/-- Samples in `raw_images`, all of them. -/
def default : EvaluateSettings := ⟨⟨"raw_images"⟩, none⟩

/-- Reads evaluation settings; each field defaults to `default`'s. -/
def decoder : Decoder EvaluateSettings :=
  record "EvaluateConfig" [("samples_dir", check path), ("limit", check (option usize))]
    fun fs => do
      let samples ← fs.getD "samples_dir" path default.samplesDir.text
      let limit ← fs.getD "limit" (option usize) default.limit
      pure ⟨⟨samples⟩, limit⟩

/-- The settings as data; an absent limit is null. -/
def toDatum (s : EvaluateSettings) : Datum :=
  .map [("samples_dir", .str s.samplesDir.text),
    ("limit", match s.limit with | some n => .int n | none => .null)]

end EvaluateSettings

namespace CalibrationSource

/-- Reads a calibration source; the file is required, four columns by default. -/
def decoder : Decoder CalibrationSource :=
  record "CalibrationConfig" [("csv", check path), ("columns", check usize)]
    fun fs => do
      let csv ← fs.need "csv" path
      let columns ← fs.getD "columns" usize 4
      pure ⟨⟨csv⟩, columns⟩

/-- The source as data. -/
def toDatum (s : CalibrationSource) : Datum :=
  .map [("csv", .str s.csv.text), ("columns", .int s.columns)]

end CalibrationSource

/-- Reads the tools section: the model tool, `ncc` by default. -/
def toolsDecoder : Decoder ToolCommand :=
  record "ToolsConfig" [("ncc", check ToolCommand.decoder)]
    fun fs => fs.getD "ncc" ToolCommand.decoder ToolCommand.default

namespace PipelineConfig

/-- The MNIST example. -/
def default : PipelineConfig :=
  ⟨Workspace.default, InputSettings.default, ConvertSettings.default, FlashSettings.default,
    EvaluateSettings.default, ToolCommand.default, CompileOptions.default, none,
    PackagePolicy.defaults⟩

/-- Reads a configuration; every section defaults. -/
def decoder : Decoder PipelineConfig :=
  record "PipelineConfig"
    [("workspace", check Workspace.decoder), ("input", check InputSettings.decoder),
      ("convert", check ConvertSettings.decoder), ("flash", check FlashSettings.decoder),
      ("evaluate", check EvaluateSettings.decoder), ("tools", check toolsDecoder),
      ("compile", check CompileOptions.decoder),
      ("calibration", check (option CalibrationSource.decoder)),
      ("targets", check (seq PackagePolicy.decoder))]
    fun fs => do
      let workspace ← fs.getD "workspace" Workspace.decoder Workspace.default
      let input ← fs.getD "input" InputSettings.decoder InputSettings.default
      let convert ← fs.getD "convert" ConvertSettings.decoder ConvertSettings.default
      let flash ← fs.getD "flash" FlashSettings.decoder FlashSettings.default
      let evaluate ← fs.getD "evaluate" EvaluateSettings.decoder EvaluateSettings.default
      let ncc ← fs.getD "tools" toolsDecoder ToolCommand.default
      let compile ← fs.getD "compile" CompileOptions.decoder CompileOptions.default
      let calibration ← fs.getD "calibration" (option CalibrationSource.decoder) none
      let targets ← fs.getD "targets" (seq PackagePolicy.decoder) PackagePolicy.defaults
      pure ⟨workspace, input, convert, flash, evaluate, ncc, compile, calibration, targets⟩

/-- The configuration as data, sections in order; no calibration is null. -/
def toDatum (c : PipelineConfig) : List (String × Datum) :=
  [("workspace", c.workspace.toDatum), ("input", c.input.toDatum), ("convert", c.convert.toDatum),
    ("flash", c.flash.toDatum), ("evaluate", c.evaluate.toDatum),
    ("tools", .map [("ncc", c.ncc.toDatum)]), ("compile", c.compile.toDatum),
    ("calibration", match c.calibration with | some s => s.toDatum | none => .null),
    ("targets", .seq (c.targets.map PackagePolicy.toDatum))]

/-- The configuration as a TOML document. -/
def toToml (c : PipelineConfig) : String := Toml.print c.toDatum

/-- The first target name declared twice. -/
def repeatedTarget : List PackagePolicy → List String → Option String
  | [], _ => none
  | p :: ps, seen => if seen.contains p.name then some p.name else repeatedTarget ps (p.name :: seen)

/-- Checks what reads fine but cannot work: an unusable layout, a zero input
    deviation (either sign), a target declared twice. An input tensor larger
    than a flash sector is only warned about. -/
def validate (c : PipelineConfig) : HostM (Except String Unit) := do
  match c.flash.layout.validate with
  | .error e => pure (.error e.message)
  | .ok () =>
    let bytes := c.input.spec.sizeBytes
    let sector := c.flash.layout.sectorSize
    if bytes > sector then
      Host.log .warn "pipeline::config"
        s!"input tensor ({bytes} bytes) does not fit a {sector}-byte flash sector; packing will fail"
    if c.input.std == 0 then pure (.error "input std must be non-zero")
    else match repeatedTarget c.targets [] with
      | some name => pure (.error s!"target '{name}' is declared more than once")
      | none => pure (.ok ())

/-- The configuration in a TOML text, checked; a complaint is the text of a
    configuration error. -/
def fromToml (text : String) : HostM (Except String PipelineConfig) := do
  match Toml.decode decoder text with
  | .error e => pure (.error ("TOML parse error: " ++ e))
  | .ok c =>
    match ← c.validate with
    | .error e => pure (.error e)
    | .ok () => pure (.ok c)

/-- The configuration in a file. -/
def fromFile (p : Path) : HostM (Except String PipelineConfig) := do
  match ← Host.readText p with
  | .error e =>
    let shown := p.text
    let why := e.message
    pure (.error s!"cannot read config '{shown}': {why}")
  | .ok text => fromToml text

/-- The example directory of a target: `<root>/<examples_dir>/<target>`. -/
def exampleDir (c : PipelineConfig) (target : String) : Path :=
  c.workspace.root / c.workspace.examplesDir / target

/-- The kernel binary, under the workspace root. -/
def kernelPath (c : PipelineConfig) : Path := c.workspace.root / c.workspace.kernel

/-- The packaging policy of a target; unknown targets get the base set. -/
def policy (c : PipelineConfig) (target : String) : PackagePolicy := PackagePolicy.lookup c.targets target

end PipelineConfig

end EdgePack
