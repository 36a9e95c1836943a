import EdgePack.Cli.Failure
import EdgePack.Pipeline.Stages
import EdgePack.Eval.Label
import EdgePack.Input.RawFile
import EdgePack.Input.Stats
import EdgePack.Archive.Package
import EdgePack.Archive.FlashList
import EdgePack.Json.Writer
import EdgePack.Text.Hex
import EdgePack.Text.Utf8
import EdgePack.Data.Chunks

/-!
# The commands of `kdeploy`

Each command prints a box with its title and a blank line, reports what it
is about to do, runs one pipeline stage on the configuration, and prints the
result as a table:

* `convert <target>`: the test images converted to raw inputs, one row each
  (file, label or `?`, raw file, bytes);
* `pack <target>`: the slots of the flash image (address, offset, populated
  or zero-filled), where the image went, the missing slots, and how to flash
  it;
* `package <target>`: the required and optional files (`ok`, `MISSING`,
  `skip`), then the archive's path, size and members;
* `evaluate <target>`: optionally each sample's statistics and preview, then
  one row per sample and the accuracy; the report may also go to a JSON file;
* `compile <target>`: the compiler's options and calibration, then the
  compiled model and a warning when it is too large;
* `inspect <path>`: a raw input's statistics and preview, an archive's
  members checked against its flash list, or any other file read as a flash
  image, one row per sector;
* `config`: the configuration as TOML.

Paths given on the command line are made absolute against the working
directory, so that joining them to an example directory leaves them as
they are. A failure ends the command (`Failure`).
-/

namespace EdgePack.Cli

/-- A command's computation: on the host, ending early on a failure. -/
abbrev CommandM := ExceptT Failure HostM

/-- Prints a line on standard output. -/
def say (s : String) : CommandM Unit := Host.println s

/-- The value of a step, or the failure its error makes. -/
def orFail (r : Except ε α) (f : ε → Failure) : CommandM α :=
  match r with
  | .ok a => pure a
  | .error e => throw (f e)

/-- The value of a pipeline stage, or its failure. -/
def stage (r : Except PipelineError α) : CommandM α := orFail r Failure.ofPipeline

/-- The three lines of a title box and a blank line: the title centred in a
    frame 54 characters wide, the odd blank on the right. -/
def banner (title : String) : CommandM Unit := do
  let text := "kdeploy · " ++ title
  let room := 54 - text.length
  let bar := String.ofList (List.replicate 54 '═')
  say ("╔" ++ bar ++ "╗")
  say ("║" ++ String.ofList (List.replicate (room / 2) ' ') ++ text ++
    String.ofList (List.replicate (room - room / 2) ' ') ++ "║")
  say ("╚" ++ bar ++ "╝")
  say ""

/-- Text set left in a column. -/
def left (width : Nat) (s : String) : String := Text.padRight width ' ' s

/-- Text set right in a column. -/
def right (width : Nat) (s : String) : String := Text.padLeft width ' ' s

/-- A row of dashes under a table's header. -/
def rule (n : Nat) : String := "  " ++ String.ofList (List.replicate n '-')

/-- Numbers as a list in brackets: `[1, 2]`. -/
def numberList (ns : List Nat) : String := "[" ++ ", ".intercalate (ns.map toString) ++ "]"

/-- The configuration to run with: the file given, else `kdeploy.toml` in the
    working directory when it is a file, else the defaults. -/
def loadConfig (given : Option String) : CommandM PipelineConfig := do
  let file ← match given with
    | some p => pure (some p)
    | none => do
      if ← Host.isFile ⟨"kdeploy.toml"⟩ then pure (some "kdeploy.toml") else pure none
  match file with
  | none => pure PipelineConfig.default
  | some p =>
    Host.log .info "kdeploy::commands" s!"loading configuration from {p}"
    orFail (← PipelineConfig.fromFile ⟨p⟩) fun e => Failure.ofPipeline (.config e)

/-- The lines of a text: cut at each line feed, a carriage return before it
    dropped, and no empty line after a final line feed. -/
def textLines (s : String) : List String :=
  let parts := s.splitOn "\n"
  let parts := if parts.getLast? == some "" then parts.dropLast else parts
  parts.map fun l => if l.endsWith "\r" then (l.dropEnd 1).toString else l

/-- The statistics and preview of one raw input, as `inspect` and
    `evaluate --show-inputs` print them. -/
def describeInput (path : Path) (spec : InputSpec) : CommandM String := do
  let t ← orFail (← readRaw path spec) fun e => ⟨e.message, e.sources⟩
  let stats ← orFail (TensorStats.ofTensor t) fun e => ⟨e.message, []⟩
  let preview ← orFail (asciiPreview t spec.width spec.channels) fun e => ⟨e.message, []⟩
  pure (s!"  Tensor: {t.shape} {t.dtype.name} ({t.size} bytes)\n  Values: {stats.summary}\n\n" ++
    String.join ((textLines preview).map fun r => "    " ++ r ++ "\n"))

/-- `config`: the configuration as TOML. -/
def showConfig (c : PipelineConfig) : CommandM Unit := do
  banner "Configuration"
  Host.print c.toToml

/-- `convert`: the target's images into raw inputs. -/
def convert (c : PipelineConfig) (target : String) (input output : Option Path) (limit : Option Nat) :
    CommandM Unit := do
  banner "Image Converter"
  let c ← match input with
    | some d => do pure { c with convert := { c.convert with inputDir := ← Host.absolute d } }
    | none => pure c
  let c ← match output with
    | some d => do pure { c with convert := { c.convert with outputDir := ← Host.absolute d } }
    | none => pure c
  let c := if limit.isSome then { c with convert := { c.convert with limit := limit } } else c
  let spec := c.input.spec
  say s!"  Target: {target}"
  let batch := if spec.batchDim then "yes" else "no"
  say s!"  Input tensor: {spec.tensorShape} {spec.dtype.name} ({spec.sizeBytes} bytes, batch dim {batch})"
  say ""
  let converted ← stage (← c.convertStage target)
  say ("  " ++ left 28 "Source" ++ " " ++ right 5 "Label" ++ "  " ++ left 28 "Raw file" ++ " " ++ right 6 "Bytes")
  say (rule 72)
  for item in converted do
    let label := match parseLabel item.source with
      | .ok n => toString n
      | .error _ => "?"
    say ("  " ++ left 28 item.source.fileName ++ " " ++ right 5 label ++ "  " ++
      left 28 item.rawPath.fileName ++ " " ++ right 6 (toString item.size))
  say ""
  say s!"  Converted {converted.length} images."

/-- `pack`: the target's slot sources into its flash image. -/
def pack (c : PipelineConfig) (target : String) (slots output : Option Path) : CommandM Unit := do
  banner "Flash Packer"
  let c ← match slots with
    | some d => do pure { c with flash := { c.flash with slotDir := ← Host.absolute d } }
    | none => pure c
  let c ← match output with
    | some f => do pure { c with flash := { c.flash with imageFile := ← Host.absolute f } }
    | none => pure c
  let layout := c.flash.layout
  say s!"  Target: {target}"
  say s!"  Layout: {layout.slotCount} slots × {layout.sectorSize} bytes from {Text.hexMarked layout.baseAddress}"
  say ""
  let outcome ← stage (← c.packStage target)
  let image := outcome.image
  say ("  " ++ left 6 "Slot" ++ " " ++ right 10 "Address" ++ " " ++ right 10 "Offset" ++ "  Status")
  say (rule 44)
  for slot in List.range layout.slotCount do
    let status := if image.populated.contains slot then "populated" else "zero-filled"
    say ("  " ++ left 6 (toString slot) ++ " " ++ right 10 (Text.hexMarked (layout.address slot)) ++ " " ++
      right 10 (Text.hexMarked (layout.offset slot)) ++ "  " ++ status)
  say ""
  say s!"  Wrote {outcome.path.text} ({image.len} bytes)"
  if !image.missing.isEmpty then say s!"  Missing slots: {numberList image.missing}"
  say s!"  Flash with: kflash -b 2000000 {outcome.path.text} -a {Text.hexMarked layout.baseAddress}"

/-- `package`: the target's deployment archive. -/
def package (c : PipelineConfig) (target : String) : CommandM Unit := do
  banner "Archive Builder"
  let plan := (c.policy target).plan (c.exampleDir target) c.kernelPath
  say s!"  Target: {target}"
  say "  Required:"
  for p in plan.required do
    let mark := if ← Host.isFile p then "ok" else "MISSING"
    say ("   " ++ left 8 mark ++ " " ++ p.text)
  if !plan.optional.isEmpty then
    say "  Optional:"
    for p in plan.optional do
      let mark := if ← Host.isFile p then "ok" else "skip"
      say ("   " ++ left 8 mark ++ " " ++ p.text)
  say ""
  let pkg ← orFail (← c.packageStage target) fun e => ⟨s!"packaging '{target}' failed: {e.message}", []⟩
  say s!"  Archive: {pkg.path.text}"
  say s!"  Size:    {pkg.size} bytes"
  say "  Members:"
  for m in pkg.members do
    say s!"   - {m}"
  say ""

/-- `evaluate`: the target's compiled model scored on its samples. -/
def evaluate (c : PipelineConfig) (target : String) (samples : Option Path) (limit : Option Nat)
    (json : Option Path) (showInputs : Bool) : CommandM Unit := do
  banner "Model Evaluator"
  let c ← match samples with
    | some d => do pure { c with evaluate := { c.evaluate with samplesDir := ← Host.absolute d } }
    | none => pure c
  let c := if limit.isSome then { c with evaluate := { c.evaluate with limit := limit } } else c
  say s!"  Target: {target}"
  say s!"  Model:  {(c.kmodelPath target).text}"
  say s!"  Tool:   {c.ncc.name} (timeout {c.ncc.timeoutSecs}s)"
  say ""
  if showInputs then
    let list ← orFail (← listSamples (c.exampleDir target / c.evaluate.samplesDir) c.evaluate.limit)
      fun e => ⟨e.message, e.sources⟩
    for sample in list do
      say s!"  {sample.fileName}"
      try
        say (← describeInput sample c.input.spec)
      catch f =>
        say s!"    unreadable: {f.message}\n"
  let report ← stage (← c.evaluateStage target)
  say ("  " ++ left 24 "Sample" ++ " " ++ right 8 "Expected" ++ " " ++ right 9 "Predicted" ++ " " ++
    right 11 "Confidence" ++ "  Result")
  say (rule 64)
  for record in report.samples do
    let expected := match record.expected with
      | some n => toString n
      | none => "?"
    match record.outcome with
    | .scored i =>
      say ("  " ++ left 24 record.sample.fileName ++ " " ++ right 8 expected ++ " " ++
        right 9 (toString i.predicted) ++ " " ++ right 10 (Float.fixedSingle 2 i.confidencePct) ++ "%  " ++
        if i.correct then "ok" else "WRONG")
    | .failed reason =>
      say ("  " ++ left 24 record.sample.fileName ++ " " ++ right 8 expected ++ " " ++ right 9 "-" ++ " " ++
        right 11 "-" ++ "  failed: " ++ reason)
  say ""
  say s!"  {report.accuracy.summary}"
  if let some path := json then
    orFail (← Host.writeBytes path (report.toJson.pretty).toUTF8) Failure.ofIo
    say s!"  Report written to {path.text}"

/-- `compile`: a source model into the target's compiled model. -/
def compile (c : PipelineConfig) (target : String) (model : Path) (calibration : Option Path)
    (columns : Nat) : CommandM Unit := do
  banner "Model Compiler"
  let c ← match calibration with
    | some csv => do pure { c with calibration := some ⟨← Host.absolute csv, columns⟩ }
    | none => pure c
  let model ← Host.absolute model
  let o := c.compile
  say s!"  Target: {target}"
  say s!"  Model:  {model.text}"
  say s!"  ncc:    -i {o.inputFormat} -t {o.target} (quant {o.quantType.toolName}, weights {o.weightQuantType.toolName})"
  match c.calibration with
  | some cal => say s!"  Calibration: {cal.csv.text} (first {cal.columns} columns)"
  | none => say "  Calibration: none"
  say ""
  let compiled ← stage (← c.compileStage target model)
  say s!"  Wrote {compiled.path} ({compiled.sizeBytes} bytes)"
  if compiled.oversized then
    say s!"  WARNING: kmodel exceeds the {o.maxModelBytes}-byte budget of the board"

/-- The members of an archive and its flash list, checked against each other. -/
def inspectArchive (path : Path) : CommandM Unit := do
  let pkg ← orFail (← Package.load .standard path) fun e => ⟨e.message, e.sources⟩
  say s!"  {pkg.summary}"
  say ""
  for m in pkg.members do
    say s!"   - {m}"
  if pkg.contains flashListFile then
    let bytes ← orFail (← pkg.readMember .standard flashListFile) fun e => ⟨e.message, e.sources⟩
    let list ← orFail (FlashList.parse (Utf8.decodeLossy bytes)) fun e => ⟨e.message, e.sources⟩
    say ""
    say ("  " ++ right 12 "Address" ++ "  " ++ left 24 "Binary" ++ " SHA-256 prefix")
    for e in list.files do
      say ("  " ++ right 12 (Text.hexMarked e.address) ++ "  " ++ left 24 e.bin ++ " " ++
        if e.sha256Prefix then "yes" else "no")
    let problems := list.lint pkg.members
    if !problems.isEmpty then
      say ""
      for p in problems do
        say s!"  WARNING: {p}"
  else
    say ""
    say s!"  WARNING: archive has no {flashListFile}"

/-- The sectors of a flash image: address and count of non-zero bytes. -/
def inspectImage (c : PipelineConfig) (path : Path) : CommandM Unit := do
  let layout := c.flash.layout
  let bytes ← orFail (← Host.readBytes path) fun e => ⟨s!"cannot read {path.text}", [e.message]⟩
  if bytes.size != layout.totalBytes then
    say s!"  WARNING: {bytes.size} bytes, layout expects {layout.totalBytes} ({layout.slotCount} × {layout.sectorSize})"
  say ""
  say ("  " ++ left 6 "Slot" ++ " " ++ right 10 "Address" ++ " " ++ right 10 "Non-zero")
  say (rule 30)
  let sectors := chunks layout.sectorSize bytes.toList
  for (sector, slot) in sectors.zipIdx do
    let nonZero := (sector.filter (· != 0)).length
    say ("  " ++ left 6 (toString slot) ++ " " ++ right 10 (Text.hexMarked (layout.address slot)) ++ " " ++
      right 10 (toString nonZero))

/-- `inspect`: a raw input, an archive or a flash image, by the file's extension. -/
def inspect (c : PipelineConfig) (path : Path) : CommandM Unit := do
  banner "Inspector"
  say s!"  File: {path.text}"
  match path.extension? with
  | some "raw" =>
    Host.print (← describeInput path c.input.spec)
  | some "kfpkg" => inspectArchive path
  | _ => inspectImage c path

end EdgePack.Cli
