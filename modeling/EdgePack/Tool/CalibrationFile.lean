import EdgePack.Tool.Calibration
import EdgePack.Data.Csv
import EdgePack.Float.Literal
import EdgePack.Text.Blank
import EdgePack.Text.Pad
import EdgePack.Data.Bytes

/-!
# Calibration files

A calibration set is read from a CSV table with a header row: its first
columns, as many as asked for, are the features, and every other column is
ignored. Each cell is read as a float after white space is trimmed from both
ends. The checks come in the order the table is read: the header must have
enough columns, then each data row in turn must be a well-formed record, then
its cells must be numbers, the first bad cell of the first bad row being the
one reported, with data rows numbered from one.

A set is written as one raw file per sample, `sample_00000.raw` and on, each
holding the sample's values as little-endian singles.
-/

namespace EdgePack

namespace CalibrationSet

/-- The features of one data row: the first cells, each a float literal. -/
def parseRow (columns : List String) (line : Nat) (fields : List String) :
    Except ToolError (List Float32) :=
  columns.zipIdx.mapM fun (name, i) =>
    let cell := Text.trimBlank (fields.getD i "")
    match Float.Literal.parse? cell with
    | some lit => .ok lit.toSingle
    | none => .error (.calibration s!"row {line}, column '{name}': '{cell}' is not a number")

/-- The features of the data rows, in order, stopping at the first failure. -/
def parseRows (columns : List String) :
    Nat → List (Except Csv.CsvError (List String)) → Except ToolError (List (List Float32))
  | _, [] => .ok []
  | line, r :: rs => do
    let fields ← match r with
      | .ok fs => pure fs
      | .error e => throw (.csv (.table e))
    let row ← parseRow columns line fields
    let rest ← parseRows columns (line + 1) rs
    pure (row :: rest)

/-- Reads the first `numColumns` columns of the CSV table at `path` and
    standardises them. -/
def load (path : Path) (numColumns : Nat) : HostM (Except ToolError CalibrationSet) := do
  match ← Host.readBytes path with
  | .error e => pure (.error (.csv (.io e)))
  | .ok data =>
    match Csv.Table.read data with
    | .error e => pure (.error (.csv (.table e)))
    | .ok t =>
      if t.header.length < numColumns then
        pure (.error (.calibration
          s!"{path.text} has {t.header.length} columns, {numColumns} requested"))
      else
        let columns := t.header.take numColumns
        match parseRows columns 1 t.rows with
        | .error e => pure (.error e)
        | .ok rows =>
          match ← ofRowsLogged columns rows with
          | .error e => pure (.error e)
          | .ok set =>
            Host.log .info "toolchain::calibration"
              s!"Loaded {set.len} calibration samples x {set.numFeatures} features from {path.text}"
            pure (.ok set)

/-- The file name of sample `i`. -/
def sampleName (i : Nat) : String := "sample_" ++ Text.zeroPad 5 i ++ ".raw"

/-- Writes the samples as raw files in `dir`, made first if missing. -/
def writeRawDir (s : CalibrationSet) (dir : Path) : HostM (Except ToolError (List Path)) := do
  match ← Host.createDirAll dir with
  | .error e => pure (.error (.io dir.text e))
  | .ok () =>
    let written ← s.samples.zipIdx.foldlM (fun (acc : Except ToolError (List Path)) (sample, i) => do
      match acc with
      | .error e => pure (.error e)
      | .ok ps =>
        let p := dir / sampleName i
        match ← Host.writeBytes p (Bytes.ofSingles sample) with
        | .error e => pure (.error (.io p.text e))
        | .ok () => pure (.ok (ps ++ [p]))) (.ok [])
    match written with
    | .error e => pure (.error e)
    | .ok ps =>
      Host.log .info "toolchain::calibration" s!"Wrote {ps.length} calibration samples to {dir.text}"
      pure (.ok ps)

end CalibrationSet

end EdgePack
