import EdgePack.Host.Fs
import EdgePack.Data.Csv

/-!
# Tool errors

Why running an external tool, or preparing its inputs, failed.
-/

namespace EdgePack

/-- Why a CSV file could not be read as a table: the file, or its text. -/
inductive CsvFault where
  /-- The file could not be read. -/
  | io (cause : IoError)
  /-- The text is not a well-formed table. -/
  | table (cause : Csv.CsvError)
  deriving Inhabited

namespace CsvFault

/-- The text of the fault. -/
def message : CsvFault → String
  | .io e => e.message
  | .table e => e.message

end CsvFault

/-- Why a tool run or its preparation failed. -/
inductive ToolError where
  /-- The program could not be started. -/
  | spawn (program : String) (cause : IoError)
  /-- The program ran but failed, or left unusable output. -/
  | failed (program : String) (detail : String)
  /-- The program did not finish in time. -/
  | timedOut (program : String) (secs : Nat)
  /-- A file-system operation around the tool failed. -/
  | io (path : String) (cause : IoError)
  /-- The calibration table could not be read. -/
  | csv (fault : CsvFault)
  /-- The calibration data is unusable. -/
  | calibration (detail : String)
  deriving Inhabited

namespace ToolError

/-- The text of the error. -/
def message : ToolError → String
  | .spawn p c => s!"failed to start '{p}': {c.message}"
  | .failed p d => s!"'{p}' failed: {d}"
  | .timedOut p n => s!"'{p}' timed out after {n}s"
  | .io p c => s!"I/O error on '{p}': {c.message}"
  | .csv f => s!"calibration CSV error: {f.message}"
  | .calibration d => s!"invalid calibration data: {d}"

/-- The name of the kind of error. -/
def tag : ToolError → String
  | .spawn .. => "Spawn"
  | .failed .. => "Failed"
  | .timedOut .. => "TimedOut"
  | .io .. => "Io"
  | .csv .. => "Csv"
  | .calibration .. => "Calibration"

/-- The errors underneath this one, outermost first, each in its own words; a
    CSV fault has none under its own. -/
def sources : ToolError → List String
  | .spawn _ c => [c.message]
  | .io _ c => [c.message]
  | .csv f => [f.message]
  | .failed .. | .timedOut .. | .calibration .. => []

end ToolError

end EdgePack
