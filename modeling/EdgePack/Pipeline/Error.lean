import EdgePack.Input.Error
import EdgePack.Flash.Layout
import EdgePack.Archive.Error
import EdgePack.Eval.Error
import EdgePack.Tool.Error

/-!
# Pipeline errors

Why a stage of the deployment pipeline failed: the failure of one of the
steps it drives, kept whole, or a missing input, a file-system failure around
the stage, or an unusable configuration.
-/

namespace EdgePack

/-- Why a pipeline stage failed. -/
inductive PipelineError where
  /-- Encoding an input failed. -/
  | encode (e : EncodeError)
  /-- Packing the flash image failed. -/
  | pack (e : PackError)
  /-- Building the deployment archive failed. -/
  | archive (e : ArchiveError)
  /-- Reading or scoring model output failed. -/
  | eval (e : EvalError)
  /-- An external tool failed. -/
  | tool (e : ToolError)
  /-- An input directory or file of the stage does not exist. -/
  | missingInput (what : String) (path : Path)
  /-- A file-system operation around the stage failed. -/
  | io (path : Path) (cause : IoError)
  /-- The configuration cannot be used. -/
  | config (detail : String)
  deriving Inhabited

namespace PipelineError

/-- The text of the error: the step's own text after the name of the step. -/
def message : PipelineError → String
  | .encode e => s!"encode error: {e.message}"
  | .pack e => s!"pack error: {e.message}"
  | .archive e => s!"archive error: {e.message}"
  | .eval e => s!"evaluation error: {e.message}"
  | .tool e => s!"tool error: {e.message}"
  | .missingInput what p => s!"{what} not found: {p.text}"
  | .io p c => s!"I/O error on '{p.text}': {c.message}"
  | .config d => s!"configuration error: {d}"

/-- The name of the kind of error. -/
def tag : PipelineError → String
  | .encode .. => "Encode"
  | .pack .. => "Pack"
  | .archive .. => "Archive"
  | .eval .. => "Eval"
  | .tool .. => "Tool"
  | .missingInput .. => "MissingInput"
  | .io .. => "Io"
  | .config .. => "ConfigError"

/-- The errors underneath this one, outermost first, each in its own words:
    a step's failure, then what lies under it. -/
def sources : PipelineError → List String
  | .encode e => e.message :: e.sources
  | .pack e => e.message :: e.sources
  | .archive e => e.message :: e.sources
  | .eval e => e.message :: e.sources
  | .tool e => e.message :: e.sources
  | .io _ c => [c.message]
  | .missingInput .. | .config .. => []

end PipelineError

end EdgePack
