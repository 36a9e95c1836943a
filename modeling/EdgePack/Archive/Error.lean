import EdgePack.Json.Reader
import EdgePack.Host.Fs
import EdgePack.Archive.Zip

/-!
# Archive errors

Why a deployment archive could not be planned, built or read.
-/

namespace EdgePack

/-- Why a deployment archive could not be built or read. -/
inductive ArchiveError where
  /-- A required input does not exist; nothing was written. -/
  | missingArtifact (path : String)
  /-- Two inputs share a base name and would collide in the flat archive. -/
  | duplicateMember (name : String)
  /-- The archive name is empty or would escape the output directory. -/
  | invalidName (name : String)
  /-- An input path has no usable file name. -/
  | invalidMemberName (path : String)
  /-- A file-system operation failed. -/
  | io (path : String) (cause : IoError)
  /-- The archive container is malformed, unsupported or lacks a member. -/
  | zip (e : Zip.ZipError)
  /-- The flash list could not be read. -/
  | flashList (e : Json.Error)
  deriving Inhabited

namespace ArchiveError

/-- The text of the error. -/
def message : ArchiveError → String
  | .missingArtifact p => s!"missing artifact: {p}"
  | .duplicateMember n => s!"duplicate archive member '{n}'"
  | .invalidName n => s!"invalid archive name '{n}'"
  | .invalidMemberName p => s!"cannot derive an archive member name from '{p}'"
  | .io p c => s!"I/O error on '{p}': {c.message}"
  | .zip e => s!"zip error: {e.message}"
  | .flashList e => s!"failed to parse flash list: {e.message}"

/-- The name of the kind of error. -/
def tag : ArchiveError → String
  | .missingArtifact .. => "MissingArtifact"
  | .duplicateMember .. => "DuplicateMember"
  | .invalidName .. => "InvalidName"
  | .invalidMemberName .. => "InvalidMemberName"
  | .io .. => "Io"
  | .zip .. => "Zip"
  | .flashList .. => "FlashList"

/-- The errors underneath this one, outermost first, each in its own words:
    a failed read of the container has the read's failure under it. -/
def sources : ArchiveError → List String
  | .io _ c => [c.message]
  | .zip e => e.message :: (match e with
    | .io c => [c.message]
    | _ => [])
  | .flashList e => [e.message]
  | .missingArtifact .. | .duplicateMember .. | .invalidName .. | .invalidMemberName .. => []

end ArchiveError

end EdgePack
