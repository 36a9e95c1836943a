import EdgePack.Pipeline.Error
import EdgePack.Text.Pad

/-!
# Failures of a command

A command that fails reports its error on standard error and exits with
status 1. The report is `Error: ` and the error's text; when the error wraps
others, a blank line, `Caused by:` and the wrapped errors follow, outermost
first: a single one indented by four blanks, several numbered from 0 in a
column of five (`    0: …`), the later lines of a text indented to match.
-/

namespace EdgePack.Cli

/-- An error that ends a command: its text and the errors underneath it,
    outermost first. -/
structure Failure where
  message : String
  sources : List String := []
  deriving Inhabited

namespace Failure

/-- A failure of a pipeline stage. -/
def ofPipeline (e : PipelineError) : Failure := ⟨e.message, e.sources⟩

/-- A failure of reading or writing a file. -/
def ofIo (e : IoError) : Failure := ⟨e.message, []⟩

/-- One wrapped error in the list of causes: its first line after the
    marker, its later lines after blanks of the marker's width. -/
def causeText (marker : String) (text : String) : String :=
  let pad := String.ofList (List.replicate marker.length ' ')
  match text.splitOn "\n" with
  | [] => marker
  | first :: rest => marker ++ first ++ String.join (rest.map fun l => "\n" ++ pad ++ l)

/-- The report written to standard error. -/
def report (f : Failure) : String :=
  let causes := match f.sources with
    | [] => ""
    | [one] => "\n\nCaused by:\n" ++ causeText "    " one
    | many => "\n\nCaused by:" ++ String.join (many.zipIdx.map fun (s, i) =>
        "\n" ++ causeText (Text.padLeft 5 ' ' (toString i) ++ ": ") s)
  "Error: " ++ f.message ++ causes ++ "\n"

end Failure

end EdgePack.Cli
