import EdgePack.Cli.Commands
import EdgePack.Cli.Parse
import EdgePack.Log.Filter

/-!
# Running `kdeploy`

One run of the program on a command line: the line is read against the
grammar (`kdeploy`); help and the version go to standard output with status
0, a refused line to standard error with status 2. Otherwise the log filter
is chosen (`RUST_LOG`, else the verbosity), the configuration loaded, and
the command run. Log events the filter lets through are written to standard
output as `LEVEL message`, in order with what the command prints; a failure
is reported on standard error with status 1.
-/

namespace EdgePack.Cli

/-- What a run leaves: its exit status and the text of its two streams. -/
structure Outcome where
  status : Nat
  stdout : String
  stderr : String
  deriving Inhabited, DecidableEq

/-- A path argument, if given. -/
def Reading.path? (r : Reading) (id : String) : Option Path := (r.value? id).map Path.mk

/-- Runs the command a command line names with a configuration. -/
def dispatch (r : Reading) (c : PipelineConfig) : CommandM Unit :=
  let target := r.text "target"
  match r.command.name with
  | "convert" => convert c target (r.path? "input") (r.path? "output") (r.size? "limit")
  | "pack" => pack c target (r.path? "slots") (r.path? "output")
  | "package" => package c target
  | "evaluate" => evaluate c target (r.path? "samples") (r.size? "limit") (r.path? "json")
      (r.given "show_inputs")
  | "compile" => compile c target ⟨r.text "model"⟩ (r.path? "calibration") ((r.size? "columns").getD 4)
  | "inspect" => inspect c ⟨r.text "path"⟩
  | _ => showConfig c

/-- The output of a run from its record: the events the filter lets through
    and the printed text on standard output, the rest on standard error. -/
def render (filter : Log.Filter) (out : List Output) : String × String :=
  out.foldl (fun (o, e) item =>
    match item with
    | .event ev => if filter.allows ev then (o ++ ev.text ++ "\n", e) else (o, e)
    | .stdout t => (o ++ t, e)
    | .stderr t => (o, e ++ t)) ("", "")

/-- Runs `kdeploy` on a command line. -/
def run (words : List String) : HostM Outcome := do
  match read kdeploy words with
  | .error (.help t) => pure ⟨0, t, ""⟩
  | .error (.version t) => pure ⟨0, t, ""⟩
  | .error (.helpOnEmpty t) => pure ⟨2, "", t⟩
  | .error (.refused r) => pure ⟨2, "", r.text⟩
  | .ok reading =>
    let filter := Log.Filter.choose (← Host.getEnv "RUST_LOG") (reading.count "verbose")
    let start := (← get).out.size
    let result ← (do dispatch reading (← loadConfig (reading.value? "config")) : CommandM Unit).run
    let (stdout, stderr) := render filter ((← get).out.toList.drop start)
    match result with
    | .ok () => pure ⟨0, stdout, stderr⟩
    | .error f => pure ⟨1, stdout, stderr ++ f.report⟩

end EdgePack.Cli
