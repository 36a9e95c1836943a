import EdgePack.Tool.Command
import EdgePack.Tool.Error
import EdgePack.Shell.Run
import EdgePack.Text.Quoted

/-!
# Running a tool

`ToolCommand.run` runs the program with its base arguments and the ones
given, its standard input empty and both outputs captured, and reads the
outputs leniently as UTF-8. The command line is logged first, each word in
quotes. A program that does not start is a `spawn` error; one that runs past
its time is `timedOut`; one that exits with a status other than 0, or is
killed by a signal, has `failed`, with the status and its standard error
(its standard output when the error says nothing) as the detail.
-/

namespace EdgePack

open Shell

/-- What a successful run wrote. -/
structure ToolOutput where
  stdout : String
  stderr : String
  deriving Inhabited

/-- The name of a signal, empty for one without a name. -/
def signalName : Nat → String
  | 1 => "SIGHUP"
  | 2 => "SIGINT"
  | 3 => "SIGQUIT"
  | 4 => "SIGILL"
  | 5 => "SIGTRAP"
  | 6 => "SIGABRT"
  | 7 => "SIGBUS"
  | 8 => "SIGFPE"
  | 9 => "SIGKILL"
  | 10 => "SIGUSR1"
  | 11 => "SIGSEGV"
  | 12 => "SIGUSR2"
  | 13 => "SIGPIPE"
  | 14 => "SIGALRM"
  | 15 => "SIGTERM"
  | 16 => "SIGSTKFLT"
  | 17 => "SIGCHLD"
  | 18 => "SIGCONT"
  | 19 => "SIGSTOP"
  | 20 => "SIGTSTP"
  | 21 => "SIGTTIN"
  | 22 => "SIGTTOU"
  | 23 => "SIGURG"
  | 24 => "SIGXCPU"
  | 25 => "SIGXFSZ"
  | 26 => "SIGVTALRM"
  | 27 => "SIGPROF"
  | 28 => "SIGWINCH"
  | 29 => "SIGIO"
  | 30 => "SIGPWR"
  | 31 => "SIGSYS"
  | _ => ""

/-- How a process ended, in words: `exit status: 3` or `signal: 9 (SIGKILL)`. -/
def Shell.Status.text : Status → String
  | .exited c => s!"exit status: {c}"
  | .signaled s => s!"signal: {s} ({signalName s})"

/-- Text with the blanks at both ends removed. -/
def trimText (s : String) : String := s.trimAscii.toString

namespace ToolCommand

/-- The command line as the log shows it: every word in quotes. -/
def commandLine (program : String) (args : List String) : String :=
  " ".intercalate ((program :: args).map Text.quoted)

/-- Runs the program with the base arguments and `args`. -/
def run (t : ToolCommand) (args : List String) : HostM (Except ToolError ToolOutput) := do
  let argv := t.baseArgs ++ args
  Host.log .debug "toolchain::process" ("running " ++ commandLine t.program argv)
  match ← runProgram t.program argv (t.timeoutSecs * 1000) with
  | .error e => pure (.error (.spawn t.name e))
  | .ok none => pure (.error (.timedOut t.name t.timeoutSecs))
  | .ok (some o) =>
    let stdout := Utf8.decodeLossy o.stdout
    let stderr := Utf8.decodeLossy o.stderr
    if o.status == .exited 0 then pure (.ok ⟨stdout, stderr⟩)
    else
      let diagnostic := if (trimText stderr).isEmpty then trimText stdout else trimText stderr
      pure (.error (.failed t.name (o.status.text ++ ": " ++ diagnostic)))

end ToolCommand

end EdgePack
