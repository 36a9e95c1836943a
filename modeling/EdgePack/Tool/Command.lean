import EdgePack.Serde.Decode

/-!
# Tool commands

An external program, the arguments always passed before a subcommand, and how
long a run may take. In a document the arguments default to none and the time
to 120 seconds.
-/

namespace EdgePack

/-- An external program and how it is called. -/
structure ToolCommand where
  /-- The program's path. -/
  program : String
  /-- Arguments passed before every subcommand. -/
  baseArgs : List String
  /-- Seconds a run may take. -/
  timeoutSecs : Nat
  deriving DecidableEq, Repr, Inhabited

namespace ToolCommand

/-- The seconds a run may take by default. -/
def defaultTimeout : Nat := 120

/-- A program with no base arguments and the default time. -/
def new (program : String) : ToolCommand := ⟨program, [], defaultTimeout⟩

/-- The model compiler found on the search path. -/
def default : ToolCommand := new "ncc"

/-- The name of the program in diagnostics. -/
def name (t : ToolCommand) : String := t.program

/-- The command with a time limit of `ms` milliseconds, in whole seconds, at least one. -/
def withTimeoutMs (t : ToolCommand) (ms : Nat) : ToolCommand := { t with timeoutSecs := max 1 (ms / 1000) }

open Serde Decoder in
/-- Reads a command. -/
def decoder : Decoder ToolCommand :=
  record "ToolCommand"
    [("program", check path), ("base_args", check (seq string)), ("timeout_secs", check u64)]
    fun fs => do
      let program ← fs.need "program" path
      let args ← fs.getD "base_args" (seq string) []
      let secs ← fs.getD "timeout_secs" u64 defaultTimeout
      pure ⟨program, args, secs⟩

/-- The command as data, its fields in declaration order. -/
def toDatum (t : ToolCommand) : Serde.Datum :=
  .map [("program", .str t.program), ("base_args", .seq (t.baseArgs.map .str)),
    ("timeout_secs", .int t.timeoutSecs)]

end ToolCommand

end EdgePack
