import EdgePack.Host.Basic
import EdgePack.Shell.Syntax

/-!
# The shell's machine

A running script has a name (`$0`), positional parameters, variables,
functions, the status of its last command, and a table of open descriptors,
each leading to a sink: the process's own standard output or error, the
buffer of a command substitution or pipeline stage being captured, the null
device, a file (every write appends to it), or the standard input.

Commands run in `ShellM`: the machine's state over the host, with an early
stop for `exit`, a signal, `break`, `continue`, `return`, or a run that went
on past its time. The step budget counts commands; a run that spends it has
gone on past its time, as a script in an endless loop does.
-/

namespace EdgePack.Shell

/-- How a process ended. -/
inductive Status where
  /-- It exited with a code. -/
  | exited (code : Nat)
  /-- A signal killed it. -/
  | signaled (signal : Nat)
  deriving DecidableEq, Inhabited, Repr

/-- The status as a number, as `$?` shows it: the code, or 128 and the signal. -/
def Status.code : Status → Nat
  | .exited c => c
  | .signaled s => 128 + s

/-- Bytes to read: a list of them, or the endless zeros of `/dev/zero`. -/
inductive Source where
  | bytes (data : List UInt8)
  | zeros
  deriving Inhabited

namespace Source

/-- The first `n` bytes and the rest. -/
def split (s : Source) (n : Nat) : List UInt8 × Source :=
  match s with
  | .bytes d => (d.take n, .bytes (d.drop n))
  | .zeros => (List.replicate n 0, .zeros)

/-- Whether nothing is left. -/
def isEmpty : Source → Bool
  | .bytes d => d.isEmpty
  | .zeros => false

end Source

/-- Where a descriptor leads. -/
inductive Sink where
  /-- The process's standard output. -/
  | stdout
  /-- The process's standard error. -/
  | stderr
  /-- The innermost capture. -/
  | capture
  /-- The null device. -/
  | null
  /-- A file, written at its end. -/
  | file (path : String)
  /-- The standard input. -/
  | input
  /-- A closed descriptor. -/
  | closed
  deriving Inhabited, BEq

/-- Why the commands after the current one do not run. -/
inductive Stop where
  /-- `exit`, or a fatal error, with the status. -/
  | exit (code : Nat)
  /-- The process was killed by a signal. -/
  | signal (n : Nat)
  /-- `break` out of `n` loops. -/
  | breakLoop (n : Nat)
  /-- `continue` with the `n`-th enclosing loop. -/
  | continueLoop (n : Nat)
  /-- `return` from a function. -/
  | ret (code : Nat)
  /-- The run went past its time. -/
  | timeout
  deriving Inhabited

/-- The state of a running script. -/
structure Session where
  /-- `$0`, which also leads every complaint. -/
  name : String
  params : List String
  vars : List (String × String) := []
  funcs : List (String × Command) := []
  status : Nat := 0
  fds : List (Nat × Sink) := [(0, .input), (1, .stdout), (2, .stderr)]
  stdin : Source := .bytes []
  out : ByteArray := .empty
  err : ByteArray := .empty
  capture : ByteArray := .empty
  pid : Nat := 4242
  /-- `set -e`: stop at the first command that fails outside a condition. -/
  errexit : Bool := false
  /-- `set -x`: each simple command is written on standard error before it runs. -/
  xtrace : Bool := false
  /-- `set -u`: expanding an unset parameter is an error. -/
  nounset : Bool := false
  /-- The status of the last command substitution of the command being expanded. -/
  substituted : Option Nat := none
  /-- How deep the current command sits inside conditions, where `set -e` does not act. -/
  testing : Nat := 0
  /-- The line of the command running, for complaints. -/
  line : Nat := 1
  /-- Commands that may still run. -/
  steps : Nat := 200000
  /-- Milliseconds slept, and how many the run may take. -/
  clock : Nat := 0
  limit : Nat := 120000
  deriving Inhabited

/-- A computation of a running script. -/
abbrev ShellM := ExceptT Stop (StateT Session HostM)

namespace ShellM

/-- Runs a host computation. -/
def host (act : HostM α) : ShellM α := ExceptT.lift (StateT.lift act)

/-- Counts one command against the budget. -/
def tick : ShellM Unit := do
  let s ← get
  if s.steps == 0 then throw .timeout
  set { s with steps := s.steps - 1 }

/-- Lets `ms` milliseconds pass. -/
def sleep (ms : Nat) : ShellM Unit := do
  let s ← get
  let now := s.clock + ms
  set { s with clock := now }
  if now > s.limit then throw .timeout

/-- The status of the last command. -/
def status : ShellM Nat := do pure (← get).status

/-- Sets the status of the last command. -/
def setStatus (n : Nat) : ShellM Unit := modify fun s => { s with status := n }

/-- The value of a variable. -/
def getVar (name : String) : ShellM (Option String) := do
  pure (((← get).vars.find? (·.1 == name)).map (·.2))

/-- Sets a variable. -/
def setVar (name value : String) : ShellM Unit :=
  modify fun s =>
    if s.vars.any (·.1 == name) then
      { s with vars := s.vars.map fun (k, v) => if k == name then (k, value) else (k, v) }
    else { s with vars := s.vars ++ [(name, value)] }

/-- Removes a variable. -/
def unsetVar (name : String) : ShellM Unit :=
  modify fun s => { s with vars := s.vars.filter (·.1 != name) }

/-- Where a descriptor leads. -/
def sinkOf (fd : Nat) : ShellM Sink := do
  pure (((← get).fds.find? (·.1 == fd)).map (·.2) |>.getD .closed)

/-- Points a descriptor at a sink. -/
def setFd (fd : Nat) (sink : Sink) : ShellM Unit :=
  modify fun s => { s with fds := (fd, sink) :: s.fds.filter (·.1 != fd) }

/-- Writes bytes to a descriptor. -/
def emit (fd : Nat) (data : ByteArray) : ShellM Unit := do
  if data.isEmpty then return
  match ← sinkOf fd with
  | .stdout => modify fun s => { s with out := s.out ++ data }
  | .stderr => modify fun s => { s with err := s.err ++ data }
  | .capture => modify fun s => { s with capture := s.capture ++ data }
  | .file p =>
    match ← host (Host.readBytes ⟨p⟩) with
    | .ok old => discard <| host (Host.writeBytes ⟨p⟩ (old ++ data))
    | .error _ => pure ()
  | _ => pure ()

/-- Writes text to a descriptor. -/
def emitText (fd : Nat) (s : String) : ShellM Unit := emit fd s.toUTF8

/-- A complaint of the shell on standard error: its name, the line, the words. -/
def complain (msg : String) : ShellM Unit := do
  let s ← get
  emitText 2 (s.name ++ ": " ++ toString s.line ++ ": " ++ msg ++ "\n")

/-- The rest of the standard input. -/
def input : ShellM Source := do
  match ← sinkOf 0 with
  | .input => pure (← get).stdin
  | _ => pure (.bytes [])

/-- Replaces the rest of the standard input. -/
def setInput (src : Source) : ShellM Unit := do
  if (← sinkOf 0) == .input then modify fun s => { s with stdin := src }

/-- Runs a computation as a child of the shell: what it changes of the
    variables, parameters, functions, descriptors and working directory is
    undone after it, what it writes stays, and its exit ends only it. Gives its
    status. -/
def child (act : ShellM Unit) : ShellM Nat := do
  let saved ← get
  let cwd := (← host get).cwd
  let r ← tryCatch (do act; pure (← get).status) fun e =>
    match e with
    | .exit c => pure c
    | .ret c => pure c
    | .signal n => pure (128 + n)
    | .breakLoop _ => do pure (← get).status
    | .continueLoop _ => do pure (← get).status
    | .timeout => throw .timeout
  host (modify fun h => { h with cwd := cwd })
  modify fun s =>
    { saved with
      out := s.out
      err := s.err
      capture := s.capture
      steps := s.steps
      clock := s.clock
      stdin := s.stdin
      status := r }
  pure r

/-- Runs a child with its standard output captured; gives the bytes and its status. -/
def captured (act : ShellM Unit) : ShellM (ByteArray × Nat) := do
  let outer := (← get).capture
  modify fun s => { s with capture := .empty }
  let st ← child (do setFd 1 .capture; act)
  let got := (← get).capture
  modify fun s => { s with capture := outer }
  pure (got, st)

end ShellM

end EdgePack.Shell
