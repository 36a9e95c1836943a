import EdgePack.Shell.Builtin
import EdgePack.Shell.Utility.Sed
import EdgePack.Shell.Expand

/-!
# Running scripts

The interpreter: commands run in `ShellM` one after the other, each setting
the status. A simple command expands its words, makes its redirections, and
runs the shell's own command, a function, or a program of the host, under
the name it was called by; a name the host does not have is `not found`
(status 127). Pipelines run their stages one after the other, each stage's
output the next one's input. `&&` and `||` run what follows by the status;
`if`, `while`, `until`, `for` and `case` choose and repeat; a subshell and a
command substitution run as children, whose changes to the shell's state are
undone after them.

Under `set -e` a failing command ends the script, except where its status is
being tested: in a condition, or before `&&` or `||`.

Every run has a budget of nested steps (`fuel`) beside the step count of the
machine, so that every definition here is total; a script that spends either
has gone on past its time.

`runProgram` runs one program of the host as a process: the shell (`sh`,
with `-c script name args…` or a script file) or one of the utilities. A
name the host does not have does not start.
-/

namespace EdgePack.Shell

open ShellM

/-- The programs the host provides, by name. -/
def programNames : List String :=
  ["sh", "dash", "cat", "head", "tail", "ls", "mkdir", "rm", "cp", "mv", "touch", "wc", "sed", "grep",
   "tr", "seq", "basename", "dirname", "sleep", "echo", "printf", "true", "false", "test", "[", "pwd"]

/-- The directories the host's programs are found in. -/
def programDirs : List String :=
  ["/usr/local/sbin", "/usr/local/bin", "/usr/sbin", "/usr/bin", "/sbin", "/bin"]

/-- The program a command name or path stands for, if the host has it. -/
def programOf (cmd : String) : Option String :=
  if cmd.toList.contains '/' then
    let base := Utility.lastName cmd
    if programDirs.contains (Utility.dirPart cmd) && programNames.contains base then some base else none
  else if programNames.contains cmd then some cmd
  else none

/-- Runs a utility of the host, called by `name`; gives its status. -/
def runUtility (prog name : String) (args : List String) : ShellM Nat :=
  match prog with
  | "cat" => Utility.cat name args
  | "head" => Utility.headTail false name args
  | "tail" => Utility.headTail true name args
  | "ls" => Utility.ls name args
  | "mkdir" => Utility.mkdir name args
  | "rm" => Utility.rm name args
  | "cp" => Utility.copyMove false name args
  | "mv" => Utility.copyMove true name args
  | "touch" => Utility.touch name args
  | "wc" => Utility.wc name args
  | "sed" => Utility.sed name args
  | "grep" => Utility.grep name args
  | "tr" => Utility.tr name args
  | "seq" => Utility.seq name args
  | "basename" => Utility.pathPart false name args
  | "dirname" => Utility.pathPart true name args
  | "sleep" => Utility.sleepFor name args
  | "echo" => Utility.echoProgram args
  | "printf" => Utility.printfProgram name args
  | "true" => pure 0
  | "false" => pure 1
  | "test" => Builtin.test "test" args
  | "[" => Builtin.test "[" args
  | "pwd" => do
    Utility.putText (Host.locText (← host get).cwd ++ "\n")
    pure 0
  | _ => pure 127

/-- The shell's words for an error opening a file: for writing (`create`) or reading. -/
def openFault (create : Bool) (e : IoError) : String :=
  if e == IoError.notFound || e == IoError.notADirectory then
    if create then "Directory nonexistent" else "No such file"
  else Utility.errorWords e

/-- A path made absolute against the working directory, so that a file
    opened stays the same file when the directory changes. -/
def absolute (p : String) : ShellM String := do
  if p.startsWith "/" then pure p
  else
    let cwd := Host.locText (← host get).cwd
    pure (if cwd == "/" then "/" ++ p else cwd ++ "/" ++ p)

/-- Makes one redirection; false, with a complaint, when it fails. -/
def redirect (sub : Substitute) (r : Redirect) : ShellM Bool := do
  match r with
  | .write fd target append => do
    let path ← expandText sub target
    if path == "/dev/null" then do setFd fd .null; pure true
    else if path == "/dev/stdout" then do setFd fd (← sinkOf 1); pure true
    else if path == "/dev/stderr" then do setFd fd (← sinkOf 2); pure true
    else
      let made : Except IoError Unit ← if append && (← host (Host.isFile ⟨path⟩)) then pure (.ok ())
        else if ← host (Host.isDir ⟨path⟩) then pure (.error IoError.isADirectory)
        else host (Host.writeBytes ⟨path⟩ .empty)
      match made with
      | .ok () => do
        setFd fd (.file (← absolute path))
        pure true
      | .error e => do
        complain ("cannot create " ++ path ++ ": " ++ openFault true e)
        pure false
  | .read fd source => do
    let path ← expandText sub source
    let content : Except IoError Source ← if path == "/dev/null" then pure (.ok (.bytes []))
      else if path == "/dev/zero" then pure (.ok .zeros)
      else do
        match ← host (Host.readBytes ⟨path⟩) with
        | .ok d => pure (.ok (Source.bytes d.toList))
        | .error e => pure (.error e)
    match content with
    | .ok src => do
      if fd == 0 then do
        setFd 0 .input
        modify fun s => { s with stdin := src }
      else setFd fd .null
      pure true
    | .error e => do
      complain ("cannot open " ++ path ++ ": " ++ openFault false e)
      pure false
  | .dup fd target => do
    let sink ← sinkOf target
    if sink == .closed then do
      complain (toString target ++ ": Bad file descriptor")
      pure false
    else do
      setFd fd sink
      pure true
  | .close fd => do
    setFd fd .closed
    pure true

/-- Makes redirections in order, stopping at the first that fails. -/
def redirectAll (sub : Substitute) : List Redirect → ShellM Bool
  | [] => pure true
  | r :: rest => do
    if ← redirect sub r then redirectAll sub rest else pure false

/-- Runs a computation with redirections made, undoing them after it; when
    one fails the computation does not run and the status is 2. -/
def underRedirects (sub : Substitute) (rs : List Redirect) (act : ShellM Unit) : ShellM Unit := do
  if rs.isEmpty then act
  else
    let saved ← get
    let readsInput := rs.any fun r => match r with
      | .read 0 _ => true
      | _ => false
    let restore : ShellM Unit := modify fun s =>
      { s with fds := saved.fds, stdin := if readsInput then saved.stdin else s.stdin }
    if ← redirectAll sub rs then
      let r ← tryCatch (do act; pure none) fun e => pure (some e)
      restore
      match r with
      | some e => throw e
      | none => pure ()
    else
      restore
      setStatus 2

/-- Runs a computation where its status is being tested, so that `set -e` does not act. -/
def conditionally (act : ShellM Unit) : ShellM Unit := do
  modify fun s => { s with testing := s.testing + 1 }
  let r ← tryCatch (do act; pure none) fun e => pure (some e)
  modify fun s => { s with testing := s.testing - 1 }
  match r with
  | some e => throw e
  | none => pure ()

/-- Under `set -e`, a failure outside a condition ends the script. -/
def checkErrexit : ShellM Unit := do
  let s ← get
  if s.errexit && s.testing == 0 && s.status != 0 then throw (.exit s.status)

/-- How a loop body ended: normally, by `break`, or by `continue`. -/
inductive LoopEnd where
  | done
  | broke
  | continued

/-- Runs a loop body, catching the `break` and `continue` meant for this loop. -/
def loopBody (act : ShellM Unit) : ShellM LoopEnd := do
  tryCatch (do act; pure .done) fun e =>
    match e with
    | .breakLoop n => if n > 1 then throw (.breakLoop (n - 1)) else pure .broke
    | .continueLoop n => if n > 1 then throw (.continueLoop (n - 1)) else pure .continued
    | other => throw other

/-- The special commands of the shell, whose assignments stay after them. -/
def specialBuiltins : List String :=
  [":", "break", "continue", "eval", "exec", "exit", "export", "readonly", "return", "set", "shift",
   "trap", "unset", ".", "times"]

/-- Reads the shell's options from its arguments: the letters set, whether
    `-c` was given, and the arguments after the options. -/
def shellOptions : List String → List Char × Bool × List String
  | [] => ([], false, [])
  | a :: rest =>
    if a == "--" then ([], false, rest)
    else if (a.startsWith "-" || a.startsWith "+") && a.length > 1 then
      let letters := (a.drop 1).toString.toList
      let (more, c, after) := shellOptions rest
      (letters.filter (· != 'c') ++ more, c || letters.contains 'c', after)
    else ([], false, a :: rest)

mutual

/-- Runs a command. -/
def exec : Nat → Command → ShellM Unit
  | 0, _ => throw .timeout
  | fuel + 1, c =>
    match c with
    | .simple line assigns words redirs => simple fuel line assigns words redirs
    | .sequence cs => cs.forM (exec fuel)
    | .pipeline negate stages => do
      match stages with
      | [one] => if negate then conditionally (exec fuel one) else exec fuel one
      | _ => do
        let saved := (← get).stdin
        let feed (input : Option ByteArray) : ShellM Unit :=
          match input with
          | some bs => do
            setFd 0 .input
            modify fun s => { s with stdin := .bytes bs.toList }
          | none => pure ()
        let input ← stages.dropLast.foldlM (fun input stage => do
          let (out, _) ← captured (do feed input; exec fuel stage)
          if input.isSome then modify fun s => { s with stdin := saved }
          pure (some out)) none
        let st ← match stages.getLast? with
          | some last => child (do feed input; if negate then conditionally (exec fuel last) else exec fuel last)
          | none => pure 0
        if input.isSome then modify fun s => { s with stdin := saved }
        setStatus st
      if negate then do
        setStatus (if (← status) == 0 then 1 else 0)
      else checkErrexit
    | .andOr first rest => do
      if rest.isEmpty then exec fuel first
      else
        conditionally (exec fuel first)
        let n := rest.length
        (rest.zip (List.range n)).forM fun ((isAnd, cmd), i) => do
          let st ← status
          if (isAnd && st == 0) || (!isAnd && st != 0) then
            if i + 1 == n then exec fuel cmd else conditionally (exec fuel cmd)
    | .ifThen branches otherwise => do
      let chosen ← branches.foldlM (fun done (cond, body) => do
        if done then pure true
        else do
          conditionally (exec fuel cond)
          if (← status) == 0 then do
            setStatus 0
            exec fuel body
            pure true
          else pure false) false
      if !chosen then
        match otherwise with
        | some e => do setStatus 0; exec fuel e
        | none => setStatus 0
    | .forIn name items body => do
      let values ← match items with
        | some ws => expandFields (substitute fuel) ws
        | none => pure (← get).params
      setStatus 0
      discard <| values.foldlM (fun stopped v => do
        if stopped then pure true
        else do
          setVar name v
          match ← loopBody (exec fuel body) with
          | .broke => pure true
          | _ => pure false) false
    | .loop negate cond body => do
      setStatus 0
      loopRun fuel negate cond body 0
    | .caseOf subject arms => do
      let sub := substitute fuel
      let s ← expandText sub subject
      let matched ← arms.foldlM (fun done (pats, body) => do
        if done then pure true
        else do
          let hit ← pats.anyM fun p => do pure (Glob.accepts (← expandPattern sub p) s.toList)
          if hit then do
            setStatus 0
            exec fuel body
            pure true
          else pure false) false
      if !matched then setStatus 0
    | .group body => exec fuel body
    | .subshell body => do
      let st ← child (exec fuel body)
      setStatus st
      checkErrexit
    | .redirected body rs => underRedirects (substitute fuel) rs (exec fuel body)
    | .function name body => do
      modify fun s => { s with funcs := (name, body) :: s.funcs.filter (·.1 != name) }
      setStatus 0

/-- Runs a `while` (or, negated, `until`) loop from its condition; `last` is
    the status of the last body run. -/
def loopRun : Nat → Bool → Command → Command → Nat → ShellM Unit
  | 0, _, _, _, _ => throw .timeout
  | fuel + 1, negate, cond, body, last => do
    conditionally (exec fuel cond)
    let holds := ((← status) == 0) != negate
    if !holds then setStatus last
    else
      match ← loopBody (exec fuel body) with
      | .broke => pure ()
      | _ => loopRun fuel negate cond body (← status)

/-- Runs a simple command. -/
def simple : Nat → Nat → List (String × Word) → List Word → List Redirect → ShellM Unit
  | 0, _, _, _, _ => throw .timeout
  | fuel + 1, line, assigns, words, redirs => do
    modify fun s => { s with line := line, substituted := none }
    tick
    let sub := substitute fuel
    let fields ← expandFields sub words
    match fields with
    | [] => do
      assigns.forM fun (n, w) => do setVar n (← expandText sub w)
      let st := (← get).substituted.getD 0
      setStatus st
      underRedirects sub redirs (setStatus st)
      checkErrexit
    | name :: args => do
      let assigned ← assigns.mapM fun (n, w) => do pure (n, ← expandText sub w)
      if (← get).xtrace then
        emitText 2 ("+ " ++ " ".intercalate ((assigned.map fun (n, v) => n ++ "=" ++ v) ++ fields) ++ "\n")
      if name == "exec" && args.isEmpty then do
        -- the redirections of a bare exec stay
        if ← redirectAll sub redirs then setStatus 0 else setStatus 2
      else if specialBuiltins.contains name then do
        assigned.forM fun (n, v) => setVar n v
        underRedirects sub redirs (do setStatus (← invoke fuel name args))
      else do
        -- assignments hold for the command alone
        let before ← assigned.mapM fun (n, _) => do pure (n, ← getVar n)
        assigned.forM fun (n, v) => setVar n v
        let r ← tryCatch (do underRedirects sub redirs (do setStatus (← invoke fuel name args)); pure none)
          fun e => pure (some e)
        before.forM fun (n, v) => match v with
          | some x => setVar n x
          | none => unsetVar n
        match r with
        | some e => throw e
        | none => pure ()
      checkErrexit

/-- Runs a command by name: the shell's own, a function, or a program. -/
def invoke : Nat → String → List String → ShellM Nat
  | 0, _, _ => throw .timeout
  | fuel + 1, name, args => do
    match name with
    | ":" => pure 0
    | "true" => pure 0
    | "false" => pure 1
    | "exit" => do
      match ← Builtin.countArg "exit" args (← status) with
      | some n => throw (.exit (n % 256))
      | none => throw (.exit 2)
    | "return" => do
      match ← Builtin.countArg "return" args (← status) with
      | some n => throw (.ret (n % 256))
      | none => throw (.exit 2)
    | "break" => do
      match ← Builtin.countArg "break" args 1 with
      | some n => throw (.breakLoop (max n 1))
      | none => throw (.exit 2)
    | "continue" => do
      match ← Builtin.countArg "continue" args 1 with
      | some n => throw (.continueLoop (max n 1))
      | none => throw (.exit 2)
    | "shift" => do
      match ← Builtin.countArg "shift" args 1 with
      | some n =>
        let ps := (← get).params
        if n > ps.length then do
          Builtin.complainIn "shift" "can't shift that many"
          throw (.exit 2)
        else do
          modify fun s => { s with params := ps.drop n }
          pure 0
      | none => throw (.exit 2)
    | "set" => Builtin.setOptions args
    | "export" => do
      args.forM fun a => match a.splitOn "=" with
        | n :: _ :: _ => setVar n (a.drop (n.length + 1)).toString
        | _ => pure ()
      pure 0
    | "readonly" => invoke fuel "export" args
    | "local" => invoke fuel "export" args
    | "unset" => do
      let fns := args.contains "-f"
      (args.filter fun a => !a.startsWith "-").forM fun a =>
        if fns then modify fun s => { s with funcs := s.funcs.filter (·.1 != a) } else unsetVar a
      pure 0
    | "eval" => do
      setStatus 0
      runSource fuel (" ".intercalate args)
      status
    | "." => do
      match args with
      | file :: _ => do
        match ← host (Host.readText ⟨file⟩) with
        | .ok text => do
          setStatus 0
          runSource fuel text
          status
        | .error e => do
          Builtin.complainIn "." ("cannot open " ++ file ++ ": " ++ openFault false e)
          throw (.exit 2)
      | [] => pure 0
    | "exec" => do
      match args with
      | cmd :: rest => throw (.exit (← invoke fuel cmd rest))
      | [] => pure 0
    | "trap" => pure 0
    | "wait" => pure 0
    | "umask" => pure 0
    | "times" => pure 0
    | _ =>
      match (← get).funcs.find? (·.1 == name) with
      | some (_, body) => do
        let saved := (← get).params
        modify fun s => { s with params := args }
        let r ← tryCatch (do exec fuel body; pure (Sum.inl (← status))) fun e =>
          match e with
          | .ret n => pure (Sum.inl n)
          | other => pure (Sum.inr other)
        modify fun s => { s with params := saved }
        match r with
        | .inl n => pure n
        | .inr e => throw e
      | none =>
        match name with
        | "echo" => do
          emit 1 ⟨(Format.echo args).toArray⟩
          pure 0
        | "printf" => do
          match args with
          | [] => do
            Builtin.complainIn "printf" "usage: printf format [arg ...]"
            pure 2
          | format :: rest => do
            let (bs, complaints, failed) := Format.printf format rest
            emit 1 ⟨bs.toArray⟩
            complaints.forM fun c => Builtin.complainIn "printf" c
            pure (if failed then 1 else 0)
        | "test" => Builtin.test "test" args
        | "[" => Builtin.test "[" args
        | "read" => Builtin.read args
        | "cd" => Builtin.cd args
        | "pwd" => do
          emitText 1 (Host.locText (← host get).cwd ++ "\n")
          pure 0
        | "kill" => Builtin.kill args
        | _ => external fuel name args

/-- Runs a program of the host as a child process. -/
def external : Nat → String → List String → ShellM Nat
  | 0, _, _ => throw .timeout
  | fuel + 1, name, args =>
    match programOf name with
    | some "sh" => child (runShell fuel name args)
    | some "dash" => child (runShell fuel name args)
    | some prog => child (do setStatus (← runUtility prog name args))
    | none => do
      if name.toList.contains '/' && (← host (Host.exists_ ⟨name⟩)) then do
        complain (name ++ ": Permission denied")
        pure 126
      else do
        complain (name ++ ": not found")
        pure 127

/-- Runs the shell as a program with its arguments: options, then `-c` with
    the script, its name and parameters, or a script file and its parameters. -/
def runShell : Nat → String → List String → ShellM Unit
  | 0, _, _ => throw .timeout
  | fuel + 1, arg0, args => do
    let (letters, fromText, rest) := shellOptions args
    let fresh (name : String) (params : List String) : ShellM Unit :=
      modify fun s => { s with
        name := name
        params := params
        vars := []
        funcs := []
        status := 0
        errexit := letters.contains 'e'
        xtrace := letters.contains 'x'
        nounset := letters.contains 'u'
        testing := 0
        line := 1 }
    if fromText then
      match rest with
      | script :: more => do
        fresh (more.head?.getD arg0) (more.drop 1)
        runTop fuel script
      | [] => do
        fresh arg0 []
        modify fun s => { s with line := 0 }
        complain "-c requires an argument"
        throw (.exit 2)
    else
      match rest with
      | file :: more => do
        fresh file more
        match ← host (Host.readBytes ⟨file⟩) with
        | .ok d => runTop fuel (Utf8.decodeLossy d)
        | .error e => do
          modify fun s => { s with name := arg0, line := 0 }
          complain ("cannot open " ++ file ++ ": " ++ openFault false e)
          throw (.exit 2)
      | [] => do
        fresh arg0 []
        let src ← input
        match src with
        | .bytes d => runTop fuel (Utility.textOf d)
        | .zeros => throw .timeout

/-- Runs a script at the top of a shell: a `return`, `break` or `continue`
    outside what it belongs to ends or goes on quietly. -/
def runTop : Nat → String → ShellM Unit
  | 0, _ => throw .timeout
  | fuel + 1, src =>
    tryCatch (runSource fuel src) fun e =>
      match e with
      | .ret n => setStatus n
      | .breakLoop _ => pure ()
      | .continueLoop _ => pure ()
      | other => throw other

/-- Runs the text of a script: its commands one line's worth at a time, and
    a syntax error, when reading reaches one, ends the shell with status 2. -/
def runSource : Nat → String → ShellM Unit
  | 0, _ => throw .timeout
  | fuel + 1, src => do
    let (items, fault) := parseItems src
    items.forM (exec fuel)
    match fault with
    | some (msg, line) => do
      modify fun s => { s with line := line }
      complain msg
      throw (.exit 2)
    | none => pure ()

/-- Runs a command substitution and gives its output without its final line ends. -/
def substitute : Nat → String → ShellM String
  | 0, _ => throw .timeout
  | fuel + 1, src => do
    let (bytes, st) ← captured (runSource fuel src)
    modify fun s => { s with substituted := some st, status := st }
    pure (Expand.chompNewlines (Utf8.decodeLossy bytes))

end

/-- How a program ended and what it wrote on its two streams. -/
structure Outcome where
  status : Status
  stdout : ByteArray
  stderr : ByteArray

/-- The nested steps a program may take. -/
def programFuel : Nat := 100000

/-- Runs a program of the host with arguments, in the working directory of
    the host, its standard input empty, for at most `limitMs` milliseconds.
    Gives why it did not start, or how it ended: none when it went on past
    its time. -/
def runProgram (program : String) (args : List String) (limitMs : Nat) : HostM (Except IoError (Option Outcome)) := do
  match programOf program with
  | none =>
    let h ← get
    if program.toList.contains '/' && h.fs.existsAt h.cwd ⟨program⟩ then pure (.error IoError.permissionDenied)
    else pure (.error IoError.notFound)
  | some prog =>
    let cwd := (← get).cwd
    let act : ShellM Unit :=
      if prog == "sh" || prog == "dash" then runShell programFuel program args
      else do setStatus (← runUtility prog program args)
    let start : Session := { name := program, params := args, limit := limitMs }
    let (r, s) ← (act.run).run start
    modify fun h => { h with cwd := cwd }
    let status : Option Status := match r with
      | .ok () => some (.exited (s.status % 256))
      | .error (.exit c) => some (.exited (c % 256))
      | .error (.signal n) => some (.signaled n)
      | .error (.ret c) => some (.exited (c % 256))
      | .error (.breakLoop _) => some (.exited (s.status % 256))
      | .error (.continueLoop _) => some (.exited (s.status % 256))
      | .error .timeout => none
    pure (.ok (status.map fun st => ⟨st, s.out, s.err⟩))

end EdgePack.Shell
