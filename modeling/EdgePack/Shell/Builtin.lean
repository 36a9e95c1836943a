import EdgePack.Shell.Utility.Text
import EdgePack.Shell.Format

/-!
# The shell's own commands

The commands the shell runs itself rather than as programs, as `dash` has
them. Their complaints follow the shell's own form, `name: line: command:
words`.

* `test` and `[`: the comparisons of strings and whole numbers and the tests
  on files, with `!`, `-a`, `-o` and parentheses; the few-argument forms are
  read as the standard prescribes;
* `read`: a line of the standard input into variables, split at `IFS`, the
  last variable taking the rest; its status is 1 at the end of the input;
* `set`, `shift`, `export`, `unset`, `cd`, `pwd`, `kill`, `exit`, and the
  control words `return`, `break`, `continue`.
-/

namespace EdgePack.Shell

open ShellM

namespace Builtin

/-- A builtin's complaint: the shell's name and line, then the command's. -/
def complainIn (cmd msg : String) : ShellM Unit := complain (cmd ++ ": " ++ msg)

/-- The signal a name or number stands for. -/
def signalNumber (s : String) : Option Nat :=
  let t := if s.startsWith "SIG" then (s.drop 3).toString else s
  match t.toNat? with
  | some n => some n
  | none =>
    let names : List (String × Nat) :=
      [("HUP", 1), ("INT", 2), ("QUIT", 3), ("ILL", 4), ("TRAP", 5), ("ABRT", 6), ("BUS", 7), ("FPE", 8),
       ("KILL", 9), ("USR1", 10), ("SEGV", 11), ("USR2", 12), ("PIPE", 13), ("ALRM", 14), ("TERM", 15)]
    (names.find? (·.1 == t)).map (·.2)

/-! ## `test` -/

/-- The unary operators of `test`. -/
def unaryOps : List String :=
  ["-e", "-f", "-d", "-s", "-r", "-w", "-x", "-z", "-n", "-h", "-L", "-b", "-c", "-p", "-S", "-t",
   "-g", "-u", "-k", "-O", "-G"]

/-- The binary operators of `test`. -/
def binaryOps : List String :=
  ["=", "!=", "-eq", "-ne", "-lt", "-le", "-gt", "-ge", "-nt", "-ot", "-ef", "<", ">", "-a", "-o"]

/-- A whole number as `test` reads it, or the complaint. -/
def testNumber (s : String) : Except String Int :=
  let t := s.trimAscii.toString
  let body := if t.startsWith "-" || t.startsWith "+" then (t.drop 1).toString else t
  if !body.isEmpty && body.all Char.isDigit then
    .ok (if t.startsWith "-" then -(body.toNat! : Int) else body.toNat!)
  else .error ("Illegal number: " ++ s)

/-- A unary test. -/
def unary (op arg : String) : ShellM Bool := do
  match op with
  | "-z" => pure arg.isEmpty
  | "-n" => pure (!arg.isEmpty)
  | "-e" => host (Host.exists_ ⟨arg⟩)
  | "-f" => host (Host.isFile ⟨arg⟩)
  | "-d" => host (Host.isDir ⟨arg⟩)
  | "-s" => do
    if ← host (Host.isDir ⟨arg⟩) then pure true
    else
      match ← host (Host.readBytes ⟨arg⟩) with
      | .ok d => pure (d.size > 0)
      | .error _ => pure false
  | "-r" => host (Host.exists_ ⟨arg⟩)
  | "-w" => host (Host.exists_ ⟨arg⟩)
  | "-x" => host (Host.isDir ⟨arg⟩)
  | _ => pure false

/-- A binary test, or the complaint. -/
def binary (a op b : String) : ShellM (Except String Bool) := do
  let num (f : Int → Int → Bool) : Except String Bool := do
    let x ← testNumber a
    let y ← testNumber b
    pure (f x y)
  match op with
  | "=" => pure (.ok (a == b))
  | "!=" => pure (.ok (a != b))
  | "<" => pure (.ok (a < b))
  | ">" => pure (.ok (b < a))
  | "-eq" => pure (num (· == ·))
  | "-ne" => pure (num (· != ·))
  | "-lt" => pure (num (· < ·))
  | "-le" => pure (num (· ≤ ·))
  | "-gt" => pure (num (· > ·))
  | "-ge" => pure (num (· ≥ ·))
  | "-a" => pure (.ok (!a.isEmpty && !b.isEmpty))
  | "-o" => pure (.ok (!a.isEmpty || !b.isEmpty))
  | "-ef" => pure (.ok (a == b))
  | _ => pure (.ok false)

mutual

/-- `test` by its grammar: `-o` binds loosest, then `-a`, then `!`. Gives the
    value and the arguments left. -/
def orExpr : Nat → List String → ShellM (Except String (Bool × List String))
  | 0, _ => pure (.error "expression too deep")
  | fuel + 1, ts => do
    match ← andExpr fuel ts with
    | .ok (v, "-o" :: rest) =>
      match ← orExpr fuel rest with
      | .ok (w, more) => pure (.ok (v || w, more))
      | .error e => pure (.error e)
    | other => pure other

/-- The `-a` level of `test`. -/
def andExpr : Nat → List String → ShellM (Except String (Bool × List String))
  | 0, _ => pure (.error "expression too deep")
  | fuel + 1, ts => do
    match ← notExpr fuel ts with
    | .ok (v, "-a" :: rest) =>
      match ← andExpr fuel rest with
      | .ok (w, more) => pure (.ok (v && w, more))
      | .error e => pure (.error e)
    | other => pure other

/-- The `!` level of `test`. -/
def notExpr : Nat → List String → ShellM (Except String (Bool × List String))
  | 0, _ => pure (.error "expression too deep")
  | fuel + 1, ts =>
    match ts with
    | "!" :: rest => do
      match ← notExpr fuel rest with
      | .ok (v, more) => pure (.ok (!v, more))
      | .error e => pure (.error e)
    | _ => primary fuel ts

/-- A primary of `test`: a parenthesised expression, a unary or binary test,
    or a string that must not be empty. -/
def primary : Nat → List String → ShellM (Except String (Bool × List String))
  | 0, _ => pure (.error "expression too deep")
  | fuel + 1, ts =>
    match ts with
    | [] => pure (.error "argument expected")
    | "(" :: rest => do
      match ← orExpr fuel rest with
      | .ok (v, ")" :: more) => pure (.ok (v, more))
      | .ok (_, _) => pure (.error "closing paren expected")
      | .error e => pure (.error e)
    | op :: arg :: rest =>
      if unaryOps.contains op then do
        pure (.ok (← unary op arg, rest))
      else
        match rest with
        | b :: more =>
          if binaryOps.contains arg then do
            match ← binary op arg b with
            | .ok v => pure (.ok (v, more))
            | .error e => pure (.error e)
          else pure (.ok (!op.isEmpty, arg :: rest))
        | [] => pure (.ok (!op.isEmpty, arg :: rest))
    | [a] =>
      if unaryOps.contains a then pure (.error (a ++ ": argument expected"))
      else pure (.ok (!a.isEmpty, []))

end

/-- `test` on its arguments (without the closing `]`): the few-argument forms
    first, then the grammar. -/
def evalTest (args : List String) : ShellM (Except String Bool) := do
  let grammar (ts : List String) : ShellM (Except String Bool) := do
    match ← orExpr (4 * ts.length + 4) ts with
    | .ok (v, []) => pure (.ok v)
    | .ok (_, t :: _) => pure (.error (t ++ ": unexpected operator"))
    | .error e => pure (.error e)
  match args with
  | [] => pure (.ok false)
  | [a] => pure (.ok (!a.isEmpty))
  | [a, b] =>
    if a == "!" then pure (.ok b.isEmpty)
    else if unaryOps.contains a then pure (.ok (← unary a b))
    else pure (.error (a ++ ": unexpected operator"))
  | [a, b, c] =>
    if binaryOps.contains b then binary a b c
    else if a == "!" then do
      if unaryOps.contains b then pure (.ok (!(← unary b c)))
      else pure (.error (b ++ ": unexpected operator"))
    else if a == "(" && c == ")" then pure (.ok (!b.isEmpty))
    else grammar args
  | [a, b, c, d] =>
    if a == "!" && binaryOps.contains c then do
      match ← binary b c d with
      | .ok v => pure (.ok (!v))
      | .error e => pure (.error e)
    else if a == "(" && d == ")" then
      if unaryOps.contains b then pure (.ok (← unary b c))
      else if b == "!" then pure (.ok c.isEmpty)
      else grammar args
    else grammar args
  | _ => grammar args

/-- `test` and `[` as the shell runs them; `name` tells which. -/
def test (name : String) (args : List String) : ShellM Nat := do
  let args? : Option (List String) :=
    if name == "[" then
      if args.getLast? == some "]" then some args.dropLast else none
    else some args
  match args? with
  | none => do complainIn name "missing ]"; pure 2
  | some xs =>
    match ← evalTest xs with
    | .ok v => pure (if v then 0 else 1)
    | .error e => do complainIn name e; pure 2

/-! ## `read` -/

/-- Whether a byte of `IFS` is a blank. -/
def isIfsBlank (b : UInt8) : Bool := b == 32 || b == 9 || b == 10

/-- A line split for `read`: one field for each name but the last, which takes
    the rest without the separating blanks around it. Bytes marked as escaped
    are never separators. -/
def readFields (ifs : List UInt8) : Nat → List (UInt8 × Bool) → List (List UInt8)
  | 0, _ => []
  | 1, cs =>
    let sep (x : UInt8 × Bool) := !x.2 && ifs.contains x.1 && isIfsBlank x.1
    let cs := cs.dropWhile sep
    let cs := (cs.reverse.dropWhile sep).reverse
    [cs.map (·.1)]
  | n + 2, cs =>
    let sep (x : UInt8 × Bool) := !x.2 && ifs.contains x.1 && isIfsBlank x.1
    let cs := cs.dropWhile sep
    let field := cs.takeWhile fun (c, e) => e || !ifs.contains c
    let rest := cs.drop field.length
    -- one separator ends the field, with the blanks around it
    let rest := rest.dropWhile sep
    let rest := match rest with
      | (c, false) :: more => if ifs.contains c && !isIfsBlank c then more.dropWhile sep else rest
      | _ => rest
    field.map (·.1) :: readFields ifs (n + 1) rest

/-- A line of input as `read` takes it: its bytes, each marked with whether a
    backslash escaped it (unless `raw`), the bytes left, and whether a line
    end closed it. A backslash before a line end joins the lines. -/
def takeLine (raw : Bool) : Nat → List UInt8 → List (UInt8 × Bool) × List UInt8 × Bool
  | 0, bs => ([], bs, false)
  | _ + 1, [] => ([], [], false)
  | fuel + 1, b :: bs =>
    if b == 10 then ([], bs, true)
    else if b == 0x5C && !raw then
      match bs with
      | 10 :: more => takeLine raw fuel more
      | c :: more =>
        let (line, rest, ended) := takeLine raw fuel more
        ((c, true) :: line, rest, ended)
      | [] => ([], [], false)
    else
      let (line, rest, ended) := takeLine raw fuel bs
      ((b, false) :: line, rest, ended)

/-- `read`. -/
def read (args : List String) : ShellM Nat := do
  let raw := args.contains "-r"
  let names := args.filter (· != "-r")
  if names.isEmpty then do complainIn "read" "arg count"; return 2
  match ← input with
  | .zeros => throw .timeout
  | .bytes d =>
    let (line, rest, ended) := takeLine raw (d.length + 1) d
    let ifs := ((← getVar "IFS").getD " \t\n").toUTF8.toList
    let fields := (readFields ifs names.length line).map Utility.textOf
    setInput (.bytes rest)
    (names.zip (fields ++ List.replicate names.length "")).forM fun (n, v) => setVar n v
    pure (if ended then 0 else 1)

/-! ## The others -/

/-- Reads the number of `exit`, `return`, `shift`, `break` or `continue`. -/
def countArg (cmd : String) (args : List String) (default : Nat) : ShellM (Option Nat) := do
  match args with
  | [] => pure (some default)
  | a :: _ =>
    if !a.isEmpty && a.all Char.isDigit then pure (some a.toNat!)
    else do
      complainIn cmd ("Illegal number: " ++ a)
      pure none

/-- `set`: options and positional parameters. -/
def setOptions (args : List String) : ShellM Nat := do
  let rec go : List String → ShellM Nat
    | [] => pure 0
    | "--" :: rest => do
      modify fun (st : Session) => { st with params := rest }
      pure 0
    | a :: rest =>
      if (a.startsWith "-" || a.startsWith "+") && a.length > 1 then do
        let on := a.startsWith "-"
        let letters := (a.drop 1).toString.toList
        if letters == ['o'] then
          match rest with
          | opt :: more => do
            if opt == "errexit" then modify fun (st : Session) => { st with errexit := on }
            else if opt == "xtrace" then modify fun (st : Session) => { st with xtrace := on }
            else if opt == "nounset" then modify fun (st : Session) => { st with nounset := on }
            go more
          | [] => pure 0
        else do
          letters.forM fun c => do
            if c == 'e' then modify fun (st : Session) => { st with errexit := on }
            else if c == 'x' then modify fun (st : Session) => { st with xtrace := on }
            else if c == 'u' then modify fun (st : Session) => { st with nounset := on }
            else pure ()
          go rest
      else do
        modify fun (st : Session) => { st with params := a :: rest }
        pure 0
  if args.isEmpty then do
    let vars := (← get).vars.mergeSort fun a b => a.1 ≤ b.1
    vars.forM fun (k, v) => emitText 1 (k ++ "='" ++ v ++ "'\n")
    pure 0
  else go args

/-- `cd`. -/
def cd (args : List String) : ShellM Nat := do
  let target ← match args with
    | d :: _ => pure (some d)
    | [] => getVar "HOME"
  match target with
  | none => do complainIn "cd" "HOME not set"; pure 2
  | some d =>
    let moved ← host do
      let h ← get
      match h.fs.resolve h.cwd ⟨d⟩ with
      | .ok (l, _) =>
        if h.fs.isDir l then do
          set { h with cwd := l }
          pure true
        else pure false
      | .error _ => pure false
    if moved then pure 0
    else do
      complainIn "cd" ("can't cd to " ++ d)
      pure 2

/-- `kill`: a signal to the shell itself ends it; other processes are not there. -/
def kill (args : List String) : ShellM Nat := do
  let (signal, pids) := match args with
    | "-s" :: sig :: rest => (signalNumber sig, rest)
    | "-n" :: sig :: rest => (signalNumber sig, rest)
    | a :: rest => if a.startsWith "-" && a.length > 1 then (signalNumber (a.drop 1).toString, rest) else (some 15, a :: rest)
    | [] => (some 15, [])
  match signal with
  | none => do
    complainIn "kill" ("invalid signal number or name: " ++ (args.head?.getD ""))
    pure 1
  | some n =>
    if pids.isEmpty then do
      complainIn "kill" "usage: kill [-s sigspec | -signum | -sigspec] [pid | job]... or\nkill -l [exitstatus]"
      return 2
    let me := toString (← get).pid
    Utility.foldItems pids 0 fun status p => do
      if p == me then
        if n == 0 then pure status else throw (.signal n)
      else if p.all Char.isDigit && !p.isEmpty then do
        complainIn "kill" "No such process"
        pure 1
      else do
        complainIn "kill" ("Illegal number: " ++ p)
        pure 2

end Builtin

end EdgePack.Shell
