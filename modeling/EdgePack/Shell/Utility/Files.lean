import EdgePack.Shell.Utility.Basic

/-!
# Utilities on files

The file utilities a script may call, each with the options scripts use and
the messages of the GNU tools in the C locale:

* `cat`: the operands' bytes, or the standard input's;
* `head`, `tail`: the first or last lines (`-n`, ten by default) or bytes
  (`-c`), with a `==> name <==` header for each of several files;
* `ls`: the names in directories, one a line, sorted, hidden ones only with
  `-a` or `-A`; files named on the line first, then each directory, under a
  header when more than one operand was given;
* `mkdir` (`-p`), `rm` (`-f`, `-r`), `cp`, `mv`, `touch`;
* `wc`: lines, words and bytes, in columns as wide as the largest count needs.

Each gives its exit status; a failure on one operand does not stop the others.
-/

namespace EdgePack.Shell

open ShellM

namespace Utility

/-- A count with an optional size suffix, as `head -c` and `head -n` read it:
    `b` is 512, `K` (or `k`, `KiB`) 1024, `kB` 1000, and so on up the powers. -/
def sizeValue (s : String) : Option Nat :=
  let ds := s.toList.takeWhile Char.isDigit
  if ds.isEmpty then none
  else
    let n := (String.ofList ds).toNat!
    let suffix := String.ofList (s.toList.drop ds.length)
    let powers : List (String × Nat) :=
      [("", 1), ("b", 512), ("K", 1024), ("k", 1024), ("KiB", 1024), ("kB", 1000), ("KB", 1000),
       ("M", Nat.pow 1024 2), ("m", Nat.pow 1024 2), ("MiB", Nat.pow 1024 2), ("MB", Nat.pow 1000 2),
       ("G", Nat.pow 1024 3), ("g", Nat.pow 1024 3), ("GiB", Nat.pow 1024 3), ("GB", Nat.pow 1000 3)]
    (powers.find? (·.1 == suffix)).map fun (_, m) => n * m

/-- How much `head` or `tail` takes: bytes or lines, a count, and whether the
    count is measured from the other end (`-c -5`, `tail -n +3`). -/
structure Amount where
  bytes : Bool
  count : Nat
  other : Bool

/-- The first part of a source that `head` writes. -/
def headOf (a : Amount) (src : Source) : ShellM (List UInt8) := do
  if a.bytes then
    if a.other then
      let d ← drain src
      pure (d.take (d.length - a.count))
    else pure (src.split a.count).1
  else
    let d ← drain src
    let ls := lines d
    pure (if a.other then (ls.take (ls.length - a.count)).flatten else (ls.take a.count).flatten)

/-- The last part of a source that `tail` writes. -/
def tailOf (a : Amount) (src : Source) : ShellM (List UInt8) := do
  let d ← drain src
  if a.bytes then
    pure (if a.other then d.drop (a.count - 1) else d.drop (d.length - a.count))
  else
    let ls := lines d
    pure (if a.other then (ls.drop (a.count - 1)).flatten else (ls.drop (ls.length - a.count)).flatten)

/-- `head` or `tail` (`last`), as called by `name`. -/
def headTail (last : Bool) (name : String) (args : List String) : ShellM Nat := do
  -- the old form: a dash and a count first
  let args := match args with
    | a :: rest =>
      if a.length > 1 && a.startsWith "-" && ((a.drop 1).toString.toList.all Char.isDigit) then
        "-n" :: (a.drop 1).toString :: rest
      else args
    | [] => []
  match Options.split ['c', 'n', 'q', 'v'] ['c', 'n'] (args.length + 1) {} args with
  | .error (.inl c) => do badOption name c; pure 1
  | .error (.inr c) => do missingValue name c; pure 1
  | .ok o =>
    let (bytes, text) := match o.value? 'c', o.value? 'n' with
      | some v, none => (true, v)
      | _, some v => (false, v)
      | none, none => (false, "10")
    let other := text.startsWith (if last then "+" else "-")
    let digits := if text.startsWith "-" || text.startsWith "+" then (text.drop 1).toString else text
    match sizeValue digits with
    | none =>
      complainAs name ("invalid number of " ++ (if bytes then "bytes" else "lines") ++ ": " ++ quoteAlways text)
      pure 1
    | some count =>
      let amount : Amount := ⟨bytes, count, other⟩
      let files := if o.operands.isEmpty then ["-"] else o.operands
      let headers := (files.length > 1 && !o.has 'q') || o.has 'v'
      let rec each : List String → Bool → Nat → ShellM Nat
        | [], _, status => pure status
        | f :: rest, first, status => do
          let shown := if f == "-" then "standard input" else f
          match ← openOperand f with
          | .error e => do
            complainAs name ("cannot open " ++ quoteAlways f ++ " for reading: " ++ errorWords e)
            each rest first 1
          | .ok src => do
            if headers then putText ((if first then "" else "\n") ++ "==> " ++ shown ++ " <==\n")
            let part ← if last then tailOf amount src else headOf amount src
            put part
            each rest false status
      each files true 0

/-- `cat`. -/
def cat (name : String) (args : List String) : ShellM Nat := do
  match Options.split ['u'] [] (args.length + 1) {} args with
  | .error (.inl c) => do badOption name c; pure 1
  | .error (.inr c) => do badOption name c; pure 1
  | .ok o =>
    let files := if o.operands.isEmpty then ["-"] else o.operands
    foldItems files 0 fun status f => do
      if ← host (Host.isDir ⟨f⟩) then
        complainAs name (quoteIfNeeded f ++ ": Is a directory")
        pure 1
      else
        match ← openOperand f with
        | .error e => do
          complainAs name (quoteIfNeeded f ++ ": " ++ errorWords e)
          pure 1
        | .ok src => do
          put (← drain src)
          pure status

/-- The names `ls` shows in a directory. -/
def shownNames (all almostAll : Bool) (names : List String) : List String :=
  let visible := names.filter fun n => all || almostAll || !n.startsWith "."
  if all then "." :: ".." :: visible else visible

/-- `ls`. -/
def ls (name : String) (args : List String) : ShellM Nat := do
  match Options.split ['1', 'a', 'A', 'd', 'r', 'U', 'f'] [] (args.length + 1) {} args with
  | .error (.inl c) => do badOption name c; pure 2
  | .error (.inr c) => do badOption name c; pure 2
  | .ok o =>
    let operands := if o.operands.isEmpty then ["."] else o.operands
    let order (xs : List String) : List String :=
      let sorted := xs.mergeSort (· ≤ ·)
      if o.has 'r' then sorted.reverse else sorted
    let (status, files, dirs) ← foldItems operands (0, [], []) fun (st, fs, ds) p => do
      if !(← host (Host.exists_ ⟨p⟩)) then
        complainAs name ("cannot access " ++ quoteAlways p ++ ": No such file or directory")
        pure (2, fs, ds)
      else if (← host (Host.isDir ⟨p⟩)) && !o.has 'd' then pure (st, fs, ds ++ [p])
      else pure (st, fs ++ [p], ds)
    let files := order files
    let dirs := order dirs
    putText (String.join (files.map (· ++ "\n")))
    let headed := !(operands.length ≤ 1 && files.isEmpty && dirs.length == 1)
    if !files.isEmpty && !dirs.isEmpty then putText "\n"
    let (status, _) ← foldItems dirs (status, true) fun (st, first) d => do
      if headed then putText ((if first then "" else "\n") ++ d ++ ":\n")
      match ← host (Host.listDir ⟨d⟩) with
      | .ok names =>
        putText (String.join ((order (shownNames (o.has 'a') (o.has 'A') names)).map (· ++ "\n")))
        pure (st, false)
      | .error e =>
        complainAs name ("cannot open directory " ++ quoteAlways d ++ ": " ++ errorWords e)
        pure (2, false)
    pure status

/-- `mkdir`. -/
def mkdir (name : String) (args : List String) : ShellM Nat := do
  match Options.split ['p', 'v', 'm'] ['m'] (args.length + 1) {} args with
  | .error (.inl c) => do badOption name c; pure 1
  | .error (.inr c) => do missingValue name c; pure 1
  | .ok o =>
    if o.operands.isEmpty then do missingOperand name; return 1
    foldItems o.operands 0 fun status d => do
      let r ← if o.has 'p' then host (Host.createDirAll ⟨d⟩) else host (Host.createDir ⟨d⟩)
      match r with
      | .ok () => pure status
      | .error e => do
        complainAs name ("cannot create directory " ++ quoteAlways d ++ ": " ++ errorWords e)
        pure 1

/-- `rm`. -/
def rm (name : String) (args : List String) : ShellM Nat := do
  match Options.split ['f', 'r', 'R', 'v', 'i', 'd'] [] (args.length + 1) {} args with
  | .error (.inl c) => do badOption name c; pure 1
  | .error (.inr c) => do badOption name c; pure 1
  | .ok o =>
    let force := o.has 'f'
    let recursive := o.has 'r' || o.has 'R'
    if o.operands.isEmpty && !force then do missingOperand name; return 1
    foldItems o.operands 0 fun status p => do
      if !(← host (Host.exists_ ⟨p⟩)) then
        if force then pure status
        else do
          complainAs name ("cannot remove " ++ quoteAlways p ++ ": No such file or directory")
          pure 1
      else if ← host (Host.isDir ⟨p⟩) then
        if recursive then do
          discard <| host (Host.removeAll ⟨p⟩)
          pure status
        else do
          complainAs name ("cannot remove " ++ quoteAlways p ++ ": Is a directory")
          pure 1
      else do
        match ← host (Host.removeFile ⟨p⟩) with
        | .ok () => pure status
        | .error e => do
          complainAs name ("cannot remove " ++ quoteAlways p ++ ": " ++ errorWords e)
          pure 1

/-- The last component of a path, as `basename` gives it. -/
def lastName (p : String) : String :=
  let trimmed := String.ofList (p.toList.reverse.dropWhile (· == '/')).reverse
  if trimmed.isEmpty then (if p.isEmpty then "" else "/")
  else (trimmed.splitOn "/").getLast?.getD trimmed

/-- Where a copy or move of `src` goes: into `dst` when it is a directory. -/
def destination (src dst : String) : ShellM String := do
  if ← host (Host.isDir ⟨dst⟩) then
    pure (if dst.endsWith "/" then dst ++ lastName src else dst ++ "/" ++ lastName src)
  else pure dst

/-- `cp` (`move` false) or `mv` (`move` true). -/
def copyMove (move : Bool) (name : String) (args : List String) : ShellM Nat := do
  match Options.split ['r', 'R', 'f', 'p', 'a', 'v', 'i', 'n'] [] (args.length + 1) {} args with
  | .error (.inl c) => do badOption name c; pure 1
  | .error (.inr c) => do badOption name c; pure 1
  | .ok o =>
    match o.operands.reverse with
    | [] => do
      complainAs name "missing file operand"
      emitText 2 ("Try '" ++ name ++ " --help' for more information.\n")
      pure 1
    | [only] => do
      complainAs name ("missing destination file operand after " ++ quoteAlways only)
      emitText 2 ("Try '" ++ name ++ " --help' for more information.\n")
      pure 1
    | dst :: srcsRev =>
      let srcs := srcsRev.reverse
      if srcs.length > 1 && !(← host (Host.isDir ⟨dst⟩)) then do
        complainAs name ("target " ++ quoteAlways dst ++ " is not a directory")
        return 1
      foldItems srcs 0 fun status src => do
        if !(← host (Host.exists_ ⟨src⟩)) then do
          complainAs name ("cannot stat " ++ quoteAlways src ++ ": No such file or directory")
          pure 1
        else if (← host (Host.isDir ⟨src⟩)) && !move && !(o.has 'r' || o.has 'R' || o.has 'a') then do
          complainAs name ("-r not specified; omitting directory " ++ quoteAlways src)
          pure 1
        else do
          let target ← destination src dst
          let r ← if move then host (Host.rename ⟨src⟩ ⟨target⟩)
            else do
              match ← host (Host.copyFile ⟨src⟩ ⟨target⟩) with
              | .ok _ => pure (.ok ())
              | .error e => pure (.error e)
          match r with
          | .ok () => pure status
          | .error e => do
            let verb := if move then "cannot move " ++ quoteAlways src ++ " to " else "cannot create regular file "
            complainAs name (verb ++ quoteAlways target ++ ": " ++ errorWords e)
            pure 1

/-- `touch`. -/
def touch (name : String) (args : List String) : ShellM Nat := do
  match Options.split ['a', 'c', 'm'] [] (args.length + 1) {} args with
  | .error (.inl c) => do badOption name c; pure 1
  | .error (.inr c) => do badOption name c; pure 1
  | .ok o =>
    if o.operands.isEmpty then do
      complainAs name "missing file operand"
      emitText 2 ("Try '" ++ name ++ " --help' for more information.\n")
      return 1
    foldItems o.operands 0 fun status p => do
      if ← host (Host.exists_ ⟨p⟩) then pure status
      else if o.has 'c' then pure status
      else
        match ← host (Host.writeBytes ⟨p⟩ .empty) with
        | .ok () => pure status
        | .error e => do
          complainAs name ("cannot touch " ++ quoteAlways p ++ ": " ++ errorWords e)
          pure 1

/-- The counts of `wc`: lines, words, characters and bytes. -/
def counts (bs : List UInt8) : List Nat :=
  let lineCount := bs.count 10
  let blank (b : UInt8) := b == 32 || (9 ≤ b && b ≤ 13)
  let (words, _) := bs.foldl (fun (n, inWord) b => if blank b then (n, false) else if inWord then (n, true) else (n + 1, true)) (0, false)
  let chars := (textOf bs).length
  [lineCount, words, chars, bs.length]

/-- `wc`. -/
def wc (name : String) (args : List String) : ShellM Nat := do
  match Options.split ['c', 'l', 'w', 'm'] [] (args.length + 1) {} args with
  | .error (.inl c) => do badOption name c; pure 1
  | .error (.inr c) => do badOption name c; pure 1
  | .ok o =>
    let chosen := if o.has 'l' || o.has 'w' || o.has 'm' || o.has 'c' then
        [o.has 'l', o.has 'w', o.has 'm', o.has 'c']
      else [true, true, false, true]
    let files := if o.operands.isEmpty then ["-"] else o.operands
    let (status, rows, piped) ← foldItems files (0, [], false) fun (st, rows, piped) f => do
      match ← openOperand f with
      | .error e => do
        complainAs name (quoteIfNeeded f ++ ": " ++ errorWords e)
        pure (1, rows, piped)
      | .ok src => do
        let d ← drain src
        let cs := counts d
        let picked := (cs.zip chosen).filterMap fun (n, keep) => if keep then some n else none
        pure (st, rows ++ [(picked, if f == "-" then "" else f)], piped || f == "-")
    let totals := (List.range (chosen.filter id).length).map fun i =>
      rows.foldl (fun s r => s + (r.1[i]?.getD 0)) 0
    let rows := if rows.length > 1 then rows ++ [(totals, "total")] else rows
    let single := (chosen.filter id).length == 1 && rows.length == 1
    let width := if single then 1
      else if piped then 7
      else max 1 (toString ((totals.getLast?).getD 0)).length
    let padTo (n : Nat) : String :=
      let s := toString n
      String.ofList (List.replicate (width - s.length) ' ') ++ s
    rows.forM fun (ns, label) =>
      putText (" ".intercalate (ns.map padTo) ++ (if label.isEmpty then "" else " " ++ label) ++ "\n")
    pure status

end Utility

end EdgePack.Shell
