import EdgePack.Shell.Utility.Basic
import EdgePack.Shell.Regex

/-!
# The stream editor

`sed` reads its input line by line into a pattern space, runs its script on
each line, and writes the pattern space after it unless `-n` was given. A
script is commands separated by `;` or line ends, each with up to two
addresses (a line number, `$` for the last line, or `/regex/`), a `!` to run
where they do not match, and one of:

* `s/regex/replacement/flags`: the first match (the `N`-th, or all of them
  with `g`) replaced; `&` in the replacement is the match and `\1`…`\9` its
  groups; `p` writes the result, `I` ignores case;
* `d`: the line is dropped and the next one starts;
* `p`: the pattern space written;
* `q [code]`: the pattern space written and the editor stops;
* `=`: the line number written;
* `y/abc/xyz/`: characters translated.

Expressions are basic regular expressions, extended ones with `-E` or `-r`.
A line that ended the input without a line end is written without one.
-/

namespace EdgePack.Shell

open ShellM

namespace Sed

/-- Where a command applies. -/
inductive Address where
  | line (n : Nat)
  | last
  | pattern (re : Regex.Compiled)
  deriving Inhabited

/-- A piece of a replacement. -/
inductive Piece where
  | text (c : Char)
  | whole
  | group (n : Nat)
  deriving Inhabited

/-- What a command does. -/
inductive Action where
  | substitute (re : Regex.Compiled) (icase : Bool) (replacement : List Piece) (global : Bool) (nth : Nat) (print : Bool)
  | delete
  | print
  | quit (code : Nat)
  | lineNumber
  | translate (pairs : List (Char × Char))
  deriving Inhabited

/-- A command: its addresses, whether it is negated, and its action. -/
structure Command where
  first : Option Address
  second : Option Address
  negate : Bool
  action : Action
  deriving Inhabited

/-- A script's complaint: the character where it was found and the words. -/
structure Fault where
  at_ : Nat
  words : String

/-- The state of reading a script: the characters left and how many were read. -/
structure Cursor where
  rest : List Char
  read : Nat

/-- Moves on by `n` characters. -/
def Cursor.skip (c : Cursor) (n : Nat) : Cursor := ⟨c.rest.drop n, c.read + n⟩

/-- Skips blanks (and, where commands may start, line ends and `;`). -/
def Cursor.blanks (c : Cursor) (seps : Bool) : Cursor :=
  let n := (c.rest.takeWhile fun x => x == ' ' || x == '\t' || (seps && (x == '\n' || x == ';'))).length
  c.skip n

/-- The text up to an unescaped delimiter, with `\delimiter` read as the
    delimiter itself and `\n` as a line end when `unescape` asks it; and the
    cursor after the delimiter. -/
def delimited (delim : Char) (regex : Bool) : Nat → List Char → Cursor → Option (String × Cursor)
  | 0, _, _ => none
  | fuel + 1, acc, c =>
    match c.rest with
    | [] => none
    | x :: rest =>
      if x == delim then some (String.ofList acc.reverse, c.skip 1)
      else if x == '\\' then
        match rest with
        | y :: _ =>
          if y == delim then delimited delim regex fuel (y :: acc) (c.skip 2)
          else if y == 'n' && regex then delimited delim regex fuel ('\n' :: acc) (c.skip 2)
          else delimited delim regex fuel (y :: '\\' :: acc) (c.skip 2)
        | [] => none
      else delimited delim regex fuel (x :: acc) (c.skip 1)

/-- The pieces of a replacement text. -/
def replacement : List Char → List Piece
  | [] => []
  | '&' :: rest => .whole :: replacement rest
  | '\\' :: c :: rest =>
    if c.isDigit then .group (c.toNat - '0'.toNat) :: replacement rest
    else if c == 'n' then .text '\n' :: replacement rest
    else if c == 't' then .text '\t' :: replacement rest
    else .text c :: replacement rest
  | c :: rest => .text c :: replacement rest

/-- An address at the cursor, if one is there. -/
def address (extended : Bool) (c : Cursor) : Except Fault (Option Address × Cursor) :=
  match c.rest with
  | '$' :: _ => .ok (some .last, c.skip 1)
  | '/' :: _ =>
    match delimited '/' true (c.rest.length + 1) [] (c.skip 1) with
    | some (src, c') =>
      match Regex.compile extended src with
      | .ok re => .ok (some (.pattern re), c')
      | .error e => .error ⟨c'.read, e⟩
    | none => .error ⟨c.read + c.rest.length, "unterminated address regex"⟩
  | x :: _ =>
    if x.isDigit then
      let ds := c.rest.takeWhile Char.isDigit
      .ok (some (.line (String.ofList ds).toNat!), c.skip ds.length)
    else .ok (none, c)
  | [] => .ok (none, c)

/-- The flags of an `s` command, up to the end of the command. -/
def substituteFlags : Nat → (Bool × Nat × Bool × Bool) → Cursor → Except Fault ((Bool × Nat × Bool × Bool) × Cursor)
  | 0, f, c => .ok (f, c)
  | fuel + 1, (g, n, p, i), c =>
    match c.rest with
    | [] => .ok ((g, n, p, i), c)
    | x :: _ =>
      if x == 'g' then substituteFlags fuel (true, n, p, i) (c.skip 1)
      else if x == 'p' then substituteFlags fuel (g, n, true, i) (c.skip 1)
      else if x == 'I' || x == 'i' then substituteFlags fuel (g, n, p, true) (c.skip 1)
      else if x.isDigit then
        let ds := c.rest.takeWhile Char.isDigit
        substituteFlags fuel (g, (String.ofList ds).toNat!, p, i) (c.skip ds.length)
      else if x == ';' || x == '\n' || x == ' ' || x == '\x7d' || x == '\t' then .ok ((g, n, p, i), c)
      else .error ⟨c.read + 1, "unknown option to `s'"⟩

/-- The commands of a script. -/
def commands (extended : Bool) : Nat → List Command → Cursor → Except Fault (List Command)
  | 0, acc, _ => .ok acc.reverse
  | fuel + 1, acc, c0 => do
    let c := c0.blanks true
    if c.rest.isEmpty then return acc.reverse
    let (first, c) ← address extended c
    let (second, c) ← match first, c.rest with
      | some _, ',' :: _ => do
        let (a, c') ← address extended (c.skip 1)
        match a with
        | some a => pure (some a, c')
        | none => throw ⟨c'.read, "unexpected `,'"⟩
      | _, _ => pure (none, c)
    let c := c.blanks false
    let (negate, c) := match c.rest with
      | '!' :: _ => (true, (c.skip 1).blanks false)
      | _ => (false, c)
    match c.rest with
    | [] => throw ⟨c.read, "missing command"⟩
    | x :: _ =>
      let c := c.skip 1
      let done (a : Action) (c : Cursor) := commands extended fuel (⟨first, second, negate, a⟩ :: acc) c
      if x == 's' || x == 'y' then
        match c.rest with
        | [] => throw ⟨c.read, "unterminated `" ++ String.singleton x ++ "' command"⟩
        | delim :: _ =>
          let c := c.skip 1
          let total := c.read + c.rest.length
          match delimited delim true (c.rest.length + 1) [] c with
          | none => throw ⟨total, "unterminated `" ++ String.singleton x ++ "' command"⟩
          | some (pat, c) =>
            match delimited delim false (c.rest.length + 1) [] c with
            | none => throw ⟨total, "unterminated `" ++ String.singleton x ++ "' command"⟩
            | some (rep, c) =>
              if x == 'y' then
                let a := pat.toList
                let b := rep.toList
                if a.length != b.length then throw ⟨c.read, "strings for `y' command are different lengths"⟩
                else done (.translate (a.zip b)) c
              else do
                let ((g, n, p, i), c) ← substituteFlags (c.rest.length + 1) (false, 1, false, false) c
                match Regex.compile extended pat with
                | .ok re => done (.substitute re i (replacement rep.toList) g (max n 1) p) c
                | .error e => throw ⟨c.read, e⟩
      else if x == 'd' then done .delete c
      else if x == 'p' then done .print c
      else if x == '=' then done .lineNumber c
      else if x == 'q' then
        let c := c.blanks false
        let ds := c.rest.takeWhile Char.isDigit
        done (.quit (if ds.isEmpty then 0 else (String.ofList ds).toNat!)) (c.skip ds.length)
      else throw ⟨c.read, "unknown command: `" ++ String.singleton x ++ "'"⟩

/-- The text of a replacement for a match. -/
def replaceText (input : List Char) (f : Regex.Found) (rep : List Piece) : List Char :=
  rep.flatMap fun p => match p with
    | .text c => [c]
    | .whole => (input.drop f.start).take (f.stop - f.start)
    | .group n =>
      match (f.groups.find? (·.1 == n)) with
      | some (_, a, b) => (input.drop a).take (b - a)
      | none => []

/-- A line with its matches replaced: the first, the `nth`, or every one from
    the `nth` on when `global`. Gives the new line and whether anything was
    replaced. -/
def substitute (re : Regex.Compiled) (icase : Bool) (rep : List Piece) (global : Bool) (nth : Nat)
    (line : List Char) : List Char × Bool :=
  let rec go : Nat → Nat → Nat → List Char → Bool → List Char × Bool
    | 0, _, _, acc, changed => (acc, changed)
    | fuel + 1, pos, count, acc, changed =>
      match Regex.search re icase line pos with
      | none => (acc ++ line.drop pos, changed)
      | some f =>
        let before := (line.drop pos).take (f.start - pos)
        let matched := (line.drop f.start).take (f.stop - f.start)
        let replaceIt := count + 1 ≥ nth
        let piece := if replaceIt then replaceText line f rep else matched
        let acc := acc ++ before ++ piece
        let changed := changed || replaceIt
        if replaceIt && !global then (acc ++ line.drop f.stop, changed)
        else if f.stop == f.start then
          -- an empty match: the next character stays and the search goes on after it
          match line.drop f.stop with
          | c :: _ => go fuel (f.stop + 1) (count + 1) (acc ++ [c]) changed
          | [] => (acc, changed)
        else go fuel f.stop (count + 1) acc changed
  go (line.length + 2) 0 0 [] false

/-- Whether an address matches a line. -/
def Address.holds (a : Address) (number : Nat) (isLast : Bool) (line : List Char) : Bool :=
  match a with
  | .line n => number == n
  | .last => isLast
  | .pattern re => (Regex.search re false line 0).isSome

/-- What running the script on a line gave: the output so far, the pattern
    space (none when deleted), and whether to stop with a code. -/
structure Outcome where
  output : List Char
  space : Option (List Char)
  quit : Option Nat

/-- Runs the commands on one line; `ranges` holds, for each command, whether
    its range is open. -/
def runLine (cmds : List Command) (quiet : Bool) (number : Nat) (isLast : Bool) (ended : Bool)
    (ranges : List Bool) (line : List Char) : Outcome × List Bool :=
  let newline := if ended then ['\n'] else []
  let step (acc : Outcome × List Bool × Nat) (cmd : Command) : Outcome × List Bool × Nat :=
    let (o, rs, i) := acc
    match o.space, o.quit with
    | some space, none =>
      let openNow := rs[i]?.getD false
      let (hit, open') := match cmd.first, cmd.second with
        | none, _ => (true, false)
        | some a, none => (a.holds number isLast space, false)
        | some a, some b =>
          if openNow then
            let closes : Bool := match b with
              | .line n => decide (number ≥ n)
              | _ => b.holds number isLast space
            (true, !closes)
          else if a.holds number isLast space then
            let closesAtOnce : Bool := match b with
              | .line n => decide (number ≥ n)
              | _ => false
            (true, !closesAtOnce)
          else (false, false)
      let rs := rs.set i open'
      if hit == cmd.negate then (o, rs, i + 1)
      else
        let o := match cmd.action with
          | .substitute re icase rep g nth p =>
            let (s', changed) := substitute re icase rep g nth space
            { o with space := some s', output := o.output ++ (if p && changed then s' ++ newline else []) }
          | .delete => { o with space := none }
          | .print => { o with output := o.output ++ space ++ newline }
          | .quit code => { o with quit := some code }
          | .lineNumber => { o with output := o.output ++ (toString number).toList ++ ['\n'] }
          | .translate pairs =>
            { o with space := some (space.map fun c => ((pairs.find? (fun (x : Char × Char) => x.1 == c)).map (fun (x : Char × Char) => x.2)).getD c) }
        (o, rs, i + 1)
    | _, _ => (o, rs, i + 1)
  let (o, rs, _) := cmds.foldl step (⟨[], some line, none⟩, ranges, 0)
  let final := match o.space with
    | some s => if quiet then [] else s ++ newline
    | none => []
  ({ o with output := o.output ++ final }, rs)

/-- Runs the script over lines (each with whether it ended with a line end),
    numbering from `start`; gives the output and the code to stop with, if any. -/
def runLines (cmds : List Command) (quiet : Bool) (lines : List (List Char × Bool)) : List Char × Option Nat :=
  let rec go : List (List Char × Bool) → Nat → List Bool → List Char → List Char × Option Nat
    | [], _, _, out => (out, none)
    | (l, ended) :: rest, n, rs, out =>
      let (o, rs) := runLine cmds quiet n rest.isEmpty ended rs l
      match o.quit with
      | some code => (out ++ o.output, some code)
      | none => go rest (n + 1) rs (out ++ o.output)
  go lines 1 (cmds.map fun _ => false) []

/-- The lines of a text, each with whether a line end closed it. -/
def splitLines (bs : List UInt8) : List (List Char × Bool) :=
  (Utility.lines bs).map fun l =>
    if l.getLast? == some 10 then ((Utility.textOf l.dropLast).toList, true)
    else ((Utility.textOf l).toList, false)

end Sed

open Utility in
/-- `sed`. -/
def Utility.sed (name : String) (args : List String) : ShellM Nat := do
  match Options.split ['n', 'e', 'E', 'r', 'i', 's', 'u', 'z'] ['e'] (args.length + 1) {} args with
  | .error (.inl c) => do
    complainAs name ("invalid option -- '" ++ String.singleton c ++ "'")
    pure 1
  | .error (.inr c) => do
    complainAs name ("option requires an argument -- '" ++ String.singleton c ++ "'")
    pure 1
  | .ok o =>
    let scripts := (o.flags.filter (·.1 == 'e')).map (·.2)
    let (script, files) := if scripts.isEmpty then
        match o.operands with
        | s :: rest => (some s, rest)
        | [] => (none, [])
      else (some ("\n".intercalate scripts), o.operands)
    match script with
    | none => do
      emitText 2 ("Usage: " ++ name ++ " [OPTION]... \x7bscript-only-if-no-other-script\x7d [input-file]...\n")
      pure 1
    | some text =>
      let extended := o.has 'E' || o.has 'r'
      match Sed.commands extended (text.length + 1) [] ⟨text.toList, 0⟩ with
      | .error f => do
        complainAs name ("-e expression #1, char " ++ toString f.at_ ++ ": " ++ f.words)
        pure 1
      | .ok cmds =>
        let quiet := o.has 'n'
        if o.has 'i' then
          foldItems files 0 fun status f => do
            match ← host (Host.readBytes ⟨f⟩) with
            | .error e => do
              complainAs name ("can't read " ++ f ++ ": " ++ errorWords e)
              pure 2
            | .ok d => do
              let (out, _) := Sed.runLines cmds quiet (Sed.splitLines d.toList)
              discard <| host (Host.writeBytes ⟨f⟩ (String.ofList out).toUTF8)
              pure status
        else do
          let inputs := if files.isEmpty then ["-"] else files
          let (status, all) ← foldItems inputs (0, []) fun (st, acc) f => do
            match ← openOperand f with
            | .error e => do
              complainAs name ("can't read " ++ f ++ ": " ++ errorWords e)
              pure (2, acc)
            | .ok src => do
              let d ← drain src
              pure (st, acc ++ d)
          let (out, quit) := Sed.runLines cmds quiet (Sed.splitLines all)
          putText (String.ofList out)
          pure (quit.getD status)

end EdgePack.Shell
