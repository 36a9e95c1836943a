import EdgePack.Shell.Utility.Files
import EdgePack.Shell.Regex
import EdgePack.Shell.Format

/-!
# Utilities on text and numbers

* `grep`: the lines that match a pattern (`-v` the others), counted with
  `-c`, numbered with `-n`, silent with `-q`; the status tells whether any did;
* `tr`: characters translated, deleted (`-d`) or squeezed (`-s`), with ranges,
  classes and escapes in the sets;
* `seq`: whole numbers from a first to a last, by a step;
* `basename`, `dirname`: the parts of a path;
* `sleep`: time passing, in seconds with an optional unit;
* `echo` and `printf` as programs of their own, `true` and `false`.
-/

namespace EdgePack.Shell

open ShellM

namespace Utility

/-- `grep`. -/
def grep (name : String) (args : List String) : ShellM Nat := do
  match Options.split ['q', 'v', 'c', 'n', 'i', 'E', 'F', 'x', 's', 'h', 'H', 'l', 'e'] ['e'] (args.length + 1) {} args with
  | .error (.inl c) => do
    complainAs name ("invalid option -- '" ++ String.singleton c ++ "'")
    emitText 2 ("Usage: grep [OPTION]... PATTERNS [FILE]...\nTry 'grep --help' for more information.\n")
    pure 2
  | .error (.inr c) => do
    complainAs name ("option requires an argument -- '" ++ String.singleton c ++ "'")
    emitText 2 ("Usage: grep [OPTION]... PATTERNS [FILE]...\nTry 'grep --help' for more information.\n")
    pure 2
  | .ok o =>
    let (pattern, files) := match o.value? 'e' with
      | some p => (some p, o.operands)
      | none => match o.operands with
        | p :: rest => (some p, rest)
        | [] => (none, [])
    match pattern with
    | none => do
      emitText 2 ("Usage: grep [OPTION]... PATTERNS [FILE]...\nTry 'grep --help' for more information.\n")
      pure 2
    | some pat =>
      let compiled : Except String Regex.Compiled :=
        if o.has 'F' then .ok ⟨[pat.toList.map Regex.char], pat.length⟩
        else Regex.compile (o.has 'E') pat
      match compiled with
      | .error e => do
        complainAs name e
        pure 2
      | .ok re =>
        let re : Regex.Compiled :=
          if o.has 'x' then ⟨[[Regex.start, .alt re.branches, .finish]], re.size + 2⟩ else re
        let inputs := if files.isEmpty then ["-"] else files
        let named := (inputs.length > 1 && !o.has 'h') || o.has 'H'
        let (status, any) ← foldItems inputs (1, false) fun (st, any) f => do
          match ← openOperand f with
          | .error e => do
            if !o.has 's' then complainAs name (f ++ ": " ++ errorWords e)
            pure (2, any)
          | .ok src => do
            let d ← drain src
            let ls := (lines d).map fun l =>
              (Utf8.decodeLossy ⟨(if l.getLast? == some 10 then l.dropLast else l).toArray⟩)
            let numbered := (List.range ls.length).zip ls
            let picked := numbered.filter fun (_, l) =>
              (Regex.search re (o.has 'i') l.toList 0).isSome != o.has 'v'
            let shown := if f == "-" then "(standard input)" else f
            if o.has 'q' then pure ()
            else if o.has 'l' then (if picked.isEmpty then pure () else putText (shown ++ "\n"))
            else if o.has 'c' then putText ((if named then shown ++ ":" else "") ++ toString picked.length ++ "\n")
            else
              picked.forM fun (i, l) =>
                putText ((if named then shown ++ ":" else "") ++ (if o.has 'n' then toString (i + 1) ++ ":" else "") ++ l ++ "\n")
            pure (if st == 2 then 2 else if picked.isEmpty then st else 0, any || !picked.isEmpty)
        pure (if o.has 'q' && any then 0 else status)

/-- The characters of a `tr` set: ranges, classes and escapes spelled out. -/
def trSet : Nat → List Char → List Char
  | 0, _ => []
  | _ + 1, [] => []
  | fuel + 1, '[' :: ':' :: rest =>
    let name := rest.takeWhile (· != ':')
    match rest.drop name.length with
    | ':' :: ']' :: more =>
      let ranges := Regex.classRanges (String.ofList name)
      (ranges.flatMap fun (lo, hi) => (List.range (hi.toNat + 1 - lo.toNat)).map fun k => Char.ofNat (lo.toNat + k))
        ++ trSet fuel more
    | _ => '[' :: trSet fuel (':' :: rest)
  | fuel + 1, '\\' :: c :: rest =>
    let (ch, more) : Char × List Char :=
      if Format.isOctal c then
        let (b, after) := Format.octal 3 (c :: rest)
        (Char.ofNat b.toNat, after)
      else match Format.letterEscape c with
        | some b => (Char.ofNat b.toNat, rest)
        | none => (c, rest)
    match more with
    | '-' :: hi :: after =>
      if hi.toNat ≥ ch.toNat then
        (List.range (hi.toNat + 1 - ch.toNat)).map (fun k => Char.ofNat (ch.toNat + k)) ++ trSet fuel after
      else ch :: trSet fuel more
    | _ => ch :: trSet fuel more
  | fuel + 1, c :: '-' :: hi :: rest =>
    if hi.toNat ≥ c.toNat then
      (List.range (hi.toNat + 1 - c.toNat)).map (fun k => Char.ofNat (c.toNat + k)) ++ trSet fuel rest
    else c :: trSet fuel ('-' :: hi :: rest)
  | fuel + 1, c :: rest => c :: trSet fuel rest

/-- Characters with runs of those in `squeeze` cut to one. -/
def squeezeRuns (squeeze : List Char) (cs : List Char) : List Char :=
  (cs.foldl (fun (acc : List Char) c =>
    match acc with
    | p :: _ => if p == c && squeeze.contains c then acc else c :: acc
    | [] => [c]) []).reverse

/-- `tr`. -/
def tr (name : String) (args : List String) : ShellM Nat := do
  match Options.split ['d', 's', 'c', 'C'] [] (args.length + 1) {} args with
  | .error (.inl c) => do badOption name c; pure 1
  | .error (.inr c) => do badOption name c; pure 1
  | .ok o =>
    let sets := o.operands.map fun s => trSet (s.length + 1) s.toList
    let d ← drain (← input)
    setInput (.bytes [])
    let text := (textOf d).toList
    let out ← match sets, o.has 'd', o.has 's' with
      | [s1], true, false => pure (some (text.filter fun c => !s1.contains c))
      | [s1, s2], true, true => pure (some (squeezeRuns s2 (text.filter fun c => !s1.contains c)))
      | [s1], false, true => pure (some (squeezeRuns s1 text))
      | [s1, s2], false, squeeze =>
        let s2 := if s2.isEmpty then s2 else s2 ++ List.replicate (s1.length - s2.length) (s2.getLast?.getD ' ')
        let mapped := text.map fun c =>
          match (s1.zip s2).reverse.find? (·.1 == c) with
          | some (_, t) => t
          | none => c
        pure (some (if squeeze then squeezeRuns s2 mapped else mapped))
      | [], _, _ => do
        missingOperand name
        pure none
      | _, _, _ => do
        complainAs name ("extra operand " ++ quoteAlways (o.operands.getLast?.getD ""))
        emitText 2 ("Try '" ++ name ++ " --help' for more information.\n")
        pure none
    match out with
    | some cs => do putText (String.ofList cs); pure 0
    | none => pure 1

/-- A whole number as `seq` reads it. -/
def seqNumber (s : String) : Option Int :=
  if s.startsWith "-" then ((s.drop 1).toString.toNat?).map fun n => -(n : Int)
  else if s.startsWith "+" then ((s.drop 1).toString.toNat?).map fun n => (n : Int)
  else s.toNat?.map fun n => (n : Int)

/-- `seq`. -/
def seq (name : String) (args : List String) : ShellM Nat := do
  -- a negative number is an operand, not an option
  let (sep, rest) := match args with
    | "-s" :: s :: more => (s, more)
    | more => ("\n", more)
  let nums := rest.map seqNumber
  match rest.zip nums |>.find? (·.2.isNone) with
  | some (bad, _) => do
    complainAs name ("invalid floating point argument: " ++ quoteAlways bad)
    emitText 2 ("Try '" ++ name ++ " --help' for more information.\n")
    pure 1
  | none =>
    let ns := nums.filterMap id
    let (first, step, last) := match ns with
      | [l] => (some 1, some 1, some l)
      | [f, l] => (some f, some 1, some l)
      | [f, s, l] => (some f, some s, some l)
      | _ => (none, none, none)
    match first, step, last with
    | some f, some s, some l =>
      if s == 0 then do
        complainAs name ("invalid Zero increment value: " ++ quoteAlways (rest[1]?.getD "0"))
        emitText 2 ("Try '" ++ name ++ " --help' for more information.\n")
        pure 1
      else
        let count := if s > 0 then (if l ≥ f then ((l - f) / s).toNat + 1 else 0)
          else (if f ≥ l then ((f - l) / (-s)).toNat + 1 else 0)
        let values := (List.range count).map fun (k : Nat) => f + s * Int.ofNat k
        if values.isEmpty then pure 0
        else do
          putText (sep.intercalate (values.map toString) ++ "\n")
          pure 0
    | _, _, _ => do
      if ns.isEmpty then missingOperand name
      else do
        complainAs name ("extra operand " ++ quoteAlways (rest.getLast?.getD ""))
        emitText 2 ("Try '" ++ name ++ " --help' for more information.\n")
      pure 1

/-- The directory part of a path, as `dirname` gives it. -/
def dirPart (p : String) : String :=
  let cs := p.toList.reverse.dropWhile (· == '/')
  if cs.isEmpty then (if p.startsWith "/" then "/" else ".")
  else
    let withoutName := cs.dropWhile (· != '/')
    if withoutName.isEmpty then "."
    else
      let trimmed := withoutName.dropWhile (· == '/')
      if trimmed.isEmpty then "/" else String.ofList trimmed.reverse

/-- `basename` and `dirname`. -/
def pathPart (dir : Bool) (name : String) (args : List String) : ShellM Nat := do
  match args with
  | [] => do missingOperand name; pure 1
  | p :: rest =>
    if dir then do
      (p :: rest).forM fun q => putText (dirPart q ++ "\n")
      pure 0
    else
      let base := lastName p
      let base := match rest with
        | [suffix] => if base.endsWith suffix && base != suffix then (base.dropEnd suffix.length).toString else base
        | _ => base
      if rest.length > 1 then do
        complainAs name ("extra operand " ++ quoteAlways (rest[1]?.getD ""))
        emitText 2 ("Try '" ++ name ++ " --help' for more information.\n")
        pure 1
      else do
        putText (base ++ "\n")
        pure 0

/-- A time as `sleep` reads it, in milliseconds: a decimal number and an
    optional unit `s`, `m`, `h` or `d`. -/
def duration (s : String) : Option Nat :=
  let cs := s.toList
  let (body, unit) := match cs.getLast? with
    | some 's' => (cs.dropLast, 1)
    | some 'm' => (cs.dropLast, 60)
    | some 'h' => (cs.dropLast, 3600)
    | some 'd' => (cs.dropLast, 86400)
    | _ => (cs, 1)
  let whole := body.takeWhile Char.isDigit
  let after := body.drop whole.length
  let frac := match after with
    | '.' :: ds => if ds.all Char.isDigit then some ds else none
    | [] => some []
    | _ => none
  match frac with
  | none => none
  | some ds =>
    if whole.isEmpty && ds.isEmpty then none
    else
      let w := (String.ofList whole).toNat?.getD 0
      let f3 := (ds ++ ['0', '0', '0']).take 3
      let ms := w * 1000 + (String.ofList f3).toNat!
      some (ms * unit)

/-- `sleep`. -/
def sleepFor (name : String) (args : List String) : ShellM Nat := do
  if args.isEmpty then do missingOperand name; return 1
  match args.find? (fun a => (duration a).isNone) with
  | some bad => do
    complainAs name ("invalid time interval " ++ quoteAlways bad)
    emitText 2 ("Try '" ++ name ++ " --help' for more information.\n")
    pure 1
  | none => do
    sleep (args.foldl (fun acc a => acc + (duration a).getD 0) 0)
    pure 0

/-- `echo` as a program: `-n` leaves out the line end, `-e` reads escapes. -/
def echoProgram (args : List String) : ShellM Nat := do
  let isOption (a : String) := a.length > 1 && a.startsWith "-" && (a.drop 1).toString.toList.all ("neE".toList.contains ·)
  let opts := args.takeWhile isOption
  let words := args.drop opts.length
  let flags := String.join (opts.map fun o => (o.drop 1).toString)
  let newline := !flags.toList.contains 'n'
  let escapes := flags.toList.reverse.find? (fun c => c == 'e' || c == 'E') == some 'e'
  let text := " ".intercalate words
  let (bs, stop) := if escapes then Format.escapedText (text.length + 1) text.toList else (text.toUTF8.toList, false)
  put (if stop || !newline then bs else bs ++ [10])
  pure 0

/-- `printf` as a program. -/
def printfProgram (name : String) (args : List String) : ShellM Nat := do
  match args with
  | [] => do
    complainAs name "missing operand"
    emitText 2 ("Try '" ++ name ++ " --help' for more information.\n")
    pure 1
  | format :: rest => do
    let (bs, complaints, failed) := Format.printf format rest
    put bs
    complaints.forM fun c => complainAs name c
    pure (if failed then 1 else 0)

end Utility

end EdgePack.Shell
