import EdgePack.Cli.Grammar
import EdgePack.Text.Similarity

/-!
# Reading the command line

The words of the command line are read against the grammar
(`EdgePack.Cli.Grammar`), one command at a time: the top level until a word
names a command, then that command to the end.

* `--name=value`, `--name value`: a long option; `-x`, `-xvalue`, `-x=value`,
  `-x value` and clusters such as `-vvv`: short ones. A value that follows as
  the next word may be anything but a word that names a command at the top.
* `--` ends the options: every later word is a value.
* Other words fill the positional arguments in order.

A word is taken for what it is when it is met, but an option's or
argument's values are only checked (a value given, not given twice, of its
type) when the next option is met, when the line ends, or when the word
after it is refused; a refused word is reported before an unchecked value.
The command's own part is read and checked before the rest of the top level
is. After its part, each command checks that a value-taking option got its
value, that a command was named (a line with no words at all asks for help),
and that its required options and arguments were given.

A refusal is reported the way the grammar's users know: `error: ` and the
reason, tips (`tip: a similar argument exists: '--limit'`), the usage line,
and a pointer to `--help`. The usage is the command's help usage, or, where
the refusal concerns given or missing arguments, a usage that names only the
required arguments and those given.
-/

namespace EdgePack.Cli

/-- Why a command line is refused. -/
inductive Refusal where
  /-- A word that is no option or argument here, with the closest option's
      name, tips and the usage. -/
  | unexpected (arg : String) (similar : Option String) (tips : List String) (usage : String)
  /-- A word where a command was expected, with the commands it is like. -/
  | unknownCommand (name : String) (similar : List String) (usage : String)
  /-- A value that does not read as its type, and why. -/
  | invalidValue (arg value reason : String)
  /-- An option or argument without its value. -/
  | missingValue (arg : String)
  /-- An option given twice. -/
  | repeated (arg : String) (usage : String)
  /-- A value given to an option that takes none. -/
  | extraValue (value arg : String) (usage : String)
  /-- Required options or arguments not given. -/
  | missingArguments (args : List String) (usage : String)
  /-- No command named, with the commands there are. -/
  | missingCommand (program : String) (names : List String) (usage : String)
  deriving Inhabited

namespace Refusal

/-- A tip line. -/
def tip (s : String) : String := "\n  tip: " ++ s

/-- Names in quotes, separated by commas. -/
def quotedList (names : List String) : String := ", ".intercalate (names.map fun n => s!"'{n}'")

/-- The message, tips, usage and pointer to help, as written to standard error. -/
def text (r : Refusal) : String :=
  let withUsage (u : String) : String := "\n\nUsage: " ++ u
  let body := match r with
    | .unexpected arg similar tips usage =>
      let similarText := match similar with
        | some s => "\n" ++ tip s!"a similar argument exists: '{s}'"
        | none => ""
      let tipsText := if tips.isEmpty then ""
        else (if similar.isSome then "" else "\n") ++ String.join (tips.map tip)
      s!"unexpected argument '{arg}' found" ++ similarText ++ tipsText ++ withUsage usage
    | .unknownCommand name similar usage =>
      let similarText := match similar with
        | [] => ""
        | [one] => "\n" ++ tip s!"a similar subcommand exists: '{one}'"
        | many => "\n" ++ tip ("some similar subcommands exist: " ++ quotedList many)
      s!"unrecognized subcommand '{name}'" ++ similarText ++ withUsage usage
    | .invalidValue arg value reason => s!"invalid value '{value}' for '{arg}': {reason}"
    | .missingValue arg => s!"a value is required for '{arg}' but none was supplied"
    | .repeated arg usage => s!"the argument '{arg}' cannot be used multiple times" ++ withUsage usage
    | .extraValue value arg usage =>
      s!"unexpected value '{value}' for '{arg}' found; no more were expected" ++ withUsage usage
    | .missingArguments args usage =>
      "the following required arguments were not provided:" ++ String.join (args.map ("\n  " ++ ·)) ++
        withUsage usage
    | .missingCommand program names usage =>
      s!"'{program}' requires a subcommand but one was not provided\n  [subcommands: " ++
        ", ".intercalate names ++ "]" ++ withUsage usage
  "error: " ++ body ++ "\n\nFor more information, try '--help'.\n"

end Refusal

/-- Why reading stops before a command runs. -/
inductive Stop where
  /-- Help was asked for: printed on standard output. -/
  | help (text : String)
  /-- The line was empty: help printed on standard error, as a usage error. -/
  | helpOnEmpty (text : String)
  /-- The version was asked for. -/
  | version (text : String)
  /-- The line is refused. -/
  | refused (r : Refusal)
  deriving Inhabited

/-- The reason a text does not read as a count, in the words of the
    standard number reader, which reads the digits from the left and stops at
    the first that is not one or that makes the number too large. -/
def sizeReason (s : String) : Option String :=
  if s.isEmpty then some "cannot parse integer from empty string"
  else
    let digits := if s.startsWith "+" then (s.drop 1).toString else s
    if digits.isEmpty then some "invalid digit found in string" else go digits.toList 0
where
  go : List Char → Nat → Option String
    | [], _ => none
    | c :: cs, n =>
      if !c.isDigit then some "invalid digit found in string"
      else
        let n' := n * 10 + (c.toNat - '0'.toNat)
        if n' ≥ Nat.pow 2 64 then some "number too large to fit in target type" else go cs n'

/-- The count a checked value stands for. -/
def sizeValue (s : String) : Nat := (if s.startsWith "+" then s.drop 1 |>.toString else s).toNat!

/-- An option or a positional argument: what pending values are for. -/
inductive Slot where
  | opt (o : Opt)
  | pos (a : Positional)
  deriving Inhabited

namespace Slot

/-- The identifier of the slot. -/
def id : Slot → String
  | .opt o => o.id
  | .pos a => a.id

/-- The slot as messages show it. -/
def shown : Slot → String
  | .opt o => o.shown
  | .pos a => a.shown

/-- The type of the slot's value. -/
def type? : Slot → Option ValueType
  | .opt o => match o.action with
    | .set _ t => some t
    | _ => none
  | .pos a => some a.valueType

end Slot

/-- Checks a value of a type. -/
def checkValue (arg : String) (t : ValueType) (v : String) : Except Refusal Unit :=
  match t with
  | .path => if v.isEmpty then .error (.missingValue arg) else .ok ()
  | .text => .ok ()
  | .size => match sizeReason v with
    | some reason => .error (.invalidValue arg v reason)
    | none => .ok ()

/-- The values found so far for one command, by identifier, in the order first found. -/
abbrev Found := List (String × List String)

/-- A command's part of the line while it is read. -/
structure Scan where
  found : Found := []
  /-- Values waiting to be checked, and whose they are. -/
  pending : Option (Slot × List String) := none
  /-- Whether the pending option still waits for its value. -/
  expecting : Bool := false
  /-- The next positional argument to fill. -/
  position : Nat := 0
  /-- Whether `--` was met. -/
  trailing : Bool := false
  deriving Inhabited

/-- What one command's part of the line gave: its values, and the command
    named after it with the words that follow. -/
structure Part where
  found : Found
  next : Option (Spec × List String)

/-- The command being read: the top level (`spec = none`) or a command. -/
structure Level where
  program : Program
  spec : Option Spec
  deriving Inhabited

namespace Level

/-- The options of the level. -/
def options (l : Level) : List Opt :=
  match l.spec with
  | some s => l.program.optionsOf s
  | none => l.program.topOptions

/-- The positional arguments of the level. -/
def positionals (l : Level) : List Positional :=
  match l.spec with
  | some s => s.positionals
  | none => []

/-- The commands that may be named at the level. -/
def commands (l : Level) : List Spec :=
  match l.spec with
  | some _ => []
  | none => l.program.allCommands

/-- The help usage of the level. -/
def usage (l : Level) : String := l.program.helpUsage l.spec

/-- The help text of the level. -/
def help (l : Level) : String := l.program.helpText l.spec

/-- The usage that names the level's required arguments and those in `used`:
    options first, in the order met, then the positional arguments in their
    order. With nothing used it is the help usage. -/
def usageWith (l : Level) (used : List String) : String :=
  if used.isEmpty then l.usage
  else
    let required := (l.positionals.filter (·.required)).map (·.id) ++
      ((l.options.filter (·.required)).map (·.id))
    let named := (required ++ used).eraseDups
    let opts := named.filterMap fun i => (l.options.find? (·.id == i)).map Opt.shown
    let poss := (l.positionals.filter fun a => named.contains a.id).map Positional.shown
    let tail := if l.spec.isNone then ["<COMMAND>"] else []
    " ".intercalate ([l.program.usageName l.spec] ++ opts ++ poss ++ tail)

/-- The option of a long name. -/
def long? (l : Level) (name : String) : Option Opt := l.options.find? (·.long == name)

/-- The option of a letter. -/
def short? (l : Level) (c : Char) : Option Opt := l.options.find? (·.short == some c)

/-- Checks values for a slot and records them. -/
def record (l : Level) (s : Scan) (slot : Slot) (values : List String) : Except Refusal Scan := do
  let seen := s.found.any (·.1 == slot.id)
  match slot with
  | .opt o =>
    match o.action with
    | .count =>
      let n := (s.found.find? (·.1 == o.id)).map (·.2.length) |>.getD 0
      let entry := (o.id, List.replicate (n + 1) "")
      pure { s with found := if seen then s.found.map fun e => if e.1 == o.id then entry else e
        else s.found ++ [entry] }
    | .setTrue =>
      if seen then throw (.repeated o.shown l.usage)
      pure { s with found := s.found ++ [(o.id, ["true"])] }
    | .set _ t =>
      if values.isEmpty then throw (.missingValue o.shown)
      if seen then throw (.repeated o.shown l.usage)
      values.forM (checkValue o.shown t)
      pure { s with found := s.found ++ [(o.id, values)] }
    | .help | .version => pure s
  | .pos a =>
    if values.isEmpty then throw (.missingValue a.shown)
    values.forM (checkValue a.shown a.valueType)
    pure { s with found := s.found ++ [(a.id, values)] }

/-- Checks and records the pending values, if any. -/
def settle (l : Level) (s : Scan) : Except Refusal Scan :=
  match s.pending with
  | none => .ok { s with expecting := false }
  | some (slot, values) => l.record { s with pending := none, expecting := false } slot values

/-- Settles the pending values before a refusal, keeping what could be recorded. -/
def settleQuietly (l : Level) (s : Scan) : Scan :=
  match l.settle s with
  | .ok s' => s'
  | .error _ => { s with pending := none, expecting := false }

/-- The identifiers of the values found. -/
def usedIds (s : Scan) : List String := s.found.map (·.1)

/-- The long names of the level's options. -/
def longs (l : Level) : List String := l.options.map (·.long)

/-- The refusal of an unknown long option `--name`: the most similar long
    name here, or else a command named later on the line that has a similar
    one; otherwise, where the command has positional arguments, the tip to
    pass it as a value. -/
def unknownLong (l : Level) (s : Scan) (name : String) (rest : List String) : Refusal :=
  let s := l.settleQuietly s
  let here := (Text.similarNames name l.longs).getLast?
  let elsewhere : Option (String × String) :=
    if here.isSome then none
    else
      let hits := l.commands.filterMap fun c =>
        match (Text.similarNames name (l.program.optionsOf c |>.map (·.long))).getLast?,
          rest.findIdx? (· == c.name) with
        | some flag, some place => some (place, c.name, flag)
        | _, _ => none
      match hits.mergeSort (fun p q => p.1 ≤ q.1) with
      | (_, c, flag) :: _ => some (c, flag)
      | [] => none
  let used := usedIds s ++ match here with
    | some n => match l.long? n with
      | some o => if (usedIds s).contains o.id then [] else [o.id]
      | none => []
    | none => []
  let trailingTip := if here.isNone && !s.trailing && !l.positionals.isEmpty then
      [s!"to pass '--{name}' as a value, use '-- --{name}'"] else []
  let commandTip := match elsewhere with
    | some (c, flag) => [s!"'{c} --{flag}' exists"]
    | none => []
  .unexpected ("--" ++ name) (here.map ("--" ++ ·)) (trailingTip ++ commandTip) (l.usageWith used)

/-- The refusal of a value given to an option that takes none. -/
def unneeded (l : Level) (s : Scan) (o : Opt) (value : String) : Refusal :=
  let s := l.settleQuietly s
  let requiredIds := (l.options.filter (·.required)).map (·.id) ++
    ((l.positionals.filter (·.required)).map (·.id))
  let used := ((usedIds s).filter fun i => !requiredIds.contains i) ++ [o.id]
  .extraValue value ("--" ++ o.long) (l.usageWith used)

/-- Acts on an option given without an attached value: records a flag,
    stops for help or the version, or waits for the option's value. -/
def take (l : Level) (s : Scan) (o : Opt) : Except Stop Scan := do
  let s ← (l.settle s).mapError .refused
  match o.action with
  | .help => throw (.help l.help)
  | .version => throw (.version l.program.versionText)
  | .set .. => pure { s with pending := some (.opt o, []), expecting := true }
  | _ => (l.record s (.opt o) []).mapError .refused

/-- Acts on an option given with an attached value. -/
def takeWith (l : Level) (s : Scan) (o : Opt) (v : String) : Except Stop Scan := do
  let s ← (l.settle s).mapError .refused
  (l.record s (.opt o) [v]).mapError .refused

/-- Reads a cluster of letters `-abc`: each a flag, until one that takes a
    value, which takes the rest of the word (less a leading `=`) or the
    next word. -/
def cluster (l : Level) : Scan → List Char → Except Stop Scan
  | s, [] => pure s
  | s, c :: cs =>
    match l.short? c with
    | none =>
      let s := l.settleQuietly s
      let tips := if !s.trailing && !l.positionals.isEmpty then
          [s!"to pass '-{c}' as a value, use '-- -{c}'"] else []
      throw (.refused (.unexpected s!"-{c}" none tips l.usage))
    | some o =>
      if o.takesValue then
        match cs with
        | [] => l.take s o
        | '=' :: v => l.takeWith s o (String.ofList v)
        | v => l.takeWith s o (String.ofList v)
      else do
        let s ← l.take s o
        l.cluster s cs

/-- The refusal of a word that fills nothing. -/
def stray (l : Level) (s : Scan) (word : String) : Refusal :=
  let s := l.settleQuietly s
  if s.trailing && l.commands.any (·.name == word) then
    .unexpected "--" none [s!"subcommand '{word}' exists; to use it, remove the '--' before it"] l.usage
  else if l.commands.isEmpty then .unexpected word none [] l.usage
  else .unknownCommand word (Text.similarNames word (l.commands.map (·.name))) l.usage

/-- Reads a value word: the pending option's value, or the next positional
    argument. -/
def value (l : Level) (s : Scan) (word : String) : Except Stop Scan := do
  if s.expecting then
    match s.pending with
    | some (slot, vs) => pure { s with pending := some (slot, vs ++ [word]), expecting := false }
    | none => pure s
  else
    match l.positionals[s.position]? with
    | some a =>
      if a.many then
        match s.pending with
        | some (.pos p, vs) =>
          if p.id == a.id then pure { s with pending := some (.pos a, vs ++ [word]) }
          else do
            let s ← (l.settle s).mapError .refused
            pure { s with pending := some (.pos a, [word]) }
        | _ => do
          let s ← (l.settle s).mapError .refused
          pure { s with pending := some (.pos a, [word]) }
      else do
        let s ← (l.settle s).mapError .refused
        pure { s with pending := some (.pos a, [word]), position := s.position + 1 }
    | none => throw (.refused (l.stray s word))

/-- The help text that `help <names>` asks for. -/
def helpFor (p : Program) (names : List String) : Except Stop String :=
  match names with
  | [] => .ok (p.helpText none)
  | name :: more =>
    match p.command? name with
    | none => .error (.refused (.unknownCommand name [] (p.helpUsage none)))
    | some c =>
      match more with
      | [] => .ok (p.helpText (some c))
      | next :: _ => .error (.refused (.unknownCommand next [] (p.helpUsage (some c))))

/-- Reads the level's words until the line ends or a command is named. -/
def scan (l : Level) : Scan → List String → Except Stop (Scan × Option (Spec × List String))
  | s, [] => pure (s, none)
  | s, word :: rest =>
    if !s.trailing && (l.commands.any (·.name == word)) then
      if word == "help" then
        match helpFor l.program rest with
        | .ok text => throw (.help text)
        | .error e => throw e
      else
        match l.program.command? word with
        | some c => pure (s, some (c, rest))
        | none => pure (s, none)
    else if !s.trailing && word == "--" then l.scan { s with trailing := true } rest
    else if !s.trailing && word.startsWith "--" then
      let body := (word.drop 2).toString
      let (name, attached) := match body.splitOn "=" with
        | [] => (body, none)
        | [n] => (n, none)
        | n :: vs => (n, some ("=".intercalate vs))
      match l.long? name with
      | none => throw (.refused (l.unknownLong s name rest))
      | some o => do
        let s ← match attached, o.takesValue with
          | some v, true => l.takeWith s o v
          | some v, false => throw (.refused (l.unneeded s o v))
          | none, _ => l.take s o
        l.scan s rest
    else if !s.trailing && word.startsWith "-" && word.length > 1 then do
      let s ← l.cluster s (word.toList.drop 1)
      l.scan s rest
    else do
      let s ← l.value s word
      l.scan s rest

/-- The checks after a level's part: values settled, a command named at the
    top, required options and arguments given. -/
def finish (l : Level) (s : Scan) (named : Bool) : Except Stop Found := do
  let s ← (l.settle s).mapError .refused
  if !l.commands.isEmpty && !named then
    if s.found.isEmpty then throw (.helpOnEmpty l.help)
    throw (.refused (.missingCommand l.program.name (l.commands.map (·.name)) l.usage))
  let have_ := usedIds s
  let missingPos := (l.positionals.filter fun a => a.required && !have_.contains a.id)
  let missingOpt := (l.options.filter fun o => o.required && !have_.contains o.id)
  if missingPos.isEmpty && missingOpt.isEmpty then pure s.found
  else
    let missing := missingPos.map (·.id) ++ missingOpt.map (·.id)
    throw (.refused (.missingArguments (missingOpt.map Opt.shown ++ missingPos.map Positional.shown)
      (l.usageWith (have_ ++ missing))))

end Level

/-- A command line that was read: the values found at the top and for the
    command named. -/
structure Reading where
  command : Spec
  top : Found
  own : Found
  deriving Inhabited

/-- Reads a command line: the top level's part, then the command's. -/
def read (p : Program) (words : List String) : Except Stop Reading := do
  let top : Level := ⟨p, none⟩
  let (s, next) ← top.scan {} words
  match next with
  | none =>
    let _ ← top.finish s false
    throw (.refused (.missingCommand p.name (top.commands.map (·.name)) top.usage))
  | some (c, rest) =>
    let sub : Level := ⟨p, some c⟩
    let (s', _) ← sub.scan {} rest
    let own ← sub.finish s' true
    let found ← top.finish s true
    pure ⟨c, found, own⟩

namespace Reading

/-- The values of an option or argument: the command's own if given there,
    else the top level's. -/
def values (r : Reading) (id : String) : Option (List String) :=
  match r.own.find? (·.1 == id) with
  | some (_, vs) => some vs
  | none => (r.top.find? (·.1 == id)).map (·.2)

/-- The one value of an option or argument, if given. -/
def value? (r : Reading) (id : String) : Option String := (r.values id).bind List.head?

/-- The value of a text option or argument, empty if not given. -/
def text (r : Reading) (id : String) : String := (r.value? id).getD ""

/-- Whether a switch was given. -/
def given (r : Reading) (id : String) : Bool := (r.values id).isSome

/-- How many times a counter was given. -/
def count (r : Reading) (id : String) : Nat := ((r.values id).map List.length).getD 0

/-- The count a counting option stands for, if given. -/
def size? (r : Reading) (id : String) : Option Nat := (r.value? id).map sizeValue

end Reading

end EdgePack.Cli
