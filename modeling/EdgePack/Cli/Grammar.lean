import EdgePack.Text.Pad

/-!
# The command-line grammar

The command line of `kdeploy` as data: the options every command takes
(`Program.globals`), and for each command its own options and its
positional arguments. Parsing (`EdgePack.Cli.Parse`) and the help text are
read off this table.

An option has a short letter, a long name and an *action*: a switch given at
most once, a counter, an option taking one value (shown `<NAME>`), or the
built-in help and version options. Each option has a *display order*: its
place among the options of the command that declares it; the global options
keep the places they have at the top, and help and version come last.

Help text lists, in this order, the command's description, its usage line,
its arguments, its subcommands (at the top only) and its options. Options
are sorted by display order and then by a key: the short letter in lower
case followed by `0` for a lower-case letter and `1` for an upper-case one,
or the long name when there is no letter. Each section is a column of
names, two blanks, and the descriptions, the names padded to the longest of
the section.
-/

namespace EdgePack.Cli

/-- How the value of an option or argument is read. -/
inductive ValueType where
  /-- A path: any text but the empty one. -/
  | path
  /-- Any text. -/
  | text
  /-- A count: a decimal number of at most 64 bits. -/
  | size
  deriving DecidableEq, Inhabited

/-- What an option does when it is given. -/
inductive Action where
  /-- A switch, given at most once. -/
  | setTrue
  /-- A counter, given any number of times. -/
  | count
  /-- Takes one value, named `valueName` in help, at most once. -/
  | set (valueName : String) (type : ValueType)
  /-- Prints help. -/
  | help
  /-- Prints the version. -/
  | version
  deriving DecidableEq, Inhabited

/-- An option: flags and the options that take a value. -/
structure Opt where
  id : String
  short : Option Char
  long : String
  action : Action
  doc : String
  required : Bool := false
  default : Option String := none
  order : Nat := 999
  deriving Inhabited

/-- A positional argument. -/
structure Positional where
  id : String
  valueName : String
  valueType : ValueType
  doc : String
  required : Bool := true
  /-- Whether it takes every remaining value. -/
  many : Bool := false
  deriving Inhabited

/-- A command: its name, description, own options and positional arguments. -/
structure Spec where
  name : String
  about : String
  options : List Opt
  positionals : List Positional
  /-- Whether the help and version options are left out. -/
  bare : Bool := false
  deriving Inhabited

/-- A program: its name, version, description, global options and commands. -/
structure Program where
  name : String
  version : String
  about : String
  globals : List Opt
  commands : List Spec
  deriving Inhabited

namespace Opt

/-- Whether the option takes a value. -/
def takesValue (o : Opt) : Bool :=
  match o.action with
  | .set .. => true
  | _ => false

/-- The option as usage and messages show it: its long name and the value or
    the dots of a counter, as `--limit <LIMIT>` or `--verbose...`. -/
def shown (o : Opt) : String :=
  "--" ++ o.long ++ match o.action with
    | .set v _ => s!" <{v}>"
    | .count => "..."
    | _ => ""

/-- The option's name column in help: the letter and the long name, as
    `-c, --config <CONFIG>` or `    --columns <COLUMNS>`. -/
def column (o : Opt) : String :=
  (match o.short with
    | some c => s!"-{c}, "
    | none => "    ") ++ o.shown

/-- The option's description in help, with its default value. -/
def description (o : Opt) : String :=
  match o.default with
  | some d => s!"{o.doc} [default: {d}]"
  | none => o.doc

/-- The key options are sorted by after their display order. -/
def sortKey (o : Opt) : String :=
  match o.short with
  | some c => String.ofList [c.toLower, if c.isLower then '0' else '1']
  | none => o.long

/-- Whether `o` comes before or with `p` in help. -/
def precedes (o p : Opt) : Bool :=
  o.order < p.order || (o.order == p.order && decide (o.sortKey ≤ p.sortKey))

end Opt

namespace Positional

/-- The argument as usage and messages show it: `<TARGET>` when required,
    `[COMMAND]` when not, with dots when it takes many values. -/
def shown (a : Positional) : String :=
  (if a.required then s!"<{a.valueName}>" else s!"[{a.valueName}]") ++ if a.many then "..." else ""

end Positional

/-- The help option. -/
def helpOpt : Opt := { id := "help", short := some 'h', long := "help", action := .help, doc := "Print help" }

/-- The version option. -/
def versionOpt : Opt :=
  { id := "version", short := some 'V', long := "version", action := .version, doc := "Print version" }

/-- The argument of the `help` command: the names of the commands to explain. -/
def helpTopics : Positional :=
  { id := "command", doc := "Print help for the subcommand(s)", valueName := "COMMAND",
    valueType := .text, required := false, many := true }

/-- The `help` command, which prints the help of the program or of a command. -/
def helpCommand : Spec :=
  { name := "help", about := "Print this message or the help of the given subcommand(s)",
    options := [], bare := true, positionals := [helpTopics] }

/-- Rows of a help section, the names padded to the longest. -/
def helpSection (title : String) (rows : List (String × String)) : String :=
  if rows.isEmpty then ""
  else
    let width := (rows.map (·.1.length)).foldl max 0
    let lines := rows.map fun (n, d) => "  " ++ Text.padRight width ' ' n ++ "  " ++ d
    "\n" ++ title ++ ":\n" ++ String.join (lines.map (· ++ "\n"))

namespace Program

/-- The options of the top level, help and version included. -/
def topOptions (p : Program) : List Opt := p.globals ++ [helpOpt, versionOpt]

/-- The options of a command, the global ones and help included. -/
def optionsOf (p : Program) (s : Spec) : List Opt :=
  if s.bare then [] else s.options ++ p.globals ++ [helpOpt]

/-- The commands of the program, `help` last. -/
def allCommands (p : Program) : List Spec := p.commands ++ [helpCommand]

/-- The command of a name. -/
def command? (p : Program) (name : String) : Option Spec := p.allCommands.find? (·.name == name)

/-- The words that start every usage of a command: `kdeploy convert`. -/
def usageName (p : Program) (s : Option Spec) : String :=
  match s with
  | some s => p.name ++ " " ++ s.name
  | none => p.name

/-- The usage of a command in help: `[OPTIONS]` when it has an optional
    option other than help and version, its required options, its positional
    arguments, and `<COMMAND>` at the top. -/
def helpUsage (p : Program) (s : Option Spec) : String :=
  let opts := match s with
    | some s => p.optionsOf s
    | none => p.topOptions
  let optional := opts.any fun o => !o.required && o.long != "help" && o.long != "version"
  let required := (opts.filter (·.required)).map Opt.shown
  let positionals := match s with
    | some s => s.positionals.map Positional.shown
    | none => []
  let tail := match s with
    | some _ => []
    | none => ["<COMMAND>"]
  " ".intercalate ([p.usageName s] ++ (if optional then ["[OPTIONS]"] else []) ++ required ++
    positionals ++ tail)

/-- The options of a command in the order help lists them. -/
def sortedOptions (opts : List Opt) : List Opt := opts.mergeSort Opt.precedes

/-- The help text of the program, or of one of its commands. -/
def helpText (p : Program) (s : Option Spec) : String :=
  let about := match s with
    | some s => s.about
    | none => p.about
  let opts := match s with
    | some s => p.optionsOf s
    | none => p.topOptions
  let args := match s with
    | some s => s.positionals.map fun a => (a.shown, a.doc)
    | none => []
  let commands := match s with
    | some _ => []
    | none => p.allCommands.map fun c => (c.name, c.about)
  about ++ "\n\nUsage: " ++ p.helpUsage s ++ "\n" ++ helpSection "Arguments" args ++
    helpSection "Commands" commands ++
    helpSection "Options" ((sortedOptions opts).map fun o => (o.column, o.description))

/-- The line `--version` prints. -/
def versionText (p : Program) : String := p.name ++ " " ++ p.version ++ "\n"

end Program

/-- The command line of `kdeploy`. -/
def kdeploy : Program :=
  let target : Positional := { id := "target", valueName := "TARGET", valueType := .text, doc := "Target (example) name" }
  { name := "kdeploy", version := "0.1.0", about := "Model and data packaging toolkit for K210 boards",
    globals := [
      { id := "config", short := some 'c', long := "config", action := .set "CONFIG" .path, order := 0,
        doc := "Path to a TOML configuration file (default: ./kdeploy.toml if present)" },
      { id := "verbose", short := some 'v', long := "verbose", action := .count, order := 1,
        doc := "Enable verbose logging (repeat for more: -v, -vv, -vvv)" }],
    commands := [
      { name := "convert", about := "Convert a directory of PNG images into .raw model inputs",
        positionals := [target],
        options := [
          { id := "input", short := some 'i', long := "input", action := .set "INPUT" .path, order := 0,
            doc := "Directory of PNG images (overrides [convert].input_dir)" },
          { id := "output", short := some 'o', long := "output", action := .set "OUTPUT" .path, order := 1,
            doc := "Output directory for .raw files (overrides [convert].output_dir)" },
          { id := "limit", short := some 'l', long := "limit", action := .set "LIMIT" .size, order := 2,
            doc := "Convert only the first N images in name order" }] },
      { name := "pack", about := "Pack per-slot images into a sector-aligned flash image",
        positionals := [target],
        options := [
          { id := "slots", short := some 's', long := "slots", action := .set "SLOTS" .path, order := 0,
            doc := "Directory holding <slot>.png / .jpg / .raw (overrides [flash].slot_dir)" },
          { id := "output", short := some 'o', long := "output", action := .set "OUTPUT" .path, order := 1,
            doc := "Output file (overrides [flash].image_file)" }] },
      { name := "package", about := "Build the .kfpkg deployment archive for a target",
        positionals := [target], options := [] },
      { name := "evaluate", about := "Run the compiled model on .raw samples and report accuracy",
        positionals := [target],
        options := [
          { id := "samples", short := some 's', long := "samples", action := .set "SAMPLES" .path, order := 0,
            doc := "Directory of <id>_<label>.raw samples (overrides [evaluate].samples_dir)" },
          { id := "limit", short := some 'l', long := "limit", action := .set "LIMIT" .size, order := 1,
            doc := "Evaluate only the first N samples in name order" },
          { id := "json", short := none, long := "json", action := .set "JSON" .path, order := 2,
            doc := "Write the full per-sample report as JSON" },
          { id := "show_inputs", short := none, long := "show-inputs", action := .setTrue, order := 3,
            doc := "Print statistics and an ASCII preview of every input first" }] },
      { name := "compile", about := "Compile a source model into the target's kmodel with ncc",
        positionals := [target],
        options := [
          { id := "model", short := some 'm', long := "model", action := .set "MODEL" .path, order := 0,
            required := true, doc := "Source model (e.g. a .tflite file)" },
          { id := "calibration", short := none, long := "calibration", action := .set "CALIBRATION" .path,
            order := 1, doc := "CSV of calibration samples (overrides [calibration].csv)" },
          { id := "columns", short := none, long := "columns", action := .set "COLUMNS" .size, order := 2,
            default := some "4", doc := "Number of leading CSV columns to use as features" }] },
      { name := "inspect", about := "Inspect a .raw tensor, a packed flash image or a .kfpkg archive",
        positionals := [{ id := "path", valueName := "PATH", valueType := .path, doc := "File to inspect" }],
        options := [] },
      { name := "config", about := "Print the effective configuration as TOML", positionals := [],
        options := [] }] }

end EdgePack.Cli
