import EdgePack.Host.Basic

/-!
# Log filters

Which log events are shown. A filter is a list of *directives*, written
`target=level` or a bare `level` (or a bare target, which allows every level
for it), separated by commas; levels are `off`, `error`, `warn`, `info`,
`debug` and `trace` in any case, or `0` to `5`, and an empty level means
`error`. An event passes when the most specific directive that concerns it
allows its level: a directive concerns every event whose target starts with
its own target, or every event when it has none, and a longer target is more
specific. Of two directives for the same target, the later one counts. An
event that no directive concerns is not shown, so the empty filter shows
nothing.

A text that is not a filter (two `=` in a directive, or a level that is no
level) is refused as a whole: the command line's verbosity decides instead
(`Filter.ofVerbosity`).
-/

namespace EdgePack.Log

/-- A level limit: events of rank up to it pass; 0 lets none pass. -/
abbrev Limit := Nat

/-- The limit a level name stands for. -/
def limitOf? (s : String) : Option Limit :=
  let digits := if s.startsWith "+" then (s.drop 1).toString else s
  let number := if !digits.isEmpty && digits.all Char.isDigit then some digits.toNat! else none
  match number with
  | some n => if n ≤ 5 then some n else none
  | none =>
    match s.toLower with
    | "" => some 1
    | "off" => some 0
    | "error" => some 1
    | "warn" => some 2
    | "info" => some 3
    | "debug" => some 4
    | "trace" => some 5
    | _ => none

/-- One directive: the events it concerns (by target prefix, or all) and the
    most detailed level it lets through. -/
structure Directive where
  target : Option String
  limit : Limit
  deriving DecidableEq, Inhabited

namespace Directive

/-- Reads one directive: `target=level`, `target[{fields}]=level`, a bare
    level or a bare target. -/
def parse? (s : String) : Option Directive :=
  match s.splitOn "=" with
  | [part] =>
    match limitOf? part with
    | some l => some ⟨none, l⟩
    | none => some ⟨some part, 5⟩
  | [part, level] =>
    let pieces := part.splitOn "[\x7b"
    let wellFormed := match pieces with
      | [_] => true
      | [_, fields] => fields.endsWith "\x7d]"
      | _ => false
    if !wellFormed then none
    else (limitOf? level).map fun l => ⟨pieces.head?, l⟩
  | _ => none

/-- Whether the directive concerns events of a target. -/
def concerns (d : Directive) (target : String) : Bool :=
  match d.target with
  | some t => target.startsWith t
  | none => true

/-- How specific a directive is: the length of its target, one more than
    for none. -/
def specificity (d : Directive) : Nat :=
  match d.target with
  | some t => t.length + 1
  | none => 0

end Directive

/-- A log filter: its directives, each target once, the most specific first. -/
structure Filter where
  directives : List Directive
  deriving Inhabited

namespace Filter

/-- Adds a directive, replacing the one for the same target. -/
def add (f : Filter) (d : Directive) : Filter :=
  let others := f.directives.filter (·.target != d.target)
  ⟨(others ++ [d]).mergeSort fun a b => a.specificity ≥ b.specificity⟩

/-- Reads a filter: directives separated by commas, empty ones skipped. -/
def parse? (s : String) : Option Filter :=
  ((s.splitOn ",").filter (· != "")).foldlM (fun f part => (Directive.parse? part).map f.add) ⟨[]⟩

/-- The filter of a command-line verbosity: warnings with none, then info,
    debug, and trace from three on. -/
def ofVerbosity (v : Nat) : Filter :=
  ⟨[⟨none, if v == 0 then 2 else if v == 1 then 3 else if v == 2 then 4 else 5⟩]⟩

/-- Whether an event passes the filter. -/
def allows (f : Filter) (e : Event) : Bool :=
  match f.directives.find? (·.concerns e.target) with
  | some d => e.level.rank ≤ d.limit
  | none => false

/-- The filter of a run: the environment's, if it reads as one, else the
    verbosity's. -/
def choose (env : Option String) (verbosity : Nat) : Filter :=
  match env.bind parse? with
  | some f => f
  | none => ofVerbosity verbosity

end Filter

end EdgePack.Log
