import EdgePack.Shell.Machine
import EdgePack.Shell.Read
import EdgePack.Shell.Pattern
import EdgePack.Shell.Arith
import EdgePack.Text.Utf8

/-!
# Expanding words

A word becomes fields in three steps. First each part is expanded into
pieces: literal text, the value of a parameter (or its default), the output
of a command with its final line ends cut, or the value of an arithmetic
expression. Every character remembers whether quoting protected it. Then the
characters that came unquoted out of an expansion are split into fields at
the characters of `IFS` (blank, tab and line end unless it is set): a run of
blanks separates, and every other separator ends a field even when empty.
Last, a field with an unquoted `*`, `?` or bracket expression is replaced by
the sorted names of the files it matches, when there are any.

`"$@"` expands to one field per positional parameter, and to no field at all
when there are none; any other quoted part makes a field even when it is
empty. Redirection targets, assignments and `case` subjects are expanded
without splitting or matching.

Running a command substitution is the interpreter's work; the expander takes
it as a function (`Substitute`).
-/

namespace EdgePack.Shell

open ShellM

/-- A piece of an expanded word. -/
inductive Piece where
  /-- A character: `quoted` keeps it from pattern matching, `split` lets
      field splitting cut at it. -/
  | char (c : Char) (quoted : Bool) (split : Bool)
  /-- The boundary that `"$@"` puts between parameters. -/
  | cut
  /-- A quoted part stood here: the field exists even when empty. -/
  | keep
  deriving Inhabited

/-- Runs a command substitution from its source and gives its output. -/
abbrev Substitute := String → ShellM String

namespace Expand

/-- The pieces of literal text. -/
def textPieces (s : String) (quoted : Bool) : List Piece :=
  (if quoted then [Piece.keep] else []) ++ s.toList.map fun c => .char c quoted false

/-- The pieces of an expansion's value: protected when quoted, else open to
    splitting and matching. -/
def valuePieces (v : String) (quoted : Bool) : List Piece :=
  if quoted then .keep :: v.toList.map fun c => .char c true false
  else v.toList.map fun c => .char c false true

/-- The pieces of the positional parameters for `$@`, or `$*` unquoted: one
    field for each when quoted. -/
def paramsPieces (ps : List String) (quoted : Bool) : List Piece :=
  (ps.map fun p => valuePieces p quoted).intersperse [.cut] |>.flatten

/-- Pieces as they stand in a quoted context. -/
def protect (ps : List Piece) : List Piece :=
  .keep :: ps.map fun p => match p with
    | .char c _ _ => .char c true false
    | other => other

/-- The text of pieces; a field boundary reads as a blank. -/
def piecesText (ps : List Piece) : String :=
  String.ofList (ps.filterMap fun p => match p with
    | .char c _ _ => some c
    | .cut => some ' '
    | .keep => none)

/-- The characters of pieces marked with their quoting, for a pattern. -/
def piecesMarked (ps : List Piece) : List (Char × Bool) :=
  ps.filterMap fun p => match p with
    | .char c q _ => some (c, q)
    | .cut => some (' ', true)
    | .keep => none

/-- A value's text with its final line ends cut, as command substitution gives it. -/
def chompNewlines (s : String) : String :=
  String.ofList (s.toList.reverse.dropWhile (· == '\n')).reverse

/-- The value of a special or positional parameter, or of a variable; none when unset. -/
def paramValue (name : String) : ShellM (Option String) := do
  let s ← get
  match name with
  | "#" => pure (some (toString s.params.length))
  | "?" => pure (some (toString s.status))
  | "$" => pure (some (toString s.pid))
  | "0" => pure (some s.name)
  | "!" => pure none
  | "-" => pure (some (if s.errexit then "e" else ""))
  | "@" => pure (if s.params.isEmpty then none else some (" ".intercalate s.params))
  | "*" => pure (if s.params.isEmpty then none else some (" ".intercalate s.params))
  | _ =>
    if !name.isEmpty && name.all Char.isDigit then
      pure (s.params[name.toNat! - 1]?)
    else getVar name

/-- Whether the value counts as absent for a fallback: unset, or empty too when asked. -/
def absent (v : Option String) (emptyToo : Bool) : Bool :=
  match v with
  | none => true
  | some x => emptyToo && x.isEmpty

/-- A fatal complaint of an expansion: it is written and the shell exits with status 2. -/
def fatal (msg : String) : ShellM α := do
  complain msg
  throw (.exit 2)

/-- The value without its shortest or longest prefix that a pattern matches. -/
def trimFront (v : String) (g : List Glob) (longest : Bool) : String :=
  let cs := v.toList
  let cuts := (List.range (cs.length + 1)).filter fun k => Glob.accepts g (cs.take k)
  let pick := if longest then cuts.getLast? else cuts.head?
  match pick with
  | some k => String.ofList (cs.drop k)
  | none => v

/-- The value without its shortest or longest suffix that a pattern matches. -/
def trimBack (v : String) (g : List Glob) (longest : Bool) : String :=
  let cs := v.toList
  let n := cs.length
  let cuts := (List.range (n + 1)).filter fun k => Glob.accepts g (cs.drop (n - k))
  let pick := if longest then cuts.getLast? else cuts.head?
  match pick with
  | some k => String.ofList (cs.take (n - k))
  | none => v

/-- The value of a variable as a number for arithmetic, or the complaint. -/
def arithValue (vars : List (String × String)) (name : String) : Except String Int :=
  match (vars.find? (·.1 == name)).map (·.2) with
  | none => .ok 0
  | some v =>
    match Arith.readValue v with
    | some n => .ok n
    | none => .error ("Illegal number: " ++ v)

/-- The pieces of one part of a word. -/
def partPieces (sub : Substitute) : Nat → Part → ShellM (List Piece)
  | 0, _ => pure []
  | fuel + 1, p =>
    match p with
    | .text s q => pure (textPieces s q)
    | .command src q => do
      let out ← sub src
      pure (valuePieces out q)
    | .arith src q => do
      let parts := match quotedParts (src.length + 2) [] "" (src.toList ++ ['"']) with
        | some (ps, _) => ps
        | none => [.text src true]
      let inner ← parts.mapM (partPieces sub fuel)
      let text := piecesText inner.flatten
      let vars := (← get).vars
      match Arith.eval (arithValue vars) text with
      | .ok v => pure (valuePieces (toString v) q)
      | .error e => fatal e
    | .param name fb q => do
      let v ← paramValue name
      let word (w : String) : ShellM (List Piece) := do
        let ps ← (looseWord w).mapM (partPieces sub fuel)
        pure (if q then protect ps.flatten else ps.flatten)
      let unsetFault := (← get).nounset && v.isNone && name != "@" && name != "*"
      match fb with
      | .none =>
        if unsetFault then fatal (name ++ ": parameter not set")
        else if name == "@" then pure (paramsPieces (← get).params q)
        else if name == "*" && !q then pure (paramsPieces (← get).params false)
        else pure (valuePieces (v.getD "") q)
      | .length =>
        if unsetFault then fatal (name ++ ": parameter not set")
        else pure (valuePieces (toString (v.getD "").length) q)
      | .useDefault e w => if absent v e then word w else pure (valuePieces (v.getD "") q)
      | .assignDefault e w =>
        if absent v e then do
          let ps ← word w
          setVar name (piecesText ps)
          pure ps
        else pure (valuePieces (v.getD "") q)
      | .useAlternative e w =>
        if absent v e then pure (if q then [.keep] else []) else word w
      | .complainUnset e w =>
        if absent v e then do
          let ps ← word w
          let why := if w.isEmpty then "parameter not set" else piecesText ps
          fatal (name ++ ": " ++ why)
        else pure (valuePieces (v.getD "") q)
      | .trimPrefix longest w => do
        let ps ← (looseWord w).mapM (partPieces sub fuel)
        let g := Glob.ofMarked (piecesMarked ps.flatten)
        pure (valuePieces (trimFront (v.getD "") g longest) q)
      | .trimSuffix longest w => do
        let ps ← (looseWord w).mapM (partPieces sub fuel)
        let g := Glob.ofMarked (piecesMarked ps.flatten)
        pure (valuePieces (trimBack (v.getD "") g longest) q)

/-- The pieces of a word. -/
def wordPieces (sub : Substitute) (w : Word) : ShellM (List Piece) := do
  let ps ← w.mapM (partPieces sub 64)
  pure ps.flatten

/-- The state of field splitting: the fields so far (last first), the field
    being built (last character first), whether it exists, and whether a
    blank separator has just ended a field. -/
structure Splitter where
  fields : List (List (Char × Bool)) := []
  current : List (Char × Bool) := []
  present : Bool := false
  afterBlank : Bool := false

/-- Ends the field being built. -/
def Splitter.close (s : Splitter) : Splitter :=
  { fields := s.current.reverse :: s.fields, current := [], present := false, afterBlank := false }

/-- Splits pieces into fields at the separators `ifs`. -/
def splitFields (ifs : List Char) (ps : List Piece) : List (List (Char × Bool)) :=
  let blank (c : Char) := c == ' ' || c == '\t' || c == '\n'
  let step (s : Splitter) (p : Piece) : Splitter :=
    match p with
    | .keep => { s with present := true }
    | .cut => if s.present then s.close else s
    | .char c q sp =>
      if sp && ifs.contains c then
        if blank c then
          if s.present then { s.close with afterBlank := true } else s
        else if s.afterBlank && !s.present then { s with afterBlank := false }
        else s.close
      else { s with current := (c, q) :: s.current, present := true, afterBlank := false }
  let s := ps.foldl step {}
  (if s.present then s.close else s).fields.reverse

/-- The names in a directory that a pattern matches; a leading dot must be matched by a dot. -/
def matchNames (dir : String) (g : List Glob) : ShellM (List String) := do
  match ← host (Host.listDir ⟨if dir.isEmpty then "." else dir⟩) with
  | .ok names =>
    let dotOk := match g with
      | .lit '.' :: _ => true
      | _ => false
    pure (names.filter fun n => (dotOk || !n.startsWith ".") && Glob.accepts g n.toList)
  | .error _ => pure []

/-- The paths that match a field's components, from the prefixes reached so far. -/
def globWalk : List (List (Char × Bool)) → List String → ShellM (List String)
  | [], found => pure found
  | comp :: rest, found => do
    let g := Glob.ofMarked comp
    let last := rest.isEmpty
    let join (pre name : String) : String :=
      if pre.isEmpty then name else if pre.endsWith "/" then pre ++ name else pre ++ "/" ++ name
    if Glob.isMagic g then do
      let next ← found.flatMapM fun pre => do
        let names ← matchNames pre g
        let paths := names.map (join pre)
        if last then pure paths
        else paths.filterM fun path => host (Host.isDir ⟨path⟩)
      globWalk rest next
    else
      let name := String.ofList (comp.map (·.1))
      globWalk rest (found.map fun pre => join pre name)

/-- The file names a field stands for: itself without quotes when it has no
    pattern or matches nothing, else the sorted matches. -/
def globField (f : List (Char × Bool)) : ShellM (List String) := do
  let plain := String.ofList (f.map (·.1))
  if !Glob.isMagic (Glob.ofMarked f) then return [plain]
  let comps := f.splitOnP fun c => c.1 == ('/')
  let (start, comps) := match f with
    | ('/', _) :: _ => (["/"], comps.drop 1)
    | _ => ([""], comps)
  let comps := comps.filter (!·.isEmpty)
  let found ← globWalk comps start
  let found ← found.filterM fun p => host (Host.exists_ ⟨p⟩)
  if found.isEmpty then pure [plain] else pure (found.mergeSort (· ≤ ·))

end Expand

open Expand

/-- The fields of the words of a command, split and matched against file names. -/
def expandFields (sub : Substitute) (ws : List Word) : ShellM (List String) := do
  let ifs := ((← getVar "IFS").getD " \t\n").toList
  let fields ← ws.flatMapM fun w => do
    let ps ← wordPieces sub w
    pure (splitFields ifs ps)
  fields.flatMapM globField

/-- The text of a word, neither split nor matched. -/
def expandText (sub : Substitute) (w : Word) : ShellM String := do
  pure (piecesText (← wordPieces sub w))

/-- The pattern a word stands for, quoted characters standing for themselves. -/
def expandPattern (sub : Substitute) (w : Word) : ShellM (List Glob) := do
  pure (Glob.ofMarked (piecesMarked (← wordPieces sub w)))

end EdgePack.Shell
