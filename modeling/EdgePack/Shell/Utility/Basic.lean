import EdgePack.Shell.Machine
import EdgePack.Text.Utf8

/-!
# What the utilities share

The utilities a script calls are separate programs: each reads its own
options, writes to the descriptors it inherits, and reports a failure on
standard error after its name as it was called. This module holds what they
have in common:

* `Options.split`: options in clusters (`-rf`), with values attached (`-c5`)
  or following (`-c 5`), anywhere among the operands until `--`;
* the two ways file names are quoted in messages, always (`'x'`) or only when
  the name holds characters a shell would read specially;
* `openOperand`: the bytes of an operand, with `-` for the standard input
  and the devices `/dev/null` and `/dev/zero`.
-/

namespace EdgePack.Shell

open ShellM

namespace Utility

/-- Options read from a command line: each letter with its value, and the operands. -/
structure Options where
  flags : List (Char × String) := []
  operands : List String := []

namespace Options

/-- Whether a letter was given. -/
def has (o : Options) (c : Char) : Bool := o.flags.any (·.1 == c)

/-- The last value given with a letter. -/
def value? (o : Options) (c : Char) : Option String :=
  (o.flags.reverse.find? (·.1 == c)).map (·.2)

/-- Reads a cluster of letters after its dash; letters in `valued` take the
    rest of the cluster, or the next argument, as their value. -/
def cluster (valued : List Char) : List Char → List String → Except Char (List (Char × String) × List String)
  | [], rest => .ok ([], rest)
  | c :: cs, rest =>
    if valued.contains c then
      if cs.isEmpty then
        match rest with
        | v :: more => .ok ([(c, v)], more)
        | [] => .error c
      else .ok ([(c, String.ofList cs)], rest)
    else
      match cluster valued cs rest with
      | .ok (fs, more) => .ok ((c, "") :: fs, more)
      | .error e => .error e

/-- Splits arguments into options and operands. A letter outside `known` is
    refused; a valued letter without its value is refused too, as the
    letter's own failure (`Sum.inr`). -/
def split (known valued : List Char) : Nat → Options → List String → Except (Sum Char Char) Options
  | 0, o, _ => .ok o
  | _ + 1, o, [] => .ok { o with operands := o.operands.reverse }
  | fuel + 1, o, a :: rest =>
    if a == "--" then .ok { o with operands := o.operands.reverse ++ rest }
    else if a.startsWith "-" && a.length > 1 && !a.startsWith "--" then
      let cs := (a.drop 1).toString.toList
      match cs.find? (fun c => !known.contains c) with
      | some bad =>
        -- letters before a valued one are all read; a stranger after it is its value
        let before := cs.takeWhile (fun c => !valued.contains c)
        if before.contains bad then .error (.inl bad)
        else
          match cluster valued cs rest with
          | .ok (fs, more) => split known valued fuel { o with flags := o.flags ++ fs } more
          | .error c => .error (.inr c)
      | none =>
        match cluster valued cs rest with
        | .ok (fs, more) => split known valued fuel { o with flags := o.flags ++ fs } more
        | .error c => .error (.inr c)
    else split known valued fuel { o with operands := a :: o.operands } rest

end Options

/-- Whether a character needs no quoting in a file name shown to the user. -/
def isPlainNameChar (c : Char) : Bool :=
  c.isAlphanum || "-_./,:+=@%^".toList.contains c || c.toNat ≥ 128

/-- A name in quotes, always: single quotes, or double quotes when it holds a
    single quote and no character special inside double quotes. -/
def quoteAlways (s : String) : String :=
  if s.toList.contains '\'' then
    if s.toList.any fun c => c == '"' || c == '$' || c == '\\' || c == '\x60' then
      "'" ++ "'\\''".intercalate (s.splitOn "'") ++ "'"
    else "\"" ++ s ++ "\""
  else "'" ++ s ++ "'"

/-- A name in quotes only when it holds a character a shell reads specially. -/
def quoteIfNeeded (s : String) : String :=
  if !s.isEmpty && s.toList.all isPlainNameChar then s else quoteAlways s

/-- The words of an operating-system error, without its number. -/
def errorWords : IoError → String
  | .os n => IoError.osText n
  | e => e.message

/-- A utility's complaint on standard error, after its name. -/
def complainAs (name msg : String) : ShellM Unit :=
  emitText 2 (name ++ ": " ++ msg ++ "\n")

/-- The complaint about an unknown option, and the hint after it. -/
def badOption (name : String) (c : Char) : ShellM Unit := do
  complainAs name ("invalid option -- '" ++ String.singleton c ++ "'")
  emitText 2 ("Try '" ++ name ++ " --help' for more information.\n")

/-- The complaint about an option that needs a value and has none. -/
def missingValue (name : String) (c : Char) : ShellM Unit := do
  complainAs name ("option requires an argument -- '" ++ String.singleton c ++ "'")
  emitText 2 ("Try '" ++ name ++ " --help' for more information.\n")

/-- The complaint about a missing operand. -/
def missingOperand (name : String) : ShellM Unit := do
  complainAs name "missing operand"
  emitText 2 ("Try '" ++ name ++ " --help' for more information.\n")

/-- The bytes of an operand: `-` and `/dev/stdin` read the standard input
    (all of it is taken), `/dev/null` is empty and `/dev/zero` endless. -/
def openOperand (path : String) : ShellM (Except IoError Source) := do
  if path == "-" || path == "/dev/stdin" then
    let src ← input
    setInput (.bytes [])
    pure (.ok src)
  else if path == "/dev/null" then pure (.ok (.bytes []))
  else if path == "/dev/zero" then pure (.ok .zeros)
  else
    match ← host (Host.readBytes ⟨path⟩) with
    | .ok d => pure (.ok (.bytes d.toList))
    | .error e => pure (.error e)

/-- All the bytes of a source; an endless one never ends, and the run goes
    past its time. -/
def drain (src : Source) : ShellM (List UInt8) :=
  match src with
  | .bytes d => pure d
  | .zeros => throw .timeout

/-- Runs a step for each item in order, threading a state from `init`. -/
def foldItems (xs : List α) (init : β) (f : β → α → ShellM β) : ShellM β := xs.foldlM f init

/-- Writes bytes to standard output. -/
def put (bs : List UInt8) : ShellM Unit := emit 1 ⟨bs.toArray⟩

/-- Writes text to standard output. -/
def putText (s : String) : ShellM Unit := emitText 1 s

/-- Bytes split into lines, each with its line end when it has one. -/
def lines (bs : List UInt8) : List (List UInt8) :=
  let rec go : Nat → List UInt8 → List (List UInt8)
    | 0, _ => []
    | _ + 1, [] => []
    | fuel + 1, xs =>
      let line := xs.takeWhile (· != 10)
      let rest := xs.drop line.length
      match rest with
      | _ :: more => (line ++ [10]) :: go fuel more
      | [] => [line]
  go (bs.length + 1) bs

/-- Text of bytes, read leniently. -/
def textOf (bs : List UInt8) : String := Utf8.decodeLossy ⟨bs.toArray⟩

end Utility

end EdgePack.Shell
