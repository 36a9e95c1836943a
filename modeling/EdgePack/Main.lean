import EdgePack.Cli.Run

/-!
# The `kdeploy` executable

The program runs on a host (`EdgePack.Host`): a file tree, a working
directory, a temporary directory and an environment. The executable starts
it with the working directory as it stands on disk (`readSnapshot`), at the
path of the real one, the environment variables the program reads
(`RUST_LOG`, `TMPDIR`) and the arguments, runs the command line
(`EdgePack.Cli.run`), writes the two streams, and brings the working
directory on disk up to date with the tree the run left (`syncTree`): what
the run made or changed is written there, and what it removed is removed.
The temporary directory is dropped at the end.
-/

namespace EdgePack.Cli

/-- What stands under a directory: each path relative to it, with a file's
    bytes, or none for a directory. -/
abbrev Snapshot := List (String × Option ByteArray)

/-- Whether two entries of a snapshot are the same: both directories, or
    files of the same bytes. -/
def sameEntry : Option ByteArray → Option ByteArray → Bool
  | none, none => true
  | some a, some b => a.data == b.data
  | _, _ => false

/-- The snapshot of the tree under a location. -/
def snapshotAt (t : FileTree) (l : Loc) : Snapshot :=
  t.entries.filterMap fun (l', e) =>
    if l.isPrefixOf l' && l'.length > l.length then
      some ("/".intercalate (l'.drop l.length), match e with
        | .dir => none
        | .file d => some d)
    else none

/-- The snapshot of the working directory on disk: every entry below it, a
    directory before what it holds, each file with its bytes. A file that
    cannot be read, and what a link leads to outside the directory, are left
    out. -/
def readSnapshot : IO Snapshot := do
  let dir ← IO.currentDir
  let root := toString dir ++ "/"
  let paths ← dir.walkDir
  paths.toList.filterMapM fun p => do
    let text := toString p
    if !text.startsWith root then pure none
    else
      let rel := String.ofList (text.toList.drop root.length)
      if ← p.isDir then pure (some (rel, none))
      else
        try pure (some (rel, some (← IO.FS.readBinFile p)))
        catch _ => pure none

/-- The host a run starts from: the snapshot under the working directory, an
    empty temporary directory and the environment. -/
def startHost (cwd tmp : Loc) (env : List (String × String)) (files : Snapshot) : Host :=
  let fill : HostM Unit := do
    let base : Path := ⟨Host.locText cwd⟩
    discard <| Host.createDirAll base
    discard <| Host.createDirAll ⟨Host.locText tmp⟩
    for (rel, content) in files do
      match content with
      | none => discard <| Host.createDirAll (base / rel)
      | some b => discard <| Host.writeBytes (base / rel) b
  (fill.run { cwd := cwd, tmp := tmp, env := env }).2

/-- The entries of `after` that are new or changed since `before`, in the
    order they were made. -/
def written (before after : Snapshot) : Snapshot :=
  after.filter fun (rel, c) =>
    match before.find? (·.1 == rel) with
    | some (_, c') => !sameEntry c c'
    | none => true

/-- The entries of `before` that `after` no longer has, the deepest first. -/
def removed (before after : Snapshot) : Snapshot :=
  (before.filter fun (rel, _) => !after.any (·.1 == rel)).reverse

/-- The names of a text path, without empty ones. -/
def locOf (path : String) : Loc := (path.splitOn "/").filter (· != "")

/-- Brings a directory on disk up to date with a run: writes what is new or
    changed, then removes what is gone. A step that fails is skipped. -/
def syncTree (root : String) (before after : Snapshot) : IO Unit := do
  for (rel, c) in written before after do
    let path := root ++ "/" ++ rel
    try
      match c with
      | none => IO.FS.createDirAll path
      | some bytes => IO.FS.writeBinFile path bytes
    catch _ => pure ()
  for (rel, c) in removed before after do
    let path := root ++ "/" ++ rel
    try
      match c with
      | none => IO.FS.removeDirAll path
      | some _ => IO.FS.removeFile path
    catch _ => pure ()

end EdgePack.Cli

open EdgePack in
/-- Runs `kdeploy` on the working directory with the arguments given. -/
def main (args : List String) : IO UInt32 := do
  let root := toString (← IO.currentDir)
  let before ← Cli.readSnapshot
  let tmp := (← IO.getEnv "TMPDIR").getD "/tmp"
  let env := ((← IO.getEnv "RUST_LOG").map fun v => [("RUST_LOG", v)]).getD [] ++ [("TMPDIR", tmp)]
  let host := Cli.startHost (Cli.locOf root) (Cli.locOf tmp) env before
  let (outcome, after) := (Cli.run args).run host
  IO.print outcome.stdout
  IO.eprint outcome.stderr
  Cli.syncTree root before (Cli.snapshotAt after.fs (Cli.locOf root))
  pure outcome.status.toUInt32
